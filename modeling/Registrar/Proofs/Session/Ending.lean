import Registrar.Proofs.Session.Course

/-!
# The Last Reply

A conversation goes on until some reply ends it, and then at most takes back what was done.
So the outcome is due to the last exchange that is no rollback, and what is to be shown of
the outcome is a relation between that exchange and the result.

`Session.Ends` says by recursion on the tree that the last exchange and the result are
related, given the exchange before the conversation began. Of one conversation after another
the second begins with the exchange in which the first ended, so a relation is carried
through from one to the next.

## Main definitions

* `Exchange.isRollback`: What was done is taken back.
* `ending`: The exchange that ended a conversation.
* `Session.Ends`: The last exchange and the result are related.

## Theorems

* `ending_append`: Rollbacks after the exchange that ended a conversation do not count.
* `Session.ends_bind_iff`: One conversation after another.
* `Session.Ends.of_course`: The relation holds along every course.
-/

namespace Registrar

/-- What was done is taken back. -/
def Exchange.isRollback (exchange : Exchange) : Bool :=
  match exchange.1 with
  | .rollback => true
  | _ => false

/-- The exchange that ended a conversation: the last one, but for rollbacks. -/
def ending (exchanges : List Exchange) : Option Exchange :=
  (exchanges.filter fun exchange => !exchange.isRollback).getLast?

theorem Exchange.isRollback_iff {exchange : Exchange} :
    exchange.isRollback ↔ exchange.1 = .rollback := by
  rcases exchange with ⟨command, reply⟩
  cases command with
  | rollback => exact iff_of_true rfl rfl
  | connect | begin | commit | execute => exact iff_of_false Bool.false_ne_true nofun

/-- Only rollbacks come after the exchange that ended a conversation. -/
theorem ending_append (before : List Exchange) {exchange : Exchange} {after : List Exchange}
    (h : exchange.1 ≠ .rollback) (hafter : ∀ other ∈ after, other.1 = .rollback) :
    ending (before ++ exchange :: after) = some exchange := by
  have hnone : after.filter (fun exchange => !exchange.isRollback) = [] := by
    refine List.filter_eq_nil_iff.2 fun other hmem => ?_
    rw [Exchange.isRollback_iff.2 (hafter other hmem)]
    exact Bool.false_ne_true
  have hkept : (!exchange.isRollback) = true := by
    rw [Bool.not_eq_true', Bool.eq_false_iff, ne_eq, Exchange.isRollback_iff]
    exact h
  rw [ending, List.filter_append, List.filter_cons, if_pos hkept, hnone]
  exact List.getLast?_concat

theorem ending_concat (exchanges : List Exchange) {exchange : Exchange}
    (h : exchange.1 ≠ .rollback) : ending (exchanges ++ [exchange]) = some exchange :=
  ending_append exchanges h (List.forall_mem_nil _)

theorem ending_rolledBack (exchanges : List Exchange) (reply : Reply) :
    ending (exchanges ++ [(.rollback, reply)]) = ending exchanges := by
  rw [ending, List.filter_append]
  exact congrArg List.getLast? (List.append_nil _)

theorem mem_of_ending {exchanges : List Exchange} {exchange : Exchange}
    (h : ending exchanges = some exchange) : exchange ∈ exchanges :=
  (List.mem_filter.1 (List.mem_of_getLast? h)).1

namespace Session

variable {α β : Type}

/-- Whatever comes back, the last exchange and the result are related, if a certain exchange
    was the last before the conversation began. -/
def Ends (R : Exchange → α → Prop) : Session α → Exchange → Prop
  | done result, last => R last result
  | ask command next, _ => ∀ reply, (next reply).Ends R (command, reply)
  | count _ next, last => next.Ends R last

/-- The second conversation begins with the exchange in which the first one ended. -/
theorem ends_bind_iff {R : Exchange → β → Prop} {session : Session α} {next : α → Session β}
    {last : Exchange} : (session.bind next).Ends R last ↔
      session.Ends (fun last a => (next a).Ends R last) last := by
  induction session generalizing last with
  | done result => exact Iff.rfl
  | ask command rest ih => exact forall_congr' fun reply => ih reply
  | count counter rest ih => exact ih

theorem Ends.mono {R R' : Exchange → α → Prop} (hR : ∀ last a, R last a → R' last a)
    {session : Session α} {last : Exchange} (h : session.Ends R last) : session.Ends R' last := by
  induction session generalizing last with
  | done result => exact hR last result h
  | ask command rest ih => exact fun reply => ih reply (h reply)
  | count counter rest ih => exact ih h

/-- What follows for the result, whatever the last exchange was. -/
theorem Ends.holds {R : Exchange → α → Prop} {Q : α → Prop} (hR : ∀ last a, R last a → Q a)
    {session : Session α} {last : Exchange} (h : session.Ends R last) :
    session.Holds (fun _ => True) Q := by
  induction session generalizing last with
  | done result => exact hR last result h
  | ask command rest ih => exact ⟨trivial, fun reply => ih reply (h reply)⟩
  | count counter rest ih => exact ih h

/-- The relation holds along every course. -/
theorem Ends.of_course {R : Exchange → α → Prop} {session : Session α} {last : Exchange}
    (h : session.Ends R last) {exchanges : List Exchange} {counters : List Counter} {result : α}
    (hcourse : Course session exchanges counters result) :
    R (exchanges.getLastD last) result := by
  -- With every reply another exchange becomes the last one.
  induction hcourse generalizing last with
  | done result => exact h
  | @ask command _ reply rest _ _ _ ih =>
      have hrest := ih (h reply)
      rw [← List.getLastD_cons (a := last)] at hrest
      exact hrest
  | count rest ih => exact ih h

end Session

end Registrar
