import Registrar.Proofs.Operation.Holds

/-!
# Hopeful Operations

An operation should stop as soon as it cannot succeed any more. Then it never asks the
database for anything in vain, and a reply that spoils it is the last one but for the
rollback. `Operation.Hopeful` says so for the tree that an operation is: whenever
something is asked, some replies still lead to success, and a failed command does not.

Success here means a result with a property, which the caller chooses: what comes later
can only succeed after certain results. So the property of an operation is proved together
with that of what follows, and `Operation.Hopeful.bind` puts the two together.

## Main definitions

* `Operation.Yields`: A result that has a property.
* `Operation.Earnest`: Nothing is asked in vain.
* `Operation.Hopeful`: Nor is the operation itself in vain, on a condition.

## Theorems

* `Operation.Hopeful.bind`: One hopeful operation after another.
* `Operation.Earnest.exists_course`: What was asked could have ended in success.
* `Operation.Earnest.error_of_mem`: After a failed command it could not.
* `Operation.Hopeful.exists_last`: An operation fails by the reply to its last command.
-/

namespace Registrar

namespace Operation

open Session

variable {α β : Type}

/-- There is a result and it has a property. -/
def Yields (Q : α → Prop) (result : Except OperationError α) : Prop :=
  ∃ a, result = .ok a ∧ Q a

/-- Whatever comes back, there will be no result. -/
def Fails (session : Session (Except OperationError α)) : Prop :=
  session.Holds (fun _ => True) fun result => ∃ e, result = .error e

/-- Nothing is asked in vain: each time some replies lead to a result with the property
    `Q`, but no failure does. -/
def Earnest (Q : α → Prop) : Session (Except OperationError α) → Prop
  | .done _ => True
  | .ask _ next => (∃ reply, (next reply).Reaches (Yields Q)) ∧ (∀ e, Fails (next (.error e))) ∧
      ∀ reply, Earnest Q (next reply)
  | .count _ next => Earnest Q next

/-- Nothing is asked in vain, and on the condition `R` the operation can succeed. -/
structure Hopeful (R : Prop) (Q : α → Prop) (operation : Operation α) : Prop where
  reaches : R → operation.run.Reaches (Yields Q)
  earnest : Earnest Q operation.run

/-- As long as something was asked, other replies from there on lead to success. -/
theorem Earnest.exists_course {Q : α → Prop} {session : Session (Except OperationError α)}
    (h : Earnest Q session) {before after : List Exchange} {exchange : Exchange}
    {counters : List Counter} {result : Except OperationError α}
    (hcourse : Course session (before ++ exchange :: after) counters result) :
    ∃ after' counters' result', Course session (before ++ after') counters' result' ∧
      Yields Q result' := by
  induction session generalizing before counters with
  | done a =>
      cases before <;> cases hcourse
  | ask command next ih =>
      -- The course is left at the next command, or later on inside the tree.
      cases before with
      | nil =>
          rcases h.1 with ⟨reply, hreply⟩
          rcases hreply.exists_course with ⟨exchanges, counters', result', hrest, hresult⟩
          exact ⟨_, _, result', .ask hrest, hresult⟩
      | cons first before =>
          cases hcourse with
          | ask hrest =>
              rcases ih _ (h.2.2 _) hrest with ⟨after', counters', result', hrest', hresult⟩
              exact ⟨after', counters', result', .ask hrest', hresult⟩
  | count counter next ih =>
      cases hcourse with
      | count hrest =>
          rcases ih h hrest with ⟨after', counters', result', hrest', hresult⟩
          exact ⟨after', _, result', .count hrest', hresult⟩

/-- With a failed command on the way there is no result. -/
theorem Earnest.error_of_mem {Q : α → Prop} {session : Session (Except OperationError α)}
    (h : Earnest Q session) {exchanges : List Exchange} {counters : List Counter}
    {result : Except OperationError α} (hcourse : Course session exchanges counters result)
    {command : Command} {e : DatabaseError} (hmem : (command, .error e) ∈ exchanges) :
    ∃ error, result = .error error := by
  induction hcourse with
  | done result => exact nomatch hmem
  | ask rest ih =>
      -- Either this command failed, which spoils all that follows, or a later one did.
      rcases List.mem_cons.1 hmem with hfirst | hmem
      · cases hfirst
        exact ((h.2.1 e).of_course rest).2
      · exact ih (h.2.2 _) hmem
  | count rest ih => exact ih h hmem

variable {R : Prop} {Q : α → Prop}

theorem Fails.bind {session : Session (Except OperationError α)} (h : Fails session)
    {next : Except OperationError α → Session (Except OperationError β)}
    (hnext : ∀ e, Fails (next (.error e))) : Fails (session.bind next) := by
  refine holds_bind_iff.2 (Session.Holds.mono (fun _ => id) (fun result hresult => ?_) h)
  rcases hresult with ⟨e, rfl⟩
  exact hnext e

theorem Earnest.bind {S : α → Prop} {Q : β → Prop} {session : Session (Except OperationError α)}
    {next : Except OperationError α → Session (Except OperationError β)}
    (h : Earnest S session) (hreaches : ∀ a, S a → (next (.ok a)).Reaches (Yields Q))
    (hfails : ∀ e, Fails (next (.error e))) (hearnest : ∀ result, Earnest Q (next result)) :
    Earnest Q (session.bind next) := by
  induction session with
  | done result => exact hearnest result
  | ask command rest ih =>
      rcases h.1 with ⟨reply, hreply⟩
      -- The reply that leads to success is the one that did so before.
      refine ⟨⟨reply, hreply.bind fun result hresult => ?_⟩, fun e => (h.2.1 e).bind hfails,
        fun reply => ih reply (h.2.2 reply)⟩
      rcases hresult with ⟨a, rfl, ha⟩
      exact hreaches a ha
  | count counter rest ih => exact ih h

/-- What follows an operation has to be hopeful on the condition that the operation
    ended in one of the results that it can reach. -/
theorem Hopeful.bind {S : α → Prop} {Q : β → Prop} {operation : Operation α}
    {next : α → Operation β} (h : operation.Hopeful R S)
    (hnext : ∀ a, (next a).Hopeful (S a) Q) : (operation >>= next).Hopeful R Q := by
  constructor
  · intro hR
    refine (h.reaches hR).bind fun result hresult => ?_
    rcases hresult with ⟨a, rfl, ha⟩
    exact (hnext a).reaches ha
  · refine h.earnest.bind (fun a ha => (hnext a).reaches ha) (fun e => ⟨e, rfl⟩) fun result => ?_
    cases result with
    | ok a => exact (hnext a).earnest
    | error e => trivial

theorem Hopeful.map {S : β → Prop} {f : α → β} {operation : Operation α}
    (h : operation.Hopeful R Q) (hf : ∀ a, Q a → S (f a)) : (f <$> operation).Hopeful R S := by
  constructor
  · intro hR
    refine (h.reaches hR).bind fun result hresult => ?_
    rcases hresult with ⟨a, rfl, ha⟩
    exact ⟨f a, rfl, hf a ha⟩
  · refine h.earnest.bind (fun a ha => ⟨f a, rfl, hf a ha⟩) (fun e => ⟨e, rfl⟩) fun result => ?_
    cases result <;> trivial

theorem Hopeful.of_imp {R' : Prop} {operation : Operation α} (h : operation.Hopeful R Q)
    (hR : R' → R) : operation.Hopeful R' Q :=
  ⟨fun hR' => h.reaches (hR hR'), h.earnest⟩

theorem hopeful_ofExcept {result : Except OperationError α} (h : R → Yields Q result) :
    (ofExcept result).Hopeful R Q :=
  ⟨h, trivial⟩

theorem hopeful_pure {a : α} (h : R → Q a) : Hopeful R Q (pure a) :=
  ⟨fun hR => ⟨a, rfl, h hR⟩, trivial⟩

theorem hopeful_fail {error : OperationError} (h : ¬R) : (fail error : Operation α).Hopeful R Q :=
  ⟨fun hR => absurd hR h, trivial⟩

theorem hopeful_ofQuery {result : Except QueryError α} (h : R → ∃ a, result = .ok a ∧ Q a) :
    (ofQuery result).Hopeful R Q := by
  refine hopeful_ofExcept fun hR => ?_
  rcases h hR with ⟨a, rfl, ha⟩
  exact ⟨a, rfl, ha⟩

theorem hopeful_ofReply {result : Except DatabaseError α} (h : R → ∃ a, result = .ok a ∧ Q a) :
    (ofReply result).Hopeful R Q := by
  refine hopeful_ofExcept fun hR => ?_
  rcases h hR with ⟨a, rfl, ha⟩
  exact ⟨a, rfl, ha⟩

theorem hopeful_send (command : Command) (rows : Rows) :
    (send command).Hopeful R (· = rows) := by
  have hreaches : ∃ reply : Reply, Yields (· = rows) (reply.mapError OperationError.ofDatabase) :=
    ⟨.ok rows, rows, rfl, rfl⟩
  exact ⟨fun _ => hreaches, hreaches, fun e => ⟨_, rfl⟩, fun _ => trivial⟩

theorem hopeful_tally {counter : Counter} {Q : Unit → Prop} (h : R → Q ()) :
    (tally counter).Hopeful R Q :=
  ⟨fun hR => ⟨(), rfl, h hR⟩, trivial⟩

/-- An operation that is counted ends in what it had already. -/
theorem hopeful_tally_pure {counter : Counter} {a : α} (h : R → Q a) :
    (do
      tally counter
      pure a : Operation α).Hopeful R Q :=
  ⟨fun hR => ⟨a, rfl, h hR⟩, trivial⟩

/-- Any cell may come back. -/
theorem hopeful_fetchOne (sql : Sql.Text) (cell : Cell) :
    (fetchOne sql).Hopeful R (· = cell) := by
  refine (hopeful_send _ ⟨some cell, 0⟩).bind fun rows => ?_
  cases hfirst : rows.first with
  | some found =>
      refine hopeful_pure fun hrows => ?_
      rw [hrows] at hfirst
      exact (Option.some.inj hfirst).symm
  | none =>
      refine hopeful_fail fun hrows => ?_
      rw [hrows] at hfirst
      exact nomatch hfirst

end Operation

end Registrar
