import Registrar.Proofs.Operation.Blame

/-!
# Operations on What Was Accepted

Errors are of two sorts. Some are about what was asked for: it does not translate, or it
breaks a rule. The others are about what the database holds and how it fares. An operation
looks again at what it is given, while the database is already waiting, so it could still
end in an error of the first sort. With what was accepted beforehand it does not, because
then all its errors are due to replies.

## Main definitions

* `OperationError.IsRefusal`: An error is about what was asked for.
* `Operation.Accepted`: No error of an operation is.

## Theorems

* `Accounts.not_isRefusal`: No reply leads to such an error.
* `Operation.Accepted.bind`: One operation after another.
* `Operation.Blames.accepted`: Operations whose errors are due to replies.
-/

namespace Registrar

/-- An error is about what was asked for, whatever the database holds. -/
def OperationError.IsRefusal : OperationError → Prop
  | query _ | validationFailure _ => True
  | notFound _ | constraintViolation _ | database _ | decode _ => False

/-- A failed command is not the fault of what was asked for. -/
theorem OperationError.not_isRefusal_ofDatabase (e : DatabaseError) :
    ¬(ofDatabase e).IsRefusal := by
  cases e <;> exact id

/-- No reply leads to an error that is about what was asked for. -/
theorem Accounts.not_isRefusal {idNeeded : Prop} {exchange : Exchange} {e : OperationError}
    (h : Accounts idNeeded exchange e) : ¬e.IsRefusal := by
  cases h with
  | failed command e => exact OperationError.not_isRefusal_ofDatabase e
  | illegible => exact OperationError.not_isRefusal_ofDatabase _
  | missing | absent | unaffected | anonymous => exact id

namespace Operation

variable {α β : Type}

/-- Whatever comes back, no error is about what was asked for. -/
def Accepted (operation : Operation α) : Prop :=
  Session.Holds (fun _ => True) (fun result => ∀ e, result = .error e → ¬e.IsRefusal)
    operation.run

theorem Accepted.bind {operation : Operation α} {next : α → Operation β}
    (h : operation.Accepted) (hnext : ∀ a, (next a).Accepted) : (operation >>= next).Accepted := by
  refine Session.holds_bind_iff.2 (Session.Holds.mono (fun _ => id) ?_ h)
  intro result hresult
  cases result with
  | ok a => exact hnext a
  | error e =>
      -- The second operation does not take place, and the error stays what it is.
      intro e' he
      cases he
      exact hresult e rfl

theorem accepted_pure (a : α) : Accepted (pure a) :=
  fun _ h => nomatch h

theorem accepted_fail {error : OperationError} (h : ¬error.IsRefusal) :
    (fail error : Operation α).Accepted := by
  intro e he
  cases he
  exact h

theorem accepted_send (command : Command) : (send command).Accepted := by
  refine ⟨trivial, fun reply => ?_⟩
  cases reply with
  | ok rows => exact accepted_pure rows
  | error e => exact accepted_fail (OperationError.not_isRefusal_ofDatabase e)

/-- An operation whose errors are all due to replies does not refuse what it is given. -/
theorem Blames.accepted {idNeeded : Prop} {Q : Exchange → α → Prop} {operation : Operation α}
    {last : Exchange} (h : operation.Blames idNeeded Q last) : operation.Accepted := by
  refine Session.Ends.holds (fun last result hresult e he => ?_) h
  rw [he] at hresult
  exact hresult.not_isRefusal

end Operation

end Registrar
