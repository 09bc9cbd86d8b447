import Registrar.Operation.Basic
import Registrar.Proofs.Session.Course

/-!
# Properties of Operations

An operation is a session that may fail. `Operation.Holds` is the property of sessions
taken over: every command has a property, and so has the result, if there is one. An
operation that fails says nothing more, so the rules follow the shape of operations: for
one after another, the second is looked at for results of the first only.

## Main definitions

* `Operation.Holds`: Every command and every result of an operation have a property.

## Theorems

* `Operation.Holds.bind`: One operation after another.
* `Operation.holds_send`, `Operation.holds_fetchOne`: Single commands.
* `Operation.Holds.inTransaction`: An operation in a transaction.
* `Operation.holds_list`, `Operation.holds_createOne` and their like: A listing and the
  operations on single records, by the statements that they execute.
-/

namespace Registrar

namespace Operation

variable {α β : Type} {P : Command → Prop} {Q : α → Prop}

/-- Whatever comes back, every command has the property `P`, and the result the property
    `Q` if the operation does not fail. -/
def Holds (P : Command → Prop) (Q : α → Prop) (operation : Operation α) : Prop :=
  Session.Holds P (fun result => ∀ a, result = .ok a → Q a) operation.run

theorem Holds.bind {R : β → Prop} {operation : Operation α} {next : α → Operation β}
    (h : operation.Holds P Q) (hnext : ∀ a, Q a → (next a).Holds P R) :
    (operation >>= next).Holds P R := by
  refine Session.holds_bind_iff.2 (Session.Holds.mono (fun _ => id) ?_ h)
  intro result hresult
  -- After an error nothing is said, so nothing is to show.
  cases result with
  | ok a => exact hnext a (hresult a rfl)
  | error e => exact fun _ hnone => nomatch hnone

theorem Holds.mono {Q' : α → Prop} {operation : Operation α} (h : operation.Holds P Q)
    (hQ : ∀ a, Q a → Q' a) : operation.Holds P Q' :=
  Session.Holds.mono (fun _ => id) (fun _ hresult a ha => hQ a (hresult a ha)) h

theorem Holds.map {R : β → Prop} {operation : Operation α} {f : α → β}
    (h : operation.Holds P Q) (hf : ∀ a, Q a → R (f a)) : (f <$> operation).Holds P R := by
  refine Session.holds_bind_iff.2 (Session.Holds.mono (fun _ => id) ?_ h)
  intro result hresult
  cases result with
  | ok a =>
      intro b hb
      cases hb
      exact hf a (hresult a rfl)
  | error e => exact fun _ hnone => nomatch hnone

theorem holds_pure {a : α} (h : Q a) : Holds P Q (pure a) := by
  intro a' ha
  cases ha
  exact h

theorem holds_fail (error : OperationError) : (fail error : Operation α).Holds P Q :=
  fun _ h => nomatch h

theorem holds_ofExcept {result : Except OperationError α} (h : ∀ a, result = .ok a → Q a) :
    (ofExcept result).Holds P Q :=
  h

theorem holds_ofQuery {result : Except QueryError α} (h : ∀ a, result = .ok a → Q a) :
    (ofQuery result).Holds P Q := by
  refine holds_ofExcept fun a ha => ?_
  cases result with
  | ok a' =>
      cases ha
      exact h a rfl
  | error e => exact nomatch ha

/-- Nothing is known of what a reply holds. -/
theorem holds_ofReply (result : Except DatabaseError α) :
    (ofReply result).Holds P fun _ => True :=
  fun _ _ => trivial

theorem holds_send {command : Command} (h : P command) :
    (send command).Holds P fun _ => True :=
  ⟨h, fun _ _ _ => trivial⟩

theorem holds_tally (counter : Counter) : (tally counter).Holds P fun _ => True :=
  fun _ _ => trivial

theorem holds_fetchOne {sql : Sql.Text} (h : P (.execute sql)) :
    (fetchOne sql).Holds P fun _ => True := by
  refine (holds_send h).bind fun rows _ => ?_
  cases rows.first with
  | some cell => exact holds_pure trivial
  | none => exact holds_fail _

theorem holds_rollBack (h : P .rollback) (error : OperationError) :
    (rollBack error : Operation α).Holds P Q :=
  ⟨h, fun _ _ hnone => nomatch hnone⟩

theorem holds_sendOrRollBack {command : Command} (h : P command) (hrollback : P .rollback) :
    (sendOrRollBack command).Holds P fun _ => True := by
  refine ⟨h, fun reply => ?_⟩
  cases reply with
  | ok rows => exact fun _ _ => trivial
  | error e => exact holds_rollBack hrollback _

theorem Holds.tryCatch {body : Operation α} {handler : OperationError → Operation α}
    (h : body.Holds P Q) (hhandler : ∀ error, (handler error).Holds P Q) :
    (tryCatch body handler).Holds P Q := by
  refine Session.holds_bind_iff.2 (Session.Holds.mono (fun _ => id) ?_ h)
  intro result hresult
  cases result with
  | ok a => exact hresult
  | error e => exact hhandler e

/-- Around an operation a transaction says four more things and changes no result. -/
theorem Holds.inTransaction {body : Operation α} (h : body.Holds P Q) (hconnect : P .connect)
    (hbegin : P .begin) (hcommit : P .commit) (hrollback : P .rollback) :
    (inTransaction body).Holds P Q := by
  refine (holds_send hconnect).bind fun _ _ => ?_
  refine (holds_sendOrRollBack hbegin hrollback).bind fun _ _ => ?_
  refine (h.tryCatch fun error => holds_rollBack hrollback error).bind fun a ha => ?_
  exact (holds_sendOrRollBack hcommit hrollback).bind fun _ _ => holds_pure ha

section Operations

variable {P : Command → Prop} {catalog : Catalog} {collection : String}

theorem holds_list {plan : ListingPlan} (hrows : P (.execute plan.rows.text))
    (hcount : P (.execute plan.count.text)) : (list plan).Holds P fun _ => True := by
  refine (holds_fetchOne hrows).bind fun page _ => ?_
  refine (holds_ofReply _).bind fun rows _ => ?_
  refine (holds_fetchOne hcount).bind fun count _ => ?_
  refine (holds_ofReply _).bind fun total _ => ?_
  exact (holds_tally _).bind fun _ _ => holds_pure trivial

/-- What is said to look for a record. -/
theorem holds_require {id : Int} (hselect : ∀ select,
    Record.select catalog collection id = .ok select → P (.execute select.text)) :
    (require catalog collection id).Holds P fun _ => True := by
  have hfind : (find catalog collection id).Holds P fun _ => True := by
    refine (holds_ofQuery hselect).bind fun select hsaid => ?_
    refine (holds_send hsaid).bind fun rows _ => ?_
    cases rows.first with
    | some cell => exact (holds_ofReply _).bind fun document _ => holds_pure trivial
    | none => exact holds_pure trivial
  refine hfind.bind fun found _ => ?_
  cases found with
  | some document => exact holds_pure trivial
  | none => exact holds_fail _

theorem holds_getOne {id : Int} (hselect : ∀ select,
    Record.select catalog collection id = .ok select → P (.execute select.text)) :
    (getOne catalog collection id).Holds P fun _ => True :=
  (holds_require hselect).bind fun _ _ => (holds_tally _).bind fun _ _ => holds_pure trivial

theorem holds_createOne {payload : Payload}
    (hinsert : ∀ record insert, recordFor catalog collection payload = .ok record →
      Record.insert catalog collection record = .ok insert →
      P (.execute (Sql.Statement.insert insert).text))
    (hselect : ∀ id select, Record.select catalog collection id = .ok select →
      P (.execute select.text)) :
    (createOne catalog collection payload).Holds P fun _ => True := by
  refine (holds_ofExcept fun record hrecord => hrecord).bind fun record hrecord => ?_
  refine (holds_ofQuery fun insert => hinsert record insert hrecord).bind fun insert hsaid => ?_
  refine (holds_fetchOne hsaid).bind fun key _ => ?_
  refine (holds_ofReply _).bind fun id _ => ?_
  exact holds_getOne (hselect id)

theorem holds_updateOne {id : Int} {payload : Payload}
    (hselect : ∀ select, Record.select catalog collection id = .ok select →
      P (.execute select.text))
    (hupdate : ∀ record update, recordFor catalog collection payload = .ok record →
      Record.update? catalog collection id record = .ok (some update) →
      P (.execute (Sql.Statement.update update).text)) :
    (updateOne catalog collection id payload).Holds P fun _ => True := by
  refine (holds_ofExcept fun record hrecord => hrecord).bind fun record hrecord => ?_
  refine (holds_require hselect).bind fun _ _ => ?_
  refine (holds_ofQuery fun found hfound => hfound).bind fun found hfound => ?_
  -- The record is read back whether or not there was something to set.
  cases found with
  | some update =>
      exact (holds_send (hupdate record update hrecord hfound)).bind fun _ _ =>
        holds_getOne hselect
  | none => exact holds_getOne hselect

theorem holds_deleteOne {id : Int}
    (hselect : ∀ select, Record.select catalog collection id = .ok select →
      P (.execute select.text))
    (hdelete : ∀ delete, Record.delete catalog collection id = .ok delete →
      P (.execute (Sql.Statement.delete delete).text)) :
    (deleteOne catalog collection id).Holds P fun _ => True := by
  refine (holds_require hselect).bind fun _ _ => ?_
  refine (holds_ofQuery hdelete).bind fun delete hsaid => ?_
  exact (holds_send hsaid).bind fun _ _ => holds_tally _

theorem holds_deleteMatching {values : List (String × Int)}
    (hdelete : ∀ delete, Record.deleteWhere catalog collection values = .ok delete →
      P (.execute (Sql.Statement.delete delete).text)) :
    (deleteMatching catalog collection values).Holds P fun _ => True := by
  refine (holds_ofQuery hdelete).bind fun delete hsaid => ?_
  refine (holds_send hsaid).bind fun rows _ => ?_
  split
  · exact holds_fail _
  · exact holds_tally _

end Operations

end Operation

end Registrar
