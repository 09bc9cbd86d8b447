import Registrar.Proofs.Operation.Removal
import Registrar.Proofs.Operation.Success
import Registrar.Proofs.Record.Place

/-!
# Courses of Single Records

To get a record is to look for it. To create one is to insert it and to get it by the id that
came back, and to change one is to look for it, to send the update, if there is anything to
set, and to get it then. So the last part of a creation and of a change is word for word what
getting the record would be, which is how they are written here: `createOne_eq` and
`updateOne_eq` say that both end in `getOne`.

For each of these operations a relation lists what can happen, whatever the catalog, the
payload and the replies are. Removing a record is in `Operation.RemovalCourse`, given the two
statements that it takes; what is added here are the catalogs that have not both of them.

## Main definitions

* `Operation.ReadingCourse`, `Operation.CreationCourse`, `Operation.ChangeCourse`: To get, to
  create and to change a record take a course.
* `Operation.Creates`: The exchanges of a creation that succeeds.

## Theorems

* `Operation.course_require_bind_iff`: What follows the search for a record.
* `Operation.course_getOne_iff`, `course_createOne_iff`, `course_updateOne_iff`: These are the
  courses of the operations.
* `Operation.course_createOne_ok_iff`: When a creation succeeds.
* `Operation.course_deleteOne_cases`: The courses of a removal, whatever the catalog.
-/

namespace Registrar

namespace Operation

open Session

variable {catalog : Catalog} {collection : String} {id : Int} {payload : Payload}
  {exchanges : List Exchange} {counters : List Counter}

/-- A payload that becomes a record is for a collection of the catalog. -/
theorem find_of_recordFor {record : Record}
    (h : recordFor catalog collection payload = .ok record) :
    ∃ listed, catalog.find collection = .ok listed ∧
      payload.record listed.table = .ok record := by
  unfold recordFor at h
  split at h
  · rename_i listed hlisted
    exact ⟨listed, hlisted, h⟩
  · cases h

/-- The record that may always come back is found, whatever it is looked for as. -/
theorem recordOf_sampleText (name : String) (affected : Nat) :
    recordOf name (.ok ⟨some (.json sampleText), affected⟩) = .ok sample := by
  simp only [recordOf, document?_sampleText]
  rfl

/-- To get a record takes a course: the search for it, if the collection is in the catalog. -/
inductive ReadingCourse (catalog : Catalog) (collection : String) (id : Int) :
    List Exchange → List Counter → Except OperationError Json.Document → Prop
  /-- There is no such collection. -/
  | unlisted {e : QueryError} (h : Record.select catalog collection id = .error e) :
      ReadingCourse catalog collection id [] [] (.error (.query e))
  /-- There is no such record, or none that can be read. -/
  | missing {select : Sql.Select} (hselect : Record.select catalog collection id = .ok select)
      {reply : Reply} {e : OperationError}
      (h : recordOf (recordName collection id) reply = .error e) :
      ReadingCourse catalog collection id [(.execute select.text, reply)] [] (.error e)
  /-- There is one. -/
  | read {select : Sql.Select} (hselect : Record.select catalog collection id = .ok select)
      {found : Reply} {document : Json.Document}
      (h : recordOf (recordName collection id) found = .ok document) :
      ReadingCourse catalog collection id [(.execute select.text, found)] [.recordOperations]
        (.ok document)

/-- What follows the search for a record takes its course if the record is there. -/
theorem course_require_bind_iff {α : Type} {next : Json.Document → Operation α}
    {result : Except OperationError α} :
    Course (require catalog collection id >>= next).run exchanges counters result ↔
      (∃ e, ReadingCourse catalog collection id exchanges counters (.error e) ∧
        result = .error e) ∨
      ∃ select found document rest, Record.select catalog collection id = .ok select ∧
        recordOf (recordName collection id) found = .ok document ∧
        exchanges = (.execute select.text, found) :: rest ∧
        Course (next document).run rest counters result := by
  -- Without a statement the search is given up at once. With one the reply decides.
  cases hselect : Record.select catalog collection id with
  | error e =>
      have hfail : require catalog collection id = fail (.query e) := by
        unfold require find
        rw [hselect]
        rfl
      rw [hfail]
      constructor
      · intro h
        rcases course_done_iff.1 h with ⟨rfl, rfl, rfl⟩
        exact Or.inl ⟨_, .unlisted hselect, rfl⟩
      · rintro (⟨_, h, rfl⟩ | ⟨_, _, _, _, hnone, _⟩)
        · cases h with
          | unlisted h =>
              cases hselect.symm.trans h
              exact .done _
          | missing h => cases hselect.symm.trans h
        · cases hnone
  | ok select =>
      rw [require_eq_query hselect, course_query_bind_iff]
      constructor
      · rintro ⟨reply, rest, rfl, ⟨e, hread, rfl, rfl, rfl⟩ | ⟨document, hread, h⟩⟩
        · exact Or.inl ⟨e, .missing hselect hread, rfl⟩
        · exact Or.inr ⟨select, reply, document, rest, rfl, hread, rfl, h⟩
      · rintro (⟨e, h, rfl⟩ | ⟨_, found, document, rest, hsame, hread, rfl, h⟩)
        · cases h with
          | unlisted h => cases hselect.symm.trans h
          | missing hsame hread =>
              cases hselect.symm.trans hsame
              exact ⟨_, [], rfl, Or.inl ⟨e, hread, rfl, rfl, rfl⟩⟩
        · cases hsame
          exact ⟨found, rest, rfl, Or.inr ⟨document, hread, h⟩⟩

/-- These are the courses of getting a record. -/
theorem course_getOne_iff {result : Except OperationError Json.Document} :
    Course (getOne catalog collection id).run exchanges counters result ↔
      ReadingCourse catalog collection id exchanges counters result := by
  unfold getOne
  simp only [course_require_bind_iff, course_tally_pure_iff]
  constructor
  · rintro (⟨e, h, rfl⟩ | ⟨select, found, document, _, hselect, hread, rfl, rfl, rfl, rfl⟩)
    · exact h
    · exact .read hselect hread
  · intro h
    cases h with
    | unlisted h => exact Or.inl ⟨_, .unlisted h, rfl⟩
    | missing hselect h => exact Or.inl ⟨_, .missing hselect h, rfl⟩
    | read hselect h => exact Or.inr ⟨_, _, _, [], hselect, h, rfl, rfl, rfl, rfl⟩

/-- The creation of a record takes a course. -/
inductive CreationCourse (catalog : Catalog) (collection : String) (payload : Payload) :
    List Exchange → List Counter → Except OperationError Json.Document → Prop
  /-- The payload becomes no record. -/
  | refused {e : OperationError} (h : recordFor catalog collection payload = .error e) :
      CreationCourse catalog collection payload [] [] (.error e)
  /-- The record is not inserted, or its id does not come back. -/
  | unwritten {record : Record} {insert : Sql.Insert}
      (hrecord : recordFor catalog collection payload = .ok record)
      (hinsert : Record.insert catalog collection record = .ok insert) {reply : Reply}
      {e : OperationError} (h : integerOf reply = .error e) :
      CreationCourse catalog collection payload
        [(.execute (Sql.Statement.insert insert).text, reply)] [] (.error e)
  /-- It is inserted, and got by the id that came back. -/
  | written {record : Record} {insert : Sql.Insert}
      (hrecord : recordFor catalog collection payload = .ok record)
      (hinsert : Record.insert catalog collection record = .ok insert) {inserted : Reply}
      {id : Int} (hid : integerOf inserted = .ok id) {exchanges : List Exchange}
      {counters : List Counter} {result : Except OperationError Json.Document}
      (h : ReadingCourse catalog collection id exchanges counters result) :
      CreationCourse catalog collection payload
        ((.execute (Sql.Statement.insert insert).text, inserted) :: exchanges) counters result

theorem createOne_eq : createOne catalog collection payload = (do
    let record ← ofExcept (recordFor catalog collection payload)
    let insert ← ofQuery (Record.insert catalog collection record)
    let id ← query (Sql.Statement.insert insert).text integerOf
    getOne catalog collection id) := by
  unfold createOne
  simp only [fetchOne_eq_query, query_bind_ofReply]
  rfl

/-- These are the courses of a creation. -/
theorem course_createOne_iff {result : Except OperationError Json.Document} :
    Course (createOne catalog collection payload).run exchanges counters result ↔
      CreationCourse catalog collection payload exchanges counters result := by
  rw [createOne_eq]
  simp only [course_ofExcept_bind_iff, course_ofQuery_bind_iff, course_query_bind_iff,
    course_getOne_iff]
  constructor
  · rintro (⟨e, hrecord, rfl, rfl, rfl⟩ | ⟨record, hrecord, ⟨e, hinsert, -⟩ | ⟨insert, hinsert,
      reply, rest, rfl, ⟨e, hid, rfl, rfl, rfl⟩ | ⟨id, hid, h⟩⟩⟩)
    · exact .refused hrecord
    · -- A record is for a collection of the catalog, so there is an insertion for it.
      rcases find_of_recordFor hrecord with ⟨listed, hlisted, -⟩
      rcases Record.exists_insert hlisted record with ⟨insert, hsome⟩
      cases hinsert.symm.trans hsome
    · exact .unwritten hrecord hinsert hid
    · exact .written hrecord hinsert hid h
  · intro h
    cases h with
    | refused h => exact Or.inl ⟨_, h, rfl, rfl, rfl⟩
    | unwritten hrecord hinsert h =>
        exact Or.inr ⟨_, hrecord, Or.inr ⟨_, hinsert, _, [], rfl, Or.inl ⟨_, h, rfl, rfl, rfl⟩⟩⟩
    | written hrecord hinsert hid h =>
        exact Or.inr ⟨_, hrecord, Or.inr ⟨_, hinsert, _, _, rfl, Or.inr ⟨_, hid, h⟩⟩⟩

/-- The exchanges of a creation that succeeds: the record was inserted, and the one with the id
    that came back was found. -/
def Creates (catalog : Catalog) (collection : String) (record : Record)
    (document : Json.Document) (exchanges : List Exchange) : Prop :=
  ∃ insert inserted id select found, Record.insert catalog collection record = .ok insert ∧
    integerOf inserted = .ok id ∧ Record.select catalog collection id = .ok select ∧
    recordOf (recordName collection id) found = .ok document ∧
    exchanges = [(.execute (Sql.Statement.insert insert).text, inserted),
      (.execute select.text, found)]

/-- The change of a record takes a course. -/
inductive ChangeCourse (catalog : Catalog) (collection : String) (id : Int) (payload : Payload) :
    List Exchange → List Counter → Except OperationError Json.Document → Prop
  /-- The payload becomes no record. -/
  | refused {e : OperationError} (h : recordFor catalog collection payload = .error e) :
      ChangeCourse catalog collection id payload [] [] (.error e)
  /-- There is no record to be changed, or none that can be read. -/
  | missing {record : Record} (hrecord : recordFor catalog collection payload = .ok record)
      {select : Sql.Select} (hselect : Record.select catalog collection id = .ok select)
      {reply : Reply} {e : OperationError}
      (h : recordOf (recordName collection id) reply = .error e) :
      ChangeCourse catalog collection id payload [(.execute select.text, reply)] [] (.error e)
  /-- There is nothing to set, and the record is got as it is. -/
  | unchanged {record : Record} (hrecord : recordFor catalog collection payload = .ok record)
      {select : Sql.Select} (hselect : Record.select catalog collection id = .ok select)
      {found : Reply} {document : Json.Document}
      (hfound : recordOf (recordName collection id) found = .ok document)
      (hupdate : Record.update? catalog collection id record = .ok none)
      {exchanges : List Exchange} {counters : List Counter}
      {result : Except OperationError Json.Document}
      (h : ReadingCourse catalog collection id exchanges counters result) :
      ChangeCourse catalog collection id payload
        ((.execute select.text, found) :: exchanges) counters result
  /-- The update fails. -/
  | kept {record : Record} (hrecord : recordFor catalog collection payload = .ok record)
      {select : Sql.Select} (hselect : Record.select catalog collection id = .ok select)
      {found : Reply} {document : Json.Document}
      (hfound : recordOf (recordName collection id) found = .ok document) {update : Sql.Update}
      (hupdate : Record.update? catalog collection id record = .ok (some update))
      (e : DatabaseError) :
      ChangeCourse catalog collection id payload
        [(.execute select.text, found), (.execute (Sql.Statement.update update).text, .error e)]
        [] (.error (.ofDatabase e))
  /-- The update does not fail, and the record is got as it is then. -/
  | changed {record : Record} (hrecord : recordFor catalog collection payload = .ok record)
      {select : Sql.Select} (hselect : Record.select catalog collection id = .ok select)
      {found : Reply} {document : Json.Document}
      (hfound : recordOf (recordName collection id) found = .ok document) {update : Sql.Update}
      (hupdate : Record.update? catalog collection id record = .ok (some update))
      (done : Rows) {exchanges : List Exchange} {counters : List Counter}
      {result : Except OperationError Json.Document}
      (h : ReadingCourse catalog collection id exchanges counters result) :
      ChangeCourse catalog collection id payload
        ((.execute select.text, found) ::
          (.execute (Sql.Statement.update update).text, .ok done) :: exchanges)
        counters result

theorem updateOne_eq : updateOne catalog collection id payload = (do
    let record ← ofExcept (recordFor catalog collection payload)
    let _ ← require catalog collection id
    let update ← ofQuery (Record.update? catalog collection id record)
    match update with
    | some update => do
      let _ ← send (.execute (Sql.Statement.update update).text)
      getOne catalog collection id
    | none => getOne catalog collection id) :=
  rfl

/-- These are the courses of a change. -/
theorem course_updateOne_iff {result : Except OperationError Json.Document} :
    Course (updateOne catalog collection id payload).run exchanges counters result ↔
      ChangeCourse catalog collection id payload exchanges counters result := by
  rw [updateOne_eq]
  simp only [course_ofExcept_bind_iff, course_require_bind_iff, course_ofQuery_bind_iff]
  constructor
  · rintro (⟨e, hrecord, rfl, rfl, rfl⟩ | ⟨record, hrecord, ⟨e, hsearch, rfl⟩ | ⟨select, found,
      document, rest, hselect, hfound, rfl, ⟨e, hnone, -⟩ | ⟨update, hupdate, h⟩⟩⟩)
    · exact .refused hrecord
    · cases hsearch with
      | unlisted h =>
          -- The payload became a record, so the collection is in the catalog after all.
          rcases find_of_recordFor hrecord with ⟨listed, hlisted, -⟩
          rcases Record.select_of_find hlisted id with ⟨select, hsome, -⟩
          cases h.symm.trans hsome
      | missing hselect h => exact .missing hrecord hselect h
    · rcases find_of_recordFor hrecord with ⟨listed, hlisted, -⟩
      rcases Record.exists_update? hlisted id record with ⟨update, hupdate, -⟩
      cases hnone.symm.trans hupdate
    · cases update with
      | none => exact .unchanged hrecord hselect hfound hupdate (course_getOne_iff.1 h)
      | some update =>
          rcases course_send_bind_iff.1 h with ⟨e, rfl, rfl, rfl⟩ | ⟨done, rest, hget, rfl⟩
          · exact .kept hrecord hselect hfound hupdate e
          · exact .changed hrecord hselect hfound hupdate done (course_getOne_iff.1 hget)
  · intro h
    cases h with
    | refused h => exact Or.inl ⟨_, h, rfl, rfl, rfl⟩
    | missing hrecord hselect h =>
        exact Or.inr ⟨_, hrecord, Or.inl ⟨_, .missing hselect h, rfl⟩⟩
    | unchanged hrecord hselect hfound hupdate h =>
        exact Or.inr ⟨_, hrecord, Or.inr ⟨_, _, _, _, hselect, hfound, rfl,
          Or.inr ⟨_, hupdate, course_getOne_iff.2 h⟩⟩⟩
    | kept hrecord hselect hfound hupdate e =>
        exact Or.inr ⟨_, hrecord, Or.inr ⟨_, _, _, _, hselect, hfound, rfl,
          Or.inr ⟨_, hupdate, course_send_bind_iff.2 (Or.inl ⟨e, rfl, rfl, rfl⟩)⟩⟩⟩
    | changed hrecord hselect hfound hupdate done h =>
        exact Or.inr ⟨_, hrecord, Or.inr ⟨_, _, _, _, hselect, hfound, rfl,
          Or.inr ⟨_, hupdate, course_send_bind_iff.2
            (Or.inr ⟨done, _, course_getOne_iff.2 h, rfl⟩)⟩⟩⟩

/-- A removal whose record was found takes one of its courses, unless there is no statement
    that removes the record. This shows only after the search. -/
theorem course_deleteOne_cases {result : Except OperationError Unit}
    (h : Course (deleteOne catalog collection id).run exchanges counters result) :
    (∃ e, ReadingCourse catalog collection id exchanges counters (.error e) ∧
      result = .error e) ∨
    (∃ e select found document, Record.select catalog collection id = .ok select ∧
      Record.delete catalog collection id = .error e ∧
      recordOf (recordName collection id) found = .ok document ∧
      exchanges = [(.execute select.text, found)] ∧ counters = [] ∧
      result = .error (.query e)) ∨
    ∃ select delete, Record.select catalog collection id = .ok select ∧
      Record.delete catalog collection id = .ok delete ∧
      RemovalCourse select.text (Sql.Statement.delete delete).text (recordName collection id)
        exchanges counters result := by
  have hwhole := h
  unfold deleteOne at h
  simp only [course_require_bind_iff, course_ofQuery_bind_iff] at h
  rcases h with hmissing | ⟨select, found, document, rest, hselect, hfound, rfl,
    ⟨e, hdelete, rfl, rfl, rfl⟩ | ⟨delete, hdelete, -⟩⟩
  · exact Or.inl hmissing
  · exact Or.inr (Or.inl ⟨e, select, found, document, hselect, hdelete, hfound, rfl, rfl, rfl⟩)
  · exact Or.inr (Or.inr
      ⟨select, delete, hselect, hdelete, (course_deleteOne_iff hselect hdelete).1 hwhole⟩)

end Operation

end Registrar
