import Registrar.Proofs.Operation.Query

/-!
# Removing a Record

A record is looked for before it is removed, by two statements one after the other. If it is
not found, nothing is removed, and that is what is reported. If it is found, the removal is
executed, and the operation has succeeded as soon as that statement has. How many rows the
removal affected is not looked at. So a record that disappears between the two statements
is removed successfully all the same.

`RemovalCourse` lists what can happen, and for every catalog it is said when the removal
succeeds: just after two statements without a fault, the first of which found a record.

## Main definitions

* `Operation.RemovalCourse`: The removal of a record takes a course.
* `Operation.Removes`: The exchanges of a removal that succeeds.

## Theorems

* `Operation.course_deleteOne_iff`: These are the courses of a removal.
* `Operation.course_deleteOne_ok_iff`: When a removal succeeds, whatever the catalog.
* `Operation.deleteOne_eq_ok_iff`: The exchanges tell whether it does.
-/

namespace Registrar

namespace Operation

open Session

variable {catalog : Catalog} {collection : String} {id : Int} {exchanges : List Exchange}
  {counters : List Counter}

/-- The removal of a record takes a course, given the statements that look for it and that
    remove it, and the name by which it is missed. -/
inductive RemovalCourse (look remove : Sql.Text) (name : String) :
    List Exchange → List Counter → Except OperationError Unit → Prop
  /-- There is no such record, or none that can be read. -/
  | missing {reply : Reply} {e : OperationError} (h : recordOf name reply = .error e) :
      RemovalCourse look remove name [(.execute look, reply)] [] (.error e)
  /-- There is one, but its removal fails. -/
  | kept {found : Reply} {document : Json.Document} (h : recordOf name found = .ok document)
      (e : DatabaseError) :
      RemovalCourse look remove name [(.execute look, found), (.execute remove, .error e)] []
        (.error (.ofDatabase e))
  /-- There was one, and the removal does not fail. -/
  | removed {found : Reply} {document : Json.Document} (h : recordOf name found = .ok document)
      (gone : Rows) :
      RemovalCourse look remove name [(.execute look, found), (.execute remove, .ok gone)]
        [.recordOperations] (.ok ())

/-- These are the courses of a removal. -/
theorem course_deleteOne_iff {select : Sql.Select} {delete : Sql.Delete}
    {result : Except OperationError Unit}
    (hselect : Record.select catalog collection id = .ok select)
    (hdelete : Record.delete catalog collection id = .ok delete) :
    Course (deleteOne catalog collection id).run exchanges counters result ↔
      RemovalCourse select.text (Sql.Statement.delete delete).text (recordName collection id)
        exchanges counters result := by
  -- The operation is a query, a statement that can be built, and what is sent of it.
  unfold deleteOne
  rw [require_eq_query hselect, course_query_bind_iff]
  simp only [course_ofQuery_bind_iff, hdelete, course_send_bind_iff]
  constructor
  · rintro ⟨reply, rest, rfl, ⟨e, hmissing, rfl, rfl, rfl⟩ | ⟨document, hfound, h⟩⟩
    · exact .missing hmissing
    · rcases h with ⟨_, hnone, _⟩ | ⟨_, hsame, ⟨e, rfl, rfl, rfl⟩ | ⟨gone, last, h, rfl⟩⟩
      · cases hnone
      · cases hsame
        exact .kept hfound e
      · cases hsame
        cases h with
        | count h =>
            rcases course_done_iff.1 h with ⟨rfl, rfl, rfl⟩
            exact .removed hfound gone
  · intro h
    cases h with
    | @missing reply e hmissing =>
        exact ⟨reply, [], rfl, Or.inl ⟨e, hmissing, rfl, rfl, rfl⟩⟩
    | @kept found document hfound e =>
        exact ⟨found, _, rfl, Or.inr ⟨document, hfound, Or.inr ⟨delete, rfl,
          Or.inl ⟨e, rfl, rfl, rfl⟩⟩⟩⟩
    | @removed found document hfound gone =>
        exact ⟨found, _, rfl, Or.inr ⟨document, hfound, Or.inr ⟨delete, rfl,
          Or.inr ⟨gone, [], .count (.done _), rfl⟩⟩⟩⟩

/-- The exchanges of a removal that succeeds: a record was found, and a statement that
    removes it did not fail, whatever it affected. -/
def Removes (catalog : Catalog) (collection : String) (id : Int)
    (exchanges : List Exchange) : Prop :=
  ∃ select delete found document gone, Record.select catalog collection id = .ok select ∧
    Record.delete catalog collection id = .ok delete ∧
    recordOf (recordName collection id) found = .ok document ∧
    exchanges =
      [(.execute select.text, found), (.execute (Sql.Statement.delete delete).text, .ok gone)]

/-- Without both statements there is no removal. -/
theorem exists_of_course_deleteOne {u : Unit}
    (h : Course (deleteOne catalog collection id).run exchanges counters (.ok u)) :
    ∃ select delete, Record.select catalog collection id = .ok select ∧
      Record.delete catalog collection id = .ok delete := by
  cases hselect : Record.select catalog collection id with
  | error e =>
      -- Then not even the search is begun.
      unfold deleteOne require find at h
      rw [hselect] at h
      cases h
  | ok select =>
      unfold deleteOne at h
      rw [require_eq_query hselect, course_query_bind_iff] at h
      rcases h with ⟨_, _, -, ⟨_, -, -, -, hnone⟩ | ⟨_, -, h⟩⟩
      · cases hnone
      · rcases course_ofQuery_bind_iff.1 h with ⟨_, -, -, -, hnone⟩ | ⟨delete, hdelete, -⟩
        · cases hnone
        · exact ⟨select, delete, rfl, hdelete⟩

/-- Whatever the catalog, a removal succeeds just if a record was found and the statement
    that removes it did not fail, and it is counted then. -/
theorem course_deleteOne_ok_iff {u : Unit} :
    Course (deleteOne catalog collection id).run exchanges counters (.ok u) ↔
      Removes catalog collection id exchanges ∧ counters = [.recordOperations] := by
  constructor
  · intro h
    rcases exists_of_course_deleteOne h with ⟨select, delete, hselect, hdelete⟩
    cases (course_deleteOne_iff hselect hdelete).1 h with
    | @removed found document hfound gone =>
        exact ⟨⟨select, delete, found, document, gone, hselect, hdelete, hfound, rfl⟩, rfl⟩
  · rintro ⟨⟨select, delete, found, document, gone, hselect, hdelete, hfound, rfl⟩, rfl⟩
    exact (course_deleteOne_iff hselect hdelete).2 (.removed hfound gone)

/-- So the exchanges tell whether a removal succeeds. -/
theorem deleteOne_eq_ok_iff {result : Except OperationError Unit}
    (h : Course (deleteOne catalog collection id).run exchanges counters result) :
    result = .ok () ↔ Removes catalog collection id exchanges := by
  constructor
  · rintro rfl
    exact (course_deleteOne_ok_iff.1 h).1
  · intro hremoves
    -- The same exchanges lead to success, and to nothing else.
    have hsuccess : Course (deleteOne catalog collection id).run (exchanges ++ [])
        [.recordOperations] (.ok ()) := by
      rw [List.append_nil]
      exact course_deleteOne_ok_iff.2 ⟨hremoves, rfl⟩
    exact (h.determined hsuccess).2.2

end Operation

end Registrar
