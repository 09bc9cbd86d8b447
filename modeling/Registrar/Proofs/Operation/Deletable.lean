import Registrar.Proofs.Operation.Record

/-!
# Records That Can Be Removed

A record that is looked for, changed and removed by its id is one record: the three statements
have the same place. The first two are there for every collection of the catalog, the second
if there is something to set. The removal asks for more, namely that the primary key is a
column of the catalog, and it asks only after the record was found. For a table whose primary
key is not shown to anybody, every record can be got and changed, and none can be removed.

All tables of the built-in catalog show their primary keys, so there a record that was found
is removed unless the database refuses.

## Main definitions

* `Operation.keyless`: A table whose primary key is not among its columns.

## Theorems

* `Operation.course_deleteOne_of_column`: With the key, only the database can refuse.
* `Operation.course_deleteOne_of_no_column`: Without it, nothing is removed.
* `Operation.deletable_iff_key`: The three statements, and what a removal comes to.
* `Operation.not_deletable`: A record that is found and changed, and cannot be removed.
-/

namespace Registrar

namespace Operation

open Session

variable {catalog : Catalog} {collection : String} {listed : Listed} {id : Int}
  {exchanges rest : List Exchange} {counters : List Counter}
  {result : Except OperationError Unit} {select : Sql.Select} {found : Reply}
  {document : Json.Document}

/-- A record that was found is removed unless the database refuses, if its primary key is a
    column. -/
theorem course_deleteOne_of_column {delete : Sql.Delete}
    (hselect : Record.select catalog collection id = .ok select)
    (hdelete : Record.delete catalog collection id = .ok delete)
    (hfound : recordOf (recordName collection id) found = .ok document)
    (h : Course (deleteOne catalog collection id).run ((.execute select.text, found) :: rest)
      counters result) :
    ∃ reply : Reply, rest = [(.execute (Sql.Statement.delete delete).text, reply)] ∧
      result = (reply.map fun _ => ()).mapError .ofDatabase := by
  cases (course_deleteOne_iff hselect hdelete).1 h with
  | missing hmissing => cases hmissing.symm.trans hfound
  | kept _ e => exact ⟨_, rfl, rfl⟩
  | removed _ gone => exact ⟨_, rfl, rfl⟩

/-- It is kept if there is no statement that removes it, and nothing more is said. -/
theorem course_deleteOne_of_no_column {e : QueryError}
    (hselect : Record.select catalog collection id = .ok select)
    (hdelete : Record.delete catalog collection id = .error e)
    (hfound : recordOf (recordName collection id) found = .ok document) :
    Course (deleteOne catalog collection id).run ((.execute select.text, found) :: rest)
      counters result ↔ rest = [] ∧ counters = [] ∧ result = .error (.query e) := by
  unfold deleteOne
  rw [require_eq_query hselect, course_query_bind_iff]
  simp only [course_ofQuery_bind_iff, hdelete]
  constructor
  · rintro ⟨_, _, hsame, ⟨_, hmissing, -⟩ | ⟨_, -, ⟨_, hsome, rfl, rfl, rfl⟩ | ⟨_, hnone, -⟩⟩⟩
    · cases hsame
      cases hmissing.symm.trans hfound
    · cases hsame
      cases hsome
      exact ⟨rfl, rfl, rfl⟩
    · cases hnone
  · rintro ⟨rfl, rfl, rfl⟩
    exact ⟨found, [], rfl, Or.inr ⟨document, hfound, Or.inl ⟨e, rfl, rfl, rfl, rfl⟩⟩⟩

/-- The statements that read, change and remove the record with an id, for every catalog.
    None of them is there if the collection is not in the catalog. If it is, the first two
    are, the second if there is a column to be set, and the third is just if the primary key
    is a column. They have one place, at which is the record with the id. So a record that
    was found is removed unless the database refuses, if its primary key is a column, and
    otherwise it is not, without another word. -/
theorem deletable_iff_key (catalog : Catalog) (collection : String) (id : Int) :
    (∀ e, catalog.find collection = .error e →
      Record.select catalog collection id = .error e ∧
      (∀ record, Record.update? catalog collection id record = .error e) ∧
      Record.delete catalog collection id = .error e) ∧
    ∀ listed, catalog.find collection = .ok listed →
      (listed.keyIs id).Picks listed.collection [(listed.table.primaryKey, id)] ∧
      (∃ select, Record.select catalog collection id = .ok select ∧
        select.place? = some (listed.place id)) ∧
      (∀ record column, record.Assigns listed column →
        ∃ update, Record.update? catalog collection id record = .ok (some update) ∧
          update.place = listed.place id) ∧
      ((listed.table.column? listed.table.primaryKey).isSome →
        ∃ delete, Record.delete catalog collection id = .ok delete ∧
          delete.place? = some (listed.place id)) ∧
      (listed.table.column? listed.table.primaryKey = none →
        Record.delete catalog collection id =
          .error (.columnNotFound listed.table.primaryKey collection)) ∧
      ∀ select found document rest counters result,
        Record.select catalog collection id = .ok select →
        recordOf (recordName collection id) found = .ok document →
        Course (deleteOne catalog collection id).run ((.execute select.text, found) :: rest)
          counters result →
          ((listed.table.column? listed.table.primaryKey).isSome →
            ∃ delete reply, Record.delete catalog collection id = .ok delete ∧
              rest = [(.execute (Sql.Statement.delete delete).text, reply)] ∧
              result = (reply.map fun _ => ()).mapError .ofDatabase) ∧
          (listed.table.column? listed.table.primaryKey = none →
            rest = [] ∧ counters = [] ∧
              result = .error (.query (.columnNotFound listed.table.primaryKey collection))) := by
  refine ⟨fun e h => ⟨Record.select_of_error h id, Record.update?_of_error h id,
    Record.delete_of_error h id⟩, fun listed hlisted => ?_⟩
  refine ⟨listed.picks_keyIs id, Record.select_of_find hlisted id,
    fun _ _ => Record.update?_of_assigns hlisted id, Record.delete_of_column hlisted id,
    Record.delete_of_no_column hlisted id, ?_⟩
  intro select found document rest counters result hselect hfound hcourse
  constructor
  · intro hcolumn
    rcases Record.delete_of_column hlisted id hcolumn with ⟨delete, hdelete, -⟩
    rcases course_deleteOne_of_column hselect hdelete hfound hcourse with ⟨reply, hrest, hresult⟩
    exact ⟨delete, reply, hdelete, hrest, hresult⟩
  · intro hnone
    exact (course_deleteOne_of_no_column hselect (Record.delete_of_no_column hlisted id hnone)
      hfound).1 hcourse

/-- A group that was found is removed unless the database refuses. -/
theorem deletable_iff_key_groups : ∃ select delete,
    Record.select .builtin Collection.groups 7 = .ok select ∧
      Record.delete .builtin Collection.groups 7 = .ok delete ∧
      ∀ found document rest counters result,
        recordOf (recordName Collection.groups 7) found = .ok document →
        Course (deleteOne .builtin Collection.groups 7).run
          ((.execute select.text, found) :: rest) counters result →
        ∃ reply : Reply, rest = [(.execute (Sql.Statement.delete delete).text, reply)] ∧
          result = (reply.map fun _ => ()).mapError .ofDatabase := by
  rcases exists_of_isOk (Catalog.builtin.find Collection.groups) (by decide +kernel) with
    ⟨listed, hlisted⟩
  have hcolumn : (listed.table.column? listed.table.primaryKey).isSome :=
    Catalog.column?_primaryKey hlisted
  rcases (deletable_iff_key .builtin Collection.groups 7).2 listed hlisted with
    ⟨-, ⟨select, hselect, -⟩, -, hdelete, -, hcourse⟩
  rcases hdelete hcolumn with ⟨delete, hdelete, -⟩
  refine ⟨select, delete, hselect, hdelete, ?_⟩
  intro found document rest counters result hfound h
  rcases (hcourse select found document rest counters result hselect hfound h).1 hcolumn with
    ⟨_, reply, hsame, hrest, hresult⟩
  cases hdelete.symm.trans hsame
  exact ⟨reply, hrest, hresult⟩

/-- Notes that do not show their ids. -/
def keyless : Catalog :=
  ⟨Sorted.ofList [("notes",
    { schema := "public"
      name := "notes"
      primaryKey := "id"
      columns := Keyed.ofList [("note", ⟨"note", .string⟩)] })]⟩

/-- What such a note may be changed to. -/
def remark : Record := Sorted.ofList [("note", .string "called back")]

/-- Such a note can be got and changed. It is found when it is to be removed as well, and then
    it is not removed, because its id is no column. -/
theorem not_deletable : ∃ select update,
    Record.select keyless "notes" 7 = .ok select ∧
      Record.update? keyless "notes" 7 remark = .ok (some update) ∧
      Record.delete keyless "notes" 7 = .error (.columnNotFound "id" "notes") ∧
      Course (deleteOne keyless "notes" 7).run
        [(.execute select.text, .ok ⟨some (.json sampleText), 1⟩)] []
        (.error (.query (.columnNotFound "id" "notes"))) := by
  have hlisted : ∃ listed, keyless.find "notes" = .ok listed ∧
      listed.table.primaryKey = "id" ∧ listed.table.column? "id" = none ∧
      remark.Assigns listed "note" :=
    ⟨_, rfl, rfl, by decide +kernel⟩
  rcases hlisted with ⟨listed, hlisted, hprimary, hnone, hassigns⟩
  rcases Record.select_of_find hlisted 7 with ⟨select, hselect, -⟩
  rcases Record.update?_of_assigns hlisted 7 hassigns with ⟨update, hupdate, -⟩
  rw [← hprimary] at hnone
  have hdelete := Record.delete_of_no_column hlisted 7 hnone
  rw [hprimary] at hdelete
  exact ⟨select, update, hselect, hupdate, hdelete,
    (course_deleteOne_of_no_column hselect hdelete (recordOf_sampleText _ 1)).2
      ⟨rfl, rfl, rfl⟩⟩

end Operation

end Registrar
