import Registrar.Proofs.Record.Touched

/-!
# The Place of a Record

Three statements are about the record with an id: one reads it, one changes it and one removes
it. Each of them names a table, an alias and a condition, in a form of its own. Read off the
statement, these three are its place, and two statements with the same place are about the
same rows.

Reading and changing ask of the catalog only that the collection is in it. Removing asks for
more. It is a case of removing the rows in which columns hold integers, and there every column
has to be in the catalog, the primary key not excepted.

## Main definitions

* `Sql.Place`: A table under an alias, and a condition on its rows.
* `Sql.Select.place?`, `Sql.Update.place`, `Sql.Delete.place?`: The place of a statement.
* `Listed.place`: The place of the record with an id.

## Theorems

* `Record.select_of_find`, `Record.update?_of_assigns`: What there is for every collection of
  the catalog.
* `Record.delete_of_column`, `Record.delete_of_no_column`: When there is a removal.
-/

namespace Registrar

namespace Sql

/-- A table under an alias, and a condition on its rows. -/
structure Place where
  schema : String
  table : String
  label : String
  condition : Expr

/-- The place of rows that come from a table as it is. -/
def Source.place? (condition : Expr) : Source → Option Place
  | .table (.table schema name) label => some ⟨schema, name, label, condition⟩
  | _ => none

/-- The place of the rows that a selection turns into JSON. They come from the selection
    inside. -/
def Select.place? (select : Select) : Option Place :=
  match select.source with
  | some (.select inner _) => inner.source.bind (Source.place? inner.condition)
  | _ => none

/-- The place of the rows that are changed. -/
def Update.place (update : Update) : Place :=
  ⟨update.schema, update.table, update.label, update.condition⟩

/-- The place of the rows that are removed. -/
def Delete.place? (delete : Delete) : Option Place :=
  delete.source.place? delete.condition

end Sql

open Sql

/-- The place of the record with an id. -/
def Listed.place (listed : Listed) (id : Int) : Place :=
  ⟨listed.table.schema, listed.table.name, listed.collection, listed.keyIs id⟩

/-- At this place is the record whose primary key is the id, whatever else is stored. -/
theorem Listed.picks_keyIs (listed : Listed) (id : Int) :
    (listed.keyIs id).Picks listed.collection [(listed.table.primaryKey, id)] :=
  Expr.picks_conjunction (List.cons_ne_nil (listed.table.primaryKey, id) [])

namespace Record

variable {catalog : Catalog} {collection : String} {listed : Listed} {e : QueryError}

theorem select_of_find (hlisted : catalog.find collection = .ok listed) (id : Int) :
    ∃ select, Record.select catalog collection id = .ok select ∧
      select.place? = some (listed.place id) := by
  unfold Record.select
  rw [hlisted]
  exact ⟨_, rfl, rfl⟩

/-- A record that assigns a column has an update. -/
theorem update?_of_assigns {record : Record} {column : String}
    (hlisted : catalog.find collection = .ok listed) (id : Int)
    (h : record.Assigns listed column) :
    ∃ update, update? catalog collection id record = .ok (some update) ∧
      update.place = listed.place id := by
  have hcollection : listed.collection = collection := (Catalog.find_eq_ok_iff.1 hlisted).1
  have hempty : ¬(presentColumns listed record).isEmpty := by
    intro hnone
    have hmem := mem_presentColumns.2 h
    rw [List.isEmpty_iff.1 hnone] at hmem
    exact absurd hmem List.not_mem_nil
  unfold update?
  rw [hlisted]
  refine ⟨_, if_neg hempty, ?_⟩
  rw [Listed.place, hcollection]
  rfl

/-- A record can be removed if its primary key is a column of the catalog. -/
theorem delete_of_column (hlisted : catalog.find collection = .ok listed) (id : Int)
    (h : (listed.table.column? listed.table.primaryKey).isSome) :
    ∃ delete, Record.delete catalog collection id = .ok delete ∧
      delete.place? = some (listed.place id) := by
  unfold Record.delete deleteWhere matchConditions matchConditions Listed.requireColumn
  rw [hlisted]
  refine ⟨⟨listed.source, listed.keyIs id⟩, ?_, rfl⟩
  simp only [bind, Except.bind, if_pos h]
  rfl

/-- It cannot be if the primary key is not. -/
theorem delete_of_no_column (hlisted : catalog.find collection = .ok listed) (id : Int)
    (h : listed.table.column? listed.table.primaryKey = none) :
    Record.delete catalog collection id =
      .error (.columnNotFound listed.table.primaryKey collection) := by
  have hcollection : listed.collection = collection := (Catalog.find_eq_ok_iff.1 hlisted).1
  have hnone : ¬(listed.table.column? listed.table.primaryKey).isSome := by
    rw [h]
    exact Bool.false_ne_true
  unfold Record.delete deleteWhere matchConditions Listed.requireColumn
  rw [hlisted, ← hcollection]
  simp only [bind, Except.bind, if_neg hnone]

theorem select_of_error (h : catalog.find collection = .error e) (id : Int) :
    Record.select catalog collection id = .error e := by
  unfold Record.select
  rw [h]
  rfl

theorem update?_of_error (h : catalog.find collection = .error e) (id : Int) (record : Record) :
    update? catalog collection id record = .error e := by
  unfold update?
  rw [h]
  rfl

theorem delete_of_error (h : catalog.find collection = .error e) (id : Int) :
    Record.delete catalog collection id = .error e := by
  unfold Record.delete
  rw [h]
  rfl

end Record

end Registrar
