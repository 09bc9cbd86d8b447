import Registrar.Proofs.Record.Assigned
import Registrar.Proofs.Sql.Picks

/-!
# The Rows That a Statement Touches

A record is changed or removed by its primary key, and links are removed by the columns that
hold the two ids. So the statement is confined to the rows in which these columns hold the
ids, and a change does not set any of these columns, as long as the record does not have
them.

This is said of every update and of every removal that is written in the same way as the one
that was built, because what it touches depends on its text alone.

## Main definitions

* `Sql.Update.Touches`: An update changes just the rows in which columns hold integers.
* `Sql.Delete.Touches`: A removal removes just these.

## Theorems

* `Record.matchConditions_eq`: The conditions of a removal.
* `Record.touches_of_update?`: What the update of a record touches.
* `Record.touches_of_deleteWhere`, `Record.touches_of_delete`: What removals touch.
-/

namespace Registrar

open Sql

/-- An update changes just the rows of a table in which columns hold integers, and sets none
    of these columns. -/
structure Sql.Update.Touches (table : Table) (values : List (String × Int)) (update : Update) :
    Prop where
  schema : update.schema = table.schema
  name : update.table = table.name
  picks : update.condition.Picks update.label values
  kept : ∀ value ∈ values, value.1 ∉ update.set.names

/-- A removal removes just the rows of a table in which columns hold integers. -/
def Sql.Delete.Touches (table : Table) (values : List (String × Int)) (delete : Delete) : Prop :=
  ∃ label, delete.source = .table (.table table.schema table.name) label ∧
    delete.condition.Picks label values

namespace Record

variable {catalog : Catalog} {collection : String} {listed : Listed} {id : Int}
  {values : List (String × Int)}

/-- The conditions of a removal compare the columns by the keys that are given. -/
theorem matchConditions_eq {conditions : List Expr}
    (h : matchConditions listed values = .ok conditions) :
    conditions = values.map (Expr.comparison listed.collection) := by
  induction values generalizing conditions with
  | nil =>
      cases h
      rfl
  | cons value rest ih =>
      rcases bind_eq_ok_iff.1 h with ⟨_, -, h⟩
      rcases bind_eq_ok_iff.1 h with ⟨others, hothers, h⟩
      cases h
      rw [ih hothers]
      rfl

/-- What is set by an update are members of its record. -/
theorem names_of_update? {record : Record} {update : Update}
    (h : update? catalog collection id record = .ok (some update)) :
    ∀ name ∈ update.set.names, name ∈ record.names := by
  rcases bind_eq_ok_iff.1 h with ⟨listed, hlisted, -⟩
  exact fun name hname => (((lists_update? hlisted h).complete name).1 hname).2

/-- An update touches the record with the id, and leaves its primary key alone. -/
theorem touches_of_update? {record : Record} {update other : Update}
    (hlisted : catalog.find collection = .ok listed)
    (h : update? catalog collection id record = .ok (some update))
    (hprimary : listed.table.primaryKey ∉ record.names)
    (hsame : (Statement.update other).text = (Statement.update update).text) :
    other.Touches listed.table [(listed.table.primaryKey, id)] := by
  have hnames := names_of_update? h
  have hcollection : listed.collection = collection := (Catalog.find_eq_ok_iff.1 hlisted).1
  rw [update?, hlisted] at h
  by_cases hempty : (presentColumns listed record).isEmpty
  · cases (if_pos hempty).symm.trans h
  · cases (if_neg hempty).symm.trans h
    -- The condition compares one column, and so it is plain.
    have hplain : (listed.keyIs id).Plain :=
      .comparison listed.collection (listed.table.primaryKey, id)
    rcases Update.parts_of_text hsame hplain with ⟨hschema, htable, hlabel, hset, hcondition⟩
    refine ⟨hschema, htable, ?_, fun value hvalue hmem => ?_⟩
    · rw [hcondition, hlabel, ← hcollection]
      exact Expr.picks_conjunction (List.cons_ne_nil (listed.table.primaryKey, id) [])
    · rw [List.mem_singleton.1 hvalue, hset] at hmem
      exact hprimary (hnames _ hmem)

/-- A removal touches the rows in which the columns hold the integers, if there are any
    columns to compare. -/
theorem touches_of_deleteWhere {delete other : Delete}
    (hlisted : catalog.find collection = .ok listed)
    (h : deleteWhere catalog collection values = .ok delete) (hne : values ≠ [])
    (hsame : (Statement.delete other).text = (Statement.delete delete).text) :
    other.Touches listed.table values := by
  rcases bind_eq_ok_iff.1 h with ⟨found, hfound, h⟩
  cases hlisted.symm.trans hfound
  rcases bind_eq_ok_iff.1 h with ⟨conditions, hconditions, h⟩
  cases h
  rw [matchConditions_eq hconditions] at hsame
  rcases Delete.parts_of_text hsame rfl (Expr.plain_conjunction hne) with ⟨hsource, hcondition⟩
  refine ⟨listed.collection, hsource, ?_⟩
  rw [hcondition]
  exact Expr.picks_conjunction hne

/-- The removal of a record touches the record with the id. -/
theorem touches_of_delete {delete other : Delete}
    (hlisted : catalog.find collection = .ok listed)
    (h : Record.delete catalog collection id = .ok delete)
    (hsame : (Statement.delete other).text = (Statement.delete delete).text) :
    other.Touches listed.table [(listed.table.primaryKey, id)] := by
  rcases bind_eq_ok_iff.1 h with ⟨found, hfound, h⟩
  cases hlisted.symm.trans hfound
  exact touches_of_deleteWhere hlisted h (List.cons_ne_nil _ _) hsame

end Record

end Registrar
