import Registrar.Proofs.Listing.Linked
import Registrar.Proofs.Listing.Steps
import Registrar.Proofs.Record.Assigned
import Registrar.Proofs.Record.Touched
import Registrar.Proofs.Sql.Columns
import Registrar.Record.Statements

/-!
# The Columns Under a Key

A column is found by its key and has a name of its own. What a listing asks for and what it
shows refers to a column by its name: filters, orderings, groupings, and the columns of a
page. Everything else refers to it by the key under which it was found: the restriction of a
listing, the conditions of a removal, and the columns that are written.

So a key means one and the same column everywhere just if it is the column's name. In the
built-in catalog it always is. In a catalog where some key is not, a listing that is
restricted and filtered by that key compares two different columns.

## Main definitions

* `Listed.Asked`: What a listing is asked for under a key refers to the column of a name.
* `Listed.Addressed`: Everything else that is given a key does.
* `Catalog.renamed`: A catalog with a column whose key is not its name.

## Theorems

* `Listed.asked_name`: What a listing is asked for refers to a column by its name.
* `Listed.addressed_key`: Everything else refers to it by its key.
* `Catalog.column_of_key`: When the two agree.
* `Catalog.not_column_of_key`: A listing that compares two columns under one key.
-/

namespace Registrar

open Sql

namespace Filter

/-- What a filter asks of a row concerns the filter's column alone. -/
theorem columns_condition (listed : Listed) (filter : Filter) :
    (filter.condition listed).columns = [(.known listed.collection, filter.column.name)] := by
  rcases filter with ⟨⟨name, type⟩, negate, operator⟩
  have htarget : (likeTarget listed ⟨name, type⟩).columns = [(.known listed.collection, name)] := by
    unfold likeTarget
    split <;> rfl
  cases operator with
  | like pattern =>
      cases negate <;> simp only [condition, Expr.columns, htarget, Expr.string, List.append_nil]
  | eq operand => cases negate <;> rfl
  | isNull => cases negate <;> rfl
  | isTrue => cases negate <;> rfl
  | isFalse => cases negate <;> rfl

end Filter

/-- A page shows a column of a table, or its values in a group, under an alias. -/
def Listed.Shows (listed : Listed) (name : String) (shown : String × Expr) : Prop :=
  shown.1 = name ∧ ∀ column ∈ shown.2.columns, column = (.known listed.collection, name)

/-- What a listing is asked for under a key, and what it shows for the key, refers to the
    column of a name. -/
structure Listed.Asked (listed : Listed) (key name : String) : Prop where
  /-- A parameter adds a filter, an ordering or a grouping. -/
  parameter : ∀ query value next, key ∉ ListingQuery.reservedKeys →
    ListingQuery.step listed.table listed.collection query (key, value) = .ok next →
    (∃ filter, next = { query with filters := query.filters ++ [filter] } ∧
      (filter.condition listed).columns = [(.known listed.collection, name)]) ∨
    (∃ entry direction, next = { query with orderBy := query.orderBy ++ [entry] } ∧
      ListingPlan.ordering listed { ListingQuery.empty with orderBy := [entry] } =
        [(listed.column name, direction)]) ∨
    ∃ group, next = { query with groupBy := some group } ∧
      ListingPlan.grouping listed next = [listed.column name]
  /-- A clause of a group of alternatives is a filter. -/
  clause : ∀ clause text filter, Filter.clauseParts? clause = some (key.toList, text) →
    Filter.parseClause listed.table listed.collection clause = .ok filter →
    (filter.condition listed).columns = [(.known listed.collection, name)]
  /-- A page shows the column under its own name. -/
  projection : ∀ shown, (key, shown) ∈ listed.table.columns.keys.zip listed.projection ↔
    shown = (name, listed.column name)
  /-- So does a page of groups. -/
  grouped : ∀ group shown,
    (key, shown) ∈ listed.table.columns.keys.zip (listed.groupedProjection group) →
      listed.Shows name shown

namespace Listed

variable {catalog : Catalog} {listed : Listed} {key : String} {column : Column}

/-- What stands beside a key in a list of what is made of the columns is made of the key's
    own column. -/
theorem mem_zip_columns_iff {α : Type} (hcolumn : listed.table.column? key = some column)
    (f : Column → α) {a : α} :
    (key, a) ∈ listed.table.columns.keys.zip (listed.table.columns.values.map f) ↔
      a = f column := by
  unfold Keyed.keys Keyed.values
  rw [List.map_map, List.zip_map', List.mem_map]
  constructor
  · rintro ⟨⟨found, other⟩, hmem, hsame⟩
    cases hsame
    -- Keys are distinct, so it is the same column.
    have hother : listed.table.column? found = some other := Keyed.get?_of_mem hmem
    rw [hcolumn] at hother
    cases hother
    rfl
  · rintro rfl
    exact ⟨(key, column), Keyed.mem_of_get? hcolumn, rfl⟩

theorem shows_groupedProjection (group : Column) :
    listed.Shows column.name (column.name, if column.name = group.name
      then listed.column column.name else foldedValues (listed.column column.name)) := by
  refine ⟨rfl, fun reference hmem => ?_⟩
  dsimp only at hmem
  -- The values of a group are counted and gathered, which takes the column twice.
  split at hmem
  · simpa [Listed.column, Expr.columns] using hmem
  · simpa [foldedValues, Listed.column, Expr.columns, Expr.columnsOfAll, Expr.columnsOfWhens,
      Expr.castTo, Expr.int, Expr.string] using hmem

/-- What a listing is asked for and what it shows refers to a column by its name. -/
theorem asked_name (hcolumn : listed.table.column? key = some column) :
    listed.Asked key column.name where
  parameter := by
    intro query value next hreserved hstep
    -- A key that is not reserved and that is found asks for what its value says.
    rcases ListingQuery.step_cases hstep with
      ⟨hor, -⟩ | ⟨hor, hnone | hnone, -⟩ | ⟨-, found, directive, hfound, hdirective, rfl⟩
    · refine absurd ?_ hreserved
      rw [show key = ListingQuery.orKey from hor]
      decide
    · exact absurd hnone hreserved
    · rw [show listed.table.column? key = none from hnone] at hcolumn
      cases hcolumn
    · cases hcolumn.symm.trans hfound
      cases directive with
      | filter filter =>
          refine Or.inl ⟨filter, rfl, ?_⟩
          rw [Filter.columns_condition, Directive.parse_filter hdirective]
      | order direction => exact Or.inr (Or.inl ⟨(column, direction), _, rfl, rfl⟩)
      | group => exact Or.inr (Or.inr ⟨column, rfl, rfl⟩)
  clause := by
    intro clause text filter hparts hclause
    have hkey : String.ofList key.toList = key := String.ofList_toList
    unfold Filter.parseClause at hclause
    simp only [hparts, hkey, hcolumn] at hclause
    rw [Filter.columns_condition, Filter.parse_column hclause]
  projection := fun _ => mem_zip_columns_iff hcolumn _
  grouped := by
    intro group shown hmem
    rw [(mem_zip_columns_iff hcolumn _).1 hmem]
    exact shows_groupedProjection group

end Listed

/-- What is not asked of a listing, and is given a key, refers to the column of a name. -/
structure Listed.Addressed (catalog : Catalog) (listed : Listed) (key name : String) : Prop where
  /-- A restriction to the rows whose column holds an id. -/
  restriction : ∀ id condition,
    (Restriction.column key id).condition catalog listed = .ok condition →
    condition = listed.columnIs name id
  /-- The column of a link that refers to the listed row. -/
  own : ∀ rows other id condition,
    (Restriction.linked listed.collection key other id).condition catalog rows = .ok condition →
    condition.columns = [(.known listed.collection, name),
      (.known rows.collection, rows.table.primaryKey), (.known listed.collection, other)]
  /-- The column of a link that refers to the other record. -/
  other : ∀ rows own id condition,
    (Restriction.linked listed.collection own key id).condition catalog rows = .ok condition →
    condition.columns = [(.known listed.collection, own),
      (.known rows.collection, rows.table.primaryKey), (.known listed.collection, name)]
  /-- Each of the conditions of a removal. -/
  removal : ∀ before value after delete,
    Record.deleteWhere catalog listed.collection (before ++ (key, value) :: after) = .ok delete →
    ∃ front back, delete.condition = .conjunction (front ++ listed.columnIs name value :: back) ∧
      front.length = before.length
  /-- A record that is inserted. -/
  insertion : ∀ (record : Record) insert, record.contains key →
    Record.insert catalog listed.collection record = .ok insert → name ∈ insert.columns
  /-- The columns that an update sets, each to what the record has for it. -/
  change : ∀ id (record : Record) update, record.contains key →
    Record.update? catalog listed.collection id record = .ok (some update) →
    (name, Record.payloadColumn name) ∈ update.set.entries

namespace Listed

variable {catalog : Catalog} {listed : Listed} {key : String} {column : Column}

/-- Everything but what a listing is asked for refers to a column by its key. -/
theorem addressed_key (hlisted : catalog.find listed.collection = .ok listed)
    (hcolumn : listed.table.column? key = some column) : listed.Addressed catalog key key := by
  have hassigns : ∀ {record : Record}, record.contains key → record.Assigns listed key :=
    fun hcontains =>
      ⟨Option.isSome_iff_exists.2 ⟨column, hcolumn⟩, Sorted.contains_iff.1 hcontains⟩
  -- The column is looked up only to know that there is one, and what it says is dropped.
  constructor
  · intro id condition h
    rcases bind_eq_ok_iff.1 h with ⟨_, -, h⟩
    cases h
    rfl
  · intro rows other id condition h
    rcases Restriction.condition_linked h with ⟨found, hfound, rfl⟩
    cases hlisted.symm.trans hfound
    rfl
  · intro rows own id condition h
    rcases Restriction.condition_linked h with ⟨found, hfound, rfl⟩
    cases hlisted.symm.trans hfound
    rfl
  · intro before value after delete h
    rcases bind_eq_ok_iff.1 h with ⟨found, hfound, h⟩
    rcases bind_eq_ok_iff.1 h with ⟨conditions, hconditions, h⟩
    cases hlisted.symm.trans hfound
    cases h
    rw [Record.matchConditions_eq hconditions, List.map_append, List.map_cons]
    exact ⟨_, _, rfl, List.length_map _⟩
  · intro record insert hcontains h
    exact ((Record.lists_insert hlisted h).complete key).2 (hassigns hcontains)
  · intro id record update hcontains h
    have hlists := Record.lists_update? hlisted h
    exact Sorted.get?_eq_some_iff.1 (hlists.values key (hassigns hcontains))

/-- Both refer to the same column just if the column bears its key as a name. -/
theorem agree_iff (hlisted : catalog.find listed.collection = .ok listed)
    (hcolumn : listed.table.column? key = some column) :
    (∃ name, listed.Asked key name ∧ listed.Addressed catalog key name) ↔ column.name = key := by
  constructor
  · rintro ⟨name, hasked, haddressed⟩
    -- The column that is shown tells one name, and a restriction the other.
    have hshown := (hasked.projection _).1 (((asked_name hcolumn).projection _).2 rfl)
    have hname : column.name = name := congrArg Prod.fst hshown
    have hcondition : (Restriction.column key 0).condition catalog listed =
        .ok (listed.columnIs key 0) := by
      rw [Restriction.condition, requireColumn, hcolumn]
      rfl
    have hsame := haddressed.restriction 0 _ hcondition
    unfold columnIs Listed.column Expr.equals at hsame
    injection hsame with _ hcolumns _
    injection hcolumns with _ hkey
    rw [hname, hkey]
  · rintro rfl
    exact ⟨column.name, asked_name hcolumn, addressed_key hlisted hcolumn⟩

end Listed

namespace Catalog

variable {catalog : Catalog} {collection key : String} {listed : Listed} {column : Column}

/-- The columns of the built-in catalog bear their keys as names. -/
theorem name_of_builtin (hlisted : builtin.find collection = .ok listed)
    (hcolumn : listed.table.column? key = some column) : column.name = key := by
  have hmem : (key, column) ∈ listed.table.columns.entries := Keyed.mem_of_get? hcolumn
  exact ((builtin_named _ (mem_of_find hlisted)).2.2 _ hmem).symm

/-- What a listing is asked for and what it shows under a key refers to the column that is
    found there by its own name, and everything else refers to it by the key. So all of this
    refers to the same column just if the column bears its key as a name. -/
theorem column_of_key (hlisted : catalog.find collection = .ok listed)
    (hcolumn : listed.table.column? key = some column) :
    listed.Asked key column.name ∧ listed.Addressed catalog key key ∧
      ((∃ name, listed.Asked key name ∧ listed.Addressed catalog key name) ↔
        column.name = key) := by
  have hsame : listed.collection = collection := (find_eq_ok_iff.1 hlisted).1
  rw [← hsame] at hlisted
  exact ⟨Listed.asked_name hcolumn, Listed.addressed_key hlisted hcolumn,
    Listed.agree_iff hlisted hcolumn⟩

/-- The author of a note is meant by its key everywhere. -/
theorem column_of_key_author : ∃ listed name,
    builtin.find Collection.notes = .ok listed ∧ listed.Asked "author" name ∧
      listed.Addressed builtin "author" name := by
  have hlisted : builtin.find Collection.notes = .ok ⟨_, notes.2⟩ := rfl
  have hcolumn : notes.2.column? "author" = some ⟨"author", .string⟩ := rfl
  rcases (column_of_key hlisted hcolumn).2.2.2 (name_of_builtin hlisted hcolumn) with
    ⟨name, hasked, haddressed⟩
  exact ⟨_, name, hlisted, hasked, haddressed⟩

/-- Notes whose author is found under a key that is not the column's name. -/
def renamed : Catalog :=
  ⟨Sorted.ofList [("notes",
    { schema := "public"
      name := "notes"
      primaryKey := "id"
      columns := Keyed.ofList [("id", ⟨"id", .integer⟩), ("author", ⟨"author_id", .integer⟩)] })]⟩

/-- A listing that is restricted to an author and filtered by the same compares two
    columns. -/
theorem not_column_of_key : ∃ listed plan,
    renamed.find "notes" = .ok listed ∧
      listed.table.column? "author" = some ⟨"author_id", .integer⟩ ∧
      (¬∃ name, listed.Asked "author" name ∧ listed.Addressed renamed "author" name) ∧
      ListingPlan.ofParams renamed "notes" (some (.column "author" 5)) [("author", "eq.5")] =
        .ok plan ∧
      plan.count.condition = .and (.equals (listed.column "author") (.int 5))
        (.equals (listed.column "author_id") (.string "5")) := by
  refine ⟨⟨"notes", _⟩, _, rfl, rfl, ?_, rfl, rfl⟩
  intro hagree
  have hname : "author_id" = "author" := (Listed.agree_iff rfl rfl).1 hagree
  exact absurd hname (by decide)

end Catalog

end Registrar
