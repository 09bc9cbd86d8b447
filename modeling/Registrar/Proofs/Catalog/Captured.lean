import Registrar.Proofs.Listing.Predicate
import Registrar.Proofs.Record.Place
import Registrar.Proofs.Sql.Resolved

/-!
# Names That Are Captured

Statements mix two kinds of names. Some are fixed, the alias of the row that a record is
unfolded into and the alias of the rows that are turned into JSON. The others come from the
catalog: a table goes by the name of its collection, and what is returned goes by the names of
the columns. Nothing keeps the two kinds apart.

So there are two names that a catalog had better not use. In the update of a collection that is
called like the unfolded record, one alias is given to both relations, and it stands for neither
of them. And of a table with a column that is called like the rows, it is this column that is
turned into JSON. Everywhere else each name stands for what it was put there for. The built-in
catalog uses neither name.

## Main definitions

* `Listed.Unwrapped`: No column is called like the rows that are turned into JSON.
* `Catalog.capturing`: A collection with both of the names.

## Theorems

* `Record.resolves_iff`: When the columns of an update belong to the relations that they should.
* `Record.findsRows_select_iff`, `ListingPlan.findsRows_iff`: When the rows are found that are
  turned into JSON.
* `Catalog.names_resolve_iff`: Both, for every catalog, and that the built-in one is safe.
* `Catalog.not_names_resolve`: An update and a selection with captured names.
-/

namespace Registrar

open Sql

/-- No column is called like the rows that are turned into JSON. -/
def Listed.Unwrapped (listed : Listed) : Prop :=
  ∀ column ∈ listed.table.columns.values, column.name ≠ rowsAlias

/-- So it is with a selection that returns the columns under their names. -/
theorem Listed.not_mem_labels_iff {listed : Listed} {fields : List (String × Expr)}
    (h : fields.map Prod.fst = listed.table.columns.values.map Column.name) :
    rowsAlias ∉ (SelectList.columns fields).labels ↔ listed.Unwrapped := by
  rw [SelectList.labels, h, Listed.Unwrapped, List.mem_map]
  constructor
  · intro hnone column hcolumn hname
    exact hnone ⟨column, hcolumn, hname⟩
  · rintro hall ⟨column, hcolumn, hname⟩
    exact hall column hcolumn hname

variable {catalog : Catalog} {collection : String} {listed : Listed} {id : Int}

namespace Record

variable {record : Record} {update : Update}

/-- The table of an update goes by the name of its collection. -/
theorem label_of_update? (h : update? catalog collection id record = .ok (some update)) :
    update.label = collection := by
  rcases bind_eq_ok_iff.1 h with ⟨listed, -, h⟩
  by_cases hempty : (presentColumns listed record).isEmpty
  · cases (if_pos hempty).symm.trans h
  · cases (if_neg hempty).symm.trans h
    rfl

/-- What is set is the column of that name of the row that the record is unfolded into. -/
theorem eq_payloadColumn_of_mem {entry : String × Expr} (hlists : update.Lists listed id record)
    (hmem : entry ∈ update.set.entries) : entry.2 = payloadColumn entry.1 := by
  have hassigns := (hlists.complete entry.1).1 (Sorted.mem_names_of_mem hmem)
  have hget : update.set.get? entry.1 = some entry.2 := Sorted.get?_eq_some_iff.2 hmem
  exact Option.some.inj (hget.symm.trans (hlists.values entry.1 hassigns))

/-- An update sets something. -/
theorem exists_mem_set_of_update? (hlisted : catalog.find collection = .ok listed)
    (h : update? catalog collection id record = .ok (some update)) :
    ∃ entry, entry ∈ update.set.entries := by
  have hlists := lists_update? hlisted h
  have hassigned : ∃ column, record.Assigns listed column := by
    by_contra hnone
    have hidle : update? catalog collection id record = .ok none :=
      (update?_eq_none_iff hlisted).2 (not_exists.1 hnone)
    cases hidle.symm.trans h
  rcases hassigned with ⟨column, hassigns⟩
  exact ⟨_, Sorted.get?_eq_some_iff.1 (hlists.values column hassigns)⟩

/-- In range are the rows to be changed, by the name of the collection, and the row that the
    record is unfolded into. -/
theorem relations_of_update? (hlisted : catalog.find collection = .ok listed)
    (h : update? catalog collection id record = .ok (some update)) :
    update.relations = [(collection, .changed listed.table.schema listed.table.name),
      (payloadAlias, .rows (unfolded listed record))] := by
  have hlists := lists_update? hlisted h
  rw [Update.relations, hlists.source, label_of_update? h, hlists.schema, hlists.table]
  rfl

/-- The columns of an update belong to the relations that they should, unless its collection is
    called like the row that the record is unfolded into. -/
theorem resolves_iff (hlisted : catalog.find collection = .ok listed)
    (h : update? catalog collection id record = .ok (some update)) :
    update.Resolves (.rows (unfolded listed record))
        (.changed listed.table.schema listed.table.name) ↔ collection ≠ payloadAlias := by
  have hlists := lists_update? hlisted h
  have hrelations := relations_of_update? hlisted h
  constructor
  · rintro hresolves rfl
    -- Both relations go by the alias, so that what is set belongs to none.
    rcases exists_mem_set_of_update? hlisted h with ⟨entry, hmem⟩
    have hcolumns := hresolves.set entry hmem
    rw [hrelations, eq_payloadColumn_of_mem hlists hmem] at hcolumns
    rcases hcolumns _ (List.mem_singleton_self _) with ⟨label, hlabel, hrelation⟩
    cases hlabel
    cases relation?_pair_same.symm.trans hrelation
  · intro hne
    rcases relation?_pair (.changed listed.table.schema listed.table.name)
      (.rows (unfolded listed record)) hne with ⟨hchanged, hrows⟩
    refine ⟨fun entry hmem => ?_, ?_⟩
    · rw [hrelations, eq_payloadColumn_of_mem hlists hmem]
      intro column hcolumn
      rw [List.mem_singleton.1 hcolumn]
      exact ⟨payloadAlias, rfl, hrows⟩
    · rw [hrelations, hlists.condition]
      intro column hcolumn
      have hcollection : listed.collection = collection := (Catalog.find_eq_ok_iff.1 hlisted).1
      rw [List.mem_singleton.1 hcolumn]
      exact ⟨collection, congrArg TableRef.known hcollection, hchanged⟩

/-- A record is found, as one JSON object, unless one of its columns is called like the rows. -/
theorem findsRows_select_iff {select : Select} (hlisted : catalog.find collection = .ok listed)
    (h : Record.select catalog collection id = .ok select) :
    select.FindsRows ↔ listed.Unwrapped := by
  rcases bind_eq_ok_iff.1 h with ⟨_, hsame, h⟩
  cases hlisted.symm.trans hsame
  cases h
  rw [Select.findsRows_asRow_iff]
  exact Listed.not_mem_labels_iff List.map_map

end Record

/-- The columns of a listing are shown under their names, grouped or not. -/
theorem ListingPlan.labels_shownColumns (listed : Listed) (query : ListingQuery) :
    (shownColumns listed query).map Prod.fst =
      listed.table.columns.values.map Column.name := by
  unfold shownColumns
  split <;> exact List.map_map

/-- The rows of a page are found, unless one of the columns is called like them. -/
theorem ListingPlan.findsRows_iff {restriction : Option Restriction} {params : Params}
    {plan : ListingPlan} (hlisted : catalog.find collection = .ok listed)
    (h : ofParams catalog collection restriction params = .ok plan) :
    plan.rows.FindsRows ↔ listed.Unwrapped := by
  rcases ofParams_cases h with ⟨page, _, query, narrowing, hsame, -, -, hrows, -⟩
  cases hlisted.symm.trans hsame
  rw [hrows, Select.findsRows_asRows_iff]
  exact Listed.not_mem_labels_iff (labels_shownColumns listed query)

namespace Catalog

/-- The built-in catalog uses neither of the two names. -/
theorem not_mem_names_of_alias : payloadAlias ∉ builtin.names ∧ rowsAlias ∉ builtin.names := by
  decide +kernel

theorem builtin_uncaptured (hlisted : builtin.find collection = .ok listed) :
    collection ≠ payloadAlias ∧ listed.Unwrapped := by
  have hknown := known_of_find hlisted
  constructor
  · rintro rfl
    have hcollection := hknown.collection
    rw [(find_eq_ok_iff.1 hlisted).1] at hcollection
    exact not_mem_names_of_alias.1 hcollection
  · intro column hcolumn hname
    rcases List.mem_map.1 hcolumn with ⟨entry, hentry, rfl⟩
    have hmem := (hknown.columns entry hentry).2
    rw [hname] at hmem
    exact not_mem_names_of_alias.2 hmem

/-- What the names in the statements of a catalog stand for. In an update the columns belong to
    the relations that they were put there for, just if its collection is not called like the
    row that the record is unfolded into. In the selection of a record and in a listing, the
    rows are turned into JSON and not one of their columns, just if no column is called like
    them. In the built-in catalog no collection and no column is called so. -/
theorem names_resolve_iff (catalog : Catalog) (collection : String) :
    (∀ listed, catalog.find collection = .ok listed →
      (∀ id record update, Record.update? catalog collection id record = .ok (some update) →
        (update.Resolves (.rows (Record.unfolded listed record))
          (.changed listed.table.schema listed.table.name) ↔ collection ≠ payloadAlias)) ∧
      (∀ id select, Record.select catalog collection id = .ok select →
        (select.FindsRows ↔ listed.Unwrapped)) ∧
      ∀ restriction params plan,
        ListingPlan.ofParams catalog collection restriction params = .ok plan →
          (plan.rows.FindsRows ↔ listed.Unwrapped)) ∧
    ∀ listed, builtin.find collection = .ok listed →
      collection ≠ payloadAlias ∧ listed.Unwrapped := by
  refine ⟨fun listed hlisted => ⟨?_, ?_, ?_⟩, fun _ => builtin_uncaptured⟩
  · exact fun _ _ _ => Record.resolves_iff hlisted
  · exact fun _ _ => Record.findsRows_select_iff hlisted
  · exact fun _ _ _ => ListingPlan.findsRows_iff hlisted

/-- In the built-in catalog the names of a group stand for what they should. -/
theorem names_resolve_iff_groups : ∃ listed select update,
    builtin.find Collection.groups = .ok listed ∧
      Record.select .builtin Collection.groups 7 = .ok select ∧ select.FindsRows ∧
      Record.update? .builtin Collection.groups 7 Record.naming = .ok (some update) ∧
      update.Resolves (.rows (Record.unfolded listed Record.naming))
        (.changed listed.table.schema listed.table.name) := by
  have hgroups : ∃ listed, builtin.find Collection.groups = .ok listed ∧
      Record.naming.Assigns listed "name" := ⟨_, rfl, by decide +kernel⟩
  rcases hgroups with ⟨listed, hlisted, hassigns⟩
  rcases names_resolve_iff .builtin Collection.groups with ⟨h, hbuiltin⟩
  rcases h listed hlisted with ⟨hupdates, hselects, -⟩
  rcases hbuiltin listed hlisted with ⟨hne, hunwrapped⟩
  rcases Record.select_of_find hlisted 7 with ⟨select, hselect, -⟩
  rcases Record.update?_of_assigns hlisted 7 hassigns with ⟨update, hupdate, -⟩
  exact ⟨listed, select, update, hlisted, hselect, (hselects 7 select hselect).2 hunwrapped,
    hupdate, (hupdates 7 Record.naming update hupdate).2 hne⟩

/-- A collection that is called like the row that a record is unfolded into, with a column that
    is called like the rows that are turned into JSON. -/
def capturing : Catalog :=
  ⟨Sorted.ofList [("payload",
    { schema := "public"
      name := "payload"
      primaryKey := "id"
      columns := Keyed.ofList [("id", ⟨"id", .integer⟩), ("rows", ⟨"rows", .integer⟩)] })]⟩

/-- What a record of that collection may be changed to. -/
def measured : Record := Sorted.ofList [("rows", .ofInt 3)]

/-- In an update of this collection one alias stands for two relations, so that what is set
    belongs to neither. And what is selected of a record is not the record but a column. -/
theorem not_names_resolve : ∃ listed select source update,
    capturing.find "payload" = .ok listed ∧
      Record.select capturing "payload" 7 = .ok select ∧ select.source = some source ∧
      source.meaning? rowsAlias = some .column ∧ ¬select.FindsRows ∧
      Record.update? capturing "payload" 7 measured = .ok (some update) ∧
      relation? update.relations payloadAlias = none ∧
      ¬update.Resolves (.rows (Record.unfolded listed measured))
        (.changed listed.table.schema listed.table.name) := by
  have hfind : ∃ listed select source, capturing.find "payload" = .ok listed ∧
      Record.select capturing "payload" 7 = .ok select ∧
      select.list.wholeRows = [.known rowsAlias] ∧ select.source = some source ∧
      source.meaning? rowsAlias = some .column ∧ measured.Assigns listed "rows" :=
    ⟨_, _, _, rfl, rfl, rfl, rfl, by decide +kernel⟩
  rcases hfind with ⟨listed, select, source, hlisted, hselect, hlist, hsource, hmeaning,
    hassigns⟩
  rcases Record.update?_of_assigns hlisted 7 hassigns with ⟨update, hupdate, -⟩
  have hrelations := Record.relations_of_update? hlisted hupdate
  refine ⟨listed, select, source, update, hlisted, hselect, hsource, hmeaning, ?_, hupdate, ?_,
    fun hresolves => (Record.resolves_iff hlisted hupdate).1 hresolves rfl⟩
  · rw [Select.findsRows_iff hlist hsource, hmeaning]
    exact nofun
  · rw [hrelations]
    exact relation?_pair_same

end Catalog

end Registrar
