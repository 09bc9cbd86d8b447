import Registrar.Proofs.Catalog.Permitted

/-!
# Statements on Single Records

All statements that read, insert, change and remove single records of the built-in
catalog are permitted, whatever the ids are and whatever the documents hold. What they
name comes from the catalog: a column is named if it is one of the table's, not if a
document has a member of that name.

## Main definitions

* `Record.Registered`: The members of a record are columns of a table.

## Theorems

* `Record.guards_select`, `Record.guards_deleteWhere` and their like: What the statements
  of any catalog name and bind.
* `Record.permitted_of_select`, `Record.permitted_of_insert`, `Record.permitted_of_update`,
  `Record.permitted_of_deleteWhere`, `Record.permitted_of_delete`: The statements of the
  built-in catalog are permitted.
-/

namespace Registrar

namespace Record

open Sql

/-- The members of a record are columns of a table and have no members themselves. -/
def Registered (table : Table) (record : Record) : Prop :=
  ∀ member ∈ record.entries, (table.column? member.1).isSome ∧ member.2.isFlat

variable {known : String → Prop} {bound : Json.Document → Prop} {catalog : Catalog}
  {listed : Listed} {collection : String} {record : Record}

theorem guards_select (hcatalog : catalog.Known known) (hfixed : ∀ value ∈ fixedNames, known value)
    {id : Int} {select : Select} (h : Record.select catalog collection id = .ok select) :
    Guards known bound select.pieces := by
  rcases bind_eq_ok_iff.1 h with ⟨listed, hlisted, h⟩
  cases h
  have hknown := hcatalog hlisted
  have hrows : Guards known bound (Select.pieces { Select.simple listed.projection with
        source := some listed.source
        condition := listed.keyIs id }) :=
    Guards.selectWhere hknown.guards_projection
      (fun _ hsource => Option.some.inj hsource ▸ hknown.guards_source) (hknown.guards_keyIs id)
  exact Guards.asRow hrows (hfixed _ (by decide)) (hfixed _ (by decide))

/-- The columns of a record that are written are columns of the catalog. -/
theorem known_of_mem_presentColumns {key : String} (hknown : listed.Known known)
    (h : key ∈ presentColumns listed record) : known key := by
  rcases List.mem_map.1 (List.mem_filter.1 h).1 with ⟨entry, hentry, rfl⟩
  exact (hknown.columns entry hentry).1

/-- Columns of the row that a document is unfolded into, each under its key. -/
theorem guards_payloadColumns (hknown : listed.Known known)
    (hfixed : ∀ value ∈ fixedNames, known value) :
    ∀ entry ∈ (presentColumns listed record).map fun key => (key, payloadColumn key),
      known entry.1 ∧ Guards known bound entry.2.pieces := by
  intro entry hentry
  rcases List.mem_map.1 hentry with ⟨key, hkey, rfl⟩
  have hname := known_of_mem_presentColumns hknown hkey
  exact ⟨hname, Guards.column (hfixed _ (by decide)) hname⟩

theorem guards_unfolded (hknown : listed.Known known) (hfixed : ∀ value ∈ fixedNames, known value)
    (h : bound record.document) : Guards known bound (unfolded listed record).pieces :=
  Guards.unfolded hknown.schema hknown.table (hfixed _ (by decide)) h

theorem guards_insertSource (hknown : listed.Known known)
    (hfixed : ∀ value ∈ fixedNames, known value) (h : bound record.document) :
    Guards known bound (insertSource listed record).pieces := by
  rw [insertSource]
  split
  · exact Guards.words (by decide)
  · exact Guards.selectWhere (Guards.columns (guards_payloadColumns hknown hfixed))
      (fun _ hsource => Option.some.inj hsource ▸ guards_unfolded hknown hfixed h)
      (Guards.conjunction (List.forall_mem_nil _))

/-- The primary key of an inserted row, handed back under an alias of its own. -/
theorem guards_returning (hknown : listed.Known known)
    (hfixed : ∀ value ∈ fixedNames, known value) :
    Guards known bound (SelectList.columns [(insertedId, .castTo
      (.column (.table listed.table.schema listed.table.name) listed.table.primaryKey)
      keyType)]).pieces := by
  have hid : known insertedId := hfixed _ (by decide)
  have hkey : Guards known bound (Expr.column
      (.table listed.table.schema listed.table.name) listed.table.primaryKey).pieces :=
    Guards.columnOf hknown.schema hknown.table hknown.primaryKey
  exact Guards.columns (List.forall_mem_singleton.2
    ⟨hid, Guards.castTo hkey (hfixed _ (by decide))⟩)

theorem guards_matchConditions (hknown : listed.Known known) {values : List (String × Int)}
    {conditions : List Expr} (h : matchConditions listed values = .ok conditions) :
    ∀ condition ∈ conditions, Guards known bound condition.pieces := by
  induction values generalizing conditions with
  | nil =>
      cases h
      exact List.forall_mem_nil _
  | cons value rest ih =>
      rcases bind_eq_ok_iff.1 h with ⟨_, hkey, h⟩
      rcases bind_eq_ok_iff.1 h with ⟨others, hothers, h⟩
      cases h
      exact List.forall_mem_cons.2
        ⟨hknown.guards_columnIs (hknown.requireColumn hkey) value.2, ih hothers⟩

theorem guards_deleteWhere (hcatalog : catalog.Known known) {values : List (String × Int)}
    {delete : Delete} (h : Record.deleteWhere catalog collection values = .ok delete) :
    Guards known bound (Statement.delete delete).pieces := by
  rcases bind_eq_ok_iff.1 h with ⟨listed, hlisted, h⟩
  rcases bind_eq_ok_iff.1 h with ⟨conditions, hconditions, h⟩
  cases h
  have hknown := hcatalog hlisted
  exact Guards.delete hknown.guards_source
    (Guards.conjunction (guards_matchConditions hknown hconditions))

theorem guards_delete (hcatalog : catalog.Known known) {id : Int} {delete : Delete}
    (h : Record.delete catalog collection id = .ok delete) :
    Guards known bound (Statement.delete delete).pieces := by
  rcases bind_eq_ok_iff.1 h with ⟨listed, -, h⟩
  exact guards_deleteWhere hcatalog h

theorem permitted_of_select {id : Int} {select : Select}
    (h : Record.select .builtin collection id = .ok select) : select.text.Permitted :=
  permitted_select (guards_select Catalog.builtin_permitted
    (fun _ => mem_permittedNames_of_fixed) h)

/-- An insertion says first which table it writes to. -/
theorem written?_insert (insert : Insert) :
    written? (tokensFrom 0 (Statement.insert insert).pieces) =
      some (insert.schema, insert.table) :=
  rfl

/-- An update says first which table it writes to. -/
theorem written?_update (update : Update) :
    written? (tokensFrom 0 (Statement.update update).pieces) =
      some (update.schema, update.table) :=
  rfl

/-- A registered record is what an insertion or an update of its table writes. -/
theorem writes_document {tokens : List Token}
    (hlisted : Catalog.builtin.find collection = .ok listed)
    (hrecord : record.Registered listed.table)
    (hwritten : written? tokens = some (listed.table.schema, listed.table.name)) :
    Writes tokens record.document :=
  ⟨_, Catalog.mem_of_find hlisted, record.entries, hwritten, rfl, hrecord⟩

theorem permitted_of_insert {insert : Insert}
    (hlisted : Catalog.builtin.find collection = .ok listed)
    (hrecord : record.Registered listed.table)
    (h : Record.insert .builtin collection record = .ok insert) :
    (Statement.insert insert).text.Permitted := by
  rw [Record.insert, hlisted] at h
  cases h
  have hknown := Catalog.builtin_permitted hlisted
  exact permitted_statement (Guards.insert hknown.schema hknown.table
    (fun _ hcolumn => known_of_mem_presentColumns hknown hcolumn)
    (guards_insertSource hknown (fun _ => mem_permittedNames_of_fixed)
      (writes_document hlisted hrecord (written?_insert _)))
    (guards_returning hknown (fun _ => mem_permittedNames_of_fixed)))

theorem permitted_of_update {id : Int} {update : Update}
    (hlisted : Catalog.builtin.find collection = .ok listed)
    (hrecord : record.Registered listed.table)
    (h : Record.update? .builtin collection id record = .ok (some update)) :
    (Statement.update update).text.Permitted := by
  have hknown := Catalog.builtin_permitted hlisted
  rcases bind_eq_ok_iff.1 h with ⟨found, hfound, h⟩
  cases hlisted.symm.trans hfound
  -- With nothing to set there is no update.
  by_cases hempty : (presentColumns listed record).isEmpty
  · rw [if_pos hempty] at h
    exact nomatch h
  · rw [if_neg hempty] at h
    cases h
    refine permitted_statement (Guards.update hknown.schema hknown.table ?_ ?_
      (fun _ hsource => Option.some.inj hsource ▸ guards_unfolded hknown
        (fun _ => mem_permittedNames_of_fixed)
        (writes_document hlisted hrecord (written?_update _)))
      (hknown.guards_keyIs id))
    · rw [← (Catalog.find_eq_ok_iff.1 hlisted).1]
      exact hknown.collection
    · intro entry hentry
      exact guards_payloadColumns hknown (fun _ => mem_permittedNames_of_fixed) entry
        (Sorted.mem_ofList hentry)

theorem permitted_of_deleteWhere {values : List (String × Int)} {delete : Delete}
    (h : Record.deleteWhere .builtin collection values = .ok delete) :
    (Statement.delete delete).text.Permitted :=
  permitted_delete (guards_deleteWhere Catalog.builtin_permitted h)

theorem permitted_of_delete {id : Int} {delete : Delete}
    (h : Record.delete .builtin collection id = .ok delete) :
    (Statement.delete delete).text.Permitted :=
  permitted_delete (guards_delete Catalog.builtin_permitted h)

end Record

end Registrar
