import Registrar.Proofs.Map.OfList
import Registrar.Proofs.Record.Parameters
import Registrar.Proofs.Sql.Scope

/-!
# The Columns That a Write Assigns

A write is given a record, of which the statement takes the members that are columns of the
table. An insertion lists these columns and, apart from that, the values that it selects for
them; the two lists are built one after the other and have to agree place by place. An update
has one list of assignments, which is sorted by the names of the columns. In both of them the
value is the column of the same name in the row that the record is unfolded into.

What a statement does to a row is then read off the statement: an insertion puts each value
into the column at its place and leaves the others to their defaults, and an update overwrites
the columns that it sets and keeps the others. How the database turns a member of a record into
a value of a column is left open. Whatever it does, two updates of a record that have no
member in common can be made in either order, and both changes are there in the end.

## Main definitions

* `Record.Assigns`: A column is assigned when a record is written.
* `Sql.Insert.Lists`, `Sql.Update.Lists`: What statements say of the columns of a record.
* `Sql.Insert.Adds`, `Sql.Update.Sets`, `Sql.Update.Changes`: What they do to a row.
* `Record.row`, `Record.overwrite`: The row of a record, and a row overwritten with it.

## Theorems

* `Record.lists_insert`, `Record.lists_update?`: The columns that statements list.
* `Record.adds_iff`, `Record.changes_iff`: The rows that they make.
* `Record.overwrite_comm`, `Record.overwrite_overwrite`: Overwriting twice.
* `Record.assigned_columns`: What is written, and what updates make of a row.
-/

namespace Registrar

open Sql

/-- A column is assigned when a record is written: it is a column of the table, and the record
    has it. -/
def Record.Assigns (listed : Listed) (record : Record) (column : String) : Prop :=
  (listed.table.column? column).isSome ∧ column ∈ record.names

instance (listed : Listed) (record : Record) (column : String) :
    Decidable (record.Assigns listed column) :=
  inferInstanceAs (Decidable (_ ∧ _))

/-- What an insertion lists: each column that is assigned once, in the order of the table, and
    at the same place the column of that name of the row that the record is unfolded into.
    Without any columns it has the defaults, and binds nothing. -/
structure Sql.Insert.Lists (listed : Listed) (record : Record) (insert : Insert) : Prop where
  schema : insert.schema = listed.table.schema
  table : insert.table = listed.table.name
  order : insert.columns.Sublist listed.table.columns.keys
  once : insert.columns.Nodup
  complete : ∀ column, column ∈ insert.columns ↔ record.Assigns listed column
  defaults : insert.columns = [] →
    insert.source = .defaults ∧ (Statement.insert insert).text.params = []
  values : insert.columns ≠ [] → ∃ fields,
    insert.source = .select { Select.simple fields with
      source := some (Record.unfolded listed record) } ∧
    fields.length = insert.columns.length ∧
    ∀ (i : Nat) (column : String), insert.columns[i]? = some column →
      fields[i]? = some (column, .column (.known payloadAlias) column)

/-- What the update of a record lists: each column that is assigned once, in the order of the
    names, with the column of that name of the row that the record is unfolded into. -/
structure Sql.Update.Lists (listed : Listed) (id : Int) (record : Record) (update : Update) :
    Prop where
  schema : update.schema = listed.table.schema
  table : update.table = listed.table.name
  condition : update.condition = listed.keyIs id
  order : update.set.names.Pairwise (· < ·)
  complete : ∀ column, column ∈ update.set.names ↔ record.Assigns listed column
  values : ∀ column, record.Assigns listed column →
    update.set.get? column = some (.column (.known payloadAlias) column)
  source : update.source = some (Record.unfolded listed record)

namespace Record

variable {catalog : Catalog} {collection : String} {listed : Listed} {record : Record} {id : Int}

/-- The columns that are present are those of the table that the record has. -/
theorem mem_presentColumns {key : String} :
    key ∈ presentColumns listed record ↔ record.Assigns listed key := by
  rw [presentColumns, List.mem_filter, Sorted.contains_iff]
  exact and_congr_left fun _ => Keyed.isSome_get?_iff.symm

theorem nodup_presentColumns : (presentColumns listed record).Nodup :=
  listed.table.columns.distinct.filter _

/-- What is set are the columns that are present, each to what the record has for it. -/
theorem mem_assignments_iff {column : String} {expr : Expr} :
    (column, expr) ∈ (Sorted.ofList ((presentColumns listed record).map fun key =>
        (key, payloadColumn key))).entries ↔
      column ∈ presentColumns listed record ∧ expr = payloadColumn column := by
  constructor
  · intro hmem
    rcases List.mem_map.1 (Sorted.mem_ofList hmem) with ⟨key, hkey, hsame⟩
    cases hsame
    exact ⟨hkey, rfl⟩
  · rintro ⟨hkey, rfl⟩
    -- No column is present twice, so none of them overwrites another.
    have hdistinct : (((presentColumns listed record).map fun key =>
        (key, payloadColumn key)).map Prod.fst).Nodup := by
      rw [List.map_map]
      exact (List.map_id _).symm ▸ nodup_presentColumns
    exact Sorted.mem_ofList_of_nodup hdistinct (List.mem_map.2 ⟨column, hkey, rfl⟩)

/-- There is an insertion for every record. -/
theorem exists_insert (hlisted : catalog.find collection = .ok listed) (record : Record) :
    ∃ insert, Record.insert catalog collection record = .ok insert := by
  unfold Record.insert
  rw [hlisted]
  exact ⟨_, rfl⟩

theorem lists_insert {insert : Insert} (hlisted : catalog.find collection = .ok listed)
    (h : Record.insert catalog collection record = .ok insert) : insert.Lists listed record := by
  have hparams := params_insert h
  rcases bind_eq_ok_iff.1 h with ⟨found, hfound, h⟩
  cases hlisted.symm.trans hfound
  cases h
  refine ⟨rfl, rfl, List.filter_sublist, nodup_presentColumns, fun column => mem_presentColumns,
    fun hnone => ?_, fun hsome => ?_⟩
  · rcases hparams with ⟨-, hsource, hbound⟩ | ⟨hsome, -⟩
    · exact ⟨hsource, hbound⟩
    · exact absurd hnone hsome
  · refine ⟨(presentColumns listed record).map fun key => (key, payloadColumn key),
      if_neg (mt List.isEmpty_iff.1 hsome), List.length_map _, fun i column hcolumn => ?_⟩
    rw [List.getElem?_map]
    exact congrArg _ hcolumn

theorem lists_update? {update : Update} (hlisted : catalog.find collection = .ok listed)
    (h : update? catalog collection id record = .ok (some update)) :
    update.Lists listed id record := by
  rw [update?, hlisted] at h
  by_cases hempty : (presentColumns listed record).isEmpty
  · cases (if_pos hempty).symm.trans h
  · cases (if_neg hempty).symm.trans h
    -- A column that is assigned is set, to the column of its name.
    have hmem : ∀ column, record.Assigns listed column →
        (column, payloadColumn column) ∈ (Sorted.ofList ((presentColumns listed record).map
          fun key => (key, payloadColumn key))).entries :=
      fun column hassigns => mem_assignments_iff.2 ⟨mem_presentColumns.2 hassigns, rfl⟩
    refine ⟨rfl, rfl, rfl, List.pairwise_map.2 (Sorted.ascending _), fun column => ⟨?_, ?_⟩,
      fun column hassigns => Sorted.get?_eq_some_iff.2 (hmem column hassigns), rfl⟩
    · intro hname
      rcases List.mem_map.1 hname with ⟨assignment, hassignment, rfl⟩
      exact mem_presentColumns.1 (mem_assignments_iff.1 hassignment).1
    · exact fun hassigns => Sorted.mem_names_of_mem (hmem column hassigns)

/-- There is an update for every record, except that there is nothing to do if no column is
    assigned. -/
theorem exists_update? (hlisted : catalog.find collection = .ok listed) (id : Int)
    (record : Record) :
    ∃ update, update? catalog collection id record = .ok update ∧
      (update = none ↔ ∀ column, ¬record.Assigns listed column) := by
  rw [update?, hlisted]
  by_cases hempty : (presentColumns listed record).isEmpty
  · refine ⟨none, if_pos hempty, iff_of_true rfl fun column hassigns => ?_⟩
    have hmem := mem_presentColumns.2 hassigns
    rw [List.isEmpty_iff.1 hempty] at hmem
    exact absurd hmem List.not_mem_nil
  · rcases List.exists_mem_of_ne_nil _ (mt List.isEmpty_iff.2 hempty) with ⟨column, hmem⟩
    refine ⟨some _, if_neg hempty, iff_of_false (Option.some_ne_none _) fun hnot => ?_⟩
    exact hnot column (mem_presentColumns.1 hmem)

theorem update?_eq_none_iff (hlisted : catalog.find collection = .ok listed) :
    update? catalog collection id record = .ok none ↔
      ∀ column, ¬record.Assigns listed column := by
  rcases exists_update? hlisted id record with ⟨update, hupdate, hnone⟩
  rw [hupdate, ← hnone]
  exact ⟨Except.ok.inj, congrArg _⟩

end Record

/-- The values that an insertion has for its columns, in their order. -/
def Sql.InsertFrom.values : InsertFrom → List Expr
  | .select ⟨.columns fields, _, _, _, _, _, _⟩ => fields.map Prod.snd
  | _ => []

/-- The row that an insertion adds, given the row that its record was unfolded into and the
    defaults: a column that is listed has the value that stands at its place, and the others
    have their defaults. -/
structure Sql.Insert.Adds (insert : Insert) (payload defaults row : Row) : Prop where
  listed : ∀ (i : Nat) (column : String), insert.columns[i]? = some column →
    ∃ expr, insert.source.values[i]? = some expr ∧
      expr.datum? [(payloadAlias, payload)] = some (row column)
  others : ∀ column, column ∉ insert.columns → row column = defaults column

/-- What an update makes of a row, given the row that its record was unfolded into: a column
    that is set has the value it is set to, and the others keep theirs. -/
structure Sql.Update.Sets (update : Update) (payload row changed : Row) : Prop where
  set : ∀ column expr, update.set.get? column = some expr →
    expr.datum? [(payloadAlias, payload), (update.label, row)] = some (changed column)
  others : ∀ column, column ∉ update.set.names → changed column = row column

/-- The same if there may be nothing to update. -/
def Sql.Update.Changes (update : Option Update) (payload row changed : Row) : Prop :=
  match update with
  | some update => update.Sets payload row changed
  | none => changed = row

namespace Record

variable (convert : String → Json.Document → Datum)

/-- The row that a record is unfolded into: what becomes of its members, and nulls. -/
def row (record : Record) : Row := fun column =>
  (record.get? column).elim .null (convert column)

/-- A row in which the columns that are assigned hold what the record has for them. -/
def overwrite (listed : Listed) (record : Record) (row : Row) : Row := fun column =>
  if record.Assigns listed column then record.row convert column else row column

variable {catalog : Catalog} {collection : String} {listed : Listed} {record : Record} {id : Int}
  {convert}

theorem overwrite_of_assigns {old : Row} {column : String} (h : record.Assigns listed column) :
    record.overwrite convert listed old column = record.row convert column :=
  if_pos h

theorem overwrite_of_not_assigns {old : Row} {column : String}
    (h : ¬record.Assigns listed column) :
    record.overwrite convert listed old column = old column :=
  if_neg h

/-- A row that holds what the record has for the columns that are assigned, and is otherwise
    as it was, is that row overwritten with the record. -/
theorem eq_overwrite {old changed : Row}
    (hassigned : ∀ column, record.Assigns listed column →
      changed column = record.row convert column)
    (hkept : ∀ column, ¬record.Assigns listed column → changed column = old column) :
    changed = record.overwrite convert listed old := by
  funext column
  by_cases hassigns : record.Assigns listed column
  · rw [overwrite_of_assigns hassigns, hassigned column hassigns]
  · rw [overwrite_of_not_assigns hassigns, hkept column hassigns]

/-- An insertion adds the defaults, overwritten with the record. -/
theorem adds_iff {insert : Insert} (hlisted : catalog.find collection = .ok listed)
    (h : Record.insert catalog collection record = .ok insert) {defaults added : Row} :
    insert.Adds (record.row convert) defaults added ↔
      added = record.overwrite convert listed defaults := by
  have hlists := lists_insert hlisted h
  -- What stands at the place of a column is the column of the record's row.
  have hvalue : ∀ (i : Nat) (column : String), insert.columns[i]? = some column →
      ∃ expr, insert.source.values[i]? = some expr ∧
        expr.datum? [(payloadAlias, record.row convert)] = some (record.row convert column) := by
    intro i column hcolumn
    have hne : insert.columns ≠ [] := by
      intro hnil
      rw [hnil] at hcolumn
      cases hcolumn
    rcases hlists.values hne with ⟨fields, hsource, -, hfields⟩
    refine ⟨_, ?_, Expr.datum?_inner column⟩
    rw [hsource]
    exact List.getElem?_map.trans (congrArg _ (hfields i column hcolumn))
  constructor
  · intro hadds
    refine eq_overwrite (fun column hassigns => ?_) fun column hnot =>
      hadds.others column (mt (hlists.complete column).1 hnot)
    rcases List.getElem?_of_mem ((hlists.complete column).2 hassigns) with ⟨i, hcolumn⟩
    rcases hadds.listed i column hcolumn with ⟨expr, hexpr, hdatum⟩
    rcases hvalue i column hcolumn with ⟨other, hother, hrecord⟩
    cases hexpr.symm.trans hother
    exact Option.some.inj (hdatum.symm.trans hrecord)
  · rintro rfl
    refine ⟨fun i column hcolumn => ?_, fun column hnot => ?_⟩
    · -- What is listed is assigned, and the value at its place is that of the record.
      have hassigns := (hlists.complete column).1 (List.mem_of_getElem? hcolumn)
      rw [overwrite_of_assigns hassigns]
      exact hvalue i column hcolumn
    · exact overwrite_of_not_assigns (mt (hlists.complete column).2 hnot)

/-- An update overwrites a row with its record. -/
theorem changes_iff {update : Option Update} (hlisted : catalog.find collection = .ok listed)
    (h : update? catalog collection id record = .ok update) {old changed : Row} :
    Update.Changes update (record.row convert) old changed ↔
      changed = record.overwrite convert listed old := by
  cases update with
  | none =>
      -- No column is assigned, so there is nothing to overwrite.
      have hnot := (update?_eq_none_iff hlisted).1 h
      have hsame : record.overwrite convert listed old = old :=
        (eq_overwrite (fun column hassigns => absurd hassigns (hnot column)) fun _ _ => rfl).symm
      rw [hsame]
      rfl
  | some update =>
      have hlists := lists_update? hlisted h
      constructor
      · intro hsets
        refine eq_overwrite (fun column hassigns => ?_) fun column hnot =>
          hsets.others column (mt (hlists.complete column).1 hnot)
        have hdatum := hsets.set column _ (hlists.values column hassigns)
        exact Option.some.inj (hdatum.symm.trans (Expr.datum?_inner column))
      · rintro rfl
        refine ⟨fun column expr hexpr => ?_, fun column hnot => ?_⟩
        · have hassigns := (hlists.complete column).1
            (Sorted.mem_names_of_mem (Sorted.get?_eq_some_iff.1 hexpr))
          cases (hlists.values column hassigns).symm.trans hexpr
          rw [overwrite_of_assigns hassigns]
          exact Expr.datum?_inner column
        · exact overwrite_of_not_assigns (mt (hlists.complete column).2 hnot)

/-- Records that assign no column in common overwrite a row in either order. -/
theorem overwrite_comm {first second : Record} {old : Row}
    (hdisjoint : ∀ column, first.Assigns listed column → ¬second.Assigns listed column) :
    second.overwrite convert listed (first.overwrite convert listed old) =
      first.overwrite convert listed (second.overwrite convert listed old) := by
  refine (eq_overwrite (fun column hassigns => ?_) fun column hnot => ?_)
  · rw [overwrite_of_not_assigns (hdisjoint column hassigns), overwrite_of_assigns hassigns]
  · by_cases hassigns : second.Assigns listed column
    · rw [overwrite_of_assigns hassigns, overwrite_of_assigns hassigns]
    · rw [overwrite_of_not_assigns hassigns, overwrite_of_not_assigns hassigns,
        overwrite_of_not_assigns hnot]

/-- Overwriting a row twice with one record is overwriting it once. -/
theorem overwrite_overwrite {old : Row} :
    record.overwrite convert listed (record.overwrite convert listed old) =
      record.overwrite convert listed old := by
  refine (eq_overwrite (fun column hassigns => ?_) fun column hnot => rfl).symm
  exact overwrite_of_assigns hassigns

/-- Two updates of a row that have no member in common come to the same in either order, and
    the outcome has both changes. -/
theorem changes_comm {first second : Record} {update other : Option Update}
    (hlisted : catalog.find collection = .ok listed)
    (hfirst : update? catalog collection id first = .ok update)
    (hsecond : update? catalog collection id second = .ok other)
    (hdisjoint : ∀ name ∈ first.names, name ∉ second.names) {old a ab b ba : Row}
    (ha : Update.Changes update (first.row convert) old a)
    (hab : Update.Changes other (second.row convert) a ab)
    (hb : Update.Changes other (second.row convert) old b)
    (hba : Update.Changes update (first.row convert) b ba) :
    ab = ba ∧ ∀ column, ab column =
      if first.Assigns listed column then first.row convert column
      else if second.Assigns listed column then second.row convert column else old column := by
  have hassigns : ∀ column, first.Assigns listed column → ¬second.Assigns listed column :=
    fun column hassigns hother => hdisjoint column hassigns.2 hother.2
  -- All four rows are overwritten ones.
  cases (changes_iff hlisted hfirst).1 ha
  cases (changes_iff hlisted hsecond).1 hb
  cases (changes_iff hlisted hsecond).1 hab
  cases (changes_iff hlisted hfirst).1 hba
  have hcomm : second.overwrite convert listed (first.overwrite convert listed old) =
      first.overwrite convert listed (second.overwrite convert listed old) :=
    overwrite_comm hassigns
  refine ⟨hcomm, fun column => ?_⟩
  rw [hcomm]
  rfl

/-- What writes assign, for every collection of every catalog and every record. An insertion
    and an update list the columns that are assigned, each once and each beside the column of
    its name of the record's row, and there is nothing to update just if there are none. Read
    as operations on rows, an insertion adds the defaults with these columns overwritten, and
    an update overwrites them and keeps the others, so making it again changes nothing more.
    Two updates of a row without a member in common can be made in either order, and in the
    end both changes are there. -/
theorem assigned_columns (catalog : Catalog) (collection : String) (listed : Listed)
    (hlisted : catalog.find collection = .ok listed) :
    (∀ record, ∃ insert, Record.insert catalog collection record = .ok insert ∧
      insert.Lists listed record) ∧
    (∀ id record, ∃ update, update? catalog collection id record = .ok update ∧
      (update = none ↔ ∀ column, ¬record.Assigns listed column) ∧
      ∀ change, update = some change → change.Lists listed id record) ∧
    (∀ convert record insert defaults, Record.insert catalog collection record = .ok insert →
      ∃ added, insert.Adds (record.row convert) defaults added ∧
        (∀ other, insert.Adds (record.row convert) defaults other → other = added) ∧
        ∀ column, added column =
          if record.Assigns listed column then record.row convert column else defaults column) ∧
    (∀ convert id record update old, update? catalog collection id record = .ok update →
      ∃ changed, Update.Changes update (record.row convert) old changed ∧
        (∀ other, Update.Changes update (record.row convert) old other → other = changed) ∧
        (∀ column, changed column =
          if record.Assigns listed column then record.row convert column else old column) ∧
        ∀ again, Update.Changes update (record.row convert) changed again → again = changed) ∧
    ∀ convert id first second update other,
      update? catalog collection id first = .ok update →
      update? catalog collection id second = .ok other →
      (∀ name ∈ first.names, name ∉ second.names) → ∀ old a ab b ba,
        Update.Changes update (first.row convert) old a →
        Update.Changes other (second.row convert) a ab →
        Update.Changes other (second.row convert) old b →
        Update.Changes update (first.row convert) b ba →
        ab = ba ∧ ∀ column, ab column =
          if first.Assigns listed column then first.row convert column
          else if second.Assigns listed column then second.row convert column
          else old column := by
  refine ⟨fun record => ?_, fun id record => ?_, ?_, ?_, ?_⟩
  · exact (exists_insert hlisted record).imp fun insert h => ⟨h, lists_insert hlisted h⟩
  · rcases exists_update? hlisted id record with ⟨update, hupdate, hnone⟩
    refine ⟨update, hupdate, hnone, ?_⟩
    rintro change rfl
    exact lists_update? hlisted hupdate
  · intro convert record insert defaults h
    exact ⟨record.overwrite convert listed defaults, (adds_iff hlisted h).2 rfl,
      fun _ hother => (adds_iff hlisted h).1 hother, fun _ => rfl⟩
  · intro convert id record update old h
    refine ⟨record.overwrite convert listed old, (changes_iff hlisted h).2 rfl,
      fun _ hother => (changes_iff hlisted h).1 hother, fun _ => rfl, fun again hagain => ?_⟩
    rw [(changes_iff hlisted h).1 hagain]
    exact overwrite_overwrite
  · intro convert id first second update other hfirst hsecond hdisjoint old a ab b ba
    exact changes_comm hlisted hfirst hsecond hdisjoint

/-- A record that has a name and nothing else. -/
def naming : Record := Sorted.ofList [("name", .string "physics")]

/-- A record that has a number and nothing else. -/
def numbering : Record := Sorted.ofList [("unix_gid", .ofInt 5000)]

/-- A group that is given a name by one update and a number by another has both. -/
theorem assigned_columns_groups : ∃ listed update other,
    Catalog.builtin.find Collection.groups = .ok listed ∧
      update? .builtin Collection.groups 7 naming = .ok update ∧
      update? .builtin Collection.groups 7 numbering = .ok other ∧
      ∀ (convert : String → Json.Document → Datum) (old : Row), ∃ a ab,
        Update.Changes update (naming.row convert) old a ∧
        Update.Changes other (numbering.row convert) a ab ∧
        ab "name" = convert "name" (.string "physics") ∧
        ab "unix_gid" = convert "unix_gid" (.ofInt 5000) ∧ ab "id" = old "id" := by
  have hgroups : ∃ listed, Catalog.builtin.find Collection.groups = .ok listed ∧
      naming.Assigns listed "name" ∧ ¬naming.Assigns listed "unix_gid" ∧
      numbering.Assigns listed "unix_gid" ∧ ¬naming.Assigns listed "id" ∧
      ¬numbering.Assigns listed "id" := ⟨_, rfl, by decide +kernel⟩
  rcases hgroups with ⟨listed, hlisted, hname, hnoNumber, hnumber, hnoId, hnoId'⟩
  rcases assigned_columns .builtin Collection.groups listed hlisted with
    ⟨-, hupdates, -, hchanges, hcomm⟩
  rcases hupdates 7 naming with ⟨update, hupdate, -⟩
  rcases hupdates 7 numbering with ⟨other, hother, -⟩
  refine ⟨listed, update, other, hlisted, hupdate, hother, fun convert old => ?_⟩
  rcases hchanges convert 7 naming update old hupdate with ⟨a, ha, -⟩
  rcases hchanges convert 7 numbering other a hother with ⟨ab, hab, -⟩
  rcases hchanges convert 7 numbering other old hother with ⟨b, hb, -⟩
  rcases hchanges convert 7 naming update b hupdate with ⟨ba, hba, -⟩
  have hdisjoint : ∀ name ∈ naming.names, name ∉ numbering.names := by decide +kernel
  have hboth := (hcomm convert 7 naming numbering update other hupdate hother hdisjoint old a ab
    b ba ha hab hb hba).2
  refine ⟨a, ab, ha, hab, ?_, ?_, ?_⟩
  · rw [hboth, if_pos hname]
    rfl
  · rw [hboth, if_neg hnoNumber, if_pos hnumber]
    rfl
  · rw [hboth, if_neg hnoId, if_neg hnoId']

end Record

end Registrar
