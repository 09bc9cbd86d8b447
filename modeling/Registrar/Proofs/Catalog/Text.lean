import Registrar.Catalog.Text
import Registrar.Proofs.Json.Decoded
import Registrar.Proofs.Json.Written
import Registrar.Proofs.Map.OfList

/-!
# Catalogs Written and Read

A catalog is written as an object of tables, a table as a record whose columns are an object
again. Reading is lenient, so many texts are read as one catalog: blanks, escapes and unknown
members do not matter, records may be arrays, tables may come in any order, and a name or a key
may be given several times. Writing uses none of this freedom. It gives the tables sorted and
the columns in their order, and each field of a record once, so what is written is read as just
what it was, and of all the texts of a catalog the written one is canonical.

That the order of columns survives matters because it is the order in which a listing shows
them. It is part of the catalog here: two catalogs with the same columns in another order are
not the same.

## Main definitions

* `Column.tree`, `Table.tree`, `Catalog.tree`: What is written is read as these.
* `Table.ColumnsAt`: Where a table has its columns.
* `Table.Ordered`, `Catalog.Ordered`: What is read is in order, with the last of what is given
  several times.

## Theorems

* `Catalog.read_text`: What a written catalog is read as.
* `Catalog.parse_text`: A catalog that was written is read again.
* `Table.exists_ordered`, `Catalog.exists_ordered`: What is read is in order.
* `Catalog.canonical_text`: The text of a catalog is canonical.
-/

namespace Registrar

open Json

/-- A written string is read again, as a part of whatever record. -/
theorem Json.Decoder.map_text_lexemeOf {β : Type} (f : String → β) (s : String) (room : Nat) :
    (Decoder.text.map f) room (.string (lexemeOf s)) = .ok (f s) := by
  have htext : Decoder.text room (.string (lexemeOf s)) = .ok s :=
    lexemeText_eq_ok_iff.2 (StringLexeme.value?_lexemeOf s)
  rw [Decoder.map, htext, Except.map]

namespace Column

/-- What a written column is read as. -/
def tree (column : Column) : Tree :=
  .object [(lexemeOf "name", .string (lexemeOf column.name)),
    (lexemeOf "type", .string (lexemeOf column.type.name))] true

theorem reads_document (column : Column) :
    Tree.Reads column.document.text.toList column.tree := by
  refine Tree.reads_object (.cons ⟨rfl, Tree.reads_string _⟩ ?_)
  exact .cons ⟨rfl, Tree.reads_string _⟩ .nil

theorem oneOf_name (type : ColumnType) (room : Nat) :
    Decoder.oneOf ColumnType.named room (.string (lexemeOf type.name)) = .ok type := by
  have hword := Decoder.lexemeText_eq_ok_iff.2 (StringLexeme.value?_lexemeOf type.name)
  simp only [Decoder.oneOf, hword, bind, Except.bind, ColumnType.lookup_name]

theorem decode_tree (column : Column) (room : Nat) :
    Column.decode (room + 1) column.tree = .ok column := by
  have htype : ((Decoder.oneOf ColumnType.named).map Part.type) room
      (.string (lexemeOf column.type.name)) = .ok (.type column.type) := by
    rw [Decoder.map, oneOf_name, Except.map]
  have hrecord : Decoder.record fields (room + 1) column.tree =
      .ok [.name column.name, .type column.type] := by
    rw [tree, Decoder.record, Decoder.enter]
    simp only [fields, bind, Except.bind]
    -- The two members come in the order of the fields.
    rw [Decoder.fieldsFound_of_field (StringLexeme.value?_lexemeOf _) rfl rfl
        (Decoder.map_text_lexemeOf Part.name column.name room),
      Decoder.fieldsFound_of_field (StringLexeme.value?_lexemeOf _) rfl rfl htype]
    rfl
  rw [decode, hrecord]
  rfl

end Column

namespace Table

/-- What the written columns of a table are read as. -/
def columnsTree (table : Table) : Tree :=
  .object (table.columns.entries.map fun entry => (lexemeOf entry.1, entry.2.tree)) true

/-- What a written table is read as. -/
def tree (table : Table) : Tree :=
  .object [(lexemeOf "schema_name", .string (lexemeOf table.schema)),
    (lexemeOf "table_name", .string (lexemeOf table.name)),
    (lexemeOf "primary_key", .string (lexemeOf table.primaryKey)),
    (lexemeOf "columns", table.columnsTree)] true

theorem reads_document (table : Table) : Tree.Reads table.document.text.toList table.tree := by
  have hcolumns : Tree.MembersRead (table.columns.entries.map fun entry =>
      (entry.1, entry.2.document)) (table.columns.entries.map fun entry =>
        (lexemeOf entry.1, entry.2.tree)) := by
    rw [Tree.MembersRead, List.forall₂_map_left_iff, List.forall₂_map_right_iff,
      List.forall₂_same]
    exact fun entry _ => ⟨rfl, entry.2.reads_document⟩
  refine Tree.reads_object (.cons ⟨rfl, Tree.reads_string _⟩ ?_)
  refine .cons ⟨rfl, Tree.reads_string _⟩ (.cons ⟨rfl, Tree.reads_string _⟩ ?_)
  exact .cons ⟨rfl, Tree.reads_object hcolumns⟩ .nil

/-- The written columns are read one by one, and make up the same map. -/
theorem decode_columnsTree (table : Table) (room : Nat) :
    ((Decoder.object Column.decode).map fun columns => Part.columns (Keyed.ofList columns))
      (room + 2) table.columnsTree = .ok (.columns table.columns) := by
  have hlists : Decoder.Lists Column.decode (room + 1)
      (table.columns.entries.map fun entry => (lexemeOf entry.1, entry.2.tree))
      table.columns.entries := by
    rw [Decoder.Lists, List.forall₂_map_left_iff, List.forall₂_same]
    exact fun entry _ => ⟨StringLexeme.value?_lexemeOf _, entry.2.decode_tree room⟩
  have hobject : Decoder.object Column.decode (room + 2) table.columnsTree =
      .ok table.columns.entries :=
    Decoder.object_eq_ok_iff.2 ⟨_, _, rfl, rfl, hlists⟩
  rw [Decoder.map, hobject, Except.map, Keyed.ofList_entries]

theorem decode_tree (table : Table) (room : Nat) :
    Table.decode (room + 3) table.tree = .ok table := by
  have hrecord : Decoder.record fields (room + 3) table.tree =
      .ok [.name table.schema, .name table.name, .name table.primaryKey,
        .columns table.columns] := by
    rw [tree, Decoder.record, Decoder.enter]
    simp only [fields, bind, Except.bind]
    rw [Decoder.fieldsFound_of_field (StringLexeme.value?_lexemeOf _) rfl rfl
        (Decoder.map_text_lexemeOf Part.name table.schema (room + 2)),
      Decoder.fieldsFound_of_field (StringLexeme.value?_lexemeOf _) rfl rfl
        (Decoder.map_text_lexemeOf Part.name table.name (room + 2)),
      Decoder.fieldsFound_of_field (StringLexeme.value?_lexemeOf _) rfl rfl
        (Decoder.map_text_lexemeOf Part.name table.primaryKey (room + 2)),
      Decoder.fieldsFound_of_field (StringLexeme.value?_lexemeOf _) rfl rfl
        (table.decode_columnsTree room)]
    rfl
  rw [decode, hrecord]
  rfl

end Table

namespace Catalog

/-- What a written catalog is read as. -/
def tree (catalog : Catalog) : Tree :=
  .object (catalog.tables.entries.map fun entry => (lexemeOf entry.1, entry.2.tree)) true

theorem read_text (catalog : Catalog) : Tree.read catalog.text = (catalog.tree, []) := by
  refine Tree.Reads.read (Tree.reads_object ?_)
  rw [Tree.MembersRead, List.forall₂_map_left_iff, List.forall₂_map_right_iff,
    List.forall₂_same]
  exact fun entry _ => ⟨rfl, entry.2.reads_document⟩

theorem decode_tree (catalog : Catalog) (room : Nat) :
    Catalog.decode (room + 4) catalog.tree = .ok catalog := by
  have hlists : Decoder.Lists Table.decode (room + 3)
      (catalog.tables.entries.map fun entry => (lexemeOf entry.1, entry.2.tree))
      catalog.tables.entries := by
    rw [Decoder.Lists, List.forall₂_map_left_iff, List.forall₂_same]
    exact fun entry _ => ⟨StringLexeme.value?_lexemeOf _, entry.2.decode_tree room⟩
  have hobject : Decoder.object Table.decode (room + 4) catalog.tree =
      .ok catalog.tables.entries :=
    Decoder.object_eq_ok_iff.2 ⟨_, _, rfl, rfl, hlists⟩
  rw [decode, Decoder.map, hobject, Except.map, Sorted.ofList_entries]

/-- A catalog that was written is read again. -/
theorem parse_text (catalog : Catalog) : parse catalog.text = .ok catalog := by
  have hfirst : Decoder.runFirst decode catalog.text = .ok catalog := by
    rw [Decoder.runFirst, read_text]
    exact catalog.decode_tree 123
  rw [parse, Decoder.run, hfirst, read_text]
  rfl

end Catalog

namespace Table

/-- Where a table has its columns: under their key, or as the last of its four items. -/
inductive ColumnsAt : Tree → List (StringLexeme × Tree) → Prop
  | member {members columns : List (StringLexeme × Tree)} {key : StringLexeme}
      (h : (key, .object columns true) ∈ members) (hkey : key.value? = some "columns") :
      ColumnsAt (.object members true) columns
  | item {schema name primaryKey : Tree} {columns : List (StringLexeme × Tree)} :
      ColumnsAt (.array [schema, name, primaryKey, .object columns true] true) columns

/-- A table that is read has its columns in the order of the text, a key that is given
    several times where it first came, with the column that it was given last. -/
structure Ordered (tree : Tree) (table : Table) (columns : List (String × Column)) : Prop where
  given : ∃ members room, ColumnsAt tree members ∧ Decoder.Lists Column.decode room members columns
  keys : table.columns.keys = (columns.map Prod.fst).eraseDups
  last : ∀ key, table.column? key = columns.reverse.lookup key

theorem ofParts_eq_ok {parts : List Part} {table : Table} (h : ofParts parts = .ok table) :
    parts = [.name table.schema, .name table.name, .name table.primaryKey,
      .columns table.columns] := by
  unfold ofParts at h
  split at h
  · cases h
    rfl
  · cases h

/-- The columns are what their members are read as. -/
theorem columns_of_decode {room : Nat} {tree : Tree} {columns : Keyed Column}
    (h : ((Decoder.object Column.decode).map fun columns => Part.columns (Keyed.ofList columns))
      room tree = .ok (.columns columns)) :
    ∃ members inside given, tree = .object members true ∧
      Decoder.Lists Column.decode inside members given ∧ columns = Keyed.ofList given := by
  rcases map_eq_ok_iff.1 h with ⟨given, hgiven, hcolumns⟩
  rcases Decoder.object_eq_ok_iff.1 hgiven with ⟨members, inside, rfl, -, hlists⟩
  cases hcolumns
  exact ⟨members, inside, given, rfl, hlists, rfl⟩

/-- No field of a table may be missing. -/
theorem required {field : Decoder.Field Part} (h : field ∈ fields) : field.fallback = none := by
  simp only [fields, List.mem_cons, List.not_mem_nil, or_false] at h
  rcases h with rfl | rfl | rfl | rfl <;> rfl

/-- A table that is read has its columns from where they are written. -/
theorem exists_columns_of_decode {room : Nat} {tree : Tree} {table : Table}
    (h : Table.decode room tree = .ok table) :
    ∃ members inside given, ColumnsAt tree members ∧
      Decoder.Lists Column.decode inside members given ∧ table.columns = Keyed.ofList given := by
  rcases bind_eq_ok_iff.1 h with ⟨parts, hrecord, hparts⟩
  cases ofParts_eq_ok hparts
  cases tree with
  | object members closed =>
      cases Decoder.closed_of_record hrecord
      rcases Decoder.mem_record hrecord with ⟨-, inside, rfl, hmem, -⟩
      have hcolumns : ("columns", Part.columns table.columns) ∈ (fields.map Decoder.Field.name).zip
          [.name table.schema, .name table.name, .name table.primaryKey,
            .columns table.columns] := by
        simp [fields]
      rcases (hmem _ _).1 hcolumns with
        ⟨key, tree, field, hmember, hkey, hfield, hdecode⟩ | ⟨-, field, hfield, -, hfallback⟩
      · cases hfield
        rcases columns_of_decode hdecode with ⟨written, room, given, rfl, hlists, hgiven⟩
        exact ⟨written, room, given, .member hmember hkey, hlists, hgiven⟩
      · rw [required hfield] at hfallback
        cases hfallback
  | array trees closed =>
      cases room with
      | zero => cases hrecord
      | succ inside =>
          -- Each of the four fields takes an item, and none is left.
          rcases Decoder.fieldsInOrder_cons_eq_ok rfl hrecord with
            ⟨schema, _, _, _, rfl, hparts, -, hrecord⟩
          cases hparts
          rcases Decoder.fieldsInOrder_cons_eq_ok rfl hrecord with
            ⟨name, _, _, _, rfl, hparts, -, hrecord⟩
          cases hparts
          rcases Decoder.fieldsInOrder_cons_eq_ok rfl hrecord with
            ⟨primaryKey, _, _, _, rfl, hparts, -, hrecord⟩
          cases hparts
          rcases Decoder.fieldsInOrder_cons_eq_ok rfl hrecord with
            ⟨tree, _, _, _, rfl, hparts, hdecode, hrecord⟩
          cases hparts
          rcases Decoder.fieldsInOrder_nil_eq_ok hrecord with ⟨rfl, rfl, -⟩
          rcases columns_of_decode hdecode with ⟨written, room, given, rfl, hlists, hgiven⟩
          exact ⟨written, room, given, .item, hlists, hgiven⟩
  | _ => cases hrecord

/-- A table that is read has its columns in order. -/
theorem exists_ordered {room : Nat} {tree : Tree} {table : Table}
    (h : Table.decode room tree = .ok table) : ∃ columns, Ordered tree table columns := by
  rcases exists_columns_of_decode h with ⟨members, inside, given, hat, hlists, hcolumns⟩
  refine ⟨given, ⟨members, inside, hat, hlists⟩, ?_, fun key => ?_⟩
  · rw [hcolumns]
    exact Keyed.keys_ofList given
  · rw [column?, hcolumns]
    exact Keyed.get?_ofList given key

end Table

namespace Catalog

/-- A catalog that is read has its tables sorted by the names of their collections, and of a
    name that is given several times the last table. Each table has its columns in order. -/
structure Ordered (source : String) (catalog : Catalog) (tables : List (String × Table)) :
    Prop where
  given : ∃ members, Tree.read source = (.object members true, []) ∧
    List.Forall₂ (fun member entry => member.1.value? = some entry.1 ∧
      Table.decode 126 member.2 = .ok entry.2 ∧
        ∃ columns, Table.Ordered member.2 entry.2 columns) members tables
  ascending : catalog.tables.names.Pairwise (· < ·)
  last : ∀ name, catalog.table? name = tables.reverse.lookup name

variable {source : String} {catalog : Catalog}

/-- A catalog is read from an object with nothing after it, table by table. -/
theorem parse_eq_ok (h : parse source = .ok catalog) :
    ∃ members tables, Tree.read source = (.object members true, []) ∧
      Decoder.Lists Table.decode 126 members tables ∧ catalog = ⟨Sorted.ofList tables⟩ := by
  rcases bind_eq_ok_iff.1 h with ⟨found, hfound, h⟩
  by_cases hrest : (Tree.read source).2.isEmpty = true
  · rw [if_pos hrest] at h
    cases h
    rcases map_eq_ok_iff.1 hfound with ⟨tables, htables, rfl⟩
    rcases Decoder.object_eq_ok_iff.1 htables with ⟨members, inside, htree, hroom, hlists⟩
    cases hroom
    exact ⟨members, tables, Prod.ext htree (List.isEmpty_iff.1 hrest), hlists, rfl⟩
  · rw [if_neg hrest] at h
    cases h

theorem exists_ordered (h : parse source = .ok catalog) :
    ∃ tables, Ordered source catalog tables := by
  rcases parse_eq_ok h with ⟨members, tables, hread, hlists, rfl⟩
  refine ⟨tables, ⟨members, hread, ?_⟩, ?_, Sorted.get?_ofList tables⟩
  · refine hlists.imp fun member entry hentry => ⟨hentry.1, hentry.2, ?_⟩
    exact Table.exists_ordered hentry.2
  · exact List.pairwise_map.2 (Sorted.ofList tables).ascending

/-- A catalog that is written is read again as what it was, the order of its columns included.
    So the text of a catalog is a canonical form: whatever text a catalog was read from,
    writing and reading it gives the same catalog and then the same text, and catalogs with
    one text are one. What the text was read from may have given the tables in any order and
    names and keys several times. -/
theorem canonical_text :
    (∀ catalog, parse catalog.text = .ok catalog) ∧
    (∀ source catalog, parse source = .ok catalog → ∃ again,
      parse catalog.text = .ok again ∧ again = catalog ∧ again.text = catalog.text) ∧
    (∀ catalog other : Catalog, catalog.text = other.text → catalog = other) ∧
    ∀ source catalog, parse source = .ok catalog → ∃ tables, Ordered source catalog tables := by
  refine ⟨parse_text, fun source catalog _ => ?_, fun catalog other htext => ?_,
    fun source catalog h => exists_ordered h⟩
  · exact ⟨catalog, parse_text catalog, rfl, rfl⟩
  · have hread := parse_text other
    rw [← htext, parse_text] at hread
    exact Except.ok.inj hread

/-- Two tables are not given in order of their names, one of them with a column twice, under
    a key that is not its name. -/
theorem canonical_text_repeated :
    let source := "\x7b\"users\":[\"public\",\"u\",\"id\",\x7b\x7d], \"groups\":[\"public\",\"g\"," ++
      "\"id\",\x7b\"id\":[\"id\",\"integer\"],\"name\":[\"n\\u0061me\",\"string\"]," ++
      "\"id\":[\"gid\",\"string\"]\x7d]\x7d"
    let text := "\x7b\"groups\":\x7b\"schema_name\":\"public\",\"table_name\":\"g\"," ++
      "\"primary_key\":\"id\",\"columns\":\x7b\"id\":\x7b\"name\":\"gid\",\"type\":\"string\"\x7d," ++
      "\"name\":\x7b\"name\":\"name\",\"type\":\"string\"\x7d\x7d\x7d,\"users\":\x7b\"schema_name\":" ++
      "\"public\",\"table_name\":\"u\",\"primary_key\":\"id\",\"columns\":\x7b\x7d\x7d\x7d"
    ∃ catalog, parse source = .ok catalog ∧ catalog.text = text ∧ parse text = .ok catalog ∧
      ∃ tables, Ordered source catalog tables := by
  intro source text
  have hwritten : (parse source).toOption.map Catalog.text = some text := by decide +kernel
  cases hread : parse source with
  | error problem =>
      rw [hread] at hwritten
      cases hwritten
  | ok catalog =>
      rw [hread] at hwritten
      have htext : catalog.text = text := Option.some.inj hwritten
      rcases canonical_text.2.1 source catalog hread with ⟨again, hagain, rfl, -⟩
      rw [htext] at hagain
      exact ⟨again, rfl, htext, hagain, canonical_text.2.2.2 source again hread⟩

end Catalog

end Registrar
