import Registrar.Catalog.Builtin
import Registrar.Collection

/-!
# Names of the Catalog

The names under which the database knows what is in a catalog: schemas, tables and
columns. In the built-in catalog a collection bears the name of its table, a column is
found under its own name, and a primary key is one of the columns, so whatever a
statement takes from the catalog is such a name. The secret columns are not among them.

## Main definitions

* `Catalog.names`: The names of schemas, tables and columns.
* `secretNames`: The columns that are kept secret.
* `Listed.Known`, `Catalog.Known`: All names of a collection, or of all collections, have
  a property.

## Theorems

* `Catalog.builtin_named`: How the built-in collections are named.
* `Catalog.known_of_find`: All names of a built-in collection are names of the catalog.
* `Catalog.not_mem_names_of_secret`: No name of the catalog is secret.
-/

namespace Registrar

/-- The names of the schemas, tables and columns of a catalog. -/
def Catalog.names (catalog : Catalog) : List String :=
  catalog.tables.entries.flatMap fun entry =>
    entry.2.schema :: entry.2.name :: entry.2.columns.values.map Column.name

/-- The columns that are kept secret, by never being named. -/
def secretNames : List String := ["password", "token"]

/-- All names of a collection have a property: its own, those of its table, and those of
    the columns and their keys. -/
structure Listed.Known (known : String → Prop) (listed : Listed) : Prop where
  collection : known listed.collection
  schema : known listed.table.schema
  table : known listed.table.name
  primaryKey : known listed.table.primaryKey
  columns : ∀ entry ∈ listed.table.columns.entries, known entry.1 ∧ known entry.2.name

/-- All names of all collections have a property. -/
def Catalog.Known (known : String → Prop) (catalog : Catalog) : Prop :=
  ∀ {collection : String} {listed : Listed},
    catalog.find collection = .ok listed → listed.Known known

namespace Listed.Known

variable {known : String → Prop} {listed : Listed}

theorem mono {known' : String → Prop} (h : listed.Known known)
    (hknown : ∀ value, known value → known' value) : listed.Known known' :=
  ⟨hknown _ h.collection, hknown _ h.schema, hknown _ h.table, hknown _ h.primaryKey,
    fun entry hentry => (h.columns entry hentry).imp (hknown _) (hknown _)⟩

theorem column {key : String} {column : Column} (h : listed.Known known)
    (hcolumn : listed.table.column? key = some column) : known key ∧ known column.name :=
  h.columns _ (Keyed.mem_of_get? hcolumn)

theorem requireColumn {key : String} {u : Unit} (h : listed.Known known)
    (hkey : listed.requireColumn key = .ok u) : known key := by
  rw [Listed.requireColumn] at hkey
  split at hkey
  · rename_i hsome
    rcases Option.isSome_iff_exists.1 hsome with ⟨column, hcolumn⟩
    exact (h.column hcolumn).1
  · exact nomatch hkey

end Listed.Known

namespace Catalog

theorem mem_of_find {catalog : Catalog} {collection : String} {listed : Listed}
    (h : catalog.find collection = .ok listed) :
    (listed.collection, listed.table) ∈ catalog.tables.entries := by
  rcases find_eq_ok_iff.1 h with ⟨hcollection, htable⟩
  rw [hcollection]
  exact Sorted.mem_of_get? htable

/-- A built-in collection bears the name of its table, its primary key is a column, and a
    column is found under its own name. -/
theorem builtin_named : ∀ entry ∈ builtin.tables.entries, entry.1 = entry.2.name ∧
    (entry.2.column? entry.2.primaryKey).isSome ∧
      ∀ column ∈ entry.2.columns.entries, column.1 = column.2.name := by
  decide +kernel

/-- The primary key of a built-in collection is a column. -/
theorem column?_primaryKey {collection : String} {listed : Listed}
    (h : builtin.find collection = .ok listed) :
    (listed.table.column? listed.table.primaryKey).isSome :=
  (builtin_named _ (mem_of_find h)).2.1

/-- The names of a table are names of its catalog. -/
theorem mem_names {catalog : Catalog} {entry : String × Table}
    (h : entry ∈ catalog.tables.entries) :
    entry.2.schema ∈ catalog.names ∧ entry.2.name ∈ catalog.names ∧
      ∀ column ∈ entry.2.columns.entries, column.2.name ∈ catalog.names := by
  have hall : ∀ value ∈ entry.2.schema :: entry.2.name :: entry.2.columns.values.map Column.name,
      value ∈ catalog.names := fun value hvalue => List.mem_flatMap.2 ⟨entry, h, hvalue⟩
  rcases List.forall_mem_cons.1 hall with ⟨hschema, hall⟩
  rcases List.forall_mem_cons.1 hall with ⟨hname, hall⟩
  refine ⟨hschema, hname, fun column hcolumn => ?_⟩
  exact hall _ (List.mem_map_of_mem (List.mem_map_of_mem hcolumn))

/-- All names of a built-in collection are names of schemas, tables and columns, in
    particular the alias that its table goes by and the keys of its columns. -/
theorem known_of_find {collection : String} {listed : Listed}
    (h : builtin.find collection = .ok listed) : listed.Known (· ∈ builtin.names) := by
  rcases builtin_named _ (mem_of_find h) with ⟨hnamed, hprimaryKey, hkeys⟩
  rcases mem_names (mem_of_find h) with ⟨hschema, htable, hcolumns⟩
  have hkey : ∀ entry ∈ listed.table.columns.entries, entry.1 ∈ builtin.names := by
    intro entry hentry
    rw [hkeys entry hentry]
    exact hcolumns entry hentry
  refine ⟨?_, hschema, htable, ?_, fun entry hentry => ⟨hkey entry hentry, hcolumns entry hentry⟩⟩
  · have hsame : listed.collection = listed.table.name := hnamed
    rw [hsame]
    exact htable
  · rcases Option.isSome_iff_exists.1 hprimaryKey with ⟨column, hcolumn⟩
    exact hkey _ (Keyed.mem_of_get? hcolumn)

theorem not_mem_names_of_secret : ∀ value ∈ secretNames, value ∉ builtin.names := by
  decide +kernel

/-- A secret name is not even the key of a column. -/
theorem column?_of_secret : ∀ entry ∈ builtin.tables.entries, ∀ value ∈ secretNames,
    entry.2.column? value = none := by
  intro entry hentry value hsecret
  cases hcolumn : entry.2.column? value with
  | none => rfl
  | some column =>
      have hmem := Keyed.mem_of_get? hcolumn
      have hname := (mem_names hentry).2.2 _ hmem
      rw [← (builtin_named entry hentry).2.2 _ hmem] at hname
      exact absurd hname (not_mem_names_of_secret value hsecret)

end Catalog

end Registrar
