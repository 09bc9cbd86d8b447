import Registrar.Map.Keyed
import Registrar.Map.Sorted

/-!
# The Catalog

The catalog names the collections that the service knows and, for each, the
table that holds it: schema, table, primary key and columns. Only what is in the
catalog can be selected, filtered on, ordered by or written, so a secret column
is kept secret by leaving it out.

A column is found by its key and has a name of its own. In the built-in catalog
the two agree; the types allow them to differ.

## Main definitions

* `ColumnType`, `Column`, `Table`: What is known of a table.
* `Catalog`: The tables of all collections.
* `Table.column?`: The column under a key.
* `Catalog.table?`: The table of a collection.
-/

namespace Registrar

/-- What kind of values a column holds. -/
inductive ColumnType
  | string
  | integer
  | boolean
  | timestamp
  | enum
  deriving DecidableEq, Repr

namespace ColumnType

/-- The types with their names. -/
def named : List (String × ColumnType) :=
  [("string", string), ("integer", integer), ("boolean", boolean), ("timestamp", timestamp),
   ("enum", enum)]

/-- The name of a type. -/
def name : ColumnType → String
  | string => "string"
  | integer => "integer"
  | boolean => "boolean"
  | timestamp => "timestamp"
  | enum => "enum"

/-- Whether values of a type can be matched with a pattern as they are. -/
def isTextual (type : ColumnType) : Bool :=
  type = string

/-- A name finds its type. -/
theorem lookup_name (type : ColumnType) : named.lookup type.name = some type := by
  cases type <;> decide

end ColumnType

/-- A column of a table. -/
structure Column where
  name : String
  type : ColumnType
  deriving DecidableEq, Repr

/-- A table and its columns, in the order in which a listing shows them. The
    primary key need not be one of the columns. -/
structure Table where
  schema : String
  name : String
  primaryKey : String
  columns : Keyed Column

/-- The column under a key. -/
def Table.column? (table : Table) (key : String) : Option Column :=
  table.columns.get? key

/-- The tables of all collections. -/
structure Catalog where
  tables : Sorted Table

/-- The table of a collection. -/
def Catalog.table? (catalog : Catalog) (collection : String) : Option Table :=
  catalog.tables.get? collection

end Registrar
