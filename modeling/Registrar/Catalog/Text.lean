import Registrar.Catalog.Basic
import Registrar.Json.Decoder

/-!
# Catalogs as JSON

A catalog is written as an object from collections to tables, and a table as an
object whose `columns` keep their order. Writing is canonical: tables come sorted
by name, the fields of a table and of a column in one fixed order.

Reading is as lenient as reading any record: unknown members are passed over,
and a table or a column may be an array of its fields. A collection that is
given twice takes the last table; a column key that is given twice keeps its
first place and takes the last column.

## Main definitions

* `Catalog.text`: The written form of a catalog.
* `Catalog.parse`: The catalog that a text describes.
-/

namespace Registrar

open Json

namespace Column

/-- A column as a document. -/
def document (column : Column) : Document :=
  .object [("name", .string column.name), ("type", .string column.type.name)]

/-- What a field of a column holds. -/
inductive Part
  | name (value : String)
  | type (value : ColumnType)

/-- The fields of a column. -/
def fields : List (Decoder.Field Part) :=
  [⟨"name", Decoder.text.map .name, none⟩,
   ⟨"type", (Decoder.oneOf ColumnType.named).map .type, none⟩]

/-- A column from its fields. -/
def ofParts : List Part → Except Problem Column
  | [.name name, .type type] => .ok ⟨name, type⟩
  | _ => .error .mismatched

/-- Read a column. -/
def decode : Decoder Column := fun room tree => do
  let parts ← Decoder.record fields room tree
  ofParts parts

end Column

namespace Table

/-- A table as a document. -/
def document (table : Table) : Document :=
  .object
    [("schema_name", .string table.schema), ("table_name", .string table.name),
     ("primary_key", .string table.primaryKey),
     ("columns", .object (table.columns.entries.map fun entry => (entry.1, entry.2.document)))]

/-- What a field of a table holds. -/
inductive Part
  | name (value : String)
  | columns (value : Keyed Column)

/-- The fields of a table. -/
def fields : List (Decoder.Field Part) :=
  [⟨"schema_name", Decoder.text.map .name, none⟩,
   ⟨"table_name", Decoder.text.map .name, none⟩,
   ⟨"primary_key", Decoder.text.map .name, none⟩,
   ⟨"columns", (Decoder.object Column.decode).map fun columns => .columns (Keyed.ofList columns),
    none⟩]

/-- A table from its fields. -/
def ofParts : List Part → Except Problem Table
  | [.name schema, .name name, .name primaryKey, .columns columns] =>
    .ok ⟨schema, name, primaryKey, columns⟩
  | _ => .error .mismatched

/-- Read a table. -/
def decode : Decoder Table := fun room tree => do
  let parts ← Decoder.record fields room tree
  ofParts parts

end Table

namespace Catalog

/-- A catalog as a document. -/
def document (catalog : Catalog) : Document :=
  .object (catalog.tables.entries.map fun entry => (entry.1, entry.2.document))

/-- The written form of a catalog. -/
def text (catalog : Catalog) : String :=
  catalog.document.text

/-- Read a catalog. -/
def decode : Decoder Catalog :=
  (Decoder.object Table.decode).map fun tables => ⟨Sorted.ofList tables⟩

/-- The catalog that a text describes. -/
def parse (source : String) : Except Problem Catalog :=
  Decoder.run decode source

end Catalog

end Registrar
