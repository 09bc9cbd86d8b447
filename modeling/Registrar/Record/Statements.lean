import Registrar.Collection
import Registrar.Sql.Render

/-!
# Statements on Single Records

Reading, inserting, changing and removing one record. The values of a write come
in one bound document that the database unfolds into a row of the table's type;
a statement names the columns to take from it, those columns of the catalog that
are members of the document.

## Main definitions

* `Record`: The members of a document, sorted by name.
* `Record.select`: Read a record by its primary key.
* `Record.insert`: Insert a record and return its primary key.
* `Record.update?`: Set the columns that a document has.
* `Record.delete`, `Record.deleteWhere`: Remove records.
-/

namespace Registrar

open Sql

/-- The members of a document that is written, by the columns' keys. -/
abbrev Record := Sorted Json.Document

namespace Record

/-- The alias of an inserted record's primary key. -/
def insertedId : String := "id"

/-- The type of a primary key that is handed back. -/
def keyType : String := "int8"

/-- A record as a document. -/
def document (record : Record) : Json.Document :=
  .object record.entries

/-- Read a record by its primary key, as one JSON object. -/
def select (catalog : Catalog) (collection : String) (id : Int) : Except QueryError Select := do
  let listed ← catalog.find collection
  pure (Select.asRow { Select.simple listed.projection with
    source := some listed.source
    condition := listed.keyIs id })

/-- The columns that a record has, in the order of the catalog. -/
def presentColumns (listed : Listed) (record : Record) : List String :=
  listed.table.columns.keys.filter record.contains

/-- A column of the row that a document is unfolded into. -/
def payloadColumn (key : String) : Expr :=
  .column (.known payloadAlias) key

/-- The row that a record is unfolded into. -/
def unfolded (listed : Listed) (record : Record) : Source :=
  .unfolded listed.table.schema listed.table.name record.document

/-- Where the row of an insertion comes from. Without any column it consists of
    the defaults. -/
def insertSource (listed : Listed) (record : Record) : InsertFrom :=
  let columns := presentColumns listed record
  if columns.isEmpty then .defaults
  else .select { Select.simple (columns.map fun key => (key, payloadColumn key)) with
    source := some (unfolded listed record) }

/-- Insert a record and return its primary key. -/
def insert (catalog : Catalog) (collection : String) (record : Record) :
    Except QueryError Insert := do
  let listed ← catalog.find collection
  let table := listed.table
  pure {
    schema := table.schema
    table := table.name
    columns := presentColumns listed record
    source := insertSource listed record
    returning := .columns
      [(insertedId, .castTo (.column (.table table.schema table.name) table.primaryKey) keyType)] }

/-- Set the columns that a record has. Columns it does not have are left alone;
    without any there is nothing to do. -/
def update? (catalog : Catalog) (collection : String) (id : Int) (record : Record) :
    Except QueryError (Option Update) := do
  let listed ← catalog.find collection
  let columns := presentColumns listed record
  if columns.isEmpty then pure none
  else pure (some {
    schema := listed.table.schema
    table := listed.table.name
    label := collection
    set := Sorted.ofList (columns.map fun key => (key, payloadColumn key))
    source := some (unfolded listed record)
    condition := listed.keyIs id })

/-- The conditions that columns hold given integers. -/
def matchConditions (listed : Listed) : List (String × Int) → Except QueryError (List Expr)
  | [] => .ok []
  | (key, value) :: rest => do
    listed.requireColumn key
    let conditions ← matchConditions listed rest
    pure (listed.columnIs key value :: conditions)

/-- Remove the records whose columns hold the given integers. -/
def deleteWhere (catalog : Catalog) (collection : String) (values : List (String × Int)) :
    Except QueryError Delete := do
  let listed ← catalog.find collection
  let conditions ← matchConditions listed values
  pure ⟨listed.source, .conjunction conditions⟩

/-- Remove a record by its primary key, which has to be a column for that. -/
def delete (catalog : Catalog) (collection : String) (id : Int) : Except QueryError Delete := do
  let listed ← catalog.find collection
  deleteWhere catalog collection [(listed.table.primaryKey, id)]

end Record

end Registrar
