import Registrar.Catalog.Basic
import Registrar.QueryError
import Registrar.Sql.Build

/-!
# Collections in Statements

In a statement the table of a collection goes by an alias, the collection's
name, and its columns are reached through that alias.

## Main definitions

* `Listed`: A collection with its table.
* `Catalog.find`: The collection of a name.
* `Listed.source`, `Listed.column`, `Listed.projection`: Its parts in a
  statement.
-/

namespace Registrar

/-- A collection with the table that holds it. -/
structure Listed where
  collection : String
  table : Table

/-- The collection of a name, if the catalog has it. -/
def Catalog.find (catalog : Catalog) (collection : String) : Except QueryError Listed :=
  match catalog.table? collection with
  | some table => .ok ⟨collection, table⟩
  | none => .error (.collectionNotFound collection)

theorem Catalog.find_eq_ok_iff {catalog : Catalog} {collection : String} {listed : Listed} :
    catalog.find collection = .ok listed ↔
      listed.collection = collection ∧ catalog.table? collection = some listed.table := by
  rw [find]
  cases htable : catalog.table? collection with
  | none =>
      constructor
      · intro h
        exact nomatch h
      · rintro ⟨-, h⟩
        exact nomatch h
  | some table =>
      constructor
      · intro h
        cases h
        exact ⟨rfl, rfl⟩
      · rintro ⟨rfl, h⟩
        cases h
        rfl

namespace Listed

open Sql

/-- The table under its alias. -/
def source (listed : Listed) : Source :=
  .table (.table listed.table.schema listed.table.name) listed.collection

/-- A column, through the alias. -/
def column (listed : Listed) (name : String) : Expr :=
  .column (.known listed.collection) name

/-- Every column under its own name, in the order of the catalog. -/
def projection (listed : Listed) : List (String × Expr) :=
  listed.table.columns.values.map fun column => (column.name, listed.column column.name)

/-- A column holds an integer. -/
def columnIs (listed : Listed) (name : String) (value : Int) : Expr :=
  .equals (listed.column name) (.int value)

/-- The primary key is an id. -/
def keyIs (listed : Listed) (id : Int) : Expr :=
  listed.columnIs listed.table.primaryKey id

/-- Insist that a key is that of a column. -/
def requireColumn (listed : Listed) (key : String) : Except QueryError Unit :=
  if (listed.table.column? key).isSome then .ok ()
  else .error (.columnNotFound key listed.collection)

end Listed

end Registrar
