import Registrar.Json.Document

/-!
# SQL Statements

The part of PostgreSQL that the service speaks, as data: selections, insertions,
updates and deletions, with the conditions and expressions inside them. A
statement is built from these types and written out by `Sql.Render`; nothing
else in the library puts SQL text together.

Request text enters a statement in two places only, a string value and a bound
document. All names come from the catalog or are fixed.

## Main definitions

* `TableRef`: A table, by its name in the database or by an alias.
* `Value`: A literal or a bound document.
* `Expr`, `Select`, `SelectList`, `Source`: Expressions and selections.
* `Insert`, `Update`, `Delete`, `Statement`: What is sent.
-/

namespace Registrar

namespace Sql

/-- A table, by its name in the database or by an alias given in the statement. -/
inductive TableRef
  | table (schema name : String)
  | known (name : String)
  deriving DecidableEq, Repr

/-- The functions that statements call. -/
inductive Function
  | coalesce
  | jsonAgg
  | jsonbPopulateRecord
  | stringAgg
  deriving DecidableEq, Repr

/-- A comparison of two operands. -/
inductive BinaryOp
  | equals
  | notEquals
  | greaterThan
  | like
  | notLike
  deriving DecidableEq, Repr

/-- A test of one operand. -/
inductive UnaryOp
  | isNull
  | isNotNull
  | isTrue
  | isNotTrue
  | isFalse
  | isNotFalse
  deriving DecidableEq, Repr

/-- The target of a cast: a type, or the row type of a table in a schema. -/
inductive TypeName
  | qualified (schema name : String)
  | named (name : String)
  deriving DecidableEq, Repr

/-- A value in a statement. A document is bound, everything else is written. -/
inductive Value
  | int (value : Int)
  | bool (value : Bool)
  | string (value : String)
  | null
  | json (document : Json.Document)
  | emptyJsonArray
  deriving Repr

/-- The direction of an ordering. -/
inductive Direction
  | ascending
  | descending
  deriving DecidableEq, Repr

mutual

/-- An expression, boolean or otherwise. -/
inductive Expr
  | and (left right : Expr)
  | or (left right : Expr)
  | binary (op : BinaryOp) (left right : Expr)
  | unary (op : UnaryOp) (operand : Expr)
  | call (function : Function) (args : List Expr)
  | aggregate (function : Function) (distinct : Bool) (args : List Expr)
  | case (whens : List (Expr × Expr)) (otherwise : Expr)
  | «exists» (select : Select)
  | rowToJson (table : TableRef)
  | column (table : TableRef) (name : String)
  | value (value : Value)
  | cast (operand : Expr) (type : TypeName)
  | countAll
  | countDistinct (operand : Expr)

/-- What a selection returns: the number 1, or expressions under aliases. -/
inductive SelectList
  | one
  | columns (entries : List (String × Expr))

/-- Where rows come from, under an alias. -/
inductive Source
  | table (table : TableRef) (label : String)
  | select (select : Select) (label : String)
  | call (function : Function) (args : List Expr) (label : String)

/-- A selection. Clauses that are empty, or a condition that is `true`, are not
    written. -/
structure Select where
  list : SelectList
  source : Option Source
  condition : Expr
  groupBy : List Expr
  orderBy : List (Expr × Direction)
  limit : Option Nat
  offset : Option Nat

end

/-- Where the row of an insertion comes from. -/
inductive InsertFrom
  | defaults
  | select (select : Select)

/-- An insertion, and what it hands back. -/
structure Insert where
  schema : String
  table : String
  columns : List String
  source : InsertFrom
  returning : SelectList

/-- A change of the rows that meet a condition. The columns are set in the order
    of their names. -/
structure Update where
  schema : String
  table : String
  label : String
  set : Sorted Expr
  source : Option Source
  condition : Expr

/-- A removal of the rows that meet a condition. -/
structure Delete where
  source : Source
  condition : Expr

/-- A statement to be sent. -/
inductive Statement
  | select (select : Select)
  | insert (insert : Insert)
  | update (update : Update)
  | delete (delete : Delete)

end Sql

end Registrar
