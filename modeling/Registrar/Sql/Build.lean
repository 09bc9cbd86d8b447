import Registrar.Sql.Statement

/-!
# Shapes of Statements

The few shapes in which statements are built: chains of conditions, selections
with most clauses left out, and the two wrappings that turn rows into JSON.

A page of rows comes back as one JSON array and a record as one JSON object, so
the database does every conversion of values. A write goes the other way: one
document is bound and unfolded into a row of the table's type.

## Main definitions

* `Expr.conjunction`, `Expr.disjunction`: Conditions chained from the left.
* `Select.simple`, `Select.existence`, `Select.count`: Plain selections.
* `Select.asRows`, `Select.asRow`: Rows as a JSON array, or each as an object.
* `Source.unfolded`: A bound document as a row.

## Theorems

* `Expr.conjunction_induction`, `Expr.disjunction_induction`: What holds of chains.
-/

namespace Registrar

namespace Sql

/-- The alias of the rows of a page, and of the column that they come in. -/
def rowsAlias : String := "rows"

/-- The alias of the column that a record comes in. -/
def rowAlias : String := "row"

/-- The alias of the row that a bound document is unfolded into. -/
def payloadAlias : String := "payload"

/-- The alias of a count. -/
def countAlias : String := "count"

namespace Expr

/-- The condition that always holds. -/
def «true» : Expr := value (.bool Bool.true)

/-- The condition that never holds. -/
def «false» : Expr := value (.bool Bool.false)

/-- Join conditions from the left; without any there is no restriction. -/
def conjunction : List Expr → Expr
  | [] => «true»
  | first :: rest => rest.foldl and first

/-- Join alternatives from the left; without any nothing matches. -/
def disjunction : List Expr → Expr
  | [] => «false»
  | first :: rest => rest.foldl or first

/-- What is kept by joining two conditions holds of a chain of them. -/
theorem conjunction_induction {P : Expr → Prop} (hnone : P «true»)
    (hjoin : ∀ {left right : Expr}, P left → P right → P (.and left right))
    {conditions : List Expr} (h : ∀ condition ∈ conditions, P condition) :
    P (conjunction conditions) := by
  cases conditions with
  | nil => exact hnone
  | cons first rest =>
      exact List.foldlRecOn rest and (h first List.mem_cons_self) fun _ hleft right hright =>
        hjoin hleft (h right (List.mem_cons_of_mem _ hright))

theorem disjunction_induction {P : Expr → Prop} (hnone : P «false»)
    (hjoin : ∀ {left right : Expr}, P left → P right → P (.or left right))
    {conditions : List Expr} (h : ∀ condition ∈ conditions, P condition) :
    P (disjunction conditions) := by
  cases conditions with
  | nil => exact hnone
  | cons first rest =>
      exact List.foldlRecOn rest or (h first List.mem_cons_self) fun _ hleft right hright =>
        hjoin hleft (h right (List.mem_cons_of_mem _ hright))

/-- Two operands are equal. -/
def equals (left right : Expr) : Expr := binary .equals left right

/-- A cast to a type without a schema. -/
def castTo (operand : Expr) (type : String) : Expr := cast operand (.named type)

/-- An integer. -/
def int (n : Int) : Expr := value (.int n)

/-- A string. -/
def string (s : String) : Expr := value (.string s)

end Expr

namespace Select

/-- A selection of expressions under aliases, without any clause. -/
def simple (columns : List (String × Expr)) : Select where
  list := .columns columns
  source := none
  condition := .true
  groupBy := []
  orderBy := []
  limit := none
  offset := none

/-- Whether there are rows: the selection inside an `EXISTS`. -/
def existence (source : Source) (condition : Expr) : Select :=
  { simple [] with list := .one, source := some source, condition := condition }

/-- The number of rows that meet a condition. -/
def count (source : Source) (condition : Expr) : Select :=
  { simple [(countAlias, .countAll)] with source := some source, condition := condition }

/-- The rows of a selection as one JSON array, which is empty and not null if
    there are none. -/
def asRows (select : Select) : Select :=
  { simple [(rowsAlias, .call .coalesce
      [.call .jsonAgg [.rowToJson (.known rowsAlias)], .value .emptyJsonArray])] with
    source := some (.select select rowsAlias) }

/-- Each row of a selection as one JSON object. -/
def asRow (select : Select) : Select :=
  { simple [(rowAlias, .rowToJson (.known rowsAlias))] with
    source := some (.select select rowsAlias) }

end Select

namespace Source

/-- A bound document as a row of a table's type. -/
def unfolded (schema table : String) (document : Json.Document) : Source :=
  .call .jsonbPopulateRecord
    [.cast (.value .null) (.qualified schema table), .value (.json document)] payloadAlias

end Source

end Sql

end Registrar
