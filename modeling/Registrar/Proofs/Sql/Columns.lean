import Registrar.Sql.Statement

/-!
# Columns of an Expression

The columns that an expression refers to, in the order in which they are written, wherever
they stand: in operands and arguments, in the arms of a case distinction, and in every clause
of a selection inside. A column is given by its table, as a statement refers to it, and its
name. What a whole row is turned into refers to no single column.

## Main definitions

* `Expr.columns`, `Select.columns`: The columns that an expression or a selection refers to.
-/

namespace Registrar

namespace Sql

mutual

/-- The columns that an expression refers to. -/
def Expr.columns : Expr → List (TableRef × String)
  | .and left right => left.columns ++ right.columns
  | .or left right => left.columns ++ right.columns
  | .binary _ left right => left.columns ++ right.columns
  | .unary _ operand => operand.columns
  | .call _ args => Expr.columnsOfAll args
  | .aggregate _ _ args => Expr.columnsOfAll args
  | .case whens otherwise => Expr.columnsOfWhens whens ++ otherwise.columns
  | .exists select => select.columns
  | .rowToJson _ => []
  | .column table name => [(table, name)]
  | .value _ => []
  | .cast operand _ => operand.columns
  | .countAll => []
  | .countDistinct operand => operand.columns

/-- Those of every expression of a list. -/
def Expr.columnsOfAll : List Expr → List (TableRef × String)
  | [] => []
  | expr :: rest => expr.columns ++ Expr.columnsOfAll rest

/-- Those of every arm of a case distinction. -/
def Expr.columnsOfWhens : List (Expr × Expr) → List (TableRef × String)
  | [] => []
  | (condition, result) :: rest =>
    condition.columns ++ result.columns ++ Expr.columnsOfWhens rest

/-- Those of every expression of a list under aliases. -/
def Expr.columnsOfAliased : List (String × Expr) → List (TableRef × String)
  | [] => []
  | (_, expr) :: rest => expr.columns ++ Expr.columnsOfAliased rest

/-- Those of every expression of an ordering. -/
def Expr.columnsOfOrdered : List (Expr × Direction) → List (TableRef × String)
  | [] => []
  | (expr, _) :: rest => expr.columns ++ Expr.columnsOfOrdered rest

/-- Those of what a selection returns. -/
def SelectList.columnsOf : SelectList → List (TableRef × String)
  | .one => []
  | .columns entries => Expr.columnsOfAliased entries

/-- Those of a source of rows. -/
def Source.columns : Source → List (TableRef × String)
  | .table _ _ => []
  | .select select _ => select.columns
  | .call _ args _ => Expr.columnsOfAll args

/-- Those of a source of rows, if there is one. -/
def Source.columnsOfOption : Option Source → List (TableRef × String)
  | none => []
  | some source => source.columns

/-- The columns that a selection refers to. -/
def Select.columns : Select → List (TableRef × String)
  | ⟨list, source, condition, groupBy, orderBy, _, _⟩ =>
    list.columnsOf ++ Source.columnsOfOption source ++ condition.columns ++
      Expr.columnsOfAll groupBy ++ Expr.columnsOfOrdered orderBy

end

end Sql

end Registrar
