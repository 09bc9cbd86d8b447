import Registrar.Collection
import Registrar.Listing.Query

/-!
# Conditions of a Listing

The rows of a listing meet a restriction, if it has one, and everything its
query asks for. A restriction narrows a listing to the rows that belong to one
other record: either a link table ties the two together, or a column of the
listed table holds the record's id.

A pattern without the wildcard `%` is searched for anywhere in the text. A column
that does not hold text is matched by its written form.

## Main definitions

* `Restriction`: To which other record the rows belong.
* `Restriction.condition`: What it asks of a row.
* `Filter.condition`: What a filter asks of a row.
* `ListingQuery.conditions`: What a query asks of a row, one condition for each
  filter and each group.
-/

namespace Registrar

open Sql

/-- The type whose values are matched as text. -/
def textType : String := "varchar"

/-- The pattern that a search looks for. -/
def likePattern (pattern : String) : String :=
  if '%' ∈ pattern.toList then pattern else "%" ++ pattern ++ "%"

namespace Filter

/-- What is matched with a pattern: the column, or its written form. -/
def likeTarget (listed : Listed) (column : Column) : Expr :=
  if column.type.isTextual then listed.column column.name
  else .castTo (listed.column column.name) textType

/-- What a filter asks of a row. Negation picks the opposite operator. -/
def condition (listed : Listed) (filter : Filter) : Expr :=
  let column := listed.column filter.column.name
  match filter.operator, filter.negate with
  | .eq operand, false => .binary .equals column (.string operand)
  | .eq operand, true => .binary .notEquals column (.string operand)
  | .like pattern, false =>
    .binary .like (likeTarget listed filter.column) (.string (likePattern pattern))
  | .like pattern, true =>
    .binary .notLike (likeTarget listed filter.column) (.string (likePattern pattern))
  | .isNull, false => .unary .isNull column
  | .isNull, true => .unary .isNotNull column
  | .isTrue, false => .unary .isTrue column
  | .isTrue, true => .unary .isNotTrue column
  | .isFalse, false => .unary .isFalse column
  | .isFalse, true => .unary .isNotFalse column

end Filter

namespace ListingQuery

/-- What a query asks of a row: each filter, then one of each group. -/
def conditions (listed : Listed) (query : ListingQuery) : List Expr :=
  query.filters.map (Filter.condition listed) ++
    query.groups.map fun group => Expr.disjunction (group.map (Filter.condition listed))

end ListingQuery

/-- To which other record the rows of a listing belong. -/
inductive Restriction
  /-- A row of the link table has the listed row's primary key in `ownColumn` and
      the record's id in `otherColumn`. -/
  | linked (link ownColumn otherColumn : String) (id : Int)
  /-- A column of the listed table holds the record's id. -/
  | column (key : String) (id : Int)
  deriving DecidableEq, Repr

namespace Restriction

/-- What a restriction asks of a row. -/
def condition (catalog : Catalog) (listed : Listed) : Restriction → Except QueryError Expr
  | linked link ownColumn otherColumn id => do
    let linkTable ← catalog.find link
    linkTable.requireColumn ownColumn
    linkTable.requireColumn otherColumn
    pure (.exists (.existence linkTable.source (.conjunction
      [.equals (linkTable.column ownColumn) (listed.column listed.table.primaryKey),
       linkTable.columnIs otherColumn id])))
  | column key id => do
    listed.requireColumn key
    pure (listed.columnIs key id)

end Restriction

end Registrar
