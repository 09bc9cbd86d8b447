import Registrar.Listing.Condition
import Registrar.Listing.Page
import Registrar.Sql.Render

/-!
# Plans of a Listing

A listing takes two statements: one returns the page of rows as a JSON array,
the other counts all rows that meet the same condition.

A grouped listing has one row for each value of a column. That column is shown
as it is, every other one as its distinct values with commas between them, or as
a fixed marker if there are more than five. Grouping suppresses ordering.

## Main definitions

* `ListingPlan`: The two statements.
* `ListingPlan.build`: The statements of a query.
* `ListingPlan.ofParams`: The statements that the parameters ask for.
-/

namespace Registrar

open Sql

/-- Shown for a column that has too many values in a group. -/
def multipleValues : String := "Multiple Values"

/-- The greatest number of distinct values that a group shows. -/
def maxShownValues : Int := 5

/-- The values of a column in a group: all of them, or the marker. -/
def foldedValues (column : Expr) : Expr :=
  let text := Expr.castTo column textType
  .case [(.binary .greaterThan (.countDistinct text) (.int maxShownValues),
      .string multipleValues)]
    (.aggregate .stringAgg true [text, .string ","])

/-- The columns of a grouped listing. -/
def Listed.groupedProjection (listed : Listed) (group : Column) : List (String × Expr) :=
  listed.table.columns.values.map fun column =>
    let shown := listed.column column.name
    (column.name, if column.name = group.name then shown else foldedValues shown)

/-- The direction of an ordering in a statement. -/
def SortDirection.toSql : SortDirection → Direction
  | .ascending => .ascending
  | .descending => .descending

/-- The statements of a listing. -/
structure ListingPlan where
  collection : String
  rows : Select
  count : Select

namespace ListingPlan

/-- The columns that a listing shows. -/
def shownColumns (listed : Listed) (query : ListingQuery) : List (String × Expr) :=
  match query.groupBy with
  | none => listed.projection
  | some column => listed.groupedProjection column

/-- The column that a listing is grouped by. -/
def grouping (listed : Listed) (query : ListingQuery) : List Expr :=
  match query.groupBy with
  | none => []
  | some column => [listed.column column.name]

/-- The ordering of a listing; a grouped one has none. -/
def ordering (listed : Listed) (query : ListingQuery) : List (Expr × Direction) :=
  match query.groupBy with
  | none => query.orderBy.map fun entry => (listed.column entry.1.name, entry.2.toSql)
  | some _ => []

/-- The rows of one page, before they are gathered into an array. -/
def pageOfRows (listed : Listed) (query : ListingQuery) (page : Page) (condition : Expr) : Select :=
  { Select.simple (shownColumns listed query) with
    source := some listed.source
    condition := condition
    groupBy := grouping listed query
    orderBy := ordering listed query
    limit := some page.size
    offset := some page.offset }

/-- The statements of a query. -/
def build (catalog : Catalog) (listed : Listed) (restriction : Option Restriction)
    (query : ListingQuery) (page : Page) : Except QueryError ListingPlan := do
  let narrowed ← match restriction with
    | none => pure []
    | some restriction => do
      let condition ← restriction.condition catalog listed
      pure [condition]
  let condition := Expr.conjunction (narrowed ++ query.conditions listed)
  pure {
    collection := listed.collection
    rows := (pageOfRows listed query page condition).asRows
    count := .count listed.source condition }

/-- The statements that the parameters ask for. The page is looked at first, so a
    bad page is reported even if the filters are malformed as well. -/
def ofParams (catalog : Catalog) (collection : String) (restriction : Option Restriction)
    (params : Params) : Except QueryError ListingPlan := do
  let page ← Page.ofParams params
  let listed ← catalog.find collection
  let query ← ListingQuery.parse listed.table collection params
  build catalog listed restriction query page

end ListingPlan

end Registrar
