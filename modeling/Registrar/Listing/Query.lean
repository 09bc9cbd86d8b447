import Registrar.Listing.Filter

/-!
# Listing Queries

What the parameters of a listing ask for, paging apart. A parameter's key names
a column of the collection and its value is a filter or a directive:
`order_by.asc`, `order_by.desc` or `group_by`. The key `or` carries a group of
filters. Parameters whose key is no column are passed over, and so are the
reserved keys.

The parameters are taken one after another. Filters, groups and orderings are
kept in the order in which they came; of several groupings the last one counts.

## Main definitions

* `Directive`: What the value of a column's parameter asks for.
* `ListingQuery`: What all parameters ask for.
* `ListingQuery.parse`: The query that a list of parameters describes.
-/

namespace Registrar

/-- The names and values of a request's parameters, in order. -/
abbrev Params := List (String × String)

/-- The direction of an ordering. -/
inductive SortDirection
  | ascending
  | descending
  deriving DecidableEq, Repr

/-- What the value of a column's parameter asks for. -/
inductive Directive
  | filter (filter : Filter)
  | order (direction : SortDirection)
  | group
  deriving DecidableEq, Repr

namespace Directive

/-- The directive on a column that a value describes. -/
def parse (column : Column) (value : String) : Except QueryError Directive :=
  if value = "group_by" then .ok group
  else
    match Text.afterLead? "order_by.".toList value.toList with
    | some direction =>
      if direction = "asc".toList then .ok (order .ascending)
      else if direction = "desc".toList then .ok (order .descending)
      else .error (.unsupportedOperator column.name value)
    | none => (Filter.parse column value.toList).map filter

end Directive

/-- What the parameters of a listing ask for. All filters must hold, and of each
    group at least one. -/
structure ListingQuery where
  filters : List Filter
  groups : List (List Filter)
  orderBy : List (Column × SortDirection)
  groupBy : Option Column
  deriving DecidableEq, Repr

namespace ListingQuery

/-- The key of a group of alternatives. -/
def orKey : String := "or"

/-- The keys that are never looked up as columns. -/
def reservedKeys : List String := ["page", "page_size", orKey]

/-- Nothing asked for. -/
def empty : ListingQuery := ⟨[], [], [], none⟩

/-- Take up a directive on a column. -/
def add (query : ListingQuery) (column : Column) : Directive → ListingQuery
  | .filter filter => { query with filters := query.filters ++ [filter] }
  | .order direction => { query with orderBy := query.orderBy ++ [(column, direction)] }
  | .group => { query with groupBy := some column }

/-- Take up a parameter. -/
def step (table : Table) (collection : String) (query : ListingQuery)
    (param : String × String) : Except QueryError ListingQuery :=
  if param.1 = orKey then do
    let group ← Filter.parseGroup table collection param.2
    pure { query with groups := query.groups ++ [group] }
  else if param.1 ∈ reservedKeys then .ok query
  else
    match table.column? param.1 with
    | none => .ok query
    | some column => do
      let directive ← Directive.parse column param.2
      pure (query.add column directive)

/-- Take up parameters one after another; the first that fails decides. -/
def steps (table : Table) (collection : String) :
    ListingQuery → Params → Except QueryError ListingQuery
  | query, [] => .ok query
  | query, param :: rest => do
    let query ← step table collection query param
    steps table collection query rest

/-- The query that a list of parameters describes. -/
def parse (table : Table) (collection : String) (params : Params) :
    Except QueryError ListingQuery :=
  steps table collection empty params

end ListingQuery

end Registrar
