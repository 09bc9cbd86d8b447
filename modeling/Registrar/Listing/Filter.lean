import Registrar.Catalog.Basic
import Registrar.QueryError
import Registrar.Text.Cut

/-!
# Filters

A filter is one condition on one column. As the value of a parameter it is
written

    ["not."] ("eq." operand | "like." operand | "is.null" | "is.true" | "is.false")

An `or` group is the alternative of several filters. It is written in
parentheses, its filters separated by commas, each after the key of its column
and a point. Neither parentheses nor commas can occur inside.

An operand may write a space as `%20`. All other escapes are left alone, so that
the wildcard `%` survives in patterns.

## Main definitions

* `Operator`, `Filter`: A condition on a column.
* `Filter.parse`: The filter that a parameter's value describes.
* `Filter.parseGroup`: The filters of an `or` group.
-/

namespace Registrar

/-- What a filter asks of its column. -/
inductive Operator
  | eq (operand : String)
  | like (pattern : String)
  | isNull
  | isTrue
  | isFalse
  deriving DecidableEq, Repr

/-- A condition on a column. -/
structure Filter where
  column : Column
  negate : Bool
  operator : Operator
  deriving DecidableEq, Repr

namespace Operator

/-- An operand as it is meant: `%20` is a space. -/
def operand (text : List Char) : String :=
  String.ofList (Text.replaceAll ['%', '2', '0'] [' '] text)

/-- The operator that a text describes. -/
def parse? (text : List Char) : Option Operator :=
  match Text.afterLead? "eq.".toList text, Text.afterLead? "like.".toList text with
  | some rest, _ => some (eq (operand rest))
  | none, some rest => some (like (operand rest))
  | none, none =>
    if text = "is.null".toList then some isNull
    else if text = "is.true".toList then some isTrue
    else if text = "is.false".toList then some isFalse
    else none

end Operator

namespace Filter

/-- Whether a filter's text is negated, and what is left of it. -/
def negation (text : List Char) : Bool × List Char :=
  match Text.afterLead? "not.".toList text with
  | some rest => (true, rest)
  | none => (false, text)

/-- The filter on a column that a text describes. -/
def parse (column : Column) (text : List Char) : Except QueryError Filter :=
  let (negate, rest) := negation text
  match Operator.parse? rest with
  | some operator => .ok ⟨column, negate, operator⟩
  | none => .error (.unsupportedOperator column.name (String.ofList text))

/-- The inside of a group in a single pair of parentheses. -/
def groupInside? (text : List Char) : Option (List Char) := do
  let rest ← Text.afterLead? ['('] text
  let inside ← Text.beforeLast? ')' rest
  if '(' ∈ inside ∨ ')' ∈ inside then none else some inside

/-- The key and the filter text of a clause; neither is empty. -/
def clauseParts? (clause : List Char) : Option (List Char × List Char) :=
  (Text.cutAt? '.' clause).filter fun parts => !parts.1.isEmpty && !parts.2.isEmpty

/-- One clause of a group: the key of a column, a point, a filter. -/
def parseClause (table : Table) (collection : String) (clause : List Char) :
    Except QueryError Filter :=
  match clauseParts? clause with
  | none => .error (.malformedOrClause (String.ofList clause))
  | some (key, rest) =>
    match table.column? (String.ofList key) with
    | none => .error (.columnNotFound (String.ofList key) collection)
    | some column => parse column rest

/-- The clauses of a group, in order; the first that fails decides. -/
def parseClauses (table : Table) (collection : String) :
    List (List Char) → Except QueryError (List Filter)
  | [] => .ok []
  | clause :: rest => do
    let filter ← parseClause table collection clause
    let filters ← parseClauses table collection rest
    pure (filter :: filters)

/-- The filters of an `or` group. -/
def parseGroup (table : Table) (collection : String) (value : String) :
    Except QueryError (List Filter) :=
  match groupInside? value.toList with
  | none => .error (.orGroupNotParenthesised value)
  | some inside => parseClauses table collection (Text.splitOn ',' inside)

end Filter

end Registrar
