import Registrar.Proofs.Sql.Truth

/-!
# Conditions on Stored Rows

What a condition comes to once there are rows. `Sql.Truth` leaves single comparisons
open; here they are decided, against a database and a scope. The scope says which row
each alias stands for. A selection inside a condition brings an alias of its own, and if
that is the name of an alias outside, it hides it: within the selection the name means
the inner row, and there is no other way to reach the outer one.

The evaluation is deliberately partial. It covers what the conditions on whole records
are made of: equality of columns and constants, conjunction and alternative, and
`EXISTS` over the rows of a table. Whatever else a condition may hold has no value here,
and neither has a column under an alias that is nowhere in scope.

## Main definitions

* `Datum`, `Row`, `Database`: What is stored.
* `Scope`: Which row an alias stands for.
* `Expr.datum?`: The value of an operand.
* `Expr.truth?`, `Select.inhabited?`: What a condition comes to, and an `EXISTS`.

## Theorems

* `Datum.equals_eq_true_iff`: Equality is true of equal values that are not null.
* `Expr.datum?_inner`, `Expr.datum?_outer`: An alias reaches the innermost row of its name.
* `Expr.truth?_conjunction`: A chain of conditions that have values.
* `Expr.truth?_existence`: There are rows just if the condition is true on one of them.
-/

namespace Registrar

namespace Sql

/-- A stored value. Values that are neither integers nor booleans are given by their
    written form. -/
inductive Datum
  | null
  | integer (value : Int)
  | boolean (value : Bool)
  | text (written : String)
  deriving DecidableEq, Repr

/-- Whether two stored values are equal, which is unknown if one of them is missing. -/
def Datum.equals : Datum → Datum → Truth
  | null, _ | _, null => .unknown
  | left, right => if left = right then .true else .false

theorem Datum.equals_eq_true_iff {left right : Datum} :
    left.equals right = .true ↔ left = right ∧ left ≠ .null := by
  cases left with
  | null => exact ⟨nofun, fun h => absurd rfl h.2⟩
  | integer | boolean | text =>
      cases right with
      | null => exact ⟨nofun, fun h => nomatch h.1⟩
      | integer | boolean | text => simp [equals]

/-- A stored row: the value under each column. -/
abbrev Row := String → Datum

/-- What is stored: the rows of each table of each schema. -/
structure Database where
  rows : (schema table : String) → List Row

/-- The rows in scope under their aliases, from the innermost one outwards. -/
abbrev Scope := List (String × Row)

/-- There are rows on which a condition is true. This is never unknown. -/
def Truth.exists (values : List Truth) : Truth :=
  if true ∈ values then true else false

theorem Truth.exists_eq_true_iff {values : List Truth} :
    Truth.exists values = true ↔ true ∈ values := by
  rw [Truth.exists]
  split
  · exact ⟨fun _ => ‹_›, fun _ => rfl⟩
  · exact ⟨nofun, fun h => absurd h ‹_›⟩

theorem Truth.exists_ne_unknown (values : List Truth) : Truth.exists values ≠ unknown := by
  rw [Truth.exists]
  split <;> exact nofun

/-- The value of an operand: a column of a row in scope, or a constant. -/
def Expr.datum? (scope : Scope) : Expr → Option Datum
  | .column (.known label) name => (scope.lookup label).map fun row => row name
  | .value (.int n) => some (.integer n)
  | .value (.bool b) => some (.boolean b)
  | .value (.string s) => some (.text s)
  | .value .null => some .null
  | _ => none

mutual

/-- What a condition comes to in a scope. -/
def Expr.truth? (database : Database) : Expr → Scope → Option Truth
  | .and left right, scope => do
    let first ← left.truth? database scope
    let second ← right.truth? database scope
    pure (first.and second)
  | .or left right, scope => do
    let first ← left.truth? database scope
    let second ← right.truth? database scope
    pure (first.or second)
  | .binary .equals left right, scope => do
    let first ← left.datum? scope
    let second ← right.datum? scope
    pure (first.equals second)
  | .value (.bool b), _ => some (if b then .true else .false)
  | .exists select, scope => select.inhabited? database scope
  | _, _ => none

/-- Whether a selection from a table has rows. Each row of the table is in scope under the
    selection's alias while its condition is decided. -/
def Select.inhabited? (database : Database) : Select → Scope → Option Truth
  | ⟨.one, some (.table (.table schema table) label), condition, [], [], none, none⟩, scope =>
    ((database.rows schema table).mapM fun row =>
      condition.truth? database ((label, row) :: scope)).map Truth.exists
  | _, _ => none

end

namespace Expr

variable {database : Database} {scope : Scope} {label : String} {row : Row}

/-- An alias means the row that was brought in last under it. -/
theorem datum?_inner (name : String) :
    (column (.known label) name).datum? ((label, row) :: scope) = some (row name) := by
  rw [datum?, List.lookup_cons_self]
  rfl

/-- An alias of another name reaches past that row. -/
theorem datum?_outer {other : String} (h : other ≠ label) (name : String) :
    (column (.known other) name).datum? ((label, row) :: scope) =
      (column (.known other) name).datum? scope := by
  have hlookup : List.lookup other ((label, row) :: scope) = scope.lookup other := by
    rw [List.lookup_cons, beq_eq_false_iff_ne.2 h]
  rw [datum?, datum?, hlookup]

theorem truth?_equals {left right : Expr} {first second : Datum}
    (hfirst : left.datum? scope = some first) (hsecond : right.datum? scope = some second) :
    (equals left right).truth? database scope = some (first.equals second) := by
  rw [equals, truth?, hfirst, hsecond]
  rfl

theorem truth?_and {left right : Expr} {first second : Truth}
    (hfirst : left.truth? database scope = some first)
    (hsecond : right.truth? database scope = some second) :
    (and left right).truth? database scope = some (first.and second) := by
  rw [truth?, hfirst, hsecond]
  rfl

/-- A chain of conditions that all have a value has the value of their conjunction. -/
theorem truth?_conjunction {α : Type} {condition : α → Expr} {value : α → Truth}
    (h : ∀ a, (condition a).truth? database scope = some (value a)) (members : List α) :
    (conjunction (members.map condition)).truth? database scope =
      some (Truth.all (members.map value)) := by
  have hchain : ∀ (rest : List α) {first : Expr} {truth : Truth},
      first.truth? database scope = some truth →
      ((rest.map condition).foldl and first).truth? database scope =
        some (truth.and (Truth.all (rest.map value))) := by
    intro rest
    induction rest with
    | nil =>
        intro first truth hfirst
        exact hfirst.trans (congrArg some (Truth.and_true truth).symm)
    | cons next rest ih =>
        intro first truth hfirst
        rw [List.map_cons, List.foldl_cons, ih (truth?_and hfirst (h next)), Truth.and_assoc,
          List.map_cons, Truth.all_cons]
  cases members with
  | nil => rfl
  | cons first rest => exact hchain rest (h first)

/-- An `EXISTS` over the rows of a table holds just if its condition is true on one of
    them, each under the table's alias. -/
theorem truth?_existence {schema table : String} {condition : Expr} {value : Row → Truth}
    (h : ∀ row, condition.truth? database ((label, row) :: scope) = some (value row)) :
    (Expr.exists (.existence (.table (.table schema table) label) condition)).truth? database
      scope = some (.exists ((database.rows schema table).map value)) := by
  have hrows : (fun row => condition.truth? database ((label, row) :: scope)) =
      fun row => pure (value row) := funext h
  rw [truth?, Select.existence, Select.simple, Select.inhabited?, hrows, List.mapM_pure]
  rfl

end Expr

end Sql

end Registrar
