import Registrar.Sql.Build
import Registrar.Sql.Render

/-!
# Truth of Conditions

The database decides conditions with three truth values: a comparison with a
missing value is neither true nor false. A row is returned just if its condition
is true, so the two others differ only inside larger conditions.

What a single comparison or test comes to depends on the row. It is left open
here: a condition is evaluated from any assignment of truth values to the
expressions that are neither a conjunction nor an alternative. The chains that
statements build are then the conjunction and the alternative of their members,
whatever those are.

## Main definitions

* `Truth`: The truth values, with `Truth.and` and `Truth.or`.
* `Truth.all`, `Truth.any`: The conjunction and the alternative of several.
* `Expr.truth`: The value of a condition.
* `Select.truth`: The value of what a selection asks of a row.

## Theorems

* `Truth.all_perm`: The order of a conjunction does not matter.
* `Truth.all_eq_true_iff`: A conjunction is true just if all its members are.
* `Expr.truth_conjunction`, `Expr.truth_disjunction`: The values of chains.
-/

namespace Registrar

namespace Sql

/-- What a condition comes to on a row. -/
inductive Truth
  | false
  | unknown
  | true
  deriving DecidableEq, Repr

namespace Truth

/-- Both hold: false as soon as one is false. -/
def and : Truth → Truth → Truth
  | true, right => right
  | false, _ => false
  | unknown, false => false
  | unknown, _ => unknown

/-- At least one holds: true as soon as one is true. -/
def or : Truth → Truth → Truth
  | false, right => right
  | true, _ => true
  | unknown, true => true
  | unknown, _ => unknown

/-- All of several hold. -/
def all (values : List Truth) : Truth := values.foldr and true

/-- At least one of several holds. -/
def any (values : List Truth) : Truth := values.foldr or false

theorem and_comm (a b : Truth) : a.and b = b.and a := by
  cases a <;> cases b <;> rfl

theorem and_assoc (a b c : Truth) : (a.and b).and c = a.and (b.and c) := by
  cases a <;> cases b <;> cases c <;> rfl

theorem or_assoc (a b c : Truth) : (a.or b).or c = a.or (b.or c) := by
  cases a <;> cases b <;> cases c <;> rfl

@[simp] theorem true_and (a : Truth) : true.and a = a := rfl

@[simp] theorem and_true (a : Truth) : a.and true = a := by
  cases a <;> rfl

@[simp] theorem or_false (a : Truth) : a.or false = a := by
  cases a <;> rfl

theorem and_eq_true_iff {a b : Truth} : a.and b = true ↔ a = true ∧ b = true := by
  cases a <;> cases b <;> decide

@[simp] theorem all_nil : all [] = true := rfl

@[simp] theorem all_cons (a : Truth) (values : List Truth) :
    all (a :: values) = a.and (all values) := rfl

@[simp] theorem any_cons (a : Truth) (values : List Truth) :
    any (a :: values) = a.or (any values) := rfl

theorem all_append (front back : List Truth) :
    all (front ++ back) = (all front).and (all back) := by
  induction front with
  | nil => rfl
  | cons a front ih => rw [List.cons_append, all_cons, all_cons, ih, and_assoc]

theorem all_perm {front back : List Truth} (h : front.Perm back) : all front = all back := by
  induction h with
  | nil => rfl
  | cons a _ ih => rw [all_cons, all_cons, ih]
  | swap a b values =>
      rw [all_cons, all_cons, all_cons, all_cons, ← and_assoc, ← and_assoc, and_comm a b]
  | trans _ _ ih1 ih2 => exact ih1.trans ih2

theorem all_eq_true_iff {values : List Truth} :
    all values = true ↔ ∀ value ∈ values, value = true := by
  induction values with
  | nil => simp
  | cons a values ih => rw [all_cons, and_eq_true_iff, ih, List.forall_mem_cons]

end Truth

namespace Expr

/-- What a condition comes to, given what the expressions come to that are neither a
    conjunction nor an alternative. -/
def truth (valuation : Expr → Truth) : Expr → Truth
  | and left right => (truth valuation left).and (truth valuation right)
  | or left right => (truth valuation left).or (truth valuation right)
  | single => valuation single

variable {valuation : Expr → Truth}

theorem truth_foldl_and (first : Expr) (rest : List Expr) :
    (rest.foldl and first).truth valuation =
      (first.truth valuation).and (Truth.all (rest.map (truth valuation))) := by
  induction rest generalizing first with
  | nil => exact (Truth.and_true _).symm
  | cons next rest ih =>
      rw [List.foldl_cons, ih, truth, Truth.and_assoc, List.map_cons, Truth.all_cons]

theorem truth_foldl_or (first : Expr) (rest : List Expr) :
    (rest.foldl or first).truth valuation =
      (first.truth valuation).or (Truth.any (rest.map (truth valuation))) := by
  induction rest generalizing first with
  | nil => exact (Truth.or_false _).symm
  | cons next rest ih =>
      rw [List.foldl_cons, ih, truth, Truth.or_assoc, List.map_cons, Truth.any_cons]

/-- A chain of alternatives is true as soon as one of them is. Without any there is no
    such chain, but a constant, which the valuation decides. -/
theorem truth_disjunction {conditions : List Expr} (hne : conditions ≠ []) :
    (disjunction conditions).truth valuation =
      Truth.any (conditions.map (truth valuation)) := by
  cases conditions with
  | nil => exact absurd rfl hne
  | cons first rest => exact truth_foldl_or first rest

/-- A chain of alternatives is written out, even if it has no members. -/
theorem isTrivial_disjunction {conditions : List Expr}
    (h : ∀ condition ∈ conditions, condition.isTrivial = Bool.false) :
    (disjunction conditions).isTrivial = Bool.false := by
  rcases conditions with _ | ⟨first, rest⟩
  · rfl
  · -- The last alternative to be joined decides about the shape of the chain.
    rcases List.eq_nil_or_concat rest with rfl | ⟨front, last, rfl⟩
    · exact h first List.mem_cons_self
    · rw [disjunction, List.concat_eq_append, List.foldl_append]
      rfl

/-- So is a chain of conditions, if it has members. -/
theorem isTrivial_conjunction {conditions : List Expr} (hne : conditions ≠ [])
    (h : ∀ condition ∈ conditions, condition.isTrivial = Bool.false) :
    (conjunction conditions).isTrivial = Bool.false := by
  rcases conditions with _ | ⟨first, rest⟩
  · exact absurd rfl hne
  · -- Here too the last member to be joined decides about the shape.
    rcases List.eq_nil_or_concat rest with rfl | ⟨front, last, rfl⟩
    · exact h first List.mem_cons_self
    · rw [conjunction, List.concat_eq_append, List.foldl_append]
      rfl

/-- What a condition asks of a row, as a statement says it: one that is always true is
    left out and counts as true, whatever the valuation. -/
def clauseTruth (valuation : Expr → Truth) (condition : Expr) : Truth :=
  if condition.isTrivial then .true else condition.truth valuation

/-- A chain of conditions is true just if all of them are, and without any it is left
    out. A chain of one must not be left out, so its member must not be trivial. -/
theorem clauseTruth_conjunction {conditions : List Expr}
    (h : ∀ condition ∈ conditions, condition.isTrivial = Bool.false) :
    (conjunction conditions).clauseTruth valuation =
      Truth.all (conditions.map (truth valuation)) := by
  rcases conditions with _ | ⟨first, rest⟩
  · rfl
  · have htrivial := isTrivial_conjunction (List.cons_ne_nil first rest) h
    rw [clauseTruth, htrivial, if_neg Bool.false_ne_true]
    exact truth_foldl_and first rest

end Expr

/-- What a selection asks of a row. -/
def Select.truth (valuation : Expr → Truth) (select : Select) : Truth :=
  select.condition.clauseTruth valuation

end Sql

end Registrar
