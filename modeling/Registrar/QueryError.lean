/-!
# Query Errors

Why a request does not become a statement. Most causes are a malformed filter
and the client's doing; an unknown collection is not, because collections are
named by the service.

## Main definitions

* `QueryError`: The causes.
* `QueryError.message`: Their wording.
* `QueryError.isParseFailure`: Whether the cause is a malformed filter.

## Theorems

* `bind_eq_ok_iff`: Two computations after one another succeed just if both do.
* `bind_eq_error_iff`: They fail if one of them does, with the error of the first that does.
* `eq_error_iff_of_ok_iff`: A computation with one error fails just if it has no result.
-/

namespace Registrar

/-- Of two computations after one another, where the first that fails decides, a result
    is that of the second on a result of the first. -/
theorem bind_eq_ok_iff {ε α β : Type} {first : Except ε α} {next : α → Except ε β} {b : β} :
    first >>= next = .ok b ↔ ∃ a, first = .ok a ∧ next a = .ok b := by
  cases first with
  | error e =>
      constructor
      · intro h
        exact nomatch h
      · rintro ⟨a, h, -⟩
        exact nomatch h
  | ok a =>
      constructor
      · intro h
        exact ⟨a, rfl, h⟩
      · rintro ⟨a', ha, h⟩
        cases ha
        exact h

/-- Two computations after one another fail with the error of the first that fails. -/
theorem bind_eq_error_iff {ε α β : Type} {first : Except ε α} {next : α → Except ε β} {e : ε} :
    first >>= next = .error e ↔ first = .error e ∨ ∃ a, first = .ok a ∧ next a = .error e := by
  cases first with
  | error found =>
      constructor
      · intro h
        cases h
        exact Or.inl rfl
      · rintro (h | ⟨a, h, -⟩)
        · cases h
          rfl
        · cases h
  | ok a =>
      constructor
      · intro h
        exact Or.inr ⟨a, rfl, h⟩
      · rintro (h | ⟨a', h, hnext⟩)
        · cases h
        · cases h
          exact hnext

/-- A computation that can fail in one way only does so just if it has no result. -/
theorem eq_error_iff_of_ok_iff {ε α : Type} {result : Except ε α} {P : α → Prop} {only e : ε}
    (hok : ∀ a, result = .ok a ↔ P a) (herror : ∀ e, result = .error e → e = only) :
    result = .error e ↔ (∀ a, ¬P a) ∧ e = only := by
  constructor
  · intro h
    refine ⟨fun a ha => ?_, herror e h⟩
    rw [(hok a).2 ha] at h
    cases h
  · rintro ⟨hnone, rfl⟩
    cases hresult : result with
    | ok a => exact absurd ((hok a).1 hresult) (hnone a)
    | error found => rw [herror found hresult]

theorem map_eq_ok_iff {ε α β : Type} {result : Except ε α} {f : α → β} {b : β} :
    result.map f = .ok b ↔ ∃ a, result = .ok a ∧ f a = b := by
  cases result with
  | error e => exact ⟨nofun, nofun⟩
  | ok a => simp [Except.map]

theorem exists_of_isOk {ε α : Type} (result : Except ε α) (h : result.isOk = true) :
    ∃ a, result = .ok a := by
  cases result with
  | error e => exact absurd h Bool.false_ne_true
  | ok a => exact ⟨a, rfl⟩

/-- What can be checked of a result is true of it. -/
theorem exists_of_any {ε α : Type} (result : Except ε α) {test : α → Bool}
    (h : result.toOption.any test = true) : ∃ a, result = .ok a ∧ test a = true := by
  cases result with
  | error e => exact absurd h Bool.false_ne_true
  | ok a => exact ⟨a, rfl, h⟩

/-- Why a request does not become a statement. -/
inductive QueryError
  | collectionNotFound (collection : String)
  | columnNotFound (column collection : String)
  | orGroupNotParenthesised (value : String)
  | malformedOrClause (clause : String)
  | unsupportedOperator (column value : String)
  | invalidPagination (reason : String)
  deriving DecidableEq, Repr

namespace QueryError

/-- The wording of an error. -/
def message : QueryError → String
  | collectionNotFound collection => s!"Collection '{collection}' not found."
  | columnNotFound column collection =>
    s!"Column '{column}' not found in collection '{collection}'."
  | orGroupNotParenthesised value =>
    s!"The 'or' value '{value}' must be wrapped in a single pair of parentheses."
  | malformedOrClause clause =>
    s!"Malformed clause '{clause}' in 'or' group, expected '<column>.<operator>'."
  | unsupportedOperator column value =>
    s!"Unsupported operator '{value}' for column '{column}'."
  | invalidPagination reason => s!"Invalid pagination: {reason}"

/-- Whether the cause is a malformed filter, as opposed to bad paging or an
    unknown collection. -/
def isParseFailure : QueryError → Bool
  | columnNotFound .. | orGroupNotParenthesised _ | malformedOrClause _
  | unsupportedOperator .. => true
  | collectionNotFound _ | invalidPagination _ => false

end QueryError

end Registrar
