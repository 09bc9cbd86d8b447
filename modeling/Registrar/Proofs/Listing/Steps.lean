import Registrar.Proofs.Listing.Compose

/-!
# Steps of a Listing Query

What one parameter can do to a query: a group adds its filters, a directive on a
column is taken up, everything else is passed over. Whatever holds of a query and
is kept by each of these holds of the query that all parameters describe.

## Theorems

* `Filter.parseGroup_ne_nil`: A group has a filter at least.
* `Filter.parse_column`, `Filter.parseGroup_columns`: Filters are on columns of the table.
* `ListingQuery.step_cases`: What a parameter does.
* `ListingQuery.steps_keeps`: What every parameter keeps, all of them keep.
* `ListingQuery.steps_collects`, `ListingQuery.steps_replaces`: What parameters that each may
  yield something lead to, if all of it is kept and if the last is.
-/

namespace Registrar

namespace Filter

variable {table : Table} {collection : String}

theorem parseGroup_ne_nil {value : String} {filters : List Filter}
    (h : parseGroup table collection value = .ok filters) : filters ≠ [] :=
  (parseGroup_eq_ok_iff.1 h).ne_nil

theorem parse_column {column : Column} {text : List Char} {filter : Filter}
    (h : parse column text = .ok filter) : filter.column = column :=
  (parse_eq_ok_iff.1 h).column_eq

theorem parseGroup_columns {value : String} {filters : List Filter}
    (h : parseGroup table collection value = .ok filters) :
    ∀ filter ∈ filters, ∃ key, table.column? key = some filter.column :=
  (parseGroup_eq_ok_iff.1 h).exists_key

end Filter

namespace Directive

/-- A filter that a column's parameter describes is on that column. -/
theorem parse_filter {column : Column} {value : String} {filter : Filter}
    (h : parse column value = .ok (.filter filter)) : filter.column = column := by
  cases parse_eq_ok_iff.1 h with
  | filter hfilter => exact hfilter.column_eq

end Directive

namespace ListingQuery

variable {table : Table} {collection : String}

/-- A parameter adds a group, or is passed over, or gives a directive on a column. -/
theorem step_cases {query next : ListingQuery} {param : String × String}
    (h : step table collection query param = .ok next) :
    (param.1 = orKey ∧ ∃ group, Filter.parseGroup table collection param.2 = .ok group ∧
      next = { query with groups := query.groups ++ [group] }) ∨
    (param.1 ≠ orKey ∧ (param.1 ∈ reservedKeys ∨ table.column? param.1 = none) ∧
      next = query) ∨
    (param.1 ∉ reservedKeys ∧ ∃ column directive, table.column? param.1 = some column ∧
      Directive.parse column param.2 = .ok directive ∧ next = query.add column directive) := by
  rcases param with ⟨key, value⟩
  rcases key_cases table key with rfl | hkey | ⟨hkey, column, hcolumn⟩
  · rw [step_of_or] at h
    rcases map_eq_ok_iff.1 h with ⟨group, hgroup, rfl⟩
    exact Or.inl ⟨rfl, group, hgroup, rfl⟩
  · rw [step_of_unheeded hkey] at h
    cases h
    exact Or.inr (Or.inl ⟨hkey.passed_over.1, hkey.passed_over.2, rfl⟩)
  · rw [step_of_column hkey hcolumn] at h
    rcases map_eq_ok_iff.1 h with ⟨directive, hdirective, rfl⟩
    exact Or.inr (Or.inr ⟨hkey, column, directive, hcolumn, hdirective, rfl⟩)

/-- What every parameter keeps, all of them keep. -/
theorem steps_keeps {P : ListingQuery → Prop}
    (hstep : ∀ query param next, step table collection query param = .ok next → P query → P next)
    {query final : ListingQuery} {params : Params}
    (h : steps table collection query params = .ok final) (hquery : P query) : P final := by
  induction params generalizing query with
  | nil =>
      cases h
      exact hquery
  | cons param rest ih =>
      rcases bind_eq_ok_iff.1 h with ⟨next, hnext, h⟩
      exact ih h (hstep query param next hnext hquery)

/-- If every parameter may add something to a list, then all of them add what each yields, in
    their order. -/
theorem steps_collects {α : Type} {field : ListingQuery → List α}
    {yields : String × String → Option α}
    (hstep : ∀ {query param next}, step table collection query param = .ok next →
      field next = field query ++ (yields param).toList)
    {query final : ListingQuery} {params : Params}
    (h : steps table collection query params = .ok final) :
    field final = field query ++ params.filterMap yields := by
  -- The query so far is a variable, because every parameter adds to it.
  induction params generalizing query with
  | nil =>
      cases h
      exact (List.append_nil _).symm
  | cons param rest ih =>
      rcases bind_eq_ok_iff.1 h with ⟨next, hnext, h⟩
      rw [ih h, hstep hnext, List.append_assoc, List.filterMap_cons]
      cases yields param <;> rfl

/-- If every parameter may put something in the place of what is there, then what the last of
    them yields is left. -/
theorem steps_replaces {α : Type} {field : ListingQuery → Option α}
    {yields : String × String → Option α}
    (hstep : ∀ {query param next}, step table collection query param = .ok next →
      field next = (yields param).or (field query))
    {query final : ListingQuery} {params : Params}
    (h : steps table collection query params = .ok final) :
    field final = (params.filterMap yields).getLast?.or (field query) := by
  induction params generalizing query with
  | nil =>
      cases h
      rfl
  | cons param rest ih =>
      rcases bind_eq_ok_iff.1 h with ⟨next, hnext, h⟩
      rw [ih h, hstep hnext, List.filterMap_cons]
      cases yields param with
      | none => rfl
      | some a =>
          -- What comes later wins over this, which wins over what was there before.
          rw [List.getLast?_cons]
          cases (rest.filterMap yields).getLast? <;> rfl

end ListingQuery

end Registrar
