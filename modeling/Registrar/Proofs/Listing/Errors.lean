import Registrar.Listing.Plan
import Registrar.Proofs.Listing.Compose

/-!
# Errors of a Listing

All that can be wrong with the parameters of a listing is the client's doing: a page that is
none, a filter that is malformed, a column that does not exist. Only an unknown collection is
ours, and as long as the collection that is listed and the one that it is linked through are
in the catalog there is none.

## Main definitions

* `FailsWith`: Every error of a computation has a property.
* `QueryError.IsClients`: An error is the client's doing.
* `Restriction.Known`: The collection that a restriction names is in the catalog.

## Theorems

* `FailsWith.bind`: Of two computations after one another.
* `ListingQuery.failsWith_parse`: The errors of a query.
* `ListingPlan.failsWith_ofParams`: The errors of a listing.
-/

namespace Registrar

/-- Every error that a computation may end in has a property. -/
def FailsWith {ε α : Type} (P : ε → Prop) (result : Except ε α) : Prop :=
  ∀ e, result = .error e → P e

section FailsWith

variable {ε α β : Type} {P : ε → Prop}

theorem failsWith_ok (a : α) : FailsWith P (.ok a : Except ε α) := nofun

theorem failsWith_error {e : ε} (h : P e) : FailsWith P (.error e : Except ε α) := by
  intro e' he
  cases he
  exact h

theorem FailsWith.bind {first : Except ε α} {next : α → Except ε β} (h : FailsWith P first)
    (hnext : ∀ a, FailsWith P (next a)) : FailsWith P (first >>= next) := by
  cases first with
  | ok a => exact hnext a
  | error e => exact failsWith_error (h e rfl)

theorem FailsWith.map {result : Except ε α} (h : FailsWith P result) (f : α → β) :
    FailsWith P (result.map f) := by
  cases result with
  | ok a => exact failsWith_ok (f a)
  | error e => exact failsWith_error (h e rfl)

theorem FailsWith.mapError {ε' : Type} {P' : ε' → Prop} {result : Except ε α} {f : ε → ε'}
    (h : FailsWith P result) (hf : ∀ e, P e → P' (f e)) : FailsWith P' (result.mapError f) := by
  cases result with
  | ok a => exact failsWith_ok a
  | error e => exact failsWith_error (hf e (h e rfl))

end FailsWith

/-- An error is the client's doing. Collections are named by the service. -/
def QueryError.IsClients : QueryError → Prop
  | collectionNotFound _ => False
  | columnNotFound .. | orGroupNotParenthesised _ | malformedOrClause _
  | unsupportedOperator .. | invalidPagination _ => True

open QueryError (IsClients)

namespace Page

theorem failsWith_new (index size : Int) : FailsWith IsClients (new index size) := by
  rw [new]
  split
  · exact failsWith_error trivial
  · split
    · exact failsWith_error trivial
    · split
      · exact failsWith_ok _
      · exact failsWith_error trivial

theorem failsWith_ofParams (params : Params) : FailsWith IsClients (ofParams params) := by
  have hinteger : ∀ key default, FailsWith IsClients (integerParam params key default) := by
    intro key default
    rw [integerParam]
    split
    · exact failsWith_ok _
    · split
      · exact failsWith_ok _
      · exact failsWith_error trivial
  refine (hinteger indexKey 0).bind fun index => ?_
  exact (hinteger sizeKey defaultSize).bind fun size => failsWith_new index size

end Page

theorem Filter.failsWith_parseGroup {table : Table} {collection : String} (value : String) :
    FailsWith IsClients (parseGroup table collection value) := by
  intro e he
  cases parseGroup_eq_error_iff.1 he with
  | unparenthesised => trivial
  | clause _ _ hclause => cases hclause <;> trivial

theorem Directive.failsWith_parse (column : Column) (value : String) :
    FailsWith IsClients (parse column value) := by
  intro e he
  rw [(parse_eq_error_iff.1 he).2]
  trivial

namespace ListingQuery

variable {table : Table} {collection : String}

theorem failsWith_step (query : ListingQuery) (param : String × String) :
    FailsWith IsClients (step table collection query param) := by
  rcases param with ⟨key, value⟩
  rcases key_cases table key with rfl | hkey | ⟨hkey, column, hcolumn⟩
  · rw [step_of_or]
    exact (Filter.failsWith_parseGroup value).map _
  · rw [step_of_unheeded hkey]
    exact failsWith_ok query
  · rw [step_of_column hkey hcolumn]
    exact (Directive.failsWith_parse column value).map _

theorem failsWith_parse (params : Params) :
    FailsWith IsClients (parse table collection params) := by
  rw [parse]
  -- The query that has been taken up so far does not matter.
  generalize empty = query
  induction params generalizing query with
  | nil => exact failsWith_ok query
  | cons param rest ih => exact (failsWith_step query param).bind ih

end ListingQuery

/-- The collection that a restriction names, if it names one, is in the catalog. -/
def Restriction.Known (catalog : Catalog) : Restriction → Prop
  | linked link _ _ _ => ∃ linkTable, catalog.find link = .ok linkTable
  | column _ _ => True

variable {catalog : Catalog} {listed : Listed}

theorem failsWith_requireColumn (key : String) :
    FailsWith IsClients (listed.requireColumn key) := by
  rw [Listed.requireColumn]
  split
  · exact failsWith_ok ()
  · exact failsWith_error trivial

theorem Restriction.failsWith_condition {restriction : Restriction}
    (h : restriction.Known catalog) :
    FailsWith IsClients (restriction.condition catalog listed) := by
  cases restriction with
  | linked link ownColumn otherColumn id =>
      rcases h with ⟨linkTable, hlink⟩
      rw [condition, hlink]
      refine (failsWith_ok linkTable).bind fun linkTable => ?_
      refine (failsWith_requireColumn ownColumn).bind fun _ => ?_
      exact (failsWith_requireColumn otherColumn).bind fun _ => failsWith_ok _
  | column key id => exact (failsWith_requireColumn key).bind fun _ => failsWith_ok _

/-- All that can be wrong with a listing of a known collection is the client's doing. -/
theorem ListingPlan.failsWith_ofParams {collection : String} {restriction : Option Restriction}
    (hlisted : catalog.find collection = .ok listed)
    (hknown : ∀ known ∈ restriction, Restriction.Known catalog known) (params : Params) :
    FailsWith IsClients (ofParams catalog collection restriction params) := by
  have hbuild : ∀ listed query page,
      FailsWith IsClients (build catalog listed restriction query page) := by
    intro listed query page
    cases restriction with
    | none => exact failsWith_ok _
    | some restriction =>
        exact (Restriction.failsWith_condition (hknown restriction rfl)).bind
          fun condition => failsWith_ok _
  refine (Page.failsWith_ofParams params).bind fun page => ?_
  rw [hlisted]
  refine (failsWith_ok listed).bind fun listed => ?_
  exact (ListingQuery.failsWith_parse params).bind fun query => hbuild listed query page

end Registrar
