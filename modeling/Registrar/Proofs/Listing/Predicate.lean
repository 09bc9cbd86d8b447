import Registrar.Catalog.Builtin
import Registrar.Listing.Plan
import Registrar.Proofs.Listing.Steps
import Registrar.Proofs.Sql.Truth

/-!
# The Predicate of a Listing

Both statements of a listing ask the same of a row: what the restriction asks, and
what each parameter asks. On its way into the statements a parameter passes through
the parser, through one of two lists and through a chain of conditions that has no
clause of its own if it is empty, and none of this changes what is asked.

The clients of a restricted listing are kept to its rows by this alone, since they
choose the parameters freely.

## Main definitions

* `ListingQuery.paramTruth`: What a parameter asks of a row.
* `ListingPlan.askedTruth`: What a restriction and parameters ask together.
* `ListingPlan.Asks`: Both statements of a plan come to a value.

## Theorems

* `ListingQuery.step_truth`, `ListingQuery.parse_truth`: A query asks what its parameters ask.
* `ListingPlan.build_cases`, `ListingPlan.ofParams_cases`: What the statements of a plan ask.
* `ListingPlan.ofParams_asks`: A plan asks what its restriction and its parameters ask.
* `ListingPlan.ofParams_predicate`: So no parameter widens a listing, their order does not
  matter, and more of them leave fewer rows.
-/

namespace Registrar

open Sql

/-- What a filter asks is never left out of a statement. -/
theorem Filter.isTrivial_condition (listed : Listed) (filter : Filter) :
    (filter.condition listed).isTrivial = false := by
  rcases filter with ⟨column, negate, operator⟩
  cases operator <;> cases negate <;> rfl

/-- What a restriction asks is never left out of a statement. -/
theorem Restriction.isTrivial_condition {catalog : Catalog} {listed : Listed}
    {restriction : Restriction} {condition : Expr}
    (h : restriction.condition catalog listed = .ok condition) :
    condition.isTrivial = false := by
  cases restriction with
  | linked link ownColumn otherColumn id =>
      rcases bind_eq_ok_iff.1 h with ⟨linkTable, -, h⟩
      rcases bind_eq_ok_iff.1 h with ⟨_, -, h⟩
      rcases bind_eq_ok_iff.1 h with ⟨_, -, h⟩
      cases h
      rfl
  | column key id =>
      rcases bind_eq_ok_iff.1 h with ⟨_, -, h⟩
      cases h
      rfl

namespace ListingQuery

variable {valuation : Expr → Truth} {listed : Listed}

/-- What a query asks of a row: everything that its filters and groups ask. -/
def truth (valuation : Expr → Truth) (listed : Listed) (query : ListingQuery) : Truth :=
  Truth.all ((query.conditions listed).map (Expr.truth valuation))

/-- What a parameter asks of a row: a group one of its filters, a filter itself, and
    everything else nothing. -/
def paramTruth (valuation : Expr → Truth) (listed : Listed) (param : String × String) : Truth :=
  if param.1 = orKey then
    match Filter.parseGroup listed.table listed.collection param.2 with
    | .ok group => Truth.any (group.map fun filter => (filter.condition listed).truth valuation)
    | .error _ => .true
  else if param.1 ∈ reservedKeys then .true
  else
    match listed.table.column? param.1 with
    | none => .true
    | some column =>
      match Directive.parse column param.2 with
      | .ok (.filter filter) => (filter.condition listed).truth valuation
      | .ok (.order _) | .ok .group | .error _ => .true

theorem isTrivial_conditions (listed : Listed) (query : ListingQuery) :
    ∀ condition ∈ query.conditions listed, condition.isTrivial = false := by
  intro condition hmem
  rcases List.mem_append.1 hmem with hmem | hmem
  · rcases List.mem_map.1 hmem with ⟨filter, -, rfl⟩
    exact filter.isTrivial_condition listed
  · rcases List.mem_map.1 hmem with ⟨group, -, rfl⟩
    refine Expr.isTrivial_disjunction fun condition hmem => ?_
    rcases List.mem_map.1 hmem with ⟨filter, -, rfl⟩
    exact filter.isTrivial_condition listed

/-- A filter goes to the end of the filters and so before the groups, but a conjunction
    does not tell. -/
theorem truth_add_filter (query : ListingQuery) (column : Column) (filter : Filter) :
    (query.add column (.filter filter)).truth valuation listed =
      (query.truth valuation listed).and ((filter.condition listed).truth valuation) := by
  simp only [truth, conditions, add, List.map_append, List.map_cons, List.map_nil,
    Truth.all_append, Truth.all_cons, Truth.all_nil, Truth.and_true]
  rw [Truth.and_assoc, Truth.and_assoc, Truth.and_comm (Expr.truth _ _)]

theorem truth_add_group (query : ListingQuery) {group : List Filter} (hne : group ≠ []) :
    ({ query with groups := query.groups ++ [group] } : ListingQuery).truth valuation listed =
      (query.truth valuation listed).and
        (Truth.any (group.map fun filter => (filter.condition listed).truth valuation)) := by
  have hgroup : (Expr.disjunction (group.map (Filter.condition listed))).truth valuation =
      Truth.any (group.map fun filter => (filter.condition listed).truth valuation) := by
    rw [Expr.truth_disjunction (mt List.map_eq_nil_iff.1 hne), List.map_map]
    rfl
  simp only [truth, conditions, List.map_append, List.map_cons, List.map_nil, Truth.all_append,
    Truth.all_cons, Truth.all_nil, Truth.and_true, hgroup, Truth.and_assoc]

/-- With a parameter a query asks in addition what the parameter asks. -/
theorem step_truth {query next : ListingQuery} {param : String × String}
    (h : step listed.table listed.collection query param = .ok next) :
    next.truth valuation listed =
      (query.truth valuation listed).and (paramTruth valuation listed param) := by
  rcases step_cases h with ⟨hor, group, hgroup, rfl⟩ | ⟨hor, hpassed, rfl⟩ |
    ⟨hreserved, column, directive, hcolumn, hdirective, rfl⟩
  · rw [truth_add_group query (Filter.parseGroup_ne_nil hgroup), paramTruth, if_pos hor, hgroup]
  · -- A parameter that is passed over asks nothing, whichever way it is passed over.
    have hnothing : paramTruth valuation listed param = .true := by
      rw [paramTruth, if_neg hor]
      rcases hpassed with hreserved | hcolumn
      · rw [if_pos hreserved]
      · rw [hcolumn]
        split <;> rfl
    rw [hnothing, Truth.and_true]
  · have hor : param.1 ≠ orKey := fun hor => hreserved (hor ▸ by decide)
    have hparam : paramTruth valuation listed param =
        match directive with
        | .filter filter => (filter.condition listed).truth valuation
        | .order _ | .group => .true := by
      rw [paramTruth, if_neg hor, if_neg hreserved, hcolumn]
      simp only [hdirective]
      cases directive <;> rfl
    rw [hparam]
    -- Of the directives only a filter asks something of a row.
    cases directive with
    | filter filter => exact truth_add_filter query column filter
    | order | group => exact (Truth.and_true _).symm

theorem steps_truth {query final : ListingQuery} {params : Params}
    (h : steps listed.table listed.collection query params = .ok final) :
    final.truth valuation listed =
      (query.truth valuation listed).and
        (Truth.all (params.map (paramTruth valuation listed))) := by
  -- The query so far is a variable, because every parameter adds to it.
  induction params generalizing query with
  | nil =>
      cases h
      exact (Truth.and_true _).symm
  | cons param rest ih =>
      rcases bind_eq_ok_iff.1 h with ⟨next, hnext, h⟩
      rw [ih h, step_truth hnext, List.map_cons, Truth.all_cons, Truth.and_assoc]

/-- A query asks what all its parameters ask. -/
theorem parse_truth {query : ListingQuery} {params : Params}
    (h : parse listed.table listed.collection params = .ok query) :
    query.truth valuation listed = Truth.all (params.map (paramTruth valuation listed)) :=
  steps_truth h

end ListingQuery

namespace ListingPlan

variable {catalog : Catalog} {listed : Listed} {restriction : Option Restriction}

/-- What a restriction and parameters ask of a row together. -/
def askedTruth (valuation : Expr → Truth) (listed : Listed) (narrowing : Option Expr)
    (params : Params) : Truth :=
  Truth.all (narrowing.toList.map (Expr.truth valuation) ++
    params.map (ListingQuery.paramTruth valuation listed))

/-- Both statements of a plan come to a value on a row: the one that counts, and the one
    inside the gathering of a page into an array. -/
def Asks (valuation : Expr → Truth) (value : Truth) (plan : ListingPlan) : Prop :=
  ∃ page : Select, plan.rows = page.asRows ∧ page.truth valuation = value ∧
    plan.count.truth valuation = value

theorem Asks.eq {valuation : Expr → Truth} {value other : Truth} {plan : ListingPlan}
    (h : plan.Asks valuation value) (hother : plan.Asks valuation other) : value = other := by
  rcases h with ⟨_, _, _, h⟩
  rcases hother with ⟨_, _, _, hother⟩
  exact h.symm.trans hother

/-- What narrows a listing is what its restriction asks. -/
theorem condition_of_mem_narrowing {narrowing : Option Expr}
    (h : restriction.mapM (Restriction.condition catalog listed) = .ok narrowing) :
    ∀ condition ∈ narrowing.toList,
      ∃ narrowed : Restriction, narrowed.condition catalog listed = .ok condition := by
  cases restriction with
  | none =>
      cases h
      exact List.forall_mem_nil _
  | some restriction =>
      rcases bind_eq_ok_iff.1 h with ⟨narrowed, hnarrowed, h⟩
      cases h
      exact List.forall_mem_singleton.2 ⟨restriction, hnarrowed⟩

/-- The statements of a plan are on one chain of conditions, with the restriction's in
    front. -/
theorem build_cases {query : ListingQuery} {page : Page} {plan : ListingPlan}
    (h : build catalog listed restriction query page = .ok plan) :
    ∃ narrowing, restriction.mapM (Restriction.condition catalog listed) = .ok narrowing ∧
      plan.rows = (pageOfRows listed query page
        (.conjunction (narrowing.toList ++ query.conditions listed))).asRows ∧
      plan.count = .count listed.source
        (.conjunction (narrowing.toList ++ query.conditions listed)) := by
  cases restriction with
  | none =>
      cases h
      exact ⟨none, rfl, rfl, rfl⟩
  | some restriction =>
      rcases bind_eq_ok_iff.1 h with ⟨narrowed, hnarrowed, h⟩
      cases h
      refine ⟨some narrowed, ?_, rfl, rfl⟩
      rw [Option.mapM_some, hnarrowed]
      rfl

/-- A plan is built for the page, the collection and the query that the parameters
    name. -/
theorem ofParams_cases {collection : String} {params : Params} {plan : ListingPlan}
    (h : ofParams catalog collection restriction params = .ok plan) :
    ∃ page listed query narrowing, catalog.find collection = .ok listed ∧
      ListingQuery.parse listed.table listed.collection params = .ok query ∧
      restriction.mapM (Restriction.condition catalog listed) = .ok narrowing ∧
      plan.rows = (pageOfRows listed query page
        (.conjunction (narrowing.toList ++ query.conditions listed))).asRows ∧
      plan.count = .count listed.source
        (.conjunction (narrowing.toList ++ query.conditions listed)) := by
  rcases bind_eq_ok_iff.1 h with ⟨page, -, h⟩
  rcases bind_eq_ok_iff.1 h with ⟨listed, hlisted, h⟩
  rcases bind_eq_ok_iff.1 h with ⟨query, hquery, h⟩
  rcases build_cases h with ⟨narrowing, hnarrowing, hrows, hcount⟩
  rw [← (Catalog.find_eq_ok_iff.1 hlisted).1] at hquery
  exact ⟨page, listed, query, narrowing, hlisted, hquery, hnarrowing, hrows, hcount⟩

/-- A plan asks what its restriction and its parameters ask. -/
theorem ofParams_asks {collection : String} {params : Params} {plan : ListingPlan}
    (h : ofParams catalog collection restriction params = .ok plan) :
    ∃ listed narrowing, catalog.find collection = .ok listed ∧
      restriction.mapM (Restriction.condition catalog listed) = .ok narrowing ∧
      ∀ valuation, plan.Asks valuation (askedTruth valuation listed narrowing params) := by
  rcases ofParams_cases h with
    ⟨page, listed, query, narrowing, hlisted, hquery, hnarrowing, hrows, hcount⟩
  refine ⟨listed, narrowing, hlisted, hnarrowing, fun valuation => ?_⟩
  have hasked : (Expr.conjunction (narrowing.toList ++ query.conditions listed)).clauseTruth
      valuation = askedTruth valuation listed narrowing params := by
    -- Nothing that is asked may be left out, even where it is the only thing.
    have htrivial : ∀ condition ∈ narrowing.toList ++ query.conditions listed,
        condition.isTrivial = false := by
      refine List.forall_mem_append.2 ⟨fun condition hmem => ?_, query.isTrivial_conditions listed⟩
      rcases condition_of_mem_narrowing hnarrowing condition hmem with ⟨narrowed, hnarrowed⟩
      exact Restriction.isTrivial_condition hnarrowed
    have hparams : Truth.all ((query.conditions listed).map (Expr.truth valuation)) =
        Truth.all (params.map (ListingQuery.paramTruth valuation listed)) :=
      ListingQuery.parse_truth hquery
    rw [Expr.clauseTruth_conjunction htrivial, List.map_append, Truth.all_append, hparams,
      askedTruth, Truth.all_append]
  refine ⟨_, hrows, hasked, ?_⟩
  rw [hcount]
  exact hasked

/-- Whatever the conditions come to on a row, both statements of a plan ask for what its
    restriction and all its parameters ask. So a row is only shown if the restriction
    holds of it, parameters in another order ask the same, and whoever adds parameters
    is shown no further rows. -/
theorem ofParams_predicate {collection : String} {params : Params} {plan : ListingPlan}
    (h : ofParams catalog collection restriction params = .ok plan) :
    ∃ listed narrowing, catalog.find collection = .ok listed ∧
      restriction.mapM (Restriction.condition catalog listed) = .ok narrowing ∧
      ∀ valuation,
        plan.Asks valuation (askedTruth valuation listed narrowing params) ∧
        (plan.Asks valuation .true →
          ∀ condition ∈ narrowing, condition.truth valuation = .true) ∧
        (∀ reordered other, reordered.Perm params →
          ofParams catalog collection restriction reordered = .ok other →
          other.Asks valuation (askedTruth valuation listed narrowing params)) ∧
        (∀ more other, params ⊆ more →
          ofParams catalog collection restriction more = .ok other →
          other.Asks valuation .true → plan.Asks valuation .true) := by
  rcases ofParams_asks h with ⟨listed, narrowing, hlisted, hnarrowing, hasks⟩
  -- Another plan of the same listing differs in its parameters only.
  have hother : ∀ {others other}, ofParams catalog collection restriction others = .ok other →
      ∀ valuation, other.Asks valuation (askedTruth valuation listed narrowing others) := by
    intro others other hother
    rcases ofParams_asks hother with ⟨listed', narrowing', hlisted', hnarrowing', hasks'⟩
    cases hlisted.symm.trans hlisted'
    cases hnarrowing.symm.trans hnarrowing'
    exact hasks'
  refine ⟨listed, narrowing, hlisted, hnarrowing, fun valuation => ⟨hasks valuation, ?_, ?_, ?_⟩⟩
  · intro htrue condition hmem
    have hall := Truth.all_eq_true_iff.1 ((hasks valuation).eq htrue)
    exact hall _ (List.mem_append_left _ (List.mem_map_of_mem (Option.mem_toList.2 hmem)))
  · intro reordered other hperm hplan
    have hsame : askedTruth valuation listed narrowing reordered =
        askedTruth valuation listed narrowing params :=
      Truth.all_perm ((hperm.map _).append_left _)
    rw [← hsame]
    exact hother hplan valuation
  · intro more other hsubset hplan htrue
    have hall := Truth.all_eq_true_iff.1 ((hother hplan valuation).eq htrue)
    -- What all parameters together grant is granted by fewer of them.
    have hfewer : askedTruth valuation listed narrowing params = .true := by
      refine Truth.all_eq_true_iff.2 fun value hmem => hall value ?_
      rcases List.mem_append.1 hmem with hmem | hmem
      · exact List.mem_append_left _ hmem
      · rcases List.mem_map.1 hmem with ⟨param, hparam, rfl⟩
        exact List.mem_append_right _ (List.mem_map_of_mem (hsubset hparam))
    rw [← hfewer]
    exact hasks valuation

/-- The members of a group are asked for a name and for one of two further things, in
    either order. -/
theorem ofParams_predicate_members :
    ∃ plan other,
      ofParams .builtin Collection.users
        (some (.linked Collection.userGroups "user_id" "group_id" 5))
        [("username", "like.a"), ("or", "(id.eq.1,active.is.true)")] = .ok plan ∧
      ofParams .builtin Collection.users
        (some (.linked Collection.userGroups "user_id" "group_id" 5))
        [("or", "(id.eq.1,active.is.true)"), ("username", "like.a")] = .ok other ∧
      ∀ valuation value, plan.Asks valuation value → other.Asks valuation value := by
  rcases exists_of_isOk (ofParams .builtin Collection.users
    (some (.linked Collection.userGroups "user_id" "group_id" 5))
    [("username", "like.a"), ("or", "(id.eq.1,active.is.true)")]) (by decide +kernel)
    with ⟨plan, hplan⟩
  rcases exists_of_isOk (ofParams .builtin Collection.users
    (some (.linked Collection.userGroups "user_id" "group_id" 5))
    [("or", "(id.eq.1,active.is.true)"), ("username", "like.a")]) (by decide +kernel)
    with ⟨other, hother⟩
  refine ⟨plan, other, hplan, hother, fun valuation value hvalue => ?_⟩
  rcases ofParams_predicate hplan with ⟨listed, narrowing, -, -, h⟩
  rcases h valuation with ⟨hasks, -, hreordered, -⟩
  rw [hvalue.eq hasks]
  exact hreordered _ other (List.Perm.swap _ _ _) hother

end ListingPlan

end Registrar
