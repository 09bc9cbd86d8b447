import Registrar.Proofs.Catalog.Permitted
import Registrar.Proofs.Listing.Predicate

/-!
# Statements of a Listing

Both statements of a listing of the built-in catalog are permitted, whatever the
parameters are. A parameter's key is looked up and then forgotten: what goes on into the
statements is the column that was found, with the name that the catalog gives it. Its
value becomes a string.

## Main definitions

* `ListingQuery.Known`: The names of all columns that a query is about have a property.

## Theorems

* `ListingQuery.known_of_parse`: A query is about columns of the table.
* `ListingPlan.guards_of_ofParams`: What the statements of a listing name and bind.
* `ListingPlan.permitted_of_ofParams`: The statements of a listing are permitted.
-/

namespace Registrar

open Sql

variable {known : String → Prop} {bound : Json.Document → Prop} {catalog : Catalog}
  {listed : Listed}

/-- The names of all columns that a query is about have a property. -/
structure ListingQuery.Known (known : String → Prop) (query : ListingQuery) : Prop where
  filters : ∀ filter ∈ query.filters, known filter.column.name
  groups : ∀ group ∈ query.groups, ∀ filter ∈ group, known filter.column.name
  orderBy : ∀ entry ∈ query.orderBy, known entry.1.name
  groupBy : ∀ column ∈ query.groupBy, known column.name

namespace ListingQuery

/-- A directive on a known column keeps a query to known columns. -/
theorem Known.add {query : ListingQuery} (h : query.Known known) {column : Column} {value : String}
    {directive : Directive} (hcolumn : known column.name)
    (hdirective : Directive.parse column value = .ok directive) :
    (query.add column directive).Known known := by
  cases directive with
  | filter filter =>
      -- A filter that is read for a column is a filter on that column.
      have hfilter : known filter.column.name := by
        rw [Directive.parse_filter hdirective]
        exact hcolumn
      exact ⟨List.forall_mem_append.2 ⟨h.filters, List.forall_mem_singleton.2 hfilter⟩, h.groups,
        h.orderBy, h.groupBy⟩
  | order direction =>
      exact ⟨h.filters, h.groups,
        List.forall_mem_append.2 ⟨h.orderBy, List.forall_mem_singleton.2 hcolumn⟩, h.groupBy⟩
  | group =>
      refine ⟨h.filters, h.groups, h.orderBy, fun found hfound => ?_⟩
      cases hfound
      exact hcolumn

theorem known_of_step (hknown : listed.Known known) {query next : ListingQuery}
    {param : String × String} (h : step listed.table listed.collection query param = .ok next)
    (hquery : query.Known known) : next.Known known := by
  rcases step_cases h with ⟨-, group, hgroup, rfl⟩ | ⟨-, -, rfl⟩ |
    ⟨-, column, directive, hcolumn, hdirective, rfl⟩
  · have hfilters : ∀ filter ∈ group, known filter.column.name := by
      intro filter hfilter
      rcases Filter.parseGroup_columns hgroup filter hfilter with ⟨key, hkey⟩
      exact (hknown.column hkey).2
    exact ⟨hquery.filters,
      List.forall_mem_append.2 ⟨hquery.groups, List.forall_mem_singleton.2 hfilters⟩,
      hquery.orderBy, hquery.groupBy⟩
  · exact hquery
  · exact hquery.add (hknown.column hcolumn).2 hdirective

/-- A query is about columns of the table and no others. -/
theorem known_of_parse (hknown : listed.Known known) {query : ListingQuery} {params : Params}
    (h : parse listed.table listed.collection params = .ok query) : query.Known known := by
  refine steps_keeps (fun _ _ _ hstep hquery => known_of_step hknown hstep hquery) h ?_
  exact ⟨List.forall_mem_nil _, List.forall_mem_nil _, List.forall_mem_nil _, nofun⟩

end ListingQuery

theorem Filter.guards_condition (hknown : listed.Known known) (htype : known textType)
    {filter : Filter} (hfilter : known filter.column.name) :
    Guards known bound (filter.condition listed).pieces := by
  have hcolumn : Guards known bound (listed.column filter.column.name).pieces :=
    hknown.guards_column hfilter
  -- A pattern is compared with text, so another column is cast first.
  have htarget : Guards known bound (likeTarget listed filter.column).pieces := by
    rw [likeTarget]
    split
    · exact hcolumn
    · exact Guards.castTo hcolumn htype
  rcases filter with ⟨column, negate, operator⟩
  cases operator with
  | eq operand => cases negate <;> exact Guards.binary _ hcolumn (Guards.string operand)
  | like pattern => cases negate <;> exact Guards.binary _ htarget (Guards.string _)
  | isNull | isTrue | isFalse => cases negate <;> exact Guards.unary _ hcolumn

theorem ListingQuery.guards_conditions (hknown : listed.Known known) (htype : known textType)
    {query : ListingQuery} (hquery : query.Known known) :
    ∀ condition ∈ query.conditions listed, Guards known bound condition.pieces := by
  refine List.forall_mem_append.2 ⟨fun condition hmem => ?_, fun condition hmem => ?_⟩
  · rcases List.mem_map.1 hmem with ⟨filter, hfilter, rfl⟩
    exact Filter.guards_condition hknown htype (hquery.filters filter hfilter)
  · rcases List.mem_map.1 hmem with ⟨group, hgroup, rfl⟩
    refine Guards.disjunction fun condition hmem => ?_
    rcases List.mem_map.1 hmem with ⟨filter, hfilter, rfl⟩
    exact Filter.guards_condition hknown htype (hquery.groups group hgroup filter hfilter)

/-- What a restriction asks is about columns of the catalog: it insists on the columns
    that it is given. -/
theorem Restriction.guards_condition (hcatalog : catalog.Known known) (hknown : listed.Known known)
    {restriction : Restriction} {condition : Expr}
    (h : restriction.condition catalog listed = .ok condition) :
    Guards known bound condition.pieces := by
  cases restriction with
  | linked link ownColumn otherColumn id =>
      rcases bind_eq_ok_iff.1 h with ⟨linkTable, hlink, h⟩
      rcases bind_eq_ok_iff.1 h with ⟨_, hown, h⟩
      rcases bind_eq_ok_iff.1 h with ⟨_, hother, h⟩
      cases h
      have hlinked := hcatalog hlink
      -- The row of the link and the listed row are compared by columns of either.
      refine Guards.exists (Guards.selectWhere (Guards.integer 1)
        (fun _ hsource => Option.some.inj hsource ▸ hlinked.guards_source)
        (Guards.conjunction (List.forall_mem_cons.2 ⟨?_, List.forall_mem_singleton.2 ?_⟩)))
      · exact Guards.binary _ (hlinked.guards_column (hlinked.requireColumn hown))
          (hknown.guards_column hknown.primaryKey)
      · exact hlinked.guards_columnIs (hlinked.requireColumn hother) id
  | column key id =>
      rcases bind_eq_ok_iff.1 h with ⟨_, hkey, h⟩
      cases h
      exact hknown.guards_columnIs (hknown.requireColumn hkey) id

namespace ListingPlan

theorem guards_foldedValues (htype : known textType) {column : Expr}
    (h : Guards known bound column.pieces) : Guards known bound (foldedValues column).pieces := by
  have htext := Guards.castTo h htype
  exact Guards.case (Guards.binary _ (Guards.countDistinct htext) (Guards.int _))
    (Guards.string _) (Guards.aggregate _ _
      (List.forall_mem_cons.2 ⟨htext, List.forall_mem_singleton.2 (Guards.string _)⟩))

theorem guards_shownColumns (hknown : listed.Known known) (htype : known textType)
    (query : ListingQuery) :
    Guards known bound (SelectList.columns (shownColumns listed query)).pieces := by
  rw [shownColumns]
  split
  · exact hknown.guards_projection
  · refine Guards.columns fun entry hentry => ?_
    rcases List.mem_map.1 hentry with ⟨column, hcolumn, rfl⟩
    have hname := hknown.columnName hcolumn
    refine ⟨hname, ?_⟩
    dsimp only
    split
    · exact hknown.guards_column hname
    · exact guards_foldedValues htype (hknown.guards_column hname)

theorem guards_pageOfRows (hknown : listed.Known known) (htype : known textType)
    {query : ListingQuery} (hquery : query.Known known) (page : Page) {condition : Expr}
    (hcondition : Guards known bound condition.pieces) :
    Guards known bound (pageOfRows listed query page condition).pieces := by
  refine Guards.select (guards_shownColumns hknown htype query)
    (fun _ hsource => Option.some.inj hsource ▸ hknown.guards_source) hcondition ?_ ?_
  · -- A listing has a group or an order, and not both.
    intro e he
    cases hgroup : query.groupBy with
    | none =>
        rw [pageOfRows, grouping, hgroup] at he
        exact nomatch he
    | some column =>
        rw [pageOfRows, grouping, hgroup] at he
        rw [List.mem_singleton.1 he]
        exact hknown.guards_column (hquery.groupBy column hgroup)
  · intro entry hentry
    cases hgroup : query.groupBy with
    | none =>
        rw [pageOfRows, ordering, hgroup] at hentry
        rcases List.mem_map.1 hentry with ⟨order, horder, rfl⟩
        exact hknown.guards_column (hquery.orderBy order horder)
    | some column =>
        rw [pageOfRows, ordering, hgroup] at hentry
        exact nomatch hentry

/-- Both statements of a listing are guarded, and they bind nothing. -/
theorem guards_of_ofParams (hcatalog : catalog.Known known)
    (hfixed : ∀ value ∈ fixedNames, known value) {collection : String}
    {restriction : Option Restriction} {params : Params} {plan : ListingPlan}
    (h : ofParams catalog collection restriction params = .ok plan) :
    Guards known bound plan.rows.pieces ∧ Guards known bound plan.count.pieces := by
  rcases ofParams_cases h with
    ⟨page, listed, query, narrowing, hlisted, hquery, hnarrowing, hrows, hcount⟩
  have hknown := hcatalog hlisted
  have hparsed := ListingQuery.known_of_parse hknown hquery
  have htype : known textType := hfixed _ (by decide)
  have hnarrowed : ∀ condition ∈ narrowing.toList, Guards known bound condition.pieces := by
    intro condition hmem
    rcases condition_of_mem_narrowing hnarrowing condition hmem with ⟨narrowed, hnarrowed⟩
    exact Restriction.guards_condition hcatalog hknown hnarrowed
  -- Both statements have the same condition.
  have hcondition : Guards known bound
      (Expr.conjunction (narrowing.toList ++ query.conditions listed)).pieces :=
    Guards.conjunction (List.forall_mem_append.2
      ⟨hnarrowed, ListingQuery.guards_conditions hknown htype hparsed⟩)
  constructor
  · rw [hrows]
    exact Guards.asRows (guards_pageOfRows hknown htype hparsed page hcondition)
      (hfixed _ (by decide))
  · rw [hcount]
    have hcountAll : Guards known bound (SelectList.columns [(countAlias, .countAll)]).pieces :=
      Guards.columns (List.forall_mem_singleton.2 ⟨hfixed _ (by decide), Guards.countAll⟩)
    exact Guards.selectWhere hcountAll
      (fun _ hsource => Option.some.inj hsource ▸ hknown.guards_source) hcondition

/-- Whatever the parameters are, both statements of a listing are permitted. -/
theorem permitted_of_ofParams {collection : String} {restriction : Option Restriction}
    {params : Params} {plan : ListingPlan}
    (h : ofParams .builtin collection restriction params = .ok plan) :
    plan.rows.text.Permitted ∧ plan.count.text.Permitted := by
  -- Neither statement binds anything, so the documents may have any property.
  have hguards : Guards (· ∈ permittedNames) (fun _ => False) plan.rows.pieces ∧
      Guards (· ∈ permittedNames) (fun _ => False) plan.count.pieces :=
    guards_of_ofParams Catalog.builtin_permitted (fun _ => mem_permittedNames_of_fixed) h
  exact ⟨permitted_select hguards.1, permitted_select hguards.2⟩

end ListingPlan

end Registrar
