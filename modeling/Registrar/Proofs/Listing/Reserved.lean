import Mathlib.Data.List.Forall2
import Registrar.Proofs.Listing.Count
import Registrar.Proofs.Listing.Grouping
import Registrar.Proofs.Map.OfList

/-!
# Reserved Keys

The keys of the paging and of the groups are no names of columns, also where a table has a
column under one of them. Columns are looked up in two places, though: under the key of a
parameter, and under the keys of the clauses of a group. The first passes reserved keys
over. The second does not, so a clause can ask for what no parameter can.

Which keys are looked up can be read off the parameters without a table (`LooksUp`), and a
query is the same for two tables that have the same columns under these keys. So what a query
has from its parameters is independent of what stands under reserved keys, and so is the whole
of it if none of its groups has a clause under one.

## Main definitions

* `ListingQuery.LooksUp`: A column is looked up for a parameter under a key.
* `ListingQuery.Directs`: A parameter gives a directive on the column under its own key.
* `ListingQuery.Stems`: Where each part of a query comes from.
* `Table.SameUnreserved`: Two tables differ under reserved keys only.
* `Table.paged`, `Table.unpaged`: A table with a column under a reserved key, and without it.

## Theorems

* `ListingQuery.parse_congr`: A query depends on the columns that are looked up, and on
  nothing else of a table.
* `ListingQuery.stems_of_parse`: Where the parts of a query come from.
* `ListingQuery.unreserved_of_parse`: Which parts depend on reserved keys.
* `ListingQuery.not_unreserved_of_clause`: A clause that does.
-/

namespace Registrar

/-- What a partial function yields for a list comes from some of its members, one by one and in
    their order. -/
theorem exists_sublist_of_filterMap {α β : Type} (f : α → Option β) (members : List α) :
    ∃ sources, sources.Sublist members ∧
      List.Forall₂ (fun a b => f a = some b) sources (members.filterMap f) := by
  induction members with
  | nil => exact ⟨[], .slnil, .nil⟩
  | cons a rest ih =>
      rcases ih with ⟨sources, hsources, hyields⟩
      rw [List.filterMap_cons]
      cases h : f a with
      | none => exact ⟨sources, hsources.cons a, hyields⟩
      | some b => exact ⟨a :: sources, hsources.cons_cons a, .cons h hyields⟩

/-- Two tables have the same columns under all keys that are not reserved. -/
def Table.SameUnreserved (table other : Table) : Prop :=
  ∀ key, key ∉ ListingQuery.reservedKeys → table.column? key = other.column? key

/-- A table of books, which have a number of pages. -/
def Table.paged : Table :=
  ⟨"public", "books", "id", .ofList [("id", ⟨"id", .integer⟩), ("page", ⟨"page", .integer⟩)]⟩

/-- The same table without that column. -/
def Table.unpaged : Table :=
  ⟨"public", "books", "id", .ofList [("id", ⟨"id", .integer⟩)]⟩

theorem Table.sameUnreserved_paged : paged.SameUnreserved unpaged := by
  intro key hkey
  have hpage : key ≠ "page" := by
    rintro rfl
    exact hkey (by decide)
  rw [column?, column?, paged, unpaged, Keyed.get?_ofList, Keyed.get?_ofList]
  refine List.lookup_cons.trans ?_
  rw [beq_eq_false_iff_ne.2 hpage]
  rfl

namespace Filter

variable {table other : Table} {collection : String}

/-- A clause depends on the column under its key. -/
theorem parseClause_congr {clause : List Char}
    (h : ∀ key text, Divided clause key text →
      table.column? (String.ofList key) = other.column? (String.ofList key)) :
    parseClause table collection clause = parseClause other collection clause := by
  by_cases hparts : ∃ key text, Divided clause key text
  · rcases hparts with ⟨key, text, hdivided⟩
    have hsame := h key text hdivided
    cases hcolumn : table.column? (String.ofList key) with
    | none =>
        rw [parseClause_of_unknown hdivided hcolumn,
          parseClause_of_unknown hdivided (hsame.symm.trans hcolumn)]
    | some column =>
        rw [parseClause_of_column hdivided hcolumn,
          parseClause_of_column hdivided (hsame.symm.trans hcolumn)]
  · have hundivided : ∀ key text, ¬Divided clause key text :=
      fun key text hdivided => hparts ⟨key, text, hdivided⟩
    rw [parseClause_of_undivided hundivided, parseClause_of_undivided hundivided]

theorem parseClauses_congr {clauses : List (List Char)}
    (h : ∀ clause ∈ clauses, ∀ key text, Divided clause key text →
      table.column? (String.ofList key) = other.column? (String.ofList key)) :
    parseClauses table collection clauses = parseClauses other collection clauses := by
  induction clauses with
  | nil => rfl
  | cons clause rest ih =>
      rcases List.forall_mem_cons.1 h with ⟨hclause, hrest⟩
      rw [parseClauses, parseClauses, parseClause_congr hclause, ih hrest]

/-- A group depends on the columns under the keys of its clauses. -/
theorem parseGroup_congr {value : String}
    (h : ∀ clauses, MadeUp value.toList clauses → ∀ clause ∈ clauses, ∀ key text,
      Divided clause key text →
        table.column? (String.ofList key) = other.column? (String.ofList key)) :
    parseGroup table collection value = parseGroup other collection value := by
  by_cases hinside : ∃ inside, Parenthesised value.toList inside
  · rcases hinside with ⟨inside, hinside⟩
    rcases exists_madeUp hinside with ⟨clauses, hclauses⟩
    rw [parseGroup_of_madeUp hclauses, parseGroup_of_madeUp hclauses]
    exact parseClauses_congr (h clauses hclauses)
  · have hnone : ∀ inside, ¬Parenthesised value.toList inside :=
      fun inside hvalue => hinside ⟨inside, hvalue⟩
    rw [parseGroup_of_unparenthesised hnone, parseGroup_of_unparenthesised hnone]

/-- A text is made up of clauses in one way. -/
theorem MadeUp.unique {value : List Char} {clauses clauses' : List (List Char)}
    (h : MadeUp value clauses) (h' : MadeUp value clauses') : clauses = clauses' := by
  rcases madeUp_iff.1 h with ⟨inside, hinside, rfl⟩
  rcases madeUp_iff.1 h' with ⟨inside', hinside', rfl⟩
  have hsame := hinside.written.symm.trans hinside'.written
  rw [List.cons.injEq] at hsame
  rw [List.append_cancel_right hsame.2]

/-- The key of a clause is what stands before its first point. -/
theorem Divided.unique {clause key text key' text' : List Char} (h : Divided clause key text)
    (h' : Divided clause key' text') : key = key' := by
  have hparts := (clauseParts?_eq_some_iff.2 h).symm.trans (clauseParts?_eq_some_iff.2 h')
  exact congrArg Prod.fst (Option.some.inj hparts)

/-- Each clause of a group describes one of its filters. -/
theorem exists_described_of_mem {clauses : List (List Char)} {filters : List Filter}
    (h : List.Forall₂ (ClauseDescribed table) clauses filters) {clause : List Char}
    (hclause : clause ∈ clauses) : ∃ filter ∈ filters, ClauseDescribed table clause filter := by
  induction h with
  | nil => exact absurd hclause List.not_mem_nil
  | cons hfirst _ ih =>
      rcases List.mem_cons.1 hclause with rfl | hclause
      · exact ⟨_, List.mem_cons_self, hfirst⟩
      · rcases ih hclause with ⟨filter, hfilter, hdescribed⟩
        exact ⟨filter, List.mem_cons_of_mem _ hfilter, hdescribed⟩

end Filter

namespace ListingQuery

variable {table other : Table} {collection : String} {params : Params} {query : ListingQuery}

/-- A column is looked up for a parameter under a key: under the key of a clause if the
    parameter is a group, and else under its own, if that is not reserved. -/
inductive LooksUp (param : String × String) : String → Prop
  | own (h : param.1 ∉ reservedKeys) : LooksUp param param.1
  | clause {clauses : List (List Char)} {clause key text : List Char} (hor : param.1 = orKey)
      (h : Filter.MadeUp param.2.toList clauses) (hmem : clause ∈ clauses)
      (hdivided : Filter.Divided clause key text) : LooksUp param (String.ofList key)

theorem looksUp_of_parts {value : String} (clause : List Char) {inside key text : List Char}
    (hinside : Filter.groupInside? value.toList = some inside)
    (hclause : clause ∈ Text.splitOn ',' inside)
    (hparts : Filter.clauseParts? clause = some (key, text)) :
    LooksUp (orKey, value) (String.ofList key) :=
  .clause rfl (Filter.madeUp_iff.2 ⟨inside, Filter.groupInside?_eq_some_iff.1 hinside, rfl⟩)
    hclause (Filter.clauseParts?_eq_some_iff.1 hparts)

theorem step_congr {param : String × String}
    (h : ∀ key, LooksUp param key → table.column? key = other.column? key) :
    step table collection query param = step other collection query param := by
  rcases param with ⟨key, value⟩
  by_cases hor : key = orKey
  · subst hor
    rw [step_of_or, step_of_or, Filter.parseGroup_congr]
    intro clauses hclauses clause hmem key text hdivided
    exact h _ (.clause rfl hclauses hmem hdivided)
  · unfold step
    rw [if_neg hor, if_neg hor]
    by_cases hkey : key ∈ reservedKeys
    · rw [if_pos hkey, if_pos hkey]
    · rw [if_neg hkey, if_neg hkey, h key (.own hkey)]

/-- A query depends on the columns that are looked up for its parameters, and on nothing else
    of a table. -/
theorem parse_congr
    (h : ∀ param ∈ params, ∀ key, LooksUp param key → table.column? key = other.column? key) :
    parse table collection params = parse other collection params := by
  have hsteps : ∀ query, steps table collection query params =
      steps other collection query params := by
    induction params with
    | nil => exact fun _ => rfl
    | cons param rest ih =>
        intro query
        rcases List.forall_mem_cons.1 h with ⟨hparam, hrest⟩
        rw [steps, steps, step_congr hparam]
        cases step other collection query param with
        | error e => rfl
        | ok next => exact ih hrest next
  exact hsteps empty

/-- A parameter gives a directive on the column under its own key, which is not reserved. -/
structure Directs (table : Table) (param : String × String) (column : Column)
    (directive : Directive) : Prop where
  unreserved : param.1 ∉ reservedKeys
  registered : table.column? param.1 = some column
  described : Directive.Described column param.2 directive

/-- Where the parts of a query come from: filters, orderings and the grouping from parameters
    that give them, each on the column under the parameter's own key, and the groups from texts
    that describe them. -/
structure Stems (table : Table) (params : Params) (query : ListingQuery) : Prop where
  filters : ∃ sources : Params, sources.Sublist params ∧
    List.Forall₂ (fun param (filter : Filter) =>
      Directs table param filter.column (.filter filter)) sources query.filters
  orderings : ∃ sources : Params, sources.Sublist params ∧
    List.Forall₂ (fun param (entry : Column × SortDirection) =>
      Directs table param entry.1 (.order entry.2)) sources query.orderBy
  grouping : ∀ column, query.groupBy = some column →
    ∃ param ∈ params, Directs table param column .group
  groups : ∃ sources : Params, sources.Sublist params ∧
    List.Forall₂ (fun (param : String × String) group =>
      param.1 = orKey ∧ Filter.GroupDescribed table param.2.toList group) sources query.groups

theorem directs_of_filter? {param : String × String} {filter : Filter}
    (h : filter? table param = some filter) :
    Directs table param filter.column (.filter filter) := by
  unfold filter? at h
  by_cases hkey : param.1 ∈ reservedKeys
  · rw [if_pos hkey] at h
    cases h
  · rw [if_neg hkey] at h
    cases hcolumn : table.column? param.1 with
    | none =>
        rw [hcolumn] at h
        cases h
    | some column =>
        simp only [hcolumn] at h
        -- Of the directives on the column only a filter is yielded.
        cases hdirective : Directive.parse column param.2 with
        | error e =>
            simp only [hdirective] at h
            cases h
        | ok directive =>
            cases directive with
            | filter found =>
                simp only [hdirective] at h
                cases h
                obtain rfl : filter.column = column := Directive.parse_filter hdirective
                exact ⟨hkey, hcolumn, Directive.parse_eq_ok_iff.1 hdirective⟩
            | order | group =>
                simp only [hdirective] at h
                cases h

theorem directs_of_ordering? {param : String × String} {entry : Column × SortDirection}
    (h : ordering? table param = some entry) : Directs table param entry.1 (.order entry.2) := by
  unfold ordering? at h
  by_cases hkey : param.1 ∈ reservedKeys
  · rw [if_pos hkey] at h
    cases h
  · rw [if_neg hkey] at h
    rcases Option.bind_eq_some_iff.1 h with ⟨column, hcolumn, h⟩
    rcases Option.map_eq_some_iff.1 h with ⟨direction, hdirection, rfl⟩
    refine ⟨hkey, hcolumn, ?_⟩
    -- There are two words, one for each direction.
    unfold SortDirection.ofValue? at hdirection
    by_cases hascending : param.2 = "order_by.asc"
    · rw [if_pos hascending] at hdirection
      cases hdirection
      exact .ascending hascending
    · rw [if_neg hascending] at hdirection
      by_cases hdescending : param.2 = "order_by.desc"
      · rw [if_pos hdescending] at hdirection
        cases hdirection
        exact .descending hdescending
      · rw [if_neg hdescending] at hdirection
        cases hdirection

theorem directs_of_grouping? {param : String × String} {column : Column}
    (h : grouping? table param = some column) : Directs table param column .group := by
  unfold grouping? at h
  by_cases hboth : param.1 ∉ reservedKeys ∧ param.2 = "group_by"
  · rw [if_pos hboth] at h
    exact ⟨hboth.1, h, .group hboth.2⟩
  · rw [if_neg hboth] at h
    cases h

theorem described_of_group? {param : String × String} {group : List Filter}
    (h : group? table collection param = some group) :
    param.1 = orKey ∧ Filter.GroupDescribed table param.2.toList group := by
  unfold group? at h
  by_cases hor : param.1 = orKey
  · rw [if_pos hor] at h
    cases hgroup : Filter.parseGroup table collection param.2 with
    | error e =>
        rw [hgroup] at h
        cases h
    | ok found =>
        rw [hgroup] at h
        cases h
        exact ⟨hor, Filter.parseGroup_eq_ok_iff.1 hgroup⟩
  · rw [if_neg hor] at h
    cases h

/-- Each part of a query comes from a parameter. -/
theorem stems_of_parse (h : parse table collection params = .ok query) :
    query.Stems table params := by
  rcases parse_yields h with ⟨hfilters, hgroups⟩
  rcases parse_arranges h with ⟨horderings, hgrouping⟩
  constructor
  · rw [hfilters]
    rcases exists_sublist_of_filterMap (filter? table) params with ⟨sources, hsources, hyields⟩
    exact ⟨sources, hsources, hyields.imp fun _ _ => directs_of_filter?⟩
  · rw [horderings]
    rcases exists_sublist_of_filterMap (ordering? table) params with ⟨sources, hsources, hyields⟩
    exact ⟨sources, hsources, hyields.imp fun _ _ => directs_of_ordering?⟩
  · intro column hcolumn
    rw [hgrouping] at hcolumn
    rcases List.mem_filterMap.1 (List.mem_of_getLast? hcolumn) with ⟨param, hparam, hasked⟩
    exact ⟨param, hparam, directs_of_grouping? hasked⟩
  · rw [hgroups]
    rcases exists_sublist_of_filterMap (group? table collection) params with
      ⟨sources, hsources, hyields⟩
    exact ⟨sources, hsources, hyields.imp fun _ _ => described_of_group?⟩

/-- All groups that parameters ask for are read, if a query is. -/
theorem exists_group_of_parse (h : parse table collection params = .ok query)
    {param : String × String} (hparam : param ∈ params) (hor : param.1 = orKey) :
    ∃ group ∈ query.groups, Filter.GroupDescribed table param.2.toList group := by
  rcases List.append_of_mem hparam with ⟨before, after, rfl⟩
  -- The parameter is read after those before it, so its own part of the query is.
  rw [parse_append] at h
  rcases bind_eq_ok_iff.1 h with ⟨first, hfirst, h⟩
  rcases map_eq_ok_iff.1 h with ⟨rest, hrest, rfl⟩
  rw [← List.singleton_append, parse_append] at hrest
  rcases bind_eq_ok_iff.1 hrest with ⟨own, hown, hrest⟩
  rcases map_eq_ok_iff.1 hrest with ⟨last, -, rfl⟩
  rcases param with ⟨key, value⟩
  obtain rfl : key = orKey := hor
  rw [parse, steps, step_of_or] at hown
  rcases bind_eq_ok_iff.1 hown with ⟨next, hnext, hown⟩
  rcases map_eq_ok_iff.1 hnext with ⟨group, hgroup, rfl⟩
  cases hown
  refine ⟨group, List.mem_append_right _ (List.mem_append_left _ ?_),
    Filter.parseGroup_eq_ok_iff.1 hgroup⟩
  exact List.mem_singleton_self group

/-- A clause of a group is on the column that the table has under its key, also if the key is
    reserved. -/
theorem exists_filter_of_clause (h : parse table collection params = .ok query)
    {param : String × String} (hparam : param ∈ params) {key : String}
    (hkey : key ∈ reservedKeys) (hlooks : LooksUp param key) :
    param.1 = orKey ∧ ∃ group ∈ query.groups, ∃ filter ∈ group,
      table.column? key = some filter.column := by
  cases hlooks with
  | own hunreserved => exact absurd hkey hunreserved
  | clause hor hclauses hmem hdivided =>
      rcases exists_group_of_parse h hparam hor with ⟨group, hgroup, clauses, hmade, hfilters⟩
      cases hclauses.unique hmade
      rcases Filter.exists_described_of_mem hfilters hmem with ⟨filter, hfilter, hdescribed⟩
      rcases hdescribed with ⟨key', text', column, hdivided', hcolumn, hfiltered⟩
      cases hdivided.unique hdivided'
      refine ⟨hor, group, hgroup, filter, hfilter, ?_⟩
      rw [hfiltered.column_eq]
      exact hcolumn

/-- Filters, orderings and the grouping of a query are on columns under keys that are not
    reserved, and are the same whatever the table has under reserved keys. Only a clause of a
    group can be on such a column, and it is if its key is reserved. Without clauses of that
    kind nothing of a query depends on what stands under reserved keys. -/
theorem unreserved_of_parse (h : parse table collection params = .ok query) :
    query.Stems table params ∧
    (∀ other query', table.SameUnreserved other → parse other collection params = .ok query' →
      query'.filters = query.filters ∧ query'.orderBy = query.orderBy ∧
        query'.groupBy = query.groupBy) ∧
    (∀ param ∈ params, ∀ key ∈ reservedKeys, LooksUp param key →
      param.1 = orKey ∧ ∃ group ∈ query.groups, ∃ filter ∈ group,
        table.column? key = some filter.column) ∧
    ((∀ param ∈ params, ∀ key ∈ reservedKeys, ¬LooksUp param key) →
      ∀ other, table.SameUnreserved other → parse other collection params = .ok query) := by
  refine ⟨stems_of_parse h, fun other query' hsame hother => ?_,
    fun param hparam key hkey hlooks => exists_filter_of_clause h hparam hkey hlooks,
    fun hnone other hsame => ?_⟩
  · -- What a parameter yields for itself is found under a key that is not reserved.
    have hfilter : ∀ param, filter? other param = filter? table param := by
      intro param
      unfold filter?
      split
      · rfl
      · rw [hsame param.1 ‹_›]
    have hordering : ∀ param, ordering? other param = ordering? table param := by
      intro param
      unfold ordering?
      split
      · rfl
      · rw [hsame param.1 ‹_›]
    have hgrouping : ∀ param, grouping? other param = grouping? table param := by
      intro param
      unfold grouping?
      split
      · rename_i hboth
        exact (hsame param.1 hboth.1).symm
      · rfl
    rw [(parse_yields h).1, (parse_yields hother).1, (parse_arranges h).1,
      (parse_arranges hother).1, (parse_arranges h).2, (parse_arranges hother).2,
      funext hfilter, funext hordering, funext hgrouping]
    exact ⟨rfl, rfl, rfl⟩
  · rw [← parse_congr fun param hparam key hlooks => hsame key ?_]
    · exact h
    · exact fun hkey => hnone param hparam key hkey hlooks

/-- The number of pages is asked for by a parameter, which belongs to the paging and is passed
    over, and by a clause, which counts. -/
theorem unreserved_of_parse_paged : ∃ query,
    parse .paged "books" [("page", "eq.3"), ("id", "order_by.asc"), ("or", "(page.eq.3,id.eq.1)")] =
        .ok query ∧
      query.filters = [] ∧
      query.Stems .paged
        [("page", "eq.3"), ("id", "order_by.asc"), ("or", "(page.eq.3,id.eq.1)")] ∧
      ∃ group ∈ query.groups, ∃ filter ∈ group,
        Table.paged.column? "page" = some filter.column := by
  have h : parse .paged "books"
      [("page", "eq.3"), ("id", "order_by.asc"), ("or", "(page.eq.3,id.eq.1)")] =
        .ok ⟨[], [[⟨⟨"page", .integer⟩, false, .eq "3"⟩, ⟨⟨"id", .integer⟩, false, .eq "1"⟩]],
          [(⟨"id", .integer⟩, .ascending)], none⟩ := by decide +kernel
  have hlooks : LooksUp ("or", "(page.eq.3,id.eq.1)") "page" :=
    looksUp_of_parts "page.eq.3".toList rfl (by decide) rfl
  rcases unreserved_of_parse h with ⟨hstems, -, hclauses, -⟩
  exact ⟨_, h, rfl, hstems, (hclauses _ (by decide) "page" (by decide) hlooks).2⟩

/-- A clause of a group asks for the number of pages. Without that column it is at fault, though
    the two tables differ under a reserved key only. -/
theorem not_unreserved_of_clause :
    Table.SameUnreserved .paged .unpaged ∧ LooksUp ("or", "(page.eq.3)") "page" ∧
      "page" ∈ reservedKeys ∧
      parse .paged "books" [("or", "(page.eq.3)")] =
        .ok ⟨[], [[⟨⟨"page", .integer⟩, false, .eq "3"⟩]], [], none⟩ ∧
      parse .unpaged "books" [("or", "(page.eq.3)")] =
        .error (.columnNotFound "page" "books") := by
  have hlooks : LooksUp ("or", "(page.eq.3)") "page" :=
    looksUp_of_parts "page.eq.3".toList rfl (by decide) rfl
  exact ⟨Table.sameUnreserved_paged, hlooks, by decide, by decide +kernel, by decide +kernel⟩

end ListingQuery

end Registrar
