import Registrar.Proofs.Listing.Permitted

/-!
# Pages and Counts

The page of a listing and the number of its rows come from two statements. The number is
right only if both are about the same rows, that is, if they are written with the same
source and the same condition; and the one that counts must neither group nor cut off rows.

Only filters and groups of filters say which rows are meant. Of everything else that
parameters ask for, paging, ordering and grouping, the count knows nothing, and so it stays
the same statement, letter by letter, whatever they are.

## Main definitions

* `Select.fromText`, `Select.whereText`: The clauses of a selection, as written.
* `ListingQuery.filter?`, `ListingQuery.group?`: What a parameter yields.

## Theorems

* `Select.text_eq`: The text of a selection, clause by clause.
* `ListingQuery.parse_yields`: A query has the filters and groups that its parameters yield.
* `ListingPlan.ofParams_count`: The page and the count are about the same rows.
-/

namespace Registrar

namespace Sql

/-- The source of a selection, as written. -/
def Select.fromText (select : Select) : String :=
  (Text.ofPieces (Source.piecesOfOption select.source)).text

/-- The condition of a selection, as written. -/
def Select.whereText (select : Select) : String :=
  (Text.ofPieces (whereClause select.condition select.condition.pieces)).text

/-- Without documents no parameters are counted. -/
theorem countFrom_of_unbound {pieces : List Piece} (h : pieces.filterMap Piece.document? = [])
    (index : Nat) : countFrom index pieces = index := by
  rw [countFrom_eq, h]
  rfl

/-- Pieces without documents are written as they are on their own. -/
theorem Text.text_ofPieces_append {first : List Piece}
    (h : first.filterMap Piece.document? = []) (second : List Piece) :
    (ofPieces (first ++ second)).text = (ofPieces first).text ++ (ofPieces second).text := by
  simp only [← String.toList_inj, String.toList_append, toList_ofPieces, charsFrom_append,
    countFrom_of_unbound h]

/-- The text of a selection: what it returns, its source and its condition, if nothing is
    bound before. After that stands what groups, orders and cuts off its rows. -/
theorem Select.text_eq {select : Select}
    (hlist : select.list.pieces.filterMap Piece.document? = [])
    (hsource : (Source.piecesOfOption select.source).filterMap Piece.document? = []) :
    ∃ rest, select.text.text = "SELECT " ++ ((Text.ofPieces select.list.pieces).text ++
        (select.fromText ++ (select.whereText ++ rest))) ∧
      (select.groupBy = [] → select.orderBy = [] → select.limit = none → select.offset = none →
        rest = "") := by
  rcases select with ⟨list, source, condition, groupBy, orderBy, limit, offset⟩
  let condition' := whereClause condition condition.pieces
  let tail := listClause ["GROUP", "BY"] (Expr.piecesOfAll groupBy) ++
    listClause ["ORDER", "BY"] (Expr.piecesOfOrdered orderBy) ++
    amount "LIMIT" limit ++ amount "OFFSET" offset
  have hpieces : (⟨list, source, condition, groupBy, orderBy, limit, offset⟩ : Select).pieces =
      [.word "SELECT", .blank] ++ (list.pieces ++ (Source.piecesOfOption source ++
        (condition' ++ tail))) := by
    rw [Select.pieces]
    simp only [condition', tail, List.cons_append, List.nil_append, List.append_assoc]
  refine ⟨String.ofList (charsFrom (countFrom 0 condition') tail), ?_, ?_⟩
  · rw [Select.text, hpieces, Text.text_ofPieces_append rfl, Text.text_ofPieces_append hlist,
      Text.text_ofPieces_append hsource]
    -- The condition may bind documents, so what follows it is numbered on from there.
    have hcondition : (Text.ofPieces (condition' ++ tail)).text =
        (Text.ofPieces condition').text ++
          String.ofList (charsFrom (countFrom 0 condition') tail) := by
      simp only [← String.toList_inj, String.toList_append, Text.toList_ofPieces,
        charsFrom_append, String.toList_ofList]
    rw [hcondition]
    rfl
  · rintro rfl rfl rfl rfl
    simp only [tail, Expr.piecesOfAll, Expr.piecesOfOrdered, listClause, amount, charsFrom,
      List.isEmpty_nil, if_true, List.append_nil, String.ofList_nil]

/-- A count is written as nothing but a source and a condition. -/
theorem Select.text_count {source : Source} {condition : Expr}
    (hsource : (Source.piecesOfOption (some source)).filterMap Piece.document? = []) :
    (count source condition).text.text = "SELECT COUNT(*) AS \"count\"" ++
      ((count source condition).fromText ++ (count source condition).whereText) := by
  have hlist : (count source condition).list.pieces =
      [.word "COUNT", .mark "(", .mark "*", .mark ")", .blank, .word "AS", .blank,
        .name "count"] := by
    simp only [count, simple, SelectList.pieces, Expr.piecesOfAliased, commaSeparated,
      Expr.pieces, parenthesised, aliased, clause, words, countAlias, List.cons_append,
      List.nil_append]
  have hunbound : (count source condition).list.pieces.filterMap Piece.document? = [] := by
    rw [hlist]
    rfl
  rcases Select.text_eq hunbound hsource with ⟨rest, htext, hrest⟩
  rw [htext, hrest rfl rfl rfl rfl, hlist, String.append_empty, ← String.append_assoc]
  rfl

/-- Rows that are gathered are a selection in parentheses. -/
theorem Select.text_asRows (select : Select) :
    select.asRows.text.text =
      "SELECT coalesce(json_agg(row_to_json(\"rows\")), '[]') AS \"rows\" FROM (" ++
        (select.text.text ++ ") AS \"rows\"") := by
  let front : List Piece := [.word "SELECT", .blank, .word "coalesce", .mark "(",
    .word "json_agg", .mark "(", .word "row_to_json", .mark "(", .name "rows", .mark ")",
    .mark ")", .mark ",", .blank, .literal "[]", .mark ")", .blank, .word "AS", .blank,
    .name "rows", .blank, .word "FROM", .blank, .mark "("]
  let back : List Piece := [.mark ")", .blank, .word "AS", .blank, .name "rows"]
  have hpieces : select.asRows.pieces = front ++ (select.pieces ++ back) := by
    simp only [front, back, asRows, simple, Select.pieces, SelectList.pieces,
      Expr.piecesOfAliased, Expr.piecesOfAll, Expr.piecesOfOrdered, Expr.pieces, Value.pieces,
      TableRef.pieces, Function.name, Source.piecesOfOption, Source.pieces, whereClause,
      Expr.true, Expr.isTrivial, listClause, amount, commaSeparated, comma, parenthesised,
      aliased, clause, words, rowsAlias, List.isEmpty_nil, if_true, List.cons_append,
      List.nil_append, List.append_nil, List.append_assoc]
  have hback : (Text.ofPieces (select.pieces ++ back)).text =
      select.text.text ++ ") AS \"rows\"" := by
    -- What closes the parenthesis is written the same after any number of parameters.
    have hchars : ∀ index, charsFrom index back = ") AS \"rows\"".toList := fun _ => rfl
    simp only [← String.toList_inj, String.toList_append, Select.text, Text.toList_ofPieces,
      charsFrom_append, hchars]
  rw [Select.text, hpieces, Text.text_ofPieces_append rfl, hback]
  rfl

end Sql

open Sql

namespace ListingQuery

/-- The filter that a parameter yields, if it does. -/
def filter? (table : Table) (param : String × String) : Option Filter :=
  if param.1 ∈ reservedKeys then none
  else
    match table.column? param.1 with
    | none => none
    | some column =>
      match Directive.parse column param.2 with
      | .ok (.filter filter) => some filter
      | .ok (.order _) | .ok .group | .error _ => none

/-- The group of filters that a parameter yields, if it does. -/
def group? (table : Table) (collection : String) (param : String × String) :
    Option (List Filter) :=
  if param.1 = orKey then (Filter.parseGroup table collection param.2).toOption else none

variable {table : Table} {collection : String}

/-- A parameter adds to a query what it yields. -/
theorem step_yields {query next : ListingQuery} {param : String × String}
    (h : step table collection query param = .ok next) :
    next.filters = query.filters ++ (filter? table param).toList ∧
      next.groups = query.groups ++ (group? table collection param).toList := by
  rcases step_cases h with ⟨hor, group, hgroup, rfl⟩ | ⟨hor, hpassed, rfl⟩ |
    ⟨hreserved, column, directive, hcolumn, hdirective, rfl⟩
  · have hreserved : param.1 ∈ reservedKeys := hor ▸ by decide
    rw [filter?, if_pos hreserved, group?, if_pos hor, hgroup]
    exact ⟨(List.append_nil _).symm, rfl⟩
  · have hnothing : filter? table param = none := by
      rw [filter?]
      rcases hpassed with hreserved | hcolumn
      · rw [if_pos hreserved]
      · rw [hcolumn]
        split <;> rfl
    rw [hnothing, group?, if_neg hor]
    exact ⟨(List.append_nil _).symm, (List.append_nil _).symm⟩
  · have hor : param.1 ≠ orKey := fun hor => hreserved (hor ▸ by decide)
    rw [filter?, if_neg hreserved, hcolumn, group?, if_neg hor]
    simp only [hdirective]
    -- Of the directives only a filter is yielded.
    cases directive with
    | filter filter => exact ⟨rfl, (List.append_nil _).symm⟩
    | order | group => exact ⟨(List.append_nil _).symm, (List.append_nil _).symm⟩

/-- A query has the filters and the groups that its parameters yield, in their order. -/
theorem parse_yields {query : ListingQuery} {params : Params}
    (h : parse table collection params = .ok query) :
    query.filters = params.filterMap (filter? table) ∧
      query.groups = params.filterMap (group? table collection) :=
  ⟨steps_collects (fun hstep => (step_yields hstep).1) h,
    steps_collects (fun hstep => (step_yields hstep).2) h⟩

end ListingQuery

namespace ListingPlan

variable {catalog : Catalog} {listed : Listed} {restriction : Option Restriction}

/-- A listing binds no documents before its condition. -/
theorem unbound_pageOfRows (listed : Listed) (query : ListingQuery) (page : Page)
    (condition : Expr) :
    (pageOfRows listed query page condition).list.pieces.filterMap Piece.document? = [] ∧
      (Source.piecesOfOption (some listed.source)).filterMap Piece.document? = [] := by
  have hknown : listed.Known fun _ => True :=
    ⟨trivial, trivial, trivial, trivial, fun _ _ => ⟨trivial, trivial⟩⟩
  have hlist : Guards (fun _ => True) (fun _ => False)
      (SelectList.columns (shownColumns listed query)).pieces :=
    guards_shownColumns hknown trivial query
  have hsource : Guards (fun _ => True) (fun _ => False)
      (Source.piecesOfOption (some listed.source)) :=
    Guards.sourceOption fun _ hsome => Option.some.inj hsome ▸ hknown.guards_source
  exact ⟨List.eq_nil_iff_forall_not_mem.2 hlist.documents,
    List.eq_nil_iff_forall_not_mem.2 hsource.documents⟩

/-- The page and the count of a query have the same source and the same condition, and the
    count nothing else. -/
theorem build_texts {query : ListingQuery} {page : Page} {plan : ListingPlan}
    (h : build catalog listed restriction query page = .ok plan) :
    ∃ (rows : Select) (list rest : String), plan.rows = rows.asRows ∧
      plan.rows.text.text =
        "SELECT coalesce(json_agg(row_to_json(\"rows\")), '[]') AS \"rows\" FROM (" ++
          (rows.text.text ++ ") AS \"rows\"") ∧
      rows.text.text = "SELECT " ++ (list ++ (rows.fromText ++ (rows.whereText ++ rest))) ∧
      plan.count.text.text =
        "SELECT COUNT(*) AS \"count\"" ++ (rows.fromText ++ rows.whereText) := by
  rcases build_cases h with ⟨narrowing, -, hrows, hcount⟩
  rcases unbound_pageOfRows listed query page
    (.conjunction (narrowing.toList ++ query.conditions listed)) with ⟨hlist, hsource⟩
  rcases Select.text_eq hlist hsource with ⟨rest, htext, -⟩
  refine ⟨_, _, rest, hrows, ?_, htext, ?_⟩
  · rw [hrows]
    exact Select.text_asRows _
  · rw [hcount]
    exact Select.text_count hsource

/-- The count of a query is decided by its filters and its groups. -/
theorem build_count_eq {query other : ListingQuery} {page page' : Page}
    {plan plan' : ListingPlan} (h : build catalog listed restriction query page = .ok plan)
    (h' : build catalog listed restriction other page' = .ok plan')
    (hfilters : other.filters = query.filters) (hgroups : other.groups = query.groups) :
    plan'.count = plan.count := by
  rcases build_cases h with ⟨narrowing, hnarrowing, -, hcount⟩
  rcases build_cases h' with ⟨narrowing', hnarrowing', -, hcount'⟩
  cases hnarrowing.symm.trans hnarrowing'
  rw [hcount, hcount', ListingQuery.conditions, ListingQuery.conditions, hfilters, hgroups]

/-- The page and the count of a listing are written with the same source and the same
    condition, and the count has no clause besides. Parameters that yield the same filters
    and the same groups, each in their order, lead to the same count, whatever else they ask
    for and wherever it stands among them. -/
theorem ofParams_count {collection : String} {params : Params} {plan : ListingPlan}
    (h : ofParams catalog collection restriction params = .ok plan) :
    (∃ (rows : Select) (list rest : String), plan.rows = rows.asRows ∧
      plan.rows.text.text =
        "SELECT coalesce(json_agg(row_to_json(\"rows\")), '[]') AS \"rows\" FROM (" ++
          (rows.text.text ++ ") AS \"rows\"") ∧
      rows.text.text = "SELECT " ++ (list ++ (rows.fromText ++ (rows.whereText ++ rest))) ∧
      plan.count.text.text =
        "SELECT COUNT(*) AS \"count\"" ++ (rows.fromText ++ rows.whereText)) ∧
    (plan.count.groupBy = [] ∧ plan.count.orderBy = [] ∧ plan.count.limit = none ∧
      plan.count.offset = none) ∧
    ∃ listed query, catalog.find collection = .ok listed ∧
      ListingQuery.parse listed.table collection params = .ok query ∧
      query.filters = params.filterMap (ListingQuery.filter? listed.table) ∧
      query.groups = params.filterMap (ListingQuery.group? listed.table collection) ∧
      ∀ others other, ofParams catalog collection restriction others = .ok other →
        others.filterMap (ListingQuery.filter? listed.table) =
          params.filterMap (ListingQuery.filter? listed.table) →
        others.filterMap (ListingQuery.group? listed.table collection) =
          params.filterMap (ListingQuery.group? listed.table collection) →
        other.count.text = plan.count.text := by
  rcases bind_eq_ok_iff.1 h with ⟨page, -, h⟩
  rcases bind_eq_ok_iff.1 h with ⟨listed, hlisted, h⟩
  rcases bind_eq_ok_iff.1 h with ⟨query, hquery, h⟩
  rcases ListingQuery.parse_yields hquery with ⟨hfilters, hgroups⟩
  refine ⟨build_texts h, ?_, listed, query, hlisted, hquery, hfilters, hgroups, ?_⟩
  · rcases build_cases h with ⟨narrowing, -, -, hcount⟩
    rw [hcount]
    exact ⟨rfl, rfl, rfl, rfl⟩
  · intro others other hother hsame hsame'
    rcases bind_eq_ok_iff.1 hother with ⟨page', -, hother⟩
    rcases bind_eq_ok_iff.1 hother with ⟨listed', hlisted', hother⟩
    rcases bind_eq_ok_iff.1 hother with ⟨query', hquery', hother⟩
    cases hlisted.symm.trans hlisted'
    rcases ListingQuery.parse_yields hquery' with ⟨hfilters', hgroups'⟩
    rw [build_count_eq h hother (by rw [hfilters', hsame, hfilters])
      (by rw [hgroups', hsame', hgroups])]

/-- Members of a group are asked for by name: the last page of many, ordered, is counted as
    all of them grouped by another column. -/
theorem ofParams_count_members :
    ∃ plan other,
      ofParams .builtin Collection.users
        (some (.linked Collection.userGroups "user_id" "group_id" 5))
        [("page", "3"), ("username", "like.a"), ("email", "order_by.desc"),
          ("or", "(id.eq.1,active.is.true)")] = .ok plan ∧
      ofParams .builtin Collection.users
        (some (.linked Collection.userGroups "user_id" "group_id" 5))
        [("or", "(id.eq.1,active.is.true)"), ("unknown", "like.b"), ("username", "like.a"),
          ("email", "group_by"), ("page_size", "5")] = .ok other ∧
      other.count.text = plan.count.text := by
  rcases exists_of_isOk (ofParams .builtin Collection.users
    (some (.linked Collection.userGroups "user_id" "group_id" 5))
    [("page", "3"), ("username", "like.a"), ("email", "order_by.desc"),
      ("or", "(id.eq.1,active.is.true)")]) (by decide +kernel) with ⟨plan, hplan⟩
  rcases exists_of_isOk (ofParams .builtin Collection.users
    (some (.linked Collection.userGroups "user_id" "group_id" 5))
    [("or", "(id.eq.1,active.is.true)"), ("unknown", "like.b"), ("username", "like.a"),
      ("email", "group_by"), ("page_size", "5")]) (by decide +kernel) with ⟨other, hother⟩
  rcases ofParams_count hplan with ⟨-, -, listed, query, hlisted, -, -, -, h⟩
  refine ⟨plan, other, hplan, hother, h _ other hother ?_ ?_⟩
  · have hall : ∀ found ∈ (Catalog.builtin.find Collection.users).toOption,
        [("or", "(id.eq.1,active.is.true)"), ("unknown", "like.b"), ("username", "like.a"),
          ("email", "group_by"), ("page_size", "5")].filterMap
            (ListingQuery.filter? found.table) =
        [("page", "3"), ("username", "like.a"), ("email", "order_by.desc"),
          ("or", "(id.eq.1,active.is.true)")].filterMap (ListingQuery.filter? found.table) := by
      decide +kernel
    exact hall listed (by rw [hlisted]; rfl)
  · have hall : ∀ found ∈ (Catalog.builtin.find Collection.users).toOption,
        [("or", "(id.eq.1,active.is.true)"), ("unknown", "like.b"), ("username", "like.a"),
          ("email", "group_by"), ("page_size", "5")].filterMap
            (ListingQuery.group? found.table Collection.users) =
        [("page", "3"), ("username", "like.a"), ("email", "order_by.desc"),
          ("or", "(id.eq.1,active.is.true)")].filterMap
            (ListingQuery.group? found.table Collection.users) := by
      decide +kernel
    exact hall listed (by rw [hlisted]; rfl)

end ListingPlan

end Registrar
