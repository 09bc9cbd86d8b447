import Registrar.Listing.Query
import Registrar.Proofs.Listing.Grammar

/-!
# Queries Composed of Their Parts

The parameters of a listing can be cut anywhere: the query they describe is the query of the
first part followed by that of the second, and if a part fails the first one that does
decides. The reader keeps what it has taken up so far and adds to it, so what has to be seen
is that it adds the same whatever it has: a step on a query is the step on nothing, after the
query (`step_followedBy`).

From this follows what a single parameter does wherever it stands. One under a key that is no
column, or that belongs to the paging, does nothing at all, whatever its value. One under the
key of a column adds one filter, one ordering or a grouping, or it fails; which of these is
said without the reader, as for filters.

Only the grouping is not added to: of two the last counts. So the order of the parts matters,
but not where they are cut (`followedBy_assoc`).

## Main definitions

* `Directive.Written`, `Directive.Described`: A value is written like a directive, and
  describes one on a column.
* `ListingQuery.followedBy`: What two queries ask for together, the second after the first.
* `ListingQuery.size`: How many things a query asks for.
* `ListingQuery.Unheeded`: A key that no query looks at.

## Theorems

* `Directive.parse_eq_ok_iff`, `Directive.parse_eq_error_iff`: A directive is read just if
  its value describes it.
* `ListingQuery.step_followedBy`, `ListingQuery.steps_followedBy`: What parameters add does
  not depend on what there is already.
* `ListingQuery.parse_append`: The query of two lists of parameters.
* `ListingQuery.parse_composes`: Parts in order, parameters that do nothing, and parameters
  on a column.
-/

namespace Registrar

/-- A filter is told from the other directives by how it begins. -/
theorem Filter.Described.not_ordered {column : Column} {text : List Char} {filter : Filter}
    (h : Described column text filter) : Text.afterLead? "order_by.".toList text = none := by
  cases h with
  | plain h => cases h <;> rfl
  | negated h => rfl

theorem Filter.Described.not_grouped {column : Column} {value : String} {filter : Filter}
    (h : Described column value.toList filter) : value ≠ "group_by" := by
  intro hvalue
  rw [hvalue] at h
  cases parse_eq_ok_iff.2 h

/-- A text is written like a filter: an operator, perhaps after a negation. -/
def Filter.Written (text : List Char) : Prop :=
  ∃ sign operator, (sign = [] ∨ sign = "not.".toList) ∧ text = sign ++ operator ∧
    ((∃ operand, operator = "eq.".toList ++ operand) ∨
      (∃ operand, operator = "like.".toList ++ operand) ∨ operator = "is.null".toList ∨
        operator = "is.true".toList ∨ operator = "is.false".toList)

theorem Operator.exists_described_iff {text : List Char} :
    (∃ operator : Operator, operator.Described text) ↔
      (∃ operand, text = "eq.".toList ++ operand) ∨ (∃ operand, text = "like.".toList ++ operand) ∨
        text = "is.null".toList ∨ text = "is.true".toList ∨ text = "is.false".toList := by
  constructor
  · rintro ⟨operator, h⟩
    cases h with
    | eq h => exact Or.inl ⟨_, rfl⟩
    | like h => exact Or.inr (Or.inl ⟨_, rfl⟩)
    | isNull => exact Or.inr (Or.inr (Or.inl rfl))
    | isTrue => exact Or.inr (Or.inr (Or.inr (Or.inl rfl)))
    | isFalse => exact Or.inr (Or.inr (Or.inr (Or.inr rfl)))
  · -- Every operand stands for something.
    rintro (⟨operand, rfl⟩ | ⟨operand, rfl⟩ | rfl | rfl | rfl)
    · exact ⟨_, .eq (spaced_replaceAll operand)⟩
    · exact ⟨_, .like (spaced_replaceAll operand)⟩
    · exact ⟨_, .isNull⟩
    · exact ⟨_, .isTrue⟩
    · exact ⟨_, .isFalse⟩

theorem Filter.exists_described_iff {column : Column} {text : List Char} :
    (∃ filter, Described column text filter) ↔ Written text := by
  constructor
  · rintro ⟨filter, h⟩
    cases h with
    | plain h => exact ⟨[], _, Or.inl rfl, rfl, Operator.exists_described_iff.1 ⟨_, h⟩⟩
    | negated h => exact ⟨_, _, Or.inr rfl, rfl, Operator.exists_described_iff.1 ⟨_, h⟩⟩
  · rintro ⟨sign, text, hsign, rfl, htext⟩
    rcases Operator.exists_described_iff.2 htext with ⟨operator, h⟩
    rcases hsign with rfl | rfl
    · exact ⟨_, .plain h⟩
    · exact ⟨_, .negated h⟩

namespace Directive

/-- A value is written like a directive: the grouping, one of two orderings, or a filter. -/
def Written (value : String) : Prop :=
  value = "group_by" ∨ value = "order_by.asc" ∨ value = "order_by.desc" ∨
    Filter.Written value.toList

/-- A value describes a directive on a column: the grouping, one of two orderings, or a
    filter. -/
inductive Described (column : Column) (value : String) : Directive → Prop
  | group (h : value = "group_by") : Described column value .group
  | ascending (h : value = "order_by.asc") : Described column value (.order .ascending)
  | descending (h : value = "order_by.desc") : Described column value (.order .descending)
  | filter {filter : Filter} (h : Filter.Described column value.toList filter) :
      Described column value (.filter filter)

variable {column : Column} {value : String}

theorem exists_described_iff (column : Column) :
    (∃ directive, Described column value directive) ↔ Written value := by
  constructor
  · rintro ⟨directive, h⟩
    cases h with
    | group h => exact Or.inl h
    | ascending h => exact Or.inr (Or.inl h)
    | descending h => exact Or.inr (Or.inr (Or.inl h))
    | filter h => exact Or.inr (Or.inr (Or.inr (Filter.exists_described_iff.1 ⟨_, h⟩)))
  · rintro (h | h | h | h)
    · exact ⟨_, .group h⟩
    · exact ⟨_, .ascending h⟩
    · exact ⟨_, .descending h⟩
    · rcases Filter.exists_described_iff.2 h with ⟨filter, h⟩
      exact ⟨_, .filter h⟩

/-- What is neither the grouping nor an ordering is read as a filter. -/
theorem parse_of_filter (hgroup : value ≠ "group_by")
    (horder : Text.afterLead? "order_by.".toList value.toList = none) :
    parse column value = (Filter.parse column value.toList).map .filter := by
  unfold parse
  rw [if_neg hgroup, horder]

/-- An ordering is one of two words, or none. -/
theorem parse_of_order (column : Column) {direction : List Char}
    (h : Text.afterLead? "order_by.".toList value.toList = some direction) :
    (value = "order_by.asc" ∧ parse column value = .ok (.order .ascending)) ∨
    (value = "order_by.desc" ∧ parse column value = .ok (.order .descending)) ∨
    parse column value = .error (.unsupportedOperator column.name value) := by
  have hvalue : value = String.ofList ("order_by.".toList ++ direction) := by
    rw [← Text.afterLead?_eq_some_iff.1 h, String.ofList_toList]
  by_cases hasc : direction = "asc".toList
  · rw [hasc] at hvalue
    rw [hvalue]
    exact Or.inl ⟨rfl, rfl⟩
  · by_cases hdesc : direction = "desc".toList
    · rw [hdesc] at hvalue
      rw [hvalue]
      exact Or.inr (Or.inl ⟨rfl, rfl⟩)
    · have hgroup : value ≠ "group_by" := by
        intro hgroup
        rw [hgroup] at h
        cases h
      refine Or.inr (Or.inr ?_)
      unfold parse
      rw [if_neg hgroup, h]
      simp only [if_neg hasc, if_neg hdesc]

/-- A directive is read just if the value describes it. -/
theorem parse_eq_ok_iff {directive : Directive} :
    parse column value = .ok directive ↔ Described column value directive := by
  constructor
  · intro h
    by_cases hgroup : value = "group_by"
    · subst hgroup
      cases h
      exact .group rfl
    · -- A value that begins like an ordering is not tried as a filter.
      cases horder : Text.afterLead? "order_by.".toList value.toList with
      | none =>
          rw [parse_of_filter hgroup horder, map_eq_ok_iff] at h
          rcases h with ⟨filter, hfilter, rfl⟩
          exact .filter (Filter.parse_eq_ok_iff.1 hfilter)
      | some direction =>
          rcases parse_of_order column horder with
            ⟨hvalue, hparse⟩ | ⟨hvalue, hparse⟩ | hparse
          · rw [hparse] at h
            cases h
            exact .ascending hvalue
          · rw [hparse] at h
            cases h
            exact .descending hvalue
          · rw [hparse] at h
            cases h
  · intro h
    cases h with
    | group hvalue =>
        subst hvalue
        rfl
    | ascending hvalue =>
        subst hvalue
        rfl
    | descending hvalue =>
        subst hvalue
        rfl
    | filter hfilter =>
        rw [parse_of_filter hfilter.not_grouped hfilter.not_ordered,
          Filter.parse_eq_ok_iff.2 hfilter]
        rfl

/-- What describes no directive is reported as it is written. -/
theorem parse_eq_error_iff {e : QueryError} :
    parse column value = .error e ↔
      ¬Written value ∧ e = .unsupportedOperator column.name value := by
  rw [← exists_described_iff column, not_exists]
  refine eq_error_iff_of_ok_iff (fun directive => parse_eq_ok_iff) fun found h => ?_
  by_cases hgroup : value = "group_by"
  · subst hgroup
    cases h
  · cases horder : Text.afterLead? "order_by.".toList value.toList with
    | none =>
        rw [parse_of_filter hgroup horder] at h
        cases hfilter : Filter.parse column value.toList with
        | ok filter =>
            rw [hfilter] at h
            cases h
        | error e =>
            rw [hfilter] at h
            cases h
            have he := (Filter.parse_eq_error_iff.1 hfilter).2
            rw [he, String.ofList_toList]
    | some direction =>
        rcases parse_of_order column horder with ⟨-, hparse⟩ | ⟨-, hparse⟩ | hparse
        · rw [hparse] at h
          cases h
        · rw [hparse] at h
          cases h
        · rw [hparse] at h
          cases h
          rfl

end Directive

namespace ListingQuery

/-- What two queries ask for together, the second after the first. Of two groupings the
    second counts. -/
def followedBy (first second : ListingQuery) : ListingQuery where
  filters := first.filters ++ second.filters
  groups := first.groups ++ second.groups
  orderBy := first.orderBy ++ second.orderBy
  groupBy := second.groupBy.or first.groupBy

/-- How many things a query asks for. -/
def size (query : ListingQuery) : Nat :=
  query.filters.length + query.groups.length + query.orderBy.length + query.groupBy.toList.length

theorem followedBy_empty (query : ListingQuery) : query.followedBy empty = query := by
  simp only [followedBy, empty, List.append_nil, Option.none_or]

theorem followedBy_assoc (first second third : ListingQuery) :
    (first.followedBy second).followedBy third = first.followedBy (second.followedBy third) := by
  simp only [followedBy, List.append_assoc, Option.or_assoc]

/-- A directive is added after what there is. -/
theorem add_followedBy (query : ListingQuery) (column : Column) (directive : Directive) :
    query.add column directive = query.followedBy (empty.add column directive) := by
  cases directive <;>
    simp only [add, followedBy, empty, List.nil_append, List.append_nil, Option.none_or,
      Option.some_or]

/-- A directive is one thing to ask for. -/
theorem size_add (column : Column) (directive : Directive) :
    (empty.add column directive).size = 1 := by
  cases directive <;> rfl

/-- A key that no query looks at: that of no column, or one of the paging. -/
inductive Unheeded (table : Table) (key : String) : Prop
  | unknown (h : key ∉ reservedKeys) (hcolumn : table.column? key = none) : Unheeded table key
  | page (h : key = "page") : Unheeded table key
  | pageSize (h : key = "page_size") : Unheeded table key

variable {table : Table} {collection : String}

/-- It is not the key of the groups, and it is reserved or that of no column. -/
theorem Unheeded.passed_over {key : String} (h : Unheeded table key) :
    key ≠ orKey ∧ (key ∈ reservedKeys ∨ table.column? key = none) := by
  cases h with
  | unknown hkey hcolumn =>
      refine ⟨fun hor => hkey ?_, Or.inr hcolumn⟩
      rw [hor]
      decide
  | page hkey =>
      rw [hkey]
      exact ⟨by decide, Or.inl (by decide)⟩
  | pageSize hkey =>
      rw [hkey]
      exact ⟨by decide, Or.inl (by decide)⟩

theorem step_of_unheeded {query : ListingQuery} {param : String × String}
    (h : Unheeded table param.1) : step table collection query param = .ok query := by
  rcases h.passed_over with ⟨hor, hpassed⟩
  unfold step
  rw [if_neg hor]
  by_cases hkey : param.1 ∈ reservedKeys
  · rw [if_pos hkey]
  · rw [if_neg hkey, hpassed.resolve_left hkey]

theorem step_of_column {query : ListingQuery} {column : Column} {key value : String}
    (hkey : key ∉ reservedKeys) (hcolumn : table.column? key = some column) :
    step table collection query (key, value) =
      (Directive.parse column value).map (query.add column) := by
  have hor : key ≠ orKey := by
    intro hor
    rw [hor] at hkey
    exact hkey (by decide)
  simp only [step, if_neg hor, if_neg hkey, hcolumn]
  cases Directive.parse column value <;> rfl

theorem step_of_or (query : ListingQuery) (value : String) :
    step table collection query (orKey, value) =
      (Filter.parseGroup table collection value).map
        fun group => { query with groups := query.groups ++ [group] } := by
  simp only [step, if_pos]
  cases Filter.parseGroup table collection value <;> rfl

/-- A key is that of the groups, or no query looks at it, or a column has it. -/
theorem key_cases (table : Table) (key : String) :
    key = orKey ∨ Unheeded table key ∨
      (key ∉ reservedKeys ∧ ∃ column, table.column? key = some column) := by
  by_cases hreserved : key ∈ reservedKeys
  · simp only [reservedKeys, List.mem_cons, List.not_mem_nil, or_false] at hreserved
    rcases hreserved with hpage | hsize | hor
    · exact Or.inr (Or.inl (.page hpage))
    · exact Or.inr (Or.inl (.pageSize hsize))
    · exact Or.inl hor
  · cases hcolumn : table.column? key with
    | none => exact Or.inr (Or.inl (.unknown hreserved hcolumn))
    | some column => exact Or.inr (Or.inr ⟨hreserved, column, rfl⟩)

/-- What a parameter adds does not depend on what there is already. -/
theorem step_followedBy (query : ListingQuery) (param : String × String) :
    step table collection query param =
      (step table collection empty param).map query.followedBy := by
  rcases param with ⟨key, value⟩
  rcases key_cases table key with rfl | hkey | ⟨hkey, column, hcolumn⟩
  · rw [step_of_or, step_of_or]
    cases Filter.parseGroup table collection value with
    | error e => rfl
    | ok group =>
        simp only [Except.map, followedBy, empty, List.nil_append, List.append_nil, Option.none_or]
  · rw [step_of_unheeded hkey, step_of_unheeded hkey, Except.map, followedBy_empty]
  · rw [step_of_column hkey hcolumn, step_of_column hkey hcolumn]
    cases Directive.parse column value with
    | error e => rfl
    | ok directive =>
        simp only [Except.map]
        rw [add_followedBy]

theorem steps_append (query : ListingQuery) (p q : Params) :
    steps table collection query (p ++ q) =
      steps table collection query p >>= fun next => steps table collection next q := by
  induction p generalizing query with
  | nil => rfl
  | cons param rest ih =>
      rw [List.cons_append, steps, steps]
      cases step table collection query param with
      | error e => rfl
      | ok next => exact ih next

/-- What parameters add does not depend on what there is already. The induction is on the
    parameters, for every query: after a step there is more than before. -/
theorem steps_followedBy (query : ListingQuery) (params : Params) :
    steps table collection query params =
      (parse table collection params).map query.followedBy := by
  induction params generalizing query with
  | nil => simp only [parse, steps, Except.map, followedBy_empty]
  | cons param rest ih =>
      rw [parse, steps, steps, step_followedBy query]
      cases step table collection empty param with
      | error e => rfl
      | ok item =>
          -- The rest comes after the query and the item, or after the item alone.
          have hquery := ih (query.followedBy item)
          have hitem := ih item
          simp only [Except.map, bind, Except.bind, hquery, hitem]
          cases parse table collection rest with
          | error e => rfl
          | ok last => simp only [followedBy_assoc]

/-- The query of two lists of parameters is that of the first followed by that of the
    second, and if one of them fails the first that does decides. -/
theorem parse_append (p q : Params) :
    parse table collection (p ++ q) = parse table collection p >>= fun first =>
      (parse table collection q).map first.followedBy := by
  rw [parse, steps_append]
  simp only [steps_followedBy _ q]
  rfl

/-- A parameter that no query looks at can be inserted or removed anywhere. -/
theorem parse_insert {param : String × String} (h : Unheeded table param.1) (p q : Params) :
    parse table collection (p ++ param :: q) = parse table collection (p ++ q) := by
  have hrest : parse table collection (param :: q) = parse table collection q := by
    rw [parse, steps, step_of_unheeded h]
    rfl
  rw [parse_append, parse_append, hrest]

/-- A parameter on a column is read by itself. -/
theorem parse_single {column : Column} {key value : String} (hkey : key ∉ reservedKeys)
    (hcolumn : table.column? key = some column) :
    parse table collection [(key, value)] =
      (Directive.parse column value).map (empty.add column) := by
  rw [parse, steps, step_of_column hkey hcolumn]
  cases Directive.parse column value <;> rfl

theorem parse_single_eq_ok_iff {column : Column} {key value : String} {item : ListingQuery}
    (hkey : key ∉ reservedKeys) (hcolumn : table.column? key = some column) :
    parse table collection [(key, value)] = .ok item ↔ ∃ directive,
      Directive.Described column value directive ∧ item = empty.add column directive := by
  rw [parse_single hkey hcolumn, map_eq_ok_iff]
  refine exists_congr fun directive => and_congr Directive.parse_eq_ok_iff ?_
  exact eq_comm

theorem parse_single_eq_error_iff {column : Column} {key value : String} {e : QueryError}
    (hkey : key ∉ reservedKeys) (hcolumn : table.column? key = some column) :
    parse table collection [(key, value)] = .error e ↔
      ¬Directive.Written value ∧ e = .unsupportedOperator column.name value := by
  rw [parse_single hkey hcolumn, ← Directive.parse_eq_error_iff]
  cases Directive.parse column value with
  | error found => simp only [Except.map, Except.error.injEq]
  | ok directive => exact iff_of_false nofun nofun

/-- Parameters are read part by part: the first part that fails decides, and otherwise the
    second query follows the first. Parameters that no query looks at can stand anywhere.
    One on a column is read just if its value is written like a directive, and then the
    query has one thing more to ask for, which is what the value describes. -/
theorem parse_composes (table : Table) (collection : String) :
    (∀ p q e, parse table collection p = .error e →
      parse table collection (p ++ q) = .error e) ∧
    (∀ p q first e, parse table collection p = .ok first →
      parse table collection q = .error e → parse table collection (p ++ q) = .error e) ∧
    (∀ p q first last, parse table collection p = .ok first →
      parse table collection q = .ok last →
        parse table collection (p ++ q) = .ok (first.followedBy last)) ∧
    (∀ p q param, Unheeded table param.1 →
      parse table collection (p ++ param :: q) = parse table collection (p ++ q)) ∧
    ∀ key value column, key ∉ reservedKeys → table.column? key = some column →
      ((∃ item, parse table collection [(key, value)] = .ok item) ↔ Directive.Written value) ∧
      (∀ item, parse table collection [(key, value)] = .ok item ↔ ∃ directive,
        Directive.Described column value directive ∧ item = empty.add column directive ∧
          item.size = 1) ∧
      ∀ e, parse table collection [(key, value)] = .error e ↔
        ¬Directive.Written value ∧ e = .unsupportedOperator column.name value := by
  refine ⟨fun p q e hp => ?_, fun p q first e hp hq => ?_, fun p q first last hp hq => ?_,
    fun p q param h => parse_insert h p q, fun key value column hkey hcolumn => ⟨?_, ?_, ?_⟩⟩
  · rw [parse_append, hp]
    rfl
  · rw [parse_append, hp, hq]
    rfl
  · rw [parse_append, hp, hq]
    rfl
  · rw [← Directive.exists_described_iff column]
    constructor
    · rintro ⟨item, hitem⟩
      rcases (parse_single_eq_ok_iff hkey hcolumn).1 hitem with ⟨directive, h, -⟩
      exact ⟨directive, h⟩
    · rintro ⟨directive, h⟩
      exact ⟨_, (parse_single_eq_ok_iff hkey hcolumn).2 ⟨directive, h, rfl⟩⟩
  · intro item
    rw [parse_single_eq_ok_iff hkey hcolumn]
    refine exists_congr fun directive => and_congr_right fun _ => ?_
    refine ⟨fun h => ⟨h, ?_⟩, fun h => h.1⟩
    rw [h]
    exact size_add column directive
  · exact fun e => parse_single_eq_error_iff hkey hcolumn

/-- Two groupings around a filter, with a page and a key that is no column in between: the
    second grouping counts, and what comes after a fault is not looked at. -/
theorem parse_composes_groupings : ∃ table : Table,
    let parts : Params × Params :=
      ([("id", "group_by"), ("page", "x")], [("name", "not.is.null"), ("name", "group_by")])
    let name : Column := ⟨"name", .string⟩
    parse table "groups" (parts.1 ++ parts.2) =
        .ok ⟨[⟨name, true, .isNull⟩], [], [], some name⟩ ∧
      parse table "groups" (parts.1 ++ ("colour", "eq.") :: parts.2) =
        parse table "groups" (parts.1 ++ parts.2) ∧
      parse table "groups" ([("id", "order_by.up")] ++ [("or", "id")]) =
        .error (.unsupportedOperator "id" "order_by.up") ∧
      parse table "groups" (parts.1 ++ [("or", "id")]) = .error (.orGroupNotParenthesised "id") ∧
      ¬Directive.Written "order_by.up" := by
  let table : Table := ⟨"public", "groups", "id",
    .ofList [("id", ⟨"id", .integer⟩), ("name", ⟨"name", .string⟩)]⟩
  refine ⟨table, ?_⟩
  intro parts name
  have hfirst : parse table "groups" parts.1 = .ok ⟨[], [], [], some ⟨"id", .integer⟩⟩ := by
    decide +kernel
  have hlast : parse table "groups" parts.2 = .ok ⟨[⟨name, true, .isNull⟩], [], [], some name⟩ := by
    decide +kernel
  have hor : parse table "groups" [("or", "id")] = .error (.orGroupNotParenthesised "id") := by
    decide +kernel
  have hup : parse table "groups" [("id", "order_by.up")] =
      .error (.unsupportedOperator "id" "order_by.up") := by decide +kernel
  rcases parse_composes table "groups" with ⟨hfails, hfailsThen, hboth, hinsert, hcolumn⟩
  refine ⟨hboth _ _ _ _ hfirst hlast, ?_, hfails _ _ _ hup, hfailsThen _ _ _ _ hfirst hor, ?_⟩
  · exact hinsert parts.1 parts.2 ("colour", "eq.") (.unknown (by decide) rfl)
  · rcases hcolumn "id" "order_by.up" _ (by decide) rfl with ⟨-, -, herror⟩
    exact ((herror _).1 hup).1

end ListingQuery

end Registrar
