import Mathlib.Data.List.Forall2
import Registrar.Listing.Filter

/-!
# The Grammar of Filters

What the value of a filter or of an `or` group may look like, said without the reader: a
grammar in which a text describes an operator, a filter on a column, a clause, a group. The
reader of groups accepts the texts of this grammar and no others, and what it makes of them
is what they describe.

A text that describes nothing fails for one reason only. The parentheses are looked at
first. Inside of them the clauses are looked at from left to right, and the first one that
is at fault is reported: it has no key or no filter, or no column has the key, or the filter
is none. `ClauseFault` and `GroupFault` say so, again without the reader.

Because an operand ends where its clause ends, it can hold anything but commas and
parentheses, points included. A key ends at the first point.

## Main definitions

* `Operator.Spaced`: A text in which spaces may be written as `%20` stands for another.
* `Operator.Described`, `Filter.Described`: A text describes an operator, or a filter.
* `Filter.Divided`, `Filter.Parenthesised`, `Filter.MadeUp`: The parts of a clause and of a
  group.
* `Filter.ClauseDescribed`, `Filter.GroupDescribed`: A text describes a clause, or a group.
* `Filter.ClauseFault`, `Filter.GroupFault`: A text does not, for a reason.
* `Filter.groupText`, `Filter.clauseText`: The text of several clauses as a group, and of a
  filter as a clause.
* `Filter.Printable`: A filter can be written as a clause.

## Theorems

* `Operator.parse?_eq_some_iff`, `Filter.parse_eq_ok_iff`, `Filter.parse_eq_error_iff`: A
  filter is read just if its text describes it.
* `Filter.parseClause_eq_ok_iff`, `Filter.parseClause_eq_error_iff`: The same for a clause.
* `Filter.parseClauses_eq_ok_iff`, `Filter.parseClauses_eq_error_iff`: Several clauses are
  read one by one, up to the first that is at fault.
* `Filter.parseGroup_grammar`: Groups are read as the grammar says.
-/

namespace Registrar

namespace Operator

/-- A text in which spaces may be written as `%20` stands for another. -/
inductive Spaced : List Char → List Char → Prop
  | nil : Spaced [] []
  | space {text meaning : List Char} (h : Spaced text meaning) :
      Spaced ('%' :: '2' :: '0' :: text) (' ' :: meaning)
  | char {c : Char} {text meaning : List Char}
      (hne : ∀ rest, c :: text ≠ '%' :: '2' :: '0' :: rest) (h : Spaced text meaning) :
      Spaced (c :: text) (c :: meaning)

/-- Only one text is stood for. -/
theorem Spaced.unique {text meaning meaning' : List Char} (h : Spaced text meaning)
    (h' : Spaced text meaning') : meaning = meaning' := by
  induction h generalizing meaning' with
  | nil =>
      cases h'
      rfl
  | space h ih =>
      cases h' with
      | space h' => rw [ih h']
      | char hne h' => exact absurd rfl (hne _)
  | char hne h ih =>
      cases h' with
      | space h' => exact absurd rfl (hne _)
      | char hne' h' => rw [ih h']

/-- Replacing every `%20` from left to right gives the text that is stood for. -/
theorem spaced_replaceAll : (text : List Char) →
    Spaced text (Text.replaceAll ['%', '2', '0'] [' '] text)
  | [] => .nil
  | c :: text => by
      by_cases h : ∃ rest, c :: text = '%' :: '2' :: '0' :: rest
      · rcases h with ⟨rest, h⟩
        rw [h]
        -- The three characters are passed over, and the text after them is shorter.
        have hlength : rest.length < (c :: text).length := by
          rw [h]
          simp only [List.length_cons]
          omega
        exact .space (spaced_replaceAll rest)
      · have hlead : Text.afterLead? ['%', '2', '0'] (c :: text) = none := by
          refine Option.eq_none_iff_forall_ne_some.2 fun rest hrest => ?_
          exact h ⟨rest, Text.afterLead?_eq_some_iff.1 hrest⟩
        have hstep : Text.replaceAll ['%', '2', '0'] [' '] (c :: text) =
            c :: Text.replaceAll ['%', '2', '0'] [' '] text := by
          simp only [Text.replaceAll, Text.replaceFrom, hlead]
        rw [hstep]
        exact .char (fun rest hrest => h ⟨rest, hrest⟩) (spaced_replaceAll text)
termination_by text => text.length
decreasing_by
  · exact hlength
  · exact Nat.lt_succ_self _

theorem operand_eq_iff {text meaning : List Char} :
    operand text = String.ofList meaning ↔ Spaced text meaning := by
  constructor
  · intro h
    have hsame := String.ofList_injective h
    rw [← hsame]
    exact spaced_replaceAll text
  · intro h
    have hsame := h.unique (spaced_replaceAll text)
    rw [hsame]
    rfl

/-- A text without `%20` stands for itself. -/
theorem spaced_self {text : List Char} (h : ¬['%', '2', '0'] <:+: text) : Spaced text text := by
  induction text with
  | nil => exact .nil
  | cons c text ih =>
      refine .char (fun rest hrest => ?_) (ih fun hoccurs => ?_)
      · have hlead : ['%', '2', '0'] <+: c :: text := ⟨rest, hrest.symm⟩
        exact h hlead.isInfix
      · exact h (hoccurs.trans (List.suffix_cons c text).isInfix)

/-- A text describes an operator. -/
inductive Described : List Char → Operator → Prop
  | eq {text meaning : List Char} (h : Spaced text meaning) :
      Described ("eq.".toList ++ text) (.eq (String.ofList meaning))
  | like {text meaning : List Char} (h : Spaced text meaning) :
      Described ("like.".toList ++ text) (.like (String.ofList meaning))
  | isNull : Described "is.null".toList .isNull
  | isTrue : Described "is.true".toList .isTrue
  | isFalse : Described "is.false".toList .isFalse

/-- An operator is read just if the text describes it. -/
theorem parse?_eq_some_iff {text : List Char} {operator : Operator} :
    parse? text = some operator ↔ Described text operator := by
  constructor
  · intro h
    unfold parse? at h
    cases heq : Text.afterLead? "eq.".toList text with
    | some rest =>
        simp only [heq] at h
        cases h
        rw [Text.afterLead?_eq_some_iff.1 heq]
        exact .eq (spaced_replaceAll rest)
    | none =>
        cases hlike : Text.afterLead? "like.".toList text with
        | some rest =>
            simp only [heq, hlike] at h
            cases h
            rw [Text.afterLead?_eq_some_iff.1 hlike]
            exact .like (spaced_replaceAll rest)
        | none =>
            simp only [heq, hlike] at h
            -- Without an operand only the three words are left.
            by_cases hnull : text = "is.null".toList
            · rw [if_pos hnull] at h
              cases h
              rw [hnull]
              exact .isNull
            · rw [if_neg hnull] at h
              by_cases htrue : text = "is.true".toList
              · rw [if_pos htrue] at h
                cases h
                rw [htrue]
                exact .isTrue
              · rw [if_neg htrue] at h
                by_cases hfalse : text = "is.false".toList
                · rw [if_pos hfalse] at h
                  cases h
                  rw [hfalse]
                  exact .isFalse
                · rw [if_neg hfalse] at h
                  cases h
  · intro h
    cases h with
    | @eq text meaning h =>
        have hrest : Text.afterLead? "eq.".toList ("eq.".toList ++ text) = some text :=
          Text.afterLead?_eq_some_iff.2 rfl
        simp only [parse?, hrest, operand_eq_iff.2 h]
    | @like text meaning h =>
        -- The two operators with an operand differ in their first character.
        have hnone : Text.afterLead? "eq.".toList ("like.".toList ++ text) = none := rfl
        have hrest : Text.afterLead? "like.".toList ("like.".toList ++ text) = some text :=
          Text.afterLead?_eq_some_iff.2 rfl
        simp only [parse?, hnone, hrest, operand_eq_iff.2 h]
    | isNull => rfl
    | isTrue => rfl
    | isFalse => rfl

/-- No operator begins like a negation. -/
theorem Described.not_negated {text : List Char} {operator : Operator}
    (h : Described text operator) : Text.afterLead? "not.".toList text = none := by
  cases h with
  | eq h => rfl
  | like h => rfl
  | isNull => rfl
  | isTrue => rfl
  | isFalse => rfl

theorem Described.ne_nil {text : List Char} {operator : Operator} (h : Described text operator) :
    text ≠ [] := by
  cases h with
  | eq h => exact List.cons_ne_nil _ _
  | like h => exact List.cons_ne_nil _ _
  | isNull => decide
  | isTrue => decide
  | isFalse => decide

end Operator

namespace Filter

/-- A text describes a filter on a column: an operator, perhaps negated. -/
inductive Described (column : Column) : List Char → Filter → Prop
  | plain {text : List Char} {operator : Operator} (h : operator.Described text) :
      Described column text ⟨column, false, operator⟩
  | negated {text : List Char} {operator : Operator} (h : operator.Described text) :
      Described column ("not.".toList ++ text) ⟨column, true, operator⟩

/-- What a text describes follows from what is left of it without the negation. -/
theorem described_iff {column : Column} {text : List Char} {filter : Filter} :
    Described column text filter ↔ ∃ operator,
      Operator.parse? (negation text).2 = some operator ∧
        filter = ⟨column, (negation text).1, operator⟩ := by
  constructor
  · intro h
    cases h with
    | plain h =>
        -- No operator begins like a negation, so the text is taken for none.
        have hplain : negation text = (false, text) := by
          simp only [negation, h.not_negated]
        rw [hplain]
        exact ⟨_, Operator.parse?_eq_some_iff.2 h, rfl⟩
    | @negated text operator h =>
        have hrest : Text.afterLead? "not.".toList ("not.".toList ++ text) = some text :=
          Text.afterLead?_eq_some_iff.2 rfl
        have hnegated : negation ("not.".toList ++ text) = (true, text) := by
          simp only [negation, hrest]
        rw [hnegated]
        exact ⟨operator, Operator.parse?_eq_some_iff.2 h, rfl⟩
  · rintro ⟨operator, hoperator, rfl⟩
    unfold negation at hoperator ⊢
    cases hrest : Text.afterLead? "not.".toList text with
    | some rest =>
        simp only [hrest] at hoperator ⊢
        rw [Text.afterLead?_eq_some_iff.1 hrest]
        exact .negated (Operator.parse?_eq_some_iff.1 hoperator)
    | none =>
        simp only [hrest] at hoperator ⊢
        exact .plain (Operator.parse?_eq_some_iff.1 hoperator)

theorem Described.ne_nil {column : Column} {text : List Char} {filter : Filter}
    (h : Described column text filter) : text ≠ [] := by
  cases h with
  | plain h => exact h.ne_nil
  | negated h => exact List.cons_ne_nil _ _

theorem Described.column_eq {column : Column} {text : List Char} {filter : Filter}
    (h : Described column text filter) : filter.column = column := by
  cases h <;> rfl

/-- A filter is read just if the text describes it. -/
theorem parse_eq_ok_iff {column : Column} {text : List Char} {filter : Filter} :
    parse column text = .ok filter ↔ Described column text filter := by
  rw [described_iff]
  unfold parse
  cases hoperator : Operator.parse? (negation text).2 with
  | none => simp only [hoperator, reduceCtorEq, false_and, exists_false]
  | some operator =>
      simp only [hoperator, Except.ok.injEq, Option.some.injEq]
      constructor
      · rintro rfl
        exact ⟨operator, rfl, rfl⟩
      · rintro ⟨_, rfl, rfl⟩
        rfl

/-- What describes no filter is reported as it is written. -/
theorem parse_eq_error_iff {column : Column} {text : List Char} {e : QueryError} :
    parse column text = .error e ↔ (∀ filter, ¬Described column text filter) ∧
      e = .unsupportedOperator column.name (String.ofList text) := by
  refine eq_error_iff_of_ok_iff (fun filter => parse_eq_ok_iff) fun found h => ?_
  unfold parse at h
  cases hoperator : Operator.parse? (negation text).2 with
  | none =>
      simp only [hoperator] at h
      cases h
      rfl
  | some operator =>
      simp only [hoperator] at h
      cases h

/-- A clause has a key, which ends at the first point, and a text after that. -/
structure Divided (clause key text : List Char) : Prop where
  written : clause = key ++ '.' :: text
  first : '.' ∉ key
  key_ne : key ≠ []
  text_ne : text ≠ []

/-- A clause describes a filter on the column under its key. -/
def ClauseDescribed (table : Table) (clause : List Char) (filter : Filter) : Prop :=
  ∃ key text column, Divided clause key text ∧
    table.column? (String.ofList key) = some column ∧ Described column text filter

theorem ClauseDescribed.exists_key {table : Table} {clause : List Char} {filter : Filter}
    (h : ClauseDescribed table clause filter) :
    ∃ key, table.column? key = some filter.column := by
  rcases h with ⟨key, text, column, -, hcolumn, hfilter⟩
  rw [hfilter.column_eq]
  exact ⟨_, hcolumn⟩

/-- A clause describes nothing, because it is not divided, or no column has its key, or
    its text describes no filter. -/
inductive ClauseFault (table : Table) (collection : String) (clause : List Char) :
    QueryError → Prop
  | malformed (h : ∀ key text, ¬Divided clause key text) :
      ClauseFault table collection clause (.malformedOrClause (String.ofList clause))
  | unknown {key text : List Char} (h : Divided clause key text)
      (hcolumn : table.column? (String.ofList key) = none) :
      ClauseFault table collection clause (.columnNotFound (String.ofList key) collection)
  | unsupported {key text : List Char} {column : Column} (h : Divided clause key text)
      (hcolumn : table.column? (String.ofList key) = some column)
      (hfilter : ∀ filter, ¬Described column text filter) :
      ClauseFault table collection clause
        (.unsupportedOperator column.name (String.ofList text))

theorem clauseParts?_eq_some_iff {clause key text : List Char} :
    clauseParts? clause = some (key, text) ↔ Divided clause key text := by
  rw [clauseParts?, Option.filter_eq_some_iff, Text.cutAt?_eq_some_iff]
  constructor
  · rintro ⟨⟨hwritten, hfirst⟩, hfull⟩
    simp only [Bool.and_eq_true, Bool.not_eq_true', List.isEmpty_eq_false_iff] at hfull
    exact ⟨hwritten, hfirst, hfull.1, hfull.2⟩
  · rintro ⟨hwritten, hfirst, hkey, htext⟩
    refine ⟨⟨hwritten, hfirst⟩, ?_⟩
    simp only [Bool.and_eq_true, Bool.not_eq_true', List.isEmpty_eq_false_iff]
    exact ⟨hkey, htext⟩

variable {table : Table} {collection : String} {clause : List Char}

theorem parseClause_of_undivided (h : ∀ key text, ¬Divided clause key text) :
    parseClause table collection clause =
      .error (.malformedOrClause (String.ofList clause)) := by
  have hnone : clauseParts? clause = none := by
    refine Option.eq_none_iff_forall_ne_some.2 fun parts hparts => ?_
    exact h parts.1 parts.2 (clauseParts?_eq_some_iff.1 hparts)
  unfold parseClause
  rw [hnone]

theorem parseClause_of_unknown {key text : List Char} (h : Divided clause key text)
    (hcolumn : table.column? (String.ofList key) = none) :
    parseClause table collection clause =
      .error (.columnNotFound (String.ofList key) collection) := by
  unfold parseClause
  simp only [clauseParts?_eq_some_iff.2 h, hcolumn]

/-- A clause with the key of a column is read as a filter on that column. -/
theorem parseClause_of_column {key text : List Char} {column : Column}
    (h : Divided clause key text) (hcolumn : table.column? (String.ofList key) = some column) :
    parseClause table collection clause = parse column text := by
  unfold parseClause
  simp only [clauseParts?_eq_some_iff.2 h, hcolumn]

/-- A clause is read just if it describes a filter. -/
theorem parseClause_eq_ok_iff {filter : Filter} :
    parseClause table collection clause = .ok filter ↔ ClauseDescribed table clause filter := by
  constructor
  · intro h
    by_cases hdivided : ∃ key text, Divided clause key text
    · rcases hdivided with ⟨key, text, hdivided⟩
      cases hcolumn : table.column? (String.ofList key) with
      | none =>
          rw [parseClause_of_unknown hdivided hcolumn] at h
          cases h
      | some column =>
          rw [parseClause_of_column hdivided hcolumn] at h
          exact ⟨key, text, column, hdivided, hcolumn, parse_eq_ok_iff.1 h⟩
    · rw [parseClause_of_undivided fun key text h => hdivided ⟨key, text, h⟩] at h
      cases h
  · rintro ⟨key, text, column, hdivided, hcolumn, hfilter⟩
    rw [parseClause_of_column hdivided hcolumn]
    exact parse_eq_ok_iff.2 hfilter

/-- Otherwise it is at fault, and that is reported. -/
theorem parseClause_eq_error_iff {e : QueryError} :
    parseClause table collection clause = .error e ↔ ClauseFault table collection clause e := by
  constructor
  · intro h
    -- The checks are made one after another: the point, the column, the filter.
    by_cases hdivided : ∃ key text, Divided clause key text
    · rcases hdivided with ⟨key, text, hdivided⟩
      cases hcolumn : table.column? (String.ofList key) with
      | none =>
          rw [parseClause_of_unknown hdivided hcolumn] at h
          cases h
          exact .unknown hdivided hcolumn
      | some column =>
          rw [parseClause_of_column hdivided hcolumn] at h
          rcases parse_eq_error_iff.1 h with ⟨hnone, rfl⟩
          exact .unsupported hdivided hcolumn hnone
    · have hundivided : ∀ key text, ¬Divided clause key text :=
        fun key text h => hdivided ⟨key, text, h⟩
      rw [parseClause_of_undivided hundivided] at h
      cases h
      exact .malformed hundivided
  · intro h
    cases h with
    | malformed hundivided => exact parseClause_of_undivided hundivided
    | unknown hdivided hcolumn => exact parseClause_of_unknown hdivided hcolumn
    | unsupported hdivided hcolumn hnone =>
        rw [parseClause_of_column hdivided hcolumn]
        exact parse_eq_error_iff.2 ⟨hnone, rfl⟩

variable {clauses : List (List Char)}

/-- Clauses are read one by one. -/
theorem parseClauses_eq_ok_iff {filters : List Filter} :
    parseClauses table collection clauses = .ok filters ↔
      List.Forall₂ (ClauseDescribed table) clauses filters := by
  induction clauses generalizing filters with
  | nil =>
      rw [List.forall₂_nil_left_iff]
      exact ⟨fun h => (Except.ok.inj h).symm, fun h => congrArg _ h.symm⟩
  | cons clause clauses ih =>
      rw [List.forall₂_cons_left_iff]
      constructor
      · intro h
        rcases bind_eq_ok_iff.1 h with ⟨filter, hfilter, h⟩
        rcases bind_eq_ok_iff.1 h with ⟨rest, hrest, h⟩
        cases h
        exact ⟨filter, rest, parseClause_eq_ok_iff.1 hfilter, ih.1 hrest, rfl⟩
      · rintro ⟨filter, rest, hfilter, hrest, rfl⟩
        refine bind_eq_ok_iff.2 ⟨filter, parseClause_eq_ok_iff.2 hfilter, ?_⟩
        exact bind_eq_ok_iff.2 ⟨rest, ih.2 hrest, rfl⟩

/-- The first of several clauses fails, or it is read and one of the others fails. -/
theorem parseClauses_cons_eq_error_iff {e : QueryError} :
    parseClauses table collection (clause :: clauses) = .error e ↔
      ClauseFault table collection clause e ∨
        (∃ filter, ClauseDescribed table clause filter) ∧
          parseClauses table collection clauses = .error e := by
  rw [parseClauses]
  simp only [bind_eq_error_iff, parseClause_eq_error_iff, parseClause_eq_ok_iff]
  refine or_congr_right ⟨?_, ?_⟩
  · rintro ⟨filter, hfilter, hrest | ⟨filters, -, hnone⟩⟩
    · exact ⟨⟨filter, hfilter⟩, hrest⟩
    · cases hnone
  · rintro ⟨⟨filter, hfilter⟩, hrest⟩
    exact ⟨filter, hfilter, Or.inl hrest⟩

/-- The first clause that is at fault is reported. -/
theorem parseClauses_eq_error_iff {e : QueryError} :
    parseClauses table collection clauses = .error e ↔ ∃ before clause after,
      clauses = before ++ clause :: after ∧
        (∀ fine ∈ before, ∃ filter, ClauseDescribed table fine filter) ∧
          ClauseFault table collection clause e := by
  induction clauses with
  | nil =>
      refine iff_of_false nofun ?_
      rintro ⟨before, clause, after, hsplit, -⟩
      exact List.append_ne_nil_of_right_ne_nil before (List.cons_ne_nil clause after) hsplit.symm
  | cons first rest ih =>
      rw [parseClauses_cons_eq_error_iff, ih]
      constructor
      · rintro (hfault | ⟨hfine, before, clause, after, rfl, hbefore, hclause⟩)
        · exact ⟨[], first, rest, rfl, List.forall_mem_nil _, hfault⟩
        · exact ⟨first :: before, clause, after, rfl,
            List.forall_mem_cons.2 ⟨hfine, hbefore⟩, hclause⟩
      · rintro ⟨before, clause, after, hsplit, hbefore, hclause⟩
        -- Either the first clause is the one at fault, or it is one of those before that.
        rcases before with _ | ⟨fine, before⟩
        · rw [List.nil_append, List.cons.injEq] at hsplit
          rw [hsplit.1]
          exact Or.inl hclause
        · rw [List.cons_append, List.cons.injEq] at hsplit
          rcases List.forall_mem_cons.1 hbefore with ⟨hfine, hbefore⟩
          rw [hsplit.1]
          exact Or.inr ⟨hfine, before, clause, after, hsplit.2, hbefore, hclause⟩

/-- A text is in one pair of parentheses, and has no others. -/
structure Parenthesised (value inside : List Char) : Prop where
  written : value = '(' :: (inside ++ [')'])
  unopened : '(' ∉ inside
  unclosed : ')' ∉ inside

/-- The text of several clauses as a group. -/
def groupText (clauses : List (List Char)) : List Char :=
  '(' :: ([','].intercalate clauses ++ [')'])

/-- A text that can be a clause of a group: nothing in it ends the clause or the group. -/
structure Undivided (clause : List Char) : Prop where
  unopened : '(' ∉ clause
  unclosed : ')' ∉ clause
  unseparated : ',' ∉ clause

/-- A text is made up of clauses, of which there is one at least. -/
structure MadeUp (value : List Char) (clauses : List (List Char)) : Prop where
  written : value = groupText clauses
  clauses_ne : clauses ≠ []
  undivided : ∀ clause ∈ clauses, Undivided clause

/-- A text describes a group: it is made up of clauses, each of which describes a filter. -/
def GroupDescribed (table : Table) (value : List Char) (filters : List Filter) : Prop :=
  ∃ clauses, MadeUp value clauses ∧ List.Forall₂ (ClauseDescribed table) clauses filters

/-- A group has at least one filter, since it is made up of at least one clause. -/
theorem GroupDescribed.ne_nil {table : Table} {value : List Char} {filters : List Filter}
    (h : GroupDescribed table value filters) : filters ≠ [] := by
  rcases h with ⟨clauses, hclauses, hfilters⟩
  intro hnil
  rw [hnil, List.forall₂_nil_right_iff] at hfilters
  exact hclauses.clauses_ne hfilters

/-- Every filter of a group is on a column of the table. -/
theorem GroupDescribed.exists_key {table : Table} {value : List Char} {filters : List Filter}
    (h : GroupDescribed table value filters) :
    ∀ filter ∈ filters, ∃ key, table.column? key = some filter.column := by
  rcases h with ⟨clauses, -, hfilters⟩
  induction hfilters with
  | nil => exact List.forall_mem_nil _
  | cons hfilter _ ih => exact List.forall_mem_cons.2 ⟨hfilter.exists_key, ih⟩

/-- A text describes no group, because it is not in parentheses, or because one of its
    clauses is at fault and those before it are not. -/
inductive GroupFault (table : Table) (collection : String) (value : List Char) :
    QueryError → Prop
  | unparenthesised (h : ∀ inside, ¬Parenthesised value inside) :
      GroupFault table collection value (.orGroupNotParenthesised (String.ofList value))
  | clause {before after : List (List Char)} {clause : List Char} {e : QueryError}
      (h : MadeUp value (before ++ clause :: after))
      (hbefore : ∀ fine ∈ before, ∃ filter, ClauseDescribed table fine filter)
      (hclause : ClauseFault table collection clause e) : GroupFault table collection value e

theorem groupInside?_eq_some_iff {value inside : List Char} :
    groupInside? value = some inside ↔ Parenthesised value inside := by
  unfold groupInside?
  simp only [Option.bind_eq_bind, Option.bind_eq_some_iff, Text.afterLead?_eq_some_iff,
    Text.beforeLast?_eq_some_iff]
  constructor
  · rintro ⟨_, rfl, found, rfl, h⟩
    by_cases hnested : '(' ∈ found ∨ ')' ∈ found
    · rw [if_pos hnested] at h
      cases h
    · rw [if_neg hnested] at h
      cases h
      rw [not_or] at hnested
      exact ⟨rfl, hnested.1, hnested.2⟩
  · rintro ⟨rfl, hopen, hclose⟩
    refine ⟨inside ++ [')'], rfl, inside, rfl, ?_⟩
    rw [if_neg (not_or.2 ⟨hopen, hclose⟩)]

/-- The inside of the parentheses is made up of the parts between the commas. -/
theorem madeUp_iff {value : List Char} :
    MadeUp value clauses ↔ ∃ inside, Parenthesised value inside ∧
      Text.splitOn ',' inside = clauses := by
  constructor
  · rintro ⟨hwritten, hne, hundivided⟩
    refine ⟨[','].intercalate clauses, ⟨hwritten, ?_, ?_⟩, ?_⟩
    · rw [Text.mem_intercalate hne (by decide)]
      rintro ⟨clause, hclause, hmem⟩
      exact (hundivided clause hclause).unopened hmem
    · rw [Text.mem_intercalate hne (by decide)]
      rintro ⟨clause, hclause, hmem⟩
      exact (hundivided clause hclause).unclosed hmem
    · refine Text.splitOn_eq_iff_intercalate.2 ⟨hne, rfl, fun clause hclause => ?_⟩
      exact (hundivided clause hclause).unseparated
  · rintro ⟨inside, ⟨hwritten, hopen, hclose⟩, hsplit⟩
    rcases Text.splitOn_eq_iff_intercalate.1 hsplit with ⟨hne, rfl, hseparated⟩
    rw [Text.mem_intercalate hne (by decide)] at hopen hclose
    refine ⟨hwritten, hne, fun clause hclause => ⟨?_, ?_, hseparated clause hclause⟩⟩
    · exact fun hmem => hopen ⟨clause, hclause, hmem⟩
    · exact fun hmem => hclose ⟨clause, hclause, hmem⟩

variable {value : String}

theorem parseGroup_of_unparenthesised (h : ∀ inside, ¬Parenthesised value.toList inside) :
    parseGroup table collection value = .error (.orGroupNotParenthesised value) := by
  have hnone : groupInside? value.toList = none := by
    refine Option.eq_none_iff_forall_ne_some.2 fun inside hinside => ?_
    exact h inside (groupInside?_eq_some_iff.1 hinside)
  unfold parseGroup
  simp only [hnone]

theorem parseGroup_of_madeUp (h : MadeUp value.toList clauses) :
    parseGroup table collection value = parseClauses table collection clauses := by
  rcases madeUp_iff.1 h with ⟨inside, hinside, rfl⟩
  unfold parseGroup
  simp only [groupInside?_eq_some_iff.2 hinside]

/-- A text in parentheses is made up of clauses, if perhaps only of an empty one. -/
theorem exists_madeUp {inside : List Char} (h : Parenthesised value.toList inside) :
    ∃ clauses, MadeUp value.toList clauses :=
  ⟨_, madeUp_iff.2 ⟨inside, h, rfl⟩⟩

/-- A group is read just if the text describes it. -/
theorem parseGroup_eq_ok_iff {filters : List Filter} :
    parseGroup table collection value = .ok filters ↔
      GroupDescribed table value.toList filters := by
  constructor
  · intro h
    by_cases hinside : ∃ inside, Parenthesised value.toList inside
    · rcases hinside with ⟨inside, hinside⟩
      rcases exists_madeUp hinside with ⟨clauses, hclauses⟩
      rw [parseGroup_of_madeUp hclauses] at h
      exact ⟨clauses, hclauses, parseClauses_eq_ok_iff.1 h⟩
    · rw [parseGroup_of_unparenthesised fun inside h => hinside ⟨inside, h⟩] at h
      cases h
  · rintro ⟨clauses, hclauses, hfilters⟩
    rw [parseGroup_of_madeUp hclauses]
    exact parseClauses_eq_ok_iff.2 hfilters

/-- Otherwise it is at fault, and that is reported. -/
theorem parseGroup_eq_error_iff {e : QueryError} :
    parseGroup table collection value = .error e ↔
      GroupFault table collection value.toList e := by
  constructor
  · intro h
    -- The group itself is at fault, or else the first of its clauses that is.
    by_cases hinside : ∃ inside, Parenthesised value.toList inside
    · rcases hinside with ⟨inside, hinside⟩
      rcases exists_madeUp hinside with ⟨clauses, hclauses⟩
      rw [parseGroup_of_madeUp hclauses] at h
      rcases parseClauses_eq_error_iff.1 h with ⟨before, clause, after, rfl, hbefore, hclause⟩
      exact .clause hclauses hbefore hclause
    · have hnone : ∀ inside, ¬Parenthesised value.toList inside :=
        fun inside h => hinside ⟨inside, h⟩
      rw [parseGroup_of_unparenthesised hnone] at h
      cases h
      have hfault := @GroupFault.unparenthesised table collection value.toList hnone
      rw [String.ofList_toList] at hfault
      exact hfault
  · intro h
    cases h with
    | unparenthesised hnone =>
        rw [String.ofList_toList]
        exact parseGroup_of_unparenthesised hnone
    | clause hclauses hbefore hclause =>
        rw [parseGroup_of_madeUp hclauses]
        exact parseClauses_eq_error_iff.2 ⟨_, _, _, rfl, hbefore, hclause⟩

end Filter

/-- The text of an operator. -/
def Operator.text : Operator → List Char
  | eq operand => "eq.".toList ++ operand.toList
  | like pattern => "like.".toList ++ pattern.toList
  | isNull => "is.null".toList
  | isTrue => "is.true".toList
  | isFalse => "is.false".toList

/-- An operator has no operand, or one that can stand in a group as it is. -/
def Operator.Printable : Operator → Prop
  | eq operand | like operand =>
    Filter.Undivided operand.toList ∧ ¬['%', '2', '0'] <:+: operand.toList
  | isNull | isTrue | isFalse => True

theorem Operator.Printable.described {operator : Operator} (h : operator.Printable) :
    operator.Described operator.text := by
  cases operator with
  | eq operand =>
      have hspaced := spaced_self h.2
      have hdescribed := Described.eq hspaced
      rw [String.ofList_toList] at hdescribed
      exact hdescribed
  | like pattern =>
      have hspaced := spaced_self h.2
      have hdescribed := Described.like hspaced
      rw [String.ofList_toList] at hdescribed
      exact hdescribed
  | isNull => exact .isNull
  | isTrue => exact .isTrue
  | isFalse => exact .isFalse

namespace Filter

theorem Undivided.append {first second : List Char} (h : Undivided first)
    (h' : Undivided second) : Undivided (first ++ second) where
  unopened := by
    rw [List.mem_append, not_or]
    exact ⟨h.unopened, h'.unopened⟩
  unclosed := by
    rw [List.mem_append, not_or]
    exact ⟨h.unclosed, h'.unclosed⟩
  unseparated := by
    rw [List.mem_append, not_or]
    exact ⟨h.unseparated, h'.unseparated⟩

theorem undivided_of_all {text : List Char}
    (h : (text.all fun c => c != '(' && c != ')' && c != ',') = true) : Undivided text := by
  rw [List.all_eq_true] at h
  constructor <;> exact fun hmem => absurd (h _ hmem) (by decide)

theorem Undivided.operator {operator : Operator} (h : operator.Printable) :
    Undivided operator.text := by
  cases operator with
  | eq operand => exact (undivided_of_all (by decide)).append h.1
  | like pattern => exact (undivided_of_all (by decide)).append h.1
  | isNull => exact undivided_of_all (by decide)
  | isTrue => exact undivided_of_all (by decide)
  | isFalse => exact undivided_of_all (by decide)

/-- The text of a filter, without its column. -/
def text (filter : Filter) : List Char :=
  (if filter.negate then "not.".toList else []) ++ filter.operator.text

/-- The text of a filter as a clause, under a key. -/
def clauseText (entry : String × Filter) : List Char :=
  entry.1.toList ++ '.' :: entry.2.text

/-- A filter can be written as a clause under the key of its column. -/
structure Printable (table : Table) (entry : String × Filter) : Prop where
  registered : table.column? entry.1 = some entry.2.column
  key_ne : entry.1 ≠ ""
  undotted : '.' ∉ entry.1.toList
  undivided : Undivided entry.1.toList
  operator : entry.2.operator.Printable

variable {table : Table} {entry : String × Filter}

theorem Printable.described_text (h : Printable table entry) :
    Described entry.2.column entry.2.text entry.2 := by
  rcases entry with ⟨key, column, negate, operator⟩
  cases negate with
  | false => exact .plain h.operator.described
  | true => exact .negated h.operator.described

theorem Printable.clauseDescribed (h : Printable table entry) :
    ClauseDescribed table (clauseText entry) entry.2 := by
  have hdescribed := h.described_text
  have hdivided : Divided (clauseText entry) entry.1.toList entry.2.text := by
    refine ⟨rfl, h.undotted, fun hnil => h.key_ne ?_, hdescribed.ne_nil⟩
    exact String.toList_eq_nil_iff.1 hnil
  refine ⟨_, _, _, hdivided, ?_, hdescribed⟩
  rw [String.ofList_toList]
  exact h.registered

theorem Printable.undivided_clauseText (h : Printable table entry) :
    Undivided (clauseText entry) := by
  have hsign : Undivided (if entry.2.negate then "not.".toList else []) := by
    by_cases hnegate : entry.2.negate
    · rw [if_pos hnegate]
      exact undivided_of_all (by decide)
    · rw [if_neg hnegate]
      exact undivided_of_all rfl
  have hpoint : Undivided ['.'] := undivided_of_all (by decide)
  exact h.undivided.append (hpoint.append (hsign.append (.operator h.operator)))

/-- Filters that can be written are described by what is written. -/
theorem groupDescribed_groupText {entries : List (String × Filter)} (hne : entries ≠ [])
    (h : ∀ entry ∈ entries, Printable table entry) :
    GroupDescribed table (groupText (entries.map clauseText)) (entries.map Prod.snd) := by
  refine ⟨entries.map clauseText, ⟨rfl, ?_, ?_⟩, ?_⟩
  · exact fun hnil => hne (List.map_eq_nil_iff.1 hnil)
  · intro clause hclause
    rcases List.mem_map.1 hclause with ⟨entry, hentry, rfl⟩
    exact (h entry hentry).undivided_clauseText
  · rw [List.forall₂_map_left_iff, List.forall₂_map_right_iff, List.forall₂_same]
    exact fun entry hentry => (h entry hentry).clauseDescribed

/-- The reader of groups accepts the texts of the grammar and makes of them what they
    describe. Every other text is at fault: it is not in one pair of parentheses, which is
    then reported, or it is made up of clauses, and then the first one that describes no
    filter is. So what is written for filters is read as these filters. -/
theorem parseGroup_grammar (table : Table) (collection : String) :
    (∀ value filters, parseGroup table collection value = .ok filters ↔
      GroupDescribed table value.toList filters) ∧
    (∀ value, parseGroup table collection value = .error (.orGroupNotParenthesised value) ↔
      ∀ inside, ¬Parenthesised value.toList inside) ∧
    (∀ value e, parseGroup table collection value = .error e ↔
      GroupFault table collection value.toList e) ∧
    ∀ entries : List (String × Filter), entries ≠ [] →
      (∀ entry ∈ entries, Printable table entry) →
        parseGroup table collection (String.ofList (groupText (entries.map clauseText))) =
          .ok (entries.map Prod.snd) := by
  refine ⟨fun value filters => parseGroup_eq_ok_iff, fun value => ?_,
    fun value e => parseGroup_eq_error_iff, fun entries hne hentries => ?_⟩
  · constructor
    · intro h
      generalize herror : QueryError.orGroupNotParenthesised value = e at h
      cases parseGroup_eq_error_iff.1 h with
      | unparenthesised hnone => exact hnone
      | clause hclauses hbefore hclause =>
          -- No clause is reported like that.
          subst herror
          cases hclause
    · exact parseGroup_of_unparenthesised
  · refine parseGroup_eq_ok_iff.2 ?_
    rw [String.toList_ofList]
    exact groupDescribed_groupText hne hentries

/-- Two filters are written as a group, one of them negated and one with a point in its
    operand, and are read again. -/
theorem parseGroup_grammar_two : ∃ table : Table,
    let entries : List (String × Filter) :=
      [("name", ⟨⟨"name", .string⟩, true, .like "%a b%"⟩), ("id", ⟨⟨"id", .integer⟩, false,
        .eq "1.5"⟩)]
    (∀ entry ∈ entries, Printable table entry) ∧
      groupText (entries.map clauseText) = "(name.not.like.%a b%,id.eq.1.5)".toList ∧
        parseGroup table "groups" "(name.not.like.%a b%,id.eq.1.5)" =
          .ok (entries.map Prod.snd) := by
  let table : Table := ⟨"public", "groups", "id",
    .ofList [("id", ⟨"id", .integer⟩), ("name", ⟨"name", .string⟩)]⟩
  refine ⟨table, ?_⟩
  intro entries
  have hentries : ∀ entry ∈ entries, Printable table entry := by
    have hname : Printable table ("name", ⟨⟨"name", .string⟩, true, .like "%a b%"⟩) :=
      ⟨rfl, by decide, by decide, undivided_of_all (by decide),
        undivided_of_all (by decide), by decide⟩
    have hid : Printable table ("id", ⟨⟨"id", .integer⟩, false, .eq "1.5"⟩) :=
      ⟨rfl, by decide, by decide, undivided_of_all (by decide),
        undivided_of_all (by decide), by decide⟩
    exact List.forall_mem_cons.2 ⟨hname, List.forall_mem_singleton.2 hid⟩
  have htext : groupText (entries.map clauseText) = "(name.not.like.%a b%,id.eq.1.5)".toList := by
    decide
  refine ⟨hentries, htext, ?_⟩
  have hread := (parseGroup_grammar table "groups").2.2.2 entries (List.cons_ne_nil _ _) hentries
  rw [htext, String.ofList_toList] at hread
  exact hread

end Filter

end Registrar
