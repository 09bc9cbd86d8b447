import Registrar.Proofs.Sql.Recovery

/-!
# Reading Selections Back

A selection is a row of clauses, most of which may be left out. They can be told apart since
every clause begins with a word of its own and the words come in a fixed order: whatever is
left out, what follows a clause is the word of a later one, or the end of the selection.
`Clause.continues` adds one clause in front of those that may follow.

With the step for selections here and the one for expressions in `Sql.Recovery`, induction on
the depth shows that the grammar of a depth reads everything that is not larger.

## Main definitions

* `Clause`: Pieces that are a clause, or nothing.

## Theorems

* `Grammar.Covers.reads_selectList`: What a selection returns.
* `Grammar.Covers.reads_source`: Where its rows come from.
* `Grammar.Covers.reads_condition`: A condition is left out only if it is `true`.
* `Grammar.Covers.reads_stepSelect`: The step to the next depth for selections.
* `Grammar.covers_ofDepth`: The grammar of a depth reads everything of that size.
-/

namespace Registrar

namespace Sql

/-- A clause is not there, or begins with its word. -/
def Clause (letters : String) (written : List Piece) : Prop :=
  written = [] ∨ ∃ more, written = .word letters :: more

theorem clause_source (source : Option Source) :
    Clause "FROM" (significant (Source.piecesOfOption source)) := by
  cases source with
  | none =>
      rw [Source.piecesOfOption]
      exact Or.inl rfl
  | some source =>
      rw [Source.piecesOfOption, significant_blank]
      cases source <;> exact Or.inr ⟨_, rfl⟩

theorem clause_condition (condition : Expr) (pieces : List Piece) :
    Clause "WHERE" (significant (whereClause condition pieces)) := by
  rw [whereClause]
  split
  · exact Or.inl rfl
  · exact Or.inr ⟨_, rfl⟩

theorem clause_list (letters : String) (items : List (List Piece)) :
    Clause letters (significant (listClause [letters, "BY"] items)) := by
  rw [listClause]
  split
  · exact Or.inl rfl
  · exact Or.inr ⟨_, rfl⟩

theorem clause_amount (letters : String) (value : Option Nat) :
    Clause letters (significant (amount letters value)) := by
  cases value with
  | none => exact Or.inl rfl
  | some n => exact Or.inr ⟨_, rfl⟩

variable {follow : List Piece → Prop} {words : List String}

/-- A clause may come between a part of a statement and what may follow it. -/
theorem Clause.ends_append {letters : String} {written rest : List Piece}
    (h : Clause letters written) (hrest : ends words rest) : ends (letters :: words) (written ++ rest) := by
  rcases h with rfl | ⟨more, rfl⟩
  · exact ends_mono (fun _ => List.mem_cons_of_mem letters) hrest
  · exact decide_eq_true (List.mem_cons_of_mem _ List.mem_cons_self)

/-- One clause after another may follow a part of a statement. -/
theorem Clause.continues {letters : String} {written after : List Piece}
    (h : Clause letters written) (hafter : ∀ rest, follow rest → ends words (after ++ rest)) :
    ∀ rest, follow rest → ends (letters :: words) (written ++ after ++ rest) := by
  intro rest hrest
  rw [List.append_assoc]
  exact h.ends_append (hafter rest hrest)

namespace Grammar

open Reader

variable {grammar : Grammar} {n : Nat}

theorem reads_aliased {expr : Reader Expr} {e : Expr}
    (he : Reads Apart expr (significant e.pieces) e.canonical) (value : String) :
    Reads follow (aliased expr) (significant (e.pieces ++ Sql.aliased value))
      (value, e.canonical) := by
  rw [significant_append, significant_aliased]
  exact he.bind ((reads_label value).pure _) fun _ _ => rfl

/-- Every expression of a list under its alias is read. -/
theorem Covers.reads_entries (h : grammar.Covers n) {entries : List (String × Expr)}
    (hne : entries ≠ []) (hsize : sizeOf entries ≤ n) :
    Reads (fun rest => ends clauseWords rest) (separated (aliased grammar.expr) n)
      (significant (commaSeparated (Expr.piecesOfAliased entries)))
      (Expr.canonicalAliased entries) := by
  have hitems : ∀ entry ∈ entries, Reads (fun _ => True) (aliased grammar.expr)
      (significant (entry.2.pieces ++ Sql.aliased entry.1)) (entry.1, entry.2.canonical) :=
    fun entry hentry => reads_aliased (h.allSecond hsize entry hentry) entry.1
  rw [significant_commaSeparated, Expr.piecesOfAliased_eq, List.map_map, Expr.canonicalAliased_eq]
  exact reads_separated hitems (fun _ => trivial)
    (fun rest hrest => ⟨trivial, not_comma_of_ends hrest⟩) hne
    (Nat.le_of_lt (length_lt_of_sizeOf hsize))

/-- Expressions under aliases begin with an expression and its alias. -/
theorem entries_cons (label : String) (expr : Expr) (entries : List (String × Expr)) :
    ∃ more, significant (commaSeparated (Expr.piecesOfAliased ((label, expr) :: entries))) =
      significant expr.pieces ++ .word "AS" :: more := by
  rw [significant_commaSeparated, Expr.piecesOfAliased, List.map_cons, significant_append,
    significant_aliased]
  rcases punctuated_cons (significant expr.pieces ++ [.word "AS", .name label])
    ((Expr.piecesOfAliased entries).map significant) with ⟨more, hmore⟩
  exact ⟨.name label :: more, by rw [hmore, List.append_assoc]; rfl⟩

/-- What a selection returns is read: the number 1 only if it is under no alias, and nothing
    only if a clause or the end follows at once. -/
theorem Covers.reads_selectList (h : grammar.Covers n) {list : SelectList}
    (hsize : sizeOf list ≤ n) :
    Reads (fun rest => ends clauseWords rest) (selectList grammar.expr n)
      (significant list.pieces) list.canonical := by
  cases list with
  | one =>
      rw [SelectList.pieces, SelectList.canonical]
      intro rest hrest
      -- With an alias the number one would be the first of several expressions.
      have halias : beginsWithWord "AS" rest = false := not_word_of_ends (by decide) hrest
      have hone : beginsWithOne (.integer 1 :: rest) = true := by
        rw [beginsWithOne, halias]
        rfl
      exact if_pos hone
  | columns entries =>
      rw [SelectList.columns.sizeOf_spec] at hsize
      rw [SelectList.pieces, SelectList.canonical]
      cases entries with
      | nil =>
          rw [Expr.piecesOfAliased, Expr.canonicalAliased]
          intro rest hrest
          have hone : ¬beginsWithOne rest := by
            rcases ends_cases hrest with rfl | ⟨more, rfl⟩ | ⟨letters, more, rfl, -⟩
            all_goals exact Bool.false_ne_true
          exact (if_neg hone).trans (if_pos hrest)
      | cons entry entries =>
          rcases entry with ⟨label, expr⟩
          have hentries := (h.reads_entries (List.cons_ne_nil (label, expr) entries)
            (by omega)).pure SelectList.columns
          intro rest hrest
          rcases entries_cons label expr entries with ⟨more, hmore⟩
          -- The first expression opens the list: it is neither the number one nor the end.
          have hone : ¬beginsWithOne (significant (commaSeparated
              (Expr.piecesOfAliased ((label, expr) :: entries))) ++ rest) := by
            rw [hmore, List.append_assoc]
            exact Bool.eq_false_iff.1 (expr.not_one_pieces (more ++ rest))
          have hends : ¬ends clauseWords (significant (commaSeparated
              (Expr.piecesOfAliased ((label, expr) :: entries))) ++ rest) := by
            rw [hmore, List.append_assoc]
            exact Bool.eq_false_iff.1 (not_ends_of_opens (expr.opens_pieces _))
          exact (if_neg hone).trans ((if_neg hends).trans (hentries rest hrest))

/-- A source of rows is read after the word that begins it. -/
theorem Covers.reads_source (h : grammar.Covers n) {source : Source}
    (hsize : sizeOf source ≤ n) :
    ∃ after, significant source.pieces = .word "FROM" :: after ∧
      Reads (fun _ => True) (Grammar.source grammar n) after source.canonical := by
  cases source with
  | table table label =>
      refine ⟨significant table.pieces ++ [.word "AS", .name label], ?_, ?_⟩
      · rw [Source.pieces, List.cons_append, List.cons_append, significant_word,
          significant_blank, significant_append, significant_aliased]
      · have htable : Reads (fun _ => True) (do
            let table ← tableRef
            let label ← Grammar.label
            pure (Source.table table label))
            (significant table.pieces ++ [.word "AS", .name label]) (.table table label) :=
          (reads_tableRef table).bind ((reads_label label).pure _) fun _ _ => rfl
        rw [Source.canonical]
        cases table <;> exact htable
  | select select label =>
      rw [Source.select.sizeOf_spec] at hsize
      refine ⟨.mark "(" :: (significant select.pieces ++ [.mark ")", .word "AS", .name label]),
        ?_, ?_⟩
      · rw [Source.pieces, List.cons_append, List.cons_append, significant_word,
          significant_blank, significant_append, significant_aliased, significant_parenthesised,
          List.cons_append, List.append_assoc]
        rfl
      · rw [Source.canonical]
        exact reads_ifMark ((h.select select (by omega)).bind
          ((reads_label label).pure _).afterMark fun _ _ => rfl)
  | call function args label =>
      rw [Source.call.sizeOf_spec] at hsize
      have hargs : sizeOf args ≤ n := by omega
      have hlength := Nat.le_of_lt (length_lt_of_sizeOf hargs)
      refine ⟨.word function.name :: .mark "(" ::
        (significant (commaSeparated (Expr.piecesOfAll args)) ++ [.mark ")"] ++
          [.word "AS", .name label]), ?_, ?_⟩
      · rw [Source.pieces, List.cons_append, List.cons_append, List.cons_append,
          significant_word, significant_blank, significant_word, significant_append,
          significant_aliased, significant_parenthesised, List.cons_append]
      · rw [Source.canonical]
        have hclosed : Reads (fun _ => True) (closed grammar.expr n)
            (significant (commaSeparated (Expr.piecesOfAll args)) ++ [.mark ")"])
            (Expr.canonicalAll args) := reads_closed (h.all hargs) hlength
        have hcall : Reads (fun _ => True) (do
            mark "("
            let args ← closed grammar.expr n
            let label ← Grammar.label
            pure (Source.call function args label)) _ _ :=
          (hclosed.bind ((reads_label label).pure _) fun _ _ => trivial).afterMark
        -- The name of the function decides which case of the reader this is.
        intro rest hrest
        rw [List.cons_append, Grammar.source, function.ofName?_name]
        exact hcall rest hrest

theorem Covers.reads_sourceOption (h : grammar.Covers n) {source : Option Source}
    (hsize : sizeOf source ≤ n) :
    Reads (fun rest => ends ["WHERE", "GROUP", "ORDER", "LIMIT", "OFFSET"] rest)
      (sourceOption grammar n) (significant (Source.piecesOfOption source))
      (Source.canonicalOption source) := by
  cases source with
  | none =>
      rw [Source.piecesOfOption, Source.canonicalOption]
      exact reads_ifWord_not (reads_pure none) fun _ => not_word_of_ends (by decide)
  | some source =>
      rw [Option.some.sizeOf_spec] at hsize
      have hsize : sizeOf source ≤ n := by omega
      rcases h.reads_source hsize with ⟨after, hafter, hsource⟩
      rw [Source.piecesOfOption, Source.canonicalOption, significant_blank, hafter]
      exact (reads_ifWord (hsource.pure some)).mono fun _ _ => trivial

/-- A condition that is not there is the value `true`, and nothing else is left out. -/
theorem Covers.reads_condition (h : grammar.Covers n) {expr : Expr} (hsize : sizeOf expr ≤ n) :
    Reads (fun rest => ends ["GROUP", "ORDER", "LIMIT", "OFFSET"] rest) (condition grammar)
      (significant (whereClause expr expr.pieces)) expr.canonical := by
  by_cases htrivial : expr.isTrivial
  · rw [whereClause, if_pos htrivial, Expr.isTrivial_iff.1 htrivial, Expr.canonical]
    exact reads_ifWord_not (reads_pure _) fun _ => not_word_of_ends (by decide)
  · rw [whereClause, if_neg htrivial, significant_clause]
    exact reads_ifWord ((h.expr expr hsize).mono fun _ => apart_of_ends)

theorem reads_ordered {expr : Reader Expr} {e : Expr}
    (he : Reads Apart expr (significant e.pieces) e.canonical) (value : Direction) :
    Reads follow (ordered expr) (significant (e.pieces ++ [.blank, .word value.keyword]))
      (e.canonical, value) := by
  rw [significant_append]
  exact he.bind ((reads_direction value).pure _) fun _ _ => rfl

/-- A clause with a list is read if its items are. -/
theorem reads_listClause {α γ : Type} {letters : String} {item : Reader α}
    {written : γ → List Piece} {meant : γ → α} {items : List γ}
    {separate : List Piece → Prop}
    (hitem : ∀ x ∈ items, Reads separate item (significant (written x)) (meant x))
    (hcomma : ∀ rest, separate (.mark "," :: rest))
    (hfollow : ∀ rest, ends words rest → separate rest)
    (hletters : letters ∉ "RETURNING" :: words) (hlength : items.length ≤ n) :
    Reads (fun rest => ends words rest)
      (ifWord letters (do
        word "BY"
        separated item n) (pure []))
      (significant (listClause [letters, "BY"] (items.map written))) (items.map meant) := by
  by_cases hne : items = []
  · subst hne
    exact reads_ifWord_not (reads_pure []) fun _ hrest => not_word_of_ends hletters hrest
  · have hitems : ¬(items.map written).isEmpty := by
      rw [List.isEmpty_iff, List.map_eq_nil_iff]
      exact hne
    rw [listClause, if_neg hitems, significant_clause, significant_commaSeparated, List.map_map]
    exact reads_ifWord (reads_separated hitem hcomma
      (fun rest hrest => ⟨hfollow rest hrest, not_comma_of_ends hrest⟩) hne hlength).afterWord

theorem Covers.reads_groupBy (h : grammar.Covers n) {exprs : List Expr}
    (hsize : sizeOf exprs ≤ n) :
    Reads (fun rest => ends ["ORDER", "LIMIT", "OFFSET"] rest)
      (ifWord "GROUP" (do
        word "BY"
        separated grammar.expr n) (pure []))
      (significant (listClause ["GROUP", "BY"] (Expr.piecesOfAll exprs)))
      (Expr.canonicalAll exprs) := by
  rw [Expr.piecesOfAll_eq, Expr.canonicalAll_eq]
  exact reads_listClause (h.all hsize) (fun _ => rfl) (fun _ hrest => apart_of_ends hrest)
    (by decide) (Nat.le_of_lt (length_lt_of_sizeOf hsize))

theorem Covers.reads_orderBy (h : grammar.Covers n) {entries : List (Expr × Direction)}
    (hsize : sizeOf entries ≤ n) :
    Reads (fun rest => ends ["LIMIT", "OFFSET"] rest)
      (ifWord "ORDER" (do
        word "BY"
        separated (ordered grammar.expr) n) (pure []))
      (significant (listClause ["ORDER", "BY"] (Expr.piecesOfOrdered entries)))
      (Expr.canonicalOrdered entries) := by
  have hitems : ∀ entry ∈ entries, Reads (fun _ => True) (ordered grammar.expr)
      (significant (entry.1.pieces ++ [.blank, .word entry.2.keyword]))
      (entry.1.canonical, entry.2) :=
    fun entry hentry => reads_ordered (h.allFirst hsize entry hentry) entry.2
  rw [Expr.piecesOfOrdered_eq, Expr.canonicalOrdered_eq]
  exact reads_listClause hitems (fun _ => trivial) (fun _ _ => trivial) (by decide)
    (Nat.le_of_lt (length_lt_of_sizeOf hsize))

/-- A grammar of the next depth reads all selections of the next size. Every clause can be
    told from the ones after it by its word. -/
theorem Covers.reads_stepSelect (h : grammar.Covers n) {select : Select}
    (hsize : sizeOf select ≤ n + 1) :
    Reads (fun rest => ends [] rest) (stepSelect grammar n) (significant select.pieces)
      select.canonical := by
  rcases select with ⟨list, source, condition, groupBy, orderBy, limit, offset⟩
  rw [Select.mk.sizeOf_spec] at hsize
  rw [Select.pieces, Select.canonical]
  simp only [List.cons_append, significant_word, significant_blank, significant_append,
    List.append_assoc]
  -- What follows each of the parts, from the last to the first.
  have hoffset : ∀ rest, ends [] rest → ends ["OFFSET"] (_ ++ rest) :=
    fun rest => (clause_amount "OFFSET" offset).ends_append
  have hlimit := (clause_amount "LIMIT" limit).continues hoffset
  have horder := (clause_list "ORDER" (Expr.piecesOfOrdered orderBy)).continues hlimit
  have hgroup := (clause_list "GROUP" (Expr.piecesOfAll groupBy)).continues horder
  have hwhere := (clause_condition condition condition.pieces).continues hgroup
  have hfrom := (clause_source source).continues hwhere
  have hnone : Reads (fun rest => ends [] rest) (amount "OFFSET") _ offset :=
    reads_amount offset fun _ => not_word_of_ends (by decide)
  have hsome : Reads (fun rest => ends ["OFFSET"] rest) (amount "LIMIT") _ limit :=
    reads_amount limit fun _ => not_word_of_ends (by decide)
  exact ((h.reads_selectList (by omega)).bind ((h.reads_sourceOption (by omega)).bind
    ((h.reads_condition (by omega)).bind ((h.reads_groupBy (by omega)).bind
      ((h.reads_orderBy (by omega)).bind (hsome.bind (hnone.pure _) hoffset) hlimit) horder)
        hgroup) hwhere) hfrom).afterWord

/-- The grammar of a depth reads everything that is not larger than the depth. -/
theorem covers_ofDepth (depth : Nat) : (ofDepth depth).Covers depth := by
  induction depth with
  | zero =>
      -- Nothing is as small as that.
      refine ⟨fun expr hsize => ?_, fun select hsize => ?_⟩
      · cases expr <;> exact absurd hsize (by simp)
      · cases select
        exact absurd hsize (by simp)
  | succ depth ih =>
      exact ⟨fun _ hsize => ih.reads_stepExpr hsize, fun _ hsize => ih.reads_stepSelect hsize⟩

end Grammar

end Sql

end Registrar
