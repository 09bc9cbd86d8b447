import Registrar.Proofs.Sql.Grammar

/-!
# Reading Expressions Back

The pieces of an expression are read as its canonical form. Readers look at the next piece
only, so all that has to be known about the rest is how it does not begin: a column would go
on with a point, a list with a comma, a selection with one of its clauses. What stands after
a part of a statement is an operator, a comma, a parenthesis, or a word that cannot begin
anything that could belong to the part.

A grammar of some depth reads whatever is not larger than that depth. This module takes the
step to the next depth for expressions.

## Main definitions

* `Apart`: What does not go on from a column.
* `opens`: How an expression may begin.
* `Grammar.Covers`: A grammar reads everything of a size.

## Theorems

* `Expr.opens_pieces`: An expression cannot be taken for the end of something.
* `Grammar.Covers.reads_stepExpr`: The step to the next depth for expressions.
-/

namespace Registrar

namespace Sql

/-- What does not go on from a column. -/
def Apart (rest : List Piece) : Prop := beginsWithMark "." rest = false

/-- What ends a part of a statement: nothing, a parenthesis, or the word of a clause. -/
theorem ends_cases {words : List String} {rest : List Piece} (h : ends words rest) :
    rest = [] ∨ (∃ more, rest = .mark ")" :: more) ∨
      ∃ letters more, rest = .word letters :: more ∧ letters ∈ "RETURNING" :: words := by
  rcases rest with _ | ⟨piece, more⟩
  · exact Or.inl rfl
  · cases piece with
    | mark symbol => exact Or.inr (Or.inl ⟨more, by rw [of_decide_eq_true h]⟩)
    | word letters => exact Or.inr (Or.inr ⟨letters, more, rfl, of_decide_eq_true h⟩)
    | blank | integer | name | literal | param => exact absurd h Bool.false_ne_true

/-- A closing parenthesis ends any part of a statement. -/
theorem ends_of_closing {words : List String} {rest : List Piece} (h : beginsWithMark ")" rest) :
    ends words rest := by
  rcases rest with _ | ⟨piece, rest⟩
  · exact absurd h Bool.false_ne_true
  · cases piece with
    | mark symbol => exact h
    | word | blank | integer | name | literal | param => exact absurd h Bool.false_ne_true

theorem apart_of_ends {words : List String} {rest : List Piece} (h : ends words rest) :
    Apart rest := by
  rcases ends_cases h with rfl | ⟨more, rfl⟩ | ⟨letters, more, rfl, -⟩ <;> rfl

theorem apart_of_closing {rest : List Piece} (h : beginsWithMark ")" rest) : Apart rest := by
  have hends : ends [] rest := ends_of_closing h
  exact apart_of_ends hends

theorem not_comma_of_ends {words : List String} {rest : List Piece} (h : ends words rest) :
    beginsWithMark "," rest = false := by
  rcases ends_cases h with rfl | ⟨more, rfl⟩ | ⟨letters, more, rfl, -⟩ <;> rfl

/-- A clause does not follow that is not one of those that may. -/
theorem not_word_of_ends {words : List String} {letters : String} {rest : List Piece}
    (hletters : letters ∉ "RETURNING" :: words) (h : ends words rest) :
    beginsWithWord letters rest = false := by
  rcases ends_cases h with rfl | ⟨more, rfl⟩ | ⟨found, more, rfl, hfound⟩
  · rfl
  · rfl
  · exact decide_eq_false fun hsame => hletters (hsame ▸ hfound)

/-- Where a part may end before some clauses, it may end before more. -/
theorem ends_mono {words more : List String} {rest : List Piece}
    (hwords : ∀ letters ∈ words, letters ∈ more) (h : ends words rest) : ends more rest := by
  rcases ends_cases h with rfl | ⟨rest, rfl⟩ | ⟨letters, rest, rfl, hletters⟩
  · rfl
  · rfl
  · refine decide_eq_true ?_
    rcases List.mem_cons.1 hletters with rfl | hletters
    · exact List.mem_cons_self
    · exact List.mem_cons_of_mem _ (hwords letters hletters)

/-- Whether pieces can begin an expression. -/
def opens : List Piece → Bool
  | .word letters :: _ => letters ∉ "DISTINCT" :: "RETURNING" :: clauseWords
  | .mark symbol :: _ => symbol = "("
  | .name _ :: _ | .integer _ :: _ | .literal _ :: _ | .param _ :: _ => true
  | _ => false

theorem not_ends_of_opens {pieces : List Piece} (h : opens pieces) :
    ends clauseWords pieces = false := by
  rcases pieces with _ | ⟨piece, rest⟩
  · exact absurd h Bool.false_ne_true
  · cases piece with
    | word letters =>
        refine decide_eq_false fun hmem => of_decide_eq_true h (List.mem_cons_of_mem _ hmem)
    | mark symbol =>
        rw [of_decide_eq_true h]
        rfl
    | blank => exact absurd h Bool.false_ne_true
    | integer | name | literal | param => rfl

theorem not_closing_of_opens {pieces : List Piece} (h : opens pieces) :
    beginsWithMark ")" pieces = false := by
  rcases pieces with _ | ⟨piece, rest⟩
  · rfl
  · cases piece with
    | mark symbol =>
        rw [of_decide_eq_true h]
        rfl
    | word | blank | integer | name | literal | param => rfl

theorem not_distinct_of_opens {pieces : List Piece} (h : opens pieces) :
    beginsWithWord "DISTINCT" pieces = false := by
  rcases pieces with _ | ⟨piece, rest⟩
  · rfl
  · cases piece with
    | word letters =>
        exact decide_eq_false fun hsame => of_decide_eq_true h (hsame ▸ List.mem_cons_self)
    | mark | blank | integer | name | literal | param => rfl

/-- Every expression begins like one. -/
theorem Expr.opens_pieces (expr : Expr) (rest : List Piece) :
    opens (significant expr.pieces ++ rest) := by
  cases expr with
  | and | or | binary | unary =>
      rw [pieces, significant_parenthesised]
      rfl
  | call function | aggregate function =>
      rw [pieces, significant_word]
      cases function <;> rfl
  | case | «exists» | rowToJson | cast | countAll | countDistinct =>
      rw [pieces]
      rfl
  | column table =>
      rw [pieces]
      cases table <;> rfl
  | value value =>
      rw [pieces]
      cases value with
      | bool value => cases value <;> rfl
      | int | string | null | json | emptyJsonArray => rfl

/-- An expression under an alias is not mistaken for the number 1 alone. -/
theorem Expr.not_one_pieces (expr : Expr) (rest : List Piece) :
    Grammar.beginsWithOne (significant expr.pieces ++ .word "AS" :: rest) = Bool.false := by
  cases expr with
  | and | or | binary | unary =>
      rw [pieces, significant_parenthesised]
      rfl
  | call | aggregate | case | «exists» | rowToJson | cast | countAll | countDistinct =>
      rw [pieces]
      rfl
  | column table =>
      rw [pieces]
      cases table <;> rfl
  | value value =>
      rw [pieces]
      cases value with
      | bool value => cases value <;> rfl
      | int value => exact Bool.and_false _
      | string | null | json | emptyJsonArray => rfl

namespace Grammar

open Reader

variable {follow : List Piece → Prop}

theorem reads_tableRef (table : TableRef) :
    Reads Apart tableRef (significant table.pieces) table := by
  cases table with
  | table schema name =>
      exact (reads_ifMark ((reads_name name).pure (TableRef.table schema))).afterName
  | known name =>
      exact (reads_ifMark_not (reads_pure _) fun rest hrest => hrest).afterName

theorem reads_typeName (type : TypeName) :
    Reads Apart typeName (significant type.pieces) type := by
  cases type with
  | qualified schema name =>
      exact (reads_ifMark ((reads_name name).pure (TypeName.qualified schema))).afterName
  | named name =>
      exact (reads_ifMark_not (reads_pure _) fun rest hrest => hrest).afterName

theorem reads_column (table : TableRef) (key : String) :
    Reads Apart column (significant (Expr.column table key).pieces) (.column table key) := by
  rw [Expr.pieces]
  -- Two names are an alias and a column, unless a point says that there is a third.
  cases table with
  | table schema name =>
      exact (reads_ifMark
        ((reads_name key).pure (Expr.column (.table schema name)))).afterName.afterMark.afterName
  | known name =>
      exact (reads_ifMark_not (reads_pure _) fun rest hrest => hrest).afterName.afterMark.afterName

theorem reads_direction (value : Direction) :
    Reads follow direction [.word value.keyword] value := by
  cases value <;> exact fun _ _ => rfl

theorem reads_label (value : String) :
    Reads follow label [.word "AS", .name value] value :=
  (reads_name value).afterWord

/-- An alias is read before anything. -/
theorem reads_afterLabel {α : Type} {value : String} {next : String → Reader α}
    {pieces : List Piece} {a : α} (h : Reads follow (next value) pieces a) :
    Reads follow (label >>= next) (.word "AS" :: .name value :: pieces) a :=
  Reads.bind (reads_label value : Reads (fun _ => True) _ _ _) h fun _ _ => trivial

theorem reads_amount {keyword : String} (value : Option Nat)
    (hfollow : ∀ rest, follow rest → beginsWithWord keyword rest = false) :
    Reads follow (amount keyword) (significant (Sql.amount keyword value)) value := by
  cases value with
  | none => exact reads_ifWord_not (reads_pure none) hfollow
  | some n =>
      rw [Sql.amount, significant_clause]
      exact reads_ifWord ((reads_number n).pure some)

theorem reads_operator (op : BinaryOp) :
    Reads follow operator (significant op.pieces) (.binary op) := by
  cases op <;> exact fun _ _ => rfl

/-- A test is read after its first word. -/
theorem reads_test (op : UnaryOp) :
    ∃ words, op.keywords = "IS" :: words ∧ Reads follow test (words.map .word) op := by
  cases op <;> exact ⟨_, rfl, fun _ _ => rfl⟩

/-- A list with something in it begins with its first item. -/
theorem punctuated_cons (first : List Piece) (items : List (List Piece)) :
    ∃ more, punctuated (first :: items) = first ++ more := by
  cases items with
  | nil => exact ⟨[], (List.append_nil _).symm⟩
  | cons second items => exact ⟨_, rfl⟩

variable {expr : Reader Expr} {n : Nat}

/-- Expressions are read if each of them is. -/
theorem reads_exprs {exprs : List Expr}
    (hexprs : ∀ e ∈ exprs, Reads Apart expr (significant e.pieces) e.canonical)
    (hne : exprs ≠ []) (hlength : exprs.length ≤ n)
    (hfollow : ∀ rest, follow rest → Apart rest ∧ beginsWithMark "," rest = false) :
    Reads follow (separated expr n) (significant (commaSeparated (Expr.piecesOfAll exprs)))
      (Expr.canonicalAll exprs) := by
  rw [significant_commaSeparated, Expr.piecesOfAll_eq, List.map_map, Expr.canonicalAll_eq]
  exact reads_separated hexprs (fun _ => rfl) hfollow hne hlength

/-- A list of expressions with something in it begins like an expression. -/
theorem opens_exprs {exprs : List Expr} (hne : exprs ≠ []) (rest : List Piece) :
    opens (significant (commaSeparated (Expr.piecesOfAll exprs)) ++ rest) := by
  cases exprs with
  | nil => exact absurd rfl hne
  | cons first exprs =>
      rw [significant_commaSeparated, Expr.piecesOfAll, List.map_cons]
      rcases punctuated_cons (significant first.pieces)
        ((Expr.piecesOfAll exprs).map significant) with ⟨more, hmore⟩
      rw [hmore, List.append_assoc]
      exact first.opens_pieces _

theorem reads_closed {args : List Expr}
    (hargs : ∀ e ∈ args, Reads Apart expr (significant e.pieces) e.canonical)
    (hlength : args.length ≤ n) :
    Reads follow (closed expr n)
      (significant (commaSeparated (Expr.piecesOfAll args)) ++ [.mark ")"])
      (Expr.canonicalAll args) := by
  by_cases hne : args = []
  · subst hne
    rw [Expr.piecesOfAll, Expr.canonicalAll]
    exact reads_ifMark (reads_pure [])
  · have hexprs : Reads (fun rest => beginsWithMark ")" rest) (separated expr n)
        (significant (commaSeparated (Expr.piecesOfAll args))) (Expr.canonicalAll args) := by
      refine reads_exprs hargs hne hlength fun rest hrest => ?_
      have hends : ends [] rest := ends_of_closing hrest
      exact ⟨apart_of_ends hends, not_comma_of_ends hends⟩
    -- What is not empty begins with an expression, so it is not closed at once.
    refine reads_ifMark_not (hexprs.beforeMark id fun _ => rfl) fun rest _ => ?_
    rw [List.append_assoc]
    exact not_closing_of_opens (opens_exprs hne _)

/-- The arguments of a call are not mistaken for distinct ones. -/
theorem reads_call {args : List Expr}
    (hargs : ∀ e ∈ args, Reads Apart expr (significant e.pieces) e.canonical)
    (hlength : args.length ≤ n) (function : Function) :
    Reads follow (call expr n function)
      (.mark "(" :: (significant (commaSeparated (Expr.piecesOfAll args)) ++ [.mark ")"]))
      (.call function (Expr.canonicalAll args)) := by
  refine Reads.afterMark (reads_ifWord_not ((reads_closed hargs hlength).pure _) fun rest _ => ?_)
  by_cases hne : args = []
  · subst hne
    rw [Expr.piecesOfAll]
    rfl
  · rw [List.append_assoc]
    exact not_distinct_of_opens (opens_exprs hne _)

theorem reads_call_distinct {args : List Expr}
    (hargs : ∀ e ∈ args, Reads Apart expr (significant e.pieces) e.canonical)
    (hlength : args.length ≤ n) (function : Function) :
    Reads follow (call expr n function)
      (.mark "(" :: .word "DISTINCT" ::
        (significant (commaSeparated (Expr.piecesOfAll args)) ++ [.mark ")"]))
      (.aggregate function true (Expr.canonicalAll args)) :=
  Reads.afterMark (reads_ifWord ((reads_closed hargs hlength).pure _))

theorem reads_arms {whens : List (Expr × Expr)}
    (hwhens : ∀ entry ∈ whens,
      Reads Apart expr (significant entry.1.pieces) entry.1.canonical ∧
        Reads Apart expr (significant entry.2.pieces) entry.2.canonical)
    (hlength : whens.length < n) :
    Reads (fun rest => beginsWithWord "ELSE" rest) (arms expr n)
      (significant (Expr.piecesOfWhens whens)) (Expr.canonicalWhens whens) := by
  have helse : ∀ rest, beginsWithWord "ELSE" rest →
      beginsWithWord "WHEN" rest = false ∧ Apart rest := by
    intro rest hrest
    rcases rest with _ | ⟨piece, rest⟩
    · exact ⟨rfl, rfl⟩
    · cases piece with
      | word letters =>
          rw [of_decide_eq_true hrest]
          exact ⟨rfl, rfl⟩
      | mark | blank | integer | name | literal | param => exact absurd hrest Bool.false_ne_true
  induction whens generalizing n with
  | nil =>
      rcases n with _ | n
      · exact absurd hlength (Nat.not_lt_zero _)
      · rw [Expr.piecesOfWhens, Expr.canonicalWhens, arms]
        exact reads_ifWord_not (reads_pure []) fun rest hrest => (helse rest hrest).1
  | cons entry whens ih =>
      rcases n with _ | n
      · exact absurd hlength (Nat.not_lt_zero _)
      · rcases entry with ⟨condition, result⟩
        rcases hwhens (condition, result) List.mem_cons_self with ⟨hcondition, hresult⟩
        have hmore := ih (fun entry hentry => hwhens entry (List.mem_cons_of_mem _ hentry))
          (Nat.lt_of_succ_lt_succ hlength)
        -- After the result there is another arm, or the arms are over.
        have hapart : ∀ rest, beginsWithWord "ELSE" rest →
            Apart (significant (Expr.piecesOfWhens whens) ++ rest) := by
          intro rest hrest
          cases whens with
          | nil =>
              rw [Expr.piecesOfWhens]
              exact (helse rest hrest).2
          | cons entry whens =>
              rw [Expr.piecesOfWhens]
              rfl
        rw [Expr.piecesOfWhens, Expr.canonicalWhens, arms, significant_append, significant_append,
          significant_clause, significant_clause, List.append_assoc, List.append_assoc]
        exact reads_ifWord (hcondition.bind (hresult.bind (hmore.pure _) hapart).afterWord
          fun rest _ => rfl)

/-- A list of a size has fewer items than that. -/
theorem length_lt_of_sizeOf {α : Type} [SizeOf α] {items : List α} {n : Nat}
    (h : sizeOf items ≤ n) : items.length < n := by
  induction items generalizing n with
  | nil => exact h
  | cons item items ih =>
      rw [List.cons.sizeOf_spec] at h
      have hlength := ih (Nat.le_refl (sizeOf items))
      rw [List.length_cons]
      omega

/-- A grammar reads all expressions and all selections of a size. -/
structure Covers (grammar : Grammar) (n : Nat) : Prop where
  expr : ∀ expr : Expr, sizeOf expr ≤ n →
    Reads Apart grammar.expr (significant expr.pieces) expr.canonical
  select : ∀ select : Select, sizeOf select ≤ n →
    Reads (fun rest => ends [] rest) grammar.select (significant select.pieces) select.canonical

variable {grammar : Grammar}

/-- A parenthesis begins with its left operand. -/
theorem Covers.reads_parenthesised (h : grammar.Covers n) {left whole : Expr}
    {after : List Piece} (hleft : sizeOf left ≤ n)
    (hafter : Reads (fun rest => beginsWithMark ")" rest)
      (operation grammar.expr left.canonical) after whole)
    (hapart : ∀ rest, Apart (after ++ .mark ")" :: rest)) :
    Reads follow (stepExpr grammar n)
      (.mark "(" :: (significant left.pieces ++ (after ++ [.mark ")"]))) whole := by
  have hall : Reads follow (do
      mark "("
      let left ← grammar.expr
      let whole ← operation grammar.expr left
      mark ")"
      pure whole) (.mark "(" :: (significant left.pieces ++ (after ++ [.mark ")"]))) whole := by
    refine ((h.expr left hleft).bind (hafter.bind (reads_pure whole).afterMark fun rest _ => rfl)
      fun rest _ => ?_).afterMark
    rw [List.append_assoc]
    exact hapart rest
  exact hall

/-- What a word says is coming is read after it. -/
theorem reads_afterWord {letters : String} {pieces : List Piece} {expr : Expr}
    (h : Reads follow (afterWord grammar n letters) pieces expr) :
    Reads follow (stepExpr grammar n) (.word letters :: pieces) expr :=
  h

theorem afterWord_function (function : Function) :
    afterWord grammar n function.name = call grammar.expr n function := by
  cases function <;> rfl

/-- A comparison or a connective goes on after the left operand. -/
theorem Covers.reads_operation (h : grammar.Covers n) {left right : Expr}
    {join : Expr → Expr → Expr} {between : List Piece} (hright : sizeOf right ≤ n)
    (hbetween : Reads (fun _ => True) operator between join)
    (hnot : ∀ rest, beginsWithWord "IS" (between ++ rest) = false) :
    Reads (fun rest => beginsWithMark ")" rest) (operation grammar.expr left)
      (between ++ significant right.pieces) (join left right.canonical) := by
  have hjoined := ((h.expr right hright).pure (join left)).mono fun _ => apart_of_closing
  refine reads_ifWord_not (hbetween.bind hjoined fun _ _ => trivial) fun rest _ => ?_
  rw [List.append_assoc]
  exact hnot _

theorem Covers.all (h : grammar.Covers n) {exprs : List Expr} (hsize : sizeOf exprs ≤ n) :
    ∀ e ∈ exprs, Reads Apart grammar.expr (significant e.pieces) e.canonical :=
  fun e he => h.expr e (Nat.le_of_lt (Nat.lt_of_lt_of_le (List.sizeOf_lt_of_mem he) hsize))

theorem Covers.allFirst (h : grammar.Covers n) {α : Type} [SizeOf α] {entries : List (Expr × α)}
    (hsize : sizeOf entries ≤ n) : ∀ entry ∈ entries,
      Reads Apart grammar.expr (significant entry.1.pieces) entry.1.canonical := by
  rintro ⟨expr, other⟩ hentry
  have hentry := List.sizeOf_lt_of_mem hentry
  rw [Prod.mk.sizeOf_spec] at hentry
  exact h.expr expr (by omega)

theorem Covers.allSecond (h : grammar.Covers n) {α : Type} [SizeOf α] {entries : List (α × Expr)}
    (hsize : sizeOf entries ≤ n) : ∀ entry ∈ entries,
      Reads Apart grammar.expr (significant entry.2.pieces) entry.2.canonical := by
  rintro ⟨other, expr⟩ hentry
  have hentry := List.sizeOf_lt_of_mem hentry
  rw [Prod.mk.sizeOf_spec] at hentry
  exact h.expr expr (by omega)

/-- A grammar of the next depth reads all expressions of the next size. -/
theorem Covers.reads_stepExpr (h : grammar.Covers n) {expr : Expr} (hsize : sizeOf expr ≤ n + 1) :
    Reads Apart (stepExpr grammar n) (significant expr.pieces) expr.canonical := by
  cases expr with
  | and left right =>
      rw [Expr.and.sizeOf_spec] at hsize
      rw [Expr.pieces, Expr.canonical, significant_parenthesised, significant_append,
        significant_clause, List.append_assoc]
      have hand : Reads (fun _ => True) operator [.word "AND"] .and := fun _ _ => rfl
      exact h.reads_parenthesised (by omega)
        (h.reads_operation (by omega) hand fun _ => rfl) fun _ => rfl
  | or left right =>
      rw [Expr.or.sizeOf_spec] at hsize
      rw [Expr.pieces, Expr.canonical, significant_parenthesised, significant_append,
        significant_clause, List.append_assoc]
      have hor : Reads (fun _ => True) operator [.word "OR"] .or := fun _ _ => rfl
      exact h.reads_parenthesised (by omega)
        (h.reads_operation (by omega) hor fun _ => rfl) fun _ => rfl
  | binary op left right =>
      rw [Expr.binary.sizeOf_spec] at hsize
      rw [Expr.pieces, Expr.canonical, significant_parenthesised, List.append_assoc,
        significant_append, List.cons_append, significant_blank, significant_append,
        significant_blank, List.append_assoc]
      refine h.reads_parenthesised (by omega)
        (h.reads_operation (by omega) (reads_operator op) fun _ => ?_) fun _ => ?_
      all_goals cases op <;> rfl
  | unary op operand =>
      rw [Expr.unary.sizeOf_spec] at hsize
      rw [Expr.pieces, Expr.canonical, significant_parenthesised, significant_append,
        significant_blank, significant_words, List.append_assoc]
      rcases reads_test op with ⟨words, hwords, htest⟩
      rw [hwords]
      exact h.reads_parenthesised (by omega) (reads_ifWord (htest.pure _)) fun _ => rfl
  | call function args =>
      rw [Expr.call.sizeOf_spec] at hsize
      have hargs : sizeOf args ≤ n := by omega
      have hlength := Nat.le_of_lt (length_lt_of_sizeOf hargs)
      rw [Expr.pieces, Expr.canonical, significant_word, significant_parenthesised]
      refine reads_afterWord ?_
      rw [afterWord_function]
      exact reads_call (h.all hargs) hlength function
  | aggregate function distinct args =>
      rw [Expr.aggregate.sizeOf_spec] at hsize
      have hargs : sizeOf args ≤ n := by omega
      have hlength := Nat.le_of_lt (length_lt_of_sizeOf hargs)
      rw [Expr.pieces, significant_word, significant_parenthesised]
      refine reads_afterWord ?_
      rw [afterWord_function]
      -- Without `DISTINCT` nothing in the text says that this is an aggregation.
      cases distinct with
      | false =>
          rw [Expr.canonical]
          exact reads_call (h.all hargs) hlength function
      | true =>
          rw [Expr.canonical]
          exact reads_call_distinct (h.all hargs) hlength function
  | case whens otherwise =>
      rw [Expr.case.sizeOf_spec] at hsize
      have hsizes : sizeOf whens ≤ n := by omega
      have harms := reads_arms (fun entry hentry =>
        ⟨h.allFirst hsizes entry hentry, h.allSecond hsizes entry hentry⟩)
        (length_lt_of_sizeOf (by omega))
      rw [Expr.pieces, Expr.canonical, List.cons_append, List.cons_append, significant_word,
        significant_append, significant_append, significant_clause, List.append_assoc]
      refine reads_afterWord ?_
      refine harms.bind
        ((h.expr otherwise (by omega)).bind (reads_pure _).afterWord fun _ _ => ?_).afterWord
        fun _ _ => ?_
      all_goals rfl
  | «exists» select =>
      rw [Expr.exists.sizeOf_spec] at hsize
      rw [Expr.pieces, Expr.canonical, significant_word, significant_blank,
        significant_parenthesised]
      exact reads_afterWord ((h.select select (by omega)).beforeMark _ fun _ => rfl).afterMark
  | rowToJson table =>
      rw [Expr.pieces, Expr.canonical, significant_word, significant_parenthesised]
      refine reads_afterWord ((reads_tableRef table).beforeMark _ fun _ => ?_).afterMark
      rfl
  | column table name =>
      rw [Expr.canonical]
      have hcolumn := reads_column table name
      rw [Expr.pieces] at hcolumn ⊢
      cases table <;> exact hcolumn
  | value value =>
      rw [Expr.pieces, Expr.canonical]
      cases value with
      | bool value => cases value <;> exact fun _ _ => rfl
      | int | string | null | json | emptyJsonArray => exact fun _ _ => rfl
  | cast operand type =>
      rw [Expr.cast.sizeOf_spec] at hsize
      rw [Expr.pieces, Expr.canonical, significant_word, significant_parenthesised,
        significant_append, significant_clause, List.append_assoc]
      refine reads_afterWord ((h.expr operand (by omega)).bind
        ((reads_typeName type).beforeMark _ fun _ => ?_).afterWord fun _ _ => ?_).afterMark
      all_goals rfl
  | countAll =>
      rw [Expr.pieces, Expr.canonical]
      exact fun _ _ => rfl
  | countDistinct operand =>
      rw [Expr.countDistinct.sizeOf_spec] at hsize
      rw [Expr.pieces, Expr.canonical, significant_word, significant_parenthesised,
        significant_word, significant_blank]
      have hcounted : Reads (fun rest => beginsWithMark ")" rest)
          (ifMark "*" (pure Expr.countAll) (do
            word "DISTINCT"
            let operand ← grammar.expr
            pure (Expr.countDistinct operand)))
          (.word "DISTINCT" :: significant operand.pieces) (.countDistinct operand.canonical) :=
        reads_ifMark_not (((h.expr operand (by omega)).pure _).mono
          fun _ => apart_of_closing).afterWord fun _ _ => rfl
      exact reads_afterWord (hcounted.beforeMark id fun _ => rfl).afterMark

end Grammar

end Sql

end Registrar
