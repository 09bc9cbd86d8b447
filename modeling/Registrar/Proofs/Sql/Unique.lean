import Registrar.Proofs.Sql.Selection
import Registrar.Proofs.Sql.Written

/-!
# Statements Are Uniquely Readable

A statement can be recovered from its text and the documents that are bound, but for the two
things that are written like others: its canonical form is what a reader of the text finds.
In particular no operand can be taken to belong to another operator than its own, at any
depth.

The text is cut into tokens, the tokens into significant pieces, and the pieces are read by
the grammar of some depth. Nothing about the statement is needed for that but a bound on its
size, so two statements with the same text can be read by the same grammar.

## Main definitions

* `Statement.read`, `Expr.read`: Read a statement or an expression from a text.

## Theorems

* `Grammar.Covers.reads_statement`: A statement is read from its significant pieces.
* `Statement.read_text`, `Expr.read_text`: Reading a text gives the canonical form.
* `text_eq_iff`: What is written alike has the same canonical form, and the other way round.
-/

namespace Registrar

namespace Sql

variable {follow : List Piece → Prop}

namespace Grammar

open Reader

variable {grammar : Grammar} {n : Nat}

/-- A selection begins with its word. -/
theorem select_cons (select : Select) :
    ∃ more, significant select.pieces = .word "SELECT" :: more := by
  cases select
  rw [Select.pieces]
  exact ⟨_, rfl⟩

theorem Covers.reads_insertFrom (h : grammar.Covers n) {source : InsertFrom}
    (hsize : sizeOf source ≤ n) :
    Reads (fun rest => ends [] rest) (insertFrom grammar) (significant source.pieces)
      source.canonical := by
  cases source with
  | defaults => exact reads_ifWord (reads_pure _).afterWord
  | select select =>
      rw [InsertFrom.select.sizeOf_spec] at hsize
      refine reads_ifWord_not ((h.select select (by omega)).pure _) fun rest _ => ?_
      rcases select_cons select with ⟨more, hmore⟩
      rw [InsertFrom.pieces, hmore]
      rfl

/-- The columns of an insertion are in parentheses, if there are any. -/
theorem reads_columns {columns : List String} (hsize : sizeOf columns ≤ n) :
    Reads (fun rest => beginsWithMark "(" rest = false)
      (ifMark "(" (do
        let columns ← separated name n
        mark ")"
        pure columns) (pure []))
      (significant (if columns.isEmpty then []
        else parenthesised (commaSeparated (columns.map fun column => [.name column]))))
      columns := by
  by_cases hne : columns = []
  · subst hne
    exact reads_ifMark_not (reads_pure []) fun _ hrest => hrest
  · have hcolumns : ¬columns.isEmpty := fun hempty => hne (List.isEmpty_iff.1 hempty)
    have hnames : Reads (fun rest => beginsWithMark "," rest = false) (separated name n)
        (punctuated (columns.map fun column => [.name column])) (columns.map id) :=
      reads_separated (fun column _ => reads_name column) (fun _ => trivial)
        (fun _ hrest => ⟨trivial, hrest⟩) hne (Nat.le_of_lt (length_lt_of_sizeOf hsize))
    rw [List.map_id] at hnames
    rw [if_neg hcolumns, significant_parenthesised, significant_commaSeparated, List.map_map]
    exact reads_ifMark (hnames.beforeMark id fun _ => rfl)

/-- The source of an insertion does not begin with a list of columns. -/
theorem not_columns_insertFrom (source : InsertFrom) (rest : List Piece) :
    beginsWithMark "(" (significant source.pieces ++ rest) = false := by
  cases source with
  | defaults => rfl
  | select select =>
      rcases select_cons select with ⟨more, hmore⟩
      rw [InsertFrom.pieces, hmore]
      rfl

theorem Covers.reads_insert (h : grammar.Covers n) {insert : Insert}
    (hsize : sizeOf insert ≤ n) :
    Reads (fun rest => ends [] rest) (Grammar.insert grammar n) (significant insert.pieces)
      insert.canonical := by
  rcases insert with ⟨schema, table, columns, source, returning⟩
  rw [Insert.mk.sizeOf_spec] at hsize
  have hcolumns : sizeOf columns ≤ n := by omega
  have hsource : sizeOf source ≤ n := by omega
  have hreturning : sizeOf returning ≤ n := by omega
  have hend : ∀ rest, ends [] rest → ends clauseWords rest := fun _ => ends_mono nofun
  rw [Insert.pieces, Insert.canonical]
  simp only [List.cons_append, significant_append, significant_words, significant_blank,
    significant_clause, List.append_assoc, qualified, List.nil_append, significant_name,
    significant_mark]
  refine Reads.afterWord (Reads.afterWord (Reads.afterName (Reads.afterMark (Reads.afterName
    ((reads_columns hcolumns).bind ((h.reads_insertFrom hsource).bind
      (Reads.afterWord (((h.reads_selectList hreturning).mono hend).pure _))
        fun _ _ => ?_) fun rest _ => ?_)))))
  · rfl
  · rw [List.append_assoc]
    exact not_columns_insertFrom source _

/-- An assignment, as it is read. -/
def assignment (entry : String × Expr) : List Piece :=
  .name entry.1 :: .mark "=" :: significant entry.2.pieces

theorem Covers.reads_assignments (h : grammar.Covers n) {entries : List (String × Expr)}
    (hsize : sizeOf entries ≤ n) :
    Reads (fun rest => ends clauseWords rest) (assignments grammar.expr n)
      (significant (commaSeparated (entries.map fun entry =>
        .name entry.1 :: .blank :: .mark "=" :: .blank :: entry.2.pieces)))
      (entries.map fun entry => (entry.1, entry.2.canonical)) := by
  have hentry : ∀ entry ∈ entries, Reads Apart (do
      let key ← name
      mark "="
      let value ← grammar.expr
      pure (key, value)) (assignment entry) (entry.1, entry.2.canonical) :=
    fun entry hentry => ((h.allSecond hsize entry hentry).pure _).afterMark.afterName
  have hlength := Nat.le_of_lt (length_lt_of_sizeOf hsize)
  rw [significant_commaSeparated, List.map_map]
  intro rest hrest
  cases entries with
  | nil => exact if_pos hrest
  | cons first entries =>
      have hall : Reads (fun rest => ends clauseWords rest) _
          (punctuated ((first :: entries).map assignment)) _ :=
        reads_separated hentry (fun _ => rfl)
          (fun rest hrest => ⟨apart_of_ends hrest, not_comma_of_ends hrest⟩)
          (List.cons_ne_nil first entries) hlength
      -- The first assignment begins with a name, so this is not the end.
      have hends : ¬ends clauseWords (punctuated ((first :: entries).map assignment) ++ rest) := by
        rcases punctuated_cons (assignment first) (entries.map assignment) with ⟨more, hmore⟩
        rw [List.map_cons, hmore]
        exact Bool.false_ne_true
      exact (if_neg hends).trans (hall rest hrest)

/-- The assignments of an update are in order. -/
theorem reads_updateOf (update : Update) :
    Reads follow (updateOf update.schema update.table update.label update.set.entries
      update.source update.condition) [] update := by
  rw [updateOf, dif_pos update.set.ascending]
  exact reads_pure update

theorem Covers.reads_update (h : grammar.Covers n) {update : Update}
    (hsize : sizeOf update ≤ n) :
    Reads (fun rest => ends [] rest) (Grammar.update grammar n) (significant update.pieces)
      update.canonical := by
  have hwhole : Reads (fun rest => ends [] rest) _ [] update.canonical :=
    reads_updateOf update.canonical
  rcases update with ⟨schema, table, label, ⟨entries, ascending⟩, source, condition⟩
  rw [Update.mk.sizeOf_spec, Sorted.mk.sizeOf_spec] at hsize
  have hentries : sizeOf entries ≤ n := by omega
  have hsource : sizeOf source ≤ n := by omega
  have hcondition : sizeOf condition ≤ n := by omega
  -- What follows each of the parts, from the last to the first.
  have hend : ∀ rest, ends [] rest → ends ["GROUP", "ORDER", "LIMIT", "OFFSET"] rest :=
    fun _ => ends_mono nofun
  have hwhere : ∀ rest, ends [] rest →
      ends ["WHERE", "GROUP", "ORDER", "LIMIT", "OFFSET"] (_ ++ rest) :=
    fun rest hrest => (clause_condition condition condition.pieces).ends_append (hend rest hrest)
  have hfrom := (clause_source source).continues hwhere
  rw [Update.pieces]
  simp only [List.cons_append, significant_append, significant_blank, significant_aliased,
    significant_word, significant_clause, List.append_assoc, qualified, List.nil_append,
    significant_name, significant_mark, List.map_cons, List.map_nil]
  refine Reads.afterWord (Reads.afterName (Reads.afterMark (Reads.afterName
    (reads_afterLabel (Reads.afterWord ?_)))))
  exact (h.reads_assignments hentries).bind ((h.reads_sourceOption hsource).bind
    (((h.reads_condition hcondition).mono hend).check hwhole) hwhere) hfrom

theorem Covers.reads_delete (h : grammar.Covers n) {delete : Delete}
    (hsize : sizeOf delete ≤ n) :
    Reads (fun rest => ends [] rest) (Grammar.delete grammar n) (significant delete.pieces)
      delete.canonical := by
  rcases delete with ⟨source, condition⟩
  rw [Delete.mk.sizeOf_spec] at hsize
  have hsource : sizeOf source ≤ n := by omega
  have hcondition : sizeOf condition ≤ n := by omega
  have hreads : Reads (fun rest => ends [] rest) (Grammar.condition grammar) _ _ :=
    (h.reads_condition hcondition).mono fun _ => ends_mono nofun
  rcases h.reads_source hsource with ⟨after, hafter, hsource⟩
  rw [Delete.pieces, Delete.canonical, List.cons_append, List.cons_append, significant_word,
    significant_blank, significant_append, hafter]
  exact (hsource.bind (hreads.pure _) fun _ _ => trivial).afterWord.afterWord

/-- A grammar of a depth reads statements, each by its first word. -/
theorem Covers.reads_statement (h : grammar.Covers n) {statement : Statement}
    (hsize : sizeOf statement ≤ n) :
    Reads (fun rest => ends [] rest) (Grammar.statement grammar n) (significant statement.pieces)
      statement.canonical := by
  cases statement with
  | select select =>
      rw [Statement.select.sizeOf_spec] at hsize
      have hreads := (h.select select (by omega)).pure Statement.select
      -- The reader tells statements apart by their first word, which has to be seen here.
      rcases select_cons select with ⟨more, hmore⟩
      rw [Statement.pieces, Statement.canonical]
      rw [hmore] at hreads ⊢
      exact hreads
  | insert insert =>
      rw [Statement.insert.sizeOf_spec] at hsize
      have hinsert : sizeOf insert ≤ n := by omega
      exact (h.reads_insert hinsert).pure Statement.insert
  | update update =>
      rw [Statement.update.sizeOf_spec] at hsize
      have hupdate : sizeOf update ≤ n := by omega
      exact (h.reads_update hupdate).pure Statement.update
  | delete delete =>
      rw [Statement.delete.sizeOf_spec] at hsize
      have hdelete : sizeOf delete ≤ n := by omega
      exact (h.reads_delete hdelete).pure Statement.delete

end Grammar

/-- Read a statement of some depth from a text. -/
def Statement.read (depth : Nat) (sql : Text) : Option Statement :=
  ((Grammar.ofDepth depth).statement depth).whole sql

/-- The text of a statement is read as its canonical form. -/
theorem Statement.read_text {statement : Statement} {depth : Nat}
    (hsize : sizeOf statement ≤ depth) :
    read depth statement.text = some statement.canonical :=
  ((Grammar.covers_ofDepth depth).reads_statement hsize).whole statement.phrase rfl

/-- Read an expression of some depth from a text. -/
def Expr.read (depth : Nat) (sql : Text) : Option Expr :=
  (Grammar.ofDepth depth).expr.whole sql

/-- The text of an expression is read as its canonical form. -/
theorem Expr.read_text {expr : Expr} {depth : Nat} (hsize : sizeOf expr ≤ depth) :
    read depth expr.text = some expr.canonical :=
  ((Grammar.covers_ofDepth depth).expr expr hsize).whole expr.phrase rfl

/-- Readers do not look at the number of the next parameter. -/
theorem Reader.whole_congr {α : Type} (reader : Reader α) {first second : Text}
    (htext : first.text = second.text) (hparams : first.params = second.params) :
    reader.whole first = reader.whole second := by
  rw [whole, whole, Text.pieces?, Text.pieces?, htext, hparams]

theorem Statement.canonical_eq_of_text {first second : Statement}
    (htext : first.text.text = second.text.text)
    (hparams : first.text.params = second.text.params) : first.canonical = second.canonical := by
  -- Both sizes together are a depth at which one grammar reads both.
  have hfirst := first.read_text (Nat.le_add_right (sizeOf first) (sizeOf second))
  have hsecond := second.read_text (Nat.le_add_left (sizeOf second) (sizeOf first))
  rw [read, Reader.whole_congr _ htext hparams] at hfirst
  exact Option.some.inj (hfirst.symm.trans hsecond)

theorem Expr.canonical_eq_of_text {first second : Expr}
    (htext : first.text.text = second.text.text)
    (hparams : first.text.params = second.text.params) : first.canonical = second.canonical := by
  have hfirst := first.read_text (Nat.le_add_right (sizeOf first) (sizeOf second))
  have hsecond := second.read_text (Nat.le_add_left (sizeOf second) (sizeOf first))
  rw [read, Reader.whole_congr _ htext hparams] at hfirst
  exact Option.some.inj (hfirst.symm.trans hsecond)

theorem Statement.text_canonical (statement : Statement) :
    statement.canonical.text = statement.text :=
  congrArg Text.ofPieces statement.pieces_canonical

theorem Expr.text_canonical (expr : Expr) : expr.canonical.text = expr.text :=
  congrArg Text.ofPieces expr.pieces_canonical

/-- Two statements are written alike, with the same documents bound, if and only if they have
    the same canonical form, and so are two expressions: all that the text does not tell is
    whether a call is an aggregation without `DISTINCT`, and whether the string `[]` is an
    empty JSON array. -/
theorem text_eq_iff :
    (∀ first second : Statement,
      first.text.text = second.text.text ∧ first.text.params = second.text.params ↔
        first.canonical = second.canonical) ∧
    ∀ first second : Expr,
      first.text.text = second.text.text ∧ first.text.params = second.text.params ↔
        first.canonical = second.canonical := by
  refine ⟨fun first second => ⟨fun ⟨htext, hparams⟩ => ?_, fun hsame => ?_⟩,
    fun first second => ⟨fun ⟨htext, hparams⟩ => ?_, fun hsame => ?_⟩⟩
  · exact Statement.canonical_eq_of_text htext hparams
  · rw [← first.text_canonical, hsame, second.text_canonical]
    exact ⟨rfl, rfl⟩
  · exact Expr.canonical_eq_of_text htext hparams
  · rw [← first.text_canonical, hsame, second.text_canonical]
    exact ⟨rfl, rfl⟩

end Sql

end Registrar
