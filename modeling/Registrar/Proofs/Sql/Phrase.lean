import Registrar.Proofs.Sql.Scanner
import Registrar.Sql.Render

/-!
# Pieces That Stay Apart

A statement is written piece by piece, and a reader of the text has to find the
same pieces again. That needs more than good quotes. A word ends where a blank, a
comma or a parenthesis follows and nowhere else; a name may also be followed by a
point and another name.

`Phrase` is that discipline: the lists of pieces in which no two neighbours can run
together. It is closed under the few ways in which `Sql.Render` joins pieces, so a
single induction over statements shows that all of them are phrases. What is true of
phrases is then proved by induction on `Phrase` and never again on statements:
`Scanner.cuts_of_phrase` says that the text of a phrase is cut into the tokens of its
pieces.

## Main definitions

* `Piece.chars`, `charsFrom`: The text of pieces, given how many parameters came
  before.
* `Piece.tokens`, `tokensFrom`: The tokens that pieces stand for.
* `Phrase`: Pieces that stay apart in the text.
* `Scanner.Cuts`: The text of pieces is cut into their tokens.

## Theorems

* `Text.appendAll_eq`: Appending pieces appends their text and their documents.
* `Scanner.cuts_of_phrase`: The text of a phrase is cut into its tokens.
* `Phrase.parenthesised`, `Phrase.clause`, `Phrase.commaSeparated`: The ways of
  joining pieces keep them apart.
-/

namespace Registrar

namespace Sql

namespace Piece

/-- The number of parameters so far, after a piece. -/
def count (index : Nat) : Piece → Nat
  | .param _ => index + 1
  | _ => index

/-- The text of a piece, given the number of parameters before it. -/
def chars (index : Nat) : Piece → List Char
  | .word letters => letters.toList
  | .mark symbol => symbol.toList
  | .blank => [' ']
  | .integer value => (toString value).toList
  | .name value => (quoteName value).toList
  | .literal value => (quoteLiteral value).toList
  | .param _ => '$' :: (index + 1).repr.toList

/-- The tokens that a piece stands for. A blank stands for none, and the sign of a
    negative integer is a token of its own. -/
def tokens (index : Nat) : Piece → List Token
  | .word letters => [.word letters]
  | .mark symbol => [.mark symbol]
  | .blank => []
  | .integer value =>
    if value < 0 then [.mark "-", .number value.natAbs] else [.number value.natAbs]
  | .name value => [.name value]
  | .literal value => [.literal value]
  | .param _ => [.param (index + 1)]

/-- The document that a piece binds. -/
def document? : Piece → Option Json.Document
  | .param document => some document
  | _ => none

end Piece

/-- The number of parameters so far, after pieces. -/
def countFrom (index : Nat) (pieces : List Piece) : Nat :=
  pieces.foldl Piece.count index

/-- The text of pieces, given the number of parameters before them. -/
def charsFrom : Nat → List Piece → List Char
  | _, [] => []
  | index, piece :: rest => piece.chars index ++ charsFrom (piece.count index) rest

/-- The tokens that pieces stand for, given the number of parameters before them. -/
def tokensFrom : Nat → List Piece → List Token
  | _, [] => []
  | index, piece :: rest => piece.tokens index ++ tokensFrom (piece.count index) rest

theorem charsFrom_append (index : Nat) (first second : List Piece) :
    charsFrom index (first ++ second) =
      charsFrom index first ++ charsFrom (countFrom index first) second := by
  induction first generalizing index with
  | nil => rfl
  | cons piece first ih =>
      rw [List.cons_append, charsFrom, charsFrom, ih, List.append_assoc]
      rfl

theorem tokensFrom_append (index : Nat) (first second : List Piece) :
    tokensFrom index (first ++ second) =
      tokensFrom index first ++ tokensFrom (countFrom index first) second := by
  induction first generalizing index with
  | nil => rfl
  | cons piece first ih =>
      rw [List.cons_append, tokensFrom, tokensFrom, ih, List.append_assoc]
      rfl

/-- The parameters are counted up by one for each document that is bound. -/
theorem countFrom_eq (index : Nat) (pieces : List Piece) :
    countFrom index pieces = index + (pieces.filterMap Piece.document?).length := by
  induction pieces generalizing index with
  | nil => rfl
  | cons piece rest ih =>
      have hrest := ih (piece.count index)
      cases piece with
      | param document => exact hrest.trans (Nat.add_right_comm index 1 _)
      | word | mark | blank | integer | name | literal => exact hrest

/-- One piece appends its text, its document if it binds one, and nothing else. -/
theorem Text.append_eq (sql : Text) (piece : Piece) :
    sql.append piece =
      ⟨sql.text ++ String.ofList (piece.chars sql.paramIndex),
        sql.params ++ piece.document?.toList, piece.count sql.paramIndex⟩ := by
  cases piece with
  | word | mark | integer | name | literal =>
      simp only [Text.append, Text.appendVerbatim, Text.appendName, Text.appendLiteral,
        Piece.chars, Piece.document?, Piece.count, String.ofList_toList, Option.toList_none,
        List.append_nil]
  | blank =>
      simp only [Text.append, Text.appendVerbatim, Piece.chars, Piece.document?, Piece.count,
        Option.toList_none, List.append_nil]
  | param document =>
      -- The number of the parameter is written after the parameter was counted.
      have hdollar (digits : String) : "$" ++ digits = String.ofList ('$' :: digits.toList) := by
        simp only [← String.toList_inj, String.toList_append, String.toList_ofList]
        rfl
      simp only [Text.append, Text.appendParam, Piece.chars, Piece.document?, Piece.count,
        Option.toList_some, String.append_assoc, hdollar]
      rfl

/-- Appending pieces appends their text and the documents that they bind, numbered
    on from where the parameters stood. -/
theorem Text.appendAll_eq (sql : Text) (pieces : List Piece) :
    sql.appendAll pieces =
      ⟨sql.text ++ String.ofList (charsFrom sql.paramIndex pieces),
        sql.params ++ pieces.filterMap Piece.document?, countFrom sql.paramIndex pieces⟩ := by
  induction pieces generalizing sql with
  | nil =>
      simp only [appendAll, List.foldl_nil, charsFrom, countFrom, List.filterMap_nil,
        String.ofList_nil, String.append_empty, List.append_nil]
  | cons piece pieces ih =>
      rw [appendAll, List.foldl_cons, ← appendAll, ih, Text.append_eq]
      simp only [charsFrom, countFrom, List.foldl_cons, String.ofList_append, String.append_assoc,
        List.append_assoc, List.filterMap_cons]
      cases piece.document? <;> rfl

/-- The text of pieces on their own. -/
theorem Text.toList_ofPieces (pieces : List Piece) :
    (Text.ofPieces pieces).text.toList = charsFrom 0 pieces := by
  rw [ofPieces, appendAll_eq]
  simp only [Text.empty, String.empty_append, String.toList_ofList]

/-- The words of the language. -/
def keywords : List String :=
  ["SELECT", "INSERT", "INTO", "DEFAULT", "VALUES", "RETURNING", "UPDATE", "SET", "DELETE", "FROM",
   "WHERE", "GROUP", "ORDER", "BY", "ASC", "DESC", "LIMIT", "OFFSET", "AS", "AND", "OR", "NOT",
   "LIKE", "IS", "NULL", "TRUE", "FALSE", "true", "false", "CASE", "WHEN", "THEN", "ELSE", "END",
   "EXISTS", "CAST", "COUNT", "DISTINCT", "row_to_json", "coalesce", "json_agg",
   "jsonb_populate_record", "string_agg", "BEGIN", "COMMIT", "ROLLBACK"]

/-- The marks that need a blank or a parenthesis after them. -/
def operatorMarks : List String := ["=", "<>", ">", "*"]

/-- The marks that stand for themselves next to anything. -/
def bracketMarks : List String := ["(", ")", ","]

/-- Whether pieces end whatever stands before them. -/
def leads : List Piece → Bool
  | [] => true
  | .blank :: _ => true
  | .mark symbol :: _ => symbol ∈ bracketMarks
  | _ => false

/-- Pieces that stay apart in the text: next to each other stand only such pieces as
    do not run together. -/
inductive Phrase : List Piece → Prop
  | nil : Phrase []
  | word {letters : String} (known : letters ∈ keywords) : Phrase [.word letters]
  | operator {symbol : String} (known : symbol ∈ operatorMarks) : Phrase [.mark symbol]
  | integer (value : Int) : Phrase [.integer value]
  | name (value : String) : Phrase [.name value]
  | literal (value : String) : Phrase [.literal value]
  | param (document : Json.Document) : Phrase [.param document]
  | blank {rest : List Piece} (phrase : Phrase rest) : Phrase (.blank :: rest)
  | bracket {symbol : String} {rest : List Piece} (known : symbol ∈ bracketMarks)
      (phrase : Phrase rest) : Phrase (.mark symbol :: rest)
  | point (value : String) {next : String} {rest : List Piece}
      (phrase : Phrase (.name next :: rest)) :
      Phrase (.name value :: .mark "." :: .name next :: rest)
  | append {first second : List Piece} (before : Phrase first) (after : Phrase second)
      (apart : leads second) : Phrase (first ++ second)

namespace Scanner

variable {standard : Bool}

/-- The text of pieces is cut into their tokens, wherever a delimiter follows. -/
def Cuts (standard : Bool) (pieces : List Piece) : Prop :=
  ∀ index rest, delimits rest →
    run standard .between (charsFrom index pieces ++ rest) =
      (run standard .between rest).map (tokensFrom index pieces ++ ·)

/-- Pieces that end what stands before them begin with a delimiter, or what comes
    after them does. -/
theorem delimits_charsFrom {pieces : List Piece} (h : leads pieces) (index : Nat)
    {rest : List Char} (hrest : delimits rest) : delimits (charsFrom index pieces ++ rest) := by
  rcases pieces with _ | ⟨piece, pieces⟩
  · exact hrest
  · cases piece with
    | blank => rfl
    | mark symbol =>
        -- All marks that lead begin with a delimiter.
        have hsymbol : symbol ∈ bracketMarks := by simpa only [leads, decide_eq_true_eq] using h
        rcases List.mem_cons.1 hsymbol with rfl | hsymbol
        · rfl
        rcases List.mem_cons.1 hsymbol with rfl | hsymbol
        · rfl
        rw [List.mem_singleton.1 hsymbol]
        rfl
    | word | integer | name | literal | param => exact absurd h Bool.false_ne_true

theorem cuts_nil : Cuts standard [] := by
  intro index rest _
  rw [charsFrom, tokensFrom, List.nil_append]
  exact Option.map_id'.symm

/-- A single piece is cut off if its text puts the machine into a state in which its
    tokens are complete. -/
theorem cuts_single {piece : Piece}
    (h : ∀ index rest, ∃ mode, Settled mode (piece.tokens index) ∧
      run standard .between (piece.chars index ++ rest) = run standard mode rest) :
    Cuts standard [piece] := by
  intro index rest hrest
  rcases h index rest with ⟨mode, hmode, hrun⟩
  rw [charsFrom, charsFrom, tokensFrom, tokensFrom, List.append_nil, List.append_nil, hrun]
  exact run_of_settled hmode hrest

theorem cuts_word {letters : String} (h : letters ∈ keywords) :
    Cuts standard [.word letters] := by
  have hword : ∀ letters ∈ keywords, isWord letters.toList := by decide
  -- A word of the language is a word for the machine, and a blank or a bracket ends it.
  have hsettled := settled_word letters.toList
  rw [String.ofList_toList] at hsettled
  exact cuts_single fun index rest => ⟨_, hsettled, run_word (hword letters h) rest⟩

theorem cuts_operator {symbol : String} (h : symbol ∈ operatorMarks) :
    Cuts standard [.mark symbol] := by
  have hsymbols : ∀ symbol ∈ operatorMarks,
      symbol = "=" ∨ symbol = "<>" ∨ symbol = ">" ∨ symbol = "*" := by decide
  rcases hsymbols symbol h with rfl | rfl | rfl | rfl
  · exact cuts_single fun _ _ =>
      ⟨_, settled_operator (by decide : ['='] ∈ operators), run_begin _ rfl⟩
  · exact cuts_single fun _ _ => ⟨_, settled_operator (by decide : ['<', '>'] ∈ operators),
      (run_begin _ rfl).trans (run_extend _ rfl)⟩
  · exact cuts_single fun _ _ =>
      ⟨_, settled_operator (by decide : ['>'] ∈ operators), run_begin _ rfl⟩
  · exact cuts_single fun _ _ =>
      ⟨_, settled_operator (by decide : ['*'] ∈ operators), run_begin _ rfl⟩

theorem cuts_name (value : String) : Cuts standard [.name value] := by
  have hsettled := settled_nameQuote value.toList
  rw [String.ofList_toList] at hsettled
  exact cuts_single fun index rest => ⟨_, hsettled, run_quoteName value rest⟩

theorem cuts_literal (value : String) : Cuts standard [.literal value] := by
  refine cuts_single fun index rest => ?_
  rcases run_quoteLiteral standard value rest with ⟨escapes, hrun⟩
  have hsettled := settled_literalQuote escapes value.toList
  rw [String.ofList_toList] at hsettled
  exact ⟨_, hsettled, hrun⟩

theorem cuts_param (document : Json.Document) : Cuts standard [.param document] :=
  cuts_single fun index rest =>
    ⟨_, settled_digits true (index + 1), run_placeholder (index + 1) rest⟩

/-- A number is cut off by itself, without a sign. -/
theorem run_number_of_delimits (standard : Bool) (value : Nat) {rest : List Char}
    (hrest : delimits rest) : run standard .between (value.repr.toList ++ rest) =
      (run standard .between rest).map (.number value :: ·) := by
  rw [run_number, run_of_settled (settled_digits false value) hrest]
  rfl

theorem cuts_integer (value : Int) : Cuts standard [.integer value] := by
  intro index rest hrest
  have hnumber := run_number_of_delimits standard value.natAbs hrest
  rw [charsFrom, charsFrom, tokensFrom, tokensFrom, List.append_nil, List.append_nil,
    Piece.chars, Int.toString_eq_repr, Int.repr_eq_if]
  -- The sign of a negative number is cut off as an operator of its own.
  by_cases hsign : value < 0
  · have habs : (-value).toNat = value.natAbs := by omega
    have hminus : ("-" ++ value.natAbs.repr).toList = '-' :: value.natAbs.repr.toList := by
      rw [String.toList_append]
      rfl
    simp only [Piece.tokens, if_pos hsign, if_neg (Int.not_le.2 hsign), habs, hminus,
      List.cons_append]
    rw [run_minus, hnumber, Option.map_map]
    rfl
  · have habs : value.toNat = value.natAbs := by omega
    simp only [Piece.tokens, if_neg hsign, if_pos (Int.not_lt.1 hsign), habs]
    exact hnumber

theorem cuts_blank {pieces : List Piece} (h : Cuts standard pieces) :
    Cuts standard (.blank :: pieces) := by
  intro index rest hrest
  have hblank : begin? standard ' ' = some .between := rfl
  rw [charsFrom, tokensFrom, List.append_assoc]
  exact (run_begin _ hblank).trans (h index rest hrest)

theorem cuts_bracket {symbol : String} {pieces : List Piece} (known : symbol ∈ bracketMarks)
    (h : Cuts standard pieces) : Cuts standard (.mark symbol :: pieces) := by
  intro index rest hrest
  have hsymbols : ∀ symbol ∈ bracketMarks, symbol = "(" ∨ symbol = ")" ∨ symbol = "," := by decide
  -- A bracket is over at once, so nothing has to be known of what follows.
  have hrun : run standard .between (symbol.toList ++ (charsFrom index pieces ++ rest)) =
      (run standard .between (charsFrom index pieces ++ rest)).map (.mark symbol :: ·) := by
    rcases hsymbols symbol known with rfl | rfl | rfl
    · exact (run_begin _ rfl).trans (run_bracket '(' _)
    · exact (run_begin _ rfl).trans (run_bracket ')' _)
    · exact (run_begin _ rfl).trans (run_bracket ',' _)
  rw [charsFrom, tokensFrom, List.append_assoc]
  refine hrun.trans ?_
  rw [h index rest hrest, Option.map_map]
  rfl

theorem cuts_point (value : String) {next : String} {pieces : List Piece}
    (h : Cuts standard (.name next :: pieces)) :
    Cuts standard (.name value :: .mark "." :: .name next :: pieces) := by
  intro index rest hrest
  -- The name after the point is the first of the pieces that are cut already.
  have hnext := h index rest hrest
  rw [charsFrom, List.append_assoc] at hnext
  have hrun := run_point standard value next (charsFrom index pieces ++ rest)
  rw [charsFrom, charsFrom, charsFrom, tokensFrom, tokensFrom, List.append_assoc, List.append_assoc,
    List.append_assoc]
  refine hrun.trans ?_
  refine (congrArg _ hnext).trans ?_
  rw [Option.map_map]
  rfl

theorem cuts_append {first second : List Piece} (hfirst : Cuts standard first)
    (hsecond : Cuts standard second) (apart : leads second) :
    Cuts standard (first ++ second) := by
  intro index rest hrest
  -- What leads the second part delimits the first one.
  rw [charsFrom_append, tokensFrom_append, List.append_assoc,
    hfirst index _ (delimits_charsFrom apart _ hrest), hsecond _ rest hrest, Option.map_map]
  simp only [Function.comp_def, List.append_assoc]

/-- The text of a phrase is cut into the tokens of its pieces. -/
theorem cuts_of_phrase (standard : Bool) {pieces : List Piece} (h : Phrase pieces) :
    Cuts standard pieces := by
  induction h with
  | nil => exact cuts_nil
  | word known => exact cuts_word known
  | operator known => exact cuts_operator known
  | integer value => exact cuts_integer value
  | name value => exact cuts_name value
  | literal value => exact cuts_literal value
  | param document => exact cuts_param document
  | blank _ ih => exact cuts_blank ih
  | bracket known _ ih => exact cuts_bracket known ih
  | point value _ ih => exact cuts_point value ih
  | append _ _ apart ihfirst ihsecond => exact cuts_append ihfirst ihsecond apart

end Scanner

namespace Phrase

/-- A word before pieces that end it. -/
theorem keyword {letters : String} (known : letters ∈ keywords) {rest : List Piece}
    (phrase : Phrase rest) (apart : leads rest) : Phrase (.word letters :: rest) :=
  append (word known) phrase apart

theorem words {letters : List String} (known : ∀ word ∈ letters, word ∈ keywords) :
    Phrase (words letters) := by
  induction letters with
  | nil => exact nil
  | cons first letters ih =>
      have hfirst : first ∈ keywords := known first List.mem_cons_self
      have hrest := ih fun word hword => known word (List.mem_cons_of_mem _ hword)
      cases letters with
      | nil => exact word hfirst
      | cons second letters => exact keyword hfirst (blank hrest) rfl

theorem parenthesised {inside : List Piece} (phrase : Phrase inside) :
    Phrase (parenthesised inside) :=
  bracket (by decide) (append phrase (bracket (by decide) nil) rfl)

theorem clause {letters : List String} (known : ∀ word ∈ letters, word ∈ keywords)
    {body : List Piece} (phrase : Phrase body) : Phrase (clause letters body) :=
  blank (append (words known) (blank phrase) rfl)

theorem commaSeparated {items : List (List Piece)} (phrases : ∀ item ∈ items, Phrase item) :
    Phrase (commaSeparated items) := by
  induction items with
  | nil => exact nil
  | cons first items ih =>
      have hfirst : Phrase first := phrases first List.mem_cons_self
      have hrest := ih fun item hitem => phrases item (List.mem_cons_of_mem _ hitem)
      cases items with
      | nil => exact hfirst
      | cons second items =>
          -- The comma delimits the item before it, and brings its own blank.
          have hcomma : Phrase (comma ++ Sql.commaSeparated (second :: items)) :=
            bracket (by decide) (blank hrest)
          have hall := append hfirst hcomma rfl
          rwa [← List.append_assoc] at hall

theorem aliased (label : String) : Phrase (aliased label) :=
  clause (by decide) (name label)

theorem amount {keyword : String} (known : keyword ∈ keywords) (value : Option Nat) :
    Phrase (amount keyword value) := by
  cases value with
  | none => exact nil
  | some n => exact clause (fun word hword => List.mem_singleton.1 hword ▸ known) (integer n)

theorem listClause {letters : List String} (known : ∀ word ∈ letters, word ∈ keywords)
    {items : List (List Piece)} (phrases : ∀ item ∈ items, Phrase item) :
    Phrase (listClause letters items) := by
  rw [Sql.listClause]
  split
  · exact nil
  · exact clause known (commaSeparated phrases)

theorem whereClause (condition : Expr) {pieces : List Piece} (phrase : Phrase pieces) :
    Phrase (whereClause condition pieces) := by
  rw [Sql.whereClause]
  split
  · exact nil
  · exact clause (by decide) phrase

end Phrase

theorem leads_amount (keyword : String) (value : Option Nat) : leads (amount keyword value) := by
  cases value <;> rfl

theorem leads_listClause (letters : List String) (items : List (List Piece)) :
    leads (listClause letters items) := by
  rw [listClause]
  split <;> rfl

theorem leads_whereClause (condition : Expr) (pieces : List Piece) :
    leads (whereClause condition pieces) := by
  rw [whereClause]
  split <;> rfl

end Sql

end Registrar
