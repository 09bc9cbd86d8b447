import Registrar.Proofs.Sql.Reading

/-!
# Significant Pieces

The blanks of a statement keep its pieces apart in the text and mean nothing else. All
other pieces can be told from the text and the documents that are bound: a token stands for
one piece, apart from the sign of a negative number, which is a token of its own, and the
documents are bound in the order in which they stand.

## Main definitions

* `significant`: The pieces that are no blanks.
* `Piece.ofTokens`: The pieces that tokens and documents stand for.
* `Text.pieces?`: The pieces that a text with its documents stands for.

## Theorems

* `significant_clause`, `significant_commaSeparated` and their like: The ways of joining
  pieces.
* `Phrase.pieces?_ofPieces`: The significant pieces can be told from the text.
-/

namespace Registrar

namespace Sql

/-- Whether a piece is a blank. -/
def Piece.isBlank : Piece → Bool
  | blank => true
  | _ => false

/-- The pieces that are no blanks. -/
def significant (pieces : List Piece) : List Piece :=
  pieces.filter fun piece => !piece.isBlank

@[simp] theorem significant_nil : significant [] = [] := rfl

@[simp] theorem significant_append (first second : List Piece) :
    significant (first ++ second) = significant first ++ significant second :=
  List.filter_append ..

@[simp] theorem significant_blank (rest : List Piece) :
    significant (.blank :: rest) = significant rest := rfl

@[simp] theorem significant_word (letters : String) (rest : List Piece) :
    significant (.word letters :: rest) = .word letters :: significant rest := rfl

@[simp] theorem significant_mark (symbol : String) (rest : List Piece) :
    significant (.mark symbol :: rest) = .mark symbol :: significant rest := rfl

@[simp] theorem significant_integer (value : Int) (rest : List Piece) :
    significant (.integer value :: rest) = .integer value :: significant rest := rfl

@[simp] theorem significant_name (value : String) (rest : List Piece) :
    significant (.name value :: rest) = .name value :: significant rest := rfl

@[simp] theorem significant_literal (value : String) (rest : List Piece) :
    significant (.literal value :: rest) = .literal value :: significant rest := rfl

@[simp] theorem significant_param (document : Json.Document) (rest : List Piece) :
    significant (.param document :: rest) = .param document :: significant rest := rfl

@[simp] theorem significant_words (letters : List String) :
    significant (words letters) = letters.map .word := by
  induction letters with
  | nil => rfl
  | cons first letters ih =>
      cases letters with
      | nil => rfl
      | cons second letters =>
          have hwords : words (first :: second :: letters) =
              .word first :: .blank :: words (second :: letters) := rfl
          rw [hwords, significant_word, significant_blank, ih]
          rfl

@[simp] theorem significant_parenthesised (inside : List Piece) :
    significant (parenthesised inside) = .mark "(" :: (significant inside ++ [.mark ")"]) := by
  rw [parenthesised, List.cons_append, significant_mark, significant_append]
  rfl

@[simp] theorem significant_clause (letters : List String) (body : List Piece) :
    significant (clause letters body) = letters.map .word ++ significant body := by
  rw [clause, List.cons_append, significant_blank, significant_append, significant_words,
    significant_blank]

@[simp] theorem significant_aliased (label : String) :
    significant (aliased label) = [.word "AS", .name label] := by
  rw [aliased, significant_clause]
  rfl

/-- Lists of pieces with a comma between them. -/
def punctuated : List (List Piece) → List Piece
  | [] => []
  | [item] => item
  | item :: rest => item ++ .mark "," :: punctuated rest

@[simp] theorem significant_commaSeparated (items : List (List Piece)) :
    significant (commaSeparated items) = punctuated (items.map significant) := by
  induction items with
  | nil => rfl
  | cons first items ih =>
      cases items with
      | nil => rfl
      | cons second items =>
          have hitems : commaSeparated (first :: second :: items) =
              first ++ comma ++ commaSeparated (second :: items) := rfl
          rw [hitems, significant_append, significant_append, ih, List.append_assoc]
          rfl

/-- The pieces that tokens stand for, given the documents that are bound. -/
def Piece.ofTokens : List Token → List Json.Document → Option (List Piece)
  | [], _ => some []
  | .word letters :: rest, documents => (ofTokens rest documents).map (.word letters :: ·)
  | .mark symbol :: rest, documents =>
    if symbol = "-" then
      match rest with
      | .number value :: rest => (ofTokens rest documents).map (.integer (-value) :: ·)
      | _ => none
    else (ofTokens rest documents).map (.mark symbol :: ·)
  | .number value :: rest, documents => (ofTokens rest documents).map (.integer value :: ·)
  | .name value :: rest, documents => (ofTokens rest documents).map (.name value :: ·)
  | .literal value :: rest, documents => (ofTokens rest documents).map (.literal value :: ·)
  | .param _ :: rest, document :: documents =>
    (ofTokens rest documents).map (.param document :: ·)
  | .param _ :: _, [] => none

/-- Pieces can be told from their tokens and documents, as long as no mark is mistaken for a
    sign. -/
theorem Piece.ofTokens_tokensFrom {pieces : List Piece} (h : ∀ piece ∈ pieces, piece ≠ .mark "-")
    (index : Nat) : ofTokens (tokensFrom index pieces) (pieces.filterMap document?) =
      some (significant pieces) := by
  induction pieces generalizing index with
  | nil => rfl
  | cons piece rest ih =>
      have hrest := ih fun other hother => h other (List.mem_cons_of_mem _ hother)
      rw [tokensFrom]
      cases piece with
      | word letters =>
          simp only [tokens, List.singleton_append, ofTokens, List.filterMap_cons, document?,
            hrest, Option.map_some, significant_word]
      | mark symbol =>
          have hsign : symbol ≠ "-" := fun hsign => h _ List.mem_cons_self (congrArg _ hsign)
          simp only [tokens, List.singleton_append, List.filterMap_cons, document?]
          rw [ofTokens.eq_def]
          simp only [if_neg hsign, hrest, Option.map_some, significant_mark]
      | blank =>
          simp only [tokens, List.nil_append, List.filterMap_cons, document?, hrest,
            significant_blank]
      | integer value =>
          -- The sign of a negative number is the only token that is not a piece by itself.
          by_cases hsign : value < 0
          · have hvalue : -(value.natAbs : Int) = value := by omega
            simp only [tokens, if_pos hsign, List.cons_append, List.nil_append, ofTokens, if_true,
              List.filterMap_cons, document?, hrest, Option.map_some, hvalue,
              significant_integer]
          · have hvalue : (value.natAbs : Int) = value := by omega
            simp only [tokens, if_neg hsign, List.singleton_append, ofTokens, List.filterMap_cons,
              document?, hrest, Option.map_some, hvalue, significant_integer]
      | name value =>
          simp only [tokens, List.singleton_append, ofTokens, List.filterMap_cons, document?,
            hrest, Option.map_some, significant_name]
      | literal value =>
          simp only [tokens, List.singleton_append, ofTokens, List.filterMap_cons, document?,
            hrest, Option.map_some, significant_literal]
      | param document =>
          simp only [tokens, List.singleton_append, ofTokens, List.filterMap_cons, document?,
            hrest, Option.map_some, significant_param]

/-- No mark of a phrase can be mistaken for a sign. -/
theorem Phrase.ne_sign {pieces : List Piece} (h : Phrase pieces) :
    ∀ piece ∈ pieces, piece ≠ .mark "-" := by
  have hoperator : ∀ symbol ∈ operatorMarks, symbol ≠ "-" := by decide
  have hbracket : ∀ symbol ∈ bracketMarks, symbol ≠ "-" := by decide
  induction h with
  | nil => exact List.forall_mem_nil _
  | word | integer | name | literal | param => exact List.forall_mem_singleton.2 nofun
  | operator known =>
      exact List.forall_mem_singleton.2 fun hsign => hoperator _ known (Piece.mark.inj hsign)
  | blank _ ih => exact List.forall_mem_cons.2 ⟨nofun, ih⟩
  | bracket known _ ih =>
      exact List.forall_mem_cons.2 ⟨fun hsign => hbracket _ known (Piece.mark.inj hsign), ih⟩
  | point value _ ih =>
      refine List.forall_mem_cons.2 ⟨nofun, List.forall_mem_cons.2 ⟨fun hsign => ?_, ih⟩⟩
      exact absurd (Piece.mark.inj hsign) (by decide)
  | append _ _ _ ihfirst ihsecond => exact List.forall_mem_append.2 ⟨ihfirst, ihsecond⟩

/-- The pieces that a text with its documents stands for. -/
def Text.pieces? (sql : Text) : Option (List Piece) := do
  let tokens ← Scanner.tokens true sql.text
  Piece.ofTokens tokens sql.params

/-- The significant pieces of a phrase can be told from its text and its documents. -/
theorem Phrase.pieces?_ofPieces {pieces : List Piece} (h : Phrase pieces) :
    (Text.ofPieces pieces).pieces? = some (significant pieces) := by
  have hparams : (Text.ofPieces pieces).params = pieces.filterMap Piece.document? := by
    rw [Text.ofPieces, Text.appendAll_eq]
    exact List.nil_append _
  rw [Text.pieces?, h.cut true, hparams]
  exact Piece.ofTokens_tokensFrom h.ne_sign 0

end Sql

end Registrar
