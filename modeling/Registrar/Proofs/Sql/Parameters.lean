import Registrar.Proofs.Sql.Reading

/-!
# Numbering of Parameters

The database pairs a placeholder with a document by its number alone, so a text is only
as good as its numbering. What is written appends its own text, and its documents behind
those that are there; read back, the placeholders in the appended text are numbered on
from the parameters that were there, from left to right, each number once. A dollar sign
in a name or in a string is no placeholder, because the text is cut into tokens before
anything is counted.

## Main definitions

* `Token.param?`: The number of the placeholder that a token is.
* `Expr.documents`, `Statement.documents`: The documents of a statement, from left to right.
* `Text.Continues`: A text goes on from another one and binds documents.
* `Text.Binds`: A text binds documents, from the first parameter on.

## Theorems

* `params_tokensFrom`: The placeholders among the tokens of pieces.
* `Statement.continues`, `Expr.continues`: Whatever is written goes on from what was there.
-/

namespace Registrar

namespace Sql

/-- The number of the placeholder that a token is. -/
def Token.param? : Token → Option Nat
  | param index => some index
  | _ => none

/-- The documents of a statement, from left to right. -/
def Statement.documents (statement : Statement) : List Json.Document :=
  statement.contents.filterMap Content.document?

/-- The documents of an expression, from left to right. -/
def Expr.documents (expr : Expr) : List Json.Document :=
  expr.contents.filterMap Content.document?

/-- The placeholders among the tokens of pieces are numbered on from the parameters before
    them, one for each document. -/
theorem params_tokensFrom (index : Nat) (pieces : List Piece) :
    (tokensFrom index pieces).filterMap Token.param? =
      List.range' (index + 1) (pieces.filterMap Piece.document?).length := by
  induction pieces generalizing index with
  | nil => rfl
  | cons piece rest ih =>
      rw [tokensFrom, List.filterMap_append, ih]
      cases piece with
      | integer value =>
          -- A number may be two tokens, but neither is a placeholder.
          rw [Piece.tokens]
          split <;> rfl
      | word | mark | blank | name | literal | param => rfl

/-- The documents that pieces bind are those among their contents. -/
theorem documents_contentsOf (pieces : List Piece) :
    (contentsOf pieces).filterMap Content.document? = pieces.filterMap Piece.document? := by
  have hpiece : (fun piece => (Piece.content? piece).bind Content.document?) =
      Piece.document? := by
    funext piece
    cases piece <;> rfl
  rw [contentsOf, List.filterMap_filterMap, hpiece]

theorem Statement.documents_pieces (statement : Statement) :
    statement.pieces.filterMap Piece.document? = statement.documents := by
  rw [documents, ← statement.contentsOf_pieces, documents_contentsOf]

theorem Expr.documents_pieces (expr : Expr) :
    expr.pieces.filterMap Piece.document? = expr.documents := by
  rw [documents, ← expr.contentsOf_pieces, documents_contentsOf]

/-- A text goes on from another one and binds documents: it has their text and their
    parameters, and behind them its own, and the placeholders of its own text are numbered
    on from the parameters that were there, whatever the setting of the server. -/
structure Text.Continues (sql : Text) (documents : List Json.Document) (longer : Text) :
    Prop where
  params : longer.params = sql.params ++ documents
  paramIndex : longer.paramIndex = sql.paramIndex + documents.length
  text : ∃ added tokens, longer.text = sql.text ++ added ∧
    (∀ standard, Scanner.tokens standard added = some tokens) ∧
      tokens.filterMap Token.param? = List.range' (sql.paramIndex + 1) documents.length

/-- A text binds documents: they are its parameters, and the placeholders of the text are
    numbered from 1. -/
structure Text.Binds (documents : List Json.Document) (sql : Text) : Prop where
  params : sql.params = documents
  paramIndex : sql.paramIndex = sql.params.length
  text : ∃ tokens, (∀ standard, Scanner.tokens standard sql.text = some tokens) ∧
    tokens.filterMap Token.param? = List.range' 1 documents.length

namespace Text

/-- If the last parameter had the number of the parameters, then it still has. -/
theorem Continues.counted {sql longer : Text} {documents : List Json.Document}
    (h : sql.Continues documents longer) (hcounted : sql.paramIndex = sql.params.length) :
    longer.paramIndex = longer.params.length := by
  rw [h.paramIndex, h.params, List.length_append, hcounted]

/-- A text that goes on from nothing binds its documents. -/
theorem Continues.fresh {sql : Text} {documents : List Json.Document}
    (h : empty.Continues documents sql) : sql.Binds documents := by
  rcases h.text with ⟨added, tokens, htext, htokens, hnumbers⟩
  have hadded : sql.text = added := htext.trans String.empty_append
  refine ⟨h.params, h.counted rfl, tokens, fun standard => ?_, hnumbers⟩
  rw [hadded]
  exact htokens standard

/-- A phrase that is appended goes on from what was there. -/
theorem continues_appendAll (sql : Text) {pieces : List Piece} (phrase : Phrase pieces) :
    sql.Continues (pieces.filterMap Piece.document?) (sql.appendAll pieces) := by
  rw [appendAll_eq]
  exact ⟨rfl, countFrom_eq _ _, _, tokensFrom sql.paramIndex pieces, rfl,
    fun standard => phrase.cut_after standard _, params_tokensFrom _ _⟩

end Text

theorem Statement.continues (sql : Text) (statement : Statement) :
    sql.Continues statement.documents (sql.appendAll statement.pieces) := by
  rw [← statement.documents_pieces]
  exact sql.continues_appendAll statement.phrase

theorem Expr.continues (sql : Text) (expr : Expr) :
    sql.Continues expr.documents (sql.appendAll expr.pieces) := by
  rw [← expr.documents_pieces]
  exact sql.continues_appendAll expr.phrase

end Sql

end Registrar
