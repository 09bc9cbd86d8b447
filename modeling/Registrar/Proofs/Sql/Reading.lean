import Registrar.Proofs.Sql.Contents
import Registrar.Proofs.Sql.Written

/-!
# Reading Statements Back

The text of a statement is read as exactly the tokens that the statement stands
for, whatever its names and strings hold. This is all that stands between the text
of a request and the database, because strings are written into statements and not
bound to them.

`tokens_text` also says what those tokens hold: one for each name and one for each
string of the statement, decoding to that very name or string, in their order, and
no others of their kind. The setting of the server that decides about backslashes
makes no difference.

## Main definitions

* `Statement.tokens`, `Expr.tokens`: The tokens that a statement stands for.

## Theorems

* `names_tokensFrom`, `literals_tokensFrom`: The names and strings among the tokens
  are those among the contents.
* `Phrase.cut_after`, `Phrase.cut`: The text of a phrase is cut into its tokens.
* `tokens_text`: The text of a statement is cut into the tokens, and the tokens hold the contents.
-/

namespace Registrar

namespace Sql

namespace Token

/-- The name that a token is. -/
def name? : Token → Option String
  | name value => some value
  | _ => none

/-- The string that a token is. -/
def literal? : Token → Option String
  | literal value => some value
  | _ => none

end Token

/-- The tokens that a statement stands for: one for each of its pieces, blanks
    apart, with parameters numbered from 1. -/
def Statement.tokens (statement : Statement) : List Token :=
  tokensFrom 0 statement.pieces

/-- The tokens that an expression stands for. -/
def Expr.tokens (expr : Expr) : List Token :=
  tokensFrom 0 expr.pieces

/-- What is picked out of tokens is picked out of contents, if every piece on its own
    agrees. -/
theorem filterMap_tokensFrom {ofToken : Token → Option String} {ofContent : Content → Option String}
    (h : ∀ index piece, (Piece.tokens index piece).filterMap ofToken =
      (contentsOf [piece]).filterMap ofContent) (index : Nat) (pieces : List Piece) :
    (tokensFrom index pieces).filterMap ofToken = (contentsOf pieces).filterMap ofContent := by
  induction pieces generalizing index with
  | nil => rfl
  | cons piece pieces ih =>
      rw [tokensFrom, List.filterMap_append, h, ih, ← List.filterMap_append, ← contentsOf_append,
        List.singleton_append]

theorem names_tokensFrom (index : Nat) (pieces : List Piece) :
    (tokensFrom index pieces).filterMap Token.name? =
      (contentsOf pieces).filterMap Content.name? := by
  -- A number may be two tokens, but neither is a name.
  refine filterMap_tokensFrom (fun index piece => ?_) index pieces
  cases piece with
  | integer value =>
      rw [Piece.tokens]
      split <;> rfl
  | word | mark | blank | name | literal | param => rfl

theorem literals_tokensFrom (index : Nat) (pieces : List Piece) :
    (tokensFrom index pieces).filterMap Token.literal? =
      (contentsOf pieces).filterMap Content.literal? := by
  refine filterMap_tokensFrom (fun index piece => ?_) index pieces
  cases piece with
  | integer value =>
      rw [Piece.tokens]
      split <;> rfl
  | word | mark | blank | name | literal | param => rfl

/-- The text of a phrase, which may come after parameters, is cut into its tokens. -/
theorem Phrase.cut_after {pieces : List Piece} (h : Phrase pieces) (standard : Bool)
    (index : Nat) : Scanner.tokens standard (String.ofList (charsFrom index pieces)) =
      some (tokensFrom index pieces) := by
  -- At the end of the text everything is delimited.
  have hcuts := Scanner.cuts_of_phrase standard h index [] rfl
  rw [List.append_nil] at hcuts
  rw [Scanner.tokens, String.toList_ofList, hcuts]
  exact congrArg some (List.append_nil _)

/-- The text of a phrase that stands alone is cut into its tokens. -/
theorem Phrase.cut {pieces : List Piece} (h : Phrase pieces) (standard : Bool) :
    Scanner.tokens standard (Text.ofPieces pieces).text = some (tokensFrom 0 pieces) := by
  rw [← String.ofList_toList (s := (Text.ofPieces pieces).text), Text.toList_ofPieces]
  exact h.cut_after standard 0

/-- Whatever the names and strings of a statement hold, its text is cut into the
    tokens of the statement, and the names and strings among these are those of the
    statement. -/
theorem tokens_text (standard : Bool) :
    (∀ statement : Statement,
      Scanner.tokens standard statement.text.text = some statement.tokens ∧
      statement.tokens.filterMap Token.name? = statement.contents.filterMap Content.name? ∧
      statement.tokens.filterMap Token.literal? =
        statement.contents.filterMap Content.literal?) ∧
    ∀ expr : Expr,
      Scanner.tokens standard expr.text.text = some expr.tokens ∧
      expr.tokens.filterMap Token.name? = expr.contents.filterMap Content.name? ∧
      expr.tokens.filterMap Token.literal? = expr.contents.filterMap Content.literal? := by
  constructor
  · intro statement
    refine ⟨statement.phrase.cut standard, ?_, ?_⟩
    · rw [Statement.tokens, names_tokensFrom, statement.contentsOf_pieces]
    · rw [Statement.tokens, literals_tokensFrom, statement.contentsOf_pieces]
  · intro expr
    refine ⟨expr.phrase.cut standard, ?_, ?_⟩
    · rw [Expr.tokens, names_tokensFrom, expr.contentsOf_pieces]
    · rw [Expr.tokens, literals_tokensFrom, expr.contentsOf_pieces]

end Sql

end Registrar
