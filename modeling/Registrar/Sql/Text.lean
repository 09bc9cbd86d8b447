import Registrar.Json.Document

/-!
# SQL Text

A statement on the wire is a text and the documents bound to its parameters
`$1`, `$2`, …. A text is assembled from pieces: words, marks and blanks that
belong to the language, and names, strings, integers and documents that come
from elsewhere. Names and strings are quoted as they are appended, so that no
content can end its own quotes.

A string that holds a backslash takes the form `E'…'`, in which the backslash is
doubled, because the plain form would read it differently depending on a setting
of the server.

## Main definitions

* `Sql.Text`: A text with its parameters.
* `Text.appendVerbatim`, `Text.appendName`, `Text.appendLiteral`,
  `Text.appendParam`: The four ways a text grows.
* `Piece`: One piece of a statement.
* `Text.ofPieces`: The text of a list of pieces.
-/

namespace Registrar

namespace Sql

/-- A statement's text and the documents bound to its parameters. `paramIndex` is
    the number of the last parameter. -/
structure Text where
  text : String
  params : List Json.Document
  paramIndex : Nat
  deriving Repr, Inhabited

/-- Every occurrence of a character, doubled. -/
def doubled (mark : Char) (text : List Char) : List Char :=
  text.flatMap fun c => if c = mark then [c, c] else [c]

theorem doubled_nil (mark : Char) : doubled mark [] = [] := rfl

theorem doubled_cons_self (mark : Char) (text : List Char) :
    doubled mark (mark :: text) = mark :: mark :: doubled mark text := by
  rw [doubled, List.flatMap_cons, if_pos rfl]
  rfl

theorem doubled_cons_of_ne {mark c : Char} (h : c ≠ mark) (text : List Char) :
    doubled mark (c :: text) = c :: doubled mark text := by
  rw [doubled, List.flatMap_cons, if_neg h]
  rfl

/-- Doubling a mark brings in no other character. -/
theorem mem_doubled_iff {mark c : Char} {text : List Char} : c ∈ doubled mark text ↔ c ∈ text := by
  induction text with
  | nil => exact Iff.rfl
  | cons d text ih =>
      by_cases h : d = mark
      · rw [h, doubled_cons_self, List.mem_cons, List.mem_cons, List.mem_cons, ih, or_self_left]
      · rw [doubled_cons_of_ne h, List.mem_cons, List.mem_cons, ih]

/-- A name in double quotes, with quotes inside doubled. -/
def quoteName (name : String) : String :=
  String.ofList ('"' :: doubled '"' name.toList ++ ['"'])

/-- A string in single quotes, with quotes inside doubled. One that holds a
    backslash is written as an escape string, with backslashes doubled too. -/
def quoteLiteral (value : String) : String :=
  let body := doubled '\'' value.toList
  if '\\' ∈ body then String.ofList ('E' :: '\'' :: doubled '\\' body ++ ['\''])
  else String.ofList ('\'' :: body ++ ['\''])

namespace Text

/-- Nothing yet. -/
def empty : Text := ⟨"", [], 0⟩

/-- Append text of the language as it is. -/
def appendVerbatim (sql : Text) (text : String) : Text :=
  { sql with text := sql.text ++ text }

/-- Append a quoted name. -/
def appendName (sql : Text) (name : String) : Text :=
  sql.appendVerbatim (quoteName name)

/-- Append a quoted string. -/
def appendLiteral (sql : Text) (value : String) : Text :=
  sql.appendVerbatim (quoteLiteral value)

/-- Append the next parameter and bind a document to it. -/
def appendParam (sql : Text) (document : Json.Document) : Text :=
  let index := sql.paramIndex + 1
  ⟨sql.text ++ "$" ++ toString index, sql.params ++ [document], index⟩

end Text

/-- A piece of a statement. -/
inductive Piece
  | word (letters : String)
  | mark (symbol : String)
  | blank
  | integer (value : Int)
  | name (value : String)
  | literal (value : String)
  | param (document : Json.Document)
  deriving Repr

namespace Text

/-- Append a piece. -/
def append (sql : Text) : Piece → Text
  | .word letters => sql.appendVerbatim letters
  | .mark symbol => sql.appendVerbatim symbol
  | .blank => sql.appendVerbatim " "
  | .integer value => sql.appendVerbatim (toString value)
  | .name value => sql.appendName value
  | .literal value => sql.appendLiteral value
  | .param document => sql.appendParam document

/-- Append pieces one after another. -/
def appendAll (sql : Text) (pieces : List Piece) : Text :=
  pieces.foldl append sql

/-- The text of a list of pieces. -/
def ofPieces (pieces : List Piece) : Text :=
  empty.appendAll pieces

theorem appendAll_append (sql : Text) (first second : List Piece) :
    sql.appendAll (first ++ second) = (sql.appendAll first).appendAll second :=
  List.foldl_append

end Text

end Sql

end Registrar
