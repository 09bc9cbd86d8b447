import Registrar.Sql.Statement
import Registrar.Sql.Text

/-!
# Writing Statements

Every statement has its pieces, defined by recursion on the statement, and its
text is the text of the pieces. The pieces are what a reader of the text finds
again: one word, mark, name, literal or parameter each, in order, with blanks in
between. And, or, comparisons and tests are always put in parentheses, so that
the text never leans on precedence.

A condition that is the value `true` is not written at all, and neither are an
empty grouping, an empty ordering and absent limits.

## Main definitions

* `Expr.pieces`, `Select.pieces`, `Source.pieces`: The pieces of the parts.
* `Statement.pieces`: The pieces of a statement.
* `Statement.text`, `Select.text`: The written forms.
-/

namespace Registrar

namespace Sql

/-- Words with blanks between them. -/
def words : List String → List Piece
  | [] => []
  | [letters] => [.word letters]
  | letters :: rest => .word letters :: .blank :: words rest

/-- The pieces between two neighbours in a list. -/
def comma : List Piece := [.mark ",", .blank]

/-- Lists of pieces with commas between them. -/
def commaSeparated : List (List Piece) → List Piece
  | [] => []
  | [item] => item
  | item :: rest => item ++ comma ++ commaSeparated rest

/-- Pieces in parentheses. -/
def parenthesised (inside : List Piece) : List Piece :=
  .mark "(" :: inside ++ [.mark ")"]

/-- A name in a schema. -/
def qualified (schema name : String) : List Piece :=
  [.name schema, .mark ".", .name name]

/-- A clause that begins with its words, after a blank. -/
def clause (keywords : List String) (body : List Piece) : List Piece :=
  .blank :: words keywords ++ .blank :: body

/-- The alias of a table or an expression. -/
def aliased (label : String) : List Piece :=
  clause ["AS"] [.name label]

namespace TableRef

/-- The pieces of a reference to a table. -/
def pieces : TableRef → List Piece
  | table schema name => qualified schema name
  | known name => [.name name]

end TableRef

namespace Function

/-- The name of a function. -/
def name : Function → String
  | coalesce => "coalesce"
  | jsonAgg => "json_agg"
  | jsonbPopulateRecord => "jsonb_populate_record"
  | stringAgg => "string_agg"

end Function

namespace BinaryOp

/-- The pieces of a comparison between its operands. -/
def pieces : BinaryOp → List Piece
  | equals => [.mark "="]
  | notEquals => [.mark "<>"]
  | greaterThan => [.mark ">"]
  | like => words ["LIKE"]
  | notLike => words ["NOT", "LIKE"]

end BinaryOp

namespace UnaryOp

/-- The words of a test after its operand. -/
def keywords : UnaryOp → List String
  | isNull => ["IS", "NULL"]
  | isNotNull => ["IS", "NOT", "NULL"]
  | isTrue => ["IS", "TRUE"]
  | isNotTrue => ["IS", "NOT", "TRUE"]
  | isFalse => ["IS", "FALSE"]
  | isNotFalse => ["IS", "NOT", "FALSE"]

end UnaryOp

namespace TypeName

/-- The pieces of a type. -/
def pieces : TypeName → List Piece
  | qualified schema name => Sql.qualified schema name
  | named name => [.name name]

end TypeName

namespace Value

/-- The pieces of a value. -/
def pieces : Value → List Piece
  | int value => [.integer value]
  | bool true => [.word "true"]
  | bool false => [.word "false"]
  | string value => [.literal value]
  | null => [.word "NULL"]
  | json document => [.param document]
  | emptyJsonArray => [.literal "[]"]

end Value

namespace Direction

/-- The word of a direction. -/
def keyword : Direction → String
  | ascending => "ASC"
  | descending => "DESC"

end Direction

/-- A limit or an offset, if there is one. -/
def amount (keyword : String) : Option Nat → List Piece
  | none => []
  | some n => clause [keyword] [.integer n]

/-- A clause with a list, if the list is not empty. -/
def listClause (keywords : List String) (items : List (List Piece)) : List Piece :=
  if items.isEmpty then [] else clause keywords (commaSeparated items)

/-- Whether a condition is the value `true`, which restricts nothing. -/
def Expr.isTrivial : Expr → Bool
  | .value (.bool Bool.true) => Bool.true
  | _ => Bool.false

theorem Expr.isTrivial_iff {condition : Expr} :
    condition.isTrivial ↔ condition = .value (.bool Bool.true) := by
  constructor
  · intro h
    rw [isTrivial.eq_def] at h
    split at h
    · rfl
    · exact absurd h Bool.false_ne_true
  · intro h
    rw [h]
    rfl

/-- The clause of a condition, given its pieces. -/
def whereClause (condition : Expr) (pieces : List Piece) : List Piece :=
  if condition.isTrivial then [] else clause ["WHERE"] pieces

mutual

/-- The pieces of an expression. -/
def Expr.pieces : Expr → List Piece
  | .and left right => parenthesised (left.pieces ++ clause ["AND"] right.pieces)
  | .or left right => parenthesised (left.pieces ++ clause ["OR"] right.pieces)
  | .binary op left right =>
    parenthesised (left.pieces ++ .blank :: op.pieces ++ .blank :: right.pieces)
  | .unary op operand => parenthesised (operand.pieces ++ .blank :: words op.keywords)
  | .call function args =>
    .word function.name :: parenthesised (commaSeparated (Expr.piecesOfAll args))
  | .aggregate function distinct args =>
    .word function.name :: parenthesised
      ((if distinct then [.word "DISTINCT", .blank] else []) ++
        commaSeparated (Expr.piecesOfAll args))
  | .case whens otherwise =>
    .word "CASE" :: Expr.piecesOfWhens whens ++ clause ["ELSE"] otherwise.pieces ++
      [.blank, .word "END"]
  | .exists select => .word "EXISTS" :: .blank :: parenthesised select.pieces
  | .rowToJson table => .word "row_to_json" :: parenthesised table.pieces
  | .column table name => table.pieces ++ [.mark ".", .name name]
  | .value value => value.pieces
  | .cast operand type =>
    .word "CAST" :: parenthesised (operand.pieces ++ clause ["AS"] type.pieces)
  | .countAll => .word "COUNT" :: parenthesised [.mark "*"]
  | .countDistinct operand =>
    .word "COUNT" :: parenthesised (.word "DISTINCT" :: .blank :: operand.pieces)

/-- The pieces of each expression of a list. -/
def Expr.piecesOfAll : List Expr → List (List Piece)
  | [] => []
  | expr :: rest => expr.pieces :: Expr.piecesOfAll rest

/-- The arms of a case distinction. -/
def Expr.piecesOfWhens : List (Expr × Expr) → List Piece
  | [] => []
  | (condition, result) :: rest =>
    clause ["WHEN"] condition.pieces ++ clause ["THEN"] result.pieces ++ Expr.piecesOfWhens rest

/-- The pieces of each expression of a list under its alias. -/
def Expr.piecesOfAliased : List (String × Expr) → List (List Piece)
  | [] => []
  | (label, expr) :: rest => (expr.pieces ++ aliased label) :: Expr.piecesOfAliased rest

/-- The pieces of each expression of an ordering with its direction. -/
def Expr.piecesOfOrdered : List (Expr × Direction) → List (List Piece)
  | [] => []
  | (expr, direction) :: rest =>
    (expr.pieces ++ [.blank, .word direction.keyword]) :: Expr.piecesOfOrdered rest

/-- The pieces of what a selection returns. -/
def SelectList.pieces : SelectList → List Piece
  | .one => [.integer 1]
  | .columns entries => commaSeparated (Expr.piecesOfAliased entries)

/-- The pieces of a source of rows. -/
def Source.pieces : Source → List Piece
  | .table table label => .word "FROM" :: .blank :: table.pieces ++ aliased label
  | .select select label =>
    .word "FROM" :: .blank :: parenthesised select.pieces ++ aliased label
  | .call function args label =>
    .word "FROM" :: .blank :: .word function.name ::
      parenthesised (commaSeparated (Expr.piecesOfAll args)) ++ aliased label

/-- The pieces of a source, after a blank, if there is one. -/
def Source.piecesOfOption : Option Source → List Piece
  | none => []
  | some source => .blank :: source.pieces

/-- The pieces of a selection. -/
def Select.pieces : Select → List Piece
  | ⟨list, source, condition, groupBy, orderBy, limit, offset⟩ =>
    .word "SELECT" :: .blank :: list.pieces ++ Source.piecesOfOption source ++
      whereClause condition condition.pieces ++
      listClause ["GROUP", "BY"] (Expr.piecesOfAll groupBy) ++
      listClause ["ORDER", "BY"] (Expr.piecesOfOrdered orderBy) ++
      amount "LIMIT" limit ++ amount "OFFSET" offset

end

namespace InsertFrom

/-- The pieces of the source of an insertion. -/
def pieces : InsertFrom → List Piece
  | .defaults => words ["DEFAULT", "VALUES"]
  | .select inner => inner.pieces

end InsertFrom

namespace Insert

/-- The pieces of an insertion. -/
def pieces (insert : Insert) : List Piece :=
  words ["INSERT", "INTO"] ++ .blank :: qualified insert.schema insert.table ++
    (if insert.columns.isEmpty then []
     else parenthesised (commaSeparated (insert.columns.map fun column => [.name column]))) ++
    .blank :: insert.source.pieces ++ clause ["RETURNING"] insert.returning.pieces

end Insert

namespace Update

/-- The pieces of an update. -/
def pieces (update : Update) : List Piece :=
  .word "UPDATE" :: .blank :: qualified update.schema update.table ++ aliased update.label ++
    clause ["SET"] (commaSeparated (update.set.entries.map fun entry =>
      .name entry.1 :: .blank :: .mark "=" :: .blank :: entry.2.pieces)) ++
    Source.piecesOfOption update.source ++
    whereClause update.condition update.condition.pieces

end Update

namespace Delete

/-- The pieces of a removal. -/
def pieces (delete : Delete) : List Piece :=
  .word "DELETE" :: .blank :: delete.source.pieces ++
    whereClause delete.condition delete.condition.pieces

end Delete

namespace Statement

/-- The pieces of a statement. -/
def pieces : Statement → List Piece
  | .select inner => inner.pieces
  | .insert inner => inner.pieces
  | .update inner => inner.pieces
  | .delete inner => inner.pieces

/-- The written form of a statement. -/
def text (statement : Statement) : Text :=
  Text.ofPieces statement.pieces

end Statement

/-- The written form of a selection. -/
def Select.text (select : Select) : Text :=
  Text.ofPieces select.pieces

/-- The written form of an expression. -/
def Expr.text (expr : Expr) : Text :=
  Text.ofPieces expr.pieces

end Sql

end Registrar
