import Registrar.Proofs.Sql.Canonical
import Registrar.Proofs.Sql.Reader

/-!
# A Grammar of Statements

How statements are read back from their significant pieces. The first piece tells what is
coming, except after the left operand in a parenthesis, where the next piece tells which
operator it is, and after a column, which goes on if a point does. No operator has a
precedence: what belongs together is in parentheses.

Expressions and selections contain each other, so a grammar of a certain depth is made from
the one below, and every reader is told the readers of the parts. What one step of this can
read is therefore proved from what the readers of the parts can read, with no recursion.

## Main definitions

* `ends`: What may stand after a part of a statement.
* `Grammar`: Readers for expressions and selections.
* `Grammar.step`, `Grammar.ofDepth`: The readers of the next depth, and of any depth.
* `Grammar.statement`: Read a statement.
-/

namespace Registrar

namespace Sql

/-- The function of a name. -/
def Function.ofName? : String → Option Function
  | "coalesce" => some coalesce
  | "json_agg" => some jsonAgg
  | "jsonb_populate_record" => some jsonbPopulateRecord
  | "string_agg" => some stringAgg
  | _ => none

theorem Function.ofName?_name (function : Function) : ofName? function.name = some function := by
  cases function <;> rfl

/-- The words that begin the clauses of a selection, in their order. -/
def clauseWords : List String := ["FROM", "WHERE", "GROUP", "ORDER", "LIMIT", "OFFSET"]

/-- Whether a part of a statement may end before pieces, or go on with one of some clauses. -/
def ends (words : List String) : List Piece → Bool
  | [] => true
  | .mark symbol :: _ => symbol = ")"
  | .word letters :: _ => letters ∈ "RETURNING" :: words
  | _ => false

/-- Readers for expressions and selections. -/
structure Grammar where
  expr : Reader Expr
  select : Reader Select

namespace Grammar

open Reader

/-- Read a reference to a table. -/
def tableRef : Reader TableRef := do
  let first ← name
  ifMark "." (do
    let second ← name
    pure (.table first second)) (pure (.known first))

/-- Read a type. -/
def typeName : Reader TypeName := do
  let first ← name
  ifMark "." (do
    let second ← name
    pure (.qualified first second)) (pure (.named first))

/-- Read a column. -/
def column : Reader Expr := do
  let first ← name
  mark "."
  let second ← name
  ifMark "." (do
    let third ← name
    pure (.column (.table first second) third)) (pure (.column (.known first) second))

/-- Read a direction. -/
def direction : Reader Direction
  | .word "ASC" :: rest => some (.ascending, rest)
  | .word "DESC" :: rest => some (.descending, rest)
  | _ => none

/-- Read an alias. -/
def label : Reader String := do
  word "AS"
  name

/-- Read a limit or an offset, if there is one. -/
def amount (keyword : String) : Reader (Option Nat) :=
  ifWord keyword (do
    let n ← number
    pure (some n)) (pure none)

/-- Read an operator between two operands. -/
def operator : Reader (Expr → Expr → Expr)
  | .word "AND" :: rest => some (.and, rest)
  | .word "OR" :: rest => some (.or, rest)
  | .mark "=" :: rest => some (.binary .equals, rest)
  | .mark "<>" :: rest => some (.binary .notEquals, rest)
  | .mark ">" :: rest => some (.binary .greaterThan, rest)
  | .word "LIKE" :: rest => some (.binary .like, rest)
  | .word "NOT" :: .word "LIKE" :: rest => some (.binary .notLike, rest)
  | _ => none

/-- Read a test after its first word. -/
def test : Reader UnaryOp
  | .word "NULL" :: rest => some (.isNull, rest)
  | .word "TRUE" :: rest => some (.isTrue, rest)
  | .word "FALSE" :: rest => some (.isFalse, rest)
  | .word "NOT" :: .word "NULL" :: rest => some (.isNotNull, rest)
  | .word "NOT" :: .word "TRUE" :: rest => some (.isNotTrue, rest)
  | .word "NOT" :: .word "FALSE" :: rest => some (.isNotFalse, rest)
  | _ => none

/-- Read what comes after the left operand in a parenthesis. -/
def operation (expr : Reader Expr) (left : Expr) : Reader Expr :=
  ifWord "IS" (do
    let op ← test
    pure (.unary op left)) (do
    let join ← operator
    let right ← expr
    pure (join left right))

/-- Read expressions up to the closing parenthesis. -/
def closed (expr : Reader Expr) (n : Nat) : Reader (List Expr) :=
  ifMark ")" (pure []) (do
    let exprs ← separated expr n
    mark ")"
    pure exprs)

/-- Read the arguments of a function: those of an aggregation if they are distinct. -/
def call (expr : Reader Expr) (n : Nat) (function : Function) : Reader Expr := do
  mark "("
  ifWord "DISTINCT"
    (closed expr n >>= fun args => pure (.aggregate function true args))
    (closed expr n >>= fun args => pure (.call function args))

/-- Read the arms of a case distinction. -/
def arms (expr : Reader Expr) : Nat → Reader (List (Expr × Expr))
  | 0 => fail
  | n + 1 =>
    ifWord "WHEN" (do
      let condition ← expr
      word "THEN"
      let result ← expr
      let more ← arms expr n
      pure ((condition, result) :: more)) (pure [])

/-- Read what comes after the first word of an expression. -/
def afterWord (grammar : Grammar) (n : Nat) : String → Reader Expr
  | "CASE" => do
    let whens ← arms grammar.expr n
    word "ELSE"
    let otherwise ← grammar.expr
    word "END"
    pure (.case whens otherwise)
  | "EXISTS" => do
    mark "("
    let select ← grammar.select
    mark ")"
    pure (.exists select)
  | "row_to_json" => do
    mark "("
    let table ← tableRef
    mark ")"
    pure (.rowToJson table)
  | "CAST" => do
    mark "("
    let operand ← grammar.expr
    word "AS"
    let type ← typeName
    mark ")"
    pure (.cast operand type)
  | "COUNT" => do
    mark "("
    let counted ← ifMark "*" (pure .countAll) (do
      word "DISTINCT"
      let operand ← grammar.expr
      pure (.countDistinct operand))
    mark ")"
    pure counted
  | "true" => pure (.value (.bool true))
  | "false" => pure (.value (.bool false))
  | "NULL" => pure (.value .null)
  | letters =>
    match Function.ofName? letters with
    | some function => call grammar.expr n function
    | none => fail

/-- Read an expression, given how its parts are read. -/
def stepExpr (grammar : Grammar) (n : Nat) : Reader Expr
  | .word letters :: rest => afterWord grammar n letters rest
  | .name value :: rest => column (.name value :: rest)
  | .integer value :: rest => some (.value (.int value), rest)
  | .literal value :: rest => some (.value (.string value), rest)
  | .param document :: rest => some (.value (.json document), rest)
  | pieces => (do
      mark "("
      let left ← grammar.expr
      let whole ← operation grammar.expr left
      mark ")"
      pure whole : Reader Expr) pieces

/-- Whether pieces begin with the number 1, not under an alias. -/
def beginsWithOne : List Piece → Bool
  | .integer value :: rest => value = 1 && !beginsWithWord "AS" rest
  | _ => false

/-- Read an expression under an alias. -/
def aliased (expr : Reader Expr) : Reader (String × Expr) := do
  let e ← expr
  let label ← label
  pure (label, e)

/-- Read an expression of an ordering. -/
def ordered (expr : Reader Expr) : Reader (Expr × Direction) := do
  let e ← expr
  let direction ← direction
  pure (e, direction)

/-- Read what a selection returns. -/
def selectList (expr : Reader Expr) (n : Nat) : Reader SelectList := fun pieces =>
  if beginsWithOne pieces then some (.one, pieces.tail)
  else if ends clauseWords pieces then some (.columns [], pieces)
  else (do
    let entries ← separated (aliased expr) n
    pure (.columns entries) : Reader SelectList) pieces

/-- Read what comes after the word that begins a source of rows. -/
def source (grammar : Grammar) (n : Nat) : Reader Source
  | .word letters :: rest =>
    match Function.ofName? letters with
    | some function => (do
        mark "("
        let args ← closed grammar.expr n
        let label ← label
        pure (.call function args label) : Reader Source) rest
    | none => none
  | pieces => ifMark "("
      (do
        let select ← grammar.select
        mark ")"
        let label ← label
        pure (.select select label))
      (do
        let table ← tableRef
        let label ← label
        pure (.table table label)) pieces

/-- Read a source of rows, if there is one. -/
def sourceOption (grammar : Grammar) (n : Nat) : Reader (Option Source) :=
  ifWord "FROM" (do
    let source ← source grammar n
    pure (some source)) (pure none)

/-- Read a condition, which holds if there is none. -/
def condition (grammar : Grammar) : Reader Expr :=
  ifWord "WHERE" grammar.expr (pure (.value (.bool true)))

/-- Read a selection, given how its parts are read. -/
def stepSelect (grammar : Grammar) (n : Nat) : Reader Select := do
  word "SELECT"
  let list ← selectList grammar.expr n
  let source ← sourceOption grammar n
  let condition ← condition grammar
  let groupBy ← ifWord "GROUP" (do
    word "BY"
    separated grammar.expr n) (pure [])
  let orderBy ← ifWord "ORDER" (do
    word "BY"
    separated (ordered grammar.expr) n) (pure [])
  let limit ← amount "LIMIT"
  let offset ← amount "OFFSET"
  pure ⟨list, source, condition, groupBy, orderBy, limit, offset⟩

/-- The readers of the next depth. -/
def step (grammar : Grammar) (n : Nat) : Grammar :=
  ⟨stepExpr grammar n, stepSelect grammar n⟩

/-- The grammar of a depth. -/
def ofDepth : Nat → Grammar
  | 0 => ⟨fail, fail⟩
  | n + 1 => (ofDepth n).step n

/-- Read the source of an insertion. -/
def insertFrom (grammar : Grammar) : Reader InsertFrom :=
  ifWord "DEFAULT" (do
    word "VALUES"
    pure .defaults) (do
    let select ← grammar.select
    pure (.select select))

/-- Read an insertion. -/
def insert (grammar : Grammar) (n : Nat) : Reader Insert := do
  word "INSERT"
  word "INTO"
  let schema ← name
  mark "."
  let table ← name
  let columns ← ifMark "(" (do
    let columns ← separated name n
    mark ")"
    pure columns) (pure [])
  let source ← insertFrom grammar
  word "RETURNING"
  let returning ← selectList grammar.expr n
  pure ⟨schema, table, columns, source, returning⟩

/-- Read the assignments of an update. -/
def assignments (expr : Reader Expr) (n : Nat) : Reader (List (String × Expr)) := fun pieces =>
  if ends clauseWords pieces then some ([], pieces)
  else separated (do
    let key ← name
    mark "="
    let value ← expr
    pure (key, value)) n pieces

/-- Read nothing and make an update, whose assignments have to be in order. -/
def updateOf (schema table label : String) (entries : List (String × Expr))
    (source : Option Source) (condition : Expr) : Reader Update :=
  if h : entries.Pairwise fun a b => a.1 < b.1 then
    pure ⟨schema, table, label, ⟨entries, h⟩, source, condition⟩
  else fail

/-- Read an update. -/
def update (grammar : Grammar) (n : Nat) : Reader Update := do
  word "UPDATE"
  let schema ← name
  mark "."
  let table ← name
  let label ← label
  word "SET"
  let entries ← assignments grammar.expr n
  let source ← sourceOption grammar n
  let condition ← condition grammar
  updateOf schema table label entries source condition

/-- Read a removal. -/
def delete (grammar : Grammar) (n : Nat) : Reader Delete := do
  word "DELETE"
  word "FROM"
  let source ← source grammar n
  let condition ← condition grammar
  pure ⟨source, condition⟩

/-- Read a statement. -/
def statement (grammar : Grammar) (n : Nat) : Reader Statement
  | .word "INSERT" :: rest =>
    (insert grammar n >>= fun inner => pure (.insert inner) : Reader Statement)
      (.word "INSERT" :: rest)
  | .word "UPDATE" :: rest =>
    (update grammar n >>= fun inner => pure (.update inner) : Reader Statement)
      (.word "UPDATE" :: rest)
  | .word "DELETE" :: rest =>
    (delete grammar n >>= fun inner => pure (.delete inner) : Reader Statement)
      (.word "DELETE" :: rest)
  | pieces => (grammar.select >>= fun inner => pure (.select inner) : Reader Statement) pieces

end Grammar

end Sql

end Registrar
