import Registrar.Sql.Render

/-!
# Canonical Statements

Two things can be said in two ways each that are written alike: an aggregation without
`DISTINCT` is written like a call of its function, and an empty JSON array like the string
`[]`. The canonical form of a statement says each of them in one way throughout, and is
written like the statement itself.

## Main definitions

* `Value.canonical`, `Expr.canonical`, `Select.canonical`: The canonical forms of parts.
* `Statement.canonical`: The canonical form of a statement.

## Theorems

* `Expr.piecesOfAll_eq` and its like: Lists of parts are written part by part.
* `Expr.pieces_canonical`, `Select.pieces_canonical`: The canonical forms are written alike.
* `Statement.pieces_canonical`: The same for statements.
-/

namespace Registrar

namespace Sql

/-- The empty array is a string. -/
def Value.canonical : Value → Value
  | emptyJsonArray => string "[]"
  | value => value

mutual

/-- An aggregation of all values, distinct or not, is a call. -/
def Expr.canonical : Expr → Expr
  | .and left right => .and left.canonical right.canonical
  | .or left right => .or left.canonical right.canonical
  | .binary op left right => .binary op left.canonical right.canonical
  | .unary op operand => .unary op operand.canonical
  | .call function args => .call function (Expr.canonicalAll args)
  | .aggregate function false args => .call function (Expr.canonicalAll args)
  | .aggregate function true args => .aggregate function true (Expr.canonicalAll args)
  | .case whens otherwise => .case (Expr.canonicalWhens whens) otherwise.canonical
  | .exists select => .exists select.canonical
  | .rowToJson table => .rowToJson table
  | .column table name => .column table name
  | .value value => .value value.canonical
  | .cast operand type => .cast operand.canonical type
  | .countAll => .countAll
  | .countDistinct operand => .countDistinct operand.canonical

/-- Every expression of a list. -/
def Expr.canonicalAll : List Expr → List Expr
  | [] => []
  | expr :: rest => expr.canonical :: Expr.canonicalAll rest

/-- Every arm of a case distinction. -/
def Expr.canonicalWhens : List (Expr × Expr) → List (Expr × Expr)
  | [] => []
  | (condition, result) :: rest =>
    (condition.canonical, result.canonical) :: Expr.canonicalWhens rest

/-- Every expression of a list, under its alias. -/
def Expr.canonicalAliased : List (String × Expr) → List (String × Expr)
  | [] => []
  | (label, expr) :: rest => (label, expr.canonical) :: Expr.canonicalAliased rest

/-- Every expression of an ordering, with its direction. -/
def Expr.canonicalOrdered : List (Expr × Direction) → List (Expr × Direction)
  | [] => []
  | (expr, direction) :: rest => (expr.canonical, direction) :: Expr.canonicalOrdered rest

/-- What a selection returns. -/
def SelectList.canonical : SelectList → SelectList
  | .one => .one
  | .columns entries => .columns (Expr.canonicalAliased entries)

/-- A source of rows. -/
def Source.canonical : Source → Source
  | .table table label => .table table label
  | .select select label => .select select.canonical label
  | .call function args label => .call function (Expr.canonicalAll args) label

/-- A source of rows, if there is one. -/
def Source.canonicalOption : Option Source → Option Source
  | none => none
  | some source => some source.canonical

/-- A selection, in all its parts. -/
def Select.canonical : Select → Select
  | ⟨list, source, condition, groupBy, orderBy, limit, offset⟩ =>
    ⟨list.canonical, Source.canonicalOption source, condition.canonical,
      Expr.canonicalAll groupBy, Expr.canonicalOrdered orderBy, limit, offset⟩

end

/-- The source of an insertion. -/
def InsertFrom.canonical : InsertFrom → InsertFrom
  | defaults => defaults
  | select inner => select inner.canonical

/-- An insertion, in all its parts. -/
def Insert.canonical (insert : Insert) : Insert :=
  { insert with source := insert.source.canonical, returning := insert.returning.canonical }

/-- An update, in all its parts. -/
def Update.canonical (update : Update) : Update :=
  { update with
    set := update.set.mapValues Expr.canonical
    source := Source.canonicalOption update.source
    condition := update.condition.canonical }

/-- A removal, in all its parts. -/
def Delete.canonical (delete : Delete) : Delete :=
  ⟨delete.source.canonical, delete.condition.canonical⟩

/-- The canonical form of a statement. -/
def Statement.canonical : Statement → Statement
  | select inner => select inner.canonical
  | insert inner => insert inner.canonical
  | update inner => update inner.canonical
  | delete inner => delete inner.canonical

namespace Expr

theorem piecesOfAll_eq (exprs : List Expr) : piecesOfAll exprs = exprs.map pieces := by
  induction exprs with
  | nil => rw [piecesOfAll, List.map_nil]
  | cons expr rest ih => rw [piecesOfAll, ih, List.map_cons]

theorem piecesOfAliased_eq (entries : List (String × Expr)) :
    piecesOfAliased entries = entries.map fun entry => entry.2.pieces ++ aliased entry.1 := by
  induction entries with
  | nil => rw [piecesOfAliased, List.map_nil]
  | cons entry rest ih =>
      rcases entry with ⟨label, expr⟩
      rw [piecesOfAliased, ih, List.map_cons]

theorem piecesOfOrdered_eq (entries : List (Expr × Direction)) :
    piecesOfOrdered entries =
      entries.map fun entry => entry.1.pieces ++ [.blank, .word entry.2.keyword] := by
  induction entries with
  | nil => rw [piecesOfOrdered, List.map_nil]
  | cons entry rest ih =>
      rcases entry with ⟨expr, direction⟩
      rw [piecesOfOrdered, ih, List.map_cons]

theorem canonicalAll_eq (exprs : List Expr) : canonicalAll exprs = exprs.map canonical := by
  induction exprs with
  | nil => rw [canonicalAll, List.map_nil]
  | cons expr rest ih => rw [canonicalAll, ih, List.map_cons]

theorem canonicalAliased_eq (entries : List (String × Expr)) :
    canonicalAliased entries = entries.map fun entry => (entry.1, entry.2.canonical) := by
  induction entries with
  | nil => rw [canonicalAliased, List.map_nil]
  | cons entry rest ih =>
      rcases entry with ⟨label, expr⟩
      rw [canonicalAliased, ih, List.map_cons]

theorem canonicalOrdered_eq (entries : List (Expr × Direction)) :
    canonicalOrdered entries = entries.map fun entry => (entry.1.canonical, entry.2) := by
  induction entries with
  | nil => rw [canonicalOrdered, List.map_nil]
  | cons entry rest ih =>
      rcases entry with ⟨expr, direction⟩
      rw [canonicalOrdered, ih, List.map_cons]

end Expr

theorem Value.pieces_canonical (value : Value) : value.canonical.pieces = value.pieces := by
  cases value <;> rfl

/-- A condition is left out in both forms or in none. -/
theorem Expr.isTrivial_canonical (condition : Expr) :
    condition.canonical.isTrivial = condition.isTrivial := by
  cases condition with
  | value value =>
      rw [canonical]
      cases value <;> rfl
  | aggregate function distinct args => cases distinct <;> rw [canonical] <;> rfl
  | rowToJson | column | countAll => rw [canonical]
  | and | or | binary | unary | call | case | «exists» | cast | countDistinct =>
      rw [canonical]
      rfl

theorem whereClause_canonical (condition : Expr) (pieces : List Piece) :
    whereClause condition.canonical pieces = whereClause condition pieces := by
  rw [whereClause, whereClause, condition.isTrivial_canonical]

mutual

theorem Expr.pieces_canonical : ∀ expr : Expr, expr.canonical.pieces = expr.pieces
  | .and left right | .or left right | .binary op left right => by
      rw [Expr.canonical, Expr.pieces, Expr.pieces, left.pieces_canonical, right.pieces_canonical]
  | .unary op operand => by
      rw [Expr.canonical, Expr.pieces, Expr.pieces, operand.pieces_canonical]
  | .call function args => by
      rw [Expr.canonical, Expr.pieces, Expr.pieces, Expr.piecesOfAll_canonical args]
  | .aggregate function false args => by
      -- Without `DISTINCT` an aggregation is written like a call.
      rw [Expr.canonical, Expr.pieces, Expr.pieces, Expr.piecesOfAll_canonical args]
      rfl
  | .aggregate function true args => by
      rw [Expr.canonical, Expr.pieces, Expr.pieces, Expr.piecesOfAll_canonical args]
  | .case whens otherwise => by
      rw [Expr.canonical, Expr.pieces, Expr.pieces, Expr.piecesOfWhens_canonical whens,
        otherwise.pieces_canonical]
  | .exists select => by
      rw [Expr.canonical, Expr.pieces, Expr.pieces, select.pieces_canonical]
  | .rowToJson table => by rw [Expr.canonical]
  | .column table name => by rw [Expr.canonical]
  | .value value => by
      rw [Expr.canonical, Expr.pieces, Expr.pieces, value.pieces_canonical]
  | .cast operand type => by
      rw [Expr.canonical, Expr.pieces, Expr.pieces, operand.pieces_canonical]
  | .countAll => by rw [Expr.canonical]
  | .countDistinct operand => by
      rw [Expr.canonical, Expr.pieces, Expr.pieces, operand.pieces_canonical]

theorem Expr.piecesOfAll_canonical : ∀ exprs : List Expr,
    Expr.piecesOfAll (Expr.canonicalAll exprs) = Expr.piecesOfAll exprs
  | [] => by rw [Expr.canonicalAll]
  | expr :: rest => by
      rw [Expr.canonicalAll, Expr.piecesOfAll, Expr.piecesOfAll, expr.pieces_canonical,
        Expr.piecesOfAll_canonical rest]

theorem Expr.piecesOfWhens_canonical : ∀ whens : List (Expr × Expr),
    Expr.piecesOfWhens (Expr.canonicalWhens whens) = Expr.piecesOfWhens whens
  | [] => by rw [Expr.canonicalWhens]
  | (condition, result) :: rest => by
      rw [Expr.canonicalWhens, Expr.piecesOfWhens, Expr.piecesOfWhens,
        condition.pieces_canonical, result.pieces_canonical, Expr.piecesOfWhens_canonical rest]

theorem Expr.piecesOfAliased_canonical : ∀ entries : List (String × Expr),
    Expr.piecesOfAliased (Expr.canonicalAliased entries) = Expr.piecesOfAliased entries
  | [] => by rw [Expr.canonicalAliased]
  | (label, expr) :: rest => by
      rw [Expr.canonicalAliased, Expr.piecesOfAliased, Expr.piecesOfAliased,
        expr.pieces_canonical, Expr.piecesOfAliased_canonical rest]

theorem Expr.piecesOfOrdered_canonical : ∀ entries : List (Expr × Direction),
    Expr.piecesOfOrdered (Expr.canonicalOrdered entries) = Expr.piecesOfOrdered entries
  | [] => by rw [Expr.canonicalOrdered]
  | (expr, direction) :: rest => by
      rw [Expr.canonicalOrdered, Expr.piecesOfOrdered, Expr.piecesOfOrdered,
        expr.pieces_canonical, Expr.piecesOfOrdered_canonical rest]

theorem SelectList.pieces_canonical : ∀ list : SelectList, list.canonical.pieces = list.pieces
  | .one => by rw [SelectList.canonical]
  | .columns entries => by
      rw [SelectList.canonical, SelectList.pieces, SelectList.pieces,
        Expr.piecesOfAliased_canonical entries]

theorem Source.pieces_canonical : ∀ source : Source, source.canonical.pieces = source.pieces
  | .table table label => by rw [Source.canonical]
  | .select select label => by
      rw [Source.canonical, Source.pieces, Source.pieces, select.pieces_canonical]
  | .call function args label => by
      rw [Source.canonical, Source.pieces, Source.pieces, Expr.piecesOfAll_canonical args]

theorem Source.piecesOfOption_canonical : ∀ source : Option Source,
    Source.piecesOfOption (Source.canonicalOption source) = Source.piecesOfOption source
  | none => by rw [Source.canonicalOption]
  | some source => by
      rw [Source.canonicalOption, Source.piecesOfOption, Source.piecesOfOption,
        source.pieces_canonical]

theorem Select.pieces_canonical : ∀ select : Select, select.canonical.pieces = select.pieces
  | ⟨list, source, condition, groupBy, orderBy, limit, offset⟩ => by
      rw [Select.canonical, Select.pieces, Select.pieces, list.pieces_canonical,
        Source.piecesOfOption_canonical source, condition.pieces_canonical,
        whereClause_canonical, Expr.piecesOfAll_canonical groupBy,
        Expr.piecesOfOrdered_canonical orderBy]

end

/-- The canonical form of a statement is written like the statement. -/
theorem Statement.pieces_canonical (statement : Statement) :
    statement.canonical.pieces = statement.pieces := by
  cases statement with
  | select inner => exact inner.pieces_canonical
  | insert inner =>
      have hsource : inner.source.canonical.pieces = inner.source.pieces := by
        cases inner.source with
        | defaults => rfl
        | select select => exact select.pieces_canonical
      rw [canonical, pieces, pieces, Insert.canonical, Insert.pieces, Insert.pieces, hsource,
        inner.returning.pieces_canonical]
  | update inner =>
      have hset : (inner.set.mapValues Expr.canonical).entries.map (fun entry =>
            Piece.name entry.1 :: .blank :: .mark "=" :: .blank :: entry.2.pieces) =
          inner.set.entries.map fun entry =>
            Piece.name entry.1 :: .blank :: .mark "=" :: .blank :: entry.2.pieces := by
        rw [Sorted.mapValues, List.map_map]
        refine List.map_congr_left fun entry _ => ?_
        dsimp only [Function.comp_apply]
        rw [entry.2.pieces_canonical]
      rw [canonical, pieces, pieces, Update.canonical, Update.pieces, Update.pieces, hset,
        Source.piecesOfOption_canonical, inner.condition.pieces_canonical, whereClause_canonical]
  | delete inner =>
      rw [canonical, pieces, pieces, Delete.canonical, Delete.pieces, Delete.pieces,
        inner.source.pieces_canonical, inner.condition.pieces_canonical, whereClause_canonical]

end Sql

end Registrar
