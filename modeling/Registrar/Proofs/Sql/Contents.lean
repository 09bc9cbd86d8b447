import Registrar.Sql.Render

/-!
# Contents of Statements

What a statement holds that does not belong to the language: its names, its strings
and its documents. The contents are defined by recursion on the statement, without
any regard to how it is written, and so they serve as the other side of what is said
about its text.

## Main definitions

* `Content`: A name, a string or a document in a statement.
* `Expr.contents`, `Select.contents`, `Statement.contents`: The contents, from left
  to right.
* `contentsOf`: The contents of pieces.

## Theorems

* `Expr.contentsOf_pieces`, `Statement.contentsOf_pieces`: The pieces hold the
  contents, in their order, and no others.
-/

namespace Registrar

namespace Sql

/-- What a statement holds that does not belong to the language. -/
inductive Content
  | name (value : String)
  | literal (value : String)
  | document (value : Json.Document)

namespace Content

/-- The name that this is. -/
def name? : Content → Option String
  | name value => some value
  | _ => none

/-- The string that this is. -/
def literal? : Content → Option String
  | literal value => some value
  | _ => none

/-- The document that this is. -/
def document? : Content → Option Json.Document
  | document value => some value
  | _ => none

end Content

/-- The content that a piece is, if it does not belong to the language. -/
def Piece.content? : Piece → Option Content
  | .name value => some (.name value)
  | .literal value => some (.literal value)
  | .param document => some (.document document)
  | _ => none

/-- The contents of pieces. -/
def contentsOf (pieces : List Piece) : List Content :=
  pieces.filterMap Piece.content?

/-- The names in a reference to a table. -/
def TableRef.contents : TableRef → List Content
  | table schema name => [.name schema, .name name]
  | known name => [.name name]

/-- The names in a type. -/
def TypeName.contents : TypeName → List Content
  | qualified schema name => [.name schema, .name name]
  | named name => [.name name]

/-- The string or the document that a value is. -/
def Value.contents : Value → List Content
  | string value => [.literal value]
  | json document => [.document document]
  | emptyJsonArray => [.literal "[]"]
  | int _ | bool _ | null => []

mutual

/-- The contents of an expression. -/
def Expr.contents : Expr → List Content
  | .and left right | .or left right | .binary _ left right => left.contents ++ right.contents
  | .unary _ operand | .countDistinct operand => operand.contents
  | .call _ args | .aggregate _ _ args => Expr.contentsOfAll args
  | .case whens otherwise => Expr.contentsOfWhens whens ++ otherwise.contents
  | .exists select => select.contents
  | .rowToJson table => table.contents
  | .column table name => table.contents ++ [.name name]
  | .value value => value.contents
  | .cast operand type => operand.contents ++ type.contents
  | .countAll => []

/-- The contents of the expressions of a list. -/
def Expr.contentsOfAll : List Expr → List Content
  | [] => []
  | expr :: rest => expr.contents ++ Expr.contentsOfAll rest

/-- The contents of the arms of a case distinction. -/
def Expr.contentsOfWhens : List (Expr × Expr) → List Content
  | [] => []
  | (condition, result) :: rest =>
    condition.contents ++ result.contents ++ Expr.contentsOfWhens rest

/-- The contents of expressions under aliases. -/
def Expr.contentsOfAliased : List (String × Expr) → List Content
  | [] => []
  | (label, expr) :: rest => expr.contents ++ .name label :: Expr.contentsOfAliased rest

/-- The contents of the expressions of an ordering. -/
def Expr.contentsOfOrdered : List (Expr × Direction) → List Content
  | [] => []
  | (expr, _) :: rest => expr.contents ++ Expr.contentsOfOrdered rest

/-- The contents of what a selection returns. -/
def SelectList.contents : SelectList → List Content
  | .one => []
  | .columns entries => Expr.contentsOfAliased entries

/-- The contents of a source of rows. -/
def Source.contents : Source → List Content
  | .table table label => table.contents ++ [.name label]
  | .select select label => select.contents ++ [.name label]
  | .call _ args label => Expr.contentsOfAll args ++ [.name label]

/-- The contents of a source, if there is one. -/
def Source.contentsOfOption : Option Source → List Content
  | none => []
  | some source => source.contents

/-- The contents of a selection. -/
def Select.contents : Select → List Content
  | ⟨list, source, condition, groupBy, orderBy, _, _⟩ =>
    list.contents ++ Source.contentsOfOption source ++ condition.contents ++
      Expr.contentsOfAll groupBy ++ Expr.contentsOfOrdered orderBy

end

/-- The contents of the source of an insertion. -/
def InsertFrom.contents : InsertFrom → List Content
  | .defaults => []
  | .select inner => inner.contents

/-- The contents of an insertion. -/
def Insert.contents (insert : Insert) : List Content :=
  .name insert.schema :: .name insert.table :: insert.columns.map Content.name ++
    insert.source.contents ++ insert.returning.contents

/-- The contents of an update. -/
def Update.contents (update : Update) : List Content :=
  .name update.schema :: .name update.table :: .name update.label ::
    update.set.entries.flatMap (fun entry => .name entry.1 :: entry.2.contents) ++
    Source.contentsOfOption update.source ++ update.condition.contents

/-- The contents of a removal. -/
def Delete.contents (delete : Delete) : List Content :=
  delete.source.contents ++ delete.condition.contents

namespace Statement

/-- The contents of a statement. -/
def contents : Statement → List Content
  | .select inner => inner.contents
  | .insert inner => inner.contents
  | .update inner => inner.contents
  | .delete inner => inner.contents

end Statement

theorem contentsOf_append (first second : List Piece) :
    contentsOf (first ++ second) = contentsOf first ++ contentsOf second :=
  List.filterMap_append

theorem contentsOf_words (letters : List String) : contentsOf (words letters) = [] := by
  induction letters with
  | nil => rfl
  | cons first letters ih =>
      cases letters with
      | nil => rfl
      | cons second letters => exact ih

theorem contentsOf_parenthesised (inside : List Piece) :
    contentsOf (parenthesised inside) = contentsOf inside := by
  have h := contentsOf_append inside [.mark ")"]
  exact h.trans (List.append_nil _)

theorem contentsOf_clause (keywords : List String) (body : List Piece) :
    contentsOf (clause keywords body) = contentsOf body := by
  have h := contentsOf_append (words keywords) (.blank :: body)
  rw [contentsOf_words] at h
  exact h

theorem contentsOf_commaSeparated (items : List (List Piece)) :
    contentsOf (commaSeparated items) = items.flatMap contentsOf := by
  induction items with
  | nil => rfl
  | cons first items ih =>
      cases items with
      | nil => exact (List.append_nil _).symm
      | cons second items =>
          have hrest := contentsOf_append (first ++ comma) (commaSeparated (second :: items))
          have hfirst := contentsOf_append first comma
          rw [List.flatMap_cons, ← ih]
          exact hrest.trans (congrArg (· ++ _) (hfirst.trans (List.append_nil _)))

theorem contentsOf_amount (keyword : String) (value : Option Nat) :
    contentsOf (amount keyword value) = [] := by
  cases value with
  | none => rfl
  | some n => exact contentsOf_clause _ _

theorem contentsOf_listClause (keywords : List String) (items : List (List Piece)) :
    contentsOf (listClause keywords items) = items.flatMap contentsOf := by
  cases items with
  | nil => rfl
  | cons first items =>
      rw [← contentsOf_commaSeparated]
      exact contentsOf_clause _ _

/-- A condition that is not written has no contents. -/
theorem contentsOf_whereClause {condition : Expr} {pieces : List Piece}
    (h : contentsOf pieces = condition.contents) :
    contentsOf (whereClause condition pieces) = condition.contents := by
  rw [whereClause]
  split
  · rename_i htrivial
    rw [Expr.isTrivial_iff.1 htrivial, Expr.contents]
    rfl
  · exact (contentsOf_clause _ _).trans h

theorem TableRef.contentsOf_pieces (table : TableRef) :
    contentsOf table.pieces = table.contents := by
  cases table <;> rfl

theorem TypeName.contentsOf_pieces (type : TypeName) :
    contentsOf type.pieces = type.contents := by
  cases type <;> rfl

theorem Value.contentsOf_pieces (value : Value) : contentsOf value.pieces = value.contents := by
  cases value with
  | bool value => cases value <;> rfl
  | int | string | null | json | emptyJsonArray => rfl

theorem BinaryOp.contentsOf_pieces (op : BinaryOp) : contentsOf op.pieces = [] := by
  cases op <;> rfl

mutual

theorem Expr.contentsOf_pieces : ∀ expr : Expr, contentsOf expr.pieces = expr.contents
  | .and left right | .or left right => by
      rw [Expr.pieces, Expr.contents, contentsOf_parenthesised, contentsOf_append,
        contentsOf_clause, left.contentsOf_pieces, right.contentsOf_pieces]
  | .binary op left right => by
      have hright : contentsOf (.blank :: right.pieces) = right.contents := right.contentsOf_pieces
      have hop : contentsOf (.blank :: op.pieces) = [] := op.contentsOf_pieces
      rw [Expr.pieces, Expr.contents, contentsOf_parenthesised, contentsOf_append,
        contentsOf_append, left.contentsOf_pieces, hop, hright, List.append_nil]
  | .unary op operand => by
      have hop : contentsOf (.blank :: words op.keywords) = [] := contentsOf_words _
      rw [Expr.pieces, Expr.contents, contentsOf_parenthesised, contentsOf_append,
        operand.contentsOf_pieces, hop, List.append_nil]
  | .call function args => by
      have hargs := contentsOf_parenthesised (commaSeparated (Expr.piecesOfAll args))
      rw [contentsOf_commaSeparated, Expr.contentsOf_all] at hargs
      rw [Expr.pieces, Expr.contents]
      exact hargs
  | .aggregate function distinct args => by
      have hargs := contentsOf_commaSeparated (Expr.piecesOfAll args)
      rw [Expr.contentsOf_all] at hargs
      rw [Expr.pieces, Expr.contents]
      refine (contentsOf_parenthesised ((if distinct then [.word "DISTINCT", .blank] else []) ++
        commaSeparated (Expr.piecesOfAll args))).trans ?_
      rw [contentsOf_append, hargs]
      -- The word `DISTINCT` belongs to the language.
      cases distinct <;> rfl
  | .case whens otherwise => by
      have hwhens : contentsOf (.word "CASE" :: Expr.piecesOfWhens whens) =
          Expr.contentsOfWhens whens := Expr.contentsOf_whens whens
      have hend : contentsOf [.blank, .word "END"] = [] := rfl
      rw [Expr.pieces, Expr.contents, contentsOf_append, contentsOf_append, contentsOf_clause,
        otherwise.contentsOf_pieces, hwhens, hend, List.append_nil]
  | .exists select => by
      rw [Expr.pieces, Expr.contents]
      exact (contentsOf_parenthesised _).trans select.contentsOf_pieces
  | .rowToJson table => by
      rw [Expr.pieces, Expr.contents]
      exact (contentsOf_parenthesised _).trans table.contentsOf_pieces
  | .column table name => by
      rw [Expr.pieces, Expr.contents, contentsOf_append, table.contentsOf_pieces]
      rfl
  | .value value => by
      rw [Expr.pieces, Expr.contents, value.contentsOf_pieces]
  | .cast operand type => by
      rw [Expr.pieces, Expr.contents]
      refine (contentsOf_parenthesised (operand.pieces ++ clause ["AS"] type.pieces)).trans ?_
      rw [contentsOf_append, contentsOf_clause, operand.contentsOf_pieces, type.contentsOf_pieces]
  | .countAll => by
      rw [Expr.pieces, Expr.contents]
      rfl
  | .countDistinct operand => by
      rw [Expr.pieces, Expr.contents]
      exact (contentsOf_parenthesised _).trans operand.contentsOf_pieces

theorem Expr.contentsOf_all : ∀ exprs : List Expr,
    (Expr.piecesOfAll exprs).flatMap contentsOf = Expr.contentsOfAll exprs
  | [] => by
      rw [Expr.piecesOfAll, Expr.contentsOfAll]
      rfl
  | expr :: rest => by
      rw [Expr.piecesOfAll, Expr.contentsOfAll, List.flatMap_cons, expr.contentsOf_pieces,
        Expr.contentsOf_all rest]

theorem Expr.contentsOf_whens : ∀ whens : List (Expr × Expr),
    contentsOf (Expr.piecesOfWhens whens) = Expr.contentsOfWhens whens
  | [] => by
      rw [Expr.piecesOfWhens, Expr.contentsOfWhens]
      rfl
  | (condition, result) :: rest => by
      rw [Expr.piecesOfWhens, Expr.contentsOfWhens, contentsOf_append, contentsOf_append,
        contentsOf_clause, contentsOf_clause, condition.contentsOf_pieces,
        result.contentsOf_pieces, Expr.contentsOf_whens rest]

theorem Expr.contentsOf_aliased : ∀ entries : List (String × Expr),
    (Expr.piecesOfAliased entries).flatMap contentsOf = Expr.contentsOfAliased entries
  | [] => by
      rw [Expr.piecesOfAliased, Expr.contentsOfAliased]
      rfl
  | (label, expr) :: rest => by
      rw [Expr.piecesOfAliased, Expr.contentsOfAliased, List.flatMap_cons, contentsOf_append,
        expr.contentsOf_pieces, Expr.contentsOf_aliased rest, List.append_assoc]
      rfl

theorem Expr.contentsOf_ordered : ∀ entries : List (Expr × Direction),
    (Expr.piecesOfOrdered entries).flatMap contentsOf = Expr.contentsOfOrdered entries
  | [] => by
      rw [Expr.piecesOfOrdered, Expr.contentsOfOrdered]
      rfl
  | (expr, direction) :: rest => by
      rw [Expr.piecesOfOrdered, Expr.contentsOfOrdered, List.flatMap_cons, contentsOf_append,
        expr.contentsOf_pieces, Expr.contentsOf_ordered rest, List.append_assoc]
      rfl

theorem SelectList.contentsOf_pieces : ∀ list : SelectList,
    contentsOf list.pieces = list.contents
  | .one => by
      rw [SelectList.pieces, SelectList.contents]
      rfl
  | .columns entries => by
      rw [SelectList.pieces, SelectList.contents, contentsOf_commaSeparated,
        Expr.contentsOf_aliased entries]

theorem Source.contentsOf_pieces : ∀ source : Source, contentsOf source.pieces = source.contents
  | .table table label => by
      rw [Source.pieces, Source.contents, contentsOf_append]
      exact congrArg (· ++ _) table.contentsOf_pieces
  | .select select label => by
      rw [Source.pieces, Source.contents, contentsOf_append]
      exact congrArg (· ++ _) ((contentsOf_parenthesised _).trans select.contentsOf_pieces)
  | .call function args label => by
      have hargs := contentsOf_parenthesised (commaSeparated (Expr.piecesOfAll args))
      rw [contentsOf_commaSeparated, Expr.contentsOf_all] at hargs
      rw [Source.pieces, Source.contents, contentsOf_append]
      exact congrArg (· ++ _) hargs

theorem Source.contentsOf_option : ∀ source : Option Source,
    contentsOf (Source.piecesOfOption source) = Source.contentsOfOption source
  | none => by
      rw [Source.piecesOfOption, Source.contentsOfOption]
      rfl
  | some source => by
      rw [Source.piecesOfOption, Source.contentsOfOption]
      exact source.contentsOf_pieces

theorem Select.contentsOf_pieces : ∀ select : Select, contentsOf select.pieces = select.contents
  | ⟨list, source, condition, groupBy, orderBy, limit, offset⟩ => by
      have hlist : contentsOf (.word "SELECT" :: .blank :: list.pieces) = list.contents :=
        list.contentsOf_pieces
      rw [Select.pieces, Select.contents]
      simp only [contentsOf_append, hlist, Source.contentsOf_option source,
        contentsOf_whereClause condition.contentsOf_pieces, contentsOf_listClause,
        Expr.contentsOf_all groupBy, Expr.contentsOf_ordered orderBy, contentsOf_amount,
        List.append_nil]

end

theorem InsertFrom.contentsOf_pieces (source : InsertFrom) :
    contentsOf source.pieces = source.contents := by
  cases source with
  | defaults => rfl
  | select select => exact select.contentsOf_pieces

theorem Insert.contentsOf_pieces (insert : Insert) :
    contentsOf insert.pieces = insert.contents := by
  have hcolumns : contentsOf (if insert.columns.isEmpty then []
      else parenthesised (commaSeparated (insert.columns.map fun column => [.name column]))) =
      insert.columns.map Content.name := by
    cases insert.columns with
    | nil => rfl
    | cons first columns =>
        rw [List.isEmpty_cons, if_neg Bool.false_ne_true, contentsOf_parenthesised,
          contentsOf_commaSeparated, List.flatMap_map, List.map_eq_flatMap]
        rfl
  have hsource : contentsOf (.blank :: insert.source.pieces) = insert.source.contents :=
    insert.source.contentsOf_pieces
  have htable : contentsOf (words ["INSERT", "INTO"] ++
      .blank :: qualified insert.schema insert.table) = [.name insert.schema, .name insert.table] :=
    rfl
  rw [Insert.pieces, Insert.contents, contentsOf_append, contentsOf_append, contentsOf_append,
    contentsOf_clause, htable, hcolumns, hsource, insert.returning.contentsOf_pieces]
  rfl

theorem Update.contentsOf_pieces (update : Update) :
    contentsOf update.pieces = update.contents := by
  have hset : (update.set.entries.map fun entry =>
      Piece.name entry.1 :: .blank :: .mark "=" :: .blank :: entry.2.pieces).flatMap contentsOf =
      update.set.entries.flatMap fun entry => .name entry.1 :: entry.2.contents := by
    rw [List.flatMap_map]
    refine congrArg (List.flatMap · _) (funext fun entry => ?_)
    rw [← entry.2.contentsOf_pieces]
    rfl
  have htable : contentsOf (.word "UPDATE" :: .blank :: qualified update.schema update.table) =
      [.name update.schema, .name update.table] := rfl
  have hlabel : contentsOf (aliased update.label) = [.name update.label] := rfl
  rw [Update.pieces, Update.contents, contentsOf_append, contentsOf_append, contentsOf_append,
    contentsOf_append, htable, hlabel, contentsOf_clause, contentsOf_commaSeparated, hset,
    Source.contentsOf_option, contentsOf_whereClause update.condition.contentsOf_pieces]
  rfl

theorem Delete.contentsOf_pieces (delete : Delete) :
    contentsOf delete.pieces = delete.contents := by
  have hsource : contentsOf (.word "DELETE" :: .blank :: delete.source.pieces) =
      delete.source.contents := delete.source.contentsOf_pieces
  rw [Delete.pieces, Delete.contents, contentsOf_append, hsource,
    contentsOf_whereClause delete.condition.contentsOf_pieces]

theorem Statement.contentsOf_pieces (statement : Statement) :
    contentsOf statement.pieces = statement.contents := by
  cases statement with
  | select select => exact select.contentsOf_pieces
  | insert insert => exact insert.contentsOf_pieces
  | update update => exact update.contentsOf_pieces
  | delete delete => exact delete.contentsOf_pieces

end Sql

end Registrar
