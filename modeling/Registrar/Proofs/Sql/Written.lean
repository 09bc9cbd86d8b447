import Registrar.Proofs.Sql.Phrase

/-!
# Statements Are Phrases

In every statement, however deeply nested and whatever stands in its names and
strings, no two pieces run together. The proof follows the statement: one case for
each form of expression, of source and of statement, each a matter of what stands
next to what.

## Theorems

* `Expr.phrase`, `Select.phrase`, `Source.phrase`: The parts of statements are
  phrases.
* `Statement.phrase`: Statements are phrases.
-/

namespace Registrar

namespace Sql

theorem leads_whens (whens : List (Expr × Expr)) {rest : List Piece} (h : leads rest) :
    leads (Expr.piecesOfWhens whens ++ rest) := by
  rcases whens with _ | ⟨⟨condition, result⟩, whens⟩
  · exact h
  · rw [Expr.piecesOfWhens]
    rfl

theorem leads_source (source : Option Source) : leads (Source.piecesOfOption source) := by
  cases source <;> rw [Source.piecesOfOption] <;> rfl

theorem TableRef.phrase (table : TableRef) : Phrase table.pieces := by
  cases table with
  | table schema name => exact .point schema (.name name)
  | known name => exact .name name

/-- A column of a table. The table may already be a name in a schema. -/
theorem TableRef.phrase_column (table : TableRef) (name : String) :
    Phrase (table.pieces ++ [.mark ".", .name name]) := by
  cases table with
  | table schema table => exact .point schema (.point table (.name name))
  | known table => exact .point table (.name name)

theorem Value.phrase (value : Value) : Phrase value.pieces := by
  cases value with
  | int value => exact .integer value
  | bool value => cases value <;> exact .word (by decide)
  | string value => exact .literal value
  | null => exact .word (by decide)
  | json document => exact .param document
  | emptyJsonArray => exact .literal "[]"

theorem TypeName.phrase (type : TypeName) : Phrase type.pieces := by
  cases type with
  | qualified schema name => exact .point schema (.name name)
  | named name => exact .name name

theorem Function.name_mem_keywords (function : Function) : function.name ∈ keywords := by
  cases function <;> decide

theorem BinaryOp.phrase (op : BinaryOp) : Phrase op.pieces := by
  cases op with
  | equals | notEquals | greaterThan => exact .operator (by decide)
  | like | notLike => exact .words (by decide)

theorem UnaryOp.phrase (op : UnaryOp) : Phrase (words op.keywords) := by
  cases op <;> exact .words (by decide)

theorem Direction.keyword_mem_keywords (direction : Direction) :
    direction.keyword ∈ keywords := by
  cases direction <;> decide

/-- A function called with arguments that stay apart. -/
theorem Function.phrase_call (function : Function) {args : List (List Piece)}
    (phrases : ∀ item ∈ args, Phrase item) :
    Phrase (.word function.name :: parenthesised (commaSeparated args)) :=
  .keyword function.name_mem_keywords (.parenthesised (.commaSeparated phrases)) rfl

mutual

theorem Expr.phrase : ∀ expr : Expr, Phrase expr.pieces
  | .and left right | .or left right => by
      rw [Expr.pieces]
      exact .parenthesised (.append left.phrase (.clause (by decide) right.phrase) rfl)
  | .binary op left right => by
      rw [Expr.pieces]
      exact .parenthesised (.append (.append left.phrase (.blank op.phrase) rfl)
        (.blank right.phrase) rfl)
  | .unary op operand => by
      rw [Expr.pieces]
      exact .parenthesised (.append operand.phrase (.blank op.phrase) rfl)
  | .call function args => by
      rw [Expr.pieces]
      exact function.phrase_call (Expr.phrase_of_mem args)
  | .aggregate function distinct args => by
      rw [Expr.pieces]
      have hargs : Phrase (commaSeparated (Expr.piecesOfAll args)) :=
        .commaSeparated (Expr.phrase_of_mem args)
      refine .keyword function.name_mem_keywords (.parenthesised ?_) rfl
      -- The word for distinct values keeps its arguments away with a blank.
      cases distinct with
      | false => exact hargs
      | true => exact .keyword (by decide) (.blank hargs) rfl
  | .case whens otherwise => by
      rw [Expr.pieces]
      have helse : Phrase (clause ["ELSE"] otherwise.pieces) :=
        .clause (by decide) otherwise.phrase
      have hend : Phrase [.blank, .word "END"] := .blank (.word (by decide))
      refine .append (.append ?_ helse rfl) hend rfl
      -- The arms bring their own blank, and there may be no arms at all.
      have hlead := leads_whens whens (rfl : leads [])
      rw [List.append_nil] at hlead
      exact .keyword (by decide) (Expr.phrase_whens whens) hlead
  | .exists select => by
      rw [Expr.pieces]
      exact .keyword (by decide) (.blank (.parenthesised select.phrase)) rfl
  | .rowToJson table => by
      rw [Expr.pieces]
      exact .keyword (by decide) (.parenthesised table.phrase) rfl
  | .column table name => by
      rw [Expr.pieces]
      exact table.phrase_column name
  | .value value => by
      rw [Expr.pieces]
      exact value.phrase
  | .cast operand type => by
      rw [Expr.pieces]
      exact .keyword (by decide)
        (.parenthesised (.append operand.phrase (.clause (by decide) type.phrase) rfl)) rfl
  | .countAll => by
      rw [Expr.pieces]
      exact .keyword (by decide) (.parenthesised (.operator (by decide))) rfl
  | .countDistinct operand => by
      rw [Expr.pieces]
      exact .keyword (by decide)
        (.parenthesised (.keyword (by decide) (.blank operand.phrase) rfl)) rfl

theorem Expr.phrase_of_mem : ∀ exprs : List Expr, ∀ item ∈ Expr.piecesOfAll exprs, Phrase item
  | [] => fun item hitem => by
      rw [Expr.piecesOfAll] at hitem
      exact absurd hitem List.not_mem_nil
  | expr :: rest => fun item hitem => by
      rw [Expr.piecesOfAll] at hitem
      rcases List.mem_cons.1 hitem with rfl | hrest
      · exact expr.phrase
      · exact Expr.phrase_of_mem rest item hrest

theorem Expr.phrase_whens : ∀ whens : List (Expr × Expr), Phrase (Expr.piecesOfWhens whens)
  | [] => by
      rw [Expr.piecesOfWhens]
      exact .nil
  | (condition, result) :: rest => by
      rw [Expr.piecesOfWhens]
      have hlead := leads_whens rest (rfl : leads [])
      rw [List.append_nil] at hlead
      exact .append (.append (.clause (by decide) condition.phrase)
        (.clause (by decide) result.phrase) rfl) (Expr.phrase_whens rest) hlead

theorem Expr.phrase_of_mem_aliased : ∀ entries : List (String × Expr),
    ∀ item ∈ Expr.piecesOfAliased entries, Phrase item
  | [] => fun item hitem => by
      rw [Expr.piecesOfAliased] at hitem
      exact absurd hitem List.not_mem_nil
  | (label, expr) :: rest => fun item hitem => by
      rw [Expr.piecesOfAliased] at hitem
      rcases List.mem_cons.1 hitem with rfl | hrest
      · exact .append expr.phrase (.aliased label) rfl
      · exact Expr.phrase_of_mem_aliased rest item hrest

theorem Expr.phrase_of_mem_ordered : ∀ entries : List (Expr × Direction),
    ∀ item ∈ Expr.piecesOfOrdered entries, Phrase item
  | [] => fun item hitem => by
      rw [Expr.piecesOfOrdered] at hitem
      exact absurd hitem List.not_mem_nil
  | (expr, direction) :: rest => fun item hitem => by
      rw [Expr.piecesOfOrdered] at hitem
      rcases List.mem_cons.1 hitem with rfl | hrest
      · exact .append expr.phrase (.blank (.word direction.keyword_mem_keywords)) rfl
      · exact Expr.phrase_of_mem_ordered rest item hrest

theorem SelectList.phrase : ∀ list : SelectList, Phrase list.pieces
  | .one => by
      rw [SelectList.pieces]
      exact .integer 1
  | .columns entries => by
      rw [SelectList.pieces]
      exact .commaSeparated (Expr.phrase_of_mem_aliased entries)

theorem Source.phrase : ∀ source : Source, Phrase source.pieces
  | .table table label => by
      rw [Source.pieces]
      exact .append (.keyword (by decide) (.blank table.phrase) rfl) (.aliased label) rfl
  | .select select label => by
      rw [Source.pieces]
      exact .append (.keyword (by decide) (.blank (.parenthesised select.phrase)) rfl)
        (.aliased label) rfl
  | .call function args label => by
      rw [Source.pieces]
      exact .append (.keyword (by decide)
        (.blank (function.phrase_call (Expr.phrase_of_mem args))) rfl) (.aliased label) rfl

theorem Source.phrase_option : ∀ source : Option Source, Phrase (Source.piecesOfOption source)
  | none => by
      rw [Source.piecesOfOption]
      exact .nil
  | some source => by
      rw [Source.piecesOfOption]
      exact .blank source.phrase

theorem Select.phrase : ∀ select : Select, Phrase select.pieces
  | ⟨list, source, condition, groupBy, orderBy, limit, offset⟩ => by
      rw [Select.pieces]
      -- Part after part is joined to what stands before it, and each leads.
      have hlist : Phrase (.word "SELECT" :: .blank :: list.pieces) :=
        .keyword (by decide) (.blank list.phrase) rfl
      have hsource := Phrase.append hlist (Source.phrase_option source) (leads_source source)
      have hwhere := hsource.append (.whereClause condition condition.phrase)
        (leads_whereClause _ _)
      have hgroupBy : Phrase (listClause ["GROUP", "BY"] (Expr.piecesOfAll groupBy)) :=
        .listClause (by decide) (Expr.phrase_of_mem groupBy)
      have horderBy : Phrase (listClause ["ORDER", "BY"] (Expr.piecesOfOrdered orderBy)) :=
        .listClause (by decide) (Expr.phrase_of_mem_ordered orderBy)
      have hgroup := hwhere.append hgroupBy (leads_listClause _ _)
      have horder := hgroup.append horderBy (leads_listClause _ _)
      have hlimit := horder.append (.amount (by decide) limit) (leads_amount "LIMIT" limit)
      exact hlimit.append (.amount (by decide) offset) (leads_amount "OFFSET" offset)

end

theorem InsertFrom.phrase (source : InsertFrom) : Phrase source.pieces := by
  cases source with
  | defaults => exact .words (by decide)
  | select select => exact select.phrase

theorem Insert.phrase (insert : Insert) : Phrase insert.pieces := by
  rw [Insert.pieces]
  have hinto : Phrase
      (words ["INSERT", "INTO"] ++ .blank :: qualified insert.schema insert.table) :=
    .append (.words (by decide)) (.blank (.point _ (.name _))) rfl
  have hcolumns : ∀ item ∈ insert.columns.map fun column => [Piece.name column], Phrase item := by
    intro item hitem
    rcases List.mem_map.1 hitem with ⟨column, _, rfl⟩
    exact .name column
  have hreturning : Phrase (clause ["RETURNING"] insert.returning.pieces) :=
    .clause (by decide) insert.returning.phrase
  -- Without columns there is no list in parentheses, and a blank comes next.
  refine .append (.append (.append hinto ?_ ?_) (.blank insert.source.phrase) rfl) hreturning rfl
  · split
    · exact .nil
    · exact .parenthesised (.commaSeparated hcolumns)
  · split <;> rfl

theorem Update.phrase (update : Update) : Phrase update.pieces := by
  rw [Update.pieces]
  have htable : Phrase (.word "UPDATE" :: .blank :: qualified update.schema update.table) :=
    .keyword (by decide) (.blank (.point _ (.name _))) rfl
  have hset : ∀ item ∈ update.set.entries.map fun entry =>
      Piece.name entry.1 :: .blank :: .mark "=" :: .blank :: entry.2.pieces, Phrase item := by
    intro item hitem
    rcases List.mem_map.1 hitem with ⟨entry, _, rfl⟩
    exact .append (.name entry.1)
      (.blank (.append (.operator (by decide)) (.blank entry.2.phrase) rfl)) rfl
  -- The assignments end before the source of rows begins.
  have hassigned := (htable.append (.aliased update.label) rfl).append
    (.clause (by decide) (.commaSeparated hset)) (rfl : leads (clause ["SET"] _))
  exact (hassigned.append (Source.phrase_option update.source) (leads_source _)).append
    (.whereClause _ update.condition.phrase) (leads_whereClause _ _)

theorem Delete.phrase (delete : Delete) : Phrase delete.pieces := by
  rw [Delete.pieces]
  have hsource : Phrase (.word "DELETE" :: .blank :: delete.source.pieces) :=
    .keyword (by decide) (.blank delete.source.phrase) rfl
  exact hsource.append (.whereClause _ delete.condition.phrase) (leads_whereClause _ _)

theorem Statement.phrase (statement : Statement) : Phrase statement.pieces := by
  cases statement with
  | select select => exact select.phrase
  | insert insert => exact insert.phrase
  | update update => exact update.phrase
  | delete delete => exact delete.phrase

end Sql

end Registrar
