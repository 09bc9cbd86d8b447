import Registrar.Proofs.Sql.Phrase
import Registrar.Sql.Build

/-!
# Guarded Statements

What may stand in a statement outside its strings, its numbers and its parameters: the
words and marks of the language, and names that are known beforehand. Nothing of this
comes from a request, so in a guarded statement a request is heard only where the
database expects a value.

Two phrases name columns without naming them. `row_to_json` takes all columns of a row
and is let through for the rows of a page only, which were selected by name before; and
the mark `*` is let through where rows are counted, and nowhere else.

## Main definitions

* `Token.Plain`: A token that may stand anywhere.
* `Guarded`: Tokens that are plain, apart from the two phrases.
* `Guards`: Pieces whose tokens are guarded and whose documents have a property.

## Theorems

* `Guarded.append`, `Guards.append`: Guarded parts make up a guarded whole.
* `Guards.select`, `Guards.call` and their like: The same for the forms of expressions and
  selections.
-/

namespace Registrar

namespace Sql

/-- The marks that may stand anywhere. -/
def plainMarks : List String := ["=", "<>", ">", "(", ")", ",", ".", "-"]

/-- The word for all columns of a row. -/
def wholeRowWord : String := "row_to_json"

/-- A token that may stand anywhere: a word or a mark of the language, a known name, or a
    value. -/
def Token.Plain (known : String → Prop) : Token → Prop
  | .word letters => letters ∈ keywords ∧ letters ≠ wholeRowWord
  | .mark symbol => symbol ∈ plainMarks
  | .name value => known value
  | .number _ | .literal _ | .param _ => True

/-- Tokens that are plain, except that the rows of a page may be taken as a whole and that
    rows may be counted. -/
inductive Guarded (known : String → Prop) : List Token → Prop
  | nil : Guarded known []
  | plain {token : Token} {rest : List Token} (h : token.Plain known)
      (tail : Guarded known rest) : Guarded known (token :: rest)
  | wholeRow {rest : List Token} (tail : Guarded known rest) :
      Guarded known (.word wholeRowWord :: .mark "(" :: .name rowsAlias :: .mark ")" :: rest)
  | countAll {rest : List Token} (tail : Guarded known rest) :
      Guarded known (.word "COUNT" :: .mark "(" :: .mark "*" :: .mark ")" :: rest)

theorem Guarded.append {known : String → Prop} {first second : List Token}
    (hfirst : Guarded known first) (hsecond : Guarded known second) :
    Guarded known (first ++ second) := by
  induction hfirst with
  | nil => exact hsecond
  | plain h _ ih => exact .plain h ih
  | wholeRow _ ih => exact .wholeRow ih
  | countAll _ ih => exact .countAll ih

/-- The names among guarded tokens are known, or else the alias of the rows of a page. -/
theorem Guarded.known_of_mem {known : String → Prop} {tokens : List Token}
    (h : Guarded known tokens) (hrows : known rowsAlias) {value : String}
    (hmem : .name value ∈ tokens) : known value := by
  induction h with
  | nil => exact nomatch hmem
  | plain h _ ih =>
      rcases List.mem_cons.1 hmem with rfl | hmem
      · exact h
      · exact ih hmem
  | wholeRow _ ih =>
      -- The whole row is taken of the rows of a page, whose alias is known.
      simp only [List.mem_cons, reduceCtorEq, Token.name.injEq, false_or] at hmem
      rcases hmem with rfl | hmem
      · exact hrows
      · exact ih hmem
  | countAll _ ih =>
      simp only [List.mem_cons, reduceCtorEq, false_or] at hmem
      exact ih hmem

/-- Pieces whose tokens are guarded, wherever they stand, and whose documents have a
    property. -/
structure Guards (known : String → Prop) (bound : Json.Document → Prop) (pieces : List Piece) :
    Prop where
  tokens : ∀ index, Guarded known (tokensFrom index pieces)
  documents : ∀ document ∈ pieces.filterMap Piece.document?, bound document

namespace Guards

variable {known : String → Prop} {bound : Json.Document → Prop}

theorem nil : Guards known bound [] :=
  ⟨fun _ => .nil, List.forall_mem_nil _⟩

theorem append {first second : List Piece} (hfirst : Guards known bound first)
    (hsecond : Guards known bound second) : Guards known bound (first ++ second) := by
  refine ⟨fun index => ?_, ?_⟩
  · rw [tokensFrom_append]
    exact (hfirst.tokens index).append (hsecond.tokens _)
  · rw [List.filterMap_append]
    exact List.forall_mem_append.2 ⟨hfirst.documents, hsecond.documents⟩

theorem cons {piece : Piece} {rest : List Piece} (hpiece : Guards known bound [piece])
    (hrest : Guards known bound rest) : Guards known bound (piece :: rest) :=
  hpiece.append hrest

theorem word {letters : String} (h : letters ∈ keywords) (hrow : letters ≠ wholeRowWord) :
    Guards known bound [.word letters] :=
  ⟨fun _ => .plain ⟨h, hrow⟩ .nil, List.forall_mem_nil _⟩

theorem mark {symbol : String} (h : symbol ∈ plainMarks) : Guards known bound [.mark symbol] :=
  ⟨fun _ => .plain h .nil, List.forall_mem_nil _⟩

theorem blank : Guards known bound [.blank] :=
  ⟨fun _ => .nil, List.forall_mem_nil _⟩

theorem integer (value : Int) : Guards known bound [.integer value] := by
  refine ⟨fun index => ?_, List.forall_mem_nil _⟩
  rw [tokensFrom, tokensFrom, List.append_nil, Piece.tokens]
  -- A negative integer begins with a mark, which is a plain one.
  split
  · exact .plain (by decide : "-" ∈ plainMarks) (.plain trivial .nil)
  · exact .plain trivial .nil

theorem name {value : String} (h : known value) : Guards known bound [.name value] :=
  ⟨fun _ => .plain h .nil, List.forall_mem_nil _⟩

theorem literal (value : String) : Guards known bound [.literal value] :=
  ⟨fun _ => .plain trivial .nil, List.forall_mem_nil _⟩

theorem param {document : Json.Document} (h : bound document) :
    Guards known bound [.param document] :=
  ⟨fun _ => .plain trivial .nil, List.forall_mem_singleton.2 h⟩

theorem words {letters : List String}
    (h : ∀ word ∈ letters, word ∈ keywords ∧ word ≠ wholeRowWord) :
    Guards known bound (words letters) := by
  induction letters with
  | nil => exact nil
  | cons first letters ih =>
      have hfirst := h first List.mem_cons_self
      have hrest := ih fun word hword => h word (List.mem_cons_of_mem _ hword)
      cases letters with
      | nil => exact word hfirst.1 hfirst.2
      | cons second letters => exact cons (word hfirst.1 hfirst.2) (cons blank hrest)

theorem clause {letters : List String}
    (h : ∀ word ∈ letters, word ∈ keywords ∧ word ≠ wholeRowWord) {body : List Piece}
    (hbody : Guards known bound body) : Guards known bound (clause letters body) :=
  cons blank (append (words h) (cons blank hbody))

theorem parenthesised {inside : List Piece} (h : Guards known bound inside) :
    Guards known bound (parenthesised inside) :=
  cons (mark (by decide)) (append h (mark (by decide)))

theorem commaSeparated {items : List (List Piece)} (h : ∀ item ∈ items, Guards known bound item) :
    Guards known bound (commaSeparated items) := by
  induction items with
  | nil => exact nil
  | cons first items ih =>
      have hfirst := h first List.mem_cons_self
      have hrest := ih fun item hitem => h item (List.mem_cons_of_mem _ hitem)
      cases items with
      | nil => exact hfirst
      | cons second items =>
          exact append (append hfirst (cons (mark (by decide)) blank)) hrest

theorem qualified {schema table : String} (hschema : known schema) (htable : known table) :
    Guards known bound (qualified schema table) :=
  cons (name hschema) (cons (mark (by decide)) (name htable))

theorem aliased {label : String} (h : known label) : Guards known bound (aliased label) :=
  clause (by decide) (name h)

theorem amount {keyword : String} (h : keyword ∈ keywords ∧ keyword ≠ wholeRowWord)
    (value : Option Nat) : Guards known bound (amount keyword value) := by
  cases value with
  | none => exact nil
  | some n => exact clause (fun word hword => List.mem_singleton.1 hword ▸ h) (integer n)

theorem listClause {letters : List String}
    (h : ∀ word ∈ letters, word ∈ keywords ∧ word ≠ wholeRowWord) {items : List (List Piece)}
    (hitems : ∀ item ∈ items, Guards known bound item) :
    Guards known bound (listClause letters items) := by
  rw [Sql.listClause]
  split
  · exact nil
  · exact clause h (commaSeparated hitems)

theorem whereClause {condition : Expr} (h : Guards known bound condition.pieces) :
    Guards known bound (whereClause condition condition.pieces) := by
  rw [Sql.whereClause]
  split
  · exact nil
  · exact clause (by decide) h

theorem and {left right : Expr} (hleft : Guards known bound left.pieces)
    (hright : Guards known bound right.pieces) : Guards known bound (left.and right).pieces := by
  rw [Expr.pieces]
  exact parenthesised (append hleft (clause (by decide) hright))

theorem or {left right : Expr} (hleft : Guards known bound left.pieces)
    (hright : Guards known bound right.pieces) : Guards known bound (left.or right).pieces := by
  rw [Expr.pieces]
  exact parenthesised (append hleft (clause (by decide) hright))

theorem operator (op : BinaryOp) : Guards known bound op.pieces := by
  cases op with
  | equals | notEquals | greaterThan => exact mark (by decide)
  | like | notLike => exact words (by decide)

theorem binary (op : BinaryOp) {left right : Expr} (hleft : Guards known bound left.pieces)
    (hright : Guards known bound right.pieces) :
    Guards known bound (Expr.binary op left right).pieces := by
  rw [Expr.pieces]
  exact parenthesised (append (append hleft (cons blank (operator op))) (cons blank hright))

theorem unary (op : UnaryOp) {operand : Expr} (h : Guards known bound operand.pieces) :
    Guards known bound (Expr.unary op operand).pieces := by
  rw [Expr.pieces]
  exact parenthesised (append h (cons blank (words (by cases op <;> decide))))

theorem function (function : Function) : Guards known bound [.word function.name] := by
  cases function <;> exact word (by decide) (by decide)

theorem all {args : List Expr} (h : ∀ arg ∈ args, Guards known bound arg.pieces) :
    ∀ item ∈ Expr.piecesOfAll args, Guards known bound item := by
  induction args with
  | nil => exact List.forall_mem_nil _
  | cons arg args ih =>
      rw [Expr.piecesOfAll]
      exact List.forall_mem_cons.2 ⟨h arg List.mem_cons_self,
        ih fun other hother => h other (List.mem_cons_of_mem _ hother)⟩

theorem call (f : Function) {args : List Expr}
    (h : ∀ arg ∈ args, Guards known bound arg.pieces) :
    Guards known bound (Expr.call f args).pieces := by
  rw [Expr.pieces]
  exact cons (function f) (parenthesised (commaSeparated (all h)))

theorem aggregate (f : Function) (distinct : Bool) {args : List Expr}
    (h : ∀ arg ∈ args, Guards known bound arg.pieces) :
    Guards known bound (Expr.aggregate f distinct args).pieces := by
  -- What stands before the arguments is a word or nothing.
  have hdistinct : Guards known bound (if distinct then [.word "DISTINCT", .blank] else []) := by
    split
    · exact cons (word (by decide) (by decide)) blank
    · exact nil
  rw [Expr.pieces]
  exact cons (function f) (parenthesised (append hdistinct (commaSeparated (all h))))

theorem case {condition result otherwise : Expr} (hcondition : Guards known bound condition.pieces)
    (hresult : Guards known bound result.pieces)
    (hotherwise : Guards known bound otherwise.pieces) :
    Guards known bound (Expr.case [(condition, result)] otherwise).pieces := by
  rw [Expr.pieces, Expr.piecesOfWhens, Expr.piecesOfWhens]
  have hwhen : Guards known bound (Sql.clause ["WHEN"] condition.pieces) :=
    clause (by decide) hcondition
  have hthen : Guards known bound (Sql.clause ["THEN"] result.pieces) :=
    clause (by decide) hresult
  have hend : Guards known bound [.blank, .word "END"] :=
    cons blank (word (by decide) (by decide))
  exact append (append (cons (word (by decide) (by decide)) (append (append hwhen hthen) nil))
    (clause (by decide) hotherwise)) hend

theorem «exists» {select : Select} (h : Guards known bound select.pieces) :
    Guards known bound (Expr.exists select).pieces := by
  rw [Expr.pieces]
  exact cons (word (by decide) (by decide)) (cons blank (parenthesised h))

/-- All columns may be taken of the rows of a page, which were selected by name. -/
theorem rowToJson : Guards known bound (Expr.rowToJson (.known rowsAlias)).pieces := by
  rw [Expr.pieces]
  exact ⟨fun _ => .wholeRow .nil, List.forall_mem_nil _⟩

theorem column {label name : String} (hlabel : known label) (hname : known name) :
    Guards known bound (Expr.column (.known label) name).pieces := by
  rw [Expr.pieces]
  exact cons (Guards.name hlabel) (cons (mark (by decide)) (Guards.name hname))

theorem columnOf {schema table name : String} (hschema : known schema) (htable : known table)
    (hname : known name) : Guards known bound (Expr.column (.table schema table) name).pieces := by
  rw [Expr.pieces]
  exact append (qualified hschema htable) (cons (mark (by decide)) (Guards.name hname))

theorem int (n : Int) : Guards known bound (Expr.int n).pieces := by
  rw [Expr.int, Expr.pieces]
  exact integer n

theorem string (s : String) : Guards known bound (Expr.string s).pieces := by
  rw [Expr.string, Expr.pieces]
  exact literal s

theorem value {v : Value} (h : Guards known bound v.pieces) :
    Guards known bound (Expr.value v).pieces := by
  rw [Expr.pieces]
  exact h

theorem cast {operand : Expr} {type : TypeName} (h : Guards known bound operand.pieces)
    (htype : Guards known bound type.pieces) :
    Guards known bound (Expr.cast operand type).pieces := by
  rw [Expr.pieces]
  exact cons (word (by decide) (by decide))
    (parenthesised (append h (clause (by decide) htype)))

theorem castTo {operand : Expr} {type : String} (h : Guards known bound operand.pieces)
    (htype : known type) : Guards known bound (operand.castTo type).pieces :=
  cast h (name htype)

theorem countAll : Guards known bound Expr.countAll.pieces := by
  rw [Expr.pieces]
  exact ⟨fun _ => .countAll .nil, List.forall_mem_nil _⟩

theorem countDistinct {operand : Expr} (h : Guards known bound operand.pieces) :
    Guards known bound (Expr.countDistinct operand).pieces := by
  rw [Expr.pieces]
  exact cons (word (by decide) (by decide))
    (parenthesised (cons (word (by decide) (by decide)) (cons blank h)))

theorem conjunction {conditions : List Expr} (h : ∀ e ∈ conditions, Guards known bound e.pieces) :
    Guards known bound (Expr.conjunction conditions).pieces := by
  refine Expr.conjunction_induction (P := fun e => Guards known bound e.pieces) ?_ and h
  exact value (word (by decide) (by decide))

theorem disjunction {conditions : List Expr} (h : ∀ e ∈ conditions, Guards known bound e.pieces) :
    Guards known bound (Expr.disjunction conditions).pieces := by
  refine Expr.disjunction_induction (P := fun e => Guards known bound e.pieces) ?_ or h
  exact value (word (by decide) (by decide))

theorem columns {entries : List (String × Expr)}
    (h : ∀ entry ∈ entries, known entry.1 ∧ Guards known bound entry.2.pieces) :
    Guards known bound (SelectList.columns entries).pieces := by
  rw [SelectList.pieces]
  refine commaSeparated ?_
  induction entries with
  | nil => exact List.forall_mem_nil _
  | cons entry entries ih =>
      have hentry := h entry List.mem_cons_self
      rw [Expr.piecesOfAliased]
      exact List.forall_mem_cons.2 ⟨append hentry.2 (aliased hentry.1),
        ih fun other hother => h other (List.mem_cons_of_mem _ hother)⟩

theorem ordered {entries : List (Expr × Direction)}
    (h : ∀ entry ∈ entries, Guards known bound entry.1.pieces) :
    ∀ item ∈ Expr.piecesOfOrdered entries, Guards known bound item := by
  induction entries with
  | nil => exact List.forall_mem_nil _
  | cons entry entries ih =>
      have hdirection : Guards known bound [.word entry.2.keyword] := by
        cases entry.2 <;> exact word (by decide) (by decide)
      rw [Expr.piecesOfOrdered]
      exact List.forall_mem_cons.2 ⟨append (h entry List.mem_cons_self) (cons blank hdirection),
        ih fun other hother => h other (List.mem_cons_of_mem _ hother)⟩

theorem sourceTable {schema table label : String} (hschema : known schema) (htable : known table)
    (hlabel : known label) :
    Guards known bound (Source.table (.table schema table) label).pieces := by
  rw [Source.pieces]
  exact append (cons (word (by decide) (by decide)) (cons blank (qualified hschema htable)))
    (aliased hlabel)

theorem sourceSelect {select : Select} {label : String} (h : Guards known bound select.pieces)
    (hlabel : known label) : Guards known bound (Source.select select label).pieces := by
  rw [Source.pieces]
  exact append (cons (word (by decide) (by decide)) (cons blank (parenthesised h)))
    (aliased hlabel)

/-- A document is unfolded into a row of a known table. -/
theorem unfolded {schema table : String} {document : Json.Document} (hschema : known schema)
    (htable : known table) (hpayload : known payloadAlias) (hdocument : bound document) :
    Guards known bound (Source.unfolded schema table document).pieces := by
  -- The document is the second argument; the first one only gives the type of the row.
  have hargs : ∀ arg ∈ [Expr.cast (.value .null) (.qualified schema table),
      .value (.json document)], Guards known bound arg.pieces := by
    refine List.forall_mem_cons.2 ⟨cast (value (word (by decide) (by decide)))
      (qualified hschema htable), List.forall_mem_singleton.2 (value (param hdocument))⟩
  rw [Source.unfolded, Source.pieces]
  exact append (cons (word (by decide) (by decide)) (cons blank
    (cons (function .jsonbPopulateRecord) (parenthesised (commaSeparated (all hargs))))))
    (aliased hpayload)

theorem sourceOption {source : Option Source}
    (h : ∀ s ∈ source, Guards known bound s.pieces) :
    Guards known bound (Source.piecesOfOption source) := by
  cases source with
  | none =>
      rw [Source.piecesOfOption]
      exact nil
  | some source =>
      rw [Source.piecesOfOption]
      exact cons blank (h source rfl)

theorem select {select : Select} (hlist : Guards known bound select.list.pieces)
    (hsource : ∀ source ∈ select.source, Guards known bound source.pieces)
    (hcondition : Guards known bound select.condition.pieces)
    (hgroupBy : ∀ e ∈ select.groupBy, Guards known bound e.pieces)
    (horderBy : ∀ entry ∈ select.orderBy, Guards known bound entry.1.pieces) :
    Guards known bound select.pieces := by
  rcases select with ⟨list, source, condition, groupBy, orderBy, limit, offset⟩
  have hhead : Guards known bound (.word "SELECT" :: .blank :: list.pieces) :=
    cons (word (by decide) (by decide)) (cons blank hlist)
  rw [Select.pieces]
  exact append (append (append (append (append (append hhead (sourceOption hsource))
    (whereClause hcondition)) (listClause (by decide) (all hgroupBy)))
    (listClause (by decide) (ordered horderBy))) (amount (by decide) limit))
    (amount (by decide) offset)

/-- A selection without groups and orderings. -/
theorem selectWhere {list : SelectList} {source : Option Source} {condition : Expr}
    (hlist : Guards known bound list.pieces)
    (hsource : ∀ s ∈ source, Guards known bound s.pieces)
    (hcondition : Guards known bound condition.pieces) :
    Guards known bound (Select.pieces ⟨list, source, condition, [], [], none, none⟩) :=
  select hlist hsource hcondition (List.forall_mem_nil _) (List.forall_mem_nil _)

/-- The rows of a guarded selection as a JSON array. -/
theorem asRows {inner : Select} (h : Guards known bound inner.pieces) (hrows : known rowsAlias) :
    Guards known bound inner.asRows.pieces := by
  have hcall : Guards known bound (Expr.call .coalesce
      [.call .jsonAgg [.rowToJson (.known rowsAlias)], .value .emptyJsonArray]).pieces :=
    call _ (List.forall_mem_cons.2 ⟨call _ (List.forall_mem_singleton.2 rowToJson),
      List.forall_mem_singleton.2 (value (literal "[]"))⟩)
  exact selectWhere (columns (List.forall_mem_singleton.2 ⟨hrows, hcall⟩))
    (fun _ hsource => Option.some.inj hsource ▸ sourceSelect h hrows)
    (conjunction (List.forall_mem_nil _))

/-- Each row of a guarded selection as a JSON object. -/
theorem asRow {inner : Select} (h : Guards known bound inner.pieces) (hrows : known rowsAlias)
    (hrow : known rowAlias) : Guards known bound inner.asRow.pieces :=
  selectWhere (columns (List.forall_mem_singleton.2 ⟨hrow, rowToJson⟩))
    (fun _ hsource => Option.some.inj hsource ▸ sourceSelect h hrows)
    (conjunction (List.forall_mem_nil _))

theorem insert {insert : Insert} (hschema : known insert.schema) (htable : known insert.table)
    (hcolumns : ∀ column ∈ insert.columns, known column)
    (hsource : Guards known bound insert.source.pieces)
    (hreturning : Guards known bound insert.returning.pieces) :
    Guards known bound insert.pieces := by
  -- An insertion of nothing but defaults lists no columns.
  have hlist : Guards known bound (if insert.columns.isEmpty then []
      else Sql.parenthesised (Sql.commaSeparated
        (insert.columns.map fun column => [.name column]))) := by
    split
    · exact nil
    · refine parenthesised (commaSeparated fun item hitem => ?_)
      rcases List.mem_map.1 hitem with ⟨column, hcolumn, rfl⟩
      exact name (hcolumns column hcolumn)
  rw [Insert.pieces]
  exact append (append (append (append (words (by decide)) (cons blank (qualified hschema htable)))
    hlist) (cons blank hsource)) (clause (by decide) hreturning)

theorem update {update : Update} (hschema : known update.schema) (htable : known update.table)
    (hlabel : known update.label)
    (hset : ∀ entry ∈ update.set.entries, known entry.1 ∧ Guards known bound entry.2.pieces)
    (hsource : ∀ source ∈ update.source, Guards known bound source.pieces)
    (hcondition : Guards known bound update.condition.pieces) :
    Guards known bound update.pieces := by
  have hitems : ∀ item ∈ update.set.entries.map fun entry =>
      Piece.name entry.1 :: .blank :: .mark "=" :: .blank :: entry.2.pieces,
      Guards known bound item := by
    intro item hitem
    rcases List.mem_map.1 hitem with ⟨entry, hentry, rfl⟩
    have hparts := hset entry hentry
    exact cons (name hparts.1) (cons blank (cons (mark (by decide)) (cons blank hparts.2)))
  have hhead : Guards known bound
      (.word "UPDATE" :: .blank :: Sql.qualified update.schema update.table) :=
    cons (word (by decide) (by decide)) (cons blank (qualified hschema htable))
  rw [Update.pieces]
  exact append (append (append (append hhead (aliased hlabel))
    (clause (by decide) (commaSeparated hitems))) (sourceOption hsource)) (whereClause hcondition)

theorem delete {delete : Delete} (hsource : Guards known bound delete.source.pieces)
    (hcondition : Guards known bound delete.condition.pieces) :
    Guards known bound delete.pieces := by
  rw [Delete.pieces]
  exact append (cons (word (by decide) (by decide)) (cons blank hsource)) (whereClause hcondition)

end Guards

end Sql

end Registrar
