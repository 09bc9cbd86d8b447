import Registrar.Proofs.Sql.Scope
import Registrar.Proofs.Sql.Unique

/-!
# Conditions That Pick Rows

A statement that changes or removes a record is meant for the rows in which some columns
hold given integers. Its condition compares each of the columns with its integer, and joins
the comparisons. Such a condition is decided on every row, and it is true of just those rows
that are meant. Without any comparison it would be true of all rows, and would not even be
written.

What is executed is a text, so what is known of a statement is to be known of every statement
with the same text. Texts are read in one way, up to the canonical form, and a plain condition
is the only one that has its canonical form. So the condition of an update or of a removal
can be told from the text.

## Main definitions

* `Expr.comparison`: A column holds an integer.
* `Expr.Picks`: A condition picks the rows in which columns hold integers.
* `Expr.Plain`: A condition is made of comparisons.
* `Text.Confined`: What is changed or removed by a text is as it is allowed.

## Theorems

* `Expr.picks_conjunction`: Comparisons pick the rows that are meant.
* `Expr.Plain.eq_of_canonical`: A plain condition is told by its canonical form.
* `Update.parts_of_text`, `Delete.parts_of_text`: What the texts of updates and removals tell.
-/

namespace Registrar

namespace Sql

namespace Expr

/-- A column of the row under an alias holds an integer. -/
def comparison (label : String) (value : String × Int) : Expr :=
  .equals (.column (.known label) value.1) (.int value.2)

/-- A condition picks the rows in which columns hold integers: it is written after `WHERE`,
    and whatever is stored and whatever else is in scope, it is true of just these rows. -/
def Picks (label : String) (values : List (String × Int)) (condition : Expr) : Prop :=
  whereClause condition condition.pieces = clause ["WHERE"] condition.pieces ∧
    ∀ (database : Database) (scope : Scope) (row : Row), scope.lookup label = some row →
      ∃ truth, condition.truth? database scope = some truth ∧
        (truth = .true ↔ ∀ value ∈ values, row value.1 = .integer value.2)

variable {label : String} {values : List (String × Int)}

theorem truth?_comparison {database : Database} {scope : Scope} {row : Row}
    (h : scope.lookup label = some row) (value : String × Int) :
    (comparison label value).truth? database scope =
      some ((row value.1).equals (.integer value.2)) := by
  have hcolumn : (column (.known label) value.1).datum? scope = some (row value.1) := by
    rw [datum?, h]
    rfl
  exact truth?_equals hcolumn rfl

/-- Comparisons pick the rows that are meant, if there are any comparisons. -/
theorem picks_conjunction (hne : values ≠ []) :
    (conjunction (values.map (comparison label))).Picks label values := by
  have htrivial : (conjunction (values.map (comparison label))).isTrivial = Bool.false := by
    refine isTrivial_conjunction (mt List.map_eq_nil_iff.1 hne) fun condition hmem => ?_
    rcases List.mem_map.1 hmem with ⟨value, -, rfl⟩
    rfl
  constructor
  · rw [whereClause, htrivial, if_neg Bool.false_ne_true]
  · intro database scope row hrow
    refine ⟨_, truth?_conjunction (truth?_comparison hrow) values, ?_⟩
    rw [Truth.all_eq_true_iff, List.forall_mem_map]
    refine forall₂_congr fun value _ => ?_
    rw [Datum.equals_eq_true_iff]
    -- A datum that is an integer is not missing.
    refine and_iff_left_of_imp fun hinteger hnull => ?_
    cases hinteger.symm.trans hnull

/-- A condition is made of comparisons. -/
inductive Plain : Expr → Prop
  | comparison (label : String) (value : String × Int) : Plain (comparison label value)
  | and {left right : Expr} (hleft : left.Plain) (hright : right.Plain) : Plain (.and left right)

theorem plain_conjunction (hne : values ≠ []) :
    (conjunction (values.map (comparison label))).Plain := by
  -- The comparisons are joined from the left, so the first one grows.
  have hchain : ∀ (rest : List (String × Int)) {first : Expr}, first.Plain →
      ((rest.map (comparison label)).foldl and first).Plain := by
    intro rest
    induction rest with
    | nil => exact fun hfirst => hfirst
    | cons next rest ih => exact fun hfirst => ih (.and hfirst (.comparison label next))
  cases values with
  | nil => exact absurd rfl hne
  | cons first rest => exact hchain rest (.comparison label first)

variable {expr : Expr}

theorem exists_of_canonical_and {left right : Expr} (h : expr.canonical = .and left right) :
    ∃ left' right', expr = .and left' right' ∧ left'.canonical = left ∧
      right'.canonical = right := by
  cases expr with
  | and left' right' =>
      rw [canonical] at h
      cases h
      exact ⟨left', right', rfl, rfl, rfl⟩
  | aggregate function distinct args =>
      cases distinct with
      | false | true =>
          rw [canonical] at h
          cases h
  | or | binary | unary | call | case | «exists» | rowToJson | column | value | cast | countAll
    | countDistinct =>
      rw [canonical] at h
      cases h

theorem exists_of_canonical_binary {op : BinaryOp} {left right : Expr}
    (h : expr.canonical = .binary op left right) :
    ∃ left' right', expr = .binary op left' right' ∧ left'.canonical = left ∧
      right'.canonical = right := by
  cases expr with
  | binary op' left' right' =>
      rw [canonical] at h
      cases h
      exact ⟨left', right', rfl, rfl, rfl⟩
  | aggregate function distinct args =>
      cases distinct with
      | false | true =>
          rw [canonical] at h
          cases h
  | and | or | unary | call | case | «exists» | rowToJson | column | value | cast | countAll
    | countDistinct =>
      rw [canonical] at h
      cases h

/-- A condition without parts. -/
def isAtom : Expr → Bool
  | column _ _ | value (.int _) => Bool.true
  | _ => Bool.false

theorem eq_of_canonical_atom (h : expr.canonical.isAtom = Bool.true) :
    expr.canonical = expr := by
  cases expr with
  | column table name => rw [canonical]
  | value value =>
      rw [canonical] at h ⊢
      cases value with
      | emptyJsonArray => cases h
      | int | bool | string | null | json => rfl
  | aggregate function distinct args =>
      cases distinct with
      | false | true =>
          rw [canonical] at h
          cases h
  | and | or | binary | unary | call | case | «exists» | rowToJson | cast | countAll
    | countDistinct =>
      rw [canonical] at h
      cases h

/-- A plain condition is the only one that has it for a canonical form. -/
theorem Plain.eq_of_canonical {plain : Expr} (h : plain.Plain) (hsame : expr.canonical = plain) :
    expr = plain := by
  induction h generalizing expr with
  | comparison label value =>
      -- Both operands are atoms, and these have no other form.
      rcases exists_of_canonical_binary hsame with ⟨left, right, rfl, hleft, hright⟩
      have hcolumn : left.canonical = left := eq_of_canonical_atom (hleft ▸ rfl)
      have hinteger : right.canonical = right := eq_of_canonical_atom (hright ▸ rfl)
      rw [← hcolumn, ← hinteger, hleft, hright]
      rfl
  | and hleft hright ihleft ihright =>
      rcases exists_of_canonical_and hsame with ⟨left, right, rfl, hsameleft, hsameright⟩
      rw [ihleft hsameleft, ihright hsameright]

/-- A plain condition is its own canonical form. -/
theorem Plain.canonical_eq {plain : Expr} (h : plain.Plain) : plain.canonical = plain := by
  induction h with
  | comparison label value => rfl
  | and hleft hright ihleft ihright => rw [canonical, ihleft, ihright]

/-- So it is told by its canonical form. -/
theorem Plain.eq_of_same {plain : Expr} (h : plain.Plain)
    (hsame : expr.canonical = plain.canonical) : expr = plain :=
  h.eq_of_canonical (hsame.trans h.canonical_eq)

end Expr

theorem Statement.canonical_eq {first second : Statement} (h : first.text = second.text) :
    first.canonical = second.canonical :=
  canonical_eq_of_text (congrArg Text.text h) (congrArg Text.params h)

/-- The text of an update tells which table is changed and which columns are set, and also
    the condition if that is plain. -/
theorem Update.parts_of_text {update other : Update}
    (h : (Statement.update other).text = (Statement.update update).text)
    (hplain : update.condition.Plain) :
    other.schema = update.schema ∧ other.table = update.table ∧ other.label = update.label ∧
      other.set.names = update.set.names ∧ other.condition = update.condition := by
  have hcanonical := Statement.canonical_eq h
  simp only [Statement.canonical, Update.canonical, Statement.update.injEq, Update.mk.injEq]
    at hcanonical
  rcases hcanonical with ⟨hschema, htable, hlabel, hset, -, hcondition⟩
  -- The columns that are set keep their names in the canonical form.
  have hnames : ∀ members : Sorted Expr,
      (members.mapValues Expr.canonical).names = members.names := by
    exact fun members => List.map_map
  refine ⟨hschema, htable, hlabel, ?_, hplain.eq_of_same hcondition⟩
  rw [← hnames, hset, hnames]

/-- The text of a removal from a table tells which table that is, and also the condition if
    that is plain. -/
theorem Delete.parts_of_text {delete other : Delete} {table : TableRef} {label : String}
    (h : (Statement.delete other).text = (Statement.delete delete).text)
    (hsource : delete.source = .table table label) (hplain : delete.condition.Plain) :
    other.source = .table table label ∧ other.condition = delete.condition := by
  have hcanonical := Statement.canonical_eq h
  simp only [Statement.canonical, Delete.canonical, Statement.delete.injEq, Delete.mk.injEq]
    at hcanonical
  rcases hcanonical with ⟨hsame, hcondition⟩
  refine ⟨?_, hplain.eq_of_same hcondition⟩
  rw [hsource] at hsame
  cases hother : other.source with
  | table table' label' =>
      rw [hother] at hsame
      exact hsame
  | select inner label' =>
      rw [hother] at hsame
      simp only [Source.canonical, reduceCtorEq] at hsame
  | call function args label' =>
      rw [hother] at hsame
      simp only [Source.canonical, reduceCtorEq] at hsame

/-- A text is that of a statement, and every update and every removal that has this text is
    one that is allowed. -/
structure Text.Confined (changes : Update → Prop) (removes : Delete → Prop) (sql : Text) :
    Prop where
  statement : ∃ statement : Statement, sql = statement.text
  change : ∀ update, sql = (Statement.update update).text → changes update
  removal : ∀ delete, sql = (Statement.delete delete).text → removes delete

variable {changes : Update → Prop} {removes : Delete → Prop}

theorem confined_select (select : Select) :
    (Statement.select select).text.Confined changes removes where
  statement := ⟨_, rfl⟩
  change := by
    intro update h
    cases Statement.canonical_eq h
  removal := by
    intro delete h
    cases Statement.canonical_eq h

theorem confined_insert (insert : Insert) :
    (Statement.insert insert).text.Confined changes removes where
  statement := ⟨_, rfl⟩
  change := by
    intro update h
    cases Statement.canonical_eq h
  removal := by
    intro delete h
    cases Statement.canonical_eq h

theorem confined_update {update : Update}
    (hallowed : ∀ other, (Statement.update other).text = (Statement.update update).text →
      changes other) : (Statement.update update).text.Confined changes removes where
  statement := ⟨_, rfl⟩
  change := fun other h => hallowed other h.symm
  removal := by
    intro delete h
    cases Statement.canonical_eq h

theorem confined_delete {delete : Delete}
    (hallowed : ∀ other, (Statement.delete other).text = (Statement.delete delete).text →
      removes other) : (Statement.delete delete).text.Confined changes removes where
  statement := ⟨_, rfl⟩
  change := by
    intro update h
    cases Statement.canonical_eq h
  removal := fun other h => hallowed other h.symm

end Sql

end Registrar
