import Registrar.Proofs.Sql.Columns
import Registrar.Sql.Build

/-!
# What Names Stand For

A statement gives an alias to each relation that it reads and refers to its columns through
that alias. The database does not accept one alias for two relations of the same statement, so
an alias stands for a relation only if no other one bears it.

A whole row is referred to by a name with no table in front, and such a name is looked for
among the columns first. It stands for the rows only if none of the columns is called so. The
columns of a selection inside are those that it returns, under the names that it gives them.

## Main definitions

* `Relation`, `Update.relations`: What is in range of an update.
* `relation?`: The relation that an alias stands for.
* `Update.Resolves`: The columns of an update belong to the relations that they should.
* `SelectList.wholeRows`: The names whose rows a selection turns into JSON.
* `Meaning`, `Source.meaning?`: What a name with no table in front stands for.
* `Select.FindsRows`: These names stand for rows.

## Theorems

* `relation?_pair`, `relation?_pair_same`: Two relations, with different aliases and with one.
* `Select.findsRows_asRow_iff`, `Select.findsRows_asRows_iff`: When a wrapping finds the rows
  that it wraps.
-/

namespace Registrar

namespace Sql

/-- A relation in range of a statement: the rows of a table that are to be changed, or rows
    that come from a source. -/
inductive Relation
  | changed (schema table : String)
  | rows (source : Source)

/-- The alias of a source of rows. -/
def Source.label : Source → String
  | .table _ label => label
  | .select _ label => label
  | .call _ _ label => label

/-- The relations in range of an update, under their aliases. -/
def Update.relations (update : Update) : List (String × Relation) :=
  (update.label, .changed update.schema update.table) ::
    (update.source.map fun source => (source.label, Relation.rows source)).toList

/-- The relation that an alias stands for, if it is the alias of just one. -/
def relation? (relations : List (String × Relation)) (label : String) : Option Relation :=
  match relations.filter fun entry => entry.1 = label with
  | [entry] => some entry.2
  | _ => none

/-- Two relations with different aliases are told apart. -/
theorem relation?_pair {first second : String} (one other : Relation) (h : first ≠ second) :
    relation? [(first, one), (second, other)] first = some one ∧
      relation? [(first, one), (second, other)] second = some other := by
  unfold relation?
  simp [List.filter, h, h.symm]

/-- With one alias for both it stands for neither. -/
theorem relation?_pair_same {label : String} {one other : Relation} :
    relation? [(label, one), (label, other)] label = none := by
  unfold relation?
  simp [List.filter]

/-- All columns of an expression belong to one relation. -/
def Expr.RefersTo (relations : List (String × Relation)) (relation : Relation) (expr : Expr) :
    Prop :=
  ∀ column ∈ expr.columns,
    ∃ label, column.1 = .known label ∧ relation? relations label = some relation

/-- The columns of an update belong to the relations that they should: those that are set to,
    and those of the condition. -/
structure Update.Resolves (update : Update) (values condition : Relation) : Prop where
  set : ∀ entry ∈ update.set.entries, entry.2.RefersTo update.relations values
  condition : update.condition.RefersTo update.relations condition

mutual

/-- The names whose rows an expression turns into JSON. What stands in a selection inside is
    looked for there. -/
def Expr.wholeRows : Expr → List TableRef
  | .and left right => left.wholeRows ++ right.wholeRows
  | .or left right => left.wholeRows ++ right.wholeRows
  | .binary _ left right => left.wholeRows ++ right.wholeRows
  | .unary _ operand => operand.wholeRows
  | .call _ args => Expr.wholeRowsOfAll args
  | .aggregate _ _ args => Expr.wholeRowsOfAll args
  | .case whens otherwise => Expr.wholeRowsOfWhens whens ++ otherwise.wholeRows
  | .exists _ => []
  | .rowToJson table => [table]
  | .column _ _ => []
  | .value _ => []
  | .cast operand _ => operand.wholeRows
  | .countAll => []
  | .countDistinct operand => operand.wholeRows

/-- Those of every expression of a list. -/
def Expr.wholeRowsOfAll : List Expr → List TableRef
  | [] => []
  | expr :: rest => expr.wholeRows ++ Expr.wholeRowsOfAll rest

/-- Those of every arm of a case distinction. -/
def Expr.wholeRowsOfWhens : List (Expr × Expr) → List TableRef
  | [] => []
  | (condition, result) :: rest =>
    condition.wholeRows ++ result.wholeRows ++ Expr.wholeRowsOfWhens rest

end

/-- The names whose rows a selection turns into JSON. -/
def SelectList.wholeRows : SelectList → List TableRef
  | .one => []
  | .columns entries => entries.flatMap fun entry => entry.2.wholeRows

/-- The names of the columns that a selection returns. -/
def SelectList.labels : SelectList → List String
  | .one => []
  | .columns entries => entries.map Prod.fst

/-- What a name with no table in front stands for. -/
inductive Meaning
  | column
  | rows
  deriving DecidableEq

/-- What such a name stands for among the rows of a selection: a column, if there is one of
    that name, and only otherwise the rows. Of the rows of a table or a function it is not
    known here which columns they have. -/
def Source.meaning? (name : String) : Source → Option Meaning
  | .select inner label =>
    if name ∈ inner.list.labels then some .column
    else if name = label then some .rows
    else none
  | .table _ _ => none
  | .call _ _ _ => none

/-- The names whose rows a selection turns into JSON stand for rows. -/
def Select.FindsRows (select : Select) : Prop :=
  ∀ table ∈ select.list.wholeRows, ∃ name source, table = .known name ∧
    select.source = some source ∧ source.meaning? name = some .rows

namespace Select

variable {inner : Select}

/-- Among the rows of a selection, the alias of these rows stands for them unless a column is
    called so. -/
theorem meaning?_rowsAlias :
    (Source.select inner rowsAlias).meaning? rowsAlias = some .rows ↔
      rowsAlias ∉ inner.list.labels := by
  rw [Source.meaning?]
  by_cases h : rowsAlias ∈ inner.list.labels
  · rw [if_pos h]
    exact iff_of_false nofun (not_not_intro h)
  · rw [if_neg h, if_pos rfl]
    exact iff_of_true rfl h

/-- What turns one name into JSON finds its rows if the name stands for them. -/
theorem findsRows_iff {select : Select} {source : Source} {name : String}
    (hlist : select.list.wholeRows = [.known name]) (hsource : select.source = some source) :
    select.FindsRows ↔ source.meaning? name = some .rows := by
  constructor
  · intro h
    rcases h (.known name) (by rw [hlist]; exact List.mem_singleton_self _) with
      ⟨_, _, hname, hsame, hmeaning⟩
    cases hname
    cases hsource.symm.trans hsame
    exact hmeaning
  · intro h table htable
    rw [hlist] at htable
    exact ⟨name, source, List.mem_singleton.1 htable, hsource, h⟩

/-- A record is found if none of its columns bears the name of the rows. -/
theorem findsRows_asRow_iff : inner.asRow.FindsRows ↔ rowsAlias ∉ inner.list.labels :=
  (findsRows_iff rfl rfl).trans meaning?_rowsAlias

/-- So are the rows of a page. -/
theorem findsRows_asRows_iff : inner.asRows.FindsRows ↔ rowsAlias ∉ inner.list.labels :=
  (findsRows_iff rfl rfl).trans meaning?_rowsAlias

end Select

end Sql

end Registrar
