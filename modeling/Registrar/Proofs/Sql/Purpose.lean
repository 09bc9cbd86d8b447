import Registrar.Proofs.Sql.Unique
import Registrar.Sql.Build

/-!
# What Statements Are For

A statement is executed for the sake of a page of rows, of a count, of the key of an
inserted record, or of a record; of all others only the effect matters. A selection tells by
the name of the column that it returns.

Texts are read in one way only, so a text has one purpose: the same text is not sent now for
a count and now for a record.

## Main definitions

* `Purpose`: What a statement is executed for.
* `Statement.purpose`: The purpose of a statement.
* `Text.Serves`: A text is that of a statement with a purpose.

## Theorems

* `Statement.purpose_canonical`: The purpose can be told from the canonical form.
* `Text.Serves.unique`: A text serves one purpose.
-/

namespace Registrar

namespace Sql

/-- What a statement is executed for. -/
inductive Purpose
  | page
  | count
  | key
  | record
  | effect
  deriving DecidableEq, Repr

/-- The purpose of a selection, by the name of its first column. -/
def Select.purpose (select : Select) : Purpose :=
  match select.list with
  | .columns ((label, _) :: _) =>
    if label = rowsAlias then .page
    else if label = countAlias then .count
    else if label = rowAlias then .record
    else .effect
  | _ => .effect

/-- The purpose of a statement. -/
def Statement.purpose : Statement → Purpose
  | select inner => inner.purpose
  | insert _ => .key
  | update _ | delete _ => .effect

/-- Names of columns are the same in the canonical form. -/
theorem Select.purpose_canonical (select : Select) : select.canonical.purpose = select.purpose := by
  rcases select with ⟨list, source, condition, groupBy, orderBy, limit, offset⟩
  cases list with
  | one => rfl
  | columns entries => cases entries <;> rfl

theorem Statement.purpose_canonical (statement : Statement) :
    statement.canonical.purpose = statement.purpose := by
  cases statement with
  | select inner => exact inner.purpose_canonical
  | insert | update | delete => rfl

/-- A text is that of a statement with a certain purpose. -/
def Text.Serves (sql : Text) (purpose : Purpose) : Prop :=
  ∃ statement : Statement, sql = statement.text ∧ statement.purpose = purpose

/-- A text serves one purpose, because it is read in one way. -/
theorem Text.Serves.unique {sql : Text} {purpose other : Purpose} (h : sql.Serves purpose)
    (hother : sql.Serves other) : purpose = other := by
  rcases h with ⟨first, rfl, rfl⟩
  rcases hother with ⟨second, hsame, rfl⟩
  have hcanonical : first.canonical = second.canonical :=
    Statement.canonical_eq_of_text (congrArg Text.text hsame) (congrArg Text.params hsame)
  rw [← first.purpose_canonical, hcanonical, second.purpose_canonical]

theorem serves_asRows (select : Select) : select.asRows.text.Serves .page :=
  ⟨.select select.asRows, rfl, rfl⟩

theorem serves_asRow (select : Select) : select.asRow.text.Serves .record :=
  ⟨.select select.asRow, rfl, rfl⟩

theorem serves_count (source : Source) (condition : Expr) :
    (Select.count source condition).text.Serves .count :=
  ⟨.select (.count source condition), rfl, rfl⟩

theorem serves_insert (insert : Insert) : (Statement.insert insert).text.Serves .key :=
  ⟨.insert insert, rfl, rfl⟩

theorem serves_delete (delete : Delete) : (Statement.delete delete).text.Serves .effect :=
  ⟨.delete delete, rfl, rfl⟩

end Sql

end Registrar
