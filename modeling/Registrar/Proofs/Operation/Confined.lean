import Registrar.Proofs.Operation.Holds
import Registrar.Proofs.Record.Touched

/-!
# What Operations Touch

Listings, searches and insertions change and remove nothing. The other operations on single
records execute one statement that does, and which rows that touches is known: the record
with the id, or the rows in which the columns hold the integers that were given. So an
operation is confined to what is allowed, as soon as this is.

## Main definitions

* `Command.Confined`: A command changes and removes only what is allowed.

## Theorems

* `Operation.confined_list`, `Operation.confined_createOne` and their like: Nothing is
  changed or removed.
* `Operation.confined_updateOne`, `Operation.confined_deleteOne`,
  `Operation.confined_deleteMatching`: What is has to be allowed.
-/

namespace Registrar

open Sql

/-- A command changes and removes only what is allowed. -/
def Command.Confined (changes : Update → Prop) (removes : Delete → Prop) (command : Command) :
    Prop :=
  ∀ sql, command = .execute sql → sql.Confined changes removes

variable {changes : Update → Prop} {removes : Delete → Prop}

theorem Command.confined_execute {sql : Sql.Text} (h : sql.Confined changes removes) :
    (Command.execute sql).Confined changes removes := by
  intro found hfound
  cases hfound
  exact h

namespace Operation

variable {catalog : Catalog} {collection : String} {listed : Listed} {id : Int}
  {payload : Payload} {values : List (String × Int)}

/-- A selection touches nothing. -/
theorem confined_selection (select : Select) :
    (Command.execute select.text).Confined changes removes :=
  Command.confined_execute (confined_select select)

theorem confined_list (plan : ListingPlan) :
    (list plan).Holds (Command.Confined changes removes) fun _ => True :=
  holds_list (confined_selection plan.rows) (confined_selection plan.count)

theorem confined_getOne :
    (getOne catalog collection id).Holds (Command.Confined changes removes) fun _ => True :=
  holds_getOne fun select _ => confined_selection select

theorem confined_createOne :
    (createOne catalog collection payload).Holds (Command.Confined changes removes)
      fun _ => True := by
  refine holds_createOne (fun record insert _ _ => ?_) fun _ select _ => confined_selection select
  exact Command.confined_execute (confined_insert insert)

/-- The record with the id may be changed, if the payload has no member for the primary
    key. -/
theorem confined_updateOne (hlisted : catalog.find collection = .ok listed)
    (hprimary : ∀ record, recordFor catalog collection payload = .ok record →
      listed.table.primaryKey ∉ record.names)
    (hallowed : ∀ update : Update, update.Touches listed.table [(listed.table.primaryKey, id)] →
      changes update) :
    (updateOne catalog collection id payload).Holds (Command.Confined changes removes)
      fun _ => True := by
  refine holds_updateOne (fun select _ => confined_selection select) ?_
  intro record update hrecord hupdate
  refine Command.confined_execute (confined_update fun other hsame => hallowed other ?_)
  exact Record.touches_of_update? hlisted hupdate (hprimary record hrecord) hsame

/-- The record with the id may be removed. -/
theorem confined_deleteOne (hlisted : catalog.find collection = .ok listed)
    (hallowed : ∀ delete : Delete, delete.Touches listed.table [(listed.table.primaryKey, id)] →
      removes delete) :
    (deleteOne catalog collection id).Holds (Command.Confined changes removes) fun _ => True := by
  refine holds_deleteOne (fun select _ => confined_selection select) ?_
  intro delete hdelete
  refine Command.confined_execute (confined_delete fun other hsame => hallowed other ?_)
  exact Record.touches_of_delete hlisted hdelete hsame

/-- The rows in which the columns hold the integers may be removed. -/
theorem confined_deleteMatching (hlisted : catalog.find collection = .ok listed)
    (hne : values ≠ [])
    (hallowed : ∀ delete : Delete, delete.Touches listed.table values → removes delete) :
    (deleteMatching catalog collection values).Holds (Command.Confined changes removes)
      fun _ => True := by
  refine holds_deleteMatching fun delete hdelete => ?_
  refine Command.confined_execute (confined_delete fun other hsame => hallowed other ?_)
  exact Record.touches_of_deleteWhere hlisted hdelete hne hsame

end Operation

end Registrar
