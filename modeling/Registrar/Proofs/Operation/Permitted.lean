import Registrar.Proofs.Form.Fits
import Registrar.Proofs.Listing.Permitted
import Registrar.Proofs.Operation.Holds

/-!
# What Operations Say

An operation on the built-in catalog only executes permitted statements: it opens no
connection and delimits no transaction, because that is done around it, and each of its
statements is one of those that were shown to be permitted. Which statements come when
depends on the replies, but their kind does not.

## Main definitions

* `Executes`: A command executes a permitted statement.

## Theorems

* `Operation.executes_list`, `Operation.executes_createOne` and their like: Every command
  of an operation executes a permitted statement.
-/

namespace Registrar

/-- A command executes a permitted statement. -/
def Executes (command : Command) : Prop :=
  ∃ sql : Sql.Text, command = .execute sql ∧ sql.Permitted

/-- A permitted statement may be executed. -/
theorem Executes.of_permitted {sql : Sql.Text} (h : sql.Permitted) : Executes (.execute sql) :=
  ⟨sql, rfl, h⟩

namespace Operation

variable {collection : String} {listed : Listed}

theorem executes_list {restriction : Option Restriction} {params : Params} {plan : ListingPlan}
    (h : ListingPlan.ofParams .builtin collection restriction params = .ok plan) :
    (list plan).Holds Executes fun _ => True := by
  rcases ListingPlan.permitted_of_ofParams h with ⟨hrows, hcount⟩
  exact holds_list (.of_permitted hrows) (.of_permitted hcount)

/-- To look for a record is permitted. -/
theorem executes_select {id : Int} {select : Sql.Select}
    (h : Record.select .builtin collection id = .ok select) : Executes (.execute select.text) :=
  .of_permitted (Record.permitted_of_select h)

theorem executes_getOne (id : Int) :
    (getOne .builtin collection id).Holds Executes fun _ => True :=
  holds_getOne fun _ => executes_select

/-- The record for a payload that fits is one of columns. -/
theorem recordFor_of_fits {payload : Payload}
    (hlisted : Catalog.builtin.find collection = .ok listed)
    (hpayload : payload.Fits listed.table) :
    ∃ record, recordFor .builtin collection payload = .ok record ∧
      record.Registered listed.table := by
  rcases Payload.record_of_fits hpayload with ⟨record, hrecord, hregistered⟩
  refine ⟨record, ?_, hregistered⟩
  rw [recordFor, hlisted]
  exact hrecord

theorem executes_createOne {payload : Payload}
    (hlisted : Catalog.builtin.find collection = .ok listed)
    (hpayload : payload.Fits listed.table) :
    (createOne .builtin collection payload).Holds Executes fun _ => True := by
  rcases recordFor_of_fits hlisted hpayload with ⟨record, hrecord, hregistered⟩
  refine holds_createOne (fun found insert hfound hinsert => ?_) fun _ _ => executes_select
  cases hrecord.symm.trans hfound
  exact .of_permitted (Record.permitted_of_insert hlisted hregistered hinsert)

theorem executes_updateOne {payload : Payload} (id : Int)
    (hlisted : Catalog.builtin.find collection = .ok listed)
    (hpayload : payload.Fits listed.table) :
    (updateOne .builtin collection id payload).Holds Executes fun _ => True := by
  rcases recordFor_of_fits hlisted hpayload with ⟨record, hrecord, hregistered⟩
  refine holds_updateOne (fun _ => executes_select) fun found update hfound hupdate => ?_
  cases hrecord.symm.trans hfound
  exact .of_permitted (Record.permitted_of_update hlisted hregistered hupdate)

theorem executes_deleteOne (id : Int) :
    (deleteOne .builtin collection id).Holds Executes fun _ => True :=
  holds_deleteOne (fun _ => executes_select) fun _ hdelete =>
    .of_permitted (Record.permitted_of_delete hdelete)

theorem executes_deleteMatching (values : List (String × Int)) :
    (deleteMatching .builtin collection values).Holds Executes fun _ => True :=
  holds_deleteMatching fun _ hdelete => .of_permitted (Record.permitted_of_deleteWhere hdelete)

end Operation

end Registrar
