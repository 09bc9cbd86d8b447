import Registrar.Proofs.Operation.Success

/-!
# Single Operations

What a request does is put together from operations of six kinds. Each is given something
that was made sure of beforehand: a listing that could be planned, a collection that is in
the catalog, a payload that fits its table, columns that exist. `Operation.Single` says
which operations these are and what is known of what they are given, so that a property of
all of them is one case analysis, and what is put together from them needs none.

## Main definitions

* `Operation.Single`: A listing, or an operation on single records, that is in order.

## Theorems

* `Operation.Single.executes`: It executes permitted statements only.
* `Operation.Single.hopeful`: It asks nothing in vain.
-/

namespace Registrar

namespace Operation

/-- An operation that is given what it needs, and what it is counted as. -/
inductive Single : {α : Type} → Counter → Operation α → Prop
  | list {collection : String} {restriction : Option Restriction} {params : Params}
      {plan : ListingPlan}
      (hplan : ListingPlan.ofParams .builtin collection restriction params = .ok plan) :
      Single .listings (list plan)
  | getOne {collection : String} {listed : Listed}
      (hlisted : Catalog.builtin.find collection = .ok listed) (id : Int) :
      Single .recordOperations (getOne .builtin collection id)
  | createOne {collection : String} {listed : Listed} {payload : Payload}
      (hlisted : Catalog.builtin.find collection = .ok listed)
      (hpayload : payload.Fits listed.table) :
      Single .recordOperations (createOne .builtin collection payload)
  | updateOne {collection : String} {listed : Listed} {payload : Payload} (id : Int)
      (hlisted : Catalog.builtin.find collection = .ok listed)
      (hpayload : payload.Fits listed.table) :
      Single .recordOperations (updateOne .builtin collection id payload)
  | deleteOne {collection : String} {listed : Listed}
      (hlisted : Catalog.builtin.find collection = .ok listed) (id : Int) :
      Single .recordOperations (deleteOne .builtin collection id)
  | deleteMatching {collection : String} {listed : Listed} {values : List (String × Int)}
      (hlisted : Catalog.builtin.find collection = .ok listed)
      (hcolumns : ∀ value ∈ values, (listed.table.column? value.1).isSome) :
      Single .recordOperations (deleteMatching .builtin collection values)

namespace Single

variable {α : Type} {counter : Counter} {operation : Operation α}

theorem executes (h : Single counter operation) : operation.Holds Executes fun _ => True := by
  cases h with
  | list hplan => exact executes_list hplan
  | getOne hlisted id => exact executes_getOne id
  | createOne hlisted hpayload => exact executes_createOne hlisted hpayload
  | updateOne id hlisted hpayload => exact executes_updateOne id hlisted hpayload
  | deleteOne hlisted id => exact executes_deleteOne id
  | deleteMatching hlisted hcolumns => exact executes_deleteMatching _

/-- What is hoped for is not the same for all of them. -/
theorem hopeful (h : Single counter operation) :
    ∃ Q : α → Prop, operation.Hopeful True Q := by
  cases h with
  | list hplan => exact ⟨_, hopeful_list _⟩
  | getOne hlisted id => exact ⟨_, hopeful_getOne hlisted id⟩
  | createOne hlisted hpayload => exact ⟨_, hopeful_createOne hlisted hpayload⟩
  | updateOne id hlisted hpayload => exact ⟨_, hopeful_updateOne id hlisted hpayload⟩
  | deleteOne hlisted id => exact ⟨_, hopeful_deleteOne hlisted id⟩
  | deleteMatching hlisted hcolumns => exact ⟨_, hopeful_deleteMatching hlisted hcolumns⟩

end Single

end Operation

end Registrar
