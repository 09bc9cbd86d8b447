import Registrar.Listing.Plan
import Registrar.Operation.Error
import Registrar.Record.Payload
import Registrar.Session.Basic

/-!
# Operations

The things that are done over one connection: run a listing, and get, create,
update or delete a record. Each is a session that may fail. A record is checked
for before it is changed or deleted, and read back after it was written, so that
the values which the database filled in are seen.

An operation is counted when it has succeeded. What happens afterwards, such as
the end of the transaction it is part of, does not take that back.

## Main definitions

* `Operation`: A session that may fail.
* `Operation.list`: Run a listing.
* `Operation.getOne`, `createOne`, `updateOne`, `deleteOne`, `deleteMatching`:
  Single records.
* `Operation.inTransaction`: An operation inside a transaction.
-/

namespace Registrar

/-- A session that may fail. -/
abbrev Operation (α : Type) := ExceptT OperationError Session α

/-- A page of a listing, and how many rows meet its condition. -/
structure ListingResult where
  rows : Json.Document
  total : Int

namespace Operation

/-- Give up with an error. -/
def fail {α : Type} (error : OperationError) : Operation α :=
  ExceptT.mk (.done (.error error))

/-- Go on with a result, or give up with an error. -/
def ofExcept {α : Type} (result : Except OperationError α) : Operation α :=
  ExceptT.mk (.done result)

/-- Go on with a statement, or give up because there is none. -/
def ofQuery {α : Type} (result : Except QueryError α) : Operation α :=
  ofExcept (result.mapError .query)

/-- Go on with what a reply holds, or give up because it cannot be read. -/
def ofReply {α : Type} (result : Except DatabaseError α) : Operation α :=
  ofExcept (result.mapError .ofDatabase)

/-- Send a command, and give up if it fails. -/
def send (command : Command) : Operation Rows :=
  ExceptT.mk (.ask command fun reply => .done (reply.mapError .ofDatabase))

/-- Count one thing. -/
def tally (counter : Counter) : Operation Unit :=
  ExceptT.mk (.count counter (.done (.ok ())))

/-- Execute a statement that returns one row at least. -/
def fetchOne (sql : Sql.Text) : Operation Cell := do
  let rows ← send (.execute sql)
  match rows.first with
  | some cell => pure cell
  | none => fail (.database .rowNotFound)

/-- A record that was asked for by an id. -/
def recordName (collection : String) (id : Int) : String :=
  s!"{collection} with id {id}"

/-- Records that were asked for by the values of columns. -/
def matchingName (collection : String) (values : List (String × Int)) : String :=
  s!"{collection} with " ++
    ", ".intercalate (values.map fun entry => s!"{entry.1} = {entry.2}")

/-- Run a listing: the page of rows, then the count. -/
def list (plan : ListingPlan) : Operation ListingResult := do
  let page ← fetchOne plan.rows.text
  let rows ← ofReply page.document?
  let count ← fetchOne plan.count.text
  let total ← ofReply count.integer?
  tally .listings
  pure ⟨rows, total⟩

/-- Read a record, if there is one. -/
def find (catalog : Catalog) (collection : String) (id : Int) :
    Operation (Option Json.Document) := do
  let select ← ofQuery (Record.select catalog collection id)
  let rows ← send (.execute select.text)
  match rows.first with
  | some cell => do
    let document ← ofReply cell.document?
    pure (some document)
  | none => pure none

/-- Read a record that has to be there. -/
def require (catalog : Catalog) (collection : String) (id : Int) : Operation Json.Document := do
  match ← find catalog collection id with
  | some document => pure document
  | none => fail (.notFound (recordName collection id))

/-- Get a record. -/
def getOne (catalog : Catalog) (collection : String) (id : Int) : Operation Json.Document := do
  let document ← require catalog collection id
  tally .recordOperations
  pure document

/-- The record that a payload for a collection becomes. -/
def recordFor (catalog : Catalog) (collection : String) (payload : Payload) :
    Except OperationError Record :=
  match catalog.find collection with
  | .ok listed => payload.record listed.table
  | .error e => .error (.query e)

/-- Create a record and read it back. -/
def createOne (catalog : Catalog) (collection : String) (payload : Payload) :
    Operation Json.Document := do
  let record ← ofExcept (recordFor catalog collection payload)
  let insert ← ofQuery (Record.insert catalog collection record)
  let key ← fetchOne (Sql.Statement.insert insert).text
  let id ← ofReply key.integer?
  let document ← require catalog collection id
  tally .recordOperations
  pure document

/-- Set the columns that a payload has and read the record back. -/
def updateOne (catalog : Catalog) (collection : String) (id : Int) (payload : Payload) :
    Operation Json.Document := do
  let record ← ofExcept (recordFor catalog collection payload)
  let _ ← require catalog collection id
  match ← ofQuery (Record.update? catalog collection id record) with
  | some update => do
    let _ ← send (.execute (Sql.Statement.update update).text)
    pure ()
  -- With nothing to set the record is read back all the same.
  | none => pure ()
  let document ← require catalog collection id
  tally .recordOperations
  pure document

/-- Delete a record. -/
def deleteOne (catalog : Catalog) (collection : String) (id : Int) : Operation Unit := do
  let _ ← require catalog collection id
  let delete ← ofQuery (Record.delete catalog collection id)
  let _ ← send (.execute (Sql.Statement.delete delete).text)
  tally .recordOperations

/-- Delete the records whose columns hold the given integers; there has to be
    one. -/
def deleteMatching (catalog : Catalog) (collection : String) (values : List (String × Int)) :
    Operation Unit := do
  let delete ← ofQuery (Record.deleteWhere catalog collection values)
  let rows ← send (.execute (Sql.Statement.delete delete).text)
  if rows.affected = 0 then fail (.notFound (matchingName collection values))
  else tally .recordOperations

/-- Take back what was done and give up with an error. -/
def rollBack {α : Type} (error : OperationError) : Operation α :=
  ExceptT.mk (.ask .rollback fun _ => .done (.error error))

/-- Send one end of a transaction, and roll back if it fails. -/
def sendOrRollBack (command : Command) : Operation Unit :=
  ExceptT.mk (.ask command fun reply =>
    match reply with
    | .ok _ => .done (.ok ())
    | .error e => rollBack (.ofDatabase e))

/-- An operation inside a transaction of its own. It is committed if the
    operation succeeds, and rolled back whatever else fails. -/
def inTransaction {α : Type} (body : Operation α) : Operation α := do
  let _ ← send .connect
  sendOrRollBack .begin
  let result ← tryCatch body rollBack
  sendOrRollBack .commit
  pure result

end Operation

end Registrar
