import Registrar.Operation.Error
import Registrar.Record.Statements

/-!
# Payloads

What a write is given: a document whose members are the columns to write, and a
complaint if it breaks a rule of its own. Before it reaches the database it
becomes a record: an object, with members that are all columns of the table, and
with empty strings replaced by null, because an empty string stands for no value
throughout.

## Main definitions

* `Payload`: A document to be written, with the rule it breaks, if any.
* `Payload.record`: The record that is written.
-/

namespace Registrar

/-- A document to be written, and what is wrong with it. -/
structure Payload where
  document : Json.Document
  complaint : Option String

namespace Payload

/-- An empty string stands for no value. -/
def blankToNull : Json.Document → Json.Document
  | .string "" => .null
  | document => document

/-- The first member, by name, that is not a column of a table. -/
def unknownField? (table : Table) (record : Record) : Option String :=
  record.names.find? fun name => (table.column? name).isNone

/-- The record that is written for a payload. -/
def record (table : Table) (payload : Payload) : Except OperationError Record :=
  match payload.complaint with
  | some reason => .error (.validationFailure reason)
  | none =>
    match payload.document with
    | .object members =>
      -- Names are looked at in ascending order, whatever order they came in.
      let record := Sorted.ofList members
      match unknownField? table record with
      | some name => .error (.validationFailure s!"unknown field '{name}'")
      | none => .ok (record.mapValues blankToNull)
    | _ => .error (.validationFailure "payload must be a JSON object")

end Payload

end Registrar
