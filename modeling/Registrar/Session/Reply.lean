import Registrar.Json.Decoder
import Registrar.Sql.Text

/-!
# Replies of the Database

What is said to the database and what comes back. A command either succeeds,
with the first row of its result and the number of rows affected, or fails. The
server may reject it, with a message that is meant for whoever caused it; or
something may break on the way, which is nobody's business but ours.

## Main definitions

* `Command`: What is said to the database.
* `Command.statement?`: The statement that it sends.
* `DatabaseError`, `Fault`: How a command fails.
* `Cell`: The first column of a row.
* `Rows`, `Reply`: What comes back.
-/

namespace Registrar

/-- What is said to the database: open a connection, delimit a transaction, or
    execute a statement. -/
inductive Command
  | connect
  | begin
  | commit
  | rollback
  | execute (sql : Sql.Text)
  deriving Repr

/-- The statement that a command sends. Opening a connection sends none. -/
def Command.statement? : Command → Option Sql.Text
  | connect => none
  | begin => some (Sql.Text.empty.appendVerbatim "BEGIN")
  | commit => some (Sql.Text.empty.appendVerbatim "COMMIT")
  | rollback => some (Sql.Text.empty.appendVerbatim "ROLLBACK")
  | execute sql => some sql

/-- What may break on the way to the database or back. -/
inductive Fault
  | rowNotFound
  | poolTimedOut
  | poolClosed
  | workerCrashed
  | protocol (detail : String)
  | typeNotFound (name : String)
  | columnNotFound (name : String)
  | connectionLost
  deriving DecidableEq, Repr

/-- The wording of a fault. -/
def Fault.message : Fault → String
  | rowNotFound => "no rows returned by a query that expected to return at least one row"
  | poolTimedOut => "pool timed out while waiting for an open connection"
  | poolClosed => "attempted to acquire a connection on a closed pool"
  | workerCrashed => "attempted to communicate with a crashed background worker"
  | protocol detail => s!"encountered unexpected or invalid data: {detail}"
  | typeNotFound name => s!"type named {name} not found"
  | columnNotFound name => s!"no column found for name: {name}"
  | connectionLost => "error communicating with database: connection lost"

/-- How a command fails: rejected by the server, broken, or with a result that
    cannot be read. -/
inductive DatabaseError
  | rejected (message : String)
  | fault (fault : Fault)
  | unreadable (reason : String)
  | unreadableColumn (column reason : String)
  deriving DecidableEq, Repr

/-- The first column of a row. -/
inductive Cell
  | null
  | integer (value : Int)
  | json (text : String)
  deriving DecidableEq, Repr

/-- The result of a command: its first row, if there is one, and how many rows
    it affected. -/
structure Rows where
  first : Option Cell
  affected : Nat
  deriving DecidableEq, Repr, Inhabited

/-- The result of a command that returns nothing. -/
def Rows.none : Rows := ⟨Option.none, 0⟩

/-- What comes back. -/
abbrev Reply := Except DatabaseError Rows

namespace Cell

/-- The integer in a cell. -/
def integer? : Cell → Except DatabaseError Int
  | integer value => .ok value
  | null => .error (.unreadableColumn "0" "unexpected null")
  | json _ => .error (.unreadableColumn "0" "mismatched types")

/-- The document in a cell. -/
def document? : Cell → Except DatabaseError Json.Document
  | json text =>
    match Json.Document.parse? text with
    | some document => .ok document
    | none => .error (.unreadableColumn "0" "invalid JSON")
  | null => .error (.unreadableColumn "0" "unexpected null")
  | integer _ => .error (.unreadableColumn "0" "mismatched types")

end Cell

end Registrar
