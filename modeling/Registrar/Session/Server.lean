import Registrar.Session.Basic

/-!
# Running a Session

A server is described by how it treats a connection, the two ends of a
transaction, and the statements in between: one reply each, in order, and a
rejection once they are used up. The service holds one connection at most. It is
opened when it is first needed and kept until it breaks; over a broken
connection nothing can be sent.

Running a session against a server gives the result, everything that was sent,
and the counters. Opening a connection is not a statement and does not appear
among what was sent.

## Main definitions

* `Server`: How a server treats one request.
* `Talk`: The state of a running session.
* `Talk.exchange`: Send a command and take its reply.
* `Session.run`: Run a session to its end.
-/

namespace Registrar

/-- How a server treats one request. An error stands for what it fails. -/
structure Server where
  connect : Option DatabaseError
  begin : Option DatabaseError
  commit : Option DatabaseError
  replies : List Reply

namespace Server

/-- A server that cannot be reached. -/
def unreachable : Server :=
  ⟨some (.fault .connectionLost), none, none, []⟩

end Server

/-- The state of a running session. -/
structure Talk where
  server : Server
  connected : Bool
  sent : List Command
  counters : Counters

namespace Talk

/-- The reply to a statement for which the server has none. -/
def exhausted : DatabaseError := .rejected "script exhausted"

/-- Whether an error breaks the connection. -/
def breaks : DatabaseError → Bool
  | .fault .connectionLost => true
  | _ => false

/-- Note that a command was sent and how it fared. -/
def record (talk : Talk) (command : Command) (reply : Reply) : Reply × Talk :=
  let broken := match reply with
    | .error e => breaks e
    | .ok _ => false
  (reply, { talk with sent := talk.sent ++ [command], connected := !broken })

/-- The reply that an optional error stands for. -/
def replyOf : Option DatabaseError → Reply
  | some e => .error e
  | none => .ok Rows.none

/-- Open a connection unless one is open. -/
def connect (talk : Talk) : Reply × Talk :=
  if talk.connected then (.ok Rows.none, talk)
  else
    match talk.server.connect with
    | some e => (.error e, talk)
    | none => (.ok Rows.none, { talk with connected := true })

/-- The reply to a statement, and the server after it. -/
def nextReply (server : Server) : Reply × Server :=
  match server.replies with
  | [] => (.error exhausted, server)
  | reply :: rest => (reply, { server with replies := rest })

/-- Send a command and take its reply. -/
def exchange (talk : Talk) (command : Command) : Reply × Talk :=
  match command with
  | .connect => talk.connect
  | command =>
    -- Over a broken connection nothing is sent, and nothing appears among what was.
    if talk.connected then
      match command with
      | .begin => talk.record command (replyOf talk.server.begin)
      | .commit => talk.record command (replyOf talk.server.commit)
      | .execute _ =>
        let (reply, server) := nextReply talk.server
        { talk with server := server }.record command reply
      | command => talk.record command (.ok Rows.none)
    else (.error (.fault .connectionLost), talk)

end Talk

/-- Run a session to its end. -/
def Session.run {α : Type} : Session α → Talk → α × Talk
  | .done result, talk => (result, talk)
  | .ask command next, talk =>
    let (reply, talk) := talk.exchange command
    (next reply).run talk
  | .count counter next, talk =>
    next.run { talk with counters := talk.counters.increment counter }

end Registrar
