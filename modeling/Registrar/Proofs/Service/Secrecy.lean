import Registrar.Proofs.Service.Answer

/-!
# Secrecy

What a request can make the service say. Everything that is sent is a permitted
statement, so the names in it are those of the catalog, which leaves out what is to be
kept secret, and a request is heard only in values. This is so for every request and
whatever the database replies, because it is so for every endpoint and every operation.

## Main definitions

* `Command.Permitted`: What a command sends is permitted.
* `Sql.Text.Discreet`: A text tells no secrets and hears a request in values only.

## Theorems

* `Work.permitted_of_proper`: All work says permitted things only.
* `Request.permitted_answer`: So does the conversation with which a request is answered.
* `Service.discreet_of_request`: So no secret column is ever named or written.
-/

namespace Registrar

open Sql

/-- What a command sends, if it sends a statement, is permitted. -/
def Command.Permitted (command : Command) : Prop :=
  ∀ sql ∈ command.statement?, sql.Permitted

namespace Command

theorem permitted_connect : Permitted .connect := nofun

/-- A word of the language is permitted on its own. -/
theorem permitted_of_word {letters : String} (h : letters ∈ keywords)
    (hrow : letters ≠ wholeRowWord) {command : Command}
    (hcommand : command.statement? = some (Text.ofPieces [.word letters])) :
    command.Permitted := by
  intro sql hsql
  rw [hcommand] at hsql
  cases hsql
  exact permitted_pieces (Phrase.word h) (Guards.word h hrow)

theorem permitted_begin : Permitted .begin :=
  permitted_of_word (by decide : "BEGIN" ∈ keywords) (by decide) rfl

theorem permitted_commit : Permitted .commit :=
  permitted_of_word (by decide : "COMMIT" ∈ keywords) (by decide) rfl

theorem permitted_rollback : Permitted .rollback :=
  permitted_of_word (by decide : "ROLLBACK" ∈ keywords) (by decide) rfl

theorem permitted_of_executes {command : Command} (h : Executes command) : command.Permitted := by
  rcases h with ⟨sql, rfl, hsql⟩
  intro found hfound
  cases hfound
  exact hsql

end Command

namespace Work

theorem permitted_pingStatement : pingStatement.Permitted := by
  -- The statement that looks for the database is written out, not built.
  have hphrase : Phrase [.word "SELECT", .blank, .integer 1] :=
    .keyword (by decide) (.blank (.integer 1)) rfl
  have hpieces : pingStatement = Text.ofPieces [.word "SELECT", .blank, .integer 1] := rfl
  rw [hpieces]
  exact permitted_pieces hphrase
    (.cons (.word (by decide) (by decide)) (.cons .blank (.integer 1)))

/-- Work says permitted things only. -/
theorem permitted_of_proper {work : Work} (h : work.Proper) :
    work.run.Holds Command.Permitted fun _ => True := by
  refine holds_run (fun command hcommand => ?_) ?_ fun body hbody => ?_
  · cases command with
    | connect => exact Command.permitted_connect
    | begin => exact Command.permitted_begin
    | commit => exact Command.permitted_commit
    | rollback => exact Command.permitted_rollback
    | execute sql => exact absurd rfl (hcommand sql)
  · intro sql hsql
    cases hsql
    exact permitted_pingStatement
  · subst hbody
    exact Session.Holds.mono (fun _ => Command.permitted_of_executes) (fun _ _ _ _ => trivial)
      h.executes

end Work

namespace Request

variable (snapshot : Snapshot) (request : Request)

/-- The conversation with which a request is answered says permitted things only. -/
theorem permitted_answer : (request.answer snapshot).Holds Command.Permitted fun _ => True :=
  holds_answer fun _ htask => Work.permitted_of_proper (proper_of_task htask)

end Request

/-- A text that tells no secrets and in which a request is heard only in values: however
    the server reads backslashes, it is read as guarded tokens, no name among them is a
    secret column or unknown beforehand, and the documents that they write have columns of
    the written table as members, none of them secret. -/
def Sql.Text.Discreet (sql : Sql.Text) : Prop :=
  ∃ tokens, (∀ standard, Scanner.tokens standard sql.text = some tokens) ∧
    Guarded (· ∈ permittedNames) tokens ∧
    (∀ value, .name value ∈ tokens → value ∈ permittedNames ∧ value ∉ secretNames) ∧
    ∀ document ∈ sql.params, Writes tokens document ∧
      ∀ value ∈ secretNames, document.member? value = none

/-- A written document has no member under a secret name. -/
theorem member?_of_writes {tokens : List Token} {document : Json.Document}
    (h : Writes tokens document) : ∀ value ∈ secretNames, document.member? value = none := by
  rcases h with ⟨entry, hentry, members, -, rfl, hmembers⟩
  intro value hsecret
  rw [Json.Document.member?, Option.map_eq_none_iff, List.find?_eq_none]
  intro member hmember hname
  have hvalue : member.1 = value := of_decide_eq_true hname
  have hcolumn := (hmembers member hmember).1
  rw [hvalue, Catalog.column?_of_secret entry hentry value hsecret] at hcolumn
  exact absurd hcolumn Bool.false_ne_true

theorem Sql.Text.Permitted.discreet {sql : Sql.Text} (h : sql.Permitted) : sql.Discreet := by
  rcases h with ⟨tokens, hread, hguarded, hdocuments⟩
  have hrows : rowsAlias ∈ permittedNames := mem_permittedNames_of_fixed (by decide)
  refine ⟨tokens, hread, hguarded, fun value hmem => ?_, fun document hmem => ?_⟩
  · have hpermitted := hguarded.known_of_mem hrows hmem
    exact ⟨hpermitted, fun hsecret =>
      not_mem_permittedNames_of_secret value hsecret hpermitted⟩
  · exact ⟨hdocuments document hmem, member?_of_writes (hdocuments document hmem)⟩

namespace Service

/-- Whatever is requested and whatever the database replies, everything that is said to it
    is discreet, and so is everything that is sent in particular. -/
theorem discreet_of_request (request : Request) :
    (∀ snapshot exchanges counters response,
      Session.Course (request.answer snapshot) exchanges counters response →
        ∀ exchange ∈ exchanges, ∀ sql ∈ exchange.1.statement?, sql.Discreet) ∧
    ∀ (service : Service) (server : Server), ∀ command ∈ (service.handle server request).sent,
      ∀ sql ∈ command.statement?, sql.Discreet := by
  have hcourse : ∀ snapshot exchanges counters response,
      Session.Course (request.answer snapshot) exchanges counters response →
        ∀ exchange ∈ exchanges, ∀ sql ∈ exchange.1.statement?, sql.Discreet := by
    intro snapshot exchanges counters response h exchange hmem sql hsql
    have hpermitted := ((request.permitted_answer snapshot).of_course h).1 exchange hmem
    exact (hpermitted sql hsql).discreet
  refine ⟨hcourse, fun service server command hmem => ?_⟩
  -- What is sent is part of a course, and all of a course is discreet.
  rcases service.handle_takes_course server request with ⟨exchanges, counters, h, hsent, -⟩
  rcases List.mem_map.1 (hsent.subset hmem) with ⟨exchange, hexchange, rfl⟩
  exact hcourse _ _ _ _ h exchange hexchange

end Service

end Registrar
