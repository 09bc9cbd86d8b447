import Registrar.Proofs.Listing.Predicate
import Registrar.Proofs.Operation.Single
import Registrar.Proofs.Operation.Transaction
import Registrar.Proofs.Session.Ending
import Registrar.Proofs.Sql.Purpose

/-!
# What Errors Are Due To

An operation that fails does so because of the last reply: a command failed, there was no row
where one had to be, what came back cannot be read, or a record is not there. So the last
exchange accounts for the error, and whose fault the error is can be told from it. It is ours
just if the reply is faulty, and the server is quoted just if it rejected the command.

That a record has to have an id is only insisted on where the id is needed later. Everywhere
else a record without one is as good as any other.

## Main definitions

* `Exchange.Faulty`: The reply is a fault, or not what the command was sent for.
* `Exchange.Reads`, `Exchange.LacksId`: A record came back, or one without an id.
* `Accounts`: The error that an exchange leads to.
* `Operation.Blames`: For every error the last exchange accounts.

## Theorems

* `Accounts.internal_iff`: An error is internal just if the reply is faulty.
* `Operation.Blames.bind`: One operation after another.
* `Operation.Single.blames`: Operations that are given what they need.
* `Operation.TransactionCourse.accounts`, `Operation.TransactionCourse.ending_of_ok`: The
  exchange that ends a transaction.
* `Operation.TransactionCourse.ending_of_mem`: A failed command ends a transaction.
-/

namespace Registrar

open Sql (Purpose)

namespace Cell

theorem error_of_integer? {cell : Cell} {e : DatabaseError} (h : cell.integer? = .error e) :
    ∃ column reason, e = .unreadableColumn column reason := by
  cases cell with
  | integer n => cases h
  | null | json =>
      cases h
      exact ⟨_, _, rfl⟩

theorem error_of_document? {cell : Cell} {e : DatabaseError} (h : cell.document? = .error e) :
    ∃ column reason, e = .unreadableColumn column reason := by
  cases cell with
  | null | integer =>
      cases h
      exact ⟨_, _, rfl⟩
  | json text =>
      rw [document?] at h
      split at h
      · cases h
      · cases h
        exact ⟨_, _, rfl⟩

end Cell

/-- Whether there has to be a row. A record may be missing. -/
def Sql.Purpose.needsRow : Purpose → Bool
  | page | count | key => true
  | record | effect => false

/-- A cell holds what a statement was executed for. -/
def Sql.Purpose.Reads : Purpose → Cell → Prop
  | page, cell | record, cell => ∃ document, cell.document? = .ok document
  | count, cell | key, cell => ∃ n, cell.integer? = .ok n
  | effect, _ => True

/-- The reply is a fault, or it cannot be read, or there is no row where one had to be. -/
inductive Exchange.Faulty : Exchange → Prop
  | fault (command : Command) (fault : Fault) : Faulty (command, .error (.fault fault))
  | unreadable (command : Command) (reason : String) :
      Faulty (command, .error (.unreadable reason))
  | unreadableColumn (command : Command) (column reason : String) :
      Faulty (command, .error (.unreadableColumn column reason))
  | missing {sql : Sql.Text} {purpose : Purpose} (hpurpose : sql.Serves purpose)
      (hneeds : purpose.needsRow) (affected : Nat) :
      Faulty (.execute sql, .ok ⟨none, affected⟩)
  | illegible {sql : Sql.Text} {purpose : Purpose} {cell : Cell}
      (hpurpose : sql.Serves purpose) (hcell : ¬purpose.Reads cell) (affected : Nat) :
      Faulty (.execute sql, .ok ⟨some cell, affected⟩)

/-- A reply is not faulty if it has a row where one is needed, and what is in the row can be
    read. -/
theorem Exchange.not_faulty_of_serves {sql : Sql.Text} {purpose : Purpose} {rows : Rows}
    (hpurpose : sql.Serves purpose) (hneeds : rows.first = none → purpose.needsRow = false)
    (hreads : ∀ cell, rows.first = some cell → purpose.Reads cell) :
    ¬Faulty (.execute sql, .ok rows) := by
  intro h
  cases h with
  | missing hother hneeded affected =>
      rw [hother.unique hpurpose, hneeds rfl] at hneeded
      exact absurd hneeded Bool.false_ne_true
  | illegible hother hcell affected =>
      rw [hother.unique hpurpose] at hcell
      exact hcell (hreads _ rfl)

/-- A record came back. -/
inductive Exchange.Reads : Exchange → Json.Document → Prop
  | mk {sql : Sql.Text} {cell : Cell} {document : Json.Document} (hpurpose : sql.Serves .record)
      (hcell : cell.document? = .ok document) (affected : Nat) :
      Reads (.execute sql, .ok ⟨some cell, affected⟩) document

/-- A record came back that has no integer for an id. -/
def Exchange.LacksId (exchange : Exchange) : Prop :=
  ∃ document, exchange.Reads document ∧
    (document.member? "id").bind Json.Document.int64? = none

/-- The error that an exchange leads to, if it leads to one. Records without an id are errors
    where ids are needed. -/
inductive Accounts (idNeeded : Prop) : Exchange → OperationError → Prop
  /-- The command failed. -/
  | failed (command : Command) (e : DatabaseError) :
      Accounts idNeeded (command, .error e) (.ofDatabase e)
  /-- There is no row, but there had to be one. -/
  | missing {sql : Sql.Text} {purpose : Purpose} (hpurpose : sql.Serves purpose)
      (hneeds : purpose.needsRow) (affected : Nat) :
      Accounts idNeeded (.execute sql, .ok ⟨none, affected⟩) (.database .rowNotFound)
  /-- The row cannot be read. -/
  | illegible {sql : Sql.Text} {purpose : Purpose} {cell : Cell}
      (hpurpose : sql.Serves purpose) (hcell : ¬purpose.Reads cell) (affected : Nat)
      (column reason : String) :
      Accounts idNeeded (.execute sql, .ok ⟨some cell, affected⟩)
        (.ofDatabase (.unreadableColumn column reason))
  /-- There is no such record. -/
  | absent {sql : Sql.Text} (hpurpose : sql.Serves .record) (affected : Nat) (what : String) :
      Accounts idNeeded (.execute sql, .ok ⟨none, affected⟩) (.notFound what)
  /-- There was no such record to be changed. -/
  | unaffected {sql : Sql.Text} (hpurpose : sql.Serves .effect) (first : Option Cell)
      (what : String) :
      Accounts idNeeded (.execute sql, .ok ⟨first, 0⟩) (.notFound what)
  /-- The record has no id, but it had to have one. -/
  | anonymous {exchange : Exchange} (hneeded : idNeeded) (hlacks : exchange.LacksId)
      (reason : String) :
      Accounts idNeeded exchange (.decode reason)

namespace Accounts

variable {idNeeded : Prop} {exchange : Exchange} {e : OperationError}

/-- An error is ours just if the reply that it is due to is faulty, or lacks an id that is
    needed. -/
theorem internal_iff (h : Accounts idNeeded exchange e) :
    e.kind = .internal ↔ exchange.Faulty ∨ idNeeded ∧ exchange.LacksId := by
  cases h with
  | failed command e =>
      cases e with
      | rejected message =>
          -- A rejection is for the client to see, and it is neither of the two.
          refine iff_of_false nofun ?_
          rintro (hfaulty | ⟨-, document, hreads, -⟩)
          · exact nomatch hfaulty
          · exact nomatch hreads
      | fault fault => exact iff_of_true rfl (Or.inl (.fault command fault))
      | unreadable reason => exact iff_of_true rfl (Or.inl (.unreadable command reason))
      | unreadableColumn column reason =>
          exact iff_of_true rfl (Or.inl (.unreadableColumn command column reason))
  | missing hpurpose hneeds affected =>
      exact iff_of_true rfl (Or.inl (.missing hpurpose hneeds affected))
  | illegible hpurpose hcell affected column reason =>
      exact iff_of_true rfl (Or.inl (.illegible hpurpose hcell affected))
  | absent hpurpose affected what =>
      refine iff_of_false nofun ?_
      rintro (hfaulty | ⟨-, document, hreads, -⟩)
      · exact Exchange.not_faulty_of_serves hpurpose (fun _ => rfl)
          (fun cell hcell => absurd hcell.symm (Option.some_ne_none cell)) hfaulty
      · exact nomatch hreads
  | unaffected hpurpose first what =>
      refine iff_of_false nofun ?_
      rintro (hfaulty | ⟨-, document, hreads, -⟩)
      · exact Exchange.not_faulty_of_serves hpurpose (fun _ => rfl) (fun _ _ => trivial) hfaulty
      · -- A statement that is executed for its effect brings no record.
        cases hreads with
        | mk hrecord hcell affected => exact nomatch hrecord.unique hpurpose
  | anonymous hneeded hlacks reason => exact iff_of_true rfl (Or.inr ⟨hneeded, hlacks⟩)

/-- The server is quoted if it rejected the command. -/
theorem rejected {command : Command} {message : String}
    (h : Accounts idNeeded (command, .error (.rejected message)) e) :
    e = .constraintViolation message := by
  cases h with
  | failed => rfl
  | anonymous hneeded hlacks reason =>
      rcases hlacks with ⟨document, hreads, -⟩
      exact nomatch hreads

end Accounts

namespace Operation

open Session

variable {α β : Type} {idNeeded : Prop} {last : Exchange}

/-- The last exchange accounts for the error if the operation fails, and otherwise it is
    related to the result. It may be the one before the operation began. -/
def Blames (idNeeded : Prop) (Q : Exchange → α → Prop) (operation : Operation α)
    (last : Exchange) : Prop :=
  Session.Ends (fun last result =>
    match result with
    | .ok a => Q last a
    | .error e => Accounts idNeeded last e) operation.run last

theorem Blames.bind {R : Exchange → α → Prop} {Q : Exchange → β → Prop}
    {operation : Operation α} {next : α → Operation β} (h : operation.Blames idNeeded R last)
    (hnext : ∀ last a, R last a → (next a).Blames idNeeded Q last) :
    (operation >>= next).Blames idNeeded Q last := by
  refine Session.ends_bind_iff.2 (Session.Ends.mono ?_ h)
  intro last result hresult
  cases result with
  | ok a => exact hnext last a hresult
  | error e => exact hresult

theorem Blames.mono {Q Q' : Exchange → α → Prop} {operation : Operation α}
    (h : operation.Blames idNeeded Q last) (hQ : ∀ last a, Q last a → Q' last a) :
    operation.Blames idNeeded Q' last := by
  refine Session.Ends.mono (fun last result hresult => ?_) h
  cases result with
  | ok a => exact hQ last a hresult
  | error e => exact hresult

variable {Q : Exchange → α → Prop}

theorem blames_pure {a : α} (h : Q last a) : Blames idNeeded Q (pure a) last := h

theorem blames_fail {e : OperationError} (h : Accounts idNeeded last e) :
    Blames idNeeded Q (fail e) last := h

theorem Blames.map {operation : Operation α} (h : operation.Blames idNeeded Q last) (f : α → β) :
    (f <$> operation).Blames idNeeded (fun _ _ => True) last := by
  rw [← bind_pure_comp]
  exact h.bind fun _ _ _ => blames_pure trivial

/-- What is certain to be accepted is not blamed on anything. -/
theorem blames_ofExcept {result : Except OperationError α} (h : ∃ a, result = .ok a) :
    (ofExcept result).Blames idNeeded (fun last' a => last' = last ∧ result = .ok a) last := by
  rcases h with ⟨a, rfl⟩
  exact blames_pure ⟨rfl, rfl⟩

theorem blames_ofQuery {result : Except QueryError α} (h : ∃ a, result = .ok a) :
    (ofQuery result).Blames idNeeded (fun last' a => last' = last ∧ result = .ok a) last := by
  rcases h with ⟨a, rfl⟩
  exact blames_pure ⟨rfl, rfl⟩

theorem blames_tally {counter : Counter} {Q : Exchange → Unit → Prop} (h : Q last ()) :
    (tally counter).Blames idNeeded Q last := h

/-- An operation that is counted ends in what it had already. -/
theorem blames_tally_pure {counter : Counter} {a : α} (h : Q last a) :
    (do
      tally counter
      pure a : Operation α).Blames idNeeded Q last := h

theorem blames_send (command : Command) :
    (send command).Blames idNeeded (fun last rows => last = (command, .ok rows)) last := by
  intro reply
  cases reply with
  | ok rows => exact rfl
  | error e => exact .failed command e

/-- A row has come for a statement. -/
theorem blames_fetchOne {sql : Sql.Text} {purpose : Purpose} (hpurpose : sql.Serves purpose)
    (hneeds : purpose.needsRow) :
    (fetchOne sql).Blames idNeeded (fun last cell => ∃ affected,
      last = (.execute sql, .ok ⟨some cell, affected⟩)) last := by
  refine (blames_send _).bind fun last rows hlast => ?_
  rcases rows with ⟨_ | cell, affected⟩
  · refine blames_fail ?_
    rw [hlast]
    exact .missing hpurpose hneeds affected
  · exact blames_pure ⟨affected, hlast⟩

/-- What a row holds is read, or else it is not what the statement was executed for. -/
theorem blames_ofReply {sql : Sql.Text} {purpose : Purpose} {cell : Cell} {affected : Nat}
    {read : Except DatabaseError α} (hlast : last = (.execute sql, .ok ⟨some cell, affected⟩))
    (hpurpose : sql.Serves purpose)
    (hread : ∀ e, read = .error e → ¬purpose.Reads cell ∧
      ∃ column reason, e = .unreadableColumn column reason) :
    (ofReply read).Blames idNeeded (fun last' a => last' = last ∧ read = .ok a) last := by
  cases read with
  | ok a => exact blames_pure ⟨rfl, rfl⟩
  | error e =>
      rcases hread e rfl with ⟨hcell, column, reason, rfl⟩
      refine blames_fail ?_
      rw [hlast]
      exact .illegible hpurpose hcell affected column reason

theorem blames_document? {sql : Sql.Text} {purpose : Purpose} {cell : Cell} {affected : Nat}
    (hlast : last = (.execute sql, .ok ⟨some cell, affected⟩)) (hpurpose : sql.Serves purpose)
    (hdocument : purpose = .page ∨ purpose = .record) :
    (ofReply cell.document?).Blames idNeeded
      (fun last' document => last' = last ∧ cell.document? = .ok document) last := by
  refine blames_ofReply hlast hpurpose fun e he => ⟨?_, Cell.error_of_document? he⟩
  rcases hdocument with rfl | rfl
  · rintro ⟨document, hread⟩
    exact nomatch he.symm.trans hread
  · rintro ⟨document, hread⟩
    exact nomatch he.symm.trans hread

theorem blames_integer? {sql : Sql.Text} {purpose : Purpose} {cell : Cell} {affected : Nat}
    (hlast : last = (.execute sql, .ok ⟨some cell, affected⟩)) (hpurpose : sql.Serves purpose)
    (hinteger : purpose = .count ∨ purpose = .key) :
    (ofReply cell.integer?).Blames idNeeded (fun _ _ => True) last := by
  refine Blames.mono (blames_ofReply hlast hpurpose fun e he => ⟨?_, Cell.error_of_integer? he⟩)
    fun _ _ _ => trivial
  rcases hinteger with rfl | rfl
  · rintro ⟨n, hread⟩
    exact nomatch he.symm.trans hread
  · rintro ⟨n, hread⟩
    exact nomatch he.symm.trans hread

variable {catalog : Catalog} {collection : String} {listed : Listed}

theorem blames_list {restriction : Option Restriction} {params : Params} {plan : ListingPlan}
    (h : ListingPlan.ofParams catalog collection restriction params = .ok plan) :
    (list plan).Blames idNeeded (fun _ _ => True) last := by
  rcases ListingPlan.ofParams_cases h with
    ⟨page, listed, query, narrowing, -, -, -, hrows, hcount⟩
  have hpage : plan.rows.text.Serves .page := by
    rw [hrows]
    exact Sql.serves_asRows _
  have htotal : plan.count.text.Serves .count := by
    rw [hcount]
    exact Sql.serves_count _ _
  refine (blames_fetchOne hpage rfl).bind fun last page hlast => ?_
  rcases hlast with ⟨affected, hlast⟩
  refine (blames_document? hlast hpage (Or.inl rfl)).bind fun last rows _ => ?_
  refine (blames_fetchOne htotal rfl).bind fun last count hlast => ?_
  rcases hlast with ⟨affected, hlast⟩
  refine (blames_integer? hlast htotal (Or.inl rfl)).bind fun last total _ => ?_
  exact blames_tally_pure trivial

theorem blames_require (hlisted : catalog.find collection = .ok listed) (id : Int) :
    (require catalog collection id).Blames idNeeded Exchange.Reads last := by
  -- Whether there is a record is seen from the row, and only then is it an error.
  have hfind : (find catalog collection id).Blames idNeeded (fun last found =>
      (∀ document, found = some document → last.Reads document) ∧
        (found = none → ∃ sql : Sql.Text, sql.Serves .record ∧
          ∃ affected, last = (.execute sql, .ok ⟨none, affected⟩))) last := by
    have hselect : ∃ select, Record.select catalog collection id = .ok select :=
      ⟨_, bind_eq_ok_iff.2 ⟨listed, hlisted, rfl⟩⟩
    refine (blames_ofQuery hselect).bind fun last select hselected => ?_
    rcases bind_eq_ok_iff.1 hselected.2 with ⟨listed, -, hselected⟩
    cases hselected
    refine (blames_send _).bind fun last rows hlast => ?_
    rcases rows with ⟨_ | cell, affected⟩
    · refine blames_pure ⟨fun document hsome => ?_, fun _ => ?_⟩
      · cases hsome
      · exact ⟨_, Sql.serves_asRow _, affected, hlast⟩
    · refine (blames_document? hlast (Sql.serves_asRow _) (Or.inr rfl)).bind
        fun last' document hread => blames_pure ⟨fun document hsome => ?_, fun hnone => ?_⟩
      · cases hsome
        rw [hread.1, hlast]
        exact .mk (Sql.serves_asRow _) hread.2 affected
      · cases hnone
  refine hfind.bind fun last found hfound => ?_
  cases found with
  | some document => exact blames_pure (hfound.1 document rfl)
  | none =>
      rcases hfound.2 rfl with ⟨sql, hpurpose, affected, rfl⟩
      exact blames_fail (.absent hpurpose affected _)

theorem blames_getOne (hlisted : catalog.find collection = .ok listed) (id : Int) :
    (getOne catalog collection id).Blames idNeeded Exchange.Reads last := by
  exact (blames_require hlisted id).bind fun last document hread => blames_tally_pure hread

theorem blames_recordFor {payload : Payload}
    (hlisted : Catalog.builtin.find collection = .ok listed)
    (hpayload : payload.Fits listed.table) :
    (ofExcept (recordFor .builtin collection payload)).Blames idNeeded (fun _ _ => True) last := by
  rcases recordFor_of_fits hlisted hpayload with ⟨record, hrecord, -⟩
  exact (blames_ofExcept ⟨record, hrecord⟩).mono fun _ _ _ => trivial

theorem blames_createOne {payload : Payload}
    (hlisted : Catalog.builtin.find collection = .ok listed)
    (hpayload : payload.Fits listed.table) :
    (createOne .builtin collection payload).Blames idNeeded Exchange.Reads last := by
  refine (blames_recordFor hlisted hpayload).bind fun last record _ => ?_
  refine (blames_ofQuery (Record.exists_insert hlisted record)).bind fun last insert _ => ?_
  have hkey := Sql.serves_insert insert
  refine (blames_fetchOne hkey rfl).bind fun last key hlast => ?_
  rcases hlast with ⟨affected, hlast⟩
  -- From here on all is as when the record is read.
  exact (blames_integer? hlast hkey (Or.inr rfl)).bind fun last id _ => blames_getOne hlisted id

theorem blames_updateOne {payload : Payload} (id : Int)
    (hlisted : Catalog.builtin.find collection = .ok listed)
    (hpayload : payload.Fits listed.table) :
    (updateOne .builtin collection id payload).Blames idNeeded Exchange.Reads last := by
  refine (blames_recordFor hlisted hpayload).bind fun last record _ => ?_
  refine (blames_require hlisted id).bind fun last _ _ => ?_
  -- With nothing to set there is no statement, and the record is read all the same.
  have hupdate : ∃ update, Record.update? .builtin collection id record = .ok update :=
    (Record.exists_update? hlisted id record).imp fun _ h => h.1
  refine (blames_ofQuery hupdate).bind fun last update _ => ?_
  cases update with
  | some update => exact (blames_send _).bind fun last _ _ => blames_getOne hlisted id
  | none => exact blames_getOne hlisted id

theorem blames_deleteOne (hlisted : Catalog.builtin.find collection = .ok listed) (id : Int) :
    (deleteOne .builtin collection id).Blames idNeeded (fun _ _ => True) last := by
  refine (blames_require hlisted id).bind fun last _ _ => ?_
  refine (blames_ofQuery (delete_ok hlisted id)).bind fun last delete _ => ?_
  exact (blames_send _).bind fun last _ _ => blames_tally trivial

theorem blames_deleteMatching (hlisted : catalog.find collection = .ok listed)
    {values : List (String × Int)} (h : ∀ value ∈ values, (listed.table.column? value.1).isSome) :
    (deleteMatching catalog collection values).Blames idNeeded (fun _ _ => True) last := by
  refine (blames_ofQuery (deleteWhere_ok hlisted h)).bind fun last delete _ => ?_
  refine (blames_send _).bind fun last rows hlast => ?_
  rcases rows with ⟨first, affected⟩
  by_cases hnone : affected = 0
  · subst hnone
    rw [hlast, if_pos rfl]
    exact blames_fail (.unaffected (Sql.serves_delete delete) first _)
  · rw [if_neg hnone]
    exact blames_tally trivial

/-- For every error of an operation that is given what it needs the last exchange accounts. -/
theorem Single.blames {counter : Counter} {operation : Operation α}
    (h : Single counter operation) : operation.Blames idNeeded (fun _ _ => True) last := by
  cases h with
  | list hplan => exact blames_list hplan
  | getOne hlisted id => exact (blames_getOne hlisted id).mono fun _ _ _ => trivial
  | createOne hlisted hpayload =>
      exact (blames_createOne hlisted hpayload).mono fun _ _ _ => trivial
  | updateOne id hlisted hpayload =>
      exact (blames_updateOne id hlisted hpayload).mono fun _ _ _ => trivial
  | deleteOne hlisted id => exact blames_deleteOne hlisted id
  | deleteMatching hlisted hcolumns => exact blames_deleteMatching hlisted hcolumns

namespace TransactionCourse

variable {body : Operation α} {exchanges : List Exchange} {counters : List Counter}

/-- A transaction that has a result ended with its commit. -/
theorem ending_of_ok {a : α} (h : TransactionCourse body exchanges counters (.ok a)) :
    ∃ rows, ending exchanges = some (.commit, .ok rows) := by
  cases h with
  | committed opened begun hcourse rows =>
      rw [← List.cons_append, ← List.cons_append]
      exact ⟨rows, ending_concat _ nofun⟩

/-- A command that failed ends a transaction, unless it was the rollback. -/
theorem ending_of_mem {Q : α → Prop} (hbody : body.Hopeful True Q)
    {result : Except OperationError α} (h : TransactionCourse body exchanges counters result)
    {command : Command} {e : DatabaseError} (hmem : (command, .error e) ∈ exchanges)
    (hcommand : command ≠ .rollback) :
    ending exchanges = some (command, .error e) := by
  -- After the failure nothing is sent but a rollback, and the command is not one itself.
  rcases List.append_of_mem hmem with ⟨before, after, hsplit⟩
  have hfailed : StepFailed body (before ++ [(command, .error e)]) :=
    Or.inl ⟨command, e, List.mem_append_right _ List.mem_cons_self⟩
  rw [hsplit]
  rw [List.append_cons] at hsplit
  exact ending_append before hcommand
    (h.rollback_of_doomed hbody hsplit (doomed_of_stepFailed hbody hfailed))

/-- The exchange that ended a transaction accounts for its error. -/
theorem accounts (hexecutes : ∀ {steps counters result}, Course body.run steps counters result →
      ∀ exchange ∈ steps, ∃ sql, exchange.1 = .execute sql)
    (hbody : ∀ last, body.Blames idNeeded (fun _ _ => True) last) {error : OperationError}
    (h : TransactionCourse body exchanges counters (.error error)) :
    ∃ exchange, ending exchanges = some exchange ∧ Accounts idNeeded exchange error := by
  cases h with
  | unconnected e => exact ⟨_, rfl, .failed _ e⟩
  | unopened opened e reply => exact ⟨_, rfl, .failed _ e⟩
  | @failed opened begun steps _ _ hcourse reply =>
      -- The operation is accounted for by its last statement, or by what came before it.
      refine ⟨steps.getLastD (.begin, .ok begun), ?_, (hbody _).of_course hcourse⟩
      rw [← List.cons_append, ← List.cons_append, ending_rolledBack]
      rcases List.eq_nil_or_concat steps with rfl | ⟨front, exchange, hsteps⟩
      · rfl
      · rw [List.concat_eq_append] at hsteps
        subst hsteps
        rcases hexecutes hcourse exchange (List.mem_append_right _ List.mem_cons_self) with
          ⟨sql, hsql⟩
        rw [List.getLastD_concat, ← List.cons_append, ← List.cons_append]
        refine ending_concat _ ?_
        rw [hsql]
        exact nofun
  | uncommitted opened begun hcourse e reply =>
      refine ⟨(.commit, .error e), ?_, .failed _ e⟩
      rw [← List.cons_append, ← List.cons_append]
      exact ending_append _ nofun (List.forall_mem_singleton.2 rfl)

end TransactionCourse

end Operation

end Registrar
