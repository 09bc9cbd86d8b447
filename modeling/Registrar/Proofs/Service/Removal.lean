import Registrar.Proofs.Operation.Counting
import Registrar.Proofs.Operation.Record
import Registrar.Proofs.Service.Transaction
import Registrar.Proofs.Session.Standing
import Registrar.Proofs.Sql.Purpose

/-!
# Removing the Same Record at the Same Time

A request for the removal of a record looks for it and removes it, by two statements in one
transaction. Between the two another transaction may remove the record and be committed.
The second statement then affects nothing, but it does not fail, and the request is answered
as if it had removed something.

Which requests are answered like that is determined by when they looked: all those that
looked before the first commit report success, and all that looked afterwards report that
there is no such record. Only one of them has removed it. So of two requests for the same
record both may report success, and then one of them has removed nothing.

## Main definitions

* `Request.AsksRemoval`: A request asks for the removal of a record.
* `Request.RemovalAnswer`: The course of such a request if every command is answered.
* `Contested`: Requests for the removal of the same record, handled at the same time.

## Theorems

* `Request.course_answer_iff_removal`: The courses of a request for the removal of a record.
* `Service.removals_of_requests`: When a removal succeeds, and which requests are answered
  with success.
* `Service.not_removed_by_both`: Of two requests that are, one may have removed nothing.
-/

namespace Registrar

open Operation Session

namespace Request

variable {snapshot : Snapshot} {request : Request} {collection : String} {id : Int}
  {exchanges : List Exchange} {response : Response}

/-- A request asks for the removal of a record. -/
def AsksRemoval (collection : String) (id : Int) (request : Request) : Prop :=
  ∃ segment, request.endpoint? = some (.delete collection segment) ∧ segment.id = .ok id

/-- What it leaves to do. -/
def removal (collection : String) (id : Int) : Operation Response := do
  deleteOne .builtin collection id
  pure (.empty 204)

/-- The courses of a request for the removal of a record are those of a transaction. -/
theorem course_answer_iff_removal (h : request.AsksRemoval collection id) :
    (∃ counters, Course (request.answer snapshot) exchanges counters response) ↔
      ∃ counters result, TransactionCourse (removal collection id) exchanges counters result ∧
        response = request.shown (outcome result) := by
  rcases h with ⟨segment, hendpoint, hid⟩
  refine course_answer_iff_transaction ?_
  rw [task_of_endpoint hendpoint, Endpoint.work, hid]
  rfl

/-- The removal ends as the record's does, without anything else being said. -/
theorem course_removal_iff {steps : List Exchange} {counters : List Counter}
    {result : Except OperationError Response} :
    Course (removal collection id).run steps counters result ↔
      (∃ e, Course (deleteOne .builtin collection id).run steps counters (.error e) ∧
        result = .error e) ∨
      Course (deleteOne .builtin collection id).run steps counters (.ok ()) ∧
        result = .ok (.empty 204) := by
  unfold removal
  rw [bind_pure_comp, course_map_iff]
  constructor
  · rintro ⟨found, hdelete, rfl⟩
    cases found with
    | error e => exact Or.inl ⟨e, hdelete, rfl⟩
    | ok u => exact Or.inr ⟨hdelete, rfl⟩
  · rintro (⟨e, hdelete, rfl⟩ | ⟨hdelete, rfl⟩)
    · exact ⟨.error e, hdelete, rfl⟩
    · exact ⟨.ok (), hdelete, rfl⟩

/-- A request for the removal of a record, when every command is answered and what is found
    can be read: it looks for the record and then removes it, or does not find it. -/
inductive RemovalAnswer (look remove : Sql.Text) : List Exchange → Nat → Prop
  | missing (opened begun ended : Rows) {rows : Rows} (h : rows.first = none) :
      RemovalAnswer look remove
        [(.connect, .ok opened), (.begin, .ok begun), (.execute look, .ok rows),
          (.rollback, .ok ended)] 404
  | removed (opened begun ended gone : Rows) {rows : Rows} (h : rows.first ≠ none) :
      RemovalAnswer look remove
        [(.connect, .ok opened), (.begin, .ok begun), (.execute look, .ok rows),
          (.execute remove, .ok gone), (.commit, .ok ended)] 204

theorem removalAnswer_of_course (h : request.AsksRemoval collection id) {select : Sql.Select}
    {delete : Sql.Delete} (hselect : Record.select .builtin collection id = .ok select)
    (hdelete : Record.delete .builtin collection id = .ok delete) {counters : List Counter}
    (hcourse : Course (request.answer snapshot) exchanges counters response)
    (hanswered : ∀ exchange ∈ exchanges, ∃ rows, exchange.2 = .ok rows)
    (hreadable : ∀ rows, (.execute select.text, .ok rows) ∈ exchanges →
      ∀ cell ∈ rows.first, ∃ document, cell.document? = .ok document) :
    RemovalAnswer select.text (Sql.Statement.delete delete).text exchanges response.status := by
  rcases (course_answer_iff_removal h).1 ⟨counters, hcourse⟩ with ⟨_, result, htransaction, rfl⟩
  rw [status_shown]
  -- Every command is answered, so the transaction is opened, and it ends as its body does.
  rcases htransaction.of_answered hanswered with
    ⟨opened, begun, ended, steps, ⟨hbody, ⟨e, rfl⟩, rfl⟩ | ⟨hbody, ⟨answer, rfl⟩, rfl⟩⟩
  · rcases course_removal_iff.1 hbody with ⟨_, hremoval, hsame⟩ | ⟨_, hnone⟩
    · cases hsame
      cases (course_deleteOne_iff hselect hdelete).1 hremoval with
      | @missing reply _ hmissing =>
          rcases hanswered (.execute select.text, reply) (by simp) with ⟨rows, hrows⟩
          dsimp only at hrows
          subst hrows
          cases hfirst : rows.first with
          | none =>
              simp only [recordOf, hfirst, Except.error.injEq] at hmissing
              subst hmissing
              exact .missing opened begun ended hfirst
          | some cell =>
              -- What was found could have been read.
              rcases hreadable rows (by simp) cell hfirst with ⟨document, hdocument⟩
              simp only [recordOf, hfirst, hdocument] at hmissing
              cases hmissing
      | kept hfound e =>
          rcases hanswered (.execute (Sql.Statement.delete delete).text, .error e) (by simp) with
            ⟨rows, hrows⟩
          cases hrows
    · cases hnone
  · rcases course_removal_iff.1 hbody with ⟨_, _, hnone⟩ | ⟨hremoval, hsame⟩
    · cases hnone
    · cases hsame
      cases (course_deleteOne_iff hselect hdelete).1 hremoval with
      | @removed found document hfound gone =>
          rcases hanswered (.execute select.text, found) (by simp) with ⟨rows, hrows⟩
          dsimp only at hrows
          subst hrows
          refine .removed opened begun ended gone fun hfirst => ?_
          simp only [recordOf, hfirst] at hfound
          cases hfound

/-- Such a request removes the record at last and commits then, or does not remove it. -/
theorem RemovalAnswer.orderly {look remove : Sql.Text} {status : Nat} (hne : look ≠ remove)
    (h : RemovalAnswer look remove exchanges status) : Orderly remove exchanges := by
  cases h with
  | missing opened begun ended hfirst =>
      refine ⟨by simp [hne], fun before reply after hsplit => ?_⟩
      have hmem : (Command.commit, reply) ∈ before ++ (.commit, reply) :: after := by simp
      rw [← hsplit] at hmem
      simp at hmem
  | @removed opened begun ended gone rows hfirst =>
      refine ⟨by simp [hne], fun before reply after hsplit => ?_⟩
      -- The commit comes last, so the removal is among what comes before it.
      have hlast : [(.connect, .ok opened), (.begin, .ok begun), (.execute look, .ok rows),
          (.execute remove, .ok gone)] ++ [(.commit, .ok ended)] =
          before ++ (.commit, reply) :: after := hsplit
      rcases split_cases _ hlast with ⟨middle, hfront, hback⟩ | ⟨middle, rfl, -, -⟩
      · rcases middle with _ | ⟨next, middle⟩
        · rw [List.append_nil] at hfront
          rw [← hfront]
          exact ⟨.ok gone, by simp⟩
        · injection hback with hnext
          have hmem : (Command.commit, reply) ∈ before ++ next :: middle := by simp [hnext]
          rw [← hfront] at hmem
          simp at hmem
      · exact ⟨.ok gone, by simp⟩

end Request

/-- Several requests for the removal of the same record are handled at the same time, in a
    schedule that the database allows. The record is there when it begins, and can be
    read. -/
structure Contested {ι : Type} [DecidableEq ι] (collection : String) (id : Int)
    (select : Sql.Select) (delete : Sql.Delete) (cell : Cell) (request : ι → Request)
    (schedule : Schedule ι) (finish : Standing ι) (response : ι → Response) : Prop where
  look : Record.select .builtin collection id = .ok select
  remove : Record.delete .builtin collection id = .ok delete
  readable : ∃ document, cell.document? = .ok document
  asks : ∀ party, (request party).AsksRemoval collection id
  courses : ∀ party, ∃ snapshot counters,
    Course ((request party).answer snapshot) (Schedule.of party schedule) counters
      (response party)
  run : Standing.Run select.text (Sql.Statement.delete delete).text cell .stored schedule finish

namespace Contested

variable {ι : Type} [DecidableEq ι] {collection : String} {id : Int} {select : Sql.Select}
  {delete : Sql.Delete} {cell : Cell} {request : ι → Request} {schedule : Schedule ι}
  {finish : Standing ι} {response : ι → Response}

/-- The two statements are told apart by what they are for. -/
theorem texts_ne
    (h : Contested collection id select delete cell request schedule finish response) :
    select.text ≠ (Sql.Statement.delete delete).text := by
  intro hsame
  have hselect := h.look
  rcases bind_eq_ok_iff.1 hselect with ⟨listed, -, hselect⟩
  cases hselect
  have hrecord := Sql.serves_asRow { Sql.Select.simple listed.projection with
    source := some listed.source
    condition := listed.keyIs id }
  rw [hsame] at hrecord
  cases hrecord.unique (Sql.serves_delete delete)

/-- Every party takes one of the two courses. -/
theorem removalAnswer
    (h : Contested collection id select delete cell request schedule finish response)
    (party : ι) :
    Request.RemovalAnswer select.text (Sql.Statement.delete delete).text
      (Schedule.of party schedule) (response party).status := by
  rcases h.courses party with ⟨snapshot, counters, hcourse⟩
  refine Request.removalAnswer_of_course (h.asks party) h.look h.remove hcourse ?_ ?_
  · intro exchange hmem
    rcases h.run.answered (Schedule.mem_of_iff.1 hmem) with ⟨rows, hrows, -⟩
    exact ⟨rows, hrows⟩
  · intro rows hmem found hfound
    rcases h.run.answered (Schedule.mem_of_iff.1 hmem) with ⟨same, hsame, hcell⟩
    cases hsame
    rw [hcell rfl found hfound]
    exact h.readable

theorem orderly
    (h : Contested collection id select delete cell request schedule finish response)
    (party : ι) : Orderly (Sql.Statement.delete delete).text (Schedule.of party schedule) :=
  (h.removalAnswer party).orderly h.texts_ne

/-- A party is told that there is no such record just if it looked after a commit, and
    otherwise its request succeeds. -/
theorem status_cases
    (h : Contested collection id select delete cell request schedule finish response)
    (party : ι) :
    ((response party).status = 204 ∨ (response party).status = 404) ∧
      ((response party).status = 404 ↔ Standing.LookedLate select.text schedule party) := by
  have hanswer := h.removalAnswer party
  generalize hparty : Schedule.of party schedule = exchanges at hanswer
  generalize (response party).status = status at hanswer
  cases hanswer with
  | missing opened begun ended hfirst =>
      refine ⟨Or.inr rfl, iff_of_true rfl ?_⟩
      rename_i rows
      have hmem : (Command.execute select.text, .ok rows) ∈ Schedule.of party schedule := by
        simp [hparty]
      rcases List.append_of_mem (Schedule.mem_of_iff.1 hmem) with ⟨before, after, hsplit⟩
      rcases (h.run.hidden_iff h.texts_ne h.orderly hsplit).2.1 hfirst with
        ⟨committer, reply, hcommit⟩
      exact ⟨before, _, after, committer, reply, hsplit, hcommit⟩
  | @removed opened begun ended gone rows hfirst =>
      refine ⟨Or.inl rfl, iff_of_false (by decide) ?_⟩
      rintro ⟨before, reply, after, committer, commit, hsplit, hcommit⟩
      -- There is only one place where the party looked, and it found the record there.
      have hmem : (Command.execute select.text, reply) ∈ Schedule.of party schedule := by
        rw [hsplit, Schedule.of_split]
        exact List.mem_append_right _ List.mem_cons_self
      rw [hparty] at hmem
      have hreply : reply = .ok rows := by simpa [h.texts_ne] using hmem
      subst hreply
      exact hfirst ((h.run.hidden_iff h.texts_ne h.orderly hsplit).2.2 ⟨committer, _, hcommit⟩)

/-- With at least one party the record is gone in the end. One party has removed it, whose
    request succeeds. -/
theorem removed_once
    (h : Contested collection id select delete cell request schedule finish response)
    (party : ι) :
    finish = .gone ∧ ∃ remover,
      Standing.Removed (Sql.Statement.delete delete).text schedule remover ∧
      (response remover).status = 204 ∧
      ∀ other, Standing.Removed (Sql.Statement.delete delete).text schedule other →
        other = remover := by
  -- Somebody has committed: the party itself, or the one because of whom it found nothing.
  have hcommit : ∃ committer reply, (committer, (.commit, reply)) ∈ schedule := by
    have hanswer := h.removalAnswer party
    generalize hparty : Schedule.of party schedule = exchanges at hanswer
    generalize hstatus : (response party).status = status at hanswer
    cases hanswer with
    | missing opened begun ended hfirst =>
        rcases (h.status_cases party).2.1 hstatus with
          ⟨before, _, _, committer, reply, rfl, hcommit⟩
        exact ⟨committer, reply, List.mem_append_left _ hcommit⟩
    | removed opened begun ended gone hfirst =>
        refine ⟨party, .ok ended, Schedule.mem_of_iff.1 ?_⟩
        simp [hparty]
  rcases hcommit with ⟨committer, reply, hcommit⟩
  rcases h.run.removed_once h.texts_ne h.orderly hcommit with ⟨hgone, remover, hremoved, honly⟩
  refine ⟨hgone, remover, hremoved, ?_, honly⟩
  have hanswer := h.removalAnswer remover
  have hmem := Schedule.mem_of_iff.2 hremoved
  generalize Schedule.of remover schedule = exchanges at hanswer hmem
  generalize (response remover).status = status at hanswer
  cases hanswer with
  | missing => simp [h.texts_ne.symm] at hmem
  | removed => rfl

/-- A request for the removal of a group. -/
def removeGroup : Request := Request.ofUri "DELETE" "/groups/7" none ""

/-- Both parties look for the group before the first of them removes it. -/
def race (select : Sql.Select) (delete : Sql.Delete) (cell : Cell) : Schedule Bool :=
  [(true, (.connect, .ok Rows.none)), (true, (.begin, .ok Rows.none)),
    (false, (.connect, .ok Rows.none)), (false, (.begin, .ok Rows.none)),
    (true, (.execute select.text, .ok ⟨some cell, 1⟩)),
    (false, (.execute select.text, .ok ⟨some cell, 1⟩)),
    (true, (.execute (Sql.Statement.delete delete).text, .ok ⟨none, 1⟩)),
    (true, (.commit, .ok Rows.none)),
    (false, (.execute (Sql.Statement.delete delete).text, .ok ⟨none, 0⟩)),
    (false, (.commit, .ok Rows.none))]

/-- The database allows that. The second removal waits for the commit of the first one, and
    then finds nothing. -/
theorem run_race (select : Sql.Select) (delete : Sql.Delete) (cell : Cell) :
    Standing.Run select.text (Sql.Statement.delete delete).text cell .stored
      (race select delete cell) .gone := by
  have hvisible : ∀ party : Bool, Standing.stored.Visible party := fun _ => trivial
  have hlook : Standing.Run select.text (Sql.Statement.delete delete).text cell .stored
      ((race select delete cell).take 6) .stored :=
    .snoc (.snoc (.snoc (.snoc (.snoc (.snoc (.nil _) (.connect _ _ _)) (.begin _ _ _))
      (.connect _ _ _)) (.begin _ _ _)) (.seen (hvisible true) 1)) (.seen (hvisible false) 1)
  exact .snoc (.snoc (.snoc (.snoc hlook (.removed true)) (.commit _ _ _)) (.missed false))
    (.commit _ _ _)

theorem asks_removeGroup : removeGroup.AsksRemoval Collection.groups 7 :=
  ⟨⟨"id", ['7']⟩, by decide +kernel, rfl⟩

/-- Who finds the group is answered with success, whatever the removal affects. -/
theorem course_removeGroup {select : Sql.Select} {delete : Sql.Delete}
    (hselect : Record.select .builtin Collection.groups 7 = .ok select)
    (hdelete : Record.delete .builtin Collection.groups 7 = .ok delete) (snapshot : Snapshot)
    (gone : Rows) :
    ∃ counters, Course (removeGroup.answer snapshot)
      [(.connect, .ok Rows.none), (.begin, .ok Rows.none),
        (.execute select.text, .ok ⟨some (.json sampleText), 1⟩),
        (.execute (Sql.Statement.delete delete).text, .ok gone), (.commit, .ok Rows.none)]
      counters (.empty 204) := by
  have hfound := recordOf_sampleText (recordName Collection.groups 7) 1
  have hremoval : Course (Request.removal Collection.groups 7).run
      [(.execute select.text, .ok ⟨some (.json sampleText), 1⟩),
        (.execute (Sql.Statement.delete delete).text, .ok gone)] [.recordOperations]
      (.ok (.empty 204)) := by
    refine Request.course_removal_iff.2 (Or.inr ⟨?_, rfl⟩)
    exact (course_deleteOne_iff hselect hdelete).2 (.removed hfound gone)
  exact (Request.course_answer_iff_removal asks_removeGroup).2
    ⟨_, _, .committed Rows.none Rows.none hremoval Rows.none, rfl⟩

/-- Both are answered with success. -/
theorem exists_race : ∃ select delete cell,
    Contested Collection.groups 7 select delete cell (fun _ : Bool => removeGroup)
      (race select delete cell) .gone fun _ => .empty 204 := by
  rcases Endpoint.find_resource .groups with ⟨listed, hlisted⟩
  rcases delete_ok hlisted 7 with ⟨delete, hdelete⟩
  rcases exists_of_isOk (Record.select .builtin Collection.groups 7) (by decide +kernel) with
    ⟨select, hselect⟩
  refine ⟨select, delete, .json sampleText, hselect, hdelete, ⟨_, document?_sampleText⟩,
    fun _ => asks_removeGroup, fun party => ⟨Service.start.snapshot, ?_⟩,
    run_race select delete _⟩
  cases party with
  | true => exact course_removeGroup hselect hdelete _ ⟨none, 1⟩
  | false => exact course_removeGroup hselect hdelete _ ⟨none, 0⟩

end Contested

namespace Service

/-- Whatever the catalog, a removal succeeds just if the record was found and the statement
    that removes it did not fail, whatever that affected, and it is counted just then. If
    several requests for the removal of a record are handled at the same time, each of them is
    answered with success, unless it looked after somebody had committed: then it is told
    that there is no such record. Only one of them has removed it. -/
theorem removals_of_requests (catalog : Catalog) (collection : String) (id : Int) :
    (∀ (exchanges : List Exchange) (counters : List Counter) (result : Except OperationError Unit),
      Course (deleteOne catalog collection id).run exchanges counters result →
        (result = .ok () ↔ Removes catalog collection id exchanges) ∧
        (counters = [.recordOperations] ↔ result = .ok ()) ∧
        (counters = [] ↔ result ≠ .ok ())) ∧
    ∀ (ι : Type) [DecidableEq ι] (select : Sql.Select) (delete : Sql.Delete) (cell : Cell)
        (request : ι → Request) (schedule : Schedule ι) (finish : Standing ι)
        (response : ι → Response),
      Contested collection id select delete cell request schedule finish response →
      ∀ party, ((response party).status = 204 ∨ (response party).status = 404) ∧
        ((response party).status = 404 ↔ Standing.LookedLate select.text schedule party) ∧
        finish = .gone ∧ ∃ remover,
          Standing.Removed (Sql.Statement.delete delete).text schedule remover ∧
          (response remover).status = 204 ∧
          ∀ other, Standing.Removed (Sql.Statement.delete delete).text schedule other →
            other = remover := by
  constructor
  · intro exchanges counters result hcourse
    have hdone : (∃ u, result = .ok u) ↔ result = .ok () := ⟨fun ⟨_, h⟩ => h, fun h => ⟨(), h⟩⟩
    rcases (counts_deleteOne id).once hcourse with ⟨hcounted, hquiet⟩
    rw [hdone] at hcounted hquiet
    exact ⟨deleteOne_eq_ok_iff hcourse, hcounted, hquiet⟩
  · intro ι _ select delete cell request schedule finish response h party
    rcases h.status_cases party with ⟨hstatus, hiff⟩
    exact ⟨hstatus, hiff, h.removed_once party⟩

/-- In the race for a group the second party looked before anybody had committed, so it is
    answered with success, and still only one of the two has removed the group. -/
theorem removals_of_requests_race : ∃ select delete cell,
    Contested Collection.groups 7 select delete cell (fun _ : Bool => Contested.removeGroup)
        (Contested.race select delete cell) .gone (fun _ => .empty 204) ∧
      ¬Standing.LookedLate select.text (Contested.race select delete cell) false ∧
      ∃ remover, Standing.Removed (Sql.Statement.delete delete).text
          (Contested.race select delete cell) remover ∧
        ∀ other, Standing.Removed (Sql.Statement.delete delete).text
          (Contested.race select delete cell) other → other = remover := by
  rcases Contested.exists_race with ⟨select, delete, cell, hrace⟩
  rcases (removals_of_requests .builtin Collection.groups 7).2 Bool _ _ _ _ _ _ _ hrace false with
    ⟨-, hiff, -, remover, hremoved, -, honly⟩
  refine ⟨select, delete, cell, hrace, ?_, remover, hremoved, honly⟩
  exact fun hlate => absurd (hiff.2 hlate) (by decide)

/-- Two requests for the removal of a group are both answered with success, although the
    removal by one of them affected nothing. -/
theorem not_removed_by_both : ∃ select delete cell,
    Contested Collection.groups 7 select delete cell (fun _ : Bool => Contested.removeGroup)
        (Contested.race select delete cell) .gone (fun _ => .empty 204) ∧
      (false, (.execute (Sql.Statement.delete delete).text, .ok ⟨none, 0⟩)) ∈
        Contested.race select delete cell := by
  rcases Contested.exists_race with ⟨select, delete, cell, hrace⟩
  exact ⟨select, delete, cell, hrace, by simp [Contested.race]⟩

end Service

end Registrar
