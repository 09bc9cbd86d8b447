import Registrar.Proofs.Operation.Hopeful

/-!
# The Course of a Transaction

An operation in a transaction can take five courses. The connection is not opened, or the
transaction is not, or the operation fails and is rolled back, or the commit fails, or all
goes well. `TransactionCourse` lists them, with the course of the operation itself in
between; everything that is said about transactions is said case by case.

What decides is the first reply that spoils the outcome. The operation is hopeful, so it
has not said anything in vain before, and afterwards there is only the rollback.

## Main definitions

* `Operation.TransactionCourse`: An operation in a transaction takes a course.
* `Operation.Doomed`: After certain exchanges there will be no result.

## Theorems

* `Operation.course_bind_iff`: The course of one operation after another.
* `Operation.course_inTransaction_iff`: The five courses of a transaction.
* `Operation.TransactionCourse.rollback_of_doomed`: Once there will be no result, nothing
  but a rollback is said.
* `Operation.TransactionCourse.commit_iff`: A commit is said just if nothing spoiled the
  outcome before.
-/

namespace Registrar

namespace Operation

open Session

variable {α β : Type} {exchanges : List Exchange} {counters : List Counter}

/-- The second of two operations takes its course if the first has a result. -/
theorem course_bind_iff {operation : Operation α} {next : α → Operation β}
    {result : Except OperationError β} :
    Course (operation >>= next).run exchanges counters result ↔
      (∃ e, Course operation.run exchanges counters (.error e) ∧ result = .error e) ∨
      ∃ exchanges₁ exchanges₂ counters₁ counters₂ a,
        Course operation.run exchanges₁ counters₁ (.ok a) ∧
        Course (next a).run exchanges₂ counters₂ result ∧
        exchanges = exchanges₁ ++ exchanges₂ ∧ counters = counters₁ ++ counters₂ := by
  constructor
  · intro h
    rcases Session.course_bind_iff.1 h with
      ⟨exchanges₁, exchanges₂, counters₁, counters₂, found, hfirst, hsecond, rfl, rfl⟩
    cases found with
    | ok a => exact Or.inr ⟨_, _, _, _, a, hfirst, hsecond, rfl, rfl⟩
    | error e =>
        cases hsecond
        rw [List.append_nil, List.append_nil]
        exact Or.inl ⟨e, hfirst, rfl⟩
  · rintro (⟨e, hfirst, rfl⟩ | ⟨exchanges₁, exchanges₂, counters₁, counters₂, a, hfirst, hsecond,
      rfl, rfl⟩)
    · exact Session.course_bind_iff.2
        ⟨_, [], _, [], _, hfirst, .done _, (List.append_nil _).symm, (List.append_nil _).symm⟩
    · exact Session.course_bind_iff.2 ⟨_, _, _, _, _, hfirst, hsecond, rfl, rfl⟩

/-- What is made of a result does not change the course. -/
theorem course_map_iff {operation : Operation α} {f : α → β} {result : Except OperationError β} :
    Course (f <$> operation).run exchanges counters result ↔
      ∃ found, Course operation.run exchanges counters found ∧ result = found.map f := by
  rw [← bind_pure_comp, course_bind_iff]
  constructor
  · rintro (⟨e, h, rfl⟩ | ⟨_, _, _, _, a, h, hdone, rfl, rfl⟩)
    · exact ⟨.error e, h, rfl⟩
    · rcases course_done_iff.1 hdone with ⟨rfl, rfl, rfl⟩
      rw [List.append_nil, List.append_nil]
      exact ⟨.ok a, h, rfl⟩
  · rintro ⟨found, h, rfl⟩
    cases found with
    | error e => exact Or.inl ⟨e, h, rfl⟩
    | ok a =>
        exact Or.inr ⟨_, [], _, [], a, h, .done _, (List.append_nil _).symm,
          (List.append_nil _).symm⟩

/-- What follows a command takes its course if the command does not fail. -/
theorem course_send_bind_iff {command : Command} {next : Rows → Operation α}
    {result : Except OperationError α} :
    Course (send command >>= next).run exchanges counters result ↔
      (∃ e, exchanges = [(command, .error e)] ∧ counters = [] ∧ result = .error (.ofDatabase e)) ∨
      ∃ rows rest, Course (next rows).run rest counters result ∧
        exchanges = (command, .ok rows) :: rest := by
  constructor
  · intro h
    cases h with
    | @ask _ _ reply _ _ _ h =>
        cases reply with
        | ok rows => exact Or.inr ⟨rows, _, h, rfl⟩
        | error e =>
            cases h
            exact Or.inl ⟨e, rfl, rfl, rfl⟩
  · rintro (⟨e, rfl, rfl, rfl⟩ | ⟨rows, rest, h, rfl⟩)
    · exact .ask (.done _)
    · exact .ask h

/-- What follows an end of a transaction takes its course if that does not fail. -/
theorem course_sendOrRollBack_bind_iff {command : Command} {next : Unit → Operation α}
    {result : Except OperationError α} :
    Course (sendOrRollBack command >>= next).run exchanges counters result ↔
      (∃ e reply, exchanges = [(command, .error e), (.rollback, reply)] ∧ counters = [] ∧
        result = .error (.ofDatabase e)) ∨
      ∃ rows rest, Course (next ()).run rest counters result ∧
        exchanges = (command, .ok rows) :: rest := by
  constructor
  · intro h
    cases h with
    | @ask _ _ reply _ _ _ h =>
        cases reply with
        | ok rows => exact Or.inr ⟨rows, _, h, rfl⟩
        | error e =>
            cases h with
            | ask h =>
                cases h
                exact Or.inl ⟨e, _, rfl, rfl, rfl⟩
  · rintro (⟨e, reply, rfl, rfl, rfl⟩ | ⟨rows, rest, h, rfl⟩)
    · exact .ask (.ask (.done _))
    · exact .ask h

/-- A failed operation is followed by a rollback, whatever comes back. -/
theorem course_rolledBack_iff {body : Operation α} {result : Except OperationError α} :
    Course (tryCatch body rollBack).run exchanges counters result ↔
      (∃ a, Course body.run exchanges counters (.ok a) ∧ result = .ok a) ∨
      ∃ steps e reply, Course body.run steps counters (.error e) ∧
        exchanges = steps ++ [(.rollback, reply)] ∧ result = .error e := by
  constructor
  · intro h
    rcases Session.course_bind_iff.1 h with
      ⟨steps, exchanges₂, counters₁, counters₂, found, hbody, hrest, rfl, rfl⟩
    -- After a result nothing more is said, and after a failure the rollback.
    cases found with
    | ok a =>
        cases hrest
        rw [List.append_nil, List.append_nil]
        exact Or.inl ⟨a, hbody, rfl⟩
    | error e =>
        cases hrest with
        | ask hrest =>
            cases hrest
            rw [List.append_nil]
            exact Or.inr ⟨steps, e, _, hbody, rfl, rfl⟩
  · rintro (⟨a, hbody, rfl⟩ | ⟨steps, e, reply, hbody, rfl, rfl⟩)
    · exact Session.course_bind_iff.2
        ⟨_, [], _, [], _, hbody, .done _, (List.append_nil _).symm, (List.append_nil _).symm⟩
    · exact Session.course_bind_iff.2
        ⟨_, _, _, [], _, hbody, .ask (.done _), rfl, (List.append_nil _).symm⟩

/-- From its operation on a transaction is rolled back, or committed, or rolled back because
    the commit failed. -/
theorem course_concluded_iff {body : Operation α} {result : Except OperationError α} :
    Course (tryCatch body rollBack >>= fun a => do
      sendOrRollBack .commit
      pure a).run exchanges counters result ↔
      (∃ steps error reply, Course body.run steps counters (.error error) ∧
        exchanges = steps ++ [(.rollback, reply)] ∧ result = .error error) ∨
      ∃ steps a, Course body.run steps counters (.ok a) ∧
        ((∃ e reply, exchanges = steps ++ [(.commit, .error e), (.rollback, reply)] ∧
          result = .error (.ofDatabase e)) ∨
        ∃ rows, exchanges = steps ++ [(.commit, .ok rows)] ∧ result = .ok a) := by
  constructor
  · intro hcourse
    -- An error has been rolled back already, and a result still has to be committed.
    rcases course_bind_iff.1 hcourse with
      ⟨e, hbody, rfl⟩ | ⟨steps, _, _, _, a, hbody, hend, rfl, rfl⟩
    · rcases course_rolledBack_iff.1 hbody with ⟨a, -, hnone⟩ | ⟨steps, e', reply, h, rfl, he⟩
      · exact nomatch hnone
      · cases he
        exact Or.inl ⟨steps, e, reply, h, rfl, rfl⟩
    · rcases course_rolledBack_iff.1 hbody with ⟨a', h, ha⟩ | ⟨_, _, _, _, _, hnone⟩
      · cases ha
        rcases course_sendOrRollBack_bind_iff.1 hend with
          ⟨e, reply, rfl, rfl, rfl⟩ | ⟨rows, rest, hrest, rfl⟩
        · rw [List.append_nil]
          exact Or.inr ⟨steps, a, h, Or.inl ⟨e, reply, rfl, rfl⟩⟩
        · rcases course_done_iff.1 hrest with ⟨rfl, rfl, rfl⟩
          rw [List.append_nil]
          exact Or.inr ⟨steps, a, h, Or.inr ⟨rows, rfl, rfl⟩⟩
      · exact nomatch hnone
  · rintro (⟨steps, e, reply, h, rfl, rfl⟩ | ⟨steps, a, h, hend⟩)
    · exact course_bind_iff.2 (Or.inl
        ⟨e, course_rolledBack_iff.2 (Or.inr ⟨steps, e, reply, h, rfl, rfl⟩), rfl⟩)
    · have hbody := course_rolledBack_iff.2 (Or.inl ⟨a, h, rfl⟩)
      rw [← List.append_nil counters]
      rcases hend with ⟨e, reply, rfl, rfl⟩ | ⟨rows, rfl, rfl⟩
      · exact course_bind_iff.2 (Or.inr ⟨_, _, _, _, a, hbody,
          course_sendOrRollBack_bind_iff.2 (Or.inl ⟨e, reply, rfl, rfl, rfl⟩), rfl, rfl⟩)
      · exact course_bind_iff.2 (Or.inr ⟨_, _, _, _, a, hbody,
          course_sendOrRollBack_bind_iff.2 (Or.inr ⟨rows, [], .done _, rfl⟩), rfl, rfl⟩)

/-- An operation in a transaction takes a course. -/
inductive TransactionCourse {α : Type} (body : Operation α) :
    List Exchange → List Counter → Except OperationError α → Prop
  /-- There is no connection. -/
  | unconnected (e : DatabaseError) :
      TransactionCourse body [(.connect, .error e)] [] (.error (.ofDatabase e))
  /-- The transaction is not opened. -/
  | unopened (opened : Rows) (e : DatabaseError) (reply : Reply) :
      TransactionCourse body
        [(.connect, .ok opened), (.begin, .error e), (.rollback, reply)] []
        (.error (.ofDatabase e))
  /-- The operation fails. -/
  | failed (opened begun : Rows) {steps : List Exchange} {counters : List Counter}
      {error : OperationError} (h : Course body.run steps counters (.error error))
      (reply : Reply) :
      TransactionCourse body
        ((.connect, .ok opened) :: (.begin, .ok begun) :: (steps ++ [(.rollback, reply)]))
        counters (.error error)
  /-- The operation succeeds and is not committed. -/
  | uncommitted (opened begun : Rows) {steps : List Exchange} {counters : List Counter} {a : α}
      (h : Course body.run steps counters (.ok a)) (e : DatabaseError) (reply : Reply) :
      TransactionCourse body
        ((.connect, .ok opened) :: (.begin, .ok begun) ::
          (steps ++ [(.commit, .error e), (.rollback, reply)]))
        counters (.error (.ofDatabase e))
  /-- The operation succeeds and is committed. -/
  | committed (opened begun : Rows) {steps : List Exchange} {counters : List Counter} {a : α}
      (h : Course body.run steps counters (.ok a)) (rows : Rows) :
      TransactionCourse body
        ((.connect, .ok opened) :: (.begin, .ok begun) :: (steps ++ [(.commit, .ok rows)]))
        counters (.ok a)

/-- These are the courses of an operation in a transaction. -/
theorem course_inTransaction_iff {body : Operation α} {result : Except OperationError α} :
    Course (inTransaction body).run exchanges counters result ↔
      TransactionCourse body exchanges counters result := by
  rw [inTransaction, course_send_bind_iff]
  -- Opening, beginning and all the rest follow each other.
  simp only [course_sendOrRollBack_bind_iff, course_concluded_iff]
  constructor
  · rintro (⟨e, rfl, rfl, rfl⟩ | ⟨opened, _, ⟨e, reply, rfl, rfl, rfl⟩ | ⟨begun, _, h, rfl⟩, rfl⟩)
    · exact .unconnected e
    · exact .unopened opened e reply
    · rcases h with ⟨steps, error, reply, h, rfl, rfl⟩ |
        ⟨steps, a, h, ⟨e, reply, rfl, rfl⟩ | ⟨rows, rfl, rfl⟩⟩
      · exact .failed opened begun h reply
      · exact .uncommitted opened begun h e reply
      · exact .committed opened begun h rows
  · intro h
    cases h with
    | unconnected e => exact Or.inl ⟨e, rfl, rfl, rfl⟩
    | unopened opened e reply =>
        exact Or.inr ⟨opened, _, Or.inl ⟨e, reply, rfl, rfl, rfl⟩, rfl⟩
    | failed opened begun h reply =>
        exact Or.inr ⟨opened, _, Or.inr ⟨begun, _, Or.inl ⟨_, _, reply, h, rfl, rfl⟩, rfl⟩, rfl⟩
    | uncommitted opened begun h e reply =>
        exact Or.inr ⟨opened, _, Or.inr ⟨begun, _,
          Or.inr ⟨_, _, h, Or.inl ⟨e, reply, rfl, rfl⟩⟩, rfl⟩, rfl⟩
    | committed opened begun h rows =>
        exact Or.inr ⟨opened, _, Or.inr ⟨begun, _,
          Or.inr ⟨_, _, h, Or.inr ⟨rows, rfl, rfl⟩⟩, rfl⟩, rfl⟩

/-- After certain exchanges there will be no result, whatever comes back from then on. -/
def Doomed (body : Operation α) (before : List Exchange) : Prop :=
  ∀ after counters result, TransactionCourse body (before ++ after) counters result →
    ∀ a, result ≠ .ok a

/-- A step failed: a command, or the operation after it was begun. -/
def StepFailed (body : Operation α) (before : List Exchange) : Prop :=
  (∃ command e, (command, .error e) ∈ before) ∨
    ∃ opened begun steps counters error, Course body.run steps counters (.error error) ∧
      before = (.connect, .ok opened) :: (.begin, .ok begun) :: steps

/-- All steps succeeded: the connection and the transaction were opened, and the operation
    has a result. -/
def Completed (body : Operation α) (exchanges : List Exchange) : Prop :=
  ∃ opened begun steps counters a after, Course body.run steps counters (.ok a) ∧
    exchanges = (.connect, .ok opened) :: (.begin, .ok begun) :: (steps ++ after)

/-- What is said in one transaction at most: nothing, or a connection is opened, or a
    transaction as well, inside of which there are only statements and which is committed
    or rolled back. -/
def OneTransaction (commands : List Command) : Prop :=
  commands = [] ∨ commands = [.connect] ∨
    ∃ statements ending, (∀ command ∈ statements, ∃ sql, command = .execute sql) ∧
      (ending = [.rollback] ∨ ending = [.commit] ∨ ending = [.commit, .rollback]) ∧
      commands = .connect :: .begin :: (statements ++ ending)

variable {body : Operation α}

theorem not_doomed_of_committed {before after : List Exchange} {a : α}
    (h : TransactionCourse body (before ++ after) counters (.ok a)) : ¬Doomed body before :=
  fun hdoomed => hdoomed after counters _ h a rfl

/-- Up to its commit, an operation that succeeds is not doomed. -/
theorem not_doomed_of_ok (opened begun : Rows) {steps before after : List Exchange} {a : α}
    (h : Course body.run steps counters (.ok a))
    (hsplit : (.connect, .ok opened) :: (.begin, .ok begun) :: steps = before ++ after) :
    ¬Doomed body before := by
  have hcommitted := TransactionCourse.committed opened begun h Rows.none
  rw [← List.cons_append, ← List.cons_append, hsplit, List.append_assoc] at hcommitted
  exact not_doomed_of_committed hcommitted

/-- Nor is an operation doomed that goes on to say something, if it is hopeful. -/
theorem not_doomed_of_asked {Q : α → Prop} (hbody : body.Hopeful True Q) {opened begun : Rows}
    {steps before after : List Exchange} {exchange : Exchange} {result : Except OperationError α}
    (h : Course body.run steps counters result)
    (hsplit : (.connect, .ok opened) :: (.begin, .ok begun) :: steps =
      before ++ exchange :: after) : ¬Doomed body before := by
  rcases (hbody.reaches trivial).exists_course with ⟨_, _, _, hsuccess, _, rfl, -⟩
  -- Before the operation began all could go well, and within it the tree says so.
  rcases before with _ | ⟨first, _ | ⟨second, before⟩⟩
  · exact not_doomed_of_ok opened begun hsuccess rfl
  · injection hsplit with hfirst
    rw [← hfirst]
    exact not_doomed_of_ok _ begun hsuccess rfl
  · injection hsplit with hfirst hsplit
    injection hsplit with hsecond hsteps
    rw [hsteps] at h
    rcases hbody.earnest.exists_course h with ⟨after', _, _, hsuccess, _, rfl, -⟩
    rw [← hfirst, ← hsecond]
    exact not_doomed_of_ok _ _ hsuccess rfl

/-- Exchanges that end in known ones are split in front of those or among them. -/
theorem split_cases (front : List Exchange) {ending before after : List Exchange}
    (h : front ++ ending = before ++ after) :
    (∃ middle, front = before ++ middle ∧ after = middle ++ ending) ∨
      ∃ middle, before = front ++ middle ∧ ending = middle ++ after ∧ middle ≠ [] := by
  rcases List.append_eq_append_iff.1 h with ⟨middle, hbefore, hending⟩ | ⟨middle, hfront, hafter⟩
  · rcases middle with _ | ⟨exchange, middle⟩
    · exact Or.inl ⟨[], by rw [hbefore, List.append_nil, List.append_nil], hending.symm⟩
    · exact Or.inr ⟨_, hbefore, hending, List.cons_ne_nil _ _⟩
  · exact Or.inl ⟨middle, hfront, hafter⟩

theorem mem_of_split {first : Exchange} {rest middle after : List Exchange}
    (h : first :: rest = middle ++ after) (hne : middle ≠ []) :
    ∀ exchange ∈ after, exchange ∈ rest := by
  rcases middle with _ | ⟨_, middle⟩
  · exact absurd rfl hne
  · injection h with _ hrest
    intro exchange hmem
    rw [hrest]
    exact List.mem_append_right _ hmem

theorem head_mem_of_split {first : Exchange} {rest middle after : List Exchange}
    (h : first :: rest = middle ++ after) (hne : middle ≠ []) : first ∈ middle := by
  rcases middle with _ | ⟨_, middle⟩
  · exact absurd rfl hne
  · injection h with hfirst
    rw [hfirst]
    exact List.mem_cons_self

namespace TransactionCourse

variable {result : Except OperationError α}

/-- If every command is answered, only the operation itself can still fail. -/
theorem of_answered (h : TransactionCourse body exchanges counters result)
    (hanswered : ∀ exchange ∈ exchanges, ∃ rows, exchange.2 = .ok rows) :
    ∃ opened begun ended steps,
      (Course body.run steps counters result ∧ (∃ error, result = .error error) ∧
        exchanges = (.connect, .ok opened) :: (.begin, .ok begun) ::
          (steps ++ [(.rollback, .ok ended)])) ∨
      (Course body.run steps counters result ∧ (∃ a, result = .ok a) ∧
        exchanges = (.connect, .ok opened) :: (.begin, .ok begun) ::
          (steps ++ [(.commit, .ok ended)])) := by
  -- In every course but the two a command was rejected.
  have hrejected : ∀ command e, (command, .error e) ∉ exchanges := by
    intro command e hmem
    rcases hanswered _ hmem with ⟨rows, hrows⟩
    cases hrows
  cases h with
  | unconnected e => exact absurd List.mem_cons_self (hrejected .connect e)
  | unopened opened e reply =>
      exact absurd (List.mem_cons_of_mem _ List.mem_cons_self) (hrejected .begin e)
  | @failed opened begun steps _ error hbody reply =>
      cases reply with
      | error e => exact absurd (by simp) (hrejected .rollback e)
      | ok ended => exact ⟨opened, begun, ended, steps, Or.inl ⟨hbody, ⟨error, rfl⟩, rfl⟩⟩
  | uncommitted opened begun hbody e reply => exact absurd (by simp) (hrejected .commit e)
  | @committed opened begun steps _ a hbody ended =>
      exact ⟨opened, begun, ended, steps, Or.inr ⟨hbody, ⟨a, rfl⟩, rfl⟩⟩

/-- Once there will be no result, nothing but a rollback is said. -/
theorem rollback_of_doomed {Q : α → Prop} (hbody : body.Hopeful True Q)
    (h : TransactionCourse body exchanges counters result) {before after : List Exchange}
    (hsplit : exchanges = before ++ after) (hdoomed : Doomed body before) :
    ∀ exchange ∈ after, exchange.1 = .rollback := by
  rcases (hbody.reaches trivial).exists_course with ⟨_, _, _, hsuccess, _, rfl, -⟩
  cases h with
  | unconnected e =>
      rcases before with _ | ⟨first, before⟩
      · -- Before anything was said all could still have gone well.
        refine absurd hdoomed ?_
        exact not_doomed_of_ok Rows.none Rows.none hsuccess rfl
      · exact fun exchange hmem => nomatch mem_of_split hsplit (List.cons_ne_nil _ _) exchange hmem
  | unopened opened e reply =>
      rcases before with _ | ⟨first, _ | ⟨second, before⟩⟩
      · refine absurd hdoomed ?_
        exact not_doomed_of_ok Rows.none Rows.none hsuccess rfl
      · -- Nor is anything lost by opening a connection.
        injection hsplit with hfirst
        rw [← hfirst] at hdoomed
        refine absurd hdoomed ?_
        exact not_doomed_of_ok _ Rows.none hsuccess rfl
      · injection hsplit with _ hsplit
        intro exchange hmem
        have hlast := mem_of_split hsplit (List.cons_ne_nil _ _) exchange hmem
        rw [List.mem_singleton.1 hlast]
  | @failed opened begun steps _ _ h reply =>
      rcases split_cases (_ :: _ :: steps) hsplit with
        ⟨middle, hfront, rfl⟩ | ⟨middle, -, hending, hne⟩
      · -- Only the rollback is left, or something was still to be asked of the operation.
        rcases middle with _ | ⟨exchange, middle⟩
        · exact List.forall_mem_singleton.2 rfl
        · exact absurd hdoomed (not_doomed_of_asked hbody h hfront)
      · exact fun exchange hmem => nomatch mem_of_split hending hne exchange hmem
  | @uncommitted opened begun steps _ _ h e reply =>
      rcases split_cases (_ :: _ :: steps) hsplit with
        ⟨middle, hfront, -⟩ | ⟨middle, -, hending, hne⟩
      · exact absurd hdoomed (not_doomed_of_ok _ _ h hfront)
      · intro exchange hmem
        rw [List.mem_singleton.1 (mem_of_split hending hne exchange hmem)]
  | @committed opened begun steps _ _ h rows =>
      rcases split_cases (_ :: _ :: steps) hsplit with
        ⟨middle, hfront, -⟩ | ⟨middle, -, hending, hne⟩
      · exact absurd hdoomed (not_doomed_of_ok _ _ h hfront)
      · exact fun exchange hmem => nomatch mem_of_split hending hne exchange hmem

/-- With a failed step on the way there is no result. -/
theorem doomed_of_stepFailed {Q : α → Prop} (hbody : body.Hopeful True Q)
    {before : List Exchange} (hfailed : StepFailed body before) : Doomed body before := by
  intro after counters result h a hresult
  generalize hsplit : before ++ after = exchanges at h
  cases hresult
  cases h with
  | @committed opened begun steps _ _ h rows =>
      rcases hfailed with ⟨command, e, hmem⟩ | ⟨_, _, failing, _, error, hfailing, rfl⟩
      · have hwhole := List.mem_append_left after hmem
        rw [hsplit] at hwhole
        simp only [List.mem_cons, List.mem_append, Prod.mk.injEq, reduceCtorEq, and_false,
          List.not_mem_nil, or_false, false_or] at hwhole
        rcases hbody.earnest.error_of_mem h hwhole with ⟨error, hnone⟩
        exact nomatch hnone
      · -- The operation takes one course only, so it cannot have gone on to succeed.
        injection hsplit with _ hsplit
        injection hsplit with _ hsplit
        rcases List.append_eq_append_iff.1 hsplit with ⟨more, rfl, -⟩ | ⟨more, rfl, -⟩
        · exact nomatch (hfailing.determined h).2.2
        · exact nomatch (h.determined hfailing).2.2

variable (hexecutes : ∀ {steps counters result}, Course body.run steps counters result →
  ∀ exchange ∈ steps, ∃ sql, exchange.1 = .execute sql)

include hexecutes

/-- All statements of a transaction are inside. -/
theorem oneTransaction (h : TransactionCourse body exchanges counters result) :
    OneTransaction (exchanges.map Prod.fst) := by
  have hstatements : ∀ {steps counters result}, Course body.run steps counters result →
      ∀ command ∈ steps.map Prod.fst, ∃ sql, command = .execute sql := by
    intro steps counters result h command hmem
    rcases List.mem_map.1 hmem with ⟨exchange, hexchange, rfl⟩
    exact hexecutes h exchange hexchange
  -- What comes after the statements depends on how the transaction ends.
  cases h with
  | unconnected e => exact Or.inr (Or.inl rfl)
  | unopened opened e reply =>
      exact Or.inr (Or.inr ⟨[], [.rollback], List.forall_mem_nil _, Or.inl rfl, rfl⟩)
  | failed opened begun h reply =>
      refine Or.inr (Or.inr ⟨_, [.rollback], hstatements h, Or.inl rfl, ?_⟩)
      rw [List.map_cons, List.map_cons, List.map_append]
      rfl
  | uncommitted opened begun h e reply =>
      refine Or.inr (Or.inr ⟨_, [.commit, .rollback], hstatements h, Or.inr (Or.inr rfl), ?_⟩)
      rw [List.map_cons, List.map_cons, List.map_append]
      rfl
  | committed opened begun h rows =>
      refine Or.inr (Or.inr ⟨_, [.commit], hstatements h, Or.inr (Or.inl rfl), ?_⟩)
      rw [List.map_cons, List.map_cons, List.map_append]
      rfl

theorem not_mem_of_course {steps : List Exchange} (h : Course body.run steps counters result)
    (reply : Reply) : (.commit, reply) ∉ steps := by
  intro hmem
  rcases hexecutes h _ hmem with ⟨sql, hsql⟩
  exact nomatch hsql

/-- There is a result just if a commit succeeded. -/
theorem ok_iff (h : TransactionCourse body exchanges counters result) :
    (∃ a, result = .ok a) ↔ ∃ rows, (.commit, .ok rows) ∈ exchanges := by
  cases h with
  | unconnected e => simp
  | unopened opened e reply => simp
  | failed opened begun h reply =>
      have hnot := fun rows => not_mem_of_course hexecutes h (.ok rows)
      simp [hnot]
  | uncommitted opened begun h e reply =>
      have hnot := fun rows => not_mem_of_course hexecutes h (.ok rows)
      simp [hnot]
  | committed opened begun h rows => simp

theorem commit_not_mem_of_failed {opened begun : Rows} {steps : List Exchange} (reply : Reply)
    (h : Course body.run steps counters result) :
    .commit ∉ ((.connect, .ok opened) :: (.begin, .ok begun) ::
      (steps ++ [(.rollback, reply)]) : List Exchange).map Prod.fst := by
  intro hmem
  rcases List.mem_map.1 hmem with ⟨⟨command, found⟩, hexchange, rfl⟩
  have hnot := not_mem_of_course hexecutes h found
  simp [hnot] at hexchange

/-- A commit is said just if the operation was done before. -/
theorem commit_iff_completed (h : TransactionCourse body exchanges counters result) :
    .commit ∈ exchanges.map Prod.fst ↔ Completed body exchanges := by
  constructor
  · intro hcommit
    cases h with
    | unconnected e => exact absurd hcommit (by simp)
    | unopened opened e reply => exact absurd hcommit (by simp)
    | failed opened begun h reply =>
        exact absurd hcommit (commit_not_mem_of_failed hexecutes reply h)
    | uncommitted opened begun h e reply => exact ⟨opened, begun, _, _, _, _, h, rfl⟩
    | committed opened begun h rows => exact ⟨opened, begun, _, _, _, _, h, rfl⟩
  · rintro ⟨_, _, done, _, a, after, hdone, hsplit⟩
    cases h with
    | unconnected e => exact nomatch hsplit
    | unopened opened e reply => exact nomatch hsplit
    | @failed opened begun steps _ error h reply =>
        injection hsplit with _ hsplit
        injection hsplit with _ hsplit
        -- A course that succeeded is no part of one that failed, nor the other way round.
        rcases split_cases steps hsplit with ⟨middle, rfl, -⟩ | ⟨middle, rfl, hending, hne⟩
        · exact nomatch (hdone.determined h).2.2
        · have hmem := List.mem_append_right steps (head_mem_of_split hending hne)
          rcases hexecutes hdone _ hmem with ⟨sql, hsql⟩
          exact nomatch hsql
    | uncommitted opened begun h e reply => simp
    | committed opened begun h rows => simp

/-- A commit is said just if nothing had spoiled the outcome before. -/
theorem commit_iff (h : TransactionCourse body exchanges counters result) :
    .commit ∈ exchanges.map Prod.fst ↔ ∀ before after, exchanges = before ++ after →
      .commit ∉ before.map Prod.fst → ¬Doomed body before := by
  constructor
  · -- What comes before the commit is a beginning of the operation, which went on to succeed.
    intro hcommit before after hsplit hnot
    cases h with
    | unconnected e => exact absurd hcommit (by simp)
    | unopened opened e reply => exact absurd hcommit (by simp)
    | failed opened begun h reply =>
        exact absurd hcommit (commit_not_mem_of_failed hexecutes reply h)
    | @uncommitted opened begun steps _ _ h e reply =>
        rcases split_cases (_ :: _ :: steps) hsplit with
          ⟨middle, hfront, -⟩ | ⟨middle, rfl, hending, hne⟩
        · exact not_doomed_of_ok _ _ h hfront
        · have hmem := List.mem_map_of_mem (f := Prod.fst) (head_mem_of_split hending hne)
          rw [List.map_append] at hnot
          exact absurd (List.mem_append_right _ hmem) hnot
    | @committed opened begun steps _ _ h rows =>
        rcases split_cases (_ :: _ :: steps) hsplit with
          ⟨middle, hfront, -⟩ | ⟨middle, rfl, hending, hne⟩
        · exact not_doomed_of_ok _ _ h hfront
        · have hmem := List.mem_map_of_mem (f := Prod.fst) (head_mem_of_split hending hne)
          rw [List.map_append] at hnot
          exact absurd (List.mem_append_right _ hmem) hnot
  · intro hall
    by_cases hmem : .commit ∈ exchanges.map Prod.fst
    · exact hmem
    · -- A course without a commit is over, and its result does not change any more.
      refine absurd ?_ (hall exchanges [] (List.append_nil _).symm hmem)
      intro after counters' result' h' a hresult
      have hsame := (course_inTransaction_iff.2 h).determined (course_inTransaction_iff.2 h')
      rw [hresult] at hsame
      rcases (ok_iff hexecutes h).1 ⟨a, hsame.2.2⟩ with ⟨rows, hcommit⟩
      exact hmem (List.mem_map_of_mem hcommit)

end TransactionCourse

end Operation

end Registrar
