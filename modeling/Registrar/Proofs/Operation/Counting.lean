import Registrar.Proofs.Operation.Single
import Registrar.Proofs.Operation.Transaction

/-!
# What Operations Count

An operation is counted when it has succeeded, which is the last thing it does. So a single
operation counts once if it has a result and not at all if it has none. Of several
operations after one another those are counted that were done, up to the first that failed:
what is counted then is a part of what would have been counted.

A transaction does not take back what was counted inside of it. If it is rolled back because
the operation failed, a part is counted, and if its commit fails, all is.

## Main definitions

* `Operation.Quiet`: Nothing is counted.
* `Operation.Counts`: What an operation counts if it succeeds, of which one that
  fails counts a part.

## Theorems

* `Operation.Counts.bind`: One operation after another.
* `Operation.Single.counts`: An operation that is given what it needs counts once.
* `Operation.TransactionCourse.counted`: All is counted just if a commit was said.
-/

namespace Registrar

namespace Operation

open Session

variable {α β : Type}

/-- Whatever comes back, nothing is counted. -/
def Quiet (operation : Operation α) : Prop :=
  ∀ exchanges counters result, Course operation.run exchanges counters result → counters = []

theorem quiet_ofExcept (result : Except OperationError α) : (ofExcept result).Quiet :=
  fun _ _ _ h => (course_done_iff.1 h).2.1

theorem quiet_ofReply (result : Except DatabaseError α) : (ofReply result).Quiet :=
  quiet_ofExcept _

theorem quiet_pure (a : α) : Quiet (pure a) :=
  quiet_ofExcept (.ok a)

theorem quiet_fail (error : OperationError) : (fail error : Operation α).Quiet :=
  quiet_ofExcept (.error error)

theorem quiet_send (command : Command) : (send command).Quiet := by
  intro exchanges counters result h
  cases h with
  | ask h => exact (course_done_iff.1 h).2.1

theorem Quiet.bind {operation : Operation α} {next : α → Operation β} (h : operation.Quiet)
    (hnext : ∀ a, (next a).Quiet) : (operation >>= next).Quiet := by
  intro exchanges counters result hcourse
  rcases course_bind_iff.1 hcourse with ⟨e, hfirst, -⟩ | ⟨_, _, _, _, a, hfirst, hsecond, -, rfl⟩
  · exact h _ _ _ hfirst
  · rw [h _ _ _ hfirst, hnext a _ _ _ hsecond]
    rfl

theorem quiet_fetchOne (sql : Sql.Text) : (fetchOne sql).Quiet := by
  refine (quiet_send _).bind fun rows => ?_
  cases rows.first with
  | some cell => exact quiet_pure cell
  | none => exact quiet_fail _

theorem quiet_require (catalog : Catalog) (collection : String) (id : Int) :
    (require catalog collection id).Quiet := by
  have hfind : (find catalog collection id).Quiet := by
    refine (quiet_ofExcept _).bind fun select => (quiet_send _).bind fun rows => ?_
    cases rows.first with
    | some cell => exact (quiet_ofReply _).bind fun document => quiet_pure _
    | none => exact quiet_pure _
  refine hfind.bind fun found => ?_
  cases found with
  | some document => exact quiet_pure document
  | none => exact quiet_fail _

/-- Whatever comes back, what is counted is a part of `whole` from its beginning on, and
    all of it just if the operation has a result. -/
def Counts (whole : List Counter) (operation : Operation α) : Prop :=
  ∀ exchanges counters result, Course operation.run exchanges counters result →
    ∃ rest, whole = counters ++ rest ∧ (rest = [] ↔ ∃ a, result = .ok a)

variable {whole : List Counter} {operation : Operation α}

theorem counts_pure (a : α) : Counts [] (pure a) := by
  intro exchanges counters result h
  rcases course_done_iff.1 h with ⟨-, rfl, rfl⟩
  exact ⟨[], rfl, iff_of_true rfl ⟨a, rfl⟩⟩

theorem counts_fail (error : OperationError) (h : whole ≠ []) :
    (fail error : Operation α).Counts whole := by
  intro exchanges counters result hcourse
  rcases course_done_iff.1 hcourse with ⟨-, rfl, rfl⟩
  exact ⟨whole, rfl, iff_of_false h nofun⟩

theorem counts_tally (counter : Counter) : (tally counter).Counts [counter] := by
  intro exchanges counters result h
  cases h with
  | count h =>
      rcases course_done_iff.1 h with ⟨-, rfl, rfl⟩
      exact ⟨[], rfl, iff_of_true rfl ⟨(), rfl⟩⟩

/-- Of two operations the second counts if the first has a result. -/
theorem Counts.bind {whole' : List Counter} {next : α → Operation β}
    (h : operation.Counts whole) (hnext : ∀ a, (next a).Counts whole') :
    (operation >>= next).Counts (whole ++ whole') := by
  intro exchanges counters result hcourse
  rcases course_bind_iff.1 hcourse with
    ⟨e, hfirst, rfl⟩ | ⟨_, _, counters₁, counters₂, a, hfirst, hsecond, -, rfl⟩
  · rcases h _ _ _ hfirst with ⟨rest, rfl, hrest⟩
    refine ⟨rest ++ whole', List.append_assoc .., iff_of_false (fun hnone => ?_) nofun⟩
    rcases hrest.1 (List.append_eq_nil_iff.1 hnone).1 with ⟨a, ha⟩
    exact nomatch ha
  · rcases h _ _ _ hfirst with ⟨rest, hcounts, hrest⟩
    rcases hnext a _ _ _ hsecond with ⟨rest', rfl, hrest'⟩
    rw [hrest.2 ⟨a, rfl⟩, List.append_nil] at hcounts
    exact ⟨rest', by rw [hcounts, List.append_assoc], hrest'⟩

/-- What counts nothing has no result before what follows it does. -/
theorem Quiet.counts_bind {counter : Counter} {next : α → Operation β} (h : operation.Quiet)
    (hnext : ∀ a, (next a).Counts (counter :: whole)) :
    (operation >>= next).Counts (counter :: whole) := by
  intro exchanges counters result hcourse
  rcases course_bind_iff.1 hcourse with
    ⟨e, hfirst, rfl⟩ | ⟨_, _, _, _, a, hfirst, hsecond, -, rfl⟩
  · rw [h _ _ _ hfirst]
    exact ⟨counter :: whole, rfl, iff_of_false (List.cons_ne_nil _ _) nofun⟩
  · rw [h _ _ _ hfirst]
    exact hnext a _ _ _ hsecond

theorem Counts.map (h : operation.Counts whole) (f : α → β) :
    (f <$> operation).Counts whole := by
  rw [← bind_pure_comp, ← List.append_nil whole]
  exact h.bind fun a => counts_pure (f a)

/-- An operation that counts once does so just if it has a result, and counts nothing just
    if it has none. -/
theorem Counts.once {counter : Counter} (h : operation.Counts [counter])
    {exchanges : List Exchange} {counters : List Counter} {result : Except OperationError α}
    (hcourse : Course operation.run exchanges counters result) :
    (counters = [counter] ↔ ∃ a, result = .ok a) ∧ (counters = [] ↔ ¬∃ a, result = .ok a) := by
  rcases h _ _ _ hcourse with ⟨rest, hrest, hall⟩
  rcases counters with _ | ⟨first, counters⟩
  · -- What is left is the counter itself.
    have hfailed : ¬∃ a, result = .ok a := by
      rw [← hall, ← List.nil_append rest, ← hrest]
      exact List.cons_ne_nil _ _
    exact ⟨iff_of_false (List.cons_ne_nil _ _).symm hfailed, iff_of_true rfl hfailed⟩
  · injection hrest with hfirst hrest
    rcases List.append_eq_nil_iff.1 hrest.symm with ⟨hnil, hnone⟩
    have hresult := hall.1 hnone
    rw [← hfirst, hnil]
    exact ⟨iff_of_true rfl hresult, iff_of_false (List.cons_ne_nil _ _) (not_not_intro hresult)⟩

variable {catalog : Catalog} {collection : String}

/-- An operation that is counted ends in what it had already. -/
theorem counts_tally_pure (counter : Counter) (a : α) :
    (do
      tally counter
      pure a : Operation α).Counts [counter] :=
  (counts_tally counter).map fun _ => a

theorem counts_list (plan : ListingPlan) : (list plan).Counts [.listings] := by
  refine (quiet_fetchOne _).counts_bind fun page => ?_
  refine (quiet_ofReply _).counts_bind fun rows => ?_
  refine (quiet_fetchOne _).counts_bind fun count => ?_
  refine (quiet_ofReply _).counts_bind fun total => ?_
  exact counts_tally_pure _ _

theorem counts_getOne (id : Int) :
    (getOne catalog collection id).Counts [.recordOperations] :=
  (quiet_require _ _ _).counts_bind fun _ => counts_tally_pure _ _

theorem counts_createOne (payload : Payload) :
    (createOne catalog collection payload).Counts [.recordOperations] := by
  refine (quiet_ofExcept _).counts_bind fun record => ?_
  refine (quiet_ofExcept _).counts_bind fun insert => ?_
  refine (quiet_fetchOne _).counts_bind fun key => ?_
  exact (quiet_ofReply _).counts_bind fun id => counts_getOne id

theorem counts_updateOne (id : Int) (payload : Payload) :
    (updateOne catalog collection id payload).Counts [.recordOperations] := by
  refine (quiet_ofExcept _).counts_bind fun record => ?_
  refine (quiet_require _ _ _).counts_bind fun _ => ?_
  refine (quiet_ofExcept _).counts_bind fun update => ?_
  cases update with
  | some update =>
      exact (quiet_send _).counts_bind fun _ => counts_getOne id
  | none => exact counts_getOne id

theorem counts_deleteOne (id : Int) :
    (deleteOne catalog collection id).Counts [.recordOperations] := by
  refine (quiet_require _ _ _).counts_bind fun _ => ?_
  refine (quiet_ofExcept _).counts_bind fun delete => ?_
  exact (quiet_send _).counts_bind fun _ => counts_tally _

theorem counts_deleteMatching (values : List (String × Int)) :
    (deleteMatching catalog collection values).Counts [.recordOperations] := by
  refine (quiet_ofExcept _).counts_bind fun delete => ?_
  refine (quiet_send _).counts_bind fun rows => ?_
  split
  · exact counts_fail _ (List.cons_ne_nil _ _)
  · exact counts_tally _

/-- An operation counts once if it succeeds, and not at all if it fails. -/
theorem Single.counts {counter : Counter} (h : Single counter operation) :
    operation.Counts [counter] := by
  cases h with
  | list hplan => exact counts_list _
  | getOne hlisted id => exact counts_getOne id
  | createOne hlisted hpayload => exact counts_createOne _
  | updateOne id hlisted hpayload => exact counts_updateOne id _
  | deleteOne hlisted id => exact counts_deleteOne id
  | deleteMatching hlisted hcolumns => exact counts_deleteMatching _

/-- What is counted in a transaction is all of it just if a commit was said, whether or not
    that succeeded. -/
theorem TransactionCourse.counted {body : Operation α} {exchanges : List Exchange}
    {counters : List Counter} {result : Except OperationError α}
    (hexecutes : ∀ {steps counters result}, Course body.run steps counters result →
      ∀ exchange ∈ steps, ∃ sql, exchange.1 = .execute sql)
    (hcounts : body.Counts whole) (hne : whole ≠ [])
    (h : TransactionCourse body exchanges counters result) :
    ∃ rest, whole = counters ++ rest ∧ (rest = [] ↔ .commit ∈ exchanges.map Prod.fst) := by
  cases h with
  | unconnected e => exact ⟨whole, rfl, iff_of_false hne (by simp)⟩
  | unopened opened e reply => exact ⟨whole, rfl, iff_of_false hne (by simp)⟩
  | failed opened begun hcourse reply =>
      rcases hcounts _ _ _ hcourse with ⟨rest, rfl, hrest⟩
      -- The operation was not counted to its end, and what follows is a rollback.
      refine ⟨rest, rfl, iff_of_false (fun hnone => ?_)
        (commit_not_mem_of_failed hexecutes reply hcourse)⟩
      rcases hrest.1 hnone with ⟨a, ha⟩
      exact nomatch ha
  | uncommitted opened begun hcourse e reply =>
      rcases hcounts _ _ _ hcourse with ⟨rest, rfl, hrest⟩
      exact ⟨rest, rfl, iff_of_true (hrest.2 ⟨_, rfl⟩) (by simp)⟩
  | committed opened begun hcourse rows =>
      rcases hcounts _ _ _ hcourse with ⟨rest, rfl, hrest⟩
      exact ⟨rest, rfl, iff_of_true (hrest.2 ⟨_, rfl⟩) (by simp)⟩

end Operation

end Registrar
