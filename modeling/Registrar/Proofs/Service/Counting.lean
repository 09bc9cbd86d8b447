import Registrar.Proofs.Operation.Counting
import Registrar.Proofs.Service.Transaction

/-!
# What Requests Count

Two of the counters are about success, of listings and of operations on single records.
What a request adds to them when it succeeds is known beforehand: one, or several if it adds
a member or a note to a project, which is put together from several operations. A request
that fails adds a part of that, because an operation is counted as soon as it has succeeded
itself. Most requests are one operation, and add nothing if they fail before the commit. But
if the commit fails, all has been counted already.

## Main definitions

* `Counter.countsSuccess`: A counter is about success.
* `Counters.value`: The value of one of the counters.
* `Endpoint.IsComposite`: An endpoint takes several operations.

## Theorems

* `Counters.value_foldl_increment`: Counting adds up.
* `Endpoint.Leaves.counts`: What is counted for an endpoint.
* `Service.successes_of_request`: What a request adds to the counters of success.
* `Service.not_uncounted_of_failure`: A request that fails may add something.
-/

namespace Registrar

open Operation Session

/-- A counter is about success. -/
def Counter.countsSuccess : Counter → Bool
  | listings | recordOperations => true
  | clientErrors | serverErrors => false

namespace Counters

/-- The value of one of the counters. -/
def value (counters : Counters) : Counter → Nat
  | .listings => counters.listings
  | .recordOperations => counters.recordOperations
  | .clientErrors => counters.clientErrors
  | .serverErrors => counters.serverErrors

theorem value_increment (counters : Counters) (counted counter : Counter) :
    (counters.increment counted).value counter =
      counters.value counter + if counted = counter then 1 else 0 := by
  cases counted <;> cases counter <;> rfl

/-- Counting adds up, in whatever order it is done. -/
theorem value_foldl_increment (counted : List Counter) (before : Counters) (counter : Counter) :
    (counted.foldl increment before).value counter =
      before.value counter + counted.count counter := by
  induction counted generalizing before with
  | nil => rfl
  | cons first rest ih =>
      rw [List.foldl_cons, ih, value_increment, List.count_cons]
      by_cases hfirst : first = counter
      · rw [if_pos hfirst, if_pos (beq_iff_eq.2 hfirst)]
        omega
      · rw [if_neg hfirst, if_neg (fun h => hfirst (beq_iff_eq.1 h))]
        omega

end Counters

namespace Endpoint

/-- An endpoint takes several operations. -/
def IsComposite : Endpoint → Prop
  | addProjectUser _ | addProjectNote _ => True
  | _ => False

theorem counts_tieNote (project note : Int) (users : List (Option Int)) :
    (tieNote project note users).Counts
      (List.replicate users.length .recordOperations) := by
  induction users with
  | nil => exact counts_pure ()
  | cons user rest ih => exact (counts_createOne _).bind fun _ => ih

theorem counts_joinProject (project : Int) (member : ProjectMember) (link : Payload) :
    (joinProject project member link).Counts [.recordOperations, .recordOperations] :=
  (counts_getOne _).bind fun _ => (counts_createOne _).map fun _ => _

/-- The note itself is counted, its tie to the project, and one for each of its users. -/
theorem counts_annotate (project : Int) (body : ProjectNote) :
    (annotate project body).Counts (.recordOperations ::
      List.replicate (none :: body.users.map some).length .recordOperations) := by
  refine (counts_createOne _).bind fun created => ?_
  split
  · exact counts_fail _ (List.cons_ne_nil _ _)
  · exact (counts_tieNote _ _ _).map fun _ => _

theorem eq_recordOperations_of_mem {counter : Counter} {n : Nat}
    (h : counter ∈ Counter.recordOperations :: List.replicate n .recordOperations) :
    counter = .recordOperations := by
  rw [← List.replicate_succ] at h
  exact List.eq_of_mem_replicate h

/-- What is counted for an endpoint: one operation, or several if it takes several. -/
theorem Leaves.counts {endpoint : Endpoint} {body : Operation Response}
    (h : endpoint.Leaves body) :
    ∃ whole, body.Counts whole ∧ whole ≠ [] ∧ (∀ counter ∈ whole, counter.countsSuccess) ∧
      (1 < whole.length → endpoint.IsComposite) := by
  cases h with
  | single hsingle hstatus =>
      refine ⟨_, hsingle.counts.map _, List.cons_ne_nil _ _, List.forall_mem_singleton.2 ?_,
        fun hmore => absurd hmore (Nat.lt_irrefl 1)⟩
      cases hsingle <;> rfl
  | joinProject hlisted hlink =>
      exact ⟨_, counts_joinProject _ _ _, List.cons_ne_nil _ _, by decide, fun _ => trivial⟩
  | annotate hlisted hnote =>
      refine ⟨_, counts_annotate _ _, List.cons_ne_nil _ _, fun counter hmem => ?_,
        fun _ => trivial⟩
      rw [eq_recordOperations_of_mem hmem]
      rfl

end Endpoint

namespace Request

variable {snapshot : Snapshot} {request : Request} {exchanges : List Exchange}
  {counters : List Counter} {response : Response}

/-- What is counted for the answer is about failure. -/
theorem filter_failures (response : Response) :
    (failures response).filter Counter.countsSuccess = [] := by
  rw [failures]
  split
  · rfl
  · split <;> rfl

/-- What a request adds to the counters of success is a part of what it is worth, and all of
    it just if a commit was said. -/
structure Worth (request : Request) (snapshot : Snapshot) (whole : List Counter) : Prop where
  success : ∀ counter ∈ whole, counter.countsSuccess
  composite : 1 < whole.length → ∃ endpoint, request.endpoint? = some endpoint ∧
    endpoint.IsComposite
  added : ∀ exchanges counters response,
    Course (request.answer snapshot) exchanges counters response →
      ∃ rest, whole = counters.filter Counter.countsSuccess ++ rest ∧
        (rest = [] ↔ whole = [] ∨ .commit ∈ exchanges.map Prod.fst)

/-- To look whether the database answers nothing is counted. -/
theorem quiet_ping : Work.ping.run.Quiet :=
  (quiet_send _).bind fun _ => (quiet_send _).bind fun _ => quiet_pure _

/-- What is counted before the answer is known is about success. -/
theorem countsSuccess_of_respond
    (h : Course (request.respond snapshot) exchanges counters response) :
    ∀ counter ∈ counters, counter.countsSuccess := by
  cases htask : request.task snapshot with
  | error answer =>
      rcases (course_respond_of_error htask).1 h with ⟨-, rfl, -⟩
      exact List.forall_mem_nil _
  | ok work =>
      rcases (course_respond_of_ok htask).1 h with ⟨result, hwork, -⟩
      rcases exists_taskOf htask with ⟨endpoint, -, hof⟩
      cases hof with
      | ping =>
          rw [quiet_ping _ _ _ hwork]
          exact List.forall_mem_nil _
      | page =>
          rw [quiet_pure _ _ _ _ hwork]
          exact List.forall_mem_nil _
      | transaction hleaves _ =>
          rcases hleaves.counts with ⟨whole, hcounts, hne, hsuccess, -⟩
          -- What was counted is a part of what the operation counts if it succeeds.
          rcases (course_inTransaction_iff.1 hwork).counted hleaves.sound.statements hcounts hne
            with ⟨rest, rfl, -⟩
          exact fun counter hmem => hsuccess counter (List.mem_append_left _ hmem)

/-- What a request adds to the counters of success is counted before its answer is known. -/
theorem filter_answer {counted : List Counter}
    (h : Course (request.respond snapshot) exchanges counted response) :
    (counted ++ failures response).filter Counter.countsSuccess = counted := by
  rw [List.filter_append, filter_failures, List.append_nil]
  exact List.filter_eq_self.2 (countsSuccess_of_respond h)

/-- A request whose conversation counts nothing is worth nothing. -/
theorem worth_nil (h : ∀ exchanges counted found,
    Course (request.respond snapshot) exchanges counted found → counted = []) :
    request.Worth snapshot [] where
  success := nofun
  composite := nofun
  added := by
    intro exchanges counters response hcourse
    rcases course_answer_iff.1 hcourse with ⟨counted, found, hrespond, rfl, -⟩
    rw [filter_answer hrespond, h _ _ _ hrespond]
    exact ⟨[], rfl, iff_of_true rfl (Or.inl rfl)⟩

/-- Every request is worth something, if only nothing. -/
theorem exists_worth (request : Request) (snapshot : Snapshot) :
    ∃ whole, request.Worth snapshot whole := by
  cases htask : request.task snapshot with
  | error answer =>
      refine ⟨[], worth_nil fun _ _ _ hrespond => ?_⟩
      exact ((course_respond_of_error htask).1 hrespond).2.1
  | ok work =>
      rcases exists_taskOf htask with ⟨endpoint, hendpoint, hof⟩
      cases hof with
      | ping =>
          refine ⟨[], worth_nil fun _ _ _ hrespond => ?_⟩
          rcases (course_respond_of_ok htask).1 hrespond with ⟨result, hwork, -⟩
          exact quiet_ping _ _ _ hwork
      | page =>
          refine ⟨[], worth_nil fun _ _ _ hrespond => ?_⟩
          rcases (course_respond_of_ok htask).1 hrespond with ⟨result, hwork, -⟩
          exact quiet_pure _ _ _ _ hwork
      | transaction hleaves _ =>
          -- An operation in a transaction is worth what it counts if it succeeds.
          rcases hleaves.counts with ⟨whole, hcounts, hne, hsuccess, hcomposite⟩
          refine ⟨whole, hsuccess, fun hmore => ⟨endpoint, hendpoint, hcomposite hmore⟩, ?_⟩
          intro exchanges counters response hcourse
          rcases course_answer_iff.1 hcourse with ⟨counted, found, hrespond, rfl, -⟩
          rw [filter_answer hrespond]
          rcases (course_respond_of_ok htask).1 hrespond with ⟨result, hwork, -⟩
          rcases (course_inTransaction_iff.1 hwork).counted hleaves.sound.statements hcounts hne
            with ⟨rest, rfl, hrest⟩
          exact ⟨rest, rfl, hrest.trans (or_iff_right hne).symm⟩

/-- A request that takes one operation adds nothing unless a commit was said. -/
theorem Worth.filter_eq_nil {whole : List Counter} (h : request.Worth snapshot whole)
    (hsingle : ∀ endpoint, request.endpoint? = some endpoint → ¬endpoint.IsComposite)
    (hcourse : Course (request.answer snapshot) exchanges counters response)
    (hcommit : .commit ∉ exchanges.map Prod.fst) :
    counters.filter Counter.countsSuccess = [] := by
  rcases h.added _ _ _ hcourse with ⟨rest, hwhole, hrest⟩
  by_cases hadded : counters.filter Counter.countsSuccess = []
  · exact hadded
  · -- Something was added and something is left, so there are two operations at least.
    have hleft : rest ≠ [] := by
      intro hnone
      rcases hrest.1 hnone with hnil | hmem
      · rw [hwhole] at hnil
        exact hadded (List.append_eq_nil_iff.1 hnil).1
      · exact hcommit hmem
    have hlength : 1 < whole.length := by
      rw [hwhole, List.length_append]
      have hfirst := List.length_pos_iff.2 hadded
      have hsecond := List.length_pos_iff.2 hleft
      omega
    rcases h.composite hlength with ⟨endpoint, hendpoint, hcomposite⟩
    exact absurd hcomposite (hsingle endpoint hendpoint)

end Request

namespace Service

/-- Whatever is requested and whatever the database replies, what a request adds to the
    counters of success is a part of what it is worth, and all of it just if a commit was
    said, whether or not the commit succeeded. A request that takes one operation adds nothing
    without a commit. What the counters show after a request was handled is what they showed
    before, and what was added along the course that was taken. -/
theorem successes_of_request (request : Request) :
    (∀ snapshot, ∃ whole, request.Worth snapshot whole) ∧
    (∀ snapshot exchanges counters response,
      Course (request.answer snapshot) exchanges counters response →
      (∀ endpoint, request.endpoint? = some endpoint → ¬endpoint.IsComposite) →
      .commit ∉ exchanges.map Prod.fst → counters.filter Counter.countsSuccess = []) ∧
    ∀ (service : Service) (server : Server), ∃ exchanges counters,
      Course (request.answer service.snapshot) exchanges counters
        (service.handle server request).response ∧
      (service.handle server request).service.counters.listings =
        service.counters.listings + counters.count .listings ∧
      (service.handle server request).service.counters.recordOperations =
        service.counters.recordOperations + counters.count .recordOperations := by
  refine ⟨request.exists_worth, ?_, fun service server => ?_⟩
  · intro snapshot exchanges counters response hcourse hsingle hcommit
    rcases request.exists_worth snapshot with ⟨whole, hworth⟩
    exact hworth.filter_eq_nil hsingle hcourse hcommit
  · rcases service.handle_takes_course server request with ⟨exchanges, counters, hcourse, -, hafter⟩
    rw [hafter]
    have hcounted := Counters.value_foldl_increment counters service.counters
    exact ⟨exchanges, counters, hcourse, hcounted .listings, hcounted .recordOperations⟩

/-- A user is taken out of a group, but the commit fails: the answer reports a failure, and
    the operation was counted as successful. -/
theorem not_uncounted_of_failure :
    ¬∀ (service : Service) (server : Server) (request : Request),
      ¬(service.handle server request).response.Succeeds →
        (service.handle server request).service.counters.listings = service.counters.listings ∧
        (service.handle server request).service.counters.recordOperations =
          service.counters.recordOperations := by
  intro hall
  have huncounted := hall start
    ⟨none, none, some (.rejected "could not serialize access"), [.ok ⟨none, 1⟩]⟩
    (Request.ofUri "DELETE" "/groups/7/users/8" none "") (by decide +kernel)
  exact absurd huncounted.2 (by decide +kernel)

end Service

end Registrar
