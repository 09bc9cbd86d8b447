import Registrar.Proofs.Service.Counting

/-!
# What the Counters Tell

Since the service was started, as many client errors were counted as requests were answered
with one, and as many server errors. It does not matter which part of the service gave the
answer: the path may have named nothing, the target may not have supported the method, the
request may not have been understood, or its work may have failed. What counts a failure is
the status of the answer, and that is looked at once for every request.

Listings are counted by the work itself, when the rows and their number are there. That is
before the commit, so if a commit fails a listing may have been counted that is not answered.
Apart from that, as many were counted as were answered.

Requests may be answered at the same time. Each counts for itself, one thing at a time, and
what the counters show in the end does not depend on the order. A history therefore says of
each request which course it took, and of the counters that they counted all of these courses
in some order. Requests that are handled one after another make up such a history.

## Main definitions

* `Response.isClientError`, `Response.isServerError`: The class of a response.
* `Response.Classed`: A failure was counted once, by the class of the response.
* `Request.asksListing`: A request is for a listing.
* `Visit`: A request that was answered.
* `History`: Requests that were answered, and the counters afterwards.
* `Service.visits`, `Service.after`: Requests that are handled one after another.

## Theorems

* `Request.classed_of_course`: What is counted of a failure.
* `Request.count_listings`: What is counted of a listing.
* `History.value_eq_countP`: What every visit counts adds up.
* `Service.counters_of_history`: What the counters show.
-/

namespace Registrar

open Operation Session

namespace Response

/-- A response reports a failure that is the client's doing. -/
def isClientError (response : Response) : Bool :=
  400 ≤ response.status ∧ response.status < 500

/-- A response reports a failure that is ours. -/
def isServerError (response : Response) : Bool :=
  500 ≤ response.status ∧ response.status < 600

/-- What was counted on the way to a response is a failure of its class, once, or nothing but
    success. -/
def Classed (response : Response) (counters : List Counter) : Prop :=
  (response.Succeeds ∧ counters.filter (!·.countsSuccess) = []) ∨
  (response.isClientError = true ∧ counters.filter (!·.countsSuccess) = [.clientErrors]) ∨
  (response.isServerError = true ∧ counters.filter (!·.countsSuccess) = [.serverErrors])

end Response

/-- The statuses of failures are of one of the two classes. -/
theorem isError_of_mem {response : Response} (h : response.status ∈ [405, 400, 404, 422, 500]) :
    response.isClientError = true ∨ response.isServerError = true := by
  have hall : ∀ status ∈ [405, 400, 404, 422, 500],
      (400 ≤ status ∧ status < 500) ∨ (500 ≤ status ∧ status < 600) := by decide
  simp only [Response.isClientError, Response.isServerError, decide_eq_true_eq]
  exact hall _ h

namespace Endpoint

/-- An endpoint is a listing. -/
def isListing : Endpoint → Bool
  | list _ | listRelated .. => true
  | _ => false

variable {snapshot : Snapshot} {request : Request} {endpoint : Endpoint} {work : Work}
  {body : Operation Response}

/-- A listing leaves the operation that lists to do. -/
theorem listing_of_work (hlisting : endpoint.isListing = true)
    (h : endpoint.work snapshot request = .ok work) :
    ∃ plan, work = .transaction (listingPage <$> Operation.list plan) := by
  cases endpoint with
  | list collection =>
      rcases bind_eq_ok_iff.1 h with ⟨plan, -, h⟩
      cases h
      exact ⟨plan, rfl⟩
  | listRelated relation segment =>
      rcases bind_eq_ok_iff.1 h with ⟨id, -, h⟩
      rcases bind_eq_ok_iff.1 h with ⟨plan, -, h⟩
      cases h
      exact ⟨plan, rfl⟩
  | _ => exact absurd hlisting Bool.false_ne_true

/-- Something is counted for an operation, but no listing. -/
def Spares (body : Operation Response) : Prop :=
  ∃ whole, body.Counts whole ∧ whole ≠ [] ∧ .listings ∉ whole

theorem spares_of_counts (h : body.Counts [.recordOperations]) : Spares body :=
  ⟨_, h, List.cons_ne_nil _ _, by decide⟩

/-- For everything else no listing is counted. -/
theorem spares_of_work (hlisting : ¬endpoint.isListing = true)
    (h : endpoint.work snapshot request = .ok (.transaction body)) : Spares body := by
  -- All other endpoints work on single records, and what these count is known.
  cases endpoint with
  | health | metrics => cases h
  | list | listRelated => exact absurd rfl hlisting
  | get collection segment =>
      rcases bind_eq_ok_iff.1 h with ⟨id, -, h⟩
      cases h
      exact spares_of_counts ((counts_getOne id).map _)
  | create resource =>
      rcases bind_eq_ok_iff.1 h with ⟨payload, -, h⟩
      rcases bind_eq_ok_iff.1 h with ⟨accepted, -, h⟩
      cases h
      exact spares_of_counts ((counts_createOne accepted).map _)
  | update resource segment =>
      rcases bind_eq_ok_iff.1 h with ⟨id, -, h⟩
      rcases bind_eq_ok_iff.1 h with ⟨payload, -, h⟩
      rcases bind_eq_ok_iff.1 h with ⟨accepted, -, h⟩
      cases h
      exact spares_of_counts ((counts_updateOne id accepted).map _)
  | delete collection segment =>
      rcases bind_eq_ok_iff.1 h with ⟨id, -, h⟩
      cases h
      exact spares_of_counts ((counts_deleteOne id).bind fun _ => counts_pure _)
  | addGroupUser segment =>
      rcases bind_eq_ok_iff.1 h with ⟨group, -, h⟩
      rcases bind_eq_ok_iff.1 h with ⟨user, -, h⟩
      cases h
      exact spares_of_counts ((counts_createOne _).bind fun _ => counts_pure _)
  | addProjectUser segment =>
      rcases bind_eq_ok_iff.1 h with ⟨project, -, h⟩
      rcases bind_eq_ok_iff.1 h with ⟨member, -, h⟩
      rcases bind_eq_ok_iff.1 h with ⟨link, -, h⟩
      cases h
      exact ⟨_, counts_joinProject project member link, List.cons_ne_nil _ _, by decide⟩
  | addProjectNote segment =>
      rcases bind_eq_ok_iff.1 h with ⟨project, -, h⟩
      rcases bind_eq_ok_iff.1 h with ⟨body, -, h⟩
      rcases bind_eq_ok_iff.1 h with ⟨note, -, h⟩
      cases h
      refine ⟨_, counts_annotate project ⟨note, body.users⟩, List.cons_ne_nil _ _, fun hmem => ?_⟩
      cases eq_recordOperations_of_mem hmem
  | untie tie first second =>
      rcases bind_eq_ok_iff.1 h with ⟨ids, -, h⟩
      cases h
      exact spares_of_counts ((counts_deleteMatching _).bind fun _ => counts_pure _)

end Endpoint

namespace Request

variable {snapshot : Snapshot} {request : Request} {exchanges : List Exchange}
  {counters : List Counter} {response : Response}

/-- A request is for a listing. -/
def asksListing (request : Request) : Bool :=
  request.endpoint?.any Endpoint.isListing

/-- The result of what a request leaves to do reports success. -/
theorem succeeds_of_task {work : Work} (h : request.task snapshot = .ok work)
    (hwork : Course work.run.run exchanges counters (.ok response)) : response.Succeeds := by
  rcases exists_taskOf h with ⟨endpoint, -, htask⟩
  cases htask with
  | ping =>
      have hping : Work.ping.run.Holds (fun _ => True) fun found => found.status = 204 :=
        (holds_send trivial).bind fun _ _ => (holds_send trivial).bind fun _ _ => holds_pure rfl
      have hstatus := (Session.Holds.of_course hping hwork).2 response rfl
      refine succeeds_of_mem ?_
      rw [hstatus]
      decide
  | page =>
      rcases course_done_iff.1 hwork with ⟨-, -, hpage⟩
      cases hpage
      exact succeeds_of_mem (by decide : 200 ∈ _)
  | transaction hleaves _ => exact hleaves.sound.succeeds (course_inTransaction_iff.1 hwork)

/-- What comes of a request is success, or a failure of one of the two classes. -/
theorem class_of_respond (h : Course (request.respond snapshot) exchanges counters response) :
    response.Succeeds ∨ response.isClientError = true ∨ response.isServerError = true := by
  cases htask : request.task snapshot with
  | error answer =>
      rcases (course_respond_of_error htask).1 h with ⟨-, -, rfl⟩
      exact Or.inr (isError_of_mem (status_mem_of_task htask))
  | ok work =>
      rcases (course_respond_of_ok htask).1 h with ⟨result, hwork, rfl⟩
      cases result with
      | ok found => exact Or.inl (succeeds_of_task htask hwork)
      | error e =>
          have hstatus := (ServiceError.operation e).status_mem
          exact Or.inr (isError_of_mem (List.mem_cons_of_mem _ hstatus))

/-- A failure is counted once, by the class of its answer, and nothing else is counted of
    it. -/
theorem classed_of_course (h : Course (request.answer snapshot) exchanges counters response) :
    response.Classed counters := by
  rcases course_answer_iff.1 h with ⟨counted, found, hrespond, rfl, rfl⟩
  have hcounted : counted.filter (!·.countsSuccess) = [] := by
    refine List.filter_eq_nil_iff.2 fun counter hmem => ?_
    rw [countsSuccess_of_respond hrespond counter hmem]
    decide
  -- What is left is counted for the answer, which is shown with the same status.
  unfold Response.Classed
  rw [List.filter_append, hcounted, List.nil_append]
  have hclass := class_of_respond hrespond
  simp only [Response.Succeeds, Response.isClientError, Response.isServerError,
    decide_eq_true_eq, status_shown] at hclass ⊢
  rcases hclass with hclass | hclass | hclass
  · refine Or.inl ⟨hclass, ?_⟩
    rw [failures, if_neg (by omega), if_neg (by omega)]
    rfl
  · refine Or.inr (Or.inl ⟨hclass, ?_⟩)
    rw [failures, if_pos hclass]
    rfl
  · refine Or.inr (Or.inr ⟨hclass, ?_⟩)
    rw [failures, if_neg (by omega), if_pos hclass]
    rfl

/-- Of the two counters of failures the one of the class is counted. -/
theorem count_failures (h : Course (request.answer snapshot) exchanges counters response) :
    counters.count .clientErrors = (if response.isClientError = true then 1 else 0) ∧
      counters.count .serverErrors = (if response.isServerError = true then 1 else 0) := by
  have hclient : (counters.filter (!·.countsSuccess)).count .clientErrors =
      counters.count .clientErrors := List.count_filter rfl
  have hserver : (counters.filter (!·.countsSuccess)).count .serverErrors =
      counters.count .serverErrors := List.count_filter rfl
  rw [← hclient, ← hserver]
  -- A status is of one class only.
  rcases classed_of_course h with ⟨hclass, hcounted⟩ | ⟨hclass, hcounted⟩ | ⟨hclass, hcounted⟩ <;>
    simp only [Response.Succeeds, Response.isClientError, Response.isServerError,
      decide_eq_true_eq] at hclass ⊢ <;>
    rw [hcounted]
  · rw [if_neg (by omega), if_neg (by omega)]
    exact ⟨rfl, rfl⟩
  · rw [if_pos hclass, if_neg (by omega)]
    exact ⟨rfl, rfl⟩
  · rw [if_neg (by omega), if_pos hclass]
    exact ⟨rfl, rfl⟩

theorem count_listings_failures (response : Response) :
    (failures response).count .listings = 0 := by
  unfold failures
  split
  · rfl
  · split <;> rfl

theorem asksListing_eq {endpoint : Endpoint} (h : request.endpoint? = some endpoint) :
    request.asksListing = endpoint.isListing := by
  unfold asksListing
  rw [h]
  rfl

/-- In the transaction of a listing one is counted just if there is a result, unless the
    commit failed. -/
theorem counted_of_listing {plan : ListingPlan} {counted : List Counter}
    {result : Except OperationError Response}
    (h : TransactionCourse (Endpoint.listingPage <$> list plan) exchanges counted result)
    (hsound : (Endpoint.listingPage <$> list plan).Sound)
    (hcommit : ∀ e, (.commit, .error e) ∉ exchanges) :
    counted.count .listings = if (outcome result).status = 200 then 1 else 0 := by
  have hcounts : (Endpoint.listingPage <$> list plan).Counts [.listings] :=
    (counts_list plan).map Endpoint.listingPage
  rcases h.counted hsound.statements hcounts (List.cons_ne_nil _ _) with ⟨rest, hwhole, hrest⟩
  cases result with
  | ok found =>
      -- The rows are committed, so the listing was counted, and its page is the answer.
      rcases (h.ok_iff hsound.statements).1 ⟨found, rfl⟩ with ⟨rows, hmem⟩
      rw [hrest.2 (List.mem_map_of_mem hmem), List.append_nil] at hwhole
      have hpage : (Endpoint.listingPage <$> list plan).Holds (fun _ => True)
          fun response => response.status = 200 :=
        (holds_list trivial trivial).map fun _ _ => rfl
      have hall := hpage.inTransaction trivial trivial trivial trivial
      have hstatus := (Session.Holds.of_course hall (course_inTransaction_iff.2 h)).2 found rfl
      rw [← hwhole]
      exact (if_pos hstatus).symm
  | error e =>
      -- Nothing was committed, so something is left to count, and that is all there is.
      have hopen : .commit ∉ exchanges.map Prod.fst := by
        intro hmem
        rcases List.mem_map.1 hmem with ⟨⟨command, reply⟩, hmem, rfl⟩
        cases reply with
        | error found => exact hcommit found hmem
        | ok rows =>
            rcases (h.ok_iff hsound.statements).2 ⟨rows, hmem⟩ with ⟨a, ha⟩
            cases ha
      have hleft : rest ≠ [] := fun hnil => hopen (hrest.1 hnil)
      have hnone : counted = [] := by
        have hlength := congrArg List.length hwhole
        have hpositive := List.length_pos_iff.2 hleft
        rw [List.length_append, List.length_singleton] at hlength
        refine List.length_eq_zero_iff.1 ?_
        omega
      have hstatus : (outcome (.error e)).status ≠ 200 := by
        have hall : ∀ status ∈ [400, 404, 422, 500], status ≠ 200 := by decide
        exact hall _ (ServiceError.operation e).status_mem
      rw [hnone, if_neg hstatus]
      rfl

/-- A listing is counted just if it is answered, unless a commit failed. -/
theorem count_listings (h : Course (request.answer snapshot) exchanges counters response)
    (hcommit : ∀ e, (.commit, .error e) ∉ exchanges) :
    counters.count .listings =
      if request.asksListing = true ∧ response.status = 200 then 1 else 0 := by
  rcases course_answer_iff.1 h with ⟨counted, found, hrespond, rfl, rfl⟩
  rw [List.count_append, count_listings_failures, Nat.add_zero, status_shown]
  cases htask : request.task snapshot with
  | error answer =>
      rcases (course_respond_of_error htask).1 hrespond with ⟨-, rfl, rfl⟩
      -- What is refused is not answered with a page, whatever was asked for.
      have hall : ∀ status ∈ [405, 400, 404, 422, 500], status ≠ 200 := by decide
      rw [if_neg fun hboth => hall _ (status_mem_of_task htask) hboth.2]
      rfl
  | ok work =>
      rcases (course_respond_of_ok htask).1 hrespond with ⟨result, hwork, rfl⟩
      rcases exists_taskOf htask with ⟨endpoint, hendpoint, hof⟩
      rw [asksListing_eq hendpoint]
      cases hof with
      | ping =>
          rw [quiet_ping _ _ _ hwork, if_neg fun hboth => Bool.false_ne_true hboth.1]
          rfl
      | page =>
          rw [quiet_pure _ _ _ _ hwork, if_neg fun hboth => Bool.false_ne_true hboth.1]
          rfl
      | transaction hleaves hbody =>
          have hcourse := course_inTransaction_iff.1 hwork
          -- Only here can something have been counted. What it is depends on the endpoint.
          by_cases hlisting : endpoint.isListing = true
          · rcases Endpoint.listing_of_work hlisting hbody with ⟨plan, hplan⟩
            cases hplan
            rw [counted_of_listing hcourse hleaves.sound hcommit]
            simp only [hlisting, true_and]
          · rcases Endpoint.spares_of_work hlisting hbody with ⟨whole, hcounts, hne, hnot⟩
            rcases hcourse.counted hleaves.sound.statements hcounts hne with ⟨rest, rfl, -⟩
            rw [if_neg fun hboth => hlisting hboth.1]
            exact List.count_eq_zero.2 fun hmem => hnot (List.mem_append_left _ hmem)

end Request

/-- A commit was said and failed. -/
def failedCommit : Exchange → Bool
  | (.commit, .error _) => true
  | _ => false

/-- A request that was answered: what was said to the database and what came back, what was
    counted, and the answer. -/
structure Visit where
  request : Request
  exchanges : List Exchange
  counters : List Counter
  response : Response

namespace Visit

/-- A visit took a course of its request, whatever the service knew about itself. -/
def Possible (visit : Visit) : Prop :=
  ∃ snapshot, Course (visit.request.answer snapshot) visit.exchanges visit.counters visit.response

/-- A listing was answered. -/
def isListed (visit : Visit) : Bool :=
  visit.request.asksListing ∧ visit.response.status = 200

/-- A commit failed. -/
def commitFailed (visit : Visit) : Bool :=
  visit.exchanges.any failedCommit

theorem not_mem_of_not_commitFailed {visit : Visit} (h : visit.commitFailed = false)
    (e : DatabaseError) : (.commit, .error e) ∉ visit.exchanges := by
  intro hmem
  rw [commitFailed, List.any_eq_false] at h
  exact h _ hmem rfl

end Visit

/-- Requests that were answered since the service was started, perhaps at the same time, and
    the counters afterwards: all that was counted for them was counted in some order. -/
structure History (visits : List Visit) (counters : Counters) : Prop where
  possible : ∀ visit ∈ visits, visit.Possible
  counted : ∃ order : List Counter, order.Perm (visits.flatMap Visit.counters) ∧
    counters = order.foldl Counters.increment Counters.zero

/-- If some visits count a counter once and the others do not count it, then in all it is
    counted as many times as there are such visits. -/
theorem count_flatMap_eq_countP {visits : List Visit} {counter : Counter} {p : Visit → Bool}
    (h : ∀ visit ∈ visits, visit.counters.count counter = if p visit = true then 1 else 0) :
    (visits.flatMap Visit.counters).count counter = visits.countP p := by
  induction visits with
  | nil => rfl
  | cons visit rest ih =>
      rcases List.forall_mem_cons.1 h with ⟨hvisit, hrest⟩
      rw [List.flatMap_cons, List.count_append, hvisit, ih hrest, List.countP_cons, Nat.add_comm]

namespace History

variable {visits : List Visit} {counters : Counters}

/-- A counter shows how many visits count it, if none does so twice. -/
theorem value_eq_countP (h : History visits counters) (counter : Counter)
    {p : Visit → Bool} (hp : ∀ visit ∈ visits,
      visit.counters.count counter = if p visit = true then 1 else 0) :
    counters.value counter = visits.countP p := by
  rcases h.counted with ⟨order, hperm, rfl⟩
  have hzero : Counters.zero.value counter = 0 := by
    cases counter <;> rfl
  rw [Counters.value_foldl_increment, hzero, Nat.zero_add, hperm.count_eq]
  exact count_flatMap_eq_countP hp

theorem clientErrors_eq (h : History visits counters) :
    counters.clientErrors = visits.countP fun visit => visit.response.isClientError := by
  refine h.value_eq_countP .clientErrors fun visit hmem => ?_
  rcases h.possible visit hmem with ⟨snapshot, hcourse⟩
  exact (Request.count_failures hcourse).1

theorem serverErrors_eq (h : History visits counters) :
    counters.serverErrors = visits.countP fun visit => visit.response.isServerError := by
  refine h.value_eq_countP .serverErrors fun visit hmem => ?_
  rcases h.possible visit hmem with ⟨snapshot, hcourse⟩
  exact (Request.count_failures hcourse).2

theorem listings_eq (h : History visits counters)
    (hcommit : ∀ visit ∈ visits, visit.commitFailed = false) :
    counters.listings = visits.countP Visit.isListed := by
  refine h.value_eq_countP .listings fun visit hmem => ?_
  rcases h.possible visit hmem with ⟨snapshot, hcourse⟩
  have hcount := Request.count_listings hcourse
    (Visit.not_mem_of_not_commitFailed (hcommit visit hmem))
  rw [hcount, Visit.isListed]
  simp only [decide_eq_true_eq]

theorem classed (h : History visits counters) :
    ∀ visit ∈ visits, visit.response.Classed visit.counters := by
  intro visit hmem
  rcases h.possible visit hmem with ⟨snapshot, hcourse⟩
  exact Request.classed_of_course hcourse

end History

namespace Service

/-- The visit that a request is when it is handled. -/
def visit (service : Service) (server : Server) (request : Request) : Visit :=
  let talk : Talk := ⟨server, service.connected, [], service.counters⟩
  let trace := (request.answer service.snapshot).trace talk
  ⟨request, trace.1, trace.2, (service.handle server request).response⟩

/-- The visits that several requests are, each against a server of its own. -/
def visits : Service → List (Server × Request) → List Visit
  | _, [] => []
  | service, call :: rest =>
    service.visit call.1 call.2 :: (service.handle call.1 call.2).service.visits rest

/-- The service after several requests. -/
def after : Service → List (Server × Request) → Service
  | service, [] => service
  | service, call :: rest => (service.handle call.1 call.2).service.after rest

/-- A request that is handled is a possible visit, and what it counts is counted. -/
theorem visit_possible (service : Service) (server : Server) (request : Request) :
    (service.visit server request).Possible ∧
      (service.handle server request).service.counters =
        (service.visit server request).counters.foldl Counters.increment service.counters := by
  rcases (request.answer service.snapshot).run_takes_trace
    ⟨server, service.connected, [], service.counters⟩ with ⟨hcourse, hcounters, -⟩
  exact ⟨⟨service.snapshot, hcourse⟩, hcounters⟩

/-- Requests that are handled one after another are possible visits, and what they count is
    counted after what was counted before. -/
theorem visits_possible (service : Service) (calls : List (Server × Request)) :
    (∀ visit ∈ service.visits calls, visit.Possible) ∧
      (service.after calls).counters =
        ((service.visits calls).flatMap Visit.counters).foldl Counters.increment
          service.counters := by
  induction calls generalizing service with
  | nil => exact ⟨List.forall_mem_nil _, rfl⟩
  | cons call rest ih =>
      rcases service.visit_possible call.1 call.2 with ⟨hpossible, hcounters⟩
      rcases ih (service.handle call.1 call.2).service with ⟨hrest, hafter⟩
      refine ⟨List.forall_mem_cons.2 ⟨hpossible, hrest⟩, ?_⟩
      rw [after, hafter, hcounters, visits, List.flatMap_cons, List.foldl_append]

/-- Of a service that was just started they are a history. -/
theorem history_of_visits (calls : List (Server × Request)) :
    History (start.visits calls) (start.after calls).counters := by
  rcases start.visits_possible calls with ⟨hpossible, hcounters⟩
  exact ⟨hpossible, _, List.Perm.refl _, hcounters⟩

/-- Whatever was requested since the service was started and whatever the database replied,
    as many client errors were counted as were answered, and as many server errors: every
    request is answered with success or with a failure of one of the two classes, and is
    counted in that class once. If no commit failed, as many listings were counted as were
    answered. This is so for requests at the same time, and so for requests that are handled
    one after another. -/
theorem counters_of_history :
    (∀ visits counters, History visits counters →
      counters.clientErrors = visits.countP (fun visit => visit.response.isClientError) ∧
      counters.serverErrors = visits.countP (fun visit => visit.response.isServerError) ∧
      (∀ visit ∈ visits, visit.response.Classed visit.counters) ∧
      ((∀ visit ∈ visits, visit.commitFailed = false) →
        counters.listings = visits.countP Visit.isListed)) ∧
    ∀ calls, History (start.visits calls) (start.after calls).counters := by
  refine ⟨fun visits counters h => ?_, history_of_visits⟩
  exact ⟨h.clientErrors_eq, h.serverErrors_eq, h.classed, h.listings_eq⟩

/-- A listing is answered, and then five requests fail: a path names nothing, a target does
    not support the method, an id is none, a listing gets its rows but not their number, and
    at last the database cannot be reached. -/
theorem counters_of_history_failures : ∃ calls : List (Server × Request),
    let visits := start.visits calls
    visits.map (fun visit => visit.response.status) = [200, 404, 405, 400, 500, 500] ∧
      (∀ visit ∈ visits, visit.commitFailed = false) ∧
      (start.after calls).counters.listings = 1 ∧
      (start.after calls).counters.clientErrors = 3 ∧
      (start.after calls).counters.serverErrors = 2 := by
  let rows : Reply := .ok ⟨some (.json "[]"), 1⟩
  let total : Reply := .ok ⟨some (.integer 0), 1⟩
  let calls : List (Server × Request) :=
    [(⟨none, none, none, [rows, total]⟩, Request.ofUri "GET" "/groups" none ""),
      (⟨none, none, none, []⟩, Request.ofUri "GET" "/nothing" none ""),
      (⟨none, none, none, []⟩, Request.ofUri "DELETE" "/groups" none ""),
      (⟨none, none, none, []⟩, Request.ofUri "GET" "/groups/x" none ""),
      (⟨none, none, none, [rows, .error (.fault .connectionLost)]⟩,
        Request.ofUri "GET" "/groups" none ""),
      (.unreachable, Request.ofUri "GET" "/groups" none "")]
  refine ⟨calls, ?_⟩
  intro visits
  have hstatuses : visits.map (fun visit => visit.response.status) =
      [200, 404, 405, 400, 500, 500] := by decide +kernel
  have hcommits : ∀ visit ∈ visits, visit.commitFailed = false := by
    have hall : visits.all (fun visit => !visit.commitFailed) = true := by decide +kernel
    simpa only [List.all_eq_true, Bool.not_eq_true'] using hall
  have hhistory := counters_of_history.2 calls
  rcases counters_of_history.1 _ _ hhistory with ⟨hclient, hserver, -, hlistings⟩
  refine ⟨hstatuses, hcommits, ?_, ?_, ?_⟩
  · rw [hlistings hcommits]
    decide +kernel
  · rw [hclient]
    decide +kernel
  · rw [hserver]
    decide +kernel

end Service

end Registrar
