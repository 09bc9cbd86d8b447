import Registrar.Proofs.Operation.Transaction
import Registrar.Proofs.Service.Work
import Registrar.Service.Answer

/-!
# The Course of an Answer

A request is either answered at once, with nothing said to the database, or it leaves work
to do, and the answer follows from the result of that. `Request.task` says which, and the
courses of an answer are those of the work, with the failure counted in the end.

A response that is not the result of an operation never reports success, so in a
transaction the response succeeds just if the operation does.

## Main definitions

* `Request.task`: What a request leaves to do, or the answer if that is nothing.
* `Request.shown`: The response as it is answered.
* `Request.endpoint?`: The endpoint that a request reaches.
* `Request.TaskOf`: What an endpoint may leave to do.

## Theorems

* `Request.course_answer_iff`: The courses of an answer.
* `Request.course_answer_of_error`, `Request.course_answer_of_ok`: The same for requests
  that are answered at once, and for those that leave work to do.
* `Request.transaction_of_task`: What is left to do is a transaction.
* `Request.task_of_endpoint`: What is left to do is the work of the request's endpoint.
* `Request.exists_taskOf`: What is left to do is a look, a page or a transaction.
* `Request.leaves_of_task`: What is left to do is what the endpoint of the request leaves.
* `Request.holds_answer`: What is said for an answer is said by what is left to do.
* `Request.connects_first`: The first thing that is said.
* `Service.handle_courses`, `Service.handle_takes_course`, `Service.handle_sends`: A request that
  is handled takes a course, and what is sent is what the course says.
-/

namespace Registrar

namespace ServiceError

/-- The statuses that report failures of requests. -/
theorem status_mem (error : ServiceError) : error.status ∈ [400, 404, 422, 500] := by
  cases error with
  | operation error =>
      rw [status]
      cases error.kind <;> decide
  | invalidBody | invalidPath | metrics =>
      rw [status]
      decide

/-- The response to a failure does not report success. -/
theorem not_succeeds (error : ServiceError) : ¬error.response.Succeeds := by
  have hall : ∀ status ∈ [400, 404, 422, 500], ¬(200 ≤ status ∧ status < 300) := by decide
  exact hall _ error.status_mem

end ServiceError

namespace Request

open Session

variable {snapshot : Snapshot} {request : Request}

/-- What a request leaves to do, or the answer if that is nothing. -/
def task (snapshot : Snapshot) (request : Request) : Except Response Work :=
  match Target.ofPath? request.path with
  | none => .error (.empty 404)
  | some target =>
    match target.endpoint? request.effectiveMethod with
    | none => .error (.empty 405)
    | some endpoint => (endpoint.work snapshot request).mapError ServiceError.response

/-- The response that the result of an operation comes to. -/
def outcome : Except OperationError Response → Response
  | .ok response => response
  | .error e => (ServiceError.operation e).response

/-- The conversation of a request is that of its work. -/
theorem respond_eq : request.respond snapshot = match request.task snapshot with
    | .error response => Session.done response
    | .ok work => work.run.run.bind fun result => Session.done (outcome result) := by
  rw [respond, task]
  cases Target.ofPath? request.path with
  | none => rfl
  | some target =>
      dsimp only
      cases target.endpoint? request.effectiveMethod with
      | none => rfl
      | some endpoint =>
          dsimp only [converse]
          cases endpoint.work snapshot request with
          | error e => rfl
          | ok work =>
              -- Only the way the result is turned into a response is written otherwise.
              refine congrArg (Session.bind work.run.run) (funext fun result => ?_)
              cases result <;> rfl

/-- What a request asks for, if it is understood. -/
def endpoint? (request : Request) : Option Endpoint :=
  (Target.ofPath? request.path).bind fun target => target.endpoint? request.effectiveMethod

theorem exists_target {endpoint : Endpoint} (h : request.endpoint? = some endpoint) :
    ∃ target, Target.ofPath? request.path = some target ∧
      target.endpoint? request.effectiveMethod = some endpoint :=
  Option.bind_eq_some_iff.1 h

/-- What a request leaves to do is the work of its endpoint. -/
theorem task_of_endpoint {endpoint : Endpoint} (h : request.endpoint? = some endpoint) :
    request.task snapshot = (endpoint.work snapshot request).mapError ServiceError.response := by
  rcases exists_target h with ⟨target, htarget, hendpoint⟩
  unfold task
  rw [htarget]
  dsimp only
  rw [hendpoint]

/-- What a request leaves to do is a look at the database, the page of metrics, or the
    transaction of its endpoint. -/
inductive TaskOf (snapshot : Snapshot) (request : Request) : Endpoint → Work → Prop
  | ping : TaskOf snapshot request .health .ping
  | page : TaskOf snapshot request .metrics (.reply (Endpoint.expositionPage snapshot))
  | transaction {endpoint : Endpoint} {body : Operation Response} (hleaves : endpoint.Leaves body)
      (hwork : endpoint.work snapshot request = .ok (.transaction body)) :
      TaskOf snapshot request endpoint (.transaction body)

/-- A request that no endpoint answers is answered at once. -/
theorem task_of_no_endpoint (h : request.endpoint? = none) :
    request.task snapshot = .error (.empty 404) ∨ request.task snapshot = .error (.empty 405) := by
  unfold task
  cases htarget : Target.ofPath? request.path with
  | none => exact Or.inl rfl
  | some target =>
      have hnone : target.endpoint? request.effectiveMethod = none := by
        unfold endpoint? at h
        rw [htarget] at h
        exact h
      refine Or.inr ?_
      simp only [hnone]

theorem endpoint_of_task {work : Work} (h : request.task snapshot = .ok work) :
    ∃ endpoint, request.endpoint? = some endpoint := by
  cases hendpoint : request.endpoint? with
  | none =>
      rcases task_of_no_endpoint hendpoint with htask | htask
      · rw [htask] at h
        cases h
      · rw [htask] at h
        cases h
  | some endpoint => exact ⟨endpoint, rfl⟩

theorem exists_taskOf {work : Work} (h : request.task snapshot = .ok work) :
    ∃ endpoint, request.endpoint? = some endpoint ∧ TaskOf snapshot request endpoint work := by
  rcases endpoint_of_task h with ⟨endpoint, hendpoint⟩
  refine ⟨endpoint, hendpoint, ?_⟩
  rw [task_of_endpoint hendpoint] at h
  have hwork := Endpoint.mapError_eq_ok h
  by_cases hhealth : endpoint = .health
  · subst hhealth
    cases hwork
    exact .ping
  · by_cases hmetrics : endpoint = .metrics
    · subst hmetrics
      cases hwork
      exact .page
    · rcases exists_target hendpoint with ⟨target, -, htarget⟩
      have hknown := (Target.known_of_endpoint? htarget).1
      rcases Endpoint.leaves_of_work hhealth hmetrics hknown hwork with ⟨body, rfl, hleaves⟩
      exact .transaction hleaves hwork

theorem proper_of_task {work : Work} (h : request.task snapshot = .ok work) : work.Proper := by
  rcases exists_taskOf h with ⟨endpoint, -, htask⟩
  cases htask with
  | ping | page => trivial
  | transaction hleaves hwork => exact hleaves.sound

/-- What is left to do is a transaction, apart from what concerns the service itself. -/
theorem transaction_of_task (hhealth : Target.ofPath? request.path ≠ some .health)
    (hmetrics : Target.ofPath? request.path ≠ some .metrics) {work : Work}
    (h : request.task snapshot = .ok work) : ∃ body, work = .transaction body ∧ body.Sound := by
  rcases exists_taskOf h with ⟨endpoint, hendpoint, htask⟩
  rcases exists_target hendpoint with ⟨target, htarget, hoffered⟩
  -- Only the two targets about the service itself offer the endpoints about it.
  rcases Target.known_of_endpoint? hoffered with ⟨-, hsame, hsame'⟩
  cases htask with
  | ping =>
      rw [hsame rfl] at htarget
      exact absurd htarget hhealth
  | page =>
      rw [hsame' rfl] at htarget
      exact absurd htarget hmetrics
  | transaction hleaves hwork => exact ⟨_, rfl, hleaves.sound⟩

/-- What a request leaves to do in a transaction is what its endpoint leaves to do. -/
theorem leaves_of_task {body : Operation Response}
    (h : request.task snapshot = .ok (.transaction body)) :
    ∃ endpoint, request.endpoint? = some endpoint ∧ endpoint.Leaves body := by
  rcases exists_taskOf h with ⟨endpoint, hendpoint, htask⟩
  cases htask with
  | transaction hleaves hwork => exact ⟨endpoint, hendpoint, hleaves⟩

/-- The statuses of answers that are given at once. -/
theorem status_mem_of_task {answer : Response} (h : request.task snapshot = .error answer) :
    answer.status ∈ [405, 400, 404, 422, 500] := by
  cases hendpoint : request.endpoint? with
  | none =>
      rcases task_of_no_endpoint hendpoint with htask | htask
      · rw [htask] at h
        cases h
        decide
      · rw [htask] at h
        cases h
        decide
  | some endpoint =>
      rw [task_of_endpoint hendpoint] at h
      cases hwork : endpoint.work snapshot request with
      | error e =>
          rw [hwork] at h
          cases h
          exact List.mem_cons_of_mem _ e.status_mem
      | ok work =>
          rw [hwork] at h
          cases h

/-- A request that is answered at once does not succeed. -/
theorem not_succeeds_of_task {answer : Response} (h : request.task snapshot = .error answer) :
    ¬answer.Succeeds := by
  have hall : ∀ status ∈ [405, 400, 404, 422, 500], ¬(200 ≤ status ∧ status < 300) := by decide
  exact hall _ (status_mem_of_task h)

/-- What is counted for a response. -/
def failures (response : Response) : List Counter :=
  if 400 ≤ response.status ∧ response.status < 500 then [.clientErrors]
  else if 500 ≤ response.status ∧ response.status < 600 then [.serverErrors]
  else []

/-- The response as it is answered. -/
def shown (request : Request) (response : Response) : Response :=
  if request.wantsHead then response.head else response

/-- The head of a response reports the same. -/
theorem shown_succeeds_iff {response : Response} :
    (request.shown response).Succeeds ↔ response.Succeeds := by
  rw [shown]
  split <;> exact Iff.rfl

theorem status_shown (response : Response) : (request.shown response).status = response.status := by
  rw [shown]
  split <;> rfl

variable {exchanges : List Exchange} {counters : List Counter} {response : Response}

/-- To count a failure nothing is said. -/
theorem course_tallyFailure_iff {u : Unit} :
    Course (tallyFailure response) exchanges counters u ↔
      exchanges = [] ∧ counters = failures response := by
  have hcounted : ∀ counter, Course (Session.tally counter) exchanges counters u ↔
      exchanges = [] ∧ counters = [counter] := by
    intro counter
    constructor
    · intro h
      rcases h with _ | _ | h
      rcases course_done_iff.1 h with ⟨rfl, rfl, -⟩
      exact ⟨rfl, rfl⟩
    · rintro ⟨rfl, rfl⟩
      exact .count (.done _)
  rw [tallyFailure, failures]
  split
  · exact hcounted _
  · split
    · exact hcounted _
    · exact course_done_iff.trans (and_congr_right fun _ => and_iff_left rfl)

/-- An answer takes the courses of its request, after which a failure is counted. -/
theorem course_answer_iff :
    Course (request.answer snapshot) exchanges counters response ↔
      ∃ counted found, Course (request.respond snapshot) exchanges counted found ∧
        counters = counted ++ failures found ∧ response = request.shown found := by
  constructor
  · intro h
    rcases course_bind_iff.1 h with ⟨_, _, counted, _, found, hrespond, hrest, rfl, rfl⟩
    rcases course_bind_iff.1 hrest with ⟨_, _, _, _, u, htally, hdone, rfl, rfl⟩
    rcases course_tallyFailure_iff.1 htally with ⟨rfl, rfl⟩
    rcases course_done_iff.1 hdone with ⟨rfl, rfl, rfl⟩
    rw [List.append_nil, List.append_nil, List.append_nil]
    exact ⟨counted, found, hrespond, rfl, rfl⟩
  · rintro ⟨counted, found, hrespond, rfl, rfl⟩
    have htally : Course (tallyFailure found) [] (failures found) () :=
      course_tallyFailure_iff.2 ⟨rfl, rfl⟩
    refine course_bind_iff.2 ⟨exchanges, [], counted, failures found, found, hrespond, ?_,
      (List.append_nil _).symm, rfl⟩
    exact course_bind_iff.2 ⟨[], [], failures found, [], (), htally, .done _, rfl,
      (List.append_nil _).symm⟩

/-- A request that is answered at once says nothing and counts nothing. -/
theorem course_respond_of_error {answer : Response} (h : request.task snapshot = .error answer) :
    Course (request.respond snapshot) exchanges counters response ↔
      exchanges = [] ∧ counters = [] ∧ response = answer := by
  rw [respond_eq, h]
  exact course_done_iff

/-- The conversation of a request is its work, and the response follows from the result
    without anything being said. -/
theorem course_respond_of_ok {work : Work} (h : request.task snapshot = .ok work) :
    Course (request.respond snapshot) exchanges counters response ↔
      ∃ result, Course work.run.run exchanges counters result ∧ response = outcome result := by
  rw [respond_eq, h]
  constructor
  · intro hcourse
    rcases course_bind_iff.1 hcourse with ⟨_, _, _, _, result, hwork, hdone, rfl, rfl⟩
    rcases course_done_iff.1 hdone with ⟨rfl, rfl, rfl⟩
    rw [List.append_nil, List.append_nil]
    exact ⟨result, hwork, rfl⟩
  · rintro ⟨result, hwork, rfl⟩
    exact course_bind_iff.2 ⟨_, _, _, _, result, hwork, .done _, (List.append_nil _).symm,
      (List.append_nil _).symm⟩

theorem course_answer_of_error {answer : Response} (h : request.task snapshot = .error answer)
    (hcourse : Course (request.answer snapshot) exchanges counters response) :
    exchanges = [] ∧ response = request.shown answer := by
  rcases course_answer_iff.1 hcourse with ⟨_, found, hrespond, -, rfl⟩
  rcases (course_respond_of_error h).1 hrespond with ⟨rfl, -, rfl⟩
  exact ⟨rfl, rfl⟩

/-- What a request says is said by its work, which decides on the response. -/
theorem course_answer_of_ok {work : Work} (h : request.task snapshot = .ok work) :
    (∃ counters, Course (request.answer snapshot) exchanges counters response) ↔
      ∃ counters result, Course work.run.run exchanges counters result ∧
        response = request.shown (outcome result) := by
  constructor
  · rintro ⟨counters, hcourse⟩
    rcases course_answer_iff.1 hcourse with ⟨counted, found, hfound, -, rfl⟩
    rcases (course_respond_of_ok h).1 hfound with ⟨result, hwork, rfl⟩
    exact ⟨counted, result, hwork, rfl⟩
  · rintro ⟨counters, result, hwork, rfl⟩
    exact ⟨_, course_answer_iff.2
      ⟨counters, _, (course_respond_of_ok h).2 ⟨result, hwork, rfl⟩, rfl, rfl⟩⟩

end Request

/-- Work says what its operation says, besides what executes nothing, or it looks whether the
    database answers. -/
theorem Work.holds_run {P : Command → Prop} {work : Work}
    (hframe : ∀ command, (∀ sql, command ≠ .execute sql) → P command)
    (hping : P (.execute Work.pingStatement))
    (hbody : ∀ body, work = .transaction body → body.Holds P fun _ => True) :
    work.run.Holds P fun _ => True := by
  cases work with
  | reply response => exact Operation.holds_pure trivial
  | ping =>
      refine (Operation.holds_send (hframe .connect nofun)).bind fun _ _ => ?_
      exact (Operation.holds_send hping).bind fun _ _ => Operation.holds_pure trivial
  | transaction body =>
      exact (hbody body rfl).inTransaction (hframe .connect nofun) (hframe .begin nofun)
        (hframe .commit nofun) (hframe .rollback nofun)

namespace Request

/-- Counting a failure says nothing. -/
theorem holds_tallyFailure {P : Command → Prop} (response : Response) :
    (tallyFailure response).Holds P fun _ => True := by
  unfold tallyFailure
  split
  · trivial
  · split <;> trivial

/-- For an answer nothing is said but what the request leaves to do. -/
theorem holds_answer {snapshot : Snapshot} {request : Request} {P : Command → Prop}
    (h : ∀ work, request.task snapshot = .ok work → work.run.Holds P fun _ => True) :
    (request.answer snapshot).Holds P fun _ => True := by
  have hrespond : (request.respond snapshot).Holds P fun _ => True := by
    rw [respond_eq]
    cases htask : request.task snapshot with
    | error response => trivial
    | ok work =>
        exact Session.holds_bind_iff.2 (Session.Holds.mono (fun _ => id) (fun _ _ => trivial)
          (h work htask))
  refine Session.holds_bind_iff.2 (Session.Holds.mono (fun _ => id) (fun response _ => ?_)
    hrespond)
  exact Session.holds_bind_iff.2 (Session.Holds.mono (fun _ => id) (fun _ _ => trivial)
    (holds_tallyFailure response))

end Request

/-- The first thing that is said is to open a connection. -/
theorem Request.connects_first {snapshot : Snapshot} {request : Request}
    {exchanges : List Exchange} {counters : List Counter} {response : Response}
    (hcourse : Session.Course (request.answer snapshot) exchanges counters response) :
    ∀ first rest, exchanges = first :: rest → first.1 = .connect := by
  rcases Request.course_answer_iff.1 hcourse with ⟨counted, found, hrespond, -, -⟩
  rintro first rest rfl
  cases htask : request.task snapshot with
  | error answer => cases ((Request.course_respond_of_error htask).1 hrespond).1
  | ok work =>
      rcases (Request.course_respond_of_ok htask).1 hrespond with ⟨result, hwork, -⟩
      cases work with
      | reply response => cases hwork
      | ping | transaction =>
          cases hwork
          rfl

/-- A request that is handled takes a course: the response is the answer, what is said is
    conveyed, all of it if the connection is not lost, and what is counted is added to what was
    counted before. -/
theorem Service.handle_courses (service : Service) (server : Server) (request : Request) :
    ∃ exchanges counters,
      Session.Course (request.answer service.snapshot) exchanges counters
        (service.handle server request).response ∧
      (service.handle server request).sent.Sublist (exchanges.map Prod.fst) ∧
      (Kept exchanges → (service.handle server request).sent = statements exchanges) ∧
      Conveyed exchanges (service.handle server request).sent ∧
      (service.handle server request).service.counters =
        counters.foldl Counters.increment service.counters := by
  rcases (request.answer service.snapshot).run_takes_trace
    ⟨server, service.connected, [], service.counters⟩ with
    ⟨hcourse, hcounters, sent, hsent, hsublist, hkept⟩
  have hconveyed := Session.conveyed_trace _ _ (Or.inr (Request.connects_first hcourse)) hsent
  rw [List.nil_append] at hsent
  rw [← hsent] at hsublist hkept hconveyed
  exact ⟨_, _, hcourse, hsublist, hkept, hconveyed, hcounters⟩

theorem Service.handle_takes_course (service : Service) (server : Server) (request : Request) :
    ∃ exchanges counters,
      Session.Course (request.answer service.snapshot) exchanges counters
        (service.handle server request).response ∧
      (service.handle server request).sent.Sublist (exchanges.map Prod.fst) ∧
      (service.handle server request).service.counters =
        counters.foldl Counters.increment service.counters := by
  rcases service.handle_courses server request with
    ⟨exchanges, counters, h, hsent, -, -, hcounters⟩
  exact ⟨exchanges, counters, h, hsent, hcounters⟩

end Registrar
