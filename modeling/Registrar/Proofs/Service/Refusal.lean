import Registrar.Proofs.Operation.Accepted
import Registrar.Proofs.Service.Blame

/-!
# Refused Requests

A request is refused if it is answered because of what it asks for: its path or its body
cannot be read, what it filters by or the page it wants cannot be understood, or its body
breaks a rule. All this is looked at before the database is needed, so a refused request
has said nothing to it. What is looked at again inside the transaction passes, as all errors
there are due to replies.

The answer alone does not tell why it was given, as different errors may have one status.
So the conversation of a request is taken up to its result, `Request.settle`, where the
error is still to be seen.

## Main definitions

* `ServiceError.IsRefusal`: An error is about what was asked for.
* `Request.settle`: The conversation of a request up to its result.
* `Service.Untouched`: Nothing was said to the database.

## Theorems

* `Session.run_of_course_nil`: A session that says nothing runs alike on every server.
* `Request.respond_eq_settle`: The response is made from the result.
* `Request.silent_or_accepted`: Once something is said, nothing is refused any more.
* `Service.untouched_of_refusal`: A refused request leaves the database alone.
-/

namespace Registrar

open Operation Session

namespace Session

variable {α β : Type}

/-- A session that says nothing runs alike on every server. -/
theorem run_of_course_nil {session : Session α} {counters : List Counter} {result : α}
    (h : Course session [] counters result) (talk : Talk) :
    session.run talk =
      (result, { talk with counters := counters.foldl Counters.increment talk.counters }) := by
  -- The exchanges are an index of the induction, so that there are none is a premise.
  generalize hnone : ([] : List Exchange) = exchanges at h
  induction h generalizing talk with
  | done result => rfl
  | ask rest ih => exact nomatch hnone
  | count rest ih => exact ih _ hnone

end Session

/-- An error is about what was asked for, whatever the database holds. -/
def ServiceError.IsRefusal : ServiceError → Prop
  | operation error => error.IsRefusal
  | invalidBody _ | invalidPath _ => True
  | metrics _ => False

/-- A request whose content cannot be processed is refused. -/
theorem ServiceError.isRefusal_of_status {error : ServiceError} (h : error.status = 422) :
    error.IsRefusal := by
  cases error with
  | invalidBody | invalidPath => trivial
  | metrics => exact nomatch h
  | operation error =>
      cases error with
      | query | validationFailure => trivial
      | notFound | constraintViolation | database | decode => exact nomatch h

namespace Operation

variable {α : Type}

theorem accepted_rollBack {error : OperationError} (h : ¬error.IsRefusal) :
    (rollBack error : Operation α).Accepted :=
  ⟨trivial, fun _ => accepted_fail h⟩

theorem accepted_sendOrRollBack (command : Command) : (sendOrRollBack command).Accepted := by
  refine ⟨trivial, fun reply => ?_⟩
  cases reply with
  | ok rows => exact accepted_pure ()
  | error e => exact accepted_rollBack (OperationError.not_isRefusal_ofDatabase e)

/-- A transaction adds no refusal of its own. -/
theorem Accepted.inTransaction {body : Operation α} (h : body.Accepted) :
    (inTransaction body).Accepted := by
  have hbody : (tryCatch body rollBack).Accepted := by
    refine Session.holds_bind_iff.2 (Session.Holds.mono (fun _ => id) ?_ h)
    intro result hresult
    cases result with
    | ok a => exact accepted_pure a
    | error e => exact accepted_rollBack (hresult e rfl)
  refine (accepted_send _).bind fun _ => ?_
  refine (accepted_sendOrRollBack _).bind fun _ => ?_
  refine hbody.bind fun a => ?_
  exact (accepted_sendOrRollBack _).bind fun _ => accepted_pure a

end Operation

namespace Endpoint

variable {snapshot : Snapshot} {request : Request} {endpoint : Endpoint}

/-- What was said to be right about a request still is inside of the transaction. -/
theorem Leaves.accepted {body : Operation Response} (h : endpoint.Leaves body) :
    body.Accepted :=
  (h.blames (.begin, .ok Rows.none)).accepted

/-- Work that is left to do is neither refused, nor does it fail without an error. -/
theorem accepted_of_work {work : Work} (hknown : endpoint.Known)
    (h : endpoint.work snapshot request = .ok work) :
    work.run.Accepted ∧ work.run.Holds (fun _ => True) Response.Succeeds := by
  by_cases hhealth : endpoint = .health
  · subst hhealth
    cases h
    constructor
    · exact (accepted_send _).bind fun _ => (accepted_send _).bind fun _ => accepted_pure _
    · exact (holds_send trivial).bind fun _ _ => (holds_send trivial).bind fun _ _ =>
        holds_pure (by decide)
  · by_cases hmetrics : endpoint = .metrics
    · subst hmetrics
      cases h
      exact ⟨accepted_pure _, holds_pure (succeeds_of_mem (by decide : 200 ∈ _))⟩
    · rcases leaves_of_work hhealth hmetrics hknown h with ⟨body, rfl, hleaves⟩
      have hbody : body.Holds (fun _ => True) Response.Succeeds :=
        Session.Holds.mono (fun _ _ => trivial) (fun _ => id) hleaves.sound.executes
      exact ⟨hleaves.accepted.inTransaction,
        hbody.inTransaction trivial trivial trivial trivial⟩

end Endpoint

namespace Request

variable {snapshot : Snapshot} {request : Request} {exchanges : List Exchange}
  {counters : List Counter}

/-- The conversation of a request up to its result: the response, or the error that the
    answer reports. -/
def settle (snapshot : Snapshot) (request : Request) : Session (Except ServiceError Response) :=
  match Target.ofPath? request.path with
  | none => .done (.ok (.empty 404))
  | some target =>
    match target.endpoint? request.effectiveMethod with
    | none => .done (.ok (.empty 405))
    | some endpoint =>
      match endpoint.work snapshot request with
      | .error e => .done (.error e)
      | .ok work => work.run.run.bind fun result => .done (result.mapError .operation)

/-- The response that a result comes to. -/
def reported : Except ServiceError Response → Response
  | .ok response => response
  | .error e => e.response

/-- The response is made from the result. -/
theorem respond_eq_settle : request.respond snapshot =
    (request.settle snapshot).bind fun result => .done (reported result) := by
  rw [respond, settle]
  cases Target.ofPath? request.path with
  | none => rfl
  | some target =>
      dsimp only
      cases target.endpoint? request.effectiveMethod with
      | none => rfl
      | some endpoint =>
          dsimp only [converse]
          cases endpoint.work snapshot request with
          | error e => rfl
          | ok work =>
              dsimp only
              rw [Session.bind_assoc]
              refine congrArg (Session.bind work.run.run) (funext fun result => ?_)
              cases result <;> rfl

/-- The courses of an answer are those of the conversation up to its result. -/
theorem course_answer_iff_settle {response : Response} :
    Course (request.answer snapshot) exchanges counters response ↔
      ∃ counted result, Course (request.settle snapshot) exchanges counted result ∧
        counters = counted ++ failures (reported result) ∧
        response = request.shown (reported result) := by
  rw [course_answer_iff, respond_eq_settle]
  constructor
  · rintro ⟨_, _, hrespond, rfl, rfl⟩
    rcases course_bind_iff.1 hrespond with ⟨_, _, counted, _, result, hsettle, hdone, rfl, rfl⟩
    rcases course_done_iff.1 hdone with ⟨rfl, rfl, rfl⟩
    rw [List.append_nil, List.append_nil]
    exact ⟨counted, result, hsettle, rfl, rfl⟩
  · rintro ⟨counted, result, hsettle, rfl, rfl⟩
    refine ⟨counted, reported result, ?_, rfl, rfl⟩
    exact course_bind_iff.2 ⟨_, [], _, [], result, hsettle, .done _, (List.append_nil _).symm,
      (List.append_nil _).symm⟩

/-- Once something is said, nothing is refused any more, and a result is a success. -/
theorem silent_or_accepted {result : Except ServiceError Response}
    (h : Course (request.settle snapshot) exchanges counters result) :
    exchanges = [] ∨ (∀ e, result = .error e → ¬e.IsRefusal) ∧
      ∀ response, result = .ok response → response.Succeeds := by
  rw [settle] at h
  split at h
  · exact Or.inl (course_done_iff.1 h).1
  · split at h
    · exact Or.inl (course_done_iff.1 h).1
    · rename_i endpoint hendpoint
      split at h
      · exact Or.inl (course_done_iff.1 h).1
      · rename_i work hwork
        -- Only work that is accepted gets as far as saying something.
        rcases Endpoint.accepted_of_work (Target.known_of_endpoint? hendpoint).1 hwork with
          ⟨haccepted, hsucceeds⟩
        rcases course_bind_iff.1 h with ⟨_, _, _, _, found, hcourse, hdone, rfl, rfl⟩
        rcases course_done_iff.1 hdone with ⟨rfl, rfl, rfl⟩
        right
        cases found with
        | ok response =>
            refine ⟨nofun, fun response' hresponse => ?_⟩
            cases hresponse
            exact (hsucceeds.of_course hcourse).2 response rfl
        | error error =>
            refine ⟨fun e he => ?_, nofun⟩
            cases he
            exact (haccepted.of_course hcourse).2 error rfl

/-- A request that is refused says nothing. -/
theorem silent_of_refusal {error : ServiceError} (hrefusal : error.IsRefusal)
    (h : Course (request.settle snapshot) exchanges counters (.error error)) :
    exchanges = [] := by
  rcases silent_or_accepted h with hsilent | ⟨haccepted, -⟩
  · exact hsilent
  · exact absurd hrefusal (haccepted error rfl)

/-- A request whose content cannot be processed says nothing. -/
theorem silent_of_status {response : Response} (hstatus : response.status = 422)
    (h : Course (request.answer snapshot) exchanges counters response) : exchanges = [] := by
  rcases course_answer_iff_settle.1 h with ⟨counted, result, hsettle, -, rfl⟩
  rw [status_shown] at hstatus
  cases result with
  | error error => exact silent_of_refusal (ServiceError.isRefusal_of_status hstatus) hsettle
  | ok response =>
      rcases silent_or_accepted hsettle with hsilent | ⟨-, hsucceeds⟩
      · exact hsilent
      · -- A success has another status.
        have hrange := hsucceeds response rfl
        rw [Response.Succeeds, show response.status = 422 from hstatus] at hrange
        exact absurd hrange (by decide)

/-- Nothing that a request leaves to do is refused inside of its transaction. -/
theorem accepted_of_task {body : Operation Response}
    (h : request.task snapshot = .ok (.transaction body)) : body.Accepted := by
  rcases leaves_of_task h with ⟨endpoint, -, hleaves⟩
  exact hleaves.accepted

end Request

namespace Service

/-- Nothing was said to the database: nothing was sent, and no connection was opened or
    lost. -/
def Untouched (service : Service) (outcome : Outcome) : Prop :=
  outcome.sent = [] ∧ outcome.service.connected = service.connected

variable {service : Service} {server : Server} {request : Request}

/-- A service that says nothing on a request is left as it was, but for what is counted. -/
theorem untouched_of_course {counters : List Counter} {response : Response}
    (h : Course (request.answer service.snapshot) [] counters response) :
    service.Untouched (service.handle server request) := by
  have hrun := run_of_course_nil h ⟨server, service.connected, [], service.counters⟩
  constructor <;> rw [handle, hrun]

/-- Whatever is requested and whatever the database replies: if an answer reports that the
    path or the body cannot be read, that the filters or the page cannot be understood, or
    that a rule is broken, and in particular if its status says so, then nothing was said to
    the database, neither to open a transaction nor otherwise. In a transaction, on the other
    hand, no payload is refused and everything translates. -/
theorem untouched_of_refusal (request : Request) :
    (∀ snapshot exchanges counters response,
      Course (request.answer snapshot) exchanges counters response ↔
        ∃ counted result, Course (request.settle snapshot) exchanges counted result ∧
          counters = counted ++ Request.failures (Request.reported result) ∧
          response = request.shown (Request.reported result)) ∧
    (∀ snapshot exchanges counters error,
      Course (request.settle snapshot) exchanges counters (.error error) → error.IsRefusal →
        exchanges = []) ∧
    (∀ snapshot exchanges counters response,
      Course (request.answer snapshot) exchanges counters response → response.status = 422 →
        exchanges = []) ∧
    (∀ snapshot body steps counters error, request.task snapshot = .ok (.transaction body) →
      Course body.run steps counters (.error error) → ¬error.IsRefusal) ∧
    ∀ (service : Service) (server : Server),
      (∀ error, ((request.settle service.snapshot).run
          ⟨server, service.connected, [], service.counters⟩).1 = .error error →
        error.IsRefusal → service.Untouched (service.handle server request)) ∧
      ((service.handle server request).response.status = 422 →
        service.Untouched (service.handle server request)) := by
  refine ⟨fun _ _ _ _ => Request.course_answer_iff_settle, ?_, ?_, ?_, fun service server =>
    ⟨?_, ?_⟩⟩
  · exact fun _ _ _ _ hcourse hrefusal => Request.silent_of_refusal hrefusal hcourse
  · exact fun _ _ _ _ hcourse hstatus => Request.silent_of_status hstatus hcourse
  · intro snapshot body steps counters error htask hcourse
    exact ((Request.accepted_of_task htask).of_course hcourse).2 error rfl
  · intro error herror hrefusal
    rcases (request.settle service.snapshot).run_takes_course
      ⟨server, service.connected, [], service.counters⟩ with ⟨exchanges, counters, _, hcourse, -⟩
    rw [herror] at hcourse
    cases Request.silent_of_refusal hrefusal hcourse
    exact untouched_of_course
      (Request.course_answer_iff_settle.2 ⟨counters, _, hcourse, rfl, rfl⟩)
  · intro hstatus
    rcases service.handle_takes_course server request with ⟨exchanges, counters, hcourse, -⟩
    cases Request.silent_of_status hstatus hcourse
    exact untouched_of_course hcourse

/-- An id that is no integer is refused, with a server that would let everything pass. -/
theorem untouched_of_refusal_untie :
    start.Untouched (start.handle ⟨none, none, none, [.ok ⟨none, 1⟩]⟩
      (Request.ofUri "DELETE" "/groups/x/users/8" none "")) := by
  rcases untouched_of_refusal (Request.ofUri "DELETE" "/groups/x/users/8" none "") with
    ⟨-, -, -, -, hhandled⟩
  have hsettle : (Request.ofUri "DELETE" "/groups/x/users/8" none "").settle start.snapshot =
      .done (.error (PathProblem.notIntegerAt 0 ['x']).error) := by
    rfl
  refine (hhandled start _).1 (PathProblem.notIntegerAt 0 ['x']).error ?_ trivial
  rw [hsettle]
  rfl

end Service

end Registrar
