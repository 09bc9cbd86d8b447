import Registrar.Proofs.Listing.Errors
import Registrar.Proofs.Operation.Blame
import Registrar.Proofs.Service.Transaction

/-!
# Whose Fault It Is

An answer says that the fault is ours just if the reply that ended the request was a fault on
the way to the database or back, or could not be read, or had no row where one had to be. It
does not say more than that: what went wrong is not told. If the server rejected a command,
the answer says that the fault is the client's, and quotes the server.

Nothing that can be wrong with the request itself is ever answered in this way, because all
collections that endpoints name are in the catalog.

A note on a project needs the id that it was given, so a note that comes back without one
spoils the request as well.

## Main definitions

* `Endpoint.NeedsId`: An endpoint goes on with the id of the record that it created.
* `Request.Spoils`: A reply to a request is our fault.

## Theorems

* `Endpoint.Leaves.blames`: What the errors of an endpoint are due to.
* `Endpoint.failsWith_work`: What is wrong with a request is not our fault.
* `Request.status_iff_spoils`, `Request.response_of_status`, `Request.response_of_rejected`:
  How an answer follows from the replies.
* `Service.blame_of_request`: Which answers say that the fault is ours.
* `Service.not_message_of_head`: The head of an answer does not say anything.
-/

namespace Registrar

open Operation Session

/-- An error is answered as the client's doing. -/
def ServiceError.IsClients (error : ServiceError) : Prop :=
  error.status < 500

/-- Of all errors of operations the internal ones are answered as ours. -/
theorem ErrorKind.status_iff (kind : ErrorKind) : 500 ≤ kind.status ↔ kind = .internal := by
  cases kind <;> decide

namespace PathSegment

theorem failsWith_decode (segment : PathSegment) :
    FailsWith ServiceError.IsClients segment.decode := by
  rw [decode]
  split
  · exact failsWith_ok _
  · exact failsWith_error (by decide : 400 < 500)

theorem failsWith_integer (text : List Char) (problem : PathProblem) :
    FailsWith ServiceError.IsClients (integer text problem) := by
  rw [integer]
  split
  · exact failsWith_ok _
  · exact failsWith_error (by decide : 400 < 500)

theorem failsWith_id (segment : PathSegment) :
    FailsWith ServiceError.IsClients segment.id :=
  segment.failsWith_decode.bind fun _ => failsWith_integer _ _

theorem failsWith_ids (first second : PathSegment) :
    FailsWith ServiceError.IsClients (first.ids second) := by
  refine first.failsWith_decode.bind fun _ => ?_
  refine second.failsWith_decode.bind fun _ => ?_
  refine (failsWith_integer _ _).bind fun _ => ?_
  exact (failsWith_integer _ _).bind fun _ => failsWith_ok _

end PathSegment

theorem Request.failsWith_decodeBody {α : Type} (request : Request) (decode : Json.Decoder α) :
    FailsWith ServiceError.IsClients (request.decodeBody decode) := by
  rw [decodeBody]
  split
  · split
    · exact failsWith_error (by decide : 422 < 500)
    · have hany : FailsWith (fun _ => True) (decode.runFirst request.body) := fun _ _ => trivial
      exact hany.mapError fun _ _ => (by decide : 422 < 500)
  · exact failsWith_error (by decide : 422 < 500)

/-- A restriction to the records that belong to another one names a known collection. -/
theorem Relation.known_restriction (relation : Relation) (id : Int) :
    (relation.restriction id).Known .builtin := by
  cases relation with
  | groupUsers | userGroups | projectNotes => exact Endpoint.find_of_mem _ (by decide)
  | projectUsers | userProjects | userSubmitNodes => trivial

theorem Relation.find_collection (relation : Relation) :
    ∃ listed, Catalog.builtin.find relation.collection = .ok listed := by
  cases relation <;> exact exists_of_isOk _ (by decide +kernel)

/-- The collections that targets list are in the catalog. -/
theorem Target.find_of_list {target : Target} {method collection : String}
    (h : target.endpoint? method = some (.list collection)) :
    ∃ listed, Catalog.builtin.find collection = .ok listed := by
  rw [endpoint?.eq_def] at h
  cases target with
  | resource resource =>
      dsimp only at h
      split at h <;> cases h
      exact Endpoint.find_resource resource
  | tokens | piProjects =>
      dsimp only at h
      split at h <;> cases h
      exact exists_of_isOk _ (by decide +kernel)
  | health | metrics | record | token | related | tie =>
      dsimp only at h
      split at h <;> cases h

namespace Endpoint

variable {snapshot : Snapshot} {request : Request} {endpoint : Endpoint}

theorem failsWith_checked (payload : Payload) :
    FailsWith ServiceError.IsClients (checked payload) := by
  rw [checked]
  split
  · exact failsWith_error (by decide : 422 < 500)
  · exact failsWith_ok _

theorem failsWith_listing {collection : String} {restriction : Option Restriction}
    (hlisted : ∃ listed, Catalog.builtin.find collection = .ok listed)
    (hknown : ∀ known ∈ restriction, known.Known .builtin) :
    FailsWith ServiceError.IsClients (listing collection restriction request) := by
  rcases hlisted with ⟨listed, hlisted⟩
  -- All errors of a listing that are the client's doing are answered alike.
  have hclients : ∀ e : QueryError, e.IsClients →
      (ServiceError.operation (.query e)).IsClients := by
    intro e he
    cases e with
    | collectionNotFound => exact nomatch he
    | columnNotFound | orGroupNotParenthesised | malformedOrClause | unsupportedOperator
    | invalidPagination => exact (by decide : 400 < 500)
  have hplan := ListingPlan.failsWith_ofParams hlisted hknown request.params
  exact (hplan.mapError hclients).bind fun plan => failsWith_ok _

/-- What is wrong with a request is not our fault. -/
theorem failsWith_work (hlisted : ∀ collection, endpoint = .list collection →
      ∃ listed, Catalog.builtin.find collection = .ok listed) :
    FailsWith ServiceError.IsClients (endpoint.work snapshot request) := by
  -- Every step of the reading can fail, and blames the client if it does. Then work is left.
  cases endpoint with
  | health | metrics => exact failsWith_ok _
  | list collection => exact failsWith_listing (hlisted collection rfl) nofun
  | listRelated relation segment =>
      refine segment.failsWith_id.bind fun id => ?_
      refine failsWith_listing relation.find_collection fun known hknown => ?_
      cases hknown
      exact relation.known_restriction id
  | get collection segment | delete collection segment =>
      exact segment.failsWith_id.bind fun id => failsWith_ok _
  | create resource =>
      refine (request.failsWith_decodeBody _).bind fun payload => ?_
      exact (failsWith_checked payload).bind fun payload => failsWith_ok _
  | update resource segment =>
      refine segment.failsWith_id.bind fun id => ?_
      refine (request.failsWith_decodeBody _).bind fun payload => ?_
      exact (failsWith_checked payload).bind fun payload => failsWith_ok _
  | addGroupUser segment =>
      refine segment.failsWith_id.bind fun group => ?_
      exact (request.failsWith_decodeBody _).bind fun user => failsWith_ok _
  | addProjectUser segment =>
      refine segment.failsWith_id.bind fun project => ?_
      refine (request.failsWith_decodeBody _).bind fun member => ?_
      exact (failsWith_checked _).bind fun link => failsWith_ok _
  | addProjectNote segment =>
      refine segment.failsWith_id.bind fun project => ?_
      refine (request.failsWith_decodeBody _).bind fun body => ?_
      exact (failsWith_checked _).bind fun note => failsWith_ok _
  | untie tie first second =>
      exact (first.failsWith_ids second).bind fun ids => failsWith_ok _

/-- An endpoint goes on with the id of the record that it created. -/
def NeedsId : Endpoint → Prop
  | addProjectNote _ => True
  | _ => False

theorem blames_tieNote {idNeeded : Prop} (project note : Int) (users : List (Option Int))
    {last : Exchange} :
    (tieNote project note users).Blames idNeeded (fun _ _ => True) last := by
  rcases find_of_mem Collection.userNotes (by decide) with ⟨listed, hlisted⟩
  induction users generalizing last with
  | nil => exact blames_pure trivial
  | cons user rest ih =>
      exact (blames_createOne hlisted (Link.fits_userNote hlisted project note user)).bind
        fun _ _ _ => ih

/-- For every error of what an endpoint leaves to do the last exchange accounts. -/
theorem Leaves.blames {body : Operation Response} (h : endpoint.Leaves body) (last : Exchange) :
    body.Blames endpoint.NeedsId (fun _ _ => True) last := by
  cases h with
  | single hsingle hstatus => exact hsingle.blames.map _
  | joinProject hlisted hlink =>
      rcases find_resource .users with ⟨users, husers⟩
      refine (blames_getOne husers _).bind fun last _ _ => ?_
      exact (blames_createOne hlisted hlink).bind fun last _ _ => blames_pure trivial
  | annotate hlisted hnote =>
      refine (blames_createOne hlisted hnote).bind fun last created hcreated => ?_
      split
      · -- The note is there, but its id is not.
        rename_i hnone
        exact blames_fail (.anonymous trivial ⟨created, hcreated, hnone⟩ _)
      · exact (blames_tieNote _ _ _).bind fun last _ _ => blames_pure trivial

end Endpoint

namespace Request

variable {snapshot : Snapshot} {request : Request} {body : Operation Response}
  {exchanges : List Exchange} {counters : List Counter} {response : Response}

/-- A reply to a request is our fault: it is faulty, or the record that was created has no
    id, but the request goes on with it. -/
def Spoils (request : Request) (exchange : Exchange) : Prop :=
  exchange.Faulty ∨
    (∃ endpoint, request.endpoint? = some endpoint ∧ endpoint.NeedsId) ∧ exchange.LacksId

/-- A request that is answered at once is not answered with a fault of ours. -/
theorem status_of_task {answer : Response} (h : request.task snapshot = .error answer) :
    answer.status < 500 := by
  cases hendpoint : request.endpoint? with
  | none =>
      rcases task_of_no_endpoint hendpoint with htask | htask
      · rw [htask] at h
        cases h
        decide
      · rw [htask] at h
        cases h
        decide
  | some endpoint =>
      rcases exists_target hendpoint with ⟨target, -, hoffered⟩
      -- The target offered the endpoint, so what that lists is known.
      have hfails : FailsWith ServiceError.IsClients (endpoint.work snapshot request) := by
        refine Endpoint.failsWith_work fun collection hlist => ?_
        rw [hlist] at hoffered
        exact Target.find_of_list hoffered
      have hanswer : FailsWith (fun answer => answer.status < 500)
          ((endpoint.work snapshot request).mapError ServiceError.response) :=
        hfails.mapError fun e he => he
      rw [task_of_endpoint hendpoint] at h
      exact hanswer answer h

/-- The commit that ended a transaction is no fault of ours. -/
theorem not_spoils_commit (rows : Rows) : ¬request.Spoils (.commit, .ok rows) := by
  rintro (hfaulty | ⟨-, document, hreads, -⟩)
  · exact nomatch hfaulty
  · exact nomatch hreads

/-- How the answer of a transaction follows from the exchange that ended it. -/
theorem ending_of_transaction (htask : request.task snapshot = .ok (.transaction body))
    {result : Except OperationError Response}
    (h : TransactionCourse body exchanges counters result) :
    ∃ exchange, ending exchanges = some exchange ∧
      (500 ≤ (outcome result).status ↔ request.Spoils exchange) ∧
      ∀ command message, exchange = (command, .error (.rejected message)) →
        result = .error (.constraintViolation message) := by
  rcases leaves_of_task htask with ⟨endpoint, hendpoint, hleaves⟩
  cases result with
  | ok found =>
      -- A transaction with a result was committed, and its answer is a success.
      rcases h.ending_of_ok with ⟨rows, hending⟩
      refine ⟨_, hending, iff_of_false ?_ (not_spoils_commit rows), fun command message hsame => ?_⟩
      · have hsucceeds := hleaves.sound.succeeds h
        rw [Response.Succeeds] at hsucceeds
        exact Nat.not_le_of_lt (Nat.lt_trans hsucceeds.2 (by decide))
      · cases hsame
  | error error =>
      rcases h.accounts hleaves.sound.statements hleaves.blames with
        ⟨exchange, hending, haccounts⟩
      refine ⟨exchange, hending, ?_, ?_⟩
      · -- The status follows from the kind of the error, and the kind from the exchange.
        have hstatus : 500 ≤ (outcome (.error error)).status ↔ error.kind = .internal :=
          error.kind.status_iff
        have hneeds : (∃ endpoint, request.endpoint? = some endpoint ∧ endpoint.NeedsId) ↔
            endpoint.NeedsId := by
          rw [hendpoint]
          constructor
          · rintro ⟨found, hfound, hneeds⟩
            cases hfound
            exact hneeds
          · intro hneeds
            exact ⟨endpoint, rfl, hneeds⟩
        rw [hstatus, haccounts.internal_iff, Spoils, hneeds]
      · rintro command message rfl
        rw [haccounts.rejected]

/-- An answer that says that the fault is ours says nothing else. -/
theorem outcome_of_status (hsound : body.Sound) {result : Except OperationError Response}
    (h : TransactionCourse body exchanges counters result)
    (hstatus : 500 ≤ (outcome result).status) :
    outcome result = .message 500 ServiceError.internalMessage := by
  cases result with
  | ok found =>
      have hsucceeds := hsound.succeeds h
      rw [Response.Succeeds] at hsucceeds
      exact absurd hstatus (Nat.not_le_of_lt (Nat.lt_trans hsucceeds.2 (by decide)))
  | error error =>
      have hinternal : error.kind = .internal := error.kind.status_iff.1 hstatus
      rw [outcome, ServiceError.response, ServiceError.status, hinternal]
      rfl

variable (hhealth : Target.ofPath? request.path ≠ some .health)
  (hmetrics : Target.ofPath? request.path ≠ some .metrics)
  (hcourse : Course (request.answer snapshot) exchanges counters response)

include hhealth hmetrics hcourse

/-- A request is answered at once, or with the outcome of a transaction. -/
theorem course_answer_cases :
    (∃ answer, request.task snapshot = .error answer ∧ exchanges = [] ∧
      response = request.shown answer) ∨
    ∃ body counted result, request.task snapshot = .ok (.transaction body) ∧ body.Sound ∧
      TransactionCourse body exchanges counted result ∧
      response = request.shown (outcome result) := by
  cases htask : request.task snapshot with
  | error answer =>
      rcases course_answer_of_error htask hcourse with ⟨hnone, hresponse⟩
      exact Or.inl ⟨answer, rfl, hnone, hresponse⟩
  | ok work =>
      rcases transaction_of_task hhealth hmetrics htask with ⟨body, rfl, hsound⟩
      rcases (course_answer_iff_transaction htask).1 ⟨counters, hcourse⟩ with
        ⟨counted, result, h, hresponse⟩
      exact Or.inr ⟨body, counted, result, rfl, hsound, h, hresponse⟩

/-- The fault is ours just if the reply that ended the request spoils it. -/
theorem status_iff_spoils : 500 ≤ response.status ↔
    ∃ exchange, ending exchanges = some exchange ∧ request.Spoils exchange := by
  rcases course_answer_cases hhealth hmetrics hcourse with
    ⟨answer, htask, rfl, rfl⟩ | ⟨body, counted, result, htask, -, h, rfl⟩
  · -- Nothing was sent, so no reply can be to blame.
    rw [status_shown]
    exact iff_of_false (Nat.not_le_of_lt (status_of_task htask)) nofun
  · rcases ending_of_transaction htask h with ⟨exchange, hending, hspoils, -⟩
    rw [status_shown, hspoils, hending]
    constructor
    · intro hspoils
      exact ⟨exchange, rfl, hspoils⟩
    · rintro ⟨other, hother, hspoils⟩
      cases hother
      exact hspoils

theorem response_of_status (hstatus : 500 ≤ response.status) :
    response = request.shown (.message 500 ServiceError.internalMessage) := by
  rcases course_answer_cases hhealth hmetrics hcourse with
    ⟨answer, htask, -, rfl⟩ | ⟨body, counted, result, -, hsound, h, rfl⟩
  · rw [status_shown] at hstatus
    exact absurd hstatus (Nat.not_le_of_lt (status_of_task htask))
  · rw [status_shown] at hstatus
    rw [outcome_of_status hsound h hstatus]

theorem response_of_rejected {command : Command} {message : String}
    (hcommand : command ≠ .rollback)
    (hmem : (command, .error (.rejected message)) ∈ exchanges) :
    response = request.shown (ServiceError.operation (.constraintViolation message)).response := by
  rcases course_answer_cases hhealth hmetrics hcourse with
    ⟨answer, -, rfl, -⟩ | ⟨body, counted, result, htask, hsound, h, rfl⟩
  · exact nomatch hmem
  · -- What was rejected is what the transaction ended with, wherever it stands.
    rcases ending_of_transaction htask h with ⟨exchange, hending, -, hrejected⟩
    rw [h.ending_of_mem hsound.hopeful hmem hcommand] at hending
    rw [hrejected command message (Option.some.inj hending).symm]
    rfl

end Request

namespace Service

/-- Apart from the two paths about the service itself, whatever is requested and whatever the
    database replies: the answer says that the fault is ours just if the reply that ended the
    request spoils it. It then says nothing else, and no request is answered in this way while
    no reply spoils it. If the server rejected a command, the answer quotes the server. What
    is handled takes such a course. -/
theorem blame_of_request (request : Request)
    (hhealth : Target.ofPath? request.path ≠ some .health)
    (hmetrics : Target.ofPath? request.path ≠ some .metrics) :
    (∀ snapshot exchanges counters response,
      Course (request.answer snapshot) exchanges counters response →
        (500 ≤ response.status ↔
          ∃ exchange, ending exchanges = some exchange ∧ request.Spoils exchange) ∧
        (500 ≤ response.status →
          response = request.shown (.message 500 ServiceError.internalMessage)) ∧
        ((∀ exchange ∈ exchanges, ¬request.Spoils exchange) → response.status < 500) ∧
        ∀ command message, command ≠ .rollback →
          (command, .error (.rejected message)) ∈ exchanges →
          response = request.shown (.message 400
            s!"Database error occurred, likely due to violation of constraints: {message}")) ∧
    ∀ (service : Service) (server : Server), ∃ exchanges counters,
      Course (request.answer service.snapshot) exchanges counters
        (service.handle server request).response := by
  refine ⟨fun snapshot exchanges counters response hcourse => ?_, fun service server => ?_⟩
  · have hiff := Request.status_iff_spoils hhealth hmetrics hcourse
    refine ⟨hiff, Request.response_of_status hhealth hmetrics hcourse, fun hnone => ?_,
      fun command message hcommand hmem => ?_⟩
    · -- That no reply spoils the request is true of the last one in particular.
      refine Nat.lt_of_not_le fun hstatus => ?_
      rcases hiff.1 hstatus with ⟨exchange, hending, hspoils⟩
      exact hnone exchange (mem_of_ending hending) hspoils
    · exact Request.response_of_rejected hhealth hmetrics hcourse hcommand hmem
  · rcases service.handle_takes_course server request with ⟨exchanges, counters, h, -⟩
    exact ⟨exchanges, counters, h⟩

/-- A user is taken out of a group, but the connection is lost on the way. -/
theorem blame_of_request_untie :
    ∃ exchanges counters,
      Course ((Request.ofUri "DELETE" "/groups/7/users/8" none "").answer start.snapshot)
        exchanges counters (.message 500 ServiceError.internalMessage) ∧
      ∃ exchange, ending exchanges = some exchange ∧
        (Request.ofUri "DELETE" "/groups/7/users/8" none "").Spoils exchange := by
  rcases blame_of_request (Request.ofUri "DELETE" "/groups/7/users/8" none "")
    (by decide) (by decide) with ⟨hblame, hhandled⟩
  rcases hhandled start ⟨none, none, none, [.error (.fault .connectionLost)]⟩ with
    ⟨exchanges, counters, h⟩
  have hresponse : (start.handle ⟨none, none, none, [.error (.fault .connectionLost)]⟩
      (Request.ofUri "DELETE" "/groups/7/users/8" none "")).response =
        .message 500 ServiceError.internalMessage := by
    decide +kernel
  rw [hresponse] at h
  exact ⟨exchanges, counters, h, (hblame _ _ _ _ h).1.1 (by decide)⟩

/-- If only the head of a listing is asked for and the connection is lost, the answer has the
    status for it but does not say anything. -/
theorem not_message_of_head :
    ¬∀ (service : Service) (server : Server) (request : Request),
      Target.ofPath? request.path ≠ some .health →
      Target.ofPath? request.path ≠ some .metrics →
      500 ≤ (service.handle server request).response.status →
        (service.handle server request).response =
          .message 500 ServiceError.internalMessage := by
  intro hall
  have hmessage := hall start ⟨none, none, none, [.error (.fault .connectionLost)]⟩
    (Request.ofUri "HEAD" "/groups" none "") (by decide) (by decide) (by decide +kernel)
  exact absurd hmessage (by decide +kernel)

end Service

end Registrar
