import Registrar.Proofs.Service.Answer

/-!
# Requests in Transactions

Apart from the two paths about the service itself, a request says everything to the
database in one transaction, or nothing at all. The transaction is committed just if every
step of the work succeeded, and the request succeeds just if the commit does.

What an operation in a transaction says is carried over to the conversation that a request
leads to: the exchanges are the same, and the response reports success just if there is a
result. A conversation is lost when it cannot succeed any more, and a lost one only says a
rollback.

## Main definitions

* `Session.Lost`: After certain exchanges a conversation does not succeed.

## Theorems

* `Request.course_answer_iff_transaction`: The exchanges of an answer are those of its
  transaction.
* `Request.lost_iff_doomed`: A conversation is lost when its operation is doomed.
* `Service.one_transaction_of_request`: What a request says to the database.
-/

namespace Registrar

open Operation Session

namespace Session

/-- After certain exchanges a conversation does not succeed, whatever comes back from then
    on. -/
def Lost (session : Session Response) (before : List Exchange) : Prop :=
  ∀ after counters response, Course session (before ++ after) counters response →
    ¬response.Succeeds

/-- A course of a conversation, and the response it leads to, are in order. -/
structure Transacted (session : Session Response) (exchanges : List Exchange)
    (response : Response) : Prop where
  /-- Everything is said in one transaction at most. -/
  one : OneTransaction (exchanges.map Prod.fst)
  /-- Once the conversation is lost, only a rollback is said. -/
  rollback : ∀ before after, exchanges = before ++ after → session.Lost before →
    ∀ exchange ∈ after, exchange.1 = .rollback
  /-- A commit is said just if the conversation was not lost before. -/
  commit : .commit ∈ exchanges.map Prod.fst ↔ ∀ before after, exchanges = before ++ after →
    .commit ∉ before.map Prod.fst → ¬session.Lost before
  /-- The response reports success just if a commit succeeded. -/
  success : response.Succeeds ↔ ∃ rows, (.commit, .ok rows) ∈ exchanges

/-- Where nothing is said and nothing succeeds, all is in order. -/
theorem transacted_nil {session : Session Response} {response : Response}
    (h : session.Lost []) (hresponse : ¬response.Succeeds) : session.Transacted [] response where
  one := Or.inl rfl
  rollback := by
    intro before after hsplit _ exchange hmem
    rw [(List.append_eq_nil_iff.1 hsplit.symm).2] at hmem
    exact nomatch hmem
  commit := iff_of_false nofun fun hall => hall [] [] rfl nofun h
  success := iff_of_false hresponse nofun

end Session

variable {snapshot : Snapshot} {request : Request} {body : Operation Response}
  {exchanges : List Exchange} {counters : List Counter}

namespace Operation

/-- A sound operation says statements only. -/
theorem Sound.statements (h : body.Sound) {steps : List Exchange} {counters : List Counter}
    {result : Except OperationError Response} (hcourse : Course body.run steps counters result) :
    ∀ exchange ∈ steps, ∃ sql, exchange.1 = .execute sql := by
  intro exchange hmem
  rcases (Session.Holds.of_course h.executes hcourse).1 exchange hmem with ⟨sql, hsql, -⟩
  exact ⟨sql, hsql⟩

/-- All results of a sound operation in a transaction report success. -/
theorem Sound.succeeds (h : body.Sound) {response : Response}
    (hcourse : TransactionCourse body exchanges counters (.ok response)) : response.Succeeds := by
  cases hcourse with
  | committed opened begun hdone rows =>
      exact (Session.Holds.of_course h.executes hdone).2 response rfl

end Operation

namespace Request

/-- The response that is answered reports success just if the operation has a result. -/
theorem succeeds_iff (hsound : body.Sound) {result : Except OperationError Response}
    (h : TransactionCourse body exchanges counters result) :
    (request.shown (outcome result)).Succeeds ↔ ∃ response, result = .ok response := by
  rw [shown_succeeds_iff]
  cases result with
  | ok response =>
      refine iff_of_true ?_ ⟨response, rfl⟩
      exact hsound.succeeds h
  | error e => exact iff_of_false (ServiceError.operation e).not_succeeds nofun

/-- The exchanges of an answer are those of its transaction. -/
theorem course_answer_iff_transaction (htask : request.task snapshot = .ok (.transaction body))
    {response : Response} :
    (∃ counters, Course (request.answer snapshot) exchanges counters response) ↔
      ∃ counters result, TransactionCourse body exchanges counters result ∧
        response = request.shown (outcome result) := by
  rw [course_answer_of_ok htask]
  refine exists_congr fun counters => exists_congr fun result => and_congr_left fun _ => ?_
  exact course_inTransaction_iff

/-- A conversation is lost when the operation in its transaction is doomed. -/
theorem lost_iff_doomed (htask : request.task snapshot = .ok (.transaction body))
    (hsound : body.Sound) {before : List Exchange} :
    (request.answer snapshot).Lost before ↔ Doomed body before := by
  constructor
  · -- A result would make a response that reports success.
    intro hlost after counters result h response hresult
    rcases (course_answer_iff_transaction htask).2 ⟨counters, result, h, rfl⟩ with ⟨_, hcourse⟩
    exact hlost after _ _ hcourse ((succeeds_iff hsound h).2 ⟨response, hresult⟩)
  · -- A response that reports success comes from a result.
    intro hdoomed after counters response hcourse hsucceeds
    rcases (course_answer_iff_transaction htask).1 ⟨counters, hcourse⟩ with
      ⟨counted, result, h, rfl⟩
    rcases (succeeds_iff hsound h).1 hsucceeds with ⟨found, hresult⟩
    exact hdoomed after counted result h found hresult

/-- A request that is answered at once is lost from the beginning. -/
theorem lost_nil {answer : Response} (htask : request.task snapshot = .error answer) :
    (request.answer snapshot).Lost [] := by
  intro after counters response hcourse
  rcases course_answer_of_error htask hcourse with ⟨-, rfl⟩
  rw [shown_succeeds_iff]
  exact not_succeeds_of_task htask

/-- What is true of a transaction is true of the conversation that it makes up. -/
theorem transacted_of_transaction (htask : request.task snapshot = .ok (.transaction body))
    (hsound : body.Sound) {result : Except OperationError Response}
    (h : TransactionCourse body exchanges counters result) :
    (request.answer snapshot).Transacted exchanges (request.shown (outcome result)) where
  one := h.oneTransaction hsound.statements
  rollback := by
    intro before after hsplit hlost
    exact h.rollback_of_doomed hsound.hopeful hsplit ((lost_iff_doomed htask hsound).1 hlost)
  commit := by
    rw [h.commit_iff hsound.statements]
    refine forall_congr' fun before => forall_congr' fun after => ?_
    rw [lost_iff_doomed htask hsound]
  success := (succeeds_iff hsound h).trans (h.ok_iff hsound.statements)

end Request

namespace Service

/-- Apart from the two paths about the service itself, whatever is requested and whatever the
    database replies, everything is said in one transaction at most, nothing but a rollback
    follows a failed step, a commit is said just if all steps succeeded, and the response
    reports success just if the commit did. What is sent when a request is handled is part
    of a course that leads to the response. -/
theorem one_transaction_of_request (request : Request)
    (hhealth : Target.ofPath? request.path ≠ some .health)
    (hmetrics : Target.ofPath? request.path ≠ some .metrics) :
    (∀ snapshot exchanges counters response,
      Course (request.answer snapshot) exchanges counters response →
        (request.answer snapshot).Transacted exchanges response ∧
        (.commit ∈ exchanges.map Prod.fst ↔
          ∃ body, request.task snapshot = .ok (.transaction body) ∧ Completed body exchanges)) ∧
    (∀ snapshot body before, request.task snapshot = .ok (.transaction body) →
      StepFailed body before → (request.answer snapshot).Lost before) ∧
    ∀ (service : Service) (server : Server), ∃ exchanges counters,
      Course (request.answer service.snapshot) exchanges counters
        (service.handle server request).response ∧
      (service.handle server request).sent.Sublist (exchanges.map Prod.fst) := by
  have hsound : ∀ {snapshot body}, request.task snapshot = .ok (.transaction body) →
      body.Sound := by
    intro snapshot body htask
    exact Request.proper_of_task htask
  refine ⟨fun snapshot exchanges counters response hcourse => ?_, ?_, ?_⟩
  · cases htask : request.task snapshot with
    -- The request is answered at once, with an error.
    | error answer =>
        have hlost := Request.lost_nil htask
        have hfails := hlost exchanges counters response hcourse
        rcases Request.course_answer_of_error htask hcourse with ⟨rfl, -⟩
        refine ⟨transacted_nil hlost hfails, iff_of_false nofun ?_⟩
        rintro ⟨body, hnone, -⟩
        exact nomatch hnone
    | ok work =>
        rcases Request.transaction_of_task hhealth hmetrics htask with ⟨body, rfl, -⟩
        rcases (Request.course_answer_iff_transaction htask).1 ⟨counters, hcourse⟩ with
          ⟨counted, result, h, rfl⟩
        refine ⟨Request.transacted_of_transaction htask (hsound htask) h, ?_⟩
        rw [h.commit_iff_completed (hsound htask).statements]
        constructor
        · exact fun hcompleted => ⟨body, rfl, hcompleted⟩
        · rintro ⟨found, hfound, hcompleted⟩
          cases hfound
          exact hcompleted
  · intro snapshot body before htask hfailed
    rw [Request.lost_iff_doomed htask (hsound htask)]
    exact TransactionCourse.doomed_of_stepFailed (hsound htask).hopeful hfailed
  · intro service server
    rcases service.handle_takes_course server request with ⟨exchanges, counters, h, hsent, -⟩
    exact ⟨exchanges, counters, h, hsent⟩

/-- A user is taken out of a group by a server that lets everything pass, and the response
    reports success because there was a commit. -/
theorem one_transaction_of_request_untie :
    ∃ exchanges counters,
      Course ((Request.ofUri "DELETE" "/groups/7/users/8" none "").answer start.snapshot)
        exchanges counters (.empty 204) ∧
      ((Request.ofUri "DELETE" "/groups/7/users/8" none "").answer start.snapshot).Transacted
        exchanges (.empty 204) ∧
      ∃ rows, (.commit, .ok rows) ∈ exchanges := by
  rcases one_transaction_of_request (Request.ofUri "DELETE" "/groups/7/users/8" none "")
    (by decide) (by decide) with ⟨htransacted, -, hhandled⟩
  rcases hhandled start ⟨none, none, none, [.ok ⟨none, 1⟩]⟩ with ⟨exchanges, counters, h, -⟩
  have hresponse : (start.handle ⟨none, none, none, [.ok ⟨none, 1⟩]⟩
      (Request.ofUri "DELETE" "/groups/7/users/8" none "")).response = .empty 204 := by
    decide +kernel
  rw [hresponse] at h
  have horder := (htransacted _ _ _ _ h).1
  exact ⟨exchanges, counters, h, horder, horder.success.1 (by decide)⟩

end Service

end Registrar
