import Registrar.Proofs.Operation.Single
import Registrar.Proofs.Service.Routes
import Registrar.Service.Work

/-!
# The Work of an Endpoint

Whatever an endpoint is asked, what is left to do after the request was read is of one of
three kinds. If it takes a transaction, the operation inside is one that works on a single
collection, or one of the two that tie several records. All endpoints are gone through here
once, to say which operation each of them leaves to do; what is said about requests elsewhere
looks at the three kinds and at these operations.

So an operation inside a transaction is sound: it executes permitted statements only, it ends
in a response of success unless it fails, and it can still succeed whenever it asks something.

An operation that follows an unknown collection is not sound, so the collections that
endpoints name have to be in the catalog. Those that targets offer are.

## Main definitions

* `Response.Succeeds`: A response reports success.
* `Operation.Sound`: An operation is fit for a transaction.
* `Work.Proper`: What is left to do for a request.
* `Endpoint.Known`: An endpoint names a collection of the catalog.
* `Endpoint.Leaves`: The operations that an endpoint may leave to do.

## Theorems

* `Endpoint.decodeBody_eq_ok_iff`: Which bodies are read.
* `Target.known_of_endpoint?`: What targets offer is known.
* `Endpoint.leaves_of_work`: What an endpoint leaves to do is one of those operations.
-/

namespace Registrar

/-- A response reports success. -/
def Response.Succeeds (response : Response) : Prop :=
  200 ≤ response.status ∧ response.status < 300

instance (response : Response) : Decidable response.Succeeds :=
  inferInstanceAs (Decidable (_ ∧ _))

/-- The statuses that report success here. -/
theorem succeeds_of_mem {response : Response} (h : response.status ∈ [200, 201, 204]) :
    response.Succeeds := by
  have hall : ∀ status ∈ [200, 201, 204], 200 ≤ status ∧ status < 300 := by decide
  exact hall _ h

namespace Operation

variable {α : Type}

/-- An operation executes permitted statements only, ends in success unless it fails, and
    asks nothing in vain. -/
structure Sound (body : Operation Response) : Prop where
  executes : body.Holds Executes Response.Succeeds
  hopeful : body.Hopeful True fun _ => True

variable {operation : Operation α} {Q : α → Prop}

/-- An operation is sound whose result is responded with success. -/
theorem Sound.map (hexecutes : operation.Holds Executes fun _ => True)
    (hhopeful : operation.Hopeful True Q) {respond : α → Response}
    (h : ∀ a, (respond a).status ∈ [200, 201, 204]) : (respond <$> operation).Sound :=
  ⟨hexecutes.map fun a _ => succeeds_of_mem (h a), hhopeful.map fun _ _ => trivial⟩

/-- A sound operation stays sound after another one that can succeed. -/
theorem Sound.bind (hexecutes : operation.Holds Executes fun _ => True)
    (hhopeful : operation.Hopeful True Q) {next : α → Operation Response}
    (h : ∀ a, (next a).Sound) : (operation >>= next).Sound := by
  constructor
  · exact hexecutes.bind fun a _ => (h a).executes
  · exact hhopeful.bind fun a => (h a).hopeful.of_imp fun _ => trivial

theorem sound_pure {response : Response} (h : response.status ∈ [200, 201, 204]) :
    Sound (pure response) :=
  ⟨holds_pure (succeeds_of_mem h), hopeful_pure fun _ => trivial⟩

end Operation

/-- What may be left to do for a request: an operation in a transaction is sound. -/
def Work.Proper : Work → Prop
  | reply _ | ping => True
  | transaction body => body.Sound

/-- A collection that an endpoint names is in the catalog. -/
def Endpoint.Known : Endpoint → Prop
  | get collection _ | delete collection _ =>
    ∃ listed, Catalog.builtin.find collection = .ok listed
  | _ => True

namespace Endpoint

open Operation

variable {snapshot : Snapshot} {request : Request}

theorem mapError_eq_ok {ε ε' α : Type} {f : ε → ε'} {result : Except ε α} {a : α}
    (h : result.mapError f = .ok a) : result = .ok a := by
  cases result with
  | error e => exact nomatch h
  | ok a' =>
      cases h
      rfl

/-- A body is read just if it is said to be JSON, is within the limit, and decodes. -/
theorem decodeBody_eq_ok_iff {α : Type} {decode : Json.Decoder α} {a : α} :
    request.decodeBody decode = .ok a ↔
      request.contentType.any MediaType.isJson = true ∧
        request.body.utf8ByteSize ≤ bodyLimit ∧ decode.runFirst request.body = .ok a := by
  rw [Request.decodeBody]
  constructor
  · intro h
    split at h
    · next hjson =>
        split at h
        · exact nomatch h
        · next hlength => exact ⟨hjson, Nat.le_of_not_lt hlength, mapError_eq_ok h⟩
    · exact nomatch h
  · rintro ⟨hjson, hlength, hread⟩
    rw [if_pos hjson, if_neg (Nat.not_lt.2 hlength), hread]
    rfl

/-- A body that was decoded was decoded from a tree. -/
theorem exists_of_decodeBody {α : Type} {decode : Json.Decoder α} {a : α}
    (h : request.decodeBody decode = .ok a) : ∃ room tree, decode room tree = .ok a := by
  rcases decodeBody_eq_ok_iff.1 h with ⟨-, -, hread⟩
  exact ⟨_, _, hread⟩

theorem checked_eq_ok {payload accepted : Payload} (h : checked payload = .ok accepted) :
    accepted = payload ∧ payload.complaint = none := by
  rw [checked] at h
  split at h
  · exact nomatch h
  · cases h
    exact ⟨rfl, by assumption⟩

/-- The note in the body of a note on a project was read by the form for notes. -/
theorem decodePayload_of_projectNote {room : Nat} {tree : Json.Tree} {body : ProjectNote}
    (h : ProjectNote.decode room tree = .ok body) :
    ∃ room tree, Resource.notes.createForm.decodePayload room tree = .ok body.note := by
  rw [ProjectNote.decode.eq_def] at h
  split at h
  · rw [Json.Decoder.enter.eq_def] at h
    split at h
    · exact nomatch h
    · rcases bind_eq_ok_iff.1 h with ⟨_, -, h⟩
      rcases bind_eq_ok_iff.1 h with ⟨_, -, h⟩
      rcases bind_eq_ok_iff.1 h with ⟨note, hnote, h⟩
      cases h
      exact ⟨_, _, hnote⟩
  · exact nomatch h

/-- What may be created or changed fits its table. -/
theorem fits_of_accepted {resource : Resource} {form : Form} {listed : Listed}
    {payload accepted : Payload}
    (hform : form = resource.createForm ∨ form = resource.updateForm)
    (hlisted : Catalog.builtin.find resource.collection = .ok listed)
    (hpayload : request.decodeBody form.decodePayload = .ok payload)
    (haccepted : checked payload = .ok accepted) : accepted.Fits listed.table := by
  rcases exists_of_decodeBody hpayload with ⟨_, _, hdecoded⟩
  rcases checked_eq_ok haccepted with ⟨rfl, hcomplaint⟩
  exact Resource.fits_of_form hform hlisted hdecoded hcomplaint

/-- The collections that are not those of resources. -/
theorem find_of_mem : ∀ collection ∈
    [Collection.userGroups, Collection.userProjects, Collection.userNotes, Collection.tokens],
    ∃ listed, Catalog.builtin.find collection = .ok listed := by
  have hall : ∀ collection ∈
      [Collection.userGroups, Collection.userProjects, Collection.userNotes, Collection.tokens],
      (Catalog.builtin.find collection).isOk := by
    decide +kernel
  exact fun collection hmem => exists_of_isOk _ (hall collection hmem)

theorem find_resource (resource : Resource) :
    ∃ listed, Catalog.builtin.find resource.collection = .ok listed := by
  cases resource <;> exact exists_of_isOk _ (by decide +kernel)

/-- The ids of a tie stand in columns of its links. -/
theorem find_tie (tie : Tie) (first second : Int) :
    ∃ listed, Catalog.builtin.find tie.collection = .ok listed ∧
      ∀ value ∈ [(tie.columns.1, first), (tie.columns.2, second)],
        (listed.table.column? value.1).isSome := by
  -- The two columns are looked up once for each of the three ties.
  have hcolumns : ((Catalog.builtin.find tie.collection).toOption.any fun listed =>
      (listed.table.column? tie.columns.1).isSome &&
        (listed.table.column? tie.columns.2).isSome) = true := by
    cases tie <;> decide +kernel
  rcases exists_of_any _ hcolumns with ⟨listed, hlisted, hboth⟩
  rcases Bool.and_eq_true_iff.1 hboth with ⟨hfirst, hsecond⟩
  exact ⟨listed, hlisted,
    List.forall_mem_cons.2 ⟨hfirst, List.forall_mem_singleton.2 hsecond⟩⟩

/-- The links of a note are created one after another. -/
theorem holds_tieNote {P : Command → Prop} {project note : Int}
    (h : ∀ user, (createOne .builtin Collection.userNotes (Link.userNote project note user)).Holds
      P fun _ => True) (users : List (Option Int)) :
    (tieNote project note users).Holds P fun _ => True := by
  induction users with
  | nil => exact holds_pure trivial
  | cons user rest ih => exact (h user).bind fun _ _ => ih

/-- A note is created, and then its links. -/
theorem holds_annotate {P : Command → Prop} {project : Int} {body : ProjectNote}
    (hnote : (createOne .builtin Collection.notes body.note).Holds P fun _ => True)
    (hlinks : ∀ note user, (createOne .builtin Collection.userNotes
      (Link.userNote project note user)).Holds P fun _ => True) :
    (annotate project body).Holds P fun response => response.status = 201 := by
  refine hnote.bind fun created _ => ?_
  split
  · exact holds_fail _
  · rename_i note _
    exact (holds_tieNote (hlinks note) _).bind fun _ _ => holds_pure rfl

theorem hopeful_tieNote (project note : Int) (users : List (Option Int)) {R : Prop} :
    (tieNote project note users).Hopeful R fun _ => True := by
  rcases find_of_mem Collection.userNotes (by decide) with ⟨listed, hlisted⟩
  induction users generalizing R with
  | nil => exact hopeful_pure fun _ => trivial
  | cons user rest ih =>
      exact (hopeful_createOne hlisted (Link.fits_userNote hlisted project note user)).bind
        fun _ => ih

/-- A note on a project fits the table of notes, and the links that come after it fit
    theirs. The note comes back with an id, or can do so. -/
theorem sound_annotate {listed : Listed} {project : Int} {body : ProjectNote}
    (hlisted : Catalog.builtin.find Collection.notes = .ok listed)
    (hnote : body.note.Fits listed.table) : (annotate project body).Sound := by
  rcases find_of_mem Collection.userNotes (by decide) with ⟨links, hlinks⟩
  constructor
  · refine (holds_annotate (executes_createOne hlisted hnote) ?_).mono fun response hstatus => ?_
    · exact fun note user =>
        executes_createOne hlinks (Link.fits_userNote hlinks project note user)
    · refine succeeds_of_mem ?_
      rw [hstatus]
      decide
  · refine (hopeful_createOne hlisted hnote).bind fun created => ?_
    split
    · -- The sample has an id, so the note that is hoped for has one.
      rename_i hnone
      refine hopeful_fail fun hcreated => ?_
      rw [hcreated] at hnone
      exact nomatch hnone
    · rename_i note _
      exact (hopeful_tieNote project note _).bind fun _ => hopeful_pure fun _ => trivial

/-- A user is looked for before becoming a member. -/
theorem sound_joinProject {listed : Listed} {project : Int} {member : ProjectMember}
    {link : Payload} (hlisted : Catalog.builtin.find Collection.userProjects = .ok listed)
    (hlink : link.Fits listed.table) : (joinProject project member link).Sound := by
  rcases find_resource .users with ⟨users, husers⟩
  refine Sound.bind (executes_getOne member.userId) (hopeful_getOne husers member.userId)
    fun _ => ?_
  exact Sound.bind (executes_createOne hlisted hlink) (hopeful_createOne hlisted hlink)
    fun _ => sound_pure (by decide : 201 ∈ _)

/-- What endpoints leave to do in a transaction, with what is known of what it is given:
    one operation, or for members of projects two, or for notes on projects many. -/
inductive Leaves : Endpoint → Operation Response → Prop
  | single {endpoint : Endpoint} {α : Type} {counter : Counter} {operation : Operation α}
      {respond : α → Response} (hsingle : Single counter operation)
      (hstatus : ∀ a, (respond a).status ∈ [200, 201, 204]) :
      Leaves endpoint (respond <$> operation)
  | joinProject {segment : PathSegment} {listed : Listed} {project : Int}
      {member : ProjectMember} {link : Payload}
      (hlisted : Catalog.builtin.find Collection.userProjects = .ok listed)
      (hlink : link.Fits listed.table) :
      Leaves (.addProjectUser segment) (joinProject project member link)
  | annotate {segment : PathSegment} {listed : Listed} {project : Int} {body : ProjectNote}
      (hlisted : Catalog.builtin.find Collection.notes = .ok listed)
      (hnote : body.note.Fits listed.table) :
      Leaves (.addProjectNote segment) (annotate project body)

theorem Leaves.sound {endpoint : Endpoint} {body : Operation Response}
    (h : endpoint.Leaves body) : body.Sound := by
  cases h with
  | single hsingle hstatus =>
      rcases hsingle.hopeful with ⟨Q, hhopeful⟩
      exact Sound.map hsingle.executes hhopeful hstatus
  | joinProject hlisted hlink => exact sound_joinProject hlisted hlink
  | annotate hlisted hnote => exact sound_annotate hlisted hnote

/-- An operation whose result does not matter is answered with one response. -/
theorem leaves_of_single {endpoint : Endpoint} {α : Type} {counter : Counter}
    {operation : Operation α} (hsingle : Single counter operation) {response : Response}
    (hstatus : response.status ∈ [200, 201, 204]) :
    endpoint.Leaves (operation >>= fun _ => pure response) := by
  rw [bind_pure_comp]
  exact .single hsingle fun _ => hstatus

theorem leaves_of_listing {endpoint : Endpoint} {collection : String}
    {restriction : Option Restriction} {work : Work}
    (h : listing collection restriction request = .ok work) :
    ∃ body, work = .transaction body ∧ endpoint.Leaves body := by
  rcases bind_eq_ok_iff.1 h with ⟨plan, hplan, h⟩
  cases h
  exact ⟨_, rfl, .single (.list (mapError_eq_ok hplan)) fun _ => (by decide : 200 ∈ _)⟩

/-- The work of an endpoint is a transaction, apart from the two endpoints about the
    service itself: what a form accepts fits its table, and the columns of a tie exist. -/
theorem leaves_of_work {endpoint : Endpoint} {work : Work} (hhealth : endpoint ≠ .health)
    (hmetrics : endpoint ≠ .metrics) (hknown : endpoint.Known)
    (h : endpoint.work snapshot request = .ok work) :
    ∃ body, work = .transaction body ∧ endpoint.Leaves body := by
  -- What was read and checked on the way to the operation is peeled off step by step, and only
  -- what shows that the operation cannot go wrong by itself is kept.
  cases endpoint with
  | health => exact absurd rfl hhealth
  | metrics => exact absurd rfl hmetrics
  | list collection => exact leaves_of_listing h
  | listRelated relation segment =>
      rcases bind_eq_ok_iff.1 h with ⟨id, -, h⟩
      exact leaves_of_listing h
  | get collection segment =>
      rcases bind_eq_ok_iff.1 h with ⟨id, -, h⟩
      cases h
      rcases hknown with ⟨listed, hlisted⟩
      exact ⟨_, rfl, .single (.getOne hlisted id) fun _ => (by decide : 200 ∈ _)⟩
  | create resource =>
      rcases bind_eq_ok_iff.1 h with ⟨payload, hpayload, h⟩
      rcases bind_eq_ok_iff.1 h with ⟨accepted, haccepted, h⟩
      cases h
      rcases find_resource resource with ⟨listed, hlisted⟩
      have hfits := fits_of_accepted (Or.inl rfl) hlisted hpayload haccepted
      exact ⟨_, rfl, .single (.createOne hlisted hfits) fun _ => (by decide : 201 ∈ _)⟩
  | update resource segment =>
      rcases bind_eq_ok_iff.1 h with ⟨id, -, h⟩
      rcases bind_eq_ok_iff.1 h with ⟨payload, hpayload, h⟩
      rcases bind_eq_ok_iff.1 h with ⟨accepted, haccepted, h⟩
      cases h
      rcases find_resource resource with ⟨listed, hlisted⟩
      have hfits := fits_of_accepted (Or.inr rfl) hlisted hpayload haccepted
      exact ⟨_, rfl, .single (.updateOne id hlisted hfits) fun _ => (by decide : 200 ∈ _)⟩
  | delete collection segment =>
      rcases bind_eq_ok_iff.1 h with ⟨id, -, h⟩
      cases h
      rcases hknown with ⟨listed, hlisted⟩
      exact ⟨_, rfl, leaves_of_single (.deleteOne hlisted id) (by decide : 204 ∈ _)⟩
  | addGroupUser segment =>
      rcases bind_eq_ok_iff.1 h with ⟨group, -, h⟩
      rcases bind_eq_ok_iff.1 h with ⟨user, -, h⟩
      cases h
      rcases find_of_mem Collection.userGroups (by decide) with ⟨listed, hlisted⟩
      have hfits := Link.fits_userGroup hlisted group user
      exact ⟨_, rfl, leaves_of_single (.createOne hlisted hfits) (by decide : 201 ∈ _)⟩
  | addProjectUser segment =>
      rcases bind_eq_ok_iff.1 h with ⟨project, -, h⟩
      rcases bind_eq_ok_iff.1 h with ⟨member, -, h⟩
      rcases bind_eq_ok_iff.1 h with ⟨link, hlink, h⟩
      cases h
      rcases find_of_mem Collection.userProjects (by decide) with ⟨listed, hlisted⟩
      rcases checked_eq_ok hlink with ⟨rfl, hcomplaint⟩
      exact ⟨_, rfl, .joinProject hlisted
        (Link.fits_userProject hlisted project member hcomplaint)⟩
  | addProjectNote segment =>
      rcases bind_eq_ok_iff.1 h with ⟨project, -, h⟩
      rcases bind_eq_ok_iff.1 h with ⟨body, hbody, h⟩
      rcases bind_eq_ok_iff.1 h with ⟨note, hnote, h⟩
      cases h
      rcases find_resource .notes with ⟨listed, hlisted⟩
      rcases exists_of_decodeBody hbody with ⟨_, _, hdecoded⟩
      -- The note in the body was read by the form that notes are created with.
      rcases decodePayload_of_projectNote hdecoded with ⟨_, _, hdecoded⟩
      rcases checked_eq_ok hnote with ⟨rfl, hcomplaint⟩
      exact ⟨_, rfl,
        .annotate hlisted (Resource.fits_of_form (Or.inl rfl) hlisted hdecoded hcomplaint)⟩
  | untie tie first second =>
      rcases bind_eq_ok_iff.1 h with ⟨ids, -, h⟩
      cases h
      rcases find_tie tie ids.1 ids.2 with ⟨listed, hlisted, hcolumns⟩
      exact ⟨_, rfl, leaves_of_single (.deleteMatching hlisted hcolumns) (by decide : 204 ∈ _)⟩

end Endpoint

namespace Target

variable {target : Target} {method : String} {endpoint : Endpoint}

/-- What targets offer is known, and only the two targets about the service itself offer
    the two endpoints about it. -/
theorem known_of_endpoint? (h : target.endpoint? method = some endpoint) :
    endpoint.Known ∧ (endpoint = .health → target = .health) ∧
      (endpoint = .metrics → target = .metrics) := by
  cases offers_of_endpoint? h with
  | health => exact ⟨trivial, fun _ => rfl, nofun⟩
  | metrics => exact ⟨trivial, nofun, fun _ => rfl⟩
  | get r id | delete r id => exact ⟨Endpoint.find_resource r, nofun, nofun⟩
  | getToken id | deleteToken id =>
      exact ⟨Endpoint.find_of_mem _ (by decide), nofun, nofun⟩
  | list | create | listTokens | listPiProjects | put | patch | listRelated | addGroupUser
    | addProjectUser | addProjectNote | untie => exact ⟨trivial, nofun, nofun⟩

end Target

end Registrar
