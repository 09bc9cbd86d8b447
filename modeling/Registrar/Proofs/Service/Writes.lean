import Registrar.Proofs.Form.Members
import Registrar.Proofs.Operation.Confined
import Registrar.Proofs.Service.Answer
import Registrar.Proofs.Service.Routes

/-!
# What Requests Change and Remove

A record is changed or removed by a request for its path, and a link by a request for the
path with the two ids of what it ties. The statement that does so is confined to the rows
that the path names: in these the primary key is the id, or the two columns of the link are
the two ids, in the order of the path. No other request changes or removes anything, and no
body can bring the primary key into an update.

The tables of paths below do not use the targets that paths are read into. That a path is
read into the right target, with the ids in their places, is part of what is shown.

## Main definitions

* `RecordRoute`, `TieRoute`: The paths of records, and of links.
* `Request.Changes`, `Request.Removes`: What a request may change and remove.

## Theorems

* `RecordRoute.of_record`, `TieRoute.of_tie`: The paths of targets.
* `Request.confined_of_work`: Endpoint by endpoint, what is left to do for a request.
* `Request.confined_answer`: What is said to answer a request.
-/

namespace Registrar

/-- A path is that of a record: its collection and its id. -/
inductive RecordRoute : List Char → String → Int → Prop
  | groups {segment : List Char} {id : Int} (h : PathId segment id) :
      RecordRoute ("/groups/".toList ++ segment) "groups" id
  | users {segment : List Char} {id : Int} (h : PathId segment id) :
      RecordRoute ("/users/".toList ++ segment) "users" id
  | projects {segment : List Char} {id : Int} (h : PathId segment id) :
      RecordRoute ("/projects/".toList ++ segment) "projects" id
  | notes {segment : List Char} {id : Int} (h : PathId segment id) :
      RecordRoute ("/notes/".toList ++ segment) "notes" id
  | submitNodes {segment : List Char} {id : Int} (h : PathId segment id) :
      RecordRoute ("/submit_nodes/".toList ++ segment) "submit_nodes" id
  | tokens {segment : List Char} {id : Int} (h : PathId segment id) :
      RecordRoute ("/tokens/".toList ++ segment) "tokens" id

/-- A path is that of a link: the collection of links, and what its columns hold. -/
inductive TieRoute : List Char → String → List (String × Int) → Prop
  | groupUser {first second : List Char} {group user : Int} (hgroup : PathId first group)
      (huser : PathId second user) :
      TieRoute ("/groups/".toList ++ first ++ "/users/".toList ++ second) "user_groups"
        [("group_id", group), ("user_id", user)]
  | projectUser {first second : List Char} {project user : Int} (hproject : PathId first project)
      (huser : PathId second user) :
      TieRoute ("/projects/".toList ++ first ++ "/users/".toList ++ second) "user_projects"
        [("project_id", project), ("user_id", user)]
  | projectNote {first second : List Char} {project note : Int} (hproject : PathId first project)
      (hnote : PathId second note) :
      TieRoute ("/projects/".toList ++ first ++ "/notes/".toList ++ second) "user_notes"
        [("project_id", project), ("note_id", note)]

section Paths

variable {path : List Char} {segment first second : PathSegment} {id firstId secondId : Int}

/-- The ids in the path of a target have no slash in them. -/
theorem PathId.of_stands {target : Target} (h : target.Stands)
    (hmem : segment.text ∈ target.segments) (hid : segment.id = .ok id) :
    PathId segment.text id :=
  ⟨h.unbroken _ hmem, PathSegment.id_eq_ok_iff.1 hid⟩

theorem RecordRoute.of_record {resource : Resource}
    (h : Target.ofPath? path = some (.record resource segment)) (hid : segment.id = .ok id) :
    RecordRoute path resource.collection id := by
  rcases Target.ofPath?_eq_some_iff.1 h with ⟨rfl, hstands⟩
  have hsegment : PathId segment.text id := by
    refine .of_stands hstands ?_ hid
    exact List.mem_cons_of_mem _ (List.mem_singleton_self _)
  have hpath : (Target.record resource segment).path =
      '/' :: (resource.collection.toList ++ '/' :: segment.text) := by
    simp only [Target.path, Target.segments, List.flatMap_cons, List.flatMap_nil,
      List.append_nil, List.cons_append]
  -- Now the path is that of the table, word by word.
  rw [hpath]
  cases resource with
  | groups => exact .groups hsegment
  | users => exact .users hsegment
  | projects => exact .projects hsegment
  | notes => exact .notes hsegment
  | submitNodes => exact .submitNodes hsegment

theorem RecordRoute.of_token (h : Target.ofPath? path = some (.token segment))
    (hid : segment.id = .ok id) : RecordRoute path Collection.tokens id := by
  rcases Target.ofPath?_eq_some_iff.1 h with ⟨rfl, hstands⟩
  have hsegment : PathId segment.text id := by
    refine .of_stands hstands ?_ hid
    exact List.mem_cons_of_mem _ (List.mem_singleton_self _)
  have hpath : (Target.token segment).path = "/tokens/".toList ++ segment.text := by
    simp only [Target.path, Target.segments, List.flatMap_cons, List.flatMap_nil,
      List.append_nil, List.cons_append]
    rfl
  rw [hpath]
  exact .tokens hsegment

theorem TieRoute.of_tie {t : Tie} (h : Target.ofPath? path = some (.tie t first second))
    (hids : first.ids second = .ok (firstId, secondId)) :
    TieRoute path t.collection [(t.columns.1, firstId), (t.columns.2, secondId)] := by
  rcases Target.ofPath?_eq_some_iff.1 h with ⟨rfl, hstands⟩
  rcases PathSegment.ids_eq_ok_iff.1 hids with ⟨hfirst, hsecond⟩
  -- The ids are the second and the fourth segment.
  have hgiven : PathId first.text firstId := by
    refine .of_stands hstands ?_ hfirst
    exact List.mem_cons_of_mem _ List.mem_cons_self
  have hother : PathId second.text secondId := by
    refine .of_stands hstands ?_ hsecond
    exact List.mem_of_mem_getLast? rfl
  have hpath : (Target.tie t first second).path =
      '/' :: (t.words.1.toList ++ '/' :: first.text) ++
        ('/' :: (t.words.2.toList ++ ['/'])) ++ second.text := by
    simp only [Target.path, Target.segments, List.flatMap_cons, List.flatMap_nil,
      List.append_nil, List.cons_append, List.append_assoc, List.nil_append]
  rw [hpath]
  cases t with
  | groupUser => exact .groupUser hgiven hother
  | projectUser => exact .projectUser hgiven hother
  | projectNote => exact .projectNote hgiven hother

end Paths

namespace Request

open Session Operation

variable {snapshot : Snapshot} {request : Request} {target : Target} {endpoint : Endpoint}
  {body : Operation Response}

/-- An update that a request may make: of the record that its path names, by the methods for
    that, and without setting the primary key. -/
def Changes (request : Request) (update : Sql.Update) : Prop :=
  (request.method = "PUT" ∨ request.method = "PATCH") ∧
    ∃ collection id listed, RecordRoute request.path collection id ∧
      Catalog.builtin.find collection = .ok listed ∧
      update.Touches listed.table [(listed.table.primaryKey, id)]

/-- A removal that a request may make: of the record that its path names, or of the links
    that it names. -/
def Removes (request : Request) (delete : Sql.Delete) : Prop :=
  request.method = "DELETE" ∧ ∃ collection values listed,
    Catalog.builtin.find collection = .ok listed ∧
    ((∃ id, RecordRoute request.path collection id ∧
      values = [(listed.table.primaryKey, id)]) ∨ TieRoute request.path collection values) ∧
    delete.Touches listed.table values

/-- A method is taken for another one only if that is the one for reading. -/
theorem method_of_effective {method : String} (h : request.effectiveMethod = method)
    (hne : method ≠ "GET") : request.method = method := by
  unfold effectiveMethod at h
  split at h
  · exact absurd h.symm hne
  · exact h

theorem confined_of_listing {collection : String} {restriction : Option Restriction}
    (h : Endpoint.listing collection restriction request = .ok (.transaction body)) :
    body.Holds (Command.Confined request.Changes request.Removes) fun _ => True := by
  rcases bind_eq_ok_iff.1 h with ⟨plan, -, h⟩
  cases h
  exact (confined_list plan).map fun _ _ => trivial

theorem confined_of_get {collection : String} {segment : PathSegment}
    (h : (Endpoint.get collection segment).work snapshot request = .ok (.transaction body)) :
    body.Holds (Command.Confined request.Changes request.Removes) fun _ => True := by
  rcases bind_eq_ok_iff.1 h with ⟨id, -, h⟩
  cases h
  exact confined_getOne.map fun _ _ => trivial

/-- The record of the path is changed. Its primary key is no field of the form. -/
theorem confined_of_update {resource : Resource} {segment : PathSegment}
    (htarget : Target.ofPath? request.path = some (.record resource segment))
    (hmethod : request.method = "PUT" ∨ request.method = "PATCH")
    (h : (Endpoint.update resource segment).work snapshot request = .ok (.transaction body)) :
    body.Holds (Command.Confined request.Changes request.Removes) fun _ => True := by
  rcases bind_eq_ok_iff.1 h with ⟨id, hid, h⟩
  rcases bind_eq_ok_iff.1 h with ⟨payload, hpayload, h⟩
  rcases bind_eq_ok_iff.1 h with ⟨accepted, haccepted, h⟩
  cases h
  -- What is accepted is what was decoded by the form for updates.
  rcases (Endpoint.checked_eq_ok haccepted).1 with rfl
  rcases Endpoint.exists_of_decodeBody hpayload with ⟨room, tree, hdecoded⟩
  rcases Endpoint.find_resource resource with ⟨listed, hlisted⟩
  have hprimary : ∀ record,
      recordFor .builtin resource.collection accepted = .ok record →
        listed.table.primaryKey ∉ record.names := by
    intro record hrecord
    rw [recordFor, hlisted] at hrecord
    exact Resource.primaryKey_not_mem_of_form (Or.inr rfl) hlisted hdecoded hrecord
  have hroute := RecordRoute.of_record htarget hid
  refine (confined_updateOne hlisted hprimary fun update htouches => ?_).map fun _ _ => trivial
  exact ⟨hmethod, _, id, listed, hroute, hlisted, htouches⟩

/-- The record of the path is removed. -/
theorem confined_of_delete {collection : String} {segment : PathSegment} {listed : Listed}
    (hroute : ∀ id, segment.id = .ok id → RecordRoute request.path collection id)
    (hlisted : Catalog.builtin.find collection = .ok listed) (hmethod : request.method = "DELETE")
    (h : (Endpoint.delete collection segment).work snapshot request = .ok (.transaction body)) :
    body.Holds (Command.Confined request.Changes request.Removes) fun _ => True := by
  rcases bind_eq_ok_iff.1 h with ⟨id, hid, h⟩
  cases h
  refine (confined_deleteOne hlisted fun delete htouches => ?_).bind fun _ _ => holds_pure trivial
  exact ⟨hmethod, _, _, listed, hlisted, Or.inl ⟨id, hroute id hid, rfl⟩, htouches⟩

/-- The links of the path are removed. -/
theorem confined_of_untie {t : Tie} {first second : PathSegment}
    (htarget : Target.ofPath? request.path = some (.tie t first second))
    (hmethod : request.method = "DELETE")
    (h : (Endpoint.untie t first second).work snapshot request = .ok (.transaction body)) :
    body.Holds (Command.Confined request.Changes request.Removes) fun _ => True := by
  rcases bind_eq_ok_iff.1 h with ⟨ids, hids, h⟩
  cases h
  rcases Endpoint.find_tie t ids.1 ids.2 with ⟨listed, hlisted, -⟩
  have hroute := TieRoute.of_tie htarget hids
  refine (confined_deleteMatching hlisted (List.cons_ne_nil _ _) fun delete htouches => ?_).bind
    fun _ _ => holds_pure trivial
  exact ⟨hmethod, _, _, listed, hlisted, Or.inr hroute, htouches⟩

/-- Endpoint by endpoint, what is left to do for a request changes and removes only what the
    request may change and remove. -/
theorem confined_of_work (htarget : Target.ofPath? request.path = some target)
    (hoffers : target.Offers request.effectiveMethod endpoint)
    (h : endpoint.work snapshot request = .ok (.transaction body)) :
    body.Holds (Command.Confined request.Changes request.Removes) fun _ => True := by
  -- What is read or created touches nothing, so only three kinds of endpoints remain.
  generalize hmethod : request.effectiveMethod = method at hoffers
  cases hoffers with
  | health | metrics => cases h
  | list | listTokens | listPiProjects => exact confined_of_listing h
  | listRelated relation segment =>
      rcases bind_eq_ok_iff.1 h with ⟨id, -, h⟩
      exact confined_of_listing h
  | get | getToken => exact confined_of_get h
  | create resource =>
      rcases bind_eq_ok_iff.1 h with ⟨payload, -, h⟩
      rcases bind_eq_ok_iff.1 h with ⟨accepted, -, h⟩
      cases h
      exact confined_createOne.map fun _ _ => trivial
  | put => exact confined_of_update htarget (Or.inl (method_of_effective hmethod (by decide))) h
  | patch => exact confined_of_update htarget (Or.inr (method_of_effective hmethod (by decide))) h
  | delete resource segment =>
      rcases Endpoint.find_resource resource with ⟨listed, hlisted⟩
      exact confined_of_delete (fun id hid => .of_record htarget hid) hlisted
        (method_of_effective hmethod (by decide)) h
  | deleteToken segment =>
      rcases Endpoint.find_of_mem Collection.tokens (by decide) with ⟨listed, hlisted⟩
      exact confined_of_delete (fun id hid => .of_token htarget hid) hlisted
        (method_of_effective hmethod (by decide)) h
  | addGroupUser segment =>
      rcases bind_eq_ok_iff.1 h with ⟨group, -, h⟩
      rcases bind_eq_ok_iff.1 h with ⟨user, -, h⟩
      cases h
      exact confined_createOne.bind fun _ _ => holds_pure trivial
  | addProjectUser segment =>
      rcases bind_eq_ok_iff.1 h with ⟨project, -, h⟩
      rcases bind_eq_ok_iff.1 h with ⟨member, -, h⟩
      rcases bind_eq_ok_iff.1 h with ⟨link, -, h⟩
      cases h
      refine confined_getOne.bind fun _ _ => ?_
      exact confined_createOne.bind fun _ _ => holds_pure trivial
  | addProjectNote segment =>
      rcases bind_eq_ok_iff.1 h with ⟨project, -, h⟩
      rcases bind_eq_ok_iff.1 h with ⟨note, -, h⟩
      rcases bind_eq_ok_iff.1 h with ⟨accepted, -, h⟩
      cases h
      exact (Endpoint.holds_annotate confined_createOne fun _ _ => confined_createOne).mono
        fun _ _ => trivial
  | untie => exact confined_of_untie htarget (method_of_effective hmethod (by decide)) h

/-- The statement that looks for the database is written out, and it is a selection. -/
theorem confined_pingStatement {changes : Sql.Update → Prop} {removes : Sql.Delete → Prop} :
    Work.pingStatement.Confined changes removes :=
  Sql.confined_select ⟨.one, none, .true, [], [], none, none⟩

/-- What is said to answer a request changes and removes only what the request may change and
    remove. -/
theorem confined_answer : (request.answer snapshot).Holds
    (Command.Confined request.Changes request.Removes) fun _ => True := by
  -- Besides what is left to do there are only the commands around it and the ping.
  refine holds_answer fun work htask => Work.holds_run ?_ ?_ ?_
  · exact fun command hcommand sql hsql => absurd hsql (hcommand sql)
  · exact Command.confined_execute confined_pingStatement
  · rintro body rfl
    rcases leaves_of_task htask with ⟨endpoint, hendpoint, -⟩
    rcases exists_target hendpoint with ⟨target, htarget, hoffered⟩
    have hwork : request.task snapshot = _ := task_of_endpoint hendpoint
    rw [htask] at hwork
    exact confined_of_work htarget (Target.offers_of_endpoint? hoffered)
      (Endpoint.mapError_eq_ok hwork.symm)

end Request

namespace Service

/-- Whatever is requested and whatever the database replies, everything that is executed is
    the text of a statement, and of which kind is told by the text. An update is only made by
    a request to change the record that its path names: it changes the rows in which the
    primary key is the id of the path, does not set the primary key, and says so. A removal
    is only made by a request to remove the record that its path names, or the links between
    the two that its path names: it removes the rows in which the primary key is the id, or
    in which the two columns hold the two ids, and says so. This is true in particular of
    everything that is sent. -/
theorem writes_of_request (request : Request) :
    (∀ snapshot exchanges counters response,
      Session.Course (request.answer snapshot) exchanges counters response →
        ∀ sql reply, (.execute sql, reply) ∈ exchanges →
          sql.Confined request.Changes request.Removes) ∧
    ∀ (service : Service) (server : Server) (sql : Sql.Text),
      .execute sql ∈ (service.handle server request).sent →
        sql.Confined request.Changes request.Removes := by
  have hcourse : ∀ snapshot exchanges counters response,
      Session.Course (request.answer snapshot) exchanges counters response →
        ∀ sql reply, (Command.execute sql, reply) ∈ exchanges →
          sql.Confined request.Changes request.Removes := by
    intro snapshot exchanges counters response h sql reply hmem
    exact (Request.confined_answer.of_course h).1 _ hmem sql rfl
  refine ⟨hcourse, fun service server sql hmem => ?_⟩
  -- What is sent is part of a course.
  rcases service.handle_takes_course server request with ⟨exchanges, counters, h, hsent, -⟩
  rcases List.mem_map.1 (hsent.subset hmem) with ⟨⟨command, reply⟩, hexchange, hcommand⟩
  cases hcommand
  exact hcourse _ _ _ _ h sql reply hexchange

/-- Taking a user out of a group removes the links between the two. -/
theorem writes_of_request_untie :
    (Request.ofUri "DELETE" "/groups/7/users/8" none "").Removes
      ⟨.table (.table "public" "user_groups") "user_groups",
        .and (.comparison "user_groups" ("group_id", 7))
          (.comparison "user_groups" ("user_id", 8))⟩ := by
  have hsent : (start.handle ⟨none, none, none, [.ok ⟨none, 1⟩]⟩
      (Request.ofUri "DELETE" "/groups/7/users/8" none "")).sent =
      [.begin, .execute (Sql.Statement.delete
        ⟨.table (.table "public" "user_groups") "user_groups",
          .and (.comparison "user_groups" ("group_id", 7))
            (.comparison "user_groups" ("user_id", 8))⟩).text, .commit] := rfl
  refine ((writes_of_request _).2 start ⟨none, none, none, [.ok ⟨none, 1⟩]⟩ _ ?_).removal _ rfl
  rw [hsent]
  exact List.mem_cons_of_mem _ List.mem_cons_self

end Service

end Registrar
