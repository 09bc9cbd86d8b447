import Registrar.Form.Resource
import Registrar.Listing.Condition
import Registrar.Service.Path

/-!
# Targets

What a path names: a collection, one of its records, the records that belong to
one, or a tie between two. Paths are case-sensitive, and a slash at the end makes
another path. An id may be empty between two slashes, where it will not be an
integer, but not at the end.

A target supports some methods, each of which is an endpoint.

## Main definitions

* `Relation`: The listings of records that belong to another one.
* `Tie`: The links that can be made and removed.
* `Target`, `Target.ofPath?`: What a path names.
* `Endpoint`, `Target.endpoint?`: What a method asks of a target.
-/

namespace Registrar

/-- The listings of records that belong to another one. -/
inductive Relation
  | groupUsers
  | userGroups
  | projectUsers
  | userProjects
  | userSubmitNodes
  | projectNotes
  deriving DecidableEq, Repr

namespace Relation

/-- The collection that is listed. -/
def collection : Relation → String
  | groupUsers => Collection.users
  | userGroups => Collection.groups
  | projectUsers | userProjects => Collection.joinedProjects
  | userSubmitNodes => Collection.userSubmitNodes
  | projectNotes => Collection.notes

/-- To which rows the listing is narrowed. -/
def restriction (id : Int) : Relation → Restriction
  | groupUsers => .linked Collection.userGroups "user_id" "group_id" id
  | userGroups => .linked Collection.userGroups "group_id" "user_id" id
  | projectUsers => .column "project_id" id
  | userProjects | userSubmitNodes => .column "user_id" id
  | projectNotes => .linked Collection.userNotes "note_id" "project_id" id

end Relation

/-- The links that can be made and removed. -/
inductive Tie
  | groupUser
  | projectUser
  | projectNote
  deriving DecidableEq, Repr

namespace Tie

/-- The collection of the links. -/
def collection : Tie → String
  | groupUser => Collection.userGroups
  | projectUser => Collection.userProjects
  | projectNote => Collection.userNotes

/-- The columns of a link that hold the two ids of a path. -/
def columns : Tie → String × String
  | groupUser => ("group_id", "user_id")
  | projectUser => ("project_id", "user_id")
  | projectNote => ("project_id", "note_id")

end Tie

/-- What a path names. Ids are still as they stand in the path. -/
inductive Target
  | health
  | metrics
  | resource (resource : Resource)
  | tokens
  | piProjects
  | record (resource : Resource) (id : PathSegment)
  | token (id : PathSegment)
  | related (relation : Relation) (id : PathSegment)
  | tie (tie : Tie) (first second : PathSegment)
  deriving DecidableEq, Repr

namespace Target

/-- A segment that is the id of a record. -/
def idSegment (text : List Char) : PathSegment := ⟨"id", text⟩

/-- The target of a path with one segment. -/
def single? (name : String) : Option Target :=
  match name with
  | "health" => some health
  | "metrics" => some metrics
  | "groups" => some (resource .groups)
  | "users" => some (resource .users)
  | "projects" => some (resource .projects)
  | "notes" => some (resource .notes)
  | "submit_nodes" => some (resource .submitNodes)
  | "tokens" => some tokens
  | "pi-projects" => some piProjects
  | _ => none

/-- The target of a path with an id at its end. -/
def recordOf? (name : String) (id : List Char) : Option Target :=
  if id.isEmpty then none
  else
    match single? name with
    | some (resource r) => some (record r (idSegment id))
    | some tokens => some (token (idSegment id))
    | _ => none

/-- What belongs to a record, by the words before and after its id. -/
def relation? (name word : String) : Option Relation :=
  match name, word with
  | "groups", "users" => some .groupUsers
  | "users", "groups" => some .userGroups
  | "users", "projects" => some .userProjects
  | "users", "submit_nodes" => some .userSubmitNodes
  | "projects", "users" => some .projectUsers
  | "projects", "notes" => some .projectNotes
  | _, _ => none

/-- The tie of a path with two ids, by the words before them, and the name of the
    second id. -/
def tie? (name word : String) : Option (Tie × String) :=
  match name, word with
  | "groups", "users" => some (.groupUser, "user_id")
  | "projects", "users" => some (.projectUser, "user_id")
  | "projects", "notes" => some (.projectNote, "note_id")
  | _, _ => none

/-- The target of the segments of a path. -/
def ofSegments? : List (List Char) → Option Target
  | [name] => single? (String.ofList name)
  | [name, id] => recordOf? (String.ofList name) id
  | [name, id, word] =>
    (relation? (String.ofList name) (String.ofList word)).map fun relation =>
      related relation (idSegment id)
  | [name, first, word, second] =>
    if second.isEmpty then none
    else
      (tie? (String.ofList name) (String.ofList word)).map fun found =>
        tie found.1 (idSegment first) ⟨found.2, second⟩
  | _ => none

/-- What a path names, if it names anything. It begins with a slash. -/
def ofPath? : List Char → Option Target
  | '/' :: rest => ofSegments? (Text.splitOn '/' rest)
  | _ => none

end Target

/-- What a method asks of a target. -/
inductive Endpoint
  | health
  | metrics
  | list (collection : String)
  | listRelated (relation : Relation) (id : PathSegment)
  | get (collection : String) (id : PathSegment)
  | create (resource : Resource)
  | update (resource : Resource) (id : PathSegment)
  | delete (collection : String) (id : PathSegment)
  | addGroupUser (group : PathSegment)
  | addProjectUser (project : PathSegment)
  | addProjectNote (project : PathSegment)
  | untie (tie : Tie) (first second : PathSegment)
  deriving DecidableEq, Repr

namespace Target

/-- What a method asks of a target, if the target supports it. -/
def endpoint? (method : String) : Target → Option Endpoint
  | health => if method = "GET" then some .health else none
  | metrics => if method = "GET" then some .metrics else none
  | resource r =>
    match method with
    | "GET" => some (.list r.collection)
    | "POST" => some (.create r)
    | _ => none
  | tokens => if method = "GET" then some (.list Collection.tokens) else none
  | piProjects => if method = "GET" then some (.list Collection.piProjects) else none
  | record r id =>
    match method with
    | "GET" => some (.get r.collection id)
    | "PUT" | "PATCH" => some (.update r id)
    | "DELETE" => some (.delete r.collection id)
    | _ => none
  | token id =>
    match method with
    | "GET" => some (.get Collection.tokens id)
    | "DELETE" => some (.delete Collection.tokens id)
    | _ => none
  | related relation id =>
    match method, relation with
    | "GET", relation => some (.listRelated relation id)
    | "POST", .groupUsers => some (.addGroupUser id)
    | "POST", .projectUsers => some (.addProjectUser id)
    | "POST", .projectNotes => some (.addProjectNote id)
    | _, _ => none
  | tie t first second => if method = "DELETE" then some (.untie t first second) else none

end Target

end Registrar
