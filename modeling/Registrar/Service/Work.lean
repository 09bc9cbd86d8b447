import Registrar.Catalog.Builtin
import Registrar.Form.Membership
import Registrar.Metrics.Exposition
import Registrar.Operation.Basic
import Registrar.Service.Body
import Registrar.Service.Target

/-!
# Work of a Request

Everything that can be said about a request without the database is said first:
its path, then its body, then the rules of its form, or its parameters. What is
left is work. Apart from the check of the database's health it is one transaction.

A note on a project is created, then tied to the project itself, then to each of
its users. A user has to exist before becoming a member of a project, so that an
unknown one is reported as such.

## Main definitions

* `Work`: What is left to do for a request.
* `Endpoint.work`: The work of a request.
* `Work.run`: The operation that does it.
-/

namespace Registrar

/-- What is left to do for a request that could be read. -/
inductive Work
  /-- Nothing: the answer is known. -/
  | reply (response : Response)
  /-- See whether the database answers. -/
  | ping
  /-- An operation in a transaction of its own. -/
  | transaction (body : Operation Response)

namespace Work

/-- The statement that sees whether the database answers. -/
def pingStatement : Sql.Text := Sql.Text.empty.appendVerbatim "SELECT 1"

/-- The operation that does the work. -/
def run : Work → Operation Response
  | reply response => pure response
  | ping => do
    let _ ← Operation.send .connect
    let _ ← Operation.send (.execute pingStatement)
    pure (.empty 204)
  | transaction body => Operation.inTransaction body

end Work

namespace Endpoint

/-- The media type of the page of metrics. -/
def expositionType : String := "text/plain; version=0.0.4"

/-- The page of metrics. -/
def expositionPage (snapshot : Snapshot) : Response :=
  ⟨200, none, some expositionType, snapshot.exposition⟩

/-- A page of a listing, with the number of rows in all. -/
def listingPage (result : ListingResult) : Response :=
  { Response.json 200 result.rows with total := some result.total }

/-- The work of a listing. -/
def listing (collection : String) (restriction : Option Restriction) (request : Request) :
    Except ServiceError Work := do
  let plan ← (ListingPlan.ofParams Catalog.builtin collection restriction request.params).mapError
    fun e => .operation (.query e)
  pure (.transaction (listingPage <$> Operation.list plan))

/-- Go on with a payload that breaks no rule. -/
def checked (payload : Payload) : Except ServiceError Payload :=
  match payload.complaint with
  | some reason => .error (.operation (.validationFailure reason))
  | none => .ok payload

/-- Make a user a member of a project. -/
def joinProject (project : Int) (member : ProjectMember) (link : Payload) :
    Operation Response := do
  -- An unknown user is not found here, and not a violated constraint below.
  let _ ← Operation.getOne Catalog.builtin Collection.users member.userId
  let _ ← Operation.createOne Catalog.builtin Collection.userProjects link
  let user := member.userId
  pure (.message 201 s!"User {user} added to project {project}")

/-- Tie a note to a project, or to users on it, one after another. -/
def tieNote (project note : Int) : List (Option Int) → Operation Unit
  | [] => pure ()
  | user :: rest => do
    let link := Link.userNote project note user
    let _ ← Operation.createOne Catalog.builtin Collection.userNotes link
    tieNote project note rest

/-- Create a note and tie it to a project and to users on it. -/
def annotate (project : Int) (body : ProjectNote) : Operation Response := do
  let created ← Operation.createOne Catalog.builtin Collection.notes body.note
  match (created.member? "id").bind Json.Document.int64? with
  | none => Operation.fail (.decode "created note has no id")
  | some note => do
    -- The link without a user is the one to the project itself.
    tieNote project note (none :: body.users.map some)
    pure (.json 201 created)

/-- The work of a request. -/
def work (snapshot : Snapshot) (request : Request) : Endpoint → Except ServiceError Work
  | health => pure .ping
  | metrics => pure (.reply (expositionPage snapshot))
  | list collection => listing collection none request
  | listRelated relation segment => do
    let id ← segment.id
    listing relation.collection (some (relation.restriction id)) request
  | get collection segment => do
    let id ← segment.id
    pure (.transaction (Response.json 200 <$> Operation.getOne Catalog.builtin collection id))
  | create resource => do
    let payload ← request.decodeBody resource.createForm.decodePayload
    let payload ← checked payload
    pure (.transaction
      (Response.json 201 <$> Operation.createOne Catalog.builtin resource.collection payload))
  | update resource segment => do
    let id ← segment.id
    let payload ← request.decodeBody resource.updateForm.decodePayload
    let payload ← checked payload
    pure (.transaction
      (Response.json 200 <$> Operation.updateOne Catalog.builtin resource.collection id payload))
  | delete collection segment => do
    let id ← segment.id
    pure (.transaction do
      Operation.deleteOne Catalog.builtin collection id
      pure (.empty 204))
  | addGroupUser segment => do
    let group ← segment.id
    let user ← request.decodeBody Relationship.decode
    pure (.transaction do
      let _ ← Operation.createOne Catalog.builtin Collection.userGroups (Link.userGroup group user)
      pure (.message 201 "User added to group successfully"))
  | addProjectUser segment => do
    let project ← segment.id
    let member ← request.decodeBody ProjectMember.decode
    let link ← checked (Link.userProject project member)
    pure (.transaction (joinProject project member link))
  | addProjectNote segment => do
    let project ← segment.id
    let body ← request.decodeBody ProjectNote.decode
    let note ← checked body.note
    pure (.transaction (annotate project ⟨note, body.users⟩))
  | untie tie first second => do
    let (firstId, secondId) ← first.ids second
    let (firstColumn, secondColumn) := tie.columns
    pure (.transaction do
      Operation.deleteMatching Catalog.builtin tie.collection
        [(firstColumn, firstId), (secondColumn, secondId)]
      pure (.empty 204))

end Endpoint

end Registrar
