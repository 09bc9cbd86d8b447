import Registrar.Form.Resource

/-!
# Memberships

Bodies that tie two records together, and the links that are written for them. A
note on a project comes with the members that it is about: it is written once and
tied to the project itself and to each of these users.

The body of such a note is a note with one more member, `users`. It is read
completely first, with the users decoded on the way; the note is then decoded from
the other members.

## Main definitions

* `ProjectMember`: A user who becomes a member of a project.
* `ProjectNote`: A note, and the users that it is about.
* `Link.userGroup`, `Link.userProject`, `Link.userNote`: The links that are
  written.
-/

namespace Registrar

open Json (Decoder Document Problem Tree StringLexeme)

namespace Relationship

/-- The only field: the id of the record to link to. -/
def fields : List (Decoder.Field Int) := [⟨"id", Decoder.int64, none⟩]

/-- The id from the fields. -/
def ofFields : List Int → Except Problem Int
  | [id] => .ok id
  | _ => .error .mismatched

/-- Read the id from a body. -/
def decode : Decoder Int := fun room tree => do
  let found ← Decoder.record fields room tree
  ofFields found

end Relationship

/-- A user who becomes a member of a project. -/
structure ProjectMember where
  userId : Int
  role : Option String
  isPrimary : Bool
  deriving DecidableEq, Repr

namespace ProjectMember

/-- The fields of a membership. The flag may be left out but not be `null`. -/
def fields : List (Decoder.Field Entry) :=
  [FormField.decoder ⟨"user_id", .integer, .required⟩,
   FormField.decoder ⟨"role", .text, .optional⟩,
   ⟨"is_primary", FieldKind.flag.decode.map Entry.given, some (.given (.flag false))⟩]

/-- A membership from its fields. -/
def ofEntries : List Entry → Except Problem ProjectMember
  | [.given (.integer userId), role, .given (.flag isPrimary)] =>
    .ok ⟨userId, role.text?, isPrimary⟩
  | _ => .error .mismatched

/-- Read a membership from a body. -/
def decode : Decoder ProjectMember := fun room tree => do
  let entries ← Decoder.record fields room tree
  ofEntries entries

end ProjectMember

/-- A note on a project, and the users that it is about. -/
structure ProjectNote where
  note : Payload
  users : List Int

namespace ProjectNote

/-- What has been read of the body: the users, once they have come, and the other
    members. -/
structure Parts where
  users : Option (List Int)
  others : List (StringLexeme × Tree)

/-- Read the members of the body. A value that is kept for the note must have a
    meaning, also if the note has no such field. -/
def parts (room : Nat) : List (StringLexeme × Tree) → Parts → Except Problem Parts
  | [], found => .ok found
  | (key, tree) :: rest, found => do
    let name ← Decoder.lexemeText key
    if name = "users" then
      match found.users with
      -- The second key is refused before its value is looked at.
      | some _ => .error .mismatched
      | none => do
        let users ← Decoder.list Decoder.int64 room tree
        parts room rest { found with users := some users }
    else do
      let _ ← Decoder.document room tree
      parts room rest { found with others := found.others ++ [(key, tree)] }

/-- Read a note with its users from a body, which has to be an object. -/
def decode : Decoder ProjectNote := fun room tree =>
  match tree with
  | .object members closed =>
    Decoder.enter room fun room => do
      let found ← parts room members ⟨none, []⟩
      let found ← Decoder.closing closed found
      -- Only now is the note read, so a fault of the users comes before one of the note.
      let note ← Resource.notes.createForm.decodePayload (room + 1) (.object found.others true)
      pure ⟨note, found.users.getD []⟩
  | tree => .error tree.problem

end ProjectNote

namespace Link

/-- The link of a user to a group. -/
def userGroup (group user : Int) : Payload :=
  ⟨.object [("group_id", .ofInt group), ("user_id", .ofInt user)], none⟩

/-- The link of a member to a project. -/
def userProject (project : Int) (member : ProjectMember) : Payload :=
  let role : List (String × Document) := match member.role with
    | some role => [("role", .string role)]
    | none => []
  ⟨.ofMembers ([("project_id", .ofInt project), ("user_id", .ofInt member.userId)] ++ role ++
      [("is_primary", .bool member.isPrimary)]),
    member.role.bind fun role => TextRule.role.complaint? "role" role⟩

/-- The link of a note to a project, or to a user on that project. -/
def userNote (project note : Int) (user : Option Int) : Payload :=
  let user : List (String × Document) := match user with
    | some user => [("user_id", .ofInt user)]
    | none => []
  ⟨.ofMembers ([("project_id", .ofInt project), ("note_id", .ofInt note)] ++ user), none⟩

end Link

end Registrar
