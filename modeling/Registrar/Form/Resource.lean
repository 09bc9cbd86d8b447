import Registrar.Catalog.Builtin
import Registrar.Form.Basic

/-!
# Resources

The collections whose records can be created and changed, each with the form for
creating a record and the form for changing one. A form for changing has the same
fields; none has to be given, and every one may be cleared, except that a rule
keeps the required ones from it.

## Main definitions

* `Resource`: The collections that can be written.
* `Resource.collection`: The collection's name.
* `Resource.createForm`, `Resource.updateForm`: The forms.
-/

namespace Registrar

/-- The collections whose records can be created and changed. -/
inductive Resource
  | groups
  | users
  | projects
  | notes
  | submitNodes
  deriving DecidableEq, Repr

namespace Resource

/-- The name of the collection. -/
def collection : Resource → String
  | groups => Collection.groups
  | users => Collection.users
  | projects => Collection.projects
  | notes => Collection.notes
  | submitNodes => Collection.submitNodes

/-- A text that has to be given. -/
def requiredText (name : String) : FormField := ⟨name, .text, .required⟩

/-- A text that may be left out. -/
def optionalText (name : String) : FormField := ⟨name, .text, .optional⟩

/-- An integer that may be left out. -/
def optionalInteger (name : String) : FormField := ⟨name, .integer, .optional⟩

/-- A flag that may be left out. -/
def optionalFlag (name : String) : FormField := ⟨name, .flag, .optional⟩

/-- The fields of the form for creating a record, in their order. -/
def createFields : Resource → List FormField
  | groups =>
    [requiredText "name", optionalText "point_of_contact", optionalInteger "unix_gid",
     optionalFlag "has_groupdir"]
  | users =>
    [requiredText "email1", optionalText "username", optionalText "name", optionalText "email2",
     optionalText "netid", optionalText "netid_exp_datetime", optionalText "phone1",
     optionalText "phone2", optionalFlag "is_admin", optionalFlag "active", optionalText "date",
     optionalInteger "unix_uid", optionalText "position"]
  | projects =>
    [requiredText "name", requiredText "accounting_group", optionalInteger "pi",
     optionalText "staff1", optionalText "staff2", optionalText "status", optionalText "access",
     optionalText "url", optionalText "date", optionalInteger "ticket",
     optionalText "last_contact"]
  | notes =>
    [requiredText "note", optionalText "ticket", optionalText "author", optionalText "date"]
  | submitNodes => [requiredText "name"]

/-- The fields of the form for changing a user. The email address comes after the
    name here. -/
def userUpdateFields : List FormField :=
  [optionalText "username", optionalText "name", optionalText "email1", optionalText "email2",
   optionalText "netid", optionalText "netid_exp_datetime", optionalText "phone1",
   optionalText "phone2", optionalFlag "is_admin", optionalFlag "active", optionalText "date",
   optionalInteger "unix_uid", optionalText "position"]

/-- The fields of the form for changing a record, in their order. -/
def updateFields (resource : Resource) : List FormField :=
  let fields := match resource with
    | users => userUpdateFields
    | resource => resource.createFields
  fields.map fun field => { field with presence := .clearable }

/-- The rules that both forms obey, in the order in which they are looked at. -/
def rules : Resource → List Rule
  | groups => [.required "name", .text "name" .groupName]
  | users =>
    [.required "email1", .text "email1" .email, .text "email2" .email, .text "name" .userName,
     .text "position" .position]
  | projects => [.required "name", .required "accounting_group"]
  | notes => [.required "note", .text "ticket" .ticket]
  | submitNodes => [.required "name"]

/-- The form for creating a record. -/
def createForm (resource : Resource) : Form :=
  ⟨resource.createFields, resource.rules⟩

/-- The form for changing a record. -/
def updateForm (resource : Resource) : Form :=
  ⟨resource.updateFields, resource.rules⟩

end Resource

end Registrar
