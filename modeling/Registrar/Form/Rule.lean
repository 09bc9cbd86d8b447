import Registrar.Form.Entry
import Registrar.Text.Blank
import Registrar.Text.Cut

/-!
# Rules of a Form

What a filled form has to obey before anything is sent to the database. The empty
text stands for no value throughout, so a required field may not be given as one,
and the rules on other texts leave it alone.

## Main definitions

* `TextRule`: What a text has to look like.
* `TextRule.complaint?`: What is wrong with a text.
* `Rule`: A field that is required, or whose text obeys a rule.
* `Rule.complaint?`: What is wrong with a filled form.
-/

namespace Registrar

/-- The positions that a user may hold. -/
def positions : List String :=
  ["SELECT", "FACULTY", "STAFF", "POSTDOC", "GRAD_STUDENT", "UNDERGRADUATE", "OTHER"]

/-- The roles that a member of a project may have. -/
def roles : List String := ["MEMBER", "PI"]

/-- How many characters the name of a group may have. -/
def maxGroupName : Nat := 32

/-- How many characters the number of a ticket may have. -/
def maxTicket : Nat := 9

/-- What a text has to look like. -/
inductive TextRule
  | groupName
  | userName
  | email
  | position
  | role
  | ticket
  deriving DecidableEq, Repr

namespace TextRule

/-- Whether a character may occur in the name of a group. -/
def isGroupNameChar (c : Char) : Bool :=
  c.isAlphanum || c = '_' || c = '-'

/-- A local part and a domain with one `@` between them, and no blanks. -/
def isEmail (text : List Char) : Bool :=
  match Text.cutAt? '@' text with
  | some (name, domain) =>
    !name.isEmpty && !domain.isEmpty && !domain.contains '@' && !text.any Text.isBlank
  | none => false

/-- A short run of ASCII letters and digits. -/
def isTicket (text : List Char) : Bool :=
  text.all Char.isAlphanum && text.length ≤ maxTicket

/-- One of several words. -/
def choiceComplaint? (field : String) (choices : List String) (text : String) : Option String :=
  if text = "" ∨ text ∈ choices then none
  else
    let listed := ", ".intercalate choices
    some s!"{field} must be one of {listed}, got '{text}'."

/-- What is wrong with the text of a field. -/
def complaint? (field text : String) : TextRule → Option String
  | groupName =>
    if !text.toList.all isGroupNameChar then
      some "Group name may only contain letters, digits, underscores and hyphens."
    else if maxGroupName < text.length then
      some s!"Group name must be at most {maxGroupName} characters long."
    else none
  | userName =>
    if text.toList.any fun c => c = ':' || c = ',' then
      some "Name cannot contain the characters ':' or ','."
    else none
  | email =>
    if text = "" ∨ isEmail text.toList then none
    else some s!"{field} is not a valid email address."
  | position => choiceComplaint? field positions text
  | role => choiceComplaint? field roles text
  | ticket =>
    if isTicket text.toList then none
    else some s!"Ticket numbers must be alphanumeric with {maxTicket} characters or less."

end TextRule

/-- What a filled form has to obey. -/
inductive Rule
  /-- The field holds a value, unless it was left out. -/
  | required (field : String)
  /-- The text of the field, if it gives one, obeys a rule. -/
  | text (field : String) (rule : TextRule)
  deriving DecidableEq, Repr

namespace Rule

/-- What is wrong with a filled form. -/
def complaint? (filled : Filled) : Rule → Option String
  | required field =>
    match filled.entry field with
    | .cleared | .given (.text "") => some s!"{field} is required."
    | _ => none
  | text field rule => (filled.entry field).text?.bind fun text => rule.complaint? field text

end Rule

end Registrar
