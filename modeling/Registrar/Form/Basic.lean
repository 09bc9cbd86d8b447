import Registrar.Form.Rule
import Registrar.Record.Payload

/-!
# Forms

A form says which fields a body has, in which order, and which rules they obey.
The rules are looked at in order and the first one that is broken is reported.

## Main definitions

* `Form`: Fields and rules.
* `Form.decode`: Fill in a form from a body.
* `Form.payload`: The payload that a filled form becomes.
-/

namespace Registrar

/-- The fields of a body, and the rules that they obey. -/
structure Form where
  fields : List FormField
  rules : List Rule
  deriving DecidableEq, Repr

namespace Form

/-- Fill in a form from a body. -/
def decode (form : Form) : Json.Decoder Filled :=
  (Json.Decoder.record (form.fields.map FormField.decoder)).map fun entries =>
    (form.fields.map FormField.name).zip entries

/-- The first rule that a filled form breaks. -/
def complaint? (form : Form) (filled : Filled) : Option String :=
  form.rules.findSome? fun rule => rule.complaint? filled

/-- The payload that a filled form becomes. -/
def payload (form : Form) (filled : Filled) : Payload :=
  ⟨filled.document, form.complaint? filled⟩

/-- Read a body into the payload that it becomes. -/
def decodePayload (form : Form) : Json.Decoder Payload :=
  form.decode.map form.payload

end Form

end Registrar
