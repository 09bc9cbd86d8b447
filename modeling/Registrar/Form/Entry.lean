import Registrar.Json.Decoder

/-!
# Entries of a Form

A body is a form that was filled in: each of its fields holds a text, an integer
or a flag, or `null`, or it was left out. Leaving a field out and clearing it are
different things. When a record is changed, a field that was left out stays as it
is and a cleared one becomes null. When a record is created the two mean the same,
that the database fills in its default; `null` then counts as left out.

## Main definitions

* `Scalar`: What a field holds.
* `Entry`: Left out, cleared, or given.
* `FieldKind`, `Presence`: What a field takes, and whether it may be missing.
* `FormField`: A field of a form.
* `Filled`: The entries of a form, in the order of its fields.
-/

namespace Registrar

/-- What a field holds. -/
inductive Scalar
  | text (value : String)
  | integer (value : Int)
  | flag (value : Bool)
  deriving DecidableEq, Repr

/-- A value as a document. -/
def Scalar.document : Scalar → Json.Document
  | text value => .string value
  | integer value => .ofInt value
  | flag value => .bool value

/-- What became of a field: it was left out, cleared with `null`, or given. -/
inductive Entry
  | missing
  | cleared
  | given (value : Scalar)
  deriving DecidableEq, Repr

namespace Entry

/-- The text that an entry gives, if it gives one. -/
def text? : Entry → Option String
  | given (.text value) => some value
  | _ => none

/-- What an entry writes; one that was left out writes nothing. -/
def document? : Entry → Option Json.Document
  | missing => none
  | cleared => some .null
  | given value => some value.document

end Entry

/-- What kind of value a field takes. -/
inductive FieldKind
  | text
  | integer
  | flag
  deriving DecidableEq, Repr

/-- A value of a kind. Integers have 64 bits. -/
def FieldKind.decode : FieldKind → Json.Decoder Scalar
  | text => Json.Decoder.text.map .text
  | integer => Json.Decoder.int64.map .integer
  | flag => Json.Decoder.flag.map .flag

/-- Whether a field has to be given, may be left out, or may also be cleared. -/
inductive Presence
  | required
  | optional
  | clearable
  deriving DecidableEq, Repr

/-- A field of a form. -/
structure FormField where
  name : String
  kind : FieldKind
  presence : Presence
  deriving DecidableEq, Repr

namespace FormField

/-- The entry for a field that may be `null`. -/
def nullableEntry (kind : FieldKind) (null : Entry) : Json.Decoder Entry :=
  (Json.Decoder.nullable kind.decode).map fun value => (value.map Entry.given).getD null

/-- How a field is read from a body. -/
def decoder (field : FormField) : Json.Decoder.Field Entry :=
  match field.presence with
  | .required => ⟨field.name, field.kind.decode.map Entry.given, none⟩
  -- `null` is no value to keep: the database fills in its default.
  | .optional => ⟨field.name, nullableEntry field.kind .missing, some .missing⟩
  -- `null` is an order to clear the column.
  | .clearable => ⟨field.name, nullableEntry field.kind .cleared, some .missing⟩

end FormField

/-- The entries of a form under their fields' names, in the order of the fields. -/
abbrev Filled := List (String × Entry)

namespace Filled

/-- What became of a field. -/
def entry (filled : Filled) (name : String) : Entry :=
  (filled.lookup name).getD .missing

/-- What a form writes: every field that was not left out. -/
def document (filled : Filled) : Json.Document :=
  Json.Document.ofMembers (filled.filterMap fun member =>
    member.2.document?.map fun document => (member.1, document))

end Filled

end Registrar
