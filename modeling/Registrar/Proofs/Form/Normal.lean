import Registrar.Proofs.Form.Members

/-!
# What a Filled Form Would Write

A payload says what is to be written and, apart from that, what is wrong with it. Whatever is
wrong, there is a record that it would write: its members, with null for the empty string. The
record is written just if there is no complaint, because the members of a form's payload are
columns of the table, so nothing else can be in the way.

Rules look at the entries of a form, and the record is made of what these entries write. Each
column can be traced to its entry, and each entry is one that its field admits, whether the
body was an object or an array.

## Main definitions

* `Payload.normal`: What would be written for a payload.
* `FormField.Admits`: An entry is one that a field can have.

## Theorems

* `Resource.record_eq`: The record is written if there is no complaint.
* `Form.get?_normal`: A column of the record comes from the entry under its name.
* `Form.admits_of_decode`: The entries of a body are such as the fields admit.
-/

namespace Registrar

open Json (Decoder Document Problem Tree)

namespace Payload

/-- What would be written for a payload if nothing was checked: its members, with null for the
    empty string. -/
def normal (payload : Payload) : Record :=
  match payload.document with
  | .object members => (Sorted.ofList members).mapValues blankToNull
  | _ => Sorted.empty

/-- A payload with a complaint is refused for it. -/
theorem record_of_complaint {table : Table} {payload : Payload} {reason : String}
    (h : payload.complaint = some reason) :
    payload.record table = .error (.validationFailure reason) := by
  rw [record, h]

/-- A payload that fits is written. -/
theorem record_eq_normal {table : Table} {payload : Payload} (h : payload.Fits table) :
    payload.record table = .ok payload.normal := by
  rcases h.members with ⟨members, hdocument, -⟩
  rw [record_eq_of_fits h hdocument, normal, hdocument]

/-- A payload that fits unless there is a complaint is refused for the complaint, and is
    written if there is none. -/
theorem record_eq_of_imp {table : Table} {payload : Payload}
    (h : payload.complaint = none → payload.Fits table) :
    payload.record table = match payload.complaint with
      | some reason => .error (.validationFailure reason)
      | none => .ok payload.normal := by
  cases hcomplaint : payload.complaint with
  | some reason => exact record_of_complaint hcomplaint
  | none => exact record_eq_normal (h hcomplaint)

/-- So it is written just if there is no complaint. -/
theorem written_iff_of_imp {table : Table} {payload : Payload}
    (h : payload.complaint = none → payload.Fits table) :
    ((∃ record, payload.record table = .ok record) ↔ payload.complaint = none) ∧
      ∀ record, payload.record table = .ok record → record = payload.normal := by
  rw [record_eq_of_imp h]
  cases payload.complaint with
  | some reason => exact ⟨iff_of_false nofun nofun, nofun⟩
  | none => exact ⟨iff_of_true ⟨_, rfl⟩ rfl, fun record hrecord => (Except.ok.inj hrecord).symm⟩

end Payload

/-- What a body for a resource writes is refused for the first complaint about it, and is
    written if there is none. -/
theorem Resource.record_eq {resource : Resource} {form : Form} {listed : Listed} {room : Nat}
    {tree : Tree} {payload : Payload}
    (hform : form = resource.createForm ∨ form = resource.updateForm)
    (hlisted : Catalog.builtin.find resource.collection = .ok listed)
    (h : form.decodePayload room tree = .ok payload) :
    payload.record listed.table = match payload.complaint with
      | some reason => .error (.validationFailure reason)
      | none => .ok payload.normal :=
  Payload.record_eq_of_imp fun haccepted => fits_of_form hform hlisted h haccepted

namespace Filled

variable {filled : Filled}

/-- A field that was not left out has one entry. -/
theorem entry_eq_iff (hdistinct : (filled.map Prod.fst).Nodup) {name : String} {entry : Entry}
    (hgiven : entry ≠ .missing) : filled.entry name = entry ↔ (name, entry) ∈ filled := by
  rw [Filled.entry, ← lookup_eq_some_iff_mem hdistinct]
  cases filled.lookup name with
  | none => simpa using hgiven.symm
  | some found => simp

/-- What is written under a name comes from the entry of that name. -/
theorem exists_written_iff (hdistinct : (filled.map Prod.fst).Nodup) {name : String}
    {value : Document} :
    (∃ entry, (name, entry) ∈ filled ∧ entry.document? = some value) ↔
      (filled.entry name).document? = some value := by
  have hgiven : ∀ entry : Entry, entry.document? = some value → entry ≠ .missing := by
    rintro entry hdocument rfl
    cases hdocument
  -- An entry that writes something was not left out, so it is the only one of its name.
  constructor
  · rintro ⟨entry, hmem, hdocument⟩
    rw [(entry_eq_iff hdistinct (hgiven entry hdocument)).2 hmem]
    exact hdocument
  · intro hdocument
    exact ⟨_, (entry_eq_iff hdistinct (hgiven _ hdocument)).1 rfl, hdocument⟩

end Filled

namespace Form

/-- A column of what would be written comes from the entry under its name. -/
theorem get?_normal {form : Form} {filled : Filled} (hdistinct : (filled.map Prod.fst).Nodup)
    (name : String) :
    (form.payload filled).normal.get? name =
      (filled.entry name).document?.map Payload.blankToNull := by
  have hwritten : (Sorted.ofList (Sorted.ofList (filled.filterMap fun member =>
      member.2.document?.map fun document => (member.1, document))).entries).get? name =
        (filled.entry name).document? := by
    refine Option.ext fun value => ?_
    rw [Sorted.get?_eq_some_iff, mem_written hdistinct, Filled.exists_written_iff hdistinct]
  rw [← hwritten]
  exact Sorted.get?_mapValues _ _ _

/-- There is a complaint if some rule makes one. -/
theorem complaint?_eq_none_iff {form : Form} {filled : Filled} :
    form.complaint? filled = none ↔ ∀ rule ∈ form.rules, rule.complaint? filled = none :=
  List.findSome?_eq_none_iff

end Form

/-- An empty text obeys all rules on texts. -/
theorem TextRule.complaint?_empty (field : String) (rule : TextRule) :
    rule.complaint? field "" = none := by
  cases rule <;> rfl

/-- An entry is one that a field can have: a value of its kind, or none if the field may be
    missing or cleared. -/
def FormField.Admits (field : FormField) : Entry → Prop
  | .missing => field.presence ≠ .required
  | .cleared => field.presence = .clearable
  | .given value => value.IsOf field.kind

namespace FormField

/-- A field reads only what it admits, and falls back on nothing else. -/
theorem admits_of_yields {field : FormField} {entry : Entry} (h : field.decoder.Yields entry) :
    field.Admits entry := by
  rw [decoder] at h
  have hgiven : ∀ {room tree scalar}, field.kind.decode room tree = .ok scalar →
      field.Admits (.given scalar) :=
    fun hscalar => (FieldKind.decode_eq_ok_iff.1 hscalar).2
  cases hpresence : field.presence with
  | required =>
      rw [hpresence] at h
      rcases h with ⟨room, tree, hdecode⟩ | hfallback
      · rcases map_eq_ok_iff.1 hdecode with ⟨scalar, hscalar, rfl⟩
        exact hgiven hscalar
      · cases hfallback
  | optional | clearable =>
      rw [hpresence] at h
      have hmissing : field.Admits .missing := by
        rw [Admits, hpresence]
        exact Presence.noConfusion
      rcases h with ⟨room, tree, hdecode⟩ | hfallback
      · rcases nullableEntry_cases hdecode with ⟨-, rfl⟩ | ⟨scalar, hscalar, rfl⟩
        · -- A `null` counts as left out, or clears the field if it can be cleared.
          first
            | exact hmissing
            | exact hpresence
        · exact hgiven hscalar
      · cases hfallback
        exact hmissing

end FormField

namespace Form

/-- Values that come out field by field are found beside the names of the fields. -/
theorem exists_mem_zip {fields : List FormField} {entries : List Entry}
    (h : List.Forall₂ FormField.Admits fields entries) {field : FormField}
    (hfield : field ∈ fields) :
    ∃ entry, (field.name, entry) ∈ (fields.map FormField.name).zip entries ∧
      field.Admits entry := by
  induction h with
  | nil => exact absurd hfield List.not_mem_nil
  | cons hown _ ih =>
      rcases List.mem_cons.1 hfield with rfl | hfield
      · exact ⟨_, List.mem_cons_self, hown⟩
      · exact (ih hfield).imp fun _ hentry => hentry.imp_left (List.mem_cons_of_mem _)

/-- The entries of a body are under the names of the fields, and each is one that its field
    admits. -/
theorem admits_of_decode {form : Form} {room : Nat} {tree : Tree} {filled : Filled}
    (hdistinct : (form.fields.map FormField.name).Nodup) (h : form.decode room tree = .ok filled) :
    filled.map Prod.fst = form.fields.map FormField.name ∧
      ∀ field ∈ form.fields, field.Admits (filled.entry field.name) := by
  rcases map_eq_ok_iff.1 h with ⟨entries, hentries, rfl⟩
  have hyields : List.Forall₂ FormField.Admits form.fields entries := by
    -- The decoders of the fields have the names of the fields.
    rw [← FormField.names_decoder] at hdistinct
    refine (List.forall₂_map_left_iff.1 (Decoder.yields_record hdistinct hentries)).imp ?_
    exact fun _ _ => FormField.admits_of_yields
  have hnames : ((form.fields.map FormField.name).zip entries).map Prod.fst =
      form.fields.map FormField.name := by
    refine List.map_fst_zip (Nat.le_of_eq ?_)
    rw [List.length_map, hyields.length_eq]
  refine ⟨hnames, fun field hfield => ?_⟩
  rcases exists_mem_zip hyields hfield with ⟨entry, hmem, hadmits⟩
  have hfound := (lookup_eq_some_iff_mem (hnames.symm ▸ hdistinct)).2 hmem
  rw [Filled.entry, hfound]
  exact hadmits

end Form

end Registrar
