import Registrar.Proofs.Form.Fits
import Registrar.Proofs.Json.Decoded
import Registrar.Proofs.Record.Assigned

/-!
# What Becomes of the Members of a Body

A body that is an object and the record that is written for it, put side by side. A
member is written if the form has a field of its name, under that name and with the value
that it has in the body, except that the empty string is written as null. A field without
a member is not written, so its column is left alone; and whether `null` is written
depends on the form: changing a record it clears the column, creating one it is the same
as nothing.

A column is set by an update just if it is in the record, so what the body says and what
the statement does agree field by field.

## Main definitions

* `Scalar.IsOf`: A value is of the kind that a field takes.
* `Form.Gives`: A body gives a value for a field of a form.

## Theorems

* `FieldKind.decode_eq_ok_iff`: A field takes the values of its kind, as they are.
* `FormField.document_of_decode`: What is written for a member that was read.
* `Form.mem_filled`: What a filled form writes.
* `Form.record_of_object`: The record of a body.
* `Record.update?_cases`: An update sets the columns of its record.
* `Resource.record_of_body`: The records and the updates of all resources.
-/

namespace Registrar

open Json (Decoder Document Tree StringLexeme)

/-- A value is of the kind that a field takes. Integers have 64 bits. -/
def Scalar.IsOf (kind : FieldKind) : Scalar → Prop
  | text _ => kind = .text
  | integer n => kind = .integer ∧ -9223372036854775808 ≤ n ∧ n ≤ 9223372036854775807
  | flag _ => kind = .flag

theorem Scalar.document_ne_null (scalar : Scalar) : scalar.document ≠ .null := by
  cases scalar <;> exact nofun

/-- A field takes the values of its kind and no others, and takes them as they are. -/
theorem FieldKind.decode_eq_ok_iff {kind : FieldKind} {room : Nat} {tree : Tree}
    {scalar : Scalar} : kind.decode room tree = .ok scalar ↔
      Decoder.document 0 tree = .ok scalar.document ∧ scalar.IsOf kind := by
  cases kind with
  | text =>
      rw [decode, Decoder.map, map_eq_ok_iff]
      constructor
      · rintro ⟨value, hvalue, rfl⟩
        exact ⟨Decoder.text_eq_ok_iff.1 hvalue, rfl⟩
      · rintro ⟨hdocument, hkind⟩
        -- A value of this kind is no other scalar.
        cases scalar with
        | text value => exact ⟨value, Decoder.text_eq_ok_iff.2 hdocument, rfl⟩
        | integer => cases hkind.1
        | flag => cases hkind
  | integer =>
      rw [decode, Decoder.map, map_eq_ok_iff]
      constructor
      · rintro ⟨value, hvalue, rfl⟩
        rcases Decoder.int64_eq_ok_iff.1 hvalue with ⟨hdocument, hrange⟩
        exact ⟨hdocument, rfl, hrange⟩
      · rintro ⟨hdocument, hkind⟩
        cases scalar with
        | integer value => exact ⟨value, Decoder.int64_eq_ok_iff.2 ⟨hdocument, hkind.2⟩, rfl⟩
        | text | flag => cases hkind
  | flag =>
      rw [decode, Decoder.map, map_eq_ok_iff]
      constructor
      · rintro ⟨value, hvalue, rfl⟩
        exact ⟨Decoder.flag_eq_ok_iff.1 hvalue, rfl⟩
      · rintro ⟨hdocument, hkind⟩
        cases scalar with
        | flag value => exact ⟨value, Decoder.flag_eq_ok_iff.2 hdocument, rfl⟩
        | integer => cases hkind.1
        | text => cases hkind

namespace FormField

theorem name_decoder (field : FormField) : field.decoder.name = field.name := by
  rw [decoder]
  cases field.presence <;> rfl

theorem names_decoder (fields : List FormField) :
    (fields.map decoder).map Decoder.Field.name = fields.map FormField.name := by
  rw [List.map_map]
  exact List.map_congr_left fun field _ => field.name_decoder

/-- A field that was left out writes nothing. -/
theorem document_of_fallback {field : FormField} {entry : Entry}
    (h : field.decoder.fallback = some entry) : entry.document? = none := by
  rw [decoder] at h
  cases hpresence : field.presence with
  | required =>
      rw [hpresence] at h
      exact nomatch h
  | optional | clearable =>
      rw [hpresence] at h
      cases h
      rfl

/-- A value that was given is written as it is. -/
theorem document_of_given {kind : FieldKind} {room : Nat} {tree : Tree} {scalar : Scalar}
    (h : kind.decode room tree = .ok scalar) (clears : Prop) :
    ∃ value, Decoder.document 0 tree = .ok value ∧ ∀ document,
      (Entry.given scalar).document? = some document ↔
        document = value ∧ (value = .null → clears) := by
  refine ⟨_, (FieldKind.decode_eq_ok_iff.1 h).1, fun document => ?_⟩
  rw [Entry.document?, Option.some.injEq, eq_comm]
  exact ⟨fun hsame => ⟨hsame, fun hnull => absurd hnull scalar.document_ne_null⟩, And.left⟩

theorem nullableEntry_cases {kind : FieldKind} {null entry : Entry} {room : Nat} {tree : Tree}
    (h : nullableEntry kind null room tree = .ok entry) :
    (tree = .null ∧ entry = null) ∨
      ∃ scalar, kind.decode room tree = .ok scalar ∧ entry = .given scalar := by
  rcases map_eq_ok_iff.1 h with ⟨value, hvalue, rfl⟩
  cases tree with
  | null =>
      cases hvalue
      exact Or.inl ⟨rfl, rfl⟩
  | broken | bool | number | string | array | object =>
      rcases map_eq_ok_iff.1 hvalue with ⟨scalar, hscalar, rfl⟩
      exact Or.inr ⟨scalar, hscalar, rfl⟩

/-- What is written for a member that was read: its value, and `null` only for a field that
    can be cleared. -/
theorem document_of_decode {field : FormField} {room : Nat} {tree : Tree} {entry : Entry}
    (h : field.decoder.decode room tree = .ok entry) :
    ∃ value, Decoder.document 0 tree = .ok value ∧ ∀ document,
      entry.document? = some document ↔
        document = value ∧ (value = .null → field.presence = .clearable) := by
  rw [decoder] at h
  -- Where `null` is admitted it is tried before the value.
  cases hpresence : field.presence with
  | required =>
      rw [hpresence] at h
      rcases map_eq_ok_iff.1 h with ⟨scalar, hscalar, rfl⟩
      exact document_of_given hscalar _
  | optional =>
      rw [hpresence] at h
      rcases nullableEntry_cases h with ⟨rfl, rfl⟩ | ⟨scalar, hscalar, rfl⟩
      · exact ⟨.null, rfl, fun document => ⟨nofun, fun hwritten => nomatch hwritten.2 rfl⟩⟩
      · exact document_of_given hscalar _
  | clearable =>
      rw [hpresence] at h
      rcases nullableEntry_cases h with ⟨rfl, rfl⟩ | ⟨scalar, hscalar, rfl⟩
      · refine ⟨.null, rfl, fun document => ?_⟩
        rw [Entry.document?, Option.some.injEq, eq_comm]
        exact ⟨fun hsame => ⟨hsame, fun _ => rfl⟩, And.left⟩
      · exact document_of_given hscalar _

end FormField

namespace Form

variable {form : Form} {room : Nat} {members : List (StringLexeme × Tree)} {closed : Bool}
  {payload : Payload} {table : Table}

/-- A body gives a value for a field of a form: it has a member of the field's name with
    that value, which has no parts. -/
def Gives (form : Form) (members : List (StringLexeme × Tree)) (name : String)
    (value : Document) : Prop :=
  name ∈ form.fields.map FormField.name ∧ ∃ key tree, (key, tree) ∈ members ∧
    key.value? = some name ∧ Decoder.document 0 tree = .ok value

/-- A field of a form is one that can be cleared. -/
def Clears (form : Form) (name : String) : Prop :=
  ∃ field ∈ form.fields, field.name = name ∧ field.presence = .clearable

/-- A field is found by its name. -/
theorem find?_decoder {fields : List FormField} (hdistinct : (fields.map FormField.name).Nodup)
    {field : FormField} (hfield : field ∈ fields) :
    ((fields.map FormField.decoder).find? fun other => other.name = field.name) =
      some field.decoder := by
  rw [← FormField.names_decoder] at hdistinct
  rw [← field.name_decoder]
  exact Decoder.find?_name_of_mem hdistinct (List.mem_map_of_mem hfield)

/-- If a value is null, the field to look at is the one that can be cleared. -/
theorem exists_field {name : String} {value : Document}
    (hname : name ∈ form.fields.map FormField.name) (hnull : value = .null → form.Clears name) :
    ∃ field ∈ form.fields, field.name = name ∧
      (value = .null → field.presence = .clearable) := by
  by_cases hsame : value = .null
  · rcases hnull hsame with ⟨field, hfield, hown, hclearable⟩
    exact ⟨field, hfield, hown, fun _ => hclearable⟩
  · rcases List.mem_map.1 hname with ⟨field, hfield, hown⟩
    exact ⟨field, hfield, hown, fun hnot => absurd hnot hsame⟩

/-- What a filled form writes: the values that the body gives for its fields, where `null`
    counts only if the field can be cleared. -/
theorem mem_filled (hdistinct : (form.fields.map FormField.name).Nodup)
    {filled : Filled} (h : form.decode room (.object members closed) = .ok filled) :
    (filled.map Prod.fst).Nodup ∧ ∀ name document,
      (∃ entry, (name, entry) ∈ filled ∧ entry.document? = some document) ↔
        form.Gives members name document ∧ (document = .null → form.Clears name) := by
  rcases map_eq_ok_iff.1 h with ⟨entries, hentries, rfl⟩
  rcases Decoder.mem_record hentries with ⟨hlength, inside, -, hmem, hread⟩
  rw [FormField.names_decoder] at hmem
  rw [List.length_map] at hlength
  refine ⟨?_, fun name document => ⟨?_, ?_⟩⟩
  · have hsame : (form.fields.map FormField.name).length = entries.length := by
      rw [List.length_map, hlength]
    rw [List.map_fst_zip (Nat.le_of_eq hsame)]
    exact hdistinct
  · rintro ⟨entry, hentry, hdocument⟩
    rcases (hmem name entry).1 hentry with
      ⟨key, tree, decoder, hmember, hkey, hfind, hdecode⟩ | ⟨-, decoder, hdecoder, -, hfallback⟩
    · rcases Decoder.of_find?_name hfind with ⟨hown, hname⟩
      rcases List.mem_map.1 hown with ⟨field, hfield, rfl⟩
      rw [field.name_decoder] at hname
      rcases FormField.document_of_decode hdecode with ⟨value, hvalue, hwritten⟩
      rcases (hwritten document).1 hdocument with ⟨rfl, hnull⟩
      exact ⟨⟨List.mem_map.2 ⟨field, hfield, hname⟩, key, tree, hmember, hkey, hvalue⟩,
        fun hsame => ⟨field, hfield, hname, hnull hsame⟩⟩
    · -- A field that was left out is not written.
      rcases List.mem_map.1 hdecoder with ⟨field, -, rfl⟩
      rw [FormField.document_of_fallback hfallback] at hdocument
      exact nomatch hdocument
  · rintro ⟨⟨hname, key, tree, hmember, hkey, hvalue⟩, hnull⟩
    rcases exists_field hname hnull with ⟨field, hfield, rfl, hclears⟩
    have hfind := find?_decoder hdistinct hfield
    rcases hread key tree field.name field.decoder hmember hkey hfind with ⟨entry, hdecode⟩
    rcases FormField.document_of_decode hdecode with ⟨value', hvalue', hwritten⟩
    -- The member was read twice, as the field's value and as a document.
    cases hvalue.symm.trans hvalue'
    exact ⟨entry, (hmem _ _).2 (Or.inl ⟨key, tree, field.decoder, hmember, hkey, hfind, hdecode⟩),
      (hwritten document).2 ⟨rfl, hclears⟩⟩

/-- What a filled form writes has distinct names, because its fields have. -/
theorem nodup_written {filled : Filled} (h : (filled.map Prod.fst).Nodup) :
    ((filled.filterMap fun member => member.2.document?.map fun document =>
      (member.1, document)).map Prod.fst).Nodup := by
  refine List.pairwise_map.2 ((List.pairwise_map.1 h).filterMap _ ?_)
  rintro first second hne _ hfirst _ hsecond
  rcases Option.map_eq_some_iff.1 hfirst with ⟨_, -, rfl⟩
  rcases Option.map_eq_some_iff.1 hsecond with ⟨_, -, rfl⟩
  exact hne

/-- The members are sorted twice, once as a document and once as a record, and none of them
    is lost on the way. -/
theorem mem_written {filled : Filled} (h : (filled.map Prod.fst).Nodup) {name : String}
    {value : Document} :
    (name, value) ∈ (Sorted.ofList (Sorted.ofList
      (filled.filterMap fun member => member.2.document?.map fun document =>
        (member.1, document))).entries).entries ↔
      ∃ entry, (name, entry) ∈ filled ∧ entry.document? = some value := by
  constructor
  · intro hmem
    rcases List.mem_filterMap.1 (Sorted.mem_ofList (Sorted.mem_ofList hmem)) with
      ⟨⟨own, entry⟩, hentry, hsome⟩
    rcases Option.map_eq_some_iff.1 hsome with ⟨document, hdocument, hsame⟩
    cases hsame
    exact ⟨entry, hentry, hdocument⟩
  · rintro ⟨entry, hentry, hdocument⟩
    refine Sorted.mem_ofList_of_nodup (Sorted.names_nodup _)
      (Sorted.mem_ofList_of_nodup (nodup_written h) ?_)
    refine List.mem_filterMap.2 ⟨(name, entry), hentry, ?_⟩
    rw [hdocument]
    rfl

/-- The record of a body that decodes and is accepted: the values that the body gives for
    the form's fields, with null for the empty string. -/
theorem record_of_object (hdistinct : (form.fields.map FormField.name).Nodup)
    (htable : Catalog.hasColumns (form.fields.map FormField.name) table)
    (h : form.decodePayload room (.object members closed) = .ok payload)
    (haccepted : payload.complaint = none) :
    ∃ record, payload.record table = .ok record ∧ ∀ name document,
      (name, document) ∈ record.entries ↔ ∃ value, form.Gives members name value ∧
        (value = .null → form.Clears name) ∧ document = Payload.blankToNull value := by
  have hfits := fits_of_decode h haccepted htable
  rcases map_eq_ok_iff.1 h with ⟨filled, hfilled, rfl⟩
  rcases mem_filled hdistinct hfilled with ⟨hnames, hwritten⟩
  refine ⟨_, Payload.record_eq_of_fits hfits rfl, fun name document => ?_⟩
  constructor
  · intro hmem
    rcases List.mem_map.1 hmem with ⟨⟨own, value⟩, hvalue, hsame⟩
    cases hsame
    rcases (hwritten own value).1 ((mem_written hnames).1 hvalue) with ⟨hgives, hclears⟩
    exact ⟨value, hgives, hclears, rfl⟩
  · rintro ⟨value, hgives, hclears, rfl⟩
    have hvalue := (mem_written hnames).2 ((hwritten name value).2 ⟨hgives, hclears⟩)
    exact List.mem_map.2 ⟨(name, value), hvalue, rfl⟩

end Form

namespace Record

open Sql

variable {catalog : Catalog} {collection : String} {listed : Listed} {record : Record}

/-- If all members of a record are columns, all of them are assigned. -/
theorem assigns_iff_mem (hcolumns : ∀ name ∈ record.names, (listed.table.column? name).isSome)
    {column : String} : record.Assigns listed column ↔ column ∈ record.names :=
  and_iff_right_of_imp (hcolumns column)

/-- An update sets the columns of its record, each to what the record has for it, and
    there is none for a record without members. -/
theorem update?_cases (hlisted : catalog.find collection = .ok listed)
    (hcolumns : ∀ name ∈ record.names, (listed.table.column? name).isSome) (id : Int) :
    (record.entries = [] ∧ update? catalog collection id record = .ok none) ∨
    (record.entries ≠ [] ∧ ∃ update, update? catalog collection id record = .ok (some update) ∧
      update.source = some (unfolded listed record) ∧ ∀ column expr,
        (column, expr) ∈ update.set.entries ↔
          column ∈ record.names ∧ expr = payloadColumn column) := by
  rcases exists_update? hlisted id record with ⟨update, hupdate, hnone⟩
  have hnames : update = none ↔ record.entries = [] := by
    rw [hnone, ← List.map_eq_nil_iff, List.eq_nil_iff_forall_not_mem]
    exact forall_congr' fun column => not_congr (assigns_iff_mem hcolumns)
  cases update with
  | none => exact Or.inl ⟨hnames.1 rfl, hupdate⟩
  | some update =>
      have hlists := lists_update? hlisted hupdate
      refine Or.inr ⟨mt hnames.2 (Option.some_ne_none _), update, hupdate, hlists.source,
        fun column expr => ?_⟩
      rw [← assigns_iff_mem hcolumns, ← Sorted.get?_eq_some_iff]
      -- A column that is set is assigned, and so has the value that it lists.
      constructor
      · intro hexpr
        have hassigns := (hlists.complete column).1
          (Sorted.mem_names_of_mem (Sorted.get?_eq_some_iff.1 hexpr))
        cases (hlists.values column hassigns).symm.trans hexpr
        exact ⟨hassigns, rfl⟩
      · rintro ⟨hassigns, rfl⟩
        exact hlists.values column hassigns

end Record

namespace Resource

/-- The forms of a resource have distinct fields, all of them columns of its table and none
    of them its primary key. -/
theorem fields_of_form {resource : Resource} {form : Form}
    (hform : form = resource.createForm ∨ form = resource.updateForm) :
    (form.fields.map FormField.name).Nodup ∧ ∃ listed,
      Catalog.builtin.find resource.collection = .ok listed ∧
      Catalog.hasColumns (form.fields.map FormField.name) listed.table ∧
      ∀ name ∈ form.fields.map FormField.name, name ≠ listed.table.primaryKey := by
  rcases hform with rfl | rfl
  · cases resource <;>
      exact ⟨by decide +kernel, _, rfl, by decide +kernel, by decide +kernel⟩
  · cases resource <;>
      exact ⟨by decide +kernel, _, rfl, by decide +kernel, by decide +kernel⟩

/-- No body has a word about the primary key, so no record does. -/
theorem primaryKey_not_mem_of_form {resource : Resource} {form : Form}
    (hform : form = resource.createForm ∨ form = resource.updateForm) {listed : Listed}
    (hlisted : Catalog.builtin.find resource.collection = .ok listed) {room : Nat} {tree : Tree}
    {payload : Payload} (h : form.decodePayload room tree = .ok payload) {record : Record}
    (hrecord : payload.record listed.table = .ok record) :
    listed.table.primaryKey ∉ record.names := by
  rcases fields_of_form hform with ⟨-, found, hfound, -, hprimary⟩
  cases hlisted.symm.trans hfound
  exact fun hmem => hprimary _ (Form.names_of_record h hrecord _ hmem) rfl

theorem clears_updateForm {resource : Resource} {name : String}
    (h : name ∈ resource.updateForm.fields.map FormField.name) :
    resource.updateForm.Clears name := by
  rcases List.mem_map.1 h with ⟨field, hfield, rfl⟩
  rcases List.mem_map.1 hfield with ⟨original, -, rfl⟩
  exact ⟨_, hfield, rfl, rfl⟩

theorem not_clears_createForm {resource : Resource} {name : String} :
    ¬resource.createForm.Clears name := by
  rintro ⟨field, hfield, -, hclearable⟩
  have hnone : ∀ field ∈ resource.createFields, field.presence ≠ .clearable := by
    cases resource <;> decide
  exact hnone field hfield hclearable

/-- The members of a record are columns of the table, and none is its primary key. -/
def Ordinary (table : Table) (record : Record) : Prop :=
  ∀ name ∈ record.names, (table.column? name).isSome ∧ name ≠ table.primaryKey

/-- The record of a body for a resource, whichever of the two forms it was read with. -/
theorem record_of_form {resource : Resource} {form : Form}
    (hform : form = resource.createForm ∨ form = resource.updateForm) {room : Nat}
    {members : List (StringLexeme × Tree)} {closed : Bool} {payload : Payload}
    (h : form.decodePayload room (.object members closed) = .ok payload)
    (haccepted : payload.complaint = none) :
    ∃ listed record, Catalog.builtin.find resource.collection = .ok listed ∧
      payload.record listed.table = .ok record ∧ Ordinary listed.table record ∧
      ∀ name document, (name, document) ∈ record.entries ↔
        ∃ value, form.Gives members name value ∧ (value = .null → form.Clears name) ∧
          document = Payload.blankToNull value := by
  rcases fields_of_form hform with ⟨hdistinct, listed, hlisted, hcolumns, hprimary⟩
  rcases Form.record_of_object hdistinct hcolumns h haccepted with ⟨record, hrecord, hmem⟩
  refine ⟨listed, record, hlisted, hrecord, fun name hname => ?_, hmem⟩
  rcases List.mem_map.1 hname with ⟨⟨own, document⟩, hentry, rfl⟩
  rcases (hmem own document).1 hentry with ⟨_, hgives, -⟩
  exact ⟨Catalog.column_of_hasColumns hcolumns hgives.1, hprimary own hgives.1⟩

/-- What the body says and what is written agree field by field, for all resources. The
    record for changing one holds the members of the body that are fields, as they are but
    with null for the empty string, and an update sets just the columns of these and is
    not made for none; the record for creating one holds the fields that are given and not
    null. In either case all of them are columns of the table, and none is the primary
    key. -/
theorem record_of_body (resource : Resource) (room : Nat)
    (members : List (StringLexeme × Tree)) (closed : Bool) (payload : Payload)
    (haccepted : payload.complaint = none) :
    (resource.updateForm.decodePayload room (.object members closed) = .ok payload →
      ∃ listed record, Catalog.builtin.find resource.collection = .ok listed ∧
        payload.record listed.table = .ok record ∧ Ordinary listed.table record ∧
        (∀ name document, (name, document) ∈ record.entries ↔
          ∃ value, resource.updateForm.Gives members name value ∧
            document = Payload.blankToNull value) ∧
        ∀ id,
          (record.entries = [] ∧
            Record.update? .builtin resource.collection id record = .ok none) ∨
          (record.entries ≠ [] ∧ ∃ update,
            Record.update? .builtin resource.collection id record = .ok (some update) ∧
            update.source = some (Record.unfolded listed record) ∧
            ∀ column expr, (column, expr) ∈ update.set.entries ↔
              column ∈ record.names ∧ expr = Record.payloadColumn column)) ∧
    (resource.createForm.decodePayload room (.object members closed) = .ok payload →
      ∃ listed record, Catalog.builtin.find resource.collection = .ok listed ∧
        payload.record listed.table = .ok record ∧ Ordinary listed.table record ∧
        ∀ name document, (name, document) ∈ record.entries ↔
          ∃ value, resource.createForm.Gives members name value ∧ value ≠ .null ∧
            document = Payload.blankToNull value) := by
  constructor
  · intro h
    rcases record_of_form (Or.inr rfl) h haccepted with
      ⟨listed, record, hlisted, hrecord, hordinary, hmem⟩
    refine ⟨listed, record, hlisted, hrecord, hordinary, fun name document => ?_,
      Record.update?_cases hlisted fun name hname => (hordinary name hname).1⟩
    rw [hmem]
    -- Every field of this form can be cleared.
    exact exists_congr fun value => and_congr_right fun hgives =>
      and_iff_right fun _ => clears_updateForm hgives.1
  · intro h
    rcases record_of_form (Or.inl rfl) h haccepted with
      ⟨listed, record, hlisted, hrecord, hordinary, hmem⟩
    refine ⟨listed, record, hlisted, hrecord, hordinary, fun name document => ?_⟩
    rw [hmem]
    -- And none of this one.
    refine exists_congr fun value => and_congr_right fun _ => and_congr_left fun _ => ?_
    exact ⟨fun hclears hnull => not_clears_createForm (hclears hnull),
      fun hne hnull => absurd hnull hne⟩

/-- A body that clears the contact of a group and gives it a number. -/
def clearing : List (StringLexeme × Tree) :=
  [("point_of_contact".toList.map .char, .null),
   ("unix_gid".toList.map .char, .number ⟨false, [5, 0, 0, 0], [], none⟩)]

/-- The contact is cleared, the number is set, and the name is left alone. -/
theorem record_of_body_clearing :
    ∃ payload table record,
      groups.updateForm.decodePayload 127 (.object clearing true) = .ok payload ∧
      payload.complaint = none ∧ payload.record table = .ok record ∧
      ("point_of_contact", .null) ∈ record.entries ∧
      ("unix_gid", .ofInt 5000) ∈ record.entries ∧
      ∀ document, ("name", document) ∉ record.entries := by
  have hdecoded : ∃ payload, groups.updateForm.decodePayload 127 (.object clearing true) =
      .ok payload ∧ payload.complaint = none := ⟨_, rfl, by decide +kernel⟩
  rcases hdecoded with ⟨payload, h, haccepted⟩
  rcases (record_of_body groups 127 clearing true payload haccepted).1 h with
    ⟨listed, record, -, hrecord, -, hmem, -⟩
  refine ⟨payload, listed.table, record, h, haccepted, hrecord, ?_, ?_, ?_⟩
  · exact (hmem _ _).2 ⟨.null, ⟨by decide, _, _, List.mem_cons_self, by decide, rfl⟩, rfl⟩
  · exact (hmem _ _).2 ⟨.ofInt 5000, ⟨by decide, _, _,
      List.mem_cons_of_mem _ List.mem_cons_self, by decide, rfl⟩, rfl⟩
  · intro document hname
    rcases (hmem _ _).1 hname with ⟨_, ⟨-, key, tree, hmember, hkey, -⟩, -⟩
    -- Neither member has that key.
    have hkeys : ∀ member ∈ clearing, member.1.value? ≠ some "name" := by decide
    exact hkeys _ hmember hkey

end Resource

end Registrar
