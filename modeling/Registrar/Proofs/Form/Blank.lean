import Registrar.Proofs.Form.Normal
import Registrar.Proofs.Json.Exchanged

/-!
# The Empty Text and `null`

An empty text stands for no value throughout, and so does `null`. The two take different ways,
though: `null` is settled when the body is decoded, the empty text only when the record is
made, after the rules have been checked and the fields that were left out have been dropped.

Where a record is changed, both ways end in the same place: the body with the empty text and the
body with `null` are refused for the same reason, or written alike. Where a record is created
they part. There `null` counts as left out, and the database fills in its default, while the
empty text becomes a null that is written in the default's place. So the record has one member
more and the insertion one column, and otherwise the two agree.

## Main definitions

* `Form.outcome`: What becomes of a body.
* `Surroundings`: A body apart from the value of one member.
* `Entry.blank`: The entry for an empty text.

## Theorems

* `Form.complaint?_exchange`: Rules do not tell an empty text from no value.
* `Form.decode_exchange`: Two bodies that differ in one member.
* `Resource.outcome_of_blank`: What an empty text does in place of `null`.
* `Resource.not_outcome_of_blank`: A body in which it makes a difference.
-/

namespace Registrar

open Json (Decoder Document Problem Tree StringLexeme)

/-- What becomes of a body: it does not decode, or it is refused, or a record is written. -/
def Form.outcome (form : Form) (table : Table) (room : Nat) (tree : Tree) :
    Except Problem (Except OperationError Record) :=
  (form.decodePayload room tree).map (Payload.record table)

/-- A body apart from the value of one member: the key of that member, and the members before
    and after it. -/
structure Surroundings where
  before : List (StringLexeme × Tree)
  key : StringLexeme
  after : List (StringLexeme × Tree)
  closed : Bool

/-- The body in which the member has a value. -/
def Surroundings.body (around : Surroundings) (value : Tree) : Tree :=
  .object (around.before ++ (around.key, value) :: around.after) around.closed

/-- The entry for a field that is given an empty text. -/
def Entry.blank : Entry := .given (.text "")

namespace Filled

variable {filled : Filled} {name : String}

theorem entry_exchange (hname : name ∈ filled.map Prod.fst) (entry : Entry) (other : String) :
    Filled.entry (exchange name entry filled) other =
      if other = name then entry else filled.entry other := by
  rw [Filled.entry, Filled.entry, lookup_exchange]
  cases hlookup : filled.lookup other with
  | some old =>
      simp only [Option.map_some, Option.getD_some]
  | none =>
      -- The name is not this one, which is there.
      have hother : other ≠ name := by
        rintro rfl
        exact lookup_eq_none_iff_not_mem.1 hlookup hname
      rw [if_neg hother]
      rfl

end Filled

/-- A rule does not tell an empty text from a field that was cleared, nor from one that was left
    out if the field is not required. -/
theorem Rule.complaint?_exchange {filled : Filled} {name : String} {rule : Rule}
    (hname : name ∈ filled.map Prod.fst)
    (hnull : filled.entry name = .cleared ∨
      filled.entry name = .missing ∧ rule ≠ .required name) :
    rule.complaint? (exchange name .blank filled) = rule.complaint? filled := by
  -- A rule looks at one field only, so nothing changes for the rules on others.
  cases rule with
  | required field =>
      rw [complaint?, complaint?, Filled.entry_exchange hname]
      by_cases hfield : field = name
      · rw [if_pos hfield, hfield]
        rcases hnull with hcleared | ⟨-, hrule⟩
        · rw [hcleared]
          rfl
        · exact absurd (congrArg _ hfield) hrule
      · rw [if_neg hfield]
  | text field rule =>
      rw [complaint?, complaint?, Filled.entry_exchange hname]
      by_cases hfield : field = name
      · rw [if_pos hfield, hfield]
        have hnone : (filled.entry name).text? = none := by
          rcases hnull with hcleared | ⟨hmissing, -⟩
          · rw [hcleared]
            rfl
          · rw [hmissing]
            rfl
        rw [hnone]
        exact rule.complaint?_empty name
      · rw [if_neg hfield]

namespace Form

variable {form : Form} {filled : Filled} {name : String}

theorem complaint?_exchange (hname : name ∈ filled.map Prod.fst)
    (hnull : filled.entry name = .cleared ∨
      filled.entry name = .missing ∧ Rule.required name ∉ form.rules) :
    form.complaint? (exchange name .blank filled) = form.complaint? filled := by
  have hrules : ∀ rule ∈ form.rules,
      rule.complaint? (exchange name .blank filled) = rule.complaint? filled := by
    intro rule hrule
    refine Rule.complaint?_exchange hname (hnull.imp_right fun hmissing => ?_)
    refine ⟨hmissing.1, ?_⟩
    rintro rfl
    exact hmissing.2 hrule
  -- The first complaint is the same, because each rule makes the same.
  rw [complaint?, complaint?]
  clear hnull
  generalize form.rules = rules at hrules
  induction rules with
  | nil => rfl
  | cons rule rest ih =>
      rcases List.forall_mem_cons.1 hrules with ⟨hrule, hrest⟩
      rw [List.findSome?_cons, List.findSome?_cons, hrule, ih hrest]

/-- What would be written with an empty text has a null under its name. -/
theorem normal_exchange (hdistinct : (filled.map Prod.fst).Nodup)
    (hname : name ∈ filled.map Prod.fst) :
    (form.payload (exchange name .blank filled)).normal =
      Sorted.insert (form.payload filled).normal name .null := by
  have hexchanged : ((exchange name Entry.blank filled).map Prod.fst).Nodup := by
    rw [names_exchange]
    exact hdistinct
  refine Sorted.eq_of_get? fun other => ?_
  rw [get?_normal hexchanged, Sorted.get?_insert, get?_normal hdistinct,
    Filled.entry_exchange hname]
  by_cases hother : other = name
  · rw [if_pos hother, if_pos hother]
    rfl
  · rw [if_neg hother, if_neg hother]

/-- Two bodies that differ in one member differ in one entry, or are refused alike. -/
theorem decode_exchange (hdistinct : (form.fields.map FormField.name).Nodup) {field : FormField}
    (hfield : field ∈ form.fields) {around : Surroundings}
    (hkey : around.key.value? = some field.name) {tree other : Tree} {entry otherEntry : Entry}
    (hentry : ∀ room, field.decoder.decode room tree = .ok entry)
    (hother : ∀ room, field.decoder.decode room other = .ok otherEntry) (room : Nat) :
    form.decode room (around.body other) =
      (form.decode room (around.body tree)).map (exchange field.name otherEntry) := by
  have hrecord := Decoder.record_exchange room around.before around.after around.closed hkey
    (find?_decoder hdistinct hfield) hentry hother
  rw [FormField.names_decoder] at hrecord
  rw [decode, Decoder.map, Decoder.map]
  refine hrecord.trans ?_
  rw [Surroundings.body]
  cases Decoder.record (form.fields.map FormField.decoder) room
    (.object (around.before ++ (around.key, tree) :: around.after) around.closed) <;> rfl

end Form

namespace Resource

variable {resource : Resource} {form : Form} {listed : Listed} {around : Surroundings}

/-- No rule asks for a field that may be left out. -/
theorem not_required_of_optional {field : FormField} (hfield : field ∈ resource.createForm.fields)
    (hoptional : field.presence = .optional) :
    Rule.required field.name ∉ resource.createForm.rules := by
  have hnone : ∀ field ∈ resource.createFields, field.presence = .optional →
      Rule.required field.name ∉ resource.rules := by
    cases resource <;> decide
  exact hnone field hfield hoptional

/-- With an empty text in place of `null` a body is refused for the same reason, or the record
    has a null under the name of the field. -/
theorem outcome_exchange (hform : form = resource.createForm ∨ form = resource.updateForm)
    (hlisted : Catalog.builtin.find resource.collection = .ok listed) {field : FormField}
    (hfield : field ∈ form.fields) (hkey : around.key.value? = some field.name) {null : Entry}
    (hread : ∀ room, field.decoder.decode room .null = .ok null)
    (hblank : ∀ room, field.decoder.decode room (.string []) = .ok .blank)
    (hnull : null = .cleared ∨ null = .missing ∧ Rule.required field.name ∉ form.rules)
    (room : Nat) :
    form.outcome listed.table room (around.body (.string [])) =
      (form.outcome listed.table room (around.body .null)).map
        (Except.map fun record => Sorted.insert record field.name .null) ∧
    ∀ record, form.outcome listed.table room (around.body .null) = .ok (.ok record) →
      record.get? field.name = null.document?.map Payload.blankToNull := by
  rcases fields_of_form hform with ⟨hdistinct, -⟩
  have hkept := Form.decode_exchange hdistinct hfield hkey hread hread room
  have hexchanged := Form.decode_exchange hdistinct hfield hkey hread hblank room
  cases hdecode : form.decode room (around.body .null) with
  | error problem =>
      rw [hdecode] at hexchanged
      rw [Form.outcome, Form.outcome, Form.decodePayload, Decoder.map, Decoder.map, hexchanged,
        hdecode]
      refine ⟨rfl, fun record hrecord => ?_⟩
      cases hrecord
  | ok filled =>
      rw [hdecode] at hexchanged hkept
      -- The entry under the name is what `null` was read as.
      have hfilled : filled = exchange field.name null filled := Except.ok.inj hkept
      have hnames := (Form.admits_of_decode hdistinct hdecode).1
      have hnodup : (filled.map Prod.fst).Nodup := hnames.symm ▸ hdistinct
      have hname : field.name ∈ filled.map Prod.fst := by
        rw [hnames]
        exact List.mem_map_of_mem hfield
      have hentry : filled.entry field.name = null := by
        rw [hfilled, Filled.entry_exchange hname, if_pos rfl]
      have hpayload : form.decodePayload room (around.body .null) = .ok (form.payload filled) := by
        rw [Form.decodePayload, Decoder.map, hdecode]
        rfl
      have hother : form.decodePayload room (around.body (.string [])) =
          .ok (form.payload (exchange field.name .blank filled)) := by
        rw [Form.decodePayload, Decoder.map, hexchanged]
        rfl
      have hcomplaint : (form.payload (exchange field.name .blank filled)).complaint =
          (form.payload filled).complaint := by
        refine Form.complaint?_exchange hname ?_
        rw [hentry]
        exact hnull
      rw [Form.outcome, Form.outcome, hpayload, hother]
      simp only [Except.map, record_eq hform hlisted hpayload, record_eq hform hlisted hother,
        hcomplaint, Form.normal_exchange hnodup hname]
      cases (form.payload filled).complaint with
      | some reason =>
          refine ⟨rfl, fun record hrecord => ?_⟩
          cases hrecord
      | none =>
          refine ⟨rfl, fun record hrecord => ?_⟩
          cases hrecord
          rw [Form.get?_normal hnodup, hentry]

/-- An insertion lists a column of the table just if the record has it. -/
theorem mem_columns_insert (hlisted : Catalog.builtin.find resource.collection = .ok listed)
    {name : String} (hcolumn : (listed.table.column? name).isSome) {record : Record}
    {insert : Sql.Insert}
    (h : Record.insert .builtin resource.collection record = .ok insert) :
    name ∈ insert.columns ↔ record.get? name ≠ none := by
  rw [(Record.lists_insert hlisted h).complete, Record.Assigns, and_iff_right hcolumn, Ne,
    Sorted.get?_eq_none_iff, Decidable.not_not]

/-- What an empty text does in place of `null`, for all resources, all fields that hold texts
    and all bodies. Where a record is changed it does the same. Where one is created, a body is
    refused for the same reason or the record has one member more, and then the insertion lists
    the column, which it does not for `null`. -/
theorem outcome_of_blank (resource : Resource) (listed : Listed)
    (hlisted : Catalog.builtin.find resource.collection = .ok listed) (around : Surroundings)
    (name : String) (hkey : around.key.value? = some name) (room : Nat) :
    (⟨name, .text, .clearable⟩ ∈ resource.updateForm.fields →
      resource.updateForm.outcome listed.table room (around.body (.string [])) =
        resource.updateForm.outcome listed.table room (around.body .null)) ∧
    (⟨name, .text, .optional⟩ ∈ resource.createForm.fields →
      resource.createForm.outcome listed.table room (around.body (.string [])) =
        (resource.createForm.outcome listed.table room (around.body .null)).map
          (Except.map fun record => Sorted.insert record name .null) ∧
      ∀ record, resource.createForm.outcome listed.table room (around.body .null) =
          .ok (.ok record) →
        (∀ insert, Record.insert .builtin resource.collection record = .ok insert →
          name ∉ insert.columns) ∧
        ∀ insert, Record.insert .builtin resource.collection (Sorted.insert record name .null) =
          .ok insert → name ∈ insert.columns) := by
  constructor
  · intro hfield
    rcases outcome_exchange (Or.inr rfl) hlisted hfield hkey (fun _ => rfl) (fun _ => rfl)
      (Or.inl rfl) room with ⟨hsame, hcolumn⟩
    rw [hsame]
    cases houtcome : resource.updateForm.outcome listed.table room (around.body .null) with
    | error problem => rfl
    | ok result =>
        cases result with
        | error error => rfl
        | ok record =>
            -- The null stands there already.
            have hthere : Sorted.insert record name .null = record := by
              refine Sorted.eq_of_get? fun other => ?_
              rw [Sorted.get?_insert]
              by_cases hother : other = name
              · rw [if_pos hother, hother]
                exact (hcolumn record houtcome).symm
              · rw [if_neg hother]
            exact congrArg (fun record => Except.ok (Except.ok record)) hthere
  · intro hfield
    rcases outcome_exchange (Or.inl rfl) hlisted hfield hkey (fun _ => rfl) (fun _ => rfl)
      (Or.inr ⟨rfl, not_required_of_optional hfield rfl⟩) room with ⟨hsame, hnone⟩
    have hform : resource.createForm = resource.createForm ∨
        resource.createForm = resource.updateForm := Or.inl rfl
    rcases fields_of_form hform with ⟨-, found, hfound, hcolumns, -⟩
    cases hlisted.symm.trans hfound
    have hcolumn := Catalog.column_of_hasColumns hcolumns (List.mem_map_of_mem hfield)
    refine ⟨hsame, fun record houtcome => ⟨fun insert hinsert => ?_, fun insert hinsert => ?_⟩⟩
    · -- A `null` was left out of the record, and so is its column.
      rw [mem_columns_insert hlisted hcolumn hinsert, Decidable.not_not]
      exact hnone record houtcome
    · rw [mem_columns_insert hlisted hcolumn hinsert, Sorted.get?_insert, if_pos rfl]
      exact Option.some_ne_none _

/-- A note with its text, apart from the value of its date. -/
def undated : Surroundings :=
  ⟨[("note".toList.map .char, .string ("called back".toList.map .char))],
    "date".toList.map .char, [], true⟩

/-- A note that is created, with an empty date and with `null` for its date. -/
theorem outcomes_undated : ∃ listed, Catalog.builtin.find Collection.notes = .ok listed ∧
    (∃ record, notes.createForm.outcome listed.table 127 (undated.body (.string [])) =
      .ok (.ok record) ∧ record.contains "date" = true) ∧
    ∃ record, notes.createForm.outcome listed.table 127 (undated.body .null) =
      .ok (.ok record) ∧ record.contains "date" = false :=
  ⟨_, rfl, ⟨_, rfl, by decide +kernel⟩, ⟨_, rfl, by decide +kernel⟩⟩

/-- Clearing the date of a note can be asked for in two ways, and a note that is created with an
    empty date is inserted with a date. -/
theorem outcome_of_blank_undated : ∃ listed record,
    Catalog.builtin.find Collection.notes = .ok listed ∧
      notes.updateForm.outcome listed.table 127 (undated.body (.string [])) =
        notes.updateForm.outcome listed.table 127 (undated.body .null) ∧
      notes.createForm.outcome listed.table 127 (undated.body .null) = .ok (.ok record) ∧
      ∀ insert, Record.insert .builtin Collection.notes (Sorted.insert record "date" .null) =
        .ok insert → "date" ∈ insert.columns := by
  rcases outcomes_undated with ⟨listed, hlisted, -, record, hrecord, -⟩
  have hkey : undated.key.value? = some "date" := by decide
  rcases outcome_of_blank notes listed hlisted undated "date" hkey 127 with ⟨hupdate, hcreate⟩
  exact ⟨listed, record, hlisted, hupdate (by decide), hrecord,
    ((hcreate (by decide)).2 record hrecord).2⟩

/-- A note that is created with an empty date has a null for its date, and one that is created
    with `null` has the date that the database fills in. -/
theorem not_outcome_of_blank : ¬∀ (resource : Resource) (listed : Listed),
    Catalog.builtin.find resource.collection = .ok listed →
    ∀ (around : Surroundings) (name : String), around.key.value? = some name → ∀ room,
      ⟨name, .text, .optional⟩ ∈ resource.createForm.fields →
      resource.createForm.outcome listed.table room (around.body (.string [])) =
        resource.createForm.outcome listed.table room (around.body .null) := by
  intro h
  rcases outcomes_undated with ⟨listed, hlisted, ⟨blank, hblank, hdate⟩, null, hnull, hnone⟩
  have hsame := h notes listed hlisted undated "date" (by decide) 127 (by decide)
  rw [hblank, hnull] at hsame
  cases hsame
  exact Bool.false_ne_true (hnone.symm.trans hdate)

end Resource

end Registrar
