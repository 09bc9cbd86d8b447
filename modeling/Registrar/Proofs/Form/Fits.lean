import Registrar.Form.Membership
import Registrar.Operation.Basic
import Registrar.Proofs.Map.OfList
import Registrar.Proofs.Record.Permitted

/-!
# Payloads That Fit

A payload that reaches the database has been through a form, or is a link that the
service made up itself. Either way its members are columns of the table that it is meant
for, because the fields of every form are, and none of them has members itself. The check
that a record has no unknown field therefore never fails: it is there for the day on
which a form and the catalog drift apart.

## Main definitions

* `Payload.Fits`: A payload is acceptable for a table.

## Theorems

* `Payload.record_of_fits`: A payload that fits becomes a record of columns.
* `Resource.fits_of_form`: What a form accepts fits.
* `Link.fits_userGroup`, `Link.fits_userProject`, `Link.fits_userNote`: Links fit.
-/

namespace Registrar

/-- A payload is acceptable for a table: it breaks no rule, its members are columns and
    have no members themselves. -/
structure Payload.Fits (table : Table) (payload : Payload) : Prop where
  accepted : payload.complaint = none
  members : ∃ members, payload.document = .object members ∧
    ∀ member ∈ members, (table.column? member.1).isSome ∧ member.2.isFlat

namespace Payload

theorem isFlat_blankToNull {document : Json.Document} (h : document.isFlat) :
    (blankToNull document).isFlat := by
  rw [blankToNull.eq_def]
  split
  · rfl
  · exact h

/-- A payload that fits becomes the record of its members. -/
theorem record_eq_of_fits {table : Table} {payload : Payload} (h : payload.Fits table)
    {members : List (String × Json.Document)} (hdocument : payload.document = .object members) :
    payload.record table = .ok ((Sorted.ofList members).mapValues blankToNull) := by
  rcases h.members with ⟨fitting, hfitting, hmembers⟩
  cases hdocument.symm.trans hfitting
  -- No member is turned down, because each has the key of a column.
  have hunknown : unknownField? table (Sorted.ofList members) = none := by
    refine List.find?_eq_none.2 fun name hname => ?_
    rcases List.mem_map.1 hname with ⟨member, hmember, rfl⟩
    have hcolumn := (hmembers member (Sorted.mem_ofList hmember)).1
    rw [Option.isNone_iff_eq_none]
    intro hnone
    rw [hnone] at hcolumn
    exact absurd hcolumn Bool.false_ne_true
  simp only [record, h.accepted, hdocument, hunknown]

/-- A record holds the members of its payload, with null for the empty string. -/
theorem exists_of_record {table : Table} {payload : Payload} {record : Record}
    (h : payload.record table = .ok record) :
    ∃ members, payload.document = .object members ∧
      record = (Sorted.ofList members).mapValues blankToNull := by
  unfold Payload.record at h
  split at h
  · cases h
  · split at h
    · rename_i members hdocument
      dsimp only at h
      split at h
      · cases h
      · cases h
        exact ⟨members, hdocument, rfl⟩
    · cases h

/-- Whatever payload a record is of, its members are columns. -/
theorem column_of_record {table : Table} {payload : Payload} {record : Record}
    (h : payload.record table = .ok record) {name : String} (hname : name ∈ record.names) :
    (table.column? name).isSome := by
  unfold Payload.record at h
  split at h
  · cases h
  · split at h
    · rename_i members hdocument
      dsimp only at h
      split at h
      · cases h
      · rename_i hunknown
        cases h
        rw [Sorted.names_mapValues] at hname
        have hcolumn := List.find?_eq_none.1 hunknown name hname
        rwa [Option.isNone_iff_eq_none, ← Ne, ← Option.isSome_iff_ne_none] at hcolumn
    · cases h

/-- A payload that fits becomes a record of columns. -/
theorem record_of_fits {table : Table} {payload : Payload} (h : payload.Fits table) :
    ∃ record, payload.record table = .ok record ∧ record.Registered table := by
  rcases h.members with ⟨members, hdocument, hmembers⟩
  refine ⟨_, record_eq_of_fits h hdocument, ?_⟩
  intro member hmember
  rcases List.mem_map.1 hmember with ⟨original, horiginal, rfl⟩
  exact (hmembers original (Sorted.mem_ofList horiginal)).imp_right isFlat_blankToNull

/-- A document of members that are columns fits. -/
theorem fits_ofMembers {table : Table} {members : List (String × Json.Document)}
    (h : ∀ member ∈ members, (table.column? member.1).isSome ∧ member.2.isFlat) :
    Fits table ⟨.ofMembers members, none⟩ :=
  ⟨rfl, _, rfl, fun member hmember => h member (Sorted.mem_ofList hmember)⟩

end Payload

namespace Catalog

/-- What can be checked of the table of a collection holds of it where it was found. -/
theorem of_find {catalog : Catalog} {collection : String} {listed : Listed}
    (h : catalog.find collection = .ok listed) {test : Table → Bool}
    (htest : (catalog.table? collection).any test = true) : test listed.table = true := by
  rw [(find_eq_ok_iff.1 h).2] at htest
  exact htest

/-- Whether keys are those of columns. -/
def hasColumns (keys : List String) (table : Table) : Bool :=
  keys.all fun key => (table.column? key).isSome

theorem column_of_hasColumns {keys : List String} {table : Table} (h : hasColumns keys table)
    {key : String} (hkey : key ∈ keys) : (table.column? key).isSome :=
  List.all_eq_true.1 h key hkey

end Catalog

namespace Form

/-- The members of a document are flat, and those of a form are its fields. -/
theorem isFlat_of_document? {entry : Entry} {document : Json.Document}
    (h : entry.document? = some document) : document.isFlat := by
  cases entry with
  | missing => exact nomatch h
  | cleared =>
      cases h
      rfl
  | given value =>
      cases h
      cases value <;> rfl

/-- A payload comes from a form that was filled in, with entries for its fields only. -/
theorem payload_of_decode {form : Form} {room : Nat} {tree : Json.Tree} {payload : Payload}
    (h : form.decodePayload room tree = .ok payload) :
    ∃ filled, payload = form.payload filled ∧
      ∀ member ∈ filled, member.1 ∈ form.fields.map FormField.name := by
  -- The names of a filled form are those of its fields, one by one.
  rw [decodePayload, Json.Decoder.map, decode, Json.Decoder.map] at h
  cases hentries : Json.Decoder.record (form.fields.map FormField.decoder) room tree with
  | error problem =>
      rw [hentries] at h
      exact nomatch h
  | ok entries =>
      rw [hentries] at h
      cases h
      exact ⟨_, rfl, fun member hmember => (List.of_mem_zip hmember).1⟩

/-- Whatever the body, the members of the record that is written are fields of the form. -/
theorem names_of_record {form : Form} {room : Nat} {tree : Json.Tree} {payload : Payload}
    {table : Table} {record : Record} (h : form.decodePayload room tree = .ok payload)
    (hrecord : payload.record table = .ok record) :
    ∀ name ∈ record.names, name ∈ form.fields.map FormField.name := by
  intro name hname
  rcases payload_of_decode h with ⟨filled, rfl, hfilled⟩
  rcases Payload.exists_of_record hrecord with ⟨members, hdocument, rfl⟩
  cases hdocument
  -- A member of the record was a member of the document, and that an entry of the form.
  rcases List.mem_map.1 hname with ⟨written, hwritten, rfl⟩
  rcases List.mem_map.1 hwritten with ⟨member, hmember, rfl⟩
  have hgiven := Sorted.mem_ofList (Sorted.mem_ofList hmember)
  rcases List.mem_filterMap.1 hgiven with ⟨entry, hentry, hsome⟩
  rcases Option.map_eq_some_iff.1 hsome with ⟨document, -, rfl⟩
  exact hfilled entry hentry

/-- What a form accepts fits a table that has all its fields as columns. -/
theorem fits_of_decode {form : Form} {room : Nat} {tree : Json.Tree} {payload : Payload}
    {table : Table} (h : form.decodePayload room tree = .ok payload)
    (haccepted : payload.complaint = none)
    (htable : Catalog.hasColumns (form.fields.map FormField.name) table) :
    payload.Fits table := by
  rcases payload_of_decode h with ⟨filled, rfl, hfilled⟩
  refine ⟨haccepted, _, rfl, fun member hmember => ?_⟩
  rcases List.mem_filterMap.1 (Sorted.mem_ofList hmember) with ⟨entry, hentry, hsome⟩
  rcases Option.map_eq_some_iff.1 hsome with ⟨document, hdocument, rfl⟩
  exact ⟨Catalog.column_of_hasColumns htable (hfilled entry hentry),
    isFlat_of_document? hdocument⟩

end Form

namespace Resource

variable {resource : Resource} {listed : Listed} {room : Nat} {tree : Json.Tree}
  {payload : Payload}

/-- What the form for creating or for changing a record accepts fits the table of the
    resource. -/
theorem fits_of_form {form : Form}
    (hform : form = resource.createForm ∨ form = resource.updateForm)
    (hlisted : Catalog.builtin.find resource.collection = .ok listed)
    (h : form.decodePayload room tree = .ok payload) (haccepted : payload.complaint = none) :
    payload.Fits listed.table := by
  refine Form.fits_of_decode h haccepted (Catalog.of_find hlisted ?_)
  rcases hform with rfl | rfl
  · cases resource <;> decide +kernel
  · cases resource <;> decide +kernel

end Resource

namespace Link

variable {listed : Listed}

theorem fits_userGroup (hlisted : Catalog.builtin.find Collection.userGroups = .ok listed)
    (group user : Int) : (userGroup group user).Fits listed.table := by
  have htable : Catalog.hasColumns ["group_id", "user_id"] listed.table :=
    Catalog.of_find hlisted (by decide +kernel)
  have hgroup := Catalog.column_of_hasColumns htable (by decide : "group_id" ∈ _)
  have huser := Catalog.column_of_hasColumns htable (by decide : "user_id" ∈ _)
  exact ⟨rfl, _, rfl,
    List.forall_mem_cons.2 ⟨⟨hgroup, rfl⟩, List.forall_mem_singleton.2 ⟨huser, rfl⟩⟩⟩

theorem fits_userNote (hlisted : Catalog.builtin.find Collection.userNotes = .ok listed)
    (project note : Int) (user : Option Int) : (userNote project note user).Fits listed.table := by
  have htable : Catalog.hasColumns ["project_id", "note_id", "user_id"] listed.table :=
    Catalog.of_find hlisted (by decide +kernel)
  have hproject := Catalog.column_of_hasColumns htable (by decide : "project_id" ∈ _)
  have hnote := Catalog.column_of_hasColumns htable (by decide : "note_id" ∈ _)
  have huser := Catalog.column_of_hasColumns htable (by decide : "user_id" ∈ _)
  refine Payload.fits_ofMembers (List.forall_mem_append.2 ⟨?_, ?_⟩)
  · exact List.forall_mem_cons.2 ⟨⟨hproject, rfl⟩, List.forall_mem_singleton.2 ⟨hnote, rfl⟩⟩
  · -- A note on the project itself has no user.
    cases user with
    | none => exact List.forall_mem_nil _
    | some user => exact List.forall_mem_singleton.2 ⟨huser, rfl⟩

/-- The link of a member fits if the member's role obeys its rule. -/
theorem fits_userProject (hlisted : Catalog.builtin.find Collection.userProjects = .ok listed)
    (project : Int) (member : ProjectMember)
    (haccepted : (userProject project member).complaint = none) :
    (userProject project member).Fits listed.table := by
  have htable : Catalog.hasColumns ["project_id", "user_id", "role", "is_primary"] listed.table :=
    Catalog.of_find hlisted (by decide +kernel)
  have hproject := Catalog.column_of_hasColumns htable (by decide : "project_id" ∈ _)
  have huser := Catalog.column_of_hasColumns htable (by decide : "user_id" ∈ _)
  have hrole := Catalog.column_of_hasColumns htable (by decide : "role" ∈ _)
  have hprimary := Catalog.column_of_hasColumns htable (by decide : "is_primary" ∈ _)
  rcases member with ⟨userId, role, isPrimary⟩
  refine ⟨haccepted, (Payload.fits_ofMembers (List.forall_mem_append.2
    ⟨List.forall_mem_append.2 ⟨?_, ?_⟩, List.forall_mem_singleton.2 ⟨hprimary, rfl⟩⟩)).members⟩
  · exact List.forall_mem_cons.2 ⟨⟨hproject, rfl⟩, List.forall_mem_singleton.2 ⟨huser, rfl⟩⟩
  · cases role with
    | none => exact List.forall_mem_nil _
    | some role => exact List.forall_mem_singleton.2 ⟨hrole, rfl⟩

end Link

end Registrar
