import Mathlib.Data.List.Forall2
import Registrar.Json.Decoder
import Registrar.Proofs.Map.OfList
import Registrar.QueryError

/-!
# What Decoders Read

A string, a truth value or an integer is read as it is: the decoder hands back what the
value is as a document, and refuses nothing but values of another kind and integers that
do not fit.

The members of an object with values of one kind are read one by one, in their order.

A record takes from an object the value of each member whose name is that of a field, and
for a field without a member its fallback. A name may not come twice among the fields, so
it does not matter in which order the members stand, and members that are no fields are
passed over without a trace.

## Main definitions

* `Decoder.Lists`: The members of an object are read one by one.
* `Decoder.Holds`: A member of an object has a value for the field of its name.
* `Decoder.Field.Yields`: A value is one that a field reads, or its fallback.

## Theorems

* `Decoder.text_eq_ok_iff`, `Decoder.flag_eq_ok_iff`, `Decoder.int64_eq_ok_iff`: Single
  values are read as they are.
* `Decoder.object_eq_ok_iff`: Objects with values of one kind are read member by member.
* `Decoder.fieldsFound_of_field`: A member with the name of a field is read.
* `Decoder.mem_fieldsFound`: What is found are the values that members have.
* `Decoder.decode_of_fieldsFound`: All members with the names of fields are read.
* `Decoder.mem_complete`: Every field comes out, found or by its fallback.
* `Decoder.mem_record`: What a record takes from an object.
* `Decoder.yields_record`: Whatever a record takes comes from its fields.
-/

namespace Registrar

namespace Json

namespace Decoder

theorem lexemeText_eq_ok_iff {lexeme : StringLexeme} {text : String} :
    lexemeText lexeme = .ok text ↔ lexeme.value? = some text := by
  rw [lexemeText]
  cases lexeme.value? with
  | none => exact ⟨nofun, nofun⟩
  | some s => simp

theorem document_number_eq_ok_iff {depth : Nat} {lexeme : NumberLexeme} {value : Document} :
    document depth (.number lexeme) = .ok value ↔
      ∃ number, lexeme.value? = some number ∧ value = .number number := by
  rw [document, documentIn]
  cases lexeme.value? with
  | none => exact ⟨nofun, nofun⟩
  | some number => simp [eq_comm]

/-- A text is the same document at any depth, also where no container may be entered. -/
theorem text_eq_ok_iff {room : Nat} {tree : Tree} {value : String} :
    text room tree = .ok value ↔ document 0 tree = .ok (.string value) := by
  cases tree with
  | string lexeme => simp [text, document, documentIn, map_eq_ok_iff]
  | number lexeme =>
      rw [document_number_eq_ok_iff]
      exact ⟨nofun, fun ⟨_, _, h⟩ => nomatch h⟩
  | broken | null | bool | array | object => simp [text, document, documentIn]

theorem flag_eq_ok_iff {room : Nat} {tree : Tree} {value : Bool} :
    flag room tree = .ok value ↔ document 0 tree = .ok (.bool value) := by
  cases tree with
  | number lexeme =>
      rw [document_number_eq_ok_iff]
      exact ⟨nofun, fun ⟨_, _, h⟩ => nomatch h⟩
  | string lexeme => simp [flag, document, documentIn, map_eq_ok_iff]
  | broken | null | bool | array | object => simp [flag, document, documentIn]

/-- All integers of 64 bits are read, and no others. -/
theorem int64_eq_ok_iff {room : Nat} {tree : Tree} {value : Int} :
    int64 room tree = .ok value ↔ document 0 tree = .ok (.ofInt value) ∧
      -9223372036854775808 ≤ value ∧ value ≤ 9223372036854775807 := by
  cases tree with
  | number lexeme =>
      rw [document_number_eq_ok_iff, int64, integer]
      cases lexeme.value? with
      | none => simp
      | some number =>
          cases number with
          | real n => simp [Document.ofInt]
          | integer n =>
              by_cases hrange : -9223372036854775808 ≤ n ∧ n ≤ 9223372036854775807
              · simp only [if_pos hrange]
                constructor
                · intro h
                  cases h
                  exact ⟨⟨_, rfl, rfl⟩, hrange⟩
                · rintro ⟨⟨number, hnumber, hvalue⟩, -⟩
                  cases hnumber
                  cases hvalue
                  rfl
              · simp only [if_neg hrange]
                refine ⟨nofun, ?_⟩
                rintro ⟨⟨number, hnumber, hvalue⟩, hfits⟩
                -- The value would be the integer, which does not fit.
                cases hnumber
                cases hvalue
                exact absurd hfits hrange
  | string lexeme => simp [int64, integer, document, documentIn, map_eq_ok_iff, Document.ofInt]
  | broken | null | bool | array | object =>
      simp [int64, integer, document, documentIn, Document.ofInt]

variable {α : Type} {room : Nat} {members : List (StringLexeme × Tree)}

theorem closing_eq_ok_iff {closed : Bool} {value other : α} :
    closing closed value = .ok other ↔ closed = true ∧ value = other := by
  cases closed with
  | false => exact ⟨nofun, fun h => nomatch h.1⟩
  | true => simp [closing]

/-- The members of an object are read one by one, in their order. -/
def Lists (decode : Decoder α) (room : Nat) (members : List (StringLexeme × Tree))
    (values : List (String × α)) : Prop :=
  List.Forall₂ (fun member value => member.1.value? = some value.1 ∧
    decode room member.2 = .ok value.2) members values

variable {decode : Decoder α} {values : List (String × α)}

theorem entries_eq_ok_iff :
    entries decode room members = .ok values ↔ Lists decode room members values := by
  unfold Lists
  induction members generalizing values with
  | nil =>
      rw [List.forall₂_nil_left_iff]
      exact ⟨fun h => (Except.ok.inj h).symm, fun h => congrArg _ h.symm⟩
  | cons member members ih =>
      rcases member with ⟨key, tree⟩
      rw [List.forall₂_cons_left_iff]
      constructor
      · intro h
        rcases bind_eq_ok_iff.1 h with ⟨name, hname, h⟩
        rcases bind_eq_ok_iff.1 h with ⟨value, hvalue, h⟩
        rcases bind_eq_ok_iff.1 h with ⟨rest, hrest, h⟩
        cases h
        exact ⟨(name, value), rest, ⟨lexemeText_eq_ok_iff.1 hname, hvalue⟩, ih.1 hrest, rfl⟩
      · rintro ⟨⟨name, value⟩, rest, ⟨hname, hvalue⟩, hrest, rfl⟩
        refine bind_eq_ok_iff.2 ⟨name, lexemeText_eq_ok_iff.2 hname, ?_⟩
        exact bind_eq_ok_iff.2 ⟨value, hvalue, bind_eq_ok_iff.2 ⟨rest, ih.2 hrest, rfl⟩⟩

/-- An object with values of one kind is read if it is closed and all its members are. -/
theorem object_eq_ok_iff {tree : Tree} :
    object decode room tree = .ok values ↔ ∃ members inside, tree = .object members true ∧
      room = inside + 1 ∧ Lists decode inside members values := by
  constructor
  · intro h
    cases tree with
    | object members closed =>
        cases room with
        | zero => cases h
        | succ inside =>
            rcases bind_eq_ok_iff.1 h with ⟨found, hfound, h⟩
            rcases closing_eq_ok_iff.1 h with ⟨rfl, rfl⟩
            exact ⟨members, inside, rfl, rfl, entries_eq_ok_iff.1 hfound⟩
    | _ => cases h
  · rintro ⟨members, inside, rfl, rfl, h⟩
    exact bind_eq_ok_iff.2 ⟨values, entries_eq_ok_iff.2 h, rfl⟩

variable {fields : List (Field α)} {found result : List (String × α)}

/-- A member of an object has a value for the field of its name. -/
def Holds (fields : List (Field α)) (room : Nat) (members : List (StringLexeme × Tree))
    (name : String) (value : α) : Prop :=
  ∃ key tree field, (key, tree) ∈ members ∧ key.value? = some name ∧
    (fields.find? fun field => field.name = name) = some field ∧
      field.decode room tree = .ok value

/-- A member with the name of a field is read, if none of that name was before. -/
theorem fieldsFound_of_field {key : StringLexeme} {tree : Tree} {name : String} {field : Field α}
    {value : α} (hkey : key.value? = some name)
    (hfield : (fields.find? fun field => field.name = name) = some field)
    (hnone : found.lookup name = none) (hvalue : field.decode room tree = .ok value) :
    fieldsFound fields room ((key, tree) :: members) found =
      fieldsFound fields room members (found ++ [(name, value)]) := by
  rw [fieldsFound, lexemeText_eq_ok_iff.2 hkey]
  simp only [bind, Except.bind, hfield, hnone, Option.isSome_none, hvalue, Bool.false_eq_true,
    if_false]

/-- A member is passed over, or it is the first one for its field. -/
theorem fieldsFound_cons {key : StringLexeme} {tree : Tree}
    (h : fieldsFound fields room ((key, tree) :: members) found = .ok result) :
    ∃ name, key.value? = some name ∧
      (((fields.find? fun field => field.name = name) = none ∧
        fieldsFound fields room members found = .ok result) ∨
      ∃ field value, (fields.find? fun field => field.name = name) = some field ∧
        found.lookup name = none ∧ field.decode room tree = .ok value ∧
          fieldsFound fields room members (found ++ [(name, value)]) = .ok result) := by
  rcases bind_eq_ok_iff.1 h with ⟨name, hname, h⟩
  refine ⟨name, lexemeText_eq_ok_iff.1 hname, ?_⟩
  cases hfield : fields.find? fun field => field.name = name with
  | none =>
      rw [hfield] at h
      -- A member that is no field only has to be whole.
      by_cases hwhole : tree.isWhole
      · simp only [if_pos hwhole] at h
        exact Or.inl ⟨rfl, h⟩
      · simp only [if_neg hwhole] at h
        exact nomatch h
  | some field =>
      rw [hfield] at h
      -- A second member for a field would have been refused.
      by_cases hagain : (found.lookup name).isSome
      · simp only [if_pos hagain] at h
        exact nomatch h
      · simp only [if_neg hagain] at h
        rcases bind_eq_ok_iff.1 h with ⟨value, hvalue, h⟩
        have hnone : found.lookup name = none := Option.not_isSome_iff_eq_none.1 hagain
        exact Or.inr ⟨field, value, rfl, hnone, hvalue, h⟩

/-- What is found are the values that members have, besides those found before. -/
theorem mem_fieldsFound (h : fieldsFound fields room members found = .ok result) {name : String}
    {value : α} :
    (name, value) ∈ result ↔ (name, value) ∈ found ∨ Holds fields room members name value := by
  -- What was found before grows with every member, so it is a variable.
  induction members generalizing found with
  | nil =>
      cases h
      refine ⟨Or.inl, ?_⟩
      rintro (h | ⟨_, _, _, hmem, -⟩)
      · exact h
      · exact absurd hmem List.not_mem_nil
  | cons member members ih =>
      rcases member with ⟨key, tree⟩
      have hlater : Holds fields room members name value →
          Holds fields room ((key, tree) :: members) name value := by
        rintro ⟨key', tree', field, hmem, hrest⟩
        exact ⟨key', tree', field, List.mem_cons_of_mem _ hmem, hrest⟩
      rcases fieldsFound_cons h with
        ⟨own, hown, ⟨hnone, h⟩ | ⟨field, ownValue, hfield, -, hvalue, h⟩⟩
      · rw [ih h]
        refine or_congr_right ⟨hlater, ?_⟩
        rintro ⟨key', tree', field, hmem, hkey, hfield, hdecode⟩
        rcases List.mem_cons.1 hmem with hsame | hmem
        · -- The member itself is no field.
          cases hsame
          cases hown.symm.trans hkey
          rw [hnone] at hfield
          exact nomatch hfield
        · exact ⟨key', tree', field, hmem, hkey, hfield, hdecode⟩
      · rw [ih h, List.mem_append, List.mem_singleton, or_assoc]
        refine or_congr_right ⟨?_, ?_⟩
        · rintro (hsame | hholds)
          · cases hsame
            exact ⟨key, tree, field, List.mem_cons_self, hown, hfield, hvalue⟩
          · exact hlater hholds
        · rintro ⟨key', tree', field', hmem, hkey, hfield', hdecode⟩
          rcases List.mem_cons.1 hmem with hsame | hmem
          · -- The field and what it reads are determined by the member.
            cases hsame
            cases hown.symm.trans hkey
            cases hfield.symm.trans hfield'
            cases hvalue.symm.trans hdecode
            exact Or.inl rfl
          · exact Or.inr ⟨key', tree', field', hmem, hkey, hfield', hdecode⟩

/-- A field that is found by a name has it. -/
theorem of_find?_name {name : String} {field : Field α}
    (h : (fields.find? fun field => field.name = name) = some field) :
    field ∈ fields ∧ field.name = name := by
  have hname := List.find?_some h
  exact ⟨List.mem_of_find?_eq_some h, of_decide_eq_true hname⟩

/-- Among distinct names a field is found by its own. -/
theorem find?_name_of_mem (hdistinct : (fields.map Field.name).Nodup) {field : Field α}
    (hfield : field ∈ fields) :
    (fields.find? fun other => other.name = field.name) = some field := by
  induction fields with
  | nil => exact absurd hfield List.not_mem_nil
  | cons first rest ih =>
      rw [List.map_cons, List.nodup_cons] at hdistinct
      rw [List.find?_cons]
      rcases List.mem_cons.1 hfield with rfl | hfield
      · rw [decide_eq_true rfl]
      · -- The first field has another name, because names are distinct.
        have hne : first.name ≠ field.name := by
          intro hsame
          exact hdistinct.1 (hsame ▸ List.mem_map_of_mem hfield)
        rw [decide_eq_false hne]
        exact ih hdistinct.2 hfield

/-- Where all members were looked at, those with the name of a field were read. -/
theorem decode_of_fieldsFound (h : fieldsFound fields room members found = .ok result)
    {key : StringLexeme} {tree : Tree} (hmem : (key, tree) ∈ members) {name : String}
    (hkey : key.value? = some name) {field : Field α}
    (hfield : (fields.find? fun field => field.name = name) = some field) :
    ∃ value, field.decode room tree = .ok value := by
  induction members generalizing found with
  | nil => exact absurd hmem List.not_mem_nil
  | cons member members ih =>
      rcases member with ⟨firstKey, firstTree⟩
      rcases fieldsFound_cons h with
        ⟨own, hown, ⟨hnone, h⟩ | ⟨first, value, hfirst, -, hvalue, h⟩⟩
      · rcases List.mem_cons.1 hmem with hsame | hmem
        · cases hsame
          cases hown.symm.trans hkey
          rw [hnone] at hfield
          exact nomatch hfield
        · exact ih h hmem
      · rcases List.mem_cons.1 hmem with hsame | hmem
        · cases hsame
          cases hown.symm.trans hkey
          cases hfirst.symm.trans hfield
          exact ⟨value, hvalue⟩
        · exact ih h hmem

/-- No field is found twice. -/
theorem nodup_fieldsFound (h : fieldsFound fields room members found = .ok result)
    (hdistinct : (found.map Prod.fst).Nodup) : (result.map Prod.fst).Nodup := by
  induction members generalizing found with
  | nil =>
      cases h
      exact hdistinct
  | cons member members ih =>
      rcases member with ⟨key, tree⟩
      rcases fieldsFound_cons h with ⟨name, -, ⟨-, h⟩ | ⟨field, value, -, hnone, -, h⟩⟩
      · exact ih h hdistinct
      · refine ih h ?_
        rw [List.map_append, List.nodup_append]
        refine ⟨hdistinct, List.pairwise_singleton _ _, ?_⟩
        intro a ha b hb hab
        -- A name that was found before would be looked up.
        rw [List.map_singleton, List.mem_singleton] at hb
        rw [hab, hb] at ha
        exact lookup_eq_none_iff_not_mem.1 hnone ha

/-- The first field comes out, found or by its fallback, and then the others. -/
theorem complete_cons {field : Field α} {values : List α}
    (h : complete found (field :: fields) = .ok values) :
    ∃ own others, values = own :: others ∧ complete found fields = .ok others ∧
      ∀ value, own = value ↔ found.lookup field.name = some value ∨
        found.lookup field.name = none ∧ field.fallback = some value := by
  rw [complete] at h
  cases hlookup : found.lookup field.name with
  | some known =>
      rw [hlookup] at h
      rcases bind_eq_ok_iff.1 h with ⟨own, hown, h⟩
      rcases bind_eq_ok_iff.1 h with ⟨others, hothers, h⟩
      cases hown
      cases h
      exact ⟨known, others, rfl, hothers, by simp⟩
  | none =>
      rw [hlookup] at h
      rcases bind_eq_ok_iff.1 h with ⟨own, hown, h⟩
      rcases bind_eq_ok_iff.1 h with ⟨others, hothers, h⟩
      cases h
      refine ⟨own, others, rfl, hothers, fun value => ?_⟩
      -- A field without a member comes out by its fallback, if it has one.
      cases hfallback : field.fallback with
      | none =>
          simp only [Field.missing, hfallback] at hown
          exact nomatch hown
      | some known =>
          simp only [Field.missing, hfallback] at hown
          cases hown
          simp

/-- Every field comes out, found or by its fallback. -/
theorem mem_complete {values : List α} (h : complete found fields = .ok values) {name : String}
    {value : α} :
    (name, value) ∈ (fields.map Field.name).zip values ↔
      ∃ field ∈ fields, field.name = name ∧ (found.lookup name = some value ∨
        found.lookup name = none ∧ field.fallback = some value) := by
  induction fields generalizing values with
  | nil =>
      cases h
      exact ⟨fun h => absurd h List.not_mem_nil, fun ⟨_, hmem, _⟩ => absurd hmem List.not_mem_nil⟩
  | cons field rest ih =>
      rcases complete_cons h with ⟨own, others, rfl, hothers, hown⟩
      rw [List.map_cons, List.zip_cons_cons, List.mem_cons, ih hothers]
      constructor
      · rintro (hsame | ⟨other, hmem, hother⟩)
        · cases hsame
          exact ⟨field, List.mem_cons_self, rfl, (hown _).1 rfl⟩
        · exact ⟨other, List.mem_cons_of_mem _ hmem, hother⟩
      · rintro ⟨other, hmem, hname, hother⟩
        rcases List.mem_cons.1 hmem with rfl | hmem
        · cases hname
          exact Or.inl (congrArg _ ((hown value).2 hother).symm)
        · exact Or.inr ⟨other, hmem, hname, hother⟩

/-- The values come out one by one, in the order of the fields. -/
theorem forall₂_complete {values : List α} (h : complete found fields = .ok values) :
    List.Forall₂ (fun field value => found.lookup field.name = some value ∨
      found.lookup field.name = none ∧ field.fallback = some value) fields values := by
  induction fields generalizing values with
  | nil =>
      cases h
      exact .nil
  | cons field rest ih =>
      rcases complete_cons h with ⟨own, others, rfl, hothers, hown⟩
      exact .cons ((hown own).1 rfl) (ih hothers)

theorem length_complete {values : List α} (h : complete found fields = .ok values) :
    values.length = fields.length :=
  (forall₂_complete h).length_eq.symm

/-- What a record takes from an object: under the name of a field the value that a member
    has for it, or else the field's fallback. All members of such names are read. -/
theorem mem_record {closed : Bool} {values : List α}
    (h : record fields room (.object members closed) = .ok values) :
    values.length = fields.length ∧ ∃ inside, room = inside + 1 ∧
      (∀ name value, (name, value) ∈ (fields.map Field.name).zip values ↔
        Holds fields inside members name value ∨
          ((∀ other, ¬Holds fields inside members name other) ∧
            ∃ field ∈ fields, field.name = name ∧ field.fallback = some value)) ∧
      ∀ key tree name field, (key, tree) ∈ members → key.value? = some name →
        (fields.find? fun field => field.name = name) = some field →
          ∃ value, field.decode inside tree = .ok value := by
  cases room with
  | zero => exact nomatch h
  | succ inside =>
      rcases bind_eq_ok_iff.1 h with ⟨found, hfound, h⟩
      rcases bind_eq_ok_iff.1 h with ⟨_, hclosed, hcomplete⟩
      cases (closing_eq_ok_iff.1 hclosed).2
      -- No name is found twice, so what is found under a name is what a member has for it.
      have hdistinct := nodup_fieldsFound hfound List.nodup_nil
      have hholds : ∀ name value, found.lookup name = some value ↔
          Holds fields inside members name value := by
        intro name value
        rw [lookup_eq_some_iff_mem hdistinct, mem_fieldsFound hfound]
        exact or_iff_right List.not_mem_nil
      refine ⟨length_complete hcomplete, inside, rfl, fun name value => ?_,
        fun _ _ _ _ hmem hkey hfield => decode_of_fieldsFound hfound hmem hkey hfield⟩
      rw [mem_complete hcomplete]
      constructor
      · rintro ⟨field, hfield, hname, hvalue | ⟨hnone, hfallback⟩⟩
        · exact Or.inl ((hholds name value).1 hvalue)
        · refine Or.inr ⟨fun other hother => ?_, field, hfield, hname, hfallback⟩
          rw [(hholds name other).2 hother] at hnone
          exact nomatch hnone
      · rintro (hvalue | ⟨hnone, field, hfield, hname, hfallback⟩)
        · -- The member is read by a field of its name.
          rcases hvalue with ⟨key, tree, field, hmem, hkey, hfield, hdecode⟩
          rcases of_find?_name hfield with ⟨hown, hname⟩
          exact ⟨field, hown, hname,
            Or.inl ((hholds name value).2 ⟨key, tree, field, hmem, hkey, hfield, hdecode⟩)⟩
        · have hlookup : found.lookup name = none := by
            refine Option.eq_none_iff_forall_ne_some.2 fun other hother => ?_
            exact hnone other ((hholds name other).1 hother)
          exact ⟨field, hfield, hname, Or.inr ⟨hlookup, hfallback⟩⟩

/-- An object that a record was taken from is closed. -/
theorem closed_of_record {closed : Bool} {values : List α}
    (h : record fields room (.object members closed) = .ok values) : closed = true := by
  cases room with
  | zero => cases h
  | succ inside =>
      rcases bind_eq_ok_iff.1 h with ⟨found, -, h⟩
      rcases bind_eq_ok_iff.1 h with ⟨_, hclosed, -⟩
      exact (closing_eq_ok_iff.1 hclosed).1

variable {closed : Bool} {trees : List Tree} {values : List α}

theorem fieldsInOrder_nil_eq_ok (h : fieldsInOrder closed room [] trees = .ok values) :
    trees = [] ∧ closed = true ∧ values = [] := by
  cases trees with
  | nil =>
      rcases closing_eq_ok_iff.1 h with ⟨hclosed, hvalues⟩
      exact ⟨rfl, hclosed, hvalues.symm⟩
  | cons tree trees => cases h

/-- A field without a fallback takes an item. -/
theorem fieldsInOrder_cons_eq_ok {field : Field α} (hrequired : field.fallback = none)
    (h : fieldsInOrder closed room (field :: fields) trees = .ok values) :
    ∃ tree rest value others, trees = tree :: rest ∧ values = value :: others ∧
      field.decode room tree = .ok value ∧
        fieldsInOrder closed room fields rest = .ok others := by
  cases trees with
  | nil =>
      rw [fieldsInOrder] at h
      by_cases hclosed : closed = true
      · rw [if_pos hclosed] at h
        rcases bind_eq_ok_iff.1 h with ⟨value, hvalue, -⟩
        rw [Field.missing, hrequired] at hvalue
        cases hvalue
      · rw [if_neg hclosed] at h
        cases h
  | cons tree rest =>
      rcases bind_eq_ok_iff.1 h with ⟨value, hvalue, h⟩
      rcases bind_eq_ok_iff.1 h with ⟨others, hothers, h⟩
      cases h
      exact ⟨tree, rest, value, others, rfl, rfl, hvalue, hothers⟩

/-- A value that comes out under a field: one that the field reads, or its fallback. -/
def Field.Yields (field : Field α) (value : α) : Prop :=
  (∃ room tree, field.decode room tree = .ok value) ∨ field.fallback = some value

theorem Field.yields_of_missing {field : Field α} {value : α} (h : field.missing = .ok value) :
    field.Yields value := by
  rw [missing] at h
  cases hfallback : field.fallback with
  | none =>
      rw [hfallback] at h
      cases h
  | some known =>
      rw [hfallback] at h
      cases h
      exact Or.inr hfallback

theorem yields_fieldsInOrder (h : fieldsInOrder closed room fields trees = .ok values) :
    List.Forall₂ Field.Yields fields values := by
  induction fields generalizing trees values with
  | nil =>
      cases (fieldsInOrder_nil_eq_ok h).2.2
      exact .nil
  | cons field fields ih =>
      cases trees with
      | nil =>
          rw [fieldsInOrder] at h
          by_cases hclosed : closed = true
          · rw [if_pos hclosed] at h
            rcases bind_eq_ok_iff.1 h with ⟨value, hvalue, h⟩
            rcases bind_eq_ok_iff.1 h with ⟨others, hothers, h⟩
            cases h
            exact .cons (Field.yields_of_missing hvalue) (ih hothers)
          · rw [if_neg hclosed] at h
            cases h
      | cons tree trees =>
          rcases bind_eq_ok_iff.1 h with ⟨value, hvalue, h⟩
          rcases bind_eq_ok_iff.1 h with ⟨others, hothers, h⟩
          cases h
          exact .cons (Or.inl ⟨room, tree, hvalue⟩) (ih hothers)

/-- What a record takes from an object or from an array comes from its fields. -/
theorem yields_record (hdistinct : (fields.map Field.name).Nodup) {tree : Tree}
    (h : record fields room tree = .ok values) : List.Forall₂ Field.Yields fields values := by
  cases tree with
  | object members closed =>
      cases room with
      | zero => cases h
      | succ inside =>
          rcases bind_eq_ok_iff.1 h with ⟨found, hfound, h⟩
          rcases bind_eq_ok_iff.1 h with ⟨_, hclosed, hcomplete⟩
          cases (closing_eq_ok_iff.1 hclosed).2
          have hvalues := forall₂_complete hcomplete
          refine List.forall₂_iff_zip.2 ⟨hvalues.length_eq, fun {field value} hmem => ?_⟩
          rcases List.forall₂_zip hvalues hmem with hlookup | ⟨-, hfallback⟩
          · -- What was found was read by the field of its name, which is this one.
            have hdistinctFound := nodup_fieldsFound hfound List.nodup_nil
            have hheld := (lookup_eq_some_iff_mem hdistinctFound).1 hlookup
            rcases ((mem_fieldsFound hfound).1 hheld).resolve_left List.not_mem_nil with
              ⟨_, tree, other, -, -, hother, hdecode⟩
            cases (find?_name_of_mem hdistinct (List.of_mem_zip hmem).1).symm.trans hother
            exact Or.inl ⟨inside, tree, hdecode⟩
          · exact Or.inr hfallback
  | array trees closed =>
      cases room with
      | zero => cases h
      | succ inside => exact yields_fieldsInOrder h
  | _ => cases h

end Decoder

end Json

end Registrar
