import Registrar.Proofs.Form.Normal

/-!
# Lawful Records

The rules are checked on a form as it was filled in, before empty texts become null, and some of
them leave the empty text alone while others refuse it. What comes of this is said here of the
record that is written, without a word about entries and rules: which columns hold a text, and
what the texts look like.

Required columns come in two ways. Creating a record, the field has to be given, and the rule
refuses the empty text, so the column holds a text. Changing one, the field may be left out, but
not be cleared, whether with `null` or with an empty text; so the column is left alone or gets a
text, and is never cleared.

## Main definitions

* `IsGroupName`, `IsUserName`, `IsEmail`, `IsPosition`, `IsRole`, `IsTicket`: What texts look
  like.
* `Resource.requiredColumns`, `Resource.shapes`: Which columns have to hold a text, and which
  texts have to look like something.
* `Resource.LawfulCreation`, `Resource.LawfulChange`: What is asked of a record.

## Theorems

* `TextRule.complaint?_eq_none_iff`: What the rules on texts ask of a text that is not empty.
* `Rule.complaint?_eq_none_iff`: What a rule asks of the record.
* `Resource.complaint?_eq_none_iff`: What all rules of a resource ask of it.
* `Resource.written_iff_lawful`: Records are written just if they are lawful.
-/

namespace Registrar

open Json (Document Tree)

/-- Between 1 and 32 letters, digits, underscores and hyphens. -/
def IsGroupName (text : String) : Prop :=
  (1 ≤ text.length ∧ text.length ≤ 32) ∧
    ∀ c ∈ text.toList, c.isAlphanum ∨ c = '_' ∨ c = '-'

/-- A name without the marks that separate names. -/
def IsUserName (text : String) : Prop :=
  ':' ∉ text.toList ∧ ',' ∉ text.toList

/-- One `@` with something on both sides, and no white space. -/
def IsEmail (text : String) : Prop :=
  ∃ name domain, text.toList = name ++ '@' :: domain ∧ (name ≠ [] ∧ domain ≠ []) ∧
    ('@' ∉ name ∧ '@' ∉ domain) ∧ ∀ c ∈ text.toList, Text.isBlank c = false

/-- One of the seven positions. -/
def IsPosition (text : String) : Prop :=
  text ∈ ["SELECT", "FACULTY", "STAFF", "POSTDOC", "GRAD_STUDENT", "UNDERGRADUATE", "OTHER"]

/-- One of the two roles. -/
def IsRole (text : String) : Prop :=
  text ∈ ["MEMBER", "PI"]

/-- At most 9 letters and digits. -/
def IsTicket (text : String) : Prop :=
  text.length ≤ 9 ∧ ∀ c ∈ text.toList, c.isAlphanum

namespace TextRule

/-- What a rule asks of a text. -/
def Shape : TextRule → String → Prop
  | groupName => IsGroupName
  | userName => IsUserName
  | email => IsEmail
  | position => IsPosition
  | role => IsRole
  | ticket => IsTicket

theorem isEmail_iff {text : List Char} :
    isEmail text = true ↔ ∃ name domain, text = name ++ '@' :: domain ∧
      (name ≠ [] ∧ domain ≠ []) ∧ ('@' ∉ name ∧ '@' ∉ domain) ∧
        ∀ c ∈ text, Text.isBlank c = false := by
  rw [isEmail]
  cases hcut : Text.cutAt? '@' text with
  | none =>
      refine ⟨nofun, ?_⟩
      rintro ⟨name, domain, htext, -, ⟨hname, -⟩, -⟩
      rw [Text.cutAt?_eq_some_iff.2 ⟨htext, hname⟩] at hcut
      cases hcut
  | some parts =>
      rcases parts with ⟨name, domain⟩
      rcases Text.cutAt?_eq_some_iff.1 hcut with ⟨htext, hname⟩
      simp only [Bool.and_eq_true, Bool.not_eq_true', List.isEmpty_eq_false_iff,
        List.contains_eq_mem, decide_eq_false_iff_not, List.any_eq_false, Bool.not_eq_true]
      constructor
      · rintro ⟨⟨⟨hfirst, hlast⟩, hdomain⟩, hblank⟩
        exact ⟨name, domain, htext, ⟨hfirst, hlast⟩, ⟨hname, hdomain⟩, hblank⟩
      · rintro ⟨name', domain', htext', ⟨hfirst, hlast⟩, ⟨hname', hdomain⟩, hblank⟩
        -- A text is cut at its first mark in one way.
        cases hcut.symm.trans (Text.cutAt?_eq_some_iff.2 ⟨htext', hname'⟩)
        exact ⟨⟨⟨hfirst, hlast⟩, hdomain⟩, hblank⟩

/-- There is a complaint unless a condition holds. -/
theorem ite_none_eq_none_iff {condition : Prop} [Decidable condition] {reason : String} :
    (if condition then none else some reason) = none ↔ condition := by
  by_cases h : condition
  · rw [if_pos h]
    exact iff_of_true rfl h
  · rw [if_neg h]
    exact iff_of_false nofun h

/-- There is a complaint if a condition holds, and there may be others. -/
theorem ite_some_eq_none_iff {condition : Prop} [Decidable condition] {reason : String}
    {others : Option String} :
    (if condition then some reason else others) = none ↔ ¬condition ∧ others = none := by
  by_cases h : condition
  · rw [if_pos h]
    exact iff_of_false nofun fun hnot => hnot.1 h
  · rw [if_neg h]
    exact (and_iff_right h).symm

theorem choiceComplaint?_eq_none_iff {field text : String} {choices : List String}
    (hne : text ≠ "") : choiceComplaint? field choices text = none ↔ text ∈ choices :=
  ite_none_eq_none_iff.trans (or_iff_right hne)

theorem isGroupNameChar_iff {c : Char} :
    isGroupNameChar c = true ↔ c.isAlphanum ∨ c = '_' ∨ c = '-' := by
  rw [isGroupNameChar, Bool.or_eq_true, Bool.or_eq_true, decide_eq_true_eq, decide_eq_true_eq,
    or_assoc]

/-- What the rules on texts ask of a text that is not empty. -/
theorem complaint?_eq_none_iff {field text : String} {rule : TextRule} (hne : text ≠ "") :
    rule.complaint? field text = none ↔ rule.Shape text := by
  cases rule with
  | groupName =>
      -- A text that is not empty is long enough.
      have hsome : 1 ≤ text.length := by
        refine Nat.one_le_iff_ne_zero.2 fun hzero => hne ?_
        exact String.length_eq_zero_iff.1 hzero
      have hchars : text.toList.all isGroupNameChar = true ↔
          ∀ c ∈ text.toList, c.isAlphanum ∨ c = '_' ∨ c = '-' := by
        rw [List.all_eq_true]
        exact forall₂_congr fun c _ => isGroupNameChar_iff
      rw [complaint?, ite_some_eq_none_iff, ite_some_eq_none_iff, Bool.not_eq_true',
        Bool.not_eq_false, hchars, Nat.not_lt, maxGroupName, and_iff_left rfl, and_comm, Shape,
        IsGroupName, and_iff_right hsome]
  | userName =>
      have hany : (text.toList.any fun c => c = ':' || c = ',') = true ↔
          ':' ∈ text.toList ∨ ',' ∈ text.toList := by
        simp only [List.any_eq_true, Bool.or_eq_true, decide_eq_true_eq, and_or_left, exists_or,
          exists_eq_right]
      rw [complaint?, ite_some_eq_none_iff, hany, and_iff_left rfl, not_or, Shape, IsUserName]
  | email =>
      rw [complaint?, Shape, IsEmail, ← isEmail_iff]
      exact ite_none_eq_none_iff.trans (or_iff_right hne)
  | position => exact choiceComplaint?_eq_none_iff hne
  | role => exact choiceComplaint?_eq_none_iff hne
  | ticket =>
      rw [complaint?, Shape, IsTicket, ite_none_eq_none_iff, isTicket, Bool.and_eq_true,
        List.all_eq_true, decide_eq_true_eq, and_comm, String.length_toList, maxTicket]

end TextRule

namespace Record

/-- A column holds a text that is not empty. -/
def HasText (record : Record) (column : String) : Prop :=
  ∃ text, text ≠ "" ∧ record.get? column = some (.string text)

/-- If a column holds anything but null, it holds a text of a shape. -/
def Obeys (record : Record) (column : String) (shape : String → Prop) : Prop :=
  ∀ value, record.get? column = some value → value ≠ .null →
    ∃ text, value = .string text ∧ shape text

variable {record : Record} {column : String} {shape : String → Prop}

theorem obeys_of_none (h : record.get? column = none) : record.Obeys column shape := by
  intro value hvalue
  rw [h] at hvalue
  cases hvalue

theorem obeys_of_null (h : record.get? column = some .null) : record.Obeys column shape := by
  intro value hvalue hne
  rw [h] at hvalue
  cases hvalue
  exact absurd rfl hne

theorem obeys_iff_of_text {text : String} (h : record.get? column = some (.string text)) :
    record.Obeys column shape ↔ shape text := by
  constructor
  · intro hobeys
    rcases hobeys _ h Document.noConfusion with ⟨other, hother, hshape⟩
    cases hother
    exact hshape
  · intro hshape value hvalue _
    rw [h] at hvalue
    cases hvalue
    exact ⟨text, rfl, hshape⟩

end Record

theorem Payload.blankToNull_of_ne {text : String} (h : text ≠ "") :
    blankToNull (.string text) = .string text := by
  rw [blankToNull.eq_def]
  split
  · rename_i hsame
    cases hsame
    exact absurd rfl h
  · rfl

section

variable {form : Form} {filled : Filled} {field : FormField}

/-- What becomes of a field that takes texts, and what the record then has for it: nothing if
    the field was left out, null if it was cleared or given an empty text, or else the text. -/
theorem Form.column_cases (form : Form) (hdistinct : (filled.map Prod.fst).Nodup)
    (hadmits : field.Admits (filled.entry field.name)) (hkind : field.kind = .text) :
    (filled.entry field.name = .missing ∧ field.presence ≠ .required ∧
      (form.payload filled).normal.get? field.name = none) ∨
    ((filled.entry field.name = .cleared ∨ filled.entry field.name = .given (.text "")) ∧
      (form.payload filled).normal.get? field.name = some .null) ∨
    ∃ text, text ≠ "" ∧ filled.entry field.name = .given (.text text) ∧
      (form.payload filled).normal.get? field.name = some (.string text) := by
  rw [get?_normal hdistinct]
  cases hentry : filled.entry field.name with
  | missing =>
      rw [hentry] at hadmits
      exact Or.inl ⟨rfl, hadmits, rfl⟩
  | cleared => exact Or.inr (Or.inl ⟨Or.inl rfl, rfl⟩)
  | given value =>
      rw [hentry] at hadmits
      cases value with
      | text text =>
          by_cases hempty : text = ""
          · rw [hempty]
            exact Or.inr (Or.inl ⟨Or.inr rfl, rfl⟩)
          · exact Or.inr (Or.inr ⟨text, hempty, rfl,
              congrArg some (Payload.blankToNull_of_ne hempty)⟩)
      | integer n => cases hkind.symm.trans hadmits.1
      | flag b => cases hkind.symm.trans hadmits

/-- A required field makes for a column with a text, or the field was left out. -/
theorem Rule.required_eq_none_iff (hdistinct : (filled.map Prod.fst).Nodup)
    (hadmits : field.Admits (filled.entry field.name)) (hkind : field.kind = .text) :
    (Rule.required field.name).complaint? filled = none ↔
      (form.payload filled).normal.get? field.name = none ∨
        (form.payload filled).normal.HasText field.name := by
  rcases Form.column_cases form hdistinct hadmits hkind with
    ⟨hentry, -, hcolumn⟩ | ⟨hentry, hcolumn⟩ | ⟨text, hne, hentry, hcolumn⟩
  · rw [complaint?, hentry]
    exact iff_of_true rfl (Or.inl hcolumn)
  · have hnot : ¬((form.payload filled).normal.get? field.name = none ∨
        (form.payload filled).normal.HasText field.name) := by
      rintro (hnone | ⟨text, -, htext⟩)
      · cases hcolumn.symm.trans hnone
      · cases hcolumn.symm.trans htext
    refine iff_of_false ?_ hnot
    rcases hentry with hentry | hentry
    · rw [complaint?, hentry]
      exact Option.some_ne_none _
    · rw [complaint?, hentry]
      exact Option.some_ne_none _
  · refine iff_of_true ?_ (Or.inr ⟨text, hne, hcolumn⟩)
    rw [complaint?, hentry]
    split
    · rename_i hcleared
      cases hcleared
    · -- An empty text is refused like a field that was cleared, but this one is not empty.
      rename_i hblank
      cases hblank
      exact absurd rfl hne
    · rfl

/-- A rule on a text makes for a column with such a text, or one without. -/
theorem Rule.text_eq_none_iff (hdistinct : (filled.map Prod.fst).Nodup)
    (hadmits : field.Admits (filled.entry field.name)) (hkind : field.kind = .text)
    (rule : TextRule) :
    (Rule.text field.name rule).complaint? filled = none ↔
      (form.payload filled).normal.Obeys field.name rule.Shape := by
  rcases Form.column_cases form hdistinct hadmits hkind with
    ⟨hentry, -, hcolumn⟩ | ⟨hentry, hcolumn⟩ | ⟨text, hne, hentry, hcolumn⟩
  · rw [complaint?, hentry]
    exact iff_of_true rfl (Record.obeys_of_none hcolumn)
  · -- The rules on texts let the empty text pass, which becomes null.
    refine iff_of_true ?_ (Record.obeys_of_null hcolumn)
    rcases hentry with hentry | hentry
    · rw [complaint?, hentry]
      rfl
    · rw [complaint?, hentry]
      exact rule.complaint?_empty field.name
  · rw [complaint?, hentry]
    exact (TextRule.complaint?_eq_none_iff hne).trans (Record.obeys_iff_of_text hcolumn).symm

/-- A field that has to be given leaves no column out. -/
theorem Form.get?_ne_none_of_required (hdistinct : (filled.map Prod.fst).Nodup)
    (hadmits : field.Admits (filled.entry field.name)) (hkind : field.kind = .text)
    (hrequired : field.presence = .required) :
    (form.payload filled).normal.get? field.name ≠ none := by
  rcases column_cases form hdistinct hadmits hkind with
    ⟨-, hnot, -⟩ | ⟨-, hcolumn⟩ | ⟨text, -, -, hcolumn⟩
  · exact absurd hrequired hnot
  · rw [hcolumn]
    exact Option.some_ne_none _
  · rw [hcolumn]
    exact Option.some_ne_none _

end

/-- The column that a rule is about. -/
def Rule.column : Rule → String
  | required column => column
  | text column _ => column

/-- What a rule asks of a record. -/
def Rule.Asks (record : Record) : Rule → Prop
  | required column => record.get? column = none ∨ record.HasText column
  | text column rule => record.Obeys column rule.Shape

namespace Resource

/-- The columns that have to hold a text. -/
def requiredColumns : Resource → List String
  | groups => ["name"]
  | users => ["email1"]
  | projects => ["name", "accounting_group"]
  | notes => ["note"]
  | submitNodes => ["name"]

/-- The columns whose texts have to look like something. -/
def shapes : Resource → List (String × (String → Prop))
  | groups => [("name", IsGroupName)]
  | users =>
    [("email1", IsEmail), ("email2", IsEmail), ("name", IsUserName), ("position", IsPosition)]
  | projects => []
  | notes => [("ticket", IsTicket)]
  | submitNodes => []

/-- What is asked of a record that is created: all required columns hold a text, and all texts
    look as they have to. -/
structure LawfulCreation (resource : Resource) (record : Record) : Prop where
  required : ∀ column ∈ resource.requiredColumns, record.HasText column
  shaped : ∀ shape ∈ resource.shapes, record.Obeys shape.1 shape.2

/-- What is asked of a record that is changed: the required columns are left alone or hold a
    text, and all texts look as they have to. -/
structure LawfulChange (resource : Resource) (record : Record) : Prop where
  required : ∀ column ∈ resource.requiredColumns,
    record.get? column = none ∨ record.HasText column
  shaped : ∀ shape ∈ resource.shapes, record.Obeys shape.1 shape.2

variable {resource : Resource} {form : Form} {listed : Listed} {room : Nat} {tree : Tree}
  {filled : Filled} {payload : Payload}

/-- The rules of a resource ask for what is asked of a change. -/
theorem lawfulChange_iff {record : Record} :
    resource.LawfulChange record ↔ ∀ rule ∈ resource.rules, rule.Asks record := by
  have hsplit : resource.LawfulChange record ↔
      (∀ column ∈ resource.requiredColumns, record.get? column = none ∨ record.HasText column) ∧
        ∀ shape ∈ resource.shapes, record.Obeys shape.1 shape.2 :=
    ⟨fun h => ⟨h.required, h.shaped⟩, fun h => ⟨h.1, h.2⟩⟩
  rw [hsplit]
  cases resource with
  | groups | users | projects | notes | submitNodes =>
      -- Both sides list the same columns, the rules one after the other.
      simp only [requiredColumns, shapes, rules, Rule.Asks, TextRule.Shape, List.forall_mem_cons,
        List.not_mem_nil, false_implies, implies_true, and_true]

/-- A record that is created has all required columns. -/
theorem lawfulCreation_iff {record : Record}
    (hthere : ∀ column ∈ resource.requiredColumns, record.get? column ≠ none) :
    resource.LawfulCreation record ↔ resource.LawfulChange record := by
  constructor
  · exact fun h => ⟨fun column hcolumn => Or.inr (h.required column hcolumn), h.shaped⟩
  · exact fun h => ⟨fun column hcolumn =>
      (h.required column hcolumn).resolve_left (hthere column hcolumn), h.shaped⟩

/-- Rules are about fields that take texts. -/
theorem exists_field_of_rule (hform : form = resource.createForm ∨ form = resource.updateForm) :
    form.rules = resource.rules ∧ ∀ rule ∈ resource.rules, ∃ field ∈ form.fields,
      field.name = rule.column ∧ field.kind = .text := by
  rcases hform with rfl | rfl
  · cases resource <;> exact ⟨rfl, by decide⟩
  · cases resource <;> exact ⟨rfl, by decide⟩

/-- There is no complaint just if the record is lawful. -/
theorem complaint?_eq_none_iff (hform : form = resource.createForm ∨ form = resource.updateForm)
    (h : form.decode room tree = .ok filled) :
    form.complaint? filled = none ↔ resource.LawfulChange (form.payload filled).normal := by
  rcases fields_of_form hform with ⟨hfields, -⟩
  rcases Form.admits_of_decode hfields h with ⟨hnames, hadmits⟩
  have hdistinct : (filled.map Prod.fst).Nodup := hnames.symm ▸ hfields
  rcases exists_field_of_rule hform with ⟨hrules, hfield⟩
  rw [Form.complaint?_eq_none_iff, hrules, lawfulChange_iff]
  refine forall₂_congr fun rule hrule => ?_
  -- Rule by rule, what it says of the entries is what it asks of the record.
  rcases hfield rule hrule with ⟨field, hmem, hname, hkind⟩
  cases rule with
  | required column =>
      cases hname
      exact Rule.required_eq_none_iff hdistinct (hadmits field hmem) hkind
  | text column shape =>
      cases hname
      exact Rule.text_eq_none_iff hdistinct (hadmits field hmem) hkind shape

/-- The fields for required columns have to be given when a record is created. -/
theorem get?_ne_none_of_createForm (h : resource.createForm.decode room tree = .ok filled) :
    ∀ column ∈ resource.requiredColumns,
      (resource.createForm.payload filled).normal.get? column ≠ none := by
  have hform : resource.createForm = resource.createForm ∨
      resource.createForm = resource.updateForm := Or.inl rfl
  rcases fields_of_form hform with ⟨hfields, -⟩
  rcases Form.admits_of_decode hfields h with ⟨hnames, hadmits⟩
  have hrequired : ∀ column ∈ resource.requiredColumns, ∃ field ∈ resource.createForm.fields,
      field.name = column ∧ field.kind = .text ∧ field.presence = .required := by
    cases resource <;> decide
  intro column hcolumn
  rcases hrequired column hcolumn with ⟨field, hmem, rfl, hkind, hpresence⟩
  exact Form.get?_ne_none_of_required (hnames.symm ▸ hfields) (hadmits field hmem) hkind hpresence

/-- What a form makes of a body is written just if the record is lawful. -/
theorem exists_record_iff (hform : form = resource.createForm ∨ form = resource.updateForm)
    (hlisted : Catalog.builtin.find resource.collection = .ok listed)
    (h : form.decodePayload room tree = .ok payload) :
    ((∃ record, payload.record listed.table = .ok record) ↔
      resource.LawfulChange payload.normal) ∧
    ∀ record, payload.record listed.table = .ok record → record = payload.normal := by
  have hwritten := Payload.written_iff_of_imp (fits_of_form hform hlisted h)
  rcases map_eq_ok_iff.1 h with ⟨filled, hfilled, rfl⟩
  exact ⟨hwritten.1.trans (complaint?_eq_none_iff hform hfilled), hwritten.2⟩

end Resource

namespace Link

variable {project : Int} {member : ProjectMember}

/-- The role of a membership, as it is written. -/
theorem get?_role (project : Int) (member : ProjectMember) :
    (userProject project member).normal.get? "role" =
      member.role.map fun role => Payload.blankToNull (.string role) := by
  rcases member with ⟨user, role, primary⟩
  -- Whichever members there are, the map finds the last one under the name.
  have hmembers : ∀ members : List (String × Document),
      ((Sorted.ofList (Sorted.ofList members).entries).mapValues
        Payload.blankToNull).get? "role" =
          (members.reverse.lookup "role").map Payload.blankToNull := by
    intro members
    rw [Sorted.get?_mapValues, Sorted.ofList_entries, Sorted.get?_ofList]
  cases role with
  | none => exact hmembers _
  | some role => exact hmembers _

/-- There is no complaint about a membership just if its role is one. -/
theorem complaint_userProject_eq_none_iff :
    (userProject project member).complaint = none ↔
      (userProject project member).normal.Obeys "role" IsRole := by
  have hrole := get?_role project member
  rcases member with ⟨user, role, primary⟩
  cases role with
  | none => exact iff_of_true rfl (Record.obeys_of_none hrole)
  | some role =>
      by_cases hempty : role = ""
      · cases hempty
        exact iff_of_true rfl (Record.obeys_of_null hrole)
      · have htext := hrole.trans (congrArg some (Payload.blankToNull_of_ne hempty))
        have hrule : TextRule.role.complaint? "role" role = none ↔ IsRole role :=
          TextRule.complaint?_eq_none_iff hempty
        exact hrule.trans (Record.obeys_iff_of_text htext).symm

end Link

/-- Whatever the body, what a form makes of it is written just if the record is lawful, which
    is said of the record as it will be written: the members of the payload, with null for the
    empty string. This holds for creating and for changing records of all resources, and for
    memberships. No change clears a required column. -/
theorem written_iff_lawful :
    (∀ (resource : Resource) (listed : Listed),
      Catalog.builtin.find resource.collection = .ok listed →
      ∀ (room : Nat) (tree : Tree) (payload : Payload),
        (resource.createForm.decodePayload room tree = .ok payload →
          ((∃ record, payload.record listed.table = .ok record) ↔
            resource.LawfulCreation payload.normal) ∧
          ∀ record, payload.record listed.table = .ok record → record = payload.normal) ∧
        (resource.updateForm.decodePayload room tree = .ok payload →
          ((∃ record, payload.record listed.table = .ok record) ↔
            resource.LawfulChange payload.normal) ∧
          ∀ record, payload.record listed.table = .ok record → record = payload.normal ∧
            ∀ column ∈ resource.requiredColumns, record.get? column ≠ some .null)) ∧
    ∀ listed, Catalog.builtin.find Collection.userProjects = .ok listed →
      ∀ (project : Int) (member : ProjectMember),
        ((∃ record, (Link.userProject project member).record listed.table = .ok record) ↔
          (Link.userProject project member).normal.Obeys "role" IsRole) ∧
        ∀ record, (Link.userProject project member).record listed.table = .ok record →
          record = (Link.userProject project member).normal := by
  refine ⟨fun resource listed hlisted room tree payload => ⟨fun h => ?_, fun h => ?_⟩, ?_⟩
  · rcases Resource.exists_record_iff (Or.inl rfl) hlisted h with ⟨hwritten, hnormal⟩
    refine ⟨?_, hnormal⟩
    rcases map_eq_ok_iff.1 h with ⟨filled, hfilled, rfl⟩
    exact hwritten.trans
      (Resource.lawfulCreation_iff (Resource.get?_ne_none_of_createForm hfilled)).symm
  · rcases Resource.exists_record_iff (Or.inr rfl) hlisted h with ⟨hwritten, hnormal⟩
    refine ⟨hwritten, fun record hrecord => ⟨hnormal record hrecord, fun column hcolumn => ?_⟩⟩
    -- The record is lawful, so the column is left alone or holds a text.
    have hlawful := hwritten.1 ⟨record, hrecord⟩
    rw [hnormal record hrecord]
    rcases hlawful.required column hcolumn with hnone | ⟨text, -, htext⟩
    · rw [hnone]
      exact (Option.some_ne_none _).symm
    · rw [htext]
      intro hnull
      cases hnull
  · intro listed hlisted project member
    have hwritten := Payload.written_iff_of_imp (Link.fits_userProject hlisted project member)
    exact ⟨hwritten.1.trans Link.complaint_userProject_eq_none_iff, hwritten.2⟩

/-- A body that has nothing but a name. -/
def namedBody (name : Tree) : Tree :=
  .object [("name".toList.map .char, name)] true

/-- A group is created under its name, and a change does not take the name away. -/
theorem written_iff_lawful_named : ∃ listed named cleared,
    Catalog.builtin.find Collection.groups = .ok listed ∧
      Resource.groups.createForm.decodePayload 127
        (namedBody (.string ("physics_lab-2".toList.map .char))) = .ok named ∧
      Resource.groups.LawfulCreation named.normal ∧
      Resource.groups.updateForm.decodePayload 127 (namedBody (.string [])) = .ok cleared ∧
      ¬∃ record, cleared.record listed.table = .ok record := by
  have hpayloads : ∃ listed named cleared,
      Catalog.builtin.find Collection.groups = .ok listed ∧
      Resource.groups.createForm.decodePayload 127
        (namedBody (.string ("physics_lab-2".toList.map .char))) = .ok named ∧
      named.complaint = none ∧
      Resource.groups.updateForm.decodePayload 127 (namedBody (.string [])) = .ok cleared ∧
      cleared.normal.get? "name" = some .null :=
    ⟨_, _, _, rfl, rfl, by decide +kernel, rfl, rfl⟩
  rcases hpayloads with ⟨listed, named, cleared, hlisted, hnamed, haccepted, hcleared, hnull⟩
  have hform : Resource.groups.createForm = Resource.groups.createForm ∨
      Resource.groups.createForm = Resource.groups.updateForm := Or.inl rfl
  have hfits := Resource.fits_of_form hform hlisted hnamed haccepted
  refine ⟨listed, named, cleared, hlisted, hnamed, ?_, hcleared, fun hwritten => ?_⟩
  -- The first body is accepted and so its record lawful; if the second was written, its record
  -- would be, and have a name.
  · rcases written_iff_lawful.1 .groups listed hlisted 127 _ named with ⟨hcreation, -⟩
    exact (hcreation hnamed).1.1 ⟨_, Payload.record_eq_normal hfits⟩
  · rcases written_iff_lawful.1 .groups listed hlisted 127 _ cleared with ⟨-, hchange⟩
    rcases ((hchange hcleared).1.1 hwritten).required "name" (by decide) with hnone | ⟨_, -, htext⟩
    · cases hnull.symm.trans hnone
    · cases hnull.symm.trans htext

end Registrar
