import Registrar.Proofs.Json.Decoded

/-!
# A Member Exchanged for Another

Two objects that differ in the value of one member, where a field reads both values. What is
taken from them then differs under the name of that field and nowhere else, and a body that is
refused on account of its other members is refused in the same way either way.

The members are read from left to right onto those found before. Up to the member in question
both readings are the same; at this member the one finds another value than the other, or both
refuse a name that comes twice; and from there on what was found makes no difference except
that its names may not come again.

## Main definitions

* `exchange`: Give a name another value, wherever it stands.

## Theorems

* `Decoder.fieldsFound_append`: Members are read one after another.
* `Decoder.fieldsFound_exchange`: What was found under a name is carried along.
* `Decoder.record_exchange`: What a record takes from two objects that differ in a member.
-/

namespace Registrar

variable {α : Type}

/-- Give a name another value, wherever it stands. -/
def exchange (name : String) (value : α) (entries : List (String × α)) : List (String × α) :=
  entries.map fun entry => (entry.1, if entry.1 = name then value else entry.2)

theorem names_exchange (name : String) (value : α) (entries : List (String × α)) :
    (exchange name value entries).map Prod.fst = entries.map Prod.fst :=
  List.map_map

theorem lookup_exchange (name : String) (value : α) (entries : List (String × α))
    (other : String) :
    (exchange name value entries).lookup other =
      (entries.lookup other).map fun old => if other = name then value else old := by
  induction entries with
  | nil => rfl
  | cons entry rest ih =>
      rw [exchange, List.map_cons, ← exchange, List.lookup_cons, List.lookup_cons, ih]
      by_cases hother : other = entry.1
      · rw [beq_iff_eq.2 hother, hother]
        rfl
      · rw [beq_eq_false_iff_ne.2 hother]

theorem isSome_lookup_exchange (name : String) (value : α) (entries : List (String × α))
    (other : String) :
    ((exchange name value entries).lookup other).isSome = (entries.lookup other).isSome := by
  rw [lookup_exchange, Option.isSome_map]

theorem exchange_append (name : String) (value : α) (entries others : List (String × α)) :
    exchange name value (entries ++ others) =
      exchange name value entries ++ exchange name value others :=
  List.map_append

/-- A name that is not there is not exchanged. -/
theorem exchange_of_lookup {name : String} {entries : List (String × α)}
    (h : entries.lookup name = none) (value : α) : exchange name value entries = entries := by
  refine List.map_congr_left (fun entry hentry => ?_) |>.trans entries.map_id
  have hne : entry.1 ≠ name := by
    rintro rfl
    exact lookup_eq_none_iff_not_mem.1 h (List.mem_map_of_mem hentry)
  rw [if_neg hne]
  rfl

namespace Json.Decoder

variable {fields : List (Field α)} {room : Nat} {members later : List (StringLexeme × Tree)}
  {found : List (String × α)}

/-- Members are read one after another, onto what the earlier ones gave. -/
theorem fieldsFound_append : fieldsFound fields room (members ++ later) found =
    (fieldsFound fields room members found).bind (fieldsFound fields room later) := by
  induction members generalizing found with
  | nil => rfl
  | cons member members ih =>
      rcases member with ⟨key, tree⟩
      rw [List.cons_append, fieldsFound, fieldsFound]
      -- Whatever becomes of the first member, the others are read from there on.
      cases lexemeText key with
      | error problem => rfl
      | ok name =>
          simp only [bind, Except.bind]
          cases fields.find? fun field => field.name = name with
          | none =>
              by_cases hwhole : tree.isWhole = true
              · simp only [if_pos hwhole]
                exact ih
              · simp only [if_neg hwhole]
          | some field =>
              by_cases hagain : (found.lookup name).isSome = true
              · simp only [if_pos hagain]
              · simp only [if_neg hagain]
                cases field.decode room tree with
                | error problem => rfl
                | ok value => exact ih

theorem fieldsFound_cons_eq_bind (member : StringLexeme × Tree) :
    fieldsFound fields room (member :: later) found =
      (fieldsFound fields room [member] found).bind (fieldsFound fields room later) := by
  rw [← List.singleton_append, fieldsFound_append]

/-- What was found under a name is carried along as it is: it makes no difference to the
    members that come later. -/
theorem fieldsFound_exchange {name : String} (value : α)
    (hfound : (found.lookup name).isSome = true) :
    fieldsFound fields room members (exchange name value found) =
      (fieldsFound fields room members found).map (exchange name value) := by
  induction members generalizing found with
  | nil => rfl
  | cons member members ih =>
      rcases member with ⟨key, tree⟩
      rw [fieldsFound, fieldsFound]
      cases lexemeText key with
      | error problem => rfl
      | ok own =>
          simp only [bind, Except.bind, isSome_lookup_exchange]
          cases fields.find? fun field => field.name = own with
          | none =>
              by_cases hwhole : tree.isWhole = true
              · simp only [if_pos hwhole]
                exact ih hfound
              · simp only [if_neg hwhole]
                rfl
          | some field =>
              by_cases hagain : (found.lookup own).isSome = true
              · simp only [if_pos hagain]
                rfl
              · simp only [if_neg hagain]
                cases field.decode room tree with
                | error problem => rfl
                | ok ownValue =>
                    -- The member has another name, because that one has been found.
                    have hown : own ≠ name := by
                      rintro rfl
                      exact hagain hfound
                    have hmore : exchange name value found ++ [(own, ownValue)] =
                        exchange name value (found ++ [(own, ownValue)]) := by
                      rw [exchange_append, exchange, exchange, List.map_singleton, if_neg hown]
                    have hstill : ((found ++ [(own, ownValue)]).lookup name).isSome = true := by
                      rw [List.lookup_append, Option.isSome_or, hfound, Bool.true_or]
                    simp only [hmore]
                    exact ih hstill

variable {before after : List (StringLexeme × Tree)} {key : StringLexeme} {name : String}
  {field : Field α} {tree other : Tree} {value otherValue : α}

/-- A member that a field can read is found, unless its name has come before. -/
theorem fieldsFound_singleton (hkey : key.value? = some name)
    (hfield : (fields.find? fun field => field.name = name) = some field)
    (hvalue : field.decode room tree = .ok value) :
    fieldsFound fields room [(key, tree)] found =
      if (found.lookup name).isSome then .error .mismatched
      else .ok (found ++ [(name, value)]) := by
  rw [fieldsFound, lexemeText_eq_ok_iff.2 hkey]
  simp only [bind, Except.bind, hfield, hvalue, fieldsFound]

/-- Exchanging the value of one member exchanges what is found under its name. -/
theorem fieldsFound_member (hkey : key.value? = some name)
    (hfield : (fields.find? fun field => field.name = name) = some field)
    (hvalue : field.decode room tree = .ok value)
    (hother : field.decode room other = .ok otherValue) :
    fieldsFound fields room (before ++ (key, other) :: after) found =
      (fieldsFound fields room (before ++ (key, tree) :: after) found).map
        (exchange name otherValue) := by
  rw [fieldsFound_append, fieldsFound_append]
  cases fieldsFound fields room before found with
  | error problem => rfl
  | ok found =>
      simp only [Except.bind]
      rw [fieldsFound_cons_eq_bind, fieldsFound_singleton hkey hfield hother,
        fieldsFound_cons_eq_bind (key, tree), fieldsFound_singleton hkey hfield hvalue]
      cases hlookup : found.lookup name with
      | some old => rfl
      | none =>
          -- What was found before is the same, and so is all that comes later.
          have hexchanged : found ++ [(name, otherValue)] =
              exchange name otherValue (found ++ [(name, value)]) := by
            rw [exchange_append, exchange_of_lookup hlookup, exchange, List.map_singleton,
              if_pos rfl]
          have hfound : ((found ++ [(name, value)]).lookup name).isSome = true := by
            rw [List.lookup_append, hlookup, Option.none_or, List.lookup_cons, beq_self_eq_true]
            rfl
          simp only [Option.isSome_none, Bool.false_eq_true, if_false, Except.bind, hexchanged]
          exact fieldsFound_exchange otherValue hfound

/-- What comes out for a field: what was found under its name, or else its fallback. -/
def Field.fill (field : Field α) (found : List (String × α)) : Except Problem α :=
  match found.lookup field.name with
  | some value => .ok value
  | none => field.missing

theorem complete_cons_eq_bind (field : Field α) (rest : List (Field α)) :
    complete found (field :: rest) =
      (field.fill found).bind fun own => (complete found rest).map (own :: ·) := by
  rw [complete, Field.fill]
  cases found.lookup field.name with
  | some value => rfl
  | none => rfl

theorem Field.fill_exchange (hfound : (found.lookup name).isSome = true) :
    field.fill (exchange name value found) =
      (field.fill found).map fun own => if field.name = name then value else own := by
  rw [fill, fill, lookup_exchange]
  cases hlookup : found.lookup field.name with
  | some own => rfl
  | none =>
      -- The field is another one, because that one has been found.
      have hname : field.name ≠ name := by
        rintro rfl
        rw [hlookup] at hfound
        exact Bool.false_ne_true hfound
      simp only [Option.map_none, if_neg hname]
      cases field.missing <;> rfl

/-- What comes out under the names of the fields is exchanged with what was found. -/
theorem complete_exchange (hfound : (found.lookup name).isSome = true) :
    (complete (exchange name value found) fields).map ((fields.map Field.name).zip ·) =
      (complete found fields).map fun values =>
        exchange name value ((fields.map Field.name).zip values) := by
  induction fields with
  | nil => rfl
  | cons field rest ih =>
      rw [complete_cons_eq_bind, complete_cons_eq_bind, Field.fill_exchange hfound]
      cases field.fill found with
      | error problem => rfl
      | ok own =>
          -- The first name comes off both sides, so that the others are left.
          have hcons : ∀ (own : α) (others : Except Problem (List α)),
              (others.map (own :: ·)).map (((field :: rest).map Field.name).zip ·) =
                (others.map ((rest.map Field.name).zip ·)).map ((field.name, own) :: ·) :=
            fun own others => by cases others <;> rfl
          have hexchange : ∀ others : Except Problem (List α),
              (others.map (own :: ·)).map (fun values =>
                exchange name value (((field :: rest).map Field.name).zip values)) =
              (others.map fun values =>
                exchange name value ((rest.map Field.name).zip values)).map
                  ((field.name, if field.name = name then value else own) :: ·) :=
            fun others => by cases others <;> rfl
          exact (hcons _ _).trans ((congrArg _ ih).trans (hexchange _).symm)

/-- What a record takes from an object is exchanged with the value of a member. -/
theorem record_exchange (room : Nat) (before after : List (StringLexeme × Tree)) (closed : Bool)
    (hkey : key.value? = some name)
    (hfield : (fields.find? fun field => field.name = name) = some field)
    (hvalue : ∀ room, field.decode room tree = .ok value)
    (hother : ∀ room, field.decode room other = .ok otherValue) :
    (record fields room (.object (before ++ (key, other) :: after) closed)).map
        ((fields.map Field.name).zip ·) =
      (record fields room (.object (before ++ (key, tree) :: after) closed)).map fun values =>
        exchange name otherValue ((fields.map Field.name).zip values) := by
  cases room with
  | zero => rfl
  | succ inside =>
      simp only [record, enter, bind]
      rw [fieldsFound_member hkey hfield (hvalue inside) (hother inside)]
      cases hfound : fieldsFound fields inside (before ++ (key, tree) :: after) [] with
      | error problem => rfl
      | ok found =>
          cases closed with
          | false => rfl
          | true =>
              -- The member was found, so there is a value to be exchanged.
              have hmem : (name, value) ∈ found := by
                refine (mem_fieldsFound hfound).2 (Or.inr ⟨key, tree, field, ?_, hkey, hfield, ?_⟩)
                · exact List.mem_append_right _ List.mem_cons_self
                · exact hvalue inside
              have hlookup := (lookup_eq_some_iff_mem
                (nodup_fieldsFound hfound List.nodup_nil)).2 hmem
              exact complete_exchange (Option.isSome_iff_exists.2 ⟨value, hlookup⟩)

end Json.Decoder

end Registrar
