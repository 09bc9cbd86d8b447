/-!
# Sorted Maps

Members under distinct names, kept in ascending order of the names.

Order is by code point, which for valid text is also the order of its UTF-8
bytes. Everything that answers show "with sorted keys" is held in this form:
the collections of a catalog, the members of a record, the columns an update
sets. The order is part of the type, so no caller sorts and none can see a
name twice.

## Main definitions

* `Sorted`: A list of named members whose names ascend strictly.
* `Sorted.insert`: Put a member under a name, replacing the one it had.
* `Sorted.ofList`: Insert members one after another; the last one of a name
  stays.
* `Sorted.get?`: The member under a name.

## Theorems

* `Sorted.insertEntry_pairwise`: Inserting keeps the names ascending.
* `Sorted.mem_ofList`: Members come from the list.
-/

namespace Registrar

/-- Members under distinct names, in ascending order of the names. -/
structure Sorted (α : Type) where
  entries : List (String × α)
  ascending : entries.Pairwise fun a b => a.1 < b.1

namespace Sorted

variable {α : Type}

/-- Put a member at its place in an ascending list, replacing one of the same
    name. -/
def insertEntry (name : String) (value : α) : List (String × α) → List (String × α)
  | [] => [(name, value)]
  | entry :: rest =>
    if name < entry.1 then (name, value) :: entry :: rest
    else if name = entry.1 then (name, value) :: rest
    else entry :: insertEntry name value rest

/-- Of two different texts one comes before the other. -/
theorem lt_of_not_lt_of_ne {a b : String} (hlt : ¬a < b) (hne : a ≠ b) : b < a := by
  rcases Decidable.em (b < a) with h | h
  · exact h
  · exact absurd (String.le_antisymm (String.not_lt.1 h) (String.not_lt.1 hlt)) hne

theorem mem_insertEntry {name : String} {value : α} {entries : List (String × α)}
    {e : String × α} (h : e ∈ insertEntry name value entries) :
    e = (name, value) ∨ e ∈ entries := by
  induction entries with
  | nil => exact Or.inl (List.mem_singleton.1 h)
  | cons entry rest ih =>
      simp only [insertEntry] at h
      split at h
      · exact List.mem_cons.1 h
      · split at h
        · rcases List.mem_cons.1 h with h | h
          · exact Or.inl h
          · exact Or.inr (List.mem_cons_of_mem _ h)
        · rcases List.mem_cons.1 h with h | h
          · exact Or.inr (h ▸ List.mem_cons_self)
          · exact (ih h).imp_right (List.mem_cons_of_mem _)

theorem insertEntry_pairwise (name : String) (value : α) {entries : List (String × α)}
    (h : entries.Pairwise fun a b => a.1 < b.1) :
    (insertEntry name value entries).Pairwise fun a b => a.1 < b.1 := by
  induction entries with
  | nil => exact List.pairwise_singleton _ _
  | cons entry rest ih =>
      obtain ⟨hhead, htail⟩ := List.pairwise_cons.1 h
      simp only [insertEntry]
      split
      · rename_i hlt
        refine List.pairwise_cons.2 ⟨fun e he => ?_, h⟩
        rcases List.mem_cons.1 he with he | he
        · exact he ▸ hlt
        · exact String.lt_trans hlt (hhead e he)
      · rename_i hlt
        split
        · rename_i heq
          exact List.pairwise_cons.2 ⟨fun e he => heq ▸ hhead e he, htail⟩
        · rename_i hne
          refine List.pairwise_cons.2 ⟨fun e he => ?_, ih htail⟩
          rcases mem_insertEntry he with he | he
          · exact he ▸ lt_of_not_lt_of_ne hlt hne
          · exact hhead e he

/-- No members. -/
def empty : Sorted α := ⟨[], List.Pairwise.nil⟩

instance : Inhabited (Sorted α) := ⟨empty⟩

/-- Put a member under a name, replacing the one it had. -/
def insert (map : Sorted α) (name : String) (value : α) : Sorted α :=
  ⟨insertEntry name value map.entries, insertEntry_pairwise name value map.ascending⟩

/-- Insert members one after another, so the last one of a name stays. -/
def ofList (members : List (String × α)) : Sorted α :=
  members.foldl (fun map entry => map.insert entry.1 entry.2) empty

/-- Members come from the list. -/
theorem mem_ofList {members : List (String × α)} {e : String × α}
    (h : e ∈ (ofList members).entries) : e ∈ members := by
  have hfold : ∀ (members : List (String × α)) (map : Sorted α),
      e ∈ (members.foldl (fun map entry => map.insert entry.1 entry.2) map).entries →
        e ∈ map.entries ∨ e ∈ members := by
    intro members
    induction members with
    | nil => exact fun _ h => Or.inl h
    | cons first rest ih =>
        intro map h
        rcases ih _ h with h | h
        · rcases mem_insertEntry h with rfl | h
          · exact Or.inr List.mem_cons_self
          · exact Or.inl h
        · exact Or.inr (List.mem_cons_of_mem _ h)
  exact (hfold members empty h).resolve_left List.not_mem_nil

/-- The member under a name. -/
def get? (map : Sorted α) (name : String) : Option α :=
  (map.entries.find? fun entry => entry.1 = name).map Prod.snd

theorem mem_of_get? {map : Sorted α} {name : String} {value : α} (h : map.get? name = some value) :
    (name, value) ∈ map.entries := by
  rcases Option.map_eq_some_iff.1 h with ⟨entry, hentry, rfl⟩
  have hname : entry.1 = name := by simpa only [decide_eq_true_eq] using List.find?_some hentry
  rw [← hname]
  exact List.mem_of_find?_eq_some hentry

/-- Whether there is a member under a name. -/
def contains (map : Sorted α) (name : String) : Bool :=
  (map.get? name).isSome

/-- The names, in ascending order. -/
def names (map : Sorted α) : List String :=
  map.entries.map Prod.fst

/-- The names are distinct. -/
theorem names_nodup (map : Sorted α) : map.names.Nodup := by
  refine List.pairwise_map.2 (map.ascending.imp fun hlt heq => ?_)
  rw [heq] at hlt
  exact String.lt_irrefl _ hlt

theorem mem_names_of_mem {map : Sorted α} {e : String × α} (h : e ∈ map.entries) :
    e.1 ∈ map.names :=
  List.mem_map_of_mem h

theorem contains_iff {map : Sorted α} {name : String} :
    map.contains name ↔ name ∈ map.names := by
  rw [contains, get?, Option.isSome_map, List.find?_isSome, names, List.mem_map]
  simp only [decide_eq_true_eq]

/-- Change every member and keep the names. -/
def mapValues {β : Type} (f : α → β) (map : Sorted α) : Sorted β :=
  ⟨map.entries.map fun entry => (entry.1, f entry.2),
    List.pairwise_map.2 map.ascending⟩

end Sorted

end Registrar
