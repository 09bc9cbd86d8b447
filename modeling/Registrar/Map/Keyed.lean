/-!
# Keyed Maps

Members under distinct keys, in the order in which the keys first came.

The columns of a table are such a map: their order is the order in which a
listing shows them, so it has to survive a round through JSON, and a key that
is given twice keeps its first place and takes the last value.

## Main definitions

* `Keyed`: A list of members with distinct keys.
* `Keyed.insert`: Replace the member of a key in place, or add it at the end.
* `Keyed.ofList`: Insert members one after another.
* `Keyed.get?`: The member under a key.

## Theorems

* `Keyed.insertEntry_nodup`: Inserting keeps the keys distinct.
-/

namespace Registrar

/-- Members under distinct keys, in the order of the keys' first insertion. -/
structure Keyed (α : Type) where
  entries : List (String × α)
  distinct : (entries.map Prod.fst).Nodup

namespace Keyed

variable {α : Type}

/-- Replace the member of a key in place, or add it at the end. -/
def insertEntry (key : String) (value : α) : List (String × α) → List (String × α)
  | [] => [(key, value)]
  | entry :: rest =>
    if key = entry.1 then (key, value) :: rest else entry :: insertEntry key value rest

theorem keys_insertEntry (key : String) (value : α) (entries : List (String × α)) :
    (insertEntry key value entries).map Prod.fst =
      if key ∈ entries.map Prod.fst then entries.map Prod.fst
      else entries.map Prod.fst ++ [key] := by
  induction entries with
  | nil => simp [insertEntry]
  | cons entry rest ih =>
      simp only [insertEntry]
      by_cases h : key = entry.1
      · simp [h]
      · simp only [h, if_false, List.map_cons, ih, List.mem_cons, false_or]
        split <;> simp

theorem insertEntry_nodup (key : String) (value : α) {entries : List (String × α)}
    (h : (entries.map Prod.fst).Nodup) : ((insertEntry key value entries).map Prod.fst).Nodup := by
  rw [keys_insertEntry]
  split
  · exact h
  · rename_i hnot
    exact List.nodup_append.2 ⟨h, List.pairwise_singleton _ key, fun a ha b hb hab =>
      hnot (List.mem_singleton.1 hb ▸ hab ▸ ha)⟩

/-- No members. -/
def empty : Keyed α := ⟨[], List.nodup_nil⟩

instance : Inhabited (Keyed α) := ⟨empty⟩

/-- Put a member under a key: in the key's place if it has one, else at the
    end. -/
def insert (map : Keyed α) (key : String) (value : α) : Keyed α :=
  ⟨insertEntry key value map.entries, insertEntry_nodup key value map.distinct⟩

/-- Insert members one after another. -/
def ofList (members : List (String × α)) : Keyed α :=
  members.foldl (fun map entry => map.insert entry.1 entry.2) empty

/-- The member under a key. -/
def get? (map : Keyed α) (key : String) : Option α :=
  (map.entries.find? fun entry => entry.1 = key).map Prod.snd

theorem mem_of_get? {map : Keyed α} {key : String} {value : α} (h : map.get? key = some value) :
    (key, value) ∈ map.entries := by
  rcases Option.map_eq_some_iff.1 h with ⟨entry, hentry, rfl⟩
  have hkey : entry.1 = key := by simpa only [decide_eq_true_eq] using List.find?_some hentry
  rw [← hkey]
  exact List.mem_of_find?_eq_some hentry

/-- Because keys are distinct, every member is found under its key. -/
theorem get?_of_mem {map : Keyed α} {key : String} {value : α} (h : (key, value) ∈ map.entries) :
    map.get? key = some value := by
  rcases map with ⟨entries, hdistinct⟩
  unfold get?
  induction entries with
  | nil => exact absurd h List.not_mem_nil
  | cons entry rest ih =>
      rw [List.map_cons, List.nodup_cons] at hdistinct
      rcases List.mem_cons.1 h with rfl | hmem
      · simp only [List.find?_cons, decide_true, Option.map_some]
      · have hne : entry.1 ≠ key := by
          intro hsame
          rw [hsame] at hdistinct
          exact hdistinct.1 (List.mem_map.2 ⟨(key, value), hmem, rfl⟩)
        simp only [List.find?_cons, hne, decide_false]
        exact ih hdistinct.2 hmem

/-- The keys, in order. -/
def keys (map : Keyed α) : List String :=
  map.entries.map Prod.fst

theorem isSome_get?_iff {map : Keyed α} {key : String} :
    (map.get? key).isSome ↔ key ∈ map.keys := by
  rw [get?, Option.isSome_map, List.find?_isSome, keys, List.mem_map]
  simp only [decide_eq_true_eq]

/-- The members, in the order of their keys. -/
def values (map : Keyed α) : List α :=
  map.entries.map Prod.snd

end Keyed

end Registrar
