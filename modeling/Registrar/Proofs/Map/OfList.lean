import Mathlib.Data.List.Nodup
import Registrar.Map.Keyed
import Registrar.Map.Sorted

/-!
# Maps Made of Lists

A list of members may give a key several times. Both kinds of maps then take the last value,
and they differ in the order: one keeps the place where a key first came, the other sorts. A
list that gives no key twice and is in order already is the list of its map, so a map that is
taken apart and put together again is the same.

## Theorems

* `lookup_eq_some_iff_mem`: Among distinct names a name finds its value.
* `get?_foldl`: A map that takes the last value of each key.
* `Keyed.keys_ofList`, `Keyed.get?_ofList`: The keys stand where they first came, with their
  last values.
* `Sorted.get?_ofList`, `Sorted.mem_ofList_of_nodup`: The same for the values of a sorted map,
  in which all members stay if their names are distinct.
* `Keyed.ofList_entries`, `Sorted.ofList_entries`: Maps are made of their members.
* `Sorted.eq_of_get?`: A sorted map is what is found in it.
-/

namespace Registrar

variable {α : Type}

/-- If inserting replaces the value of one key and no other, then after several insertions
    every key has the last value that was inserted, or the one it had before. -/
theorem get?_foldl {Map : Type} {insert : Map → String → α → Map}
    (get? : Map → String → Option α)
    (hinsert : ∀ map key value other, get? (insert map key value) other =
      if other = key then some value else get? map other)
    (members : List (String × α)) (map : Map) (key : String) :
    get? (members.foldl (fun map entry => insert map entry.1 entry.2) map) key =
      (members.reverse.lookup key).or (get? map key) := by
  induction members generalizing map with
  | nil => rfl
  | cons member rest ih =>
      rcases member with ⟨own, value⟩
      have hlast : (rest.reverse ++ [(own, value)]).lookup key =
          (rest.reverse.lookup key).or (if key = own then some value else none) := by
        rw [List.lookup_append, List.lookup_cons]
        by_cases hkey : key = own
        · rw [if_pos hkey, beq_iff_eq.2 hkey]
        · rw [if_neg hkey, beq_eq_false_iff_ne.2 hkey]
          rfl
      rw [List.foldl_cons, ih, hinsert, List.reverse_cons, hlast, Option.or_assoc]
      by_cases hkey : key = own
      · rw [if_pos hkey, if_pos hkey]
        rfl
      · rw [if_neg hkey, if_neg hkey, Option.none_or]

/-- A name finds nothing just if it is not there. -/
theorem lookup_eq_none_iff_not_mem {found : List (String × α)} {name : String} :
    found.lookup name = none ↔ name ∉ found.map Prod.fst := by
  rw [List.lookup_eq_none_iff]
  constructor
  · intro hall hmem
    rcases List.mem_map.1 hmem with ⟨entry, hentry, rfl⟩
    exact bne_iff_ne.1 (hall entry hentry) rfl
  · rintro hnot entry hentry
    exact bne_iff_ne.2 fun hsame => hnot (hsame ▸ List.mem_map_of_mem hentry)

/-- Among distinct names a name finds its value. -/
theorem lookup_eq_some_iff_mem {found : List (String × α)}
    (hdistinct : (found.map Prod.fst).Nodup) {name : String} {value : α} :
    found.lookup name = some value ↔ (name, value) ∈ found := by
  induction found with
  | nil => exact ⟨nofun, fun h => absurd h List.not_mem_nil⟩
  | cons entry rest ih =>
      rw [List.map_cons, List.nodup_cons] at hdistinct
      rcases entry with ⟨own, ownValue⟩
      rw [List.lookup_cons, List.mem_cons, Prod.mk.injEq]
      by_cases hname : name = own
      · rw [hname, beq_self_eq_true]
        simp only [Option.some.injEq, true_and]
        refine ⟨fun h => Or.inl h.symm, ?_⟩
        rintro (h | h)
        · exact h.symm
        · exact absurd (List.mem_map_of_mem h) hdistinct.1
      · rw [beq_eq_false_iff_ne.2 hname]
        simp only [hname, false_and, false_or]
        exact ih hdistinct.2

namespace Keyed

theorem get?_insert (map : Keyed α) (key : String) (value : α) (other : String) :
    (map.insert key value).get? other = if other = key then some value else map.get? other := by
  rcases map with ⟨entries, hdistinct⟩
  simp only [get?, insert]
  clear hdistinct
  induction entries with
  | nil =>
      by_cases hother : other = key
      · simp only [insertEntry, List.find?_cons, hother, decide_true, Option.map_some, if_true]
      · simp only [insertEntry, List.find?_cons, Ne.symm hother, decide_false, hother, if_false]
  | cons entry rest ih =>
      by_cases hkey : key = entry.1
      · simp only [insertEntry, if_pos hkey, List.find?_cons]
        by_cases hother : other = key
        · simp only [hother, decide_true, Option.map_some, if_true]
        · simp only [← hkey, Ne.symm hother, decide_false, hother, if_false]
      · simp only [insertEntry, if_neg hkey, List.find?_cons]
        by_cases hentry : entry.1 = other
        · have hother : other ≠ key := fun h => hkey (h.symm.trans hentry.symm)
          simp only [hentry, decide_true, Option.map_some, if_neg hother]
        · simp only [hentry, decide_false]
          exact ih

/-- Every key has its last value. -/
theorem get?_ofList (members : List (String × α)) (key : String) :
    (ofList members).get? key = members.reverse.lookup key :=
  (get?_foldl get? get?_insert members empty key).trans (Option.or_none ..)

theorem keys_insert (map : Keyed α) (key : String) (value : α) :
    (map.insert key value).keys = if key ∈ map.keys then map.keys else map.keys ++ [key] :=
  keys_insertEntry key value map.entries

/-- The keys of a list come after those that there are, each where it first comes. -/
theorem keys_foldl (members : List (String × α)) (map : Keyed α) :
    (members.foldl (fun map entry => map.insert entry.1 entry.2) map).keys =
      map.keys ++ ((members.map Prod.fst).removeAll map.keys).eraseDups := by
  induction members generalizing map with
  | nil => exact (List.append_nil _).symm
  | cons member rest ih =>
      rw [List.foldl_cons, ih, keys_insert, List.map_cons, List.cons_removeAll]
      by_cases hkey : member.1 ∈ map.keys
      · have hold : ¬map.keys.contains member.1 = false := by
          rw [List.contains_iff_mem.2 hkey]
          exact Bool.noConfusion
        rw [if_pos hkey, if_neg hold]
      · have hnew : map.keys.contains member.1 = false := by
          rw [List.contains_eq_mem, decide_eq_false hkey]
        -- What comes later under the same key is left out, and the key stands in front.
        have hlater : (rest.map Prod.fst).removeAll (map.keys ++ [member.1]) =
            ((rest.map Prod.fst).removeAll map.keys).filter (! · == member.1) := by
          simp only [List.removeAll, List.filter_filter]
          refine List.filter_congr fun key _ => ?_
          rw [← Bool.not_or, Bool.or_comm]
          simp only [List.elem_eq_mem, List.mem_append, List.mem_singleton, Bool.decide_or]
          rfl
        rw [if_neg hkey, if_pos hnew, hlater, List.eraseDups_cons, List.append_assoc]
        rfl

/-- The keys stand where they first came. -/
theorem keys_ofList (members : List (String × α)) :
    (ofList members).keys = (members.map Prod.fst).eraseDups := by
  have hnone : (empty : Keyed α).keys = [] := rfl
  have hfold := keys_foldl members empty
  rw [hnone, List.nil_append, List.removeAll_nil] at hfold
  exact hfold

theorem insertEntry_of_not_mem {key : String} {value : α} {entries : List (String × α)}
    (h : key ∉ entries.map Prod.fst) :
    insertEntry key value entries = entries ++ [(key, value)] := by
  induction entries with
  | nil => rfl
  | cons entry rest ih =>
      rw [List.map_cons, List.mem_cons, not_or] at h
      rw [insertEntry, if_neg h.1, ih h.2, List.cons_append]

/-- Members under new and distinct keys are added at the end. -/
theorem entries_foldl {members : List (String × α)} {map : Keyed α}
    (h : ((map.entries ++ members).map Prod.fst).Nodup) :
    (members.foldl (fun map entry => map.insert entry.1 entry.2) map).entries =
      map.entries ++ members := by
  induction members generalizing map with
  | nil => exact (List.append_nil _).symm
  | cons member rest ih =>
      have hnew : member.1 ∉ map.entries.map Prod.fst := by
        rw [List.map_append, List.nodup_append] at h
        exact fun hmem => h.2.2 _ hmem _ List.mem_cons_self rfl
      have hentries : (map.insert member.1 member.2).entries = map.entries ++ [member] :=
        insertEntry_of_not_mem hnew
      rw [List.append_cons, ← hentries] at h ⊢
      exact ih h

/-- A map is made of its members. -/
theorem ofList_entries (map : Keyed α) : ofList map.entries = map := by
  have hentries : (ofList map.entries).entries = map.entries := entries_foldl map.distinct
  rcases map with ⟨entries, hdistinct⟩
  rw [mk.injEq]
  exact hentries

end Keyed

namespace Sorted

theorem get?_insert (map : Sorted α) (name : String) (value : α) (other : String) :
    (map.insert name value).get? other = if other = name then some value else map.get? other := by
  rcases map with ⟨entries, hascending⟩
  simp only [get?, insert]
  clear hascending
  induction entries with
  | nil =>
      by_cases hother : other = name
      · simp only [insertEntry, List.find?_cons, hother, decide_true, Option.map_some, if_true]
      · simp only [insertEntry, List.find?_cons, Ne.symm hother, decide_false, hother, if_false]
  | cons entry rest ih =>
      by_cases hlt : name < entry.1
      · simp only [insertEntry, if_pos hlt]
        by_cases hother : other = name
        · simp only [List.find?_cons, hother, decide_true, Option.map_some, if_true]
        · rw [List.find?_cons, if_neg hother]
          simp only [Ne.symm hother, decide_false]
      · by_cases hname : name = entry.1
        · simp only [insertEntry, if_neg hlt, if_pos hname, List.find?_cons]
          by_cases hother : other = name
          · simp only [hother, decide_true, Option.map_some, if_true]
          · simp only [← hname, Ne.symm hother, decide_false, hother, if_false]
        · simp only [insertEntry, if_neg hlt, if_neg hname, List.find?_cons]
          by_cases hentry : entry.1 = other
          · have hother : other ≠ name := fun h => hname (h.symm.trans hentry.symm)
            simp only [hentry, decide_true, Option.map_some, if_neg hother]
          · simp only [hentry, decide_false]
            exact ih

/-- Every name has its last value. -/
theorem get?_ofList (members : List (String × α)) (name : String) :
    (ofList members).get? name = members.reverse.lookup name :=
  (get?_foldl get? get?_insert members empty name).trans (Option.or_none ..)

/-- Of members with distinct names all stay. -/
theorem mem_ofList_of_nodup {members : List (String × α)} (h : (members.map Prod.fst).Nodup)
    {e : String × α} (he : e ∈ members) : e ∈ (ofList members).entries := by
  have hdistinct : (members.reverse.map Prod.fst).Nodup := by
    rw [List.map_reverse]
    exact List.pairwise_reverse.2 (h.imp Ne.symm)
  refine mem_of_get? ?_
  rw [get?_ofList, lookup_eq_some_iff_mem hdistinct, List.mem_reverse]
  exact he

theorem insertEntry_of_last {name : String} {value : α} {entries : List (String × α)}
    (h : ∀ entry ∈ entries, entry.1 < name) :
    insertEntry name value entries = entries ++ [(name, value)] := by
  induction entries with
  | nil => rfl
  | cons entry rest ih =>
      rcases List.forall_mem_cons.1 h with ⟨hentry, hrest⟩
      have hlt : ¬name < entry.1 := fun hlt => String.lt_irrefl _ (String.lt_trans hlt hentry)
      have hne : name ≠ entry.1 := by
        intro hsame
        rw [hsame] at hentry
        exact String.lt_irrefl _ hentry
      rw [insertEntry, if_neg hlt, if_neg hne, ih hrest, List.cons_append]

/-- Members under ascending names after those that there are are added at the end. -/
theorem entries_foldl {members : List (String × α)} {map : Sorted α}
    (h : (map.entries ++ members).Pairwise fun a b => a.1 < b.1) :
    (members.foldl (fun map entry => map.insert entry.1 entry.2) map).entries =
      map.entries ++ members := by
  induction members generalizing map with
  | nil => exact (List.append_nil _).symm
  | cons member rest ih =>
      have hlast : ∀ entry ∈ map.entries, entry.1 < member.1 :=
        fun entry hmem => (List.pairwise_append.1 h).2.2 entry hmem member List.mem_cons_self
      have hentries : (map.insert member.1 member.2).entries = map.entries ++ [member] :=
        insertEntry_of_last hlast
      rw [List.append_cons, ← hentries] at h ⊢
      exact ih h

/-- A map is made of its members. -/
theorem ofList_entries (map : Sorted α) : ofList map.entries = map := by
  have hentries : (ofList map.entries).entries = map.entries := entries_foldl map.ascending
  rcases map with ⟨entries, hascending⟩
  rw [mk.injEq]
  exact hentries

theorem get?_eq_some_iff {map : Sorted α} {name : String} {value : α} :
    map.get? name = some value ↔ (name, value) ∈ map.entries := by
  refine ⟨mem_of_get?, fun hmem => ?_⟩
  have hsome : (map.get? name).isSome := contains_iff.2 (mem_names_of_mem hmem)
  rcases Option.isSome_iff_exists.1 hsome with ⟨other, hother⟩
  -- Both stand under the name, and names are distinct.
  have hsame : (name, other) = (name, value) :=
    List.inj_on_of_nodup_map map.names_nodup (mem_of_get? hother) hmem rfl
  rw [hother, (Prod.mk.inj hsame).2]

theorem get?_eq_none_iff {map : Sorted α} {name : String} :
    map.get? name = none ↔ name ∉ map.names := by
  rw [← contains_iff, contains, Bool.not_eq_true, Option.isSome_eq_false_iff,
    Option.isNone_iff_eq_none]

/-- A sorted map is what is found in it. -/
theorem eq_of_get? {map other : Sorted α} (h : ∀ name, map.get? name = other.get? name) :
    map = other := by
  have hperm : map.entries.Perm other.entries := by
    have hnodup : ∀ map : Sorted α, map.entries.Nodup :=
      fun map => List.Nodup.of_map Prod.fst map.names_nodup
    refine (List.perm_ext_iff_of_nodup (hnodup map) (hnodup other)).2 fun entry => ?_
    rw [← get?_eq_some_iff, ← get?_eq_some_iff, h]
  have hentries : map.entries = other.entries :=
    hperm.eq_of_pairwise (fun _ _ _ _ hlt hgt => absurd hgt (String.lt_asymm hlt))
      map.ascending other.ascending
  rcases map with ⟨entries, hascending⟩
  rw [mk.injEq]
  exact hentries

theorem names_mapValues {β : Type} (f : α → β) (map : Sorted α) :
    (map.mapValues f).names = map.names :=
  List.map_map

theorem get?_mapValues {β : Type} (f : α → β) (map : Sorted α) (name : String) :
    (map.mapValues f).get? name = (map.get? name).map f := by
  rw [get?, get?, mapValues, List.find?_map, Option.map_map, Option.map_map]
  rfl

end Sorted

end Registrar
