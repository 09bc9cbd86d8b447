/-!
# Cutting Texts

Texts are taken apart here as lists of characters, once, by the few cuts that
the query language and the URL need: off the front, off the end, at the first
mark, at every mark. Each function loses nothing but the mark it cuts at, and
the lemmas say so; what a clause or a path means is decided elsewhere.

## Main definitions

* `afterLead?`: What follows a given beginning.
* `beforeLast?`: What comes before a given last character.
* `cutAt?`: The parts before and after the first occurrence of a mark.
* `splitOn`: The parts between all occurrences of a mark.
* `replaceAll`: Replace a text wherever it occurs, from left to right.

## Theorems

* `afterLead?_eq_some_iff`: What follows the beginning, put back, is the text.
* `cutAt?_eq_some_iff`: A cut is at the first mark.
* `splitOn_ne_nil`: There is always at least one part.
* `splitOn_eq_iff`: The parts, with the mark put back before each, are the text.
* `splitOn_eq_iff_intercalate`: The same, with the mark between the parts.
* `mem_intercalate`: What parts with a mark between them consist of.
-/

namespace Registrar

namespace Text

/-- What follows the beginning `lead`, if the text begins so. -/
def afterLead? : List Char → List Char → Option (List Char)
  | [], text => some text
  | _ :: _, [] => none
  | l :: lead, c :: text => if l = c then afterLead? lead text else none

theorem afterLead?_eq_some_iff {lead text rest : List Char} :
    afterLead? lead text = some rest ↔ text = lead ++ rest := by
  induction lead generalizing text with
  | nil => simp [afterLead?, eq_comm]
  | cons l lead ih =>
      cases text with
      | nil => simp [afterLead?]
      | cons c text =>
          by_cases h : l = c
          · simp [afterLead?, h, ih]
          · simp [afterLead?, h, Ne.symm h]

/-- What comes before the last character, if that is `mark`. -/
def beforeLast? (mark : Char) : List Char → Option (List Char)
  | [] => none
  | [c] => if c = mark then some [] else none
  | c :: d :: rest => (beforeLast? mark (d :: rest)).map (c :: ·)

theorem beforeLast?_eq_some_iff {mark : Char} {text front : List Char} :
    beforeLast? mark text = some front ↔ text = front ++ [mark] := by
  induction text generalizing front with
  | nil => simp [beforeLast?]
  | cons c rest ih =>
      cases rest with
      | nil =>
          by_cases h : c = mark
          · cases front <;> simp [beforeLast?, h]
          · cases front <;> simp [beforeLast?, h]
      | cons d rest =>
          cases front with
          | nil => simp [beforeLast?]
          | cons f front =>
              simp only [beforeLast?, Option.map_eq_some_iff, ih, List.cons_append,
                List.cons.injEq]
              constructor
              · rintro ⟨a, ha, hc, rfl⟩
                exact ⟨hc, ha⟩
              · rintro ⟨hc, h⟩
                exact ⟨front, h, hc, rfl⟩

/-- The parts before and after the first `mark`, if there is one. -/
def cutAt? (mark : Char) : List Char → Option (List Char × List Char)
  | [] => none
  | c :: rest =>
    if c = mark then some ([], rest)
    else (cutAt? mark rest).map fun parts => (c :: parts.1, parts.2)

theorem cutAt?_eq_some_iff {mark : Char} {text front back : List Char} :
    cutAt? mark text = some (front, back) ↔ text = front ++ mark :: back ∧ mark ∉ front := by
  induction text generalizing front with
  | nil => simp [cutAt?]
  | cons c rest ih =>
      -- The mark ends the front, and any other character begins it.
      by_cases h : c = mark
      · cases front with
        | nil => simp [cutAt?, h, eq_comm]
        | cons f front =>
            simp only [cutAt?, h, if_true, Option.some.injEq, Prod.mk.injEq, List.cons_append,
              List.cons.injEq, List.mem_cons, not_or]
            constructor
            · rintro ⟨h, -⟩
              exact absurd h (List.cons_ne_nil _ _).symm
            · rintro ⟨⟨h, -⟩, h', -⟩
              exact absurd h h'
      · cases front with
        | nil =>
            simp only [cutAt?, h, if_false, Option.map_eq_some_iff, Prod.mk.injEq, List.nil_append,
              List.cons.injEq]
            constructor
            · rintro ⟨_, _, h, _⟩
              exact absurd h (List.cons_ne_nil _ _)
            · rintro ⟨⟨h', _⟩, _⟩
              exact h'.elim
        | cons f front =>
            simp only [cutAt?, h, if_false, Option.map_eq_some_iff, Prod.mk.injEq,
              List.cons.injEq, List.cons_append, List.mem_cons, not_or]
            constructor
            · rintro ⟨⟨a, b⟩, hab, ⟨hc, ha⟩, hb⟩
              simp only at ha hb
              subst ha hb
              obtain ⟨h1, h2⟩ := ih.1 hab
              exact ⟨⟨hc, h1⟩, fun e => h (hc.trans e.symm), h2⟩
            · rintro ⟨⟨hc, h1⟩, _, h2⟩
              exact ⟨(front, back), ih.2 ⟨h1, h2⟩, ⟨hc, rfl⟩, rfl⟩

/-- Add a character to the front of the first part. -/
def consFirst (c : Char) : List (List Char) → List (List Char)
  | [] => [[c]]
  | part :: parts => (c :: part) :: parts

/-- The parts between all occurrences of `mark`. -/
def splitOn (mark : Char) : List Char → List (List Char)
  | [] => [[]]
  | c :: rest => if c = mark then [] :: splitOn mark rest else consFirst c (splitOn mark rest)

theorem splitOn_ne_nil (mark : Char) (text : List Char) : splitOn mark text ≠ [] := by
  cases text with
  | nil => simp [splitOn]
  | cons c rest =>
      by_cases h : c = mark
      · simp [splitOn, h]
      · cases hp : splitOn mark rest <;> simp [splitOn, h, hp, consFirst]

theorem splitOn_of_not_mem {mark : Char} {text : List Char} (h : mark ∉ text) :
    splitOn mark text = [text] := by
  induction text with
  | nil => rfl
  | cons c rest ih =>
      rw [List.mem_cons, not_or] at h
      rw [splitOn, if_neg (Ne.symm h.1), ih h.2]
      rfl

theorem splitOn_append {mark : Char} {part : List Char} (h : mark ∉ part) (text : List Char) :
    splitOn mark (part ++ mark :: text) = part :: splitOn mark text := by
  induction part with
  | nil => rw [List.nil_append, splitOn, if_pos rfl]
  | cons c rest ih =>
      rw [List.mem_cons, not_or] at h
      rw [List.cons_append, splitOn, if_neg (Ne.symm h.1), ih h.2]
      rfl

/-- With a mark before each, the parts are the text with a mark before it. -/
theorem flatMap_splitOn (mark : Char) (text : List Char) :
    (splitOn mark text).flatMap (mark :: ·) = mark :: text := by
  induction text with
  | nil => rfl
  | cons c rest ih =>
      rw [splitOn]
      split
      · rename_i h
        rw [List.flatMap_cons, ih, h]
        rfl
      · rcases hparts : splitOn mark rest with _ | ⟨part, parts⟩
        · exact absurd hparts (splitOn_ne_nil mark rest)
        · rw [hparts, List.flatMap_cons, List.cons_append] at ih
          rw [consFirst, List.flatMap_cons, List.cons_append, List.cons_append,
            List.tail_eq_of_cons_eq ih]

theorem not_mem_of_mem_splitOn {mark : Char} {text part : List Char}
    (h : part ∈ splitOn mark text) : mark ∉ part := by
  induction text generalizing part with
  | nil =>
      rw [List.mem_singleton.1 h]
      exact List.not_mem_nil
  | cons c rest ih =>
      rw [splitOn] at h
      split at h
      · rcases List.mem_cons.1 h with rfl | h
        · exact List.not_mem_nil
        · exact ih h
      · rename_i hc
        rcases hparts : splitOn mark rest with _ | ⟨first, parts⟩
        · exact absurd hparts (splitOn_ne_nil mark rest)
        · rw [hparts] at h ih
          -- Only the first part has got another character.
          rcases List.mem_cons.1 h with rfl | h
          · rw [List.mem_cons, not_or]
            exact ⟨Ne.symm hc, ih List.mem_cons_self⟩
          · exact ih (List.mem_cons_of_mem _ h)

/-- The parts are those texts without the mark that make up the text. -/
theorem splitOn_eq_iff {mark : Char} {text : List Char} {parts : List (List Char)} :
    splitOn mark text = parts ↔
      parts.flatMap (mark :: ·) = mark :: text ∧ ∀ part ∈ parts, mark ∉ part := by
  constructor
  · rintro rfl
    exact ⟨flatMap_splitOn mark text, fun part hpart => not_mem_of_mem_splitOn hpart⟩
  · rintro ⟨htext, hparts⟩
    induction parts generalizing text with
    | nil => cases htext
    | cons part parts ih =>
        rcases List.forall_mem_cons.1 hparts with ⟨hpart, hparts⟩
        have hsplit : part ++ parts.flatMap (mark :: ·) = text := by
          rw [List.flatMap_cons, List.cons_append] at htext
          exact List.tail_eq_of_cons_eq htext
        rw [← hsplit]
        cases parts with
        | nil => exact (congrArg _ (List.append_nil part)).trans (splitOn_of_not_mem hpart)
        | cons next parts =>
            rw [List.flatMap_cons, List.cons_append, splitOn_append hpart]
            exact congrArg _ (ih rfl hparts)

/-- A mark before each of some parts is one before them all and one between any two. -/
theorem flatMap_eq_cons_intercalate (mark : Char) {parts : List (List Char)} (h : parts ≠ []) :
    parts.flatMap (mark :: ·) = mark :: [mark].intercalate parts := by
  induction parts with
  | nil => exact absurd rfl h
  | cons part parts ih =>
      cases parts with
      | nil => rw [List.flatMap_singleton, List.intercalate_singleton]
      | cons next parts =>
          rw [List.flatMap_cons, ih (List.cons_ne_nil next parts), List.intercalate_cons_cons,
            List.append_assoc]
          rfl

/-- A character of the parts with a mark between them is the mark or one of a part. -/
theorem mem_intercalate {mark c : Char} {parts : List (List Char)} (h : parts ≠ [])
    (hc : c ≠ mark) : c ∈ [mark].intercalate parts ↔ ∃ part ∈ parts, c ∈ part := by
  have hmarked : c ∈ parts.flatMap (mark :: ·) ↔ c ∈ [mark].intercalate parts := by
    rw [flatMap_eq_cons_intercalate mark h, List.mem_cons, or_iff_right hc]
  rw [← hmarked, List.mem_flatMap]
  refine exists_congr fun part => and_congr_right fun _ => ?_
  rw [List.mem_cons, or_iff_right hc]

/-- The parts are those texts without the mark that give the text with a mark between any
    two of them. -/
theorem splitOn_eq_iff_intercalate {mark : Char} {text : List Char} {parts : List (List Char)} :
    splitOn mark text = parts ↔
      parts ≠ [] ∧ text = [mark].intercalate parts ∧ ∀ part ∈ parts, mark ∉ part := by
  rw [splitOn_eq_iff]
  by_cases hne : parts = []
  · rw [hne]
    simp
  · rw [flatMap_eq_cons_intercalate mark hne, List.cons.injEq]
    constructor
    · rintro ⟨⟨-, htext⟩, hparts⟩
      exact ⟨hne, htext.symm, hparts⟩
    · rintro ⟨-, htext, hparts⟩
      exact ⟨⟨rfl, htext.symm⟩, hparts⟩

/-- Replace `old` by `new` from left to right; what was put in is not looked at
    again. `skip` counts the characters of an occurrence still to be passed. -/
def replaceFrom (old new : List Char) : Nat → List Char → List Char
  | _, [] => []
  | skip + 1, _ :: rest => replaceFrom old new skip rest
  | 0, c :: rest =>
    match afterLead? old (c :: rest) with
    | some _ => new ++ replaceFrom old new (old.length - 1) rest
    | none => c :: replaceFrom old new 0 rest

/-- Replace `old` by `new` wherever it occurs, from left to right. -/
def replaceAll (old new text : List Char) : List Char :=
  replaceFrom old new 0 text

end Text

end Registrar
