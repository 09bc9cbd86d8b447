import Mathlib.Data.List.Forall2
import Mathlib.Data.List.Infix

/-!
# Matching Texts with Patterns

What `LIKE` asks of a text. A pattern is read as a list of parts: `%` stands for any text,
`_` for any one character, and every other character for itself; so does a character after
a backslash, whatever it is. A text matches if it can be cut into pieces, one for each
part, so that every part accepts its piece.

A backslash at the very end of a pattern takes nothing with it, and such a pattern cannot be
read. The same backslash in front of something else can: then it takes the first character
of that, whatever that was meant to be.

Only `%` accepts pieces of different lengths. Between two of it a pattern is looked for
anywhere in the text (`matches_between`).

## Main definitions

* `PatternPart`: What a pattern is made of.
* `Pattern.parts?`: The parts of a pattern.
* `Pattern.Matches`: A text is cut into pieces that the parts accept.
* `Like`: A text is like a pattern.

## Theorems

* `Pattern.parts?_append`: A pattern after another is read on its own.
* `Pattern.parts?_eq_none_iff`: Which patterns cannot be read.
* `Pattern.matches_append`: Two patterns after one another match two texts after one another.
* `Pattern.matches_between`: A pattern between two of `%` is looked for anywhere.
* `Pattern.matches_chars`: A text without anything special matches itself only.
-/

namespace Registrar

namespace Sql

/-- What a pattern is made of. -/
inductive PatternPart
  | anything
  | single
  | char (c : Char)
  deriving DecidableEq, Repr

namespace PatternPart

/-- What a character stands for in a pattern, unless a backslash is before it. -/
def ofChar (c : Char) : PatternPart :=
  if c = '%' then anything else if c = '_' then single else char c

/-- A piece of a text is what a part stands for. -/
def Accepts : PatternPart → List Char → Prop
  | anything, _ => True
  | single, piece => piece.length = 1
  | char c, piece => piece = [c]

instance (part : PatternPart) (piece : List Char) : Decidable (part.Accepts piece) :=
  match part with
  | anything => isTrue trivial
  | single => inferInstanceAs (Decidable (piece.length = 1))
  | char c => inferInstanceAs (Decidable (piece = [c]))

theorem ofChar_of_plain {c : Char} (hanything : c ≠ '%') (hsingle : c ≠ '_') :
    ofChar c = char c := by
  rw [ofChar, if_neg hanything, if_neg hsingle]

/-- No character that is looked for as it is means something else. -/
theorem ne_of_ofChar_eq {c found : Char} (h : ofChar c = char found) : found ≠ '_' := by
  rw [ofChar] at h
  split at h
  · cases h
  · split at h
    · cases h
    · cases h
      assumption

/-- Everything but `%` stands for one character. -/
theorem Accepts.length_eq {part : PatternPart} {piece : List Char} (h : part.Accepts piece)
    (hpart : part ≠ anything) : piece.length = 1 := by
  cases part with
  | anything => exact absurd rfl hpart
  | single => exact h
  | char c =>
      cases h
      rfl

end PatternPart

namespace Pattern

/-- The parts of a pattern, unless it ends with a backslash that takes nothing with it. -/
def parts? : List Char → Option (List PatternPart)
  | [] => some []
  | c :: rest =>
    if c = '\\' then
      match rest with
      | [] => none
      | taken :: rest => (parts? rest).map (.char taken :: ·)
    else (parts? rest).map (.ofChar c :: ·)

theorem parts?_escape (taken : Char) (rest : List Char) :
    parts? ('\\' :: taken :: rest) = (parts? rest).map (.char taken :: ·) := by
  rw [parts?, if_pos rfl]

theorem parts?_cons {c : Char} (hc : c ≠ '\\') (rest : List Char) :
    parts? (c :: rest) = (parts? rest).map (.ofChar c :: ·) := by
  rw [parts?.eq_def]
  exact if_neg hc

/-- A pattern after one that can be read is read on its own. -/
theorem parts?_append {front : List Char} {parts : List PatternPart}
    (h : parts? front = some parts) (back : List Char) :
    parts? (front ++ back) = (parts? back).map (parts ++ ·) := by
  -- The induction follows the reader, which takes two characters after a backslash.
  induction front using parts?.induct generalizing parts with
  | case1 =>
      cases h
      simp only [List.nil_append, Option.map_id']
  | case2 => cases h
  | case3 taken rest ih =>
      rw [parts?_escape] at h
      rcases Option.map_eq_some_iff.1 h with ⟨others, hothers, rfl⟩
      rw [List.cons_append, List.cons_append, parts?_escape, ih hothers, Option.map_map]
      rfl
  | case4 c rest hc ih =>
      rw [parts?_cons hc] at h
      rcases Option.map_eq_some_iff.1 h with ⟨others, hothers, rfl⟩
      rw [List.cons_append, parts?_cons hc, ih hothers, Option.map_map]
      rfl

/-- A pattern cannot be read just if it is one that can, and a backslash after it. -/
theorem parts?_eq_none_iff {pattern : List Char} :
    parts? pattern = none ↔ ∃ front parts, pattern = front ++ ['\\'] ∧
      parts? front = some parts := by
  constructor
  · intro h
    induction pattern using parts?.induct with
    | case1 => cases h
    | case2 => exact ⟨[], [], rfl, rfl⟩
    | case3 taken rest ih =>
        rw [parts?_escape, Option.map_eq_none_iff] at h
        rcases ih h with ⟨front, parts, rfl, hparts⟩
        refine ⟨'\\' :: taken :: front, .char taken :: parts, rfl, ?_⟩
        rw [parts?_escape, hparts]
        rfl
    | case4 c rest hc ih =>
        rw [parts?_cons hc, Option.map_eq_none_iff] at h
        rcases ih h with ⟨front, parts, rfl, hparts⟩
        refine ⟨c :: front, .ofChar c :: parts, rfl, ?_⟩
        rw [parts?_cons hc, hparts]
        rfl
  · rintro ⟨front, parts, rfl, hparts⟩
    rw [parts?_append hparts]
    rfl

/-- Without a backslash every character is a part. -/
theorem parts?_of_unescaped {pattern : List Char} (hescape : '\\' ∉ pattern) :
    parts? pattern = some (pattern.map .ofChar) := by
  induction pattern with
  | nil => rfl
  | cons c rest ih =>
      rw [List.mem_cons, not_or] at hescape
      rw [parts?_cons (Ne.symm hescape.1), ih hescape.2]
      rfl

/-- Without anything special at all every character stands for itself. -/
theorem parts?_of_plain {pattern : List Char} (hanything : '%' ∉ pattern)
    (hsingle : '_' ∉ pattern) (hescape : '\\' ∉ pattern) :
    parts? pattern = some (pattern.map .char) := by
  rw [parts?_of_unescaped hescape]
  refine congrArg some (List.map_congr_left fun c hc => ?_)
  refine PatternPart.ofChar_of_plain ?_ ?_
  · rintro rfl
    exact hanything hc
  · rintro rfl
    exact hsingle hc

/-- A pattern without `%` has no part that accepts pieces of different lengths. -/
theorem anything_not_mem_parts {pattern : List Char} {parts : List PatternPart}
    (h : parts? pattern = some parts) (hanything : '%' ∉ pattern) :
    PatternPart.anything ∉ parts := by
  induction pattern using parts?.induct generalizing parts with
  | case1 =>
      cases h
      exact List.not_mem_nil
  | case2 => cases h
  | case3 taken rest ih =>
      rw [parts?_escape] at h
      rcases Option.map_eq_some_iff.1 h with ⟨others, hothers, rfl⟩
      rw [List.mem_cons, List.mem_cons, not_or, not_or] at hanything
      rw [List.mem_cons, not_or]
      exact ⟨PatternPart.noConfusion, ih hothers hanything.2.2⟩
  | case4 c rest hc ih =>
      rw [parts?_cons hc] at h
      rcases Option.map_eq_some_iff.1 h with ⟨others, hothers, rfl⟩
      rw [List.mem_cons, not_or] at hanything
      rw [List.mem_cons, not_or]
      refine ⟨?_, ih hothers hanything.2⟩
      rw [PatternPart.ofChar, if_neg (Ne.symm hanything.1)]
      split <;> exact PatternPart.noConfusion

/-- Every part takes one character of the pattern, or two if a backslash is before it. -/
theorem length_parts_le {pattern : List Char} {parts : List PatternPart}
    (h : parts? pattern = some parts) : parts.length ≤ pattern.length ∧
      ('\\' ∈ pattern → parts.length < pattern.length) := by
  induction pattern using parts?.induct generalizing parts with
  | case1 =>
      cases h
      exact ⟨Nat.le_refl 0, fun hmem => absurd hmem List.not_mem_nil⟩
  | case2 => cases h
  | case3 taken rest ih =>
      rw [parts?_escape] at h
      rcases Option.map_eq_some_iff.1 h with ⟨others, hothers, rfl⟩
      have hrest := (ih hothers).1
      simp only [List.length_cons]
      exact ⟨by omega, fun _ => by omega⟩
  | case4 c rest hc ih =>
      rw [parts?_cons hc] at h
      rcases Option.map_eq_some_iff.1 h with ⟨others, hothers, rfl⟩
      rcases ih hothers with ⟨hle, hlt⟩
      simp only [List.length_cons]
      refine ⟨by omega, fun hmem => ?_⟩
      have hrest := hlt ((List.mem_cons.1 hmem).resolve_left (Ne.symm hc))
      omega

/-- A text is cut into pieces, one for each part, and every part accepts its piece. -/
def Matches (parts : List PatternPart) (text : List Char) : Prop :=
  ∃ pieces, text = pieces.flatten ∧ List.Forall₂ PatternPart.Accepts parts pieces

theorem matches_nil {text : List Char} : Matches [] text ↔ text = [] := by
  constructor
  · rintro ⟨pieces, rfl, hpieces⟩
    rw [List.forall₂_nil_left_iff.1 hpieces]
    rfl
  · rintro rfl
    exact ⟨[], rfl, .nil⟩

theorem matches_cons {part : PatternPart} {parts : List PatternPart} {text : List Char} :
    Matches (part :: parts) text ↔
      ∃ piece rest, text = piece ++ rest ∧ part.Accepts piece ∧ Matches parts rest := by
  constructor
  · rintro ⟨pieces, rfl, hpieces⟩
    rcases List.forall₂_cons_left_iff.1 hpieces with ⟨piece, others, hpiece, hothers, rfl⟩
    exact ⟨piece, others.flatten, List.flatten_cons, hpiece, others, rfl, hothers⟩
  · rintro ⟨piece, rest, rfl, hpiece, others, rfl, hothers⟩
    exact ⟨piece :: others, List.flatten_cons.symm, .cons hpiece hothers⟩

/-- The first piece is cut off at some length. -/
theorem matches_cons_iff_take {part : PatternPart} {parts : List PatternPart}
    {text : List Char} : Matches (part :: parts) text ↔
      ∃ length, length < text.length + 1 ∧
        part.Accepts (text.take length) ∧ Matches parts (text.drop length) := by
  rw [matches_cons]
  constructor
  · rintro ⟨piece, rest, rfl, hpiece, hrest⟩
    refine ⟨piece.length, ?_, ?_, ?_⟩
    · rw [List.length_append]
      omega
    · rw [List.take_left]
      exact hpiece
    · rw [List.drop_left]
      exact hrest
  · rintro ⟨length, -, hpiece, hrest⟩
    exact ⟨_, _, (List.take_append_drop length text).symm, hpiece, hrest⟩

/-- Whether a text matches, by trying every length for the first piece. -/
def decideMatches :
    (parts : List PatternPart) → (text : List Char) → Decidable (Matches parts text)
  | [], _ => decidable_of_iff _ matches_nil.symm
  | _ :: parts, text =>
    have (length : Nat) : Decidable (Matches parts (text.drop length)) := decideMatches parts _
    decidable_of_iff _ matches_cons_iff_take.symm

instance (parts : List PatternPart) (text : List Char) : Decidable (Matches parts text) :=
  decideMatches parts text

/-- Two patterns after one another match two texts after one another. -/
theorem matches_append {front back : List PatternPart} {text : List Char} :
    Matches (front ++ back) text ↔
      ∃ first last, text = first ++ last ∧ Matches front first ∧ Matches back last := by
  induction front generalizing text with
  | nil =>
      rw [List.nil_append]
      constructor
      · intro h
        exact ⟨[], text, rfl, matches_nil.2 rfl, h⟩
      · rintro ⟨first, last, rfl, hfirst, hlast⟩
        rw [matches_nil.1 hfirst]
        exact hlast
  | cons part front ih =>
      rw [List.cons_append, matches_cons]
      constructor
      · rintro ⟨piece, rest, rfl, hpiece, hrest⟩
        rcases ih.1 hrest with ⟨first, last, rfl, hfirst, hlast⟩
        refine ⟨piece ++ first, last, (List.append_assoc _ _ _).symm, ?_, hlast⟩
        exact matches_cons.2 ⟨piece, first, rfl, hpiece, hfirst⟩
      · rintro ⟨first, last, rfl, hfirst, hlast⟩
        rcases matches_cons.1 hfirst with ⟨piece, rest, rfl, hpiece, hrest⟩
        exact ⟨piece, rest ++ last, List.append_assoc _ _ _, hpiece,
          ih.2 ⟨rest, last, rfl, hrest, hlast⟩⟩

theorem matches_single {part : PatternPart} {text : List Char} :
    Matches [part] text ↔ part.Accepts text := by
  rw [matches_cons]
  constructor
  · rintro ⟨piece, rest, rfl, hpiece, hrest⟩
    rw [matches_nil.1 hrest, List.append_nil]
    exact hpiece
  · intro h
    exact ⟨text, [], (List.append_nil text).symm, h, matches_nil.2 rfl⟩

/-- A pattern that begins with `%` is looked for at the end of a text. -/
theorem matches_anything_cons {parts : List PatternPart} {text : List Char} :
    Matches (.anything :: parts) text ↔ ∃ found, found <:+ text ∧ Matches parts found := by
  rw [matches_cons]
  constructor
  · rintro ⟨piece, rest, rfl, -, hrest⟩
    exact ⟨rest, List.suffix_append piece rest, hrest⟩
  · rintro ⟨found, ⟨piece, rfl⟩, hfound⟩
    exact ⟨piece, found, rfl, trivial, hfound⟩

/-- A pattern between two of `%` is looked for anywhere in a text. -/
theorem matches_between {parts : List PatternPart} {text : List Char} :
    Matches (.anything :: (parts ++ [.anything])) text ↔
      ∃ found, found <:+: text ∧ Matches parts found := by
  rw [matches_anything_cons]
  constructor
  · rintro ⟨rest, hrest, h⟩
    rcases matches_append.1 h with ⟨found, last, rfl, hfound, -⟩
    exact ⟨found, (List.prefix_append found last).isInfix.trans hrest.isInfix, hfound⟩
  · rintro ⟨found, ⟨first, last, rfl⟩, hfound⟩
    refine ⟨found ++ last, ⟨first, (List.append_assoc _ _ _).symm⟩, ?_⟩
    exact matches_append.2 ⟨found, last, rfl, hfound, matches_single.2 trivial⟩

/-- A pattern that stands for characters matches the text of these only. -/
theorem matches_chars {chars text : List Char} :
    Matches (chars.map .char) text ↔ text = chars := by
  induction chars generalizing text with
  | nil => exact matches_nil
  | cons c chars ih =>
      rw [List.map_cons, matches_cons]
      constructor
      · rintro ⟨piece, rest, rfl, rfl, hrest⟩
        rw [ih.1 hrest]
        rfl
      · rintro rfl
        exact ⟨[c], chars, rfl, rfl, ih.2 rfl⟩

/-- Without `%` a pattern matches texts of one length only. -/
theorem Matches.length_eq {parts : List PatternPart} {text : List Char} (h : Matches parts text)
    (hparts : PatternPart.anything ∉ parts) : text.length = parts.length := by
  induction parts generalizing text with
  | nil =>
      rw [matches_nil.1 h]
      rfl
  | cons part parts ih =>
      rw [List.mem_cons, not_or] at hparts
      rcases matches_cons.1 h with ⟨piece, rest, rfl, hpiece, hrest⟩
      rw [List.length_append, hpiece.length_eq (Ne.symm hparts.1), ih hrest hparts.2,
        List.length_cons, Nat.add_comm]

/-- Whatever a pattern is, it matches some text, with a given character wherever it leaves
    one open. -/
theorem exists_matches (filler : Char) (parts : List PatternPart) :
    ∃ text, Matches parts text ∧ ∀ c ∈ text, c = filler ∨ PatternPart.char c ∈ parts := by
  induction parts with
  | nil => exact ⟨[], matches_nil.2 rfl, List.forall_mem_nil _⟩
  | cons part parts ih =>
      rcases ih with ⟨rest, hrest, hchars⟩
      have hrest' : ∀ c ∈ rest, c = filler ∨ PatternPart.char c ∈ part :: parts :=
        fun c hc => (hchars c hc).imp_right (List.mem_cons_of_mem part)
      cases part with
      | anything => exact ⟨rest, matches_cons.2 ⟨[], rest, rfl, trivial, hrest⟩, hrest'⟩
      | single =>
          refine ⟨filler :: rest, matches_cons.2 ⟨[filler], rest, rfl, rfl, hrest⟩, ?_⟩
          exact List.forall_mem_cons.2 ⟨Or.inl rfl, hrest'⟩
      | char c =>
          refine ⟨c :: rest, matches_cons.2 ⟨[c], rest, rfl, rfl, hrest⟩, ?_⟩
          exact List.forall_mem_cons.2 ⟨Or.inr List.mem_cons_self, hrest'⟩

end Pattern

/-- A text is like a pattern. -/
def Like (text pattern : String) : Prop :=
  ∃ parts, Pattern.parts? pattern.toList = some parts ∧ Pattern.Matches parts text.toList

theorem like_iff {text pattern : String} {parts : List PatternPart}
    (h : Pattern.parts? pattern.toList = some parts) :
    Like text pattern ↔ Pattern.Matches parts text.toList := by
  constructor
  · rintro ⟨found, hfound, hmatches⟩
    cases h.symm.trans hfound
    exact hmatches
  · intro hmatches
    exact ⟨parts, h, hmatches⟩

instance (text pattern : String) : Decidable (Like text pattern) :=
  match h : Pattern.parts? pattern.toList with
  | none => isFalse fun hlike => by
      rcases hlike with ⟨parts, hparts, -⟩
      cases h.symm.trans hparts
  | some _ => decidable_of_iff _ (like_iff h).symm

example : Like "naïve" "_a%\\ve" := by decide

end Sql

end Registrar
