import Mathlib.Data.List.TakeWhile
import Mathlib.Data.Nat.Digits.Defs
import Registrar.Text.Blank
import Registrar.Text.Integer

/-!
# Numerals

What an integer looks like in a text, said without the reader: an optional sign and at least
one ASCII digit, with the number that the digits denote to base ten. The reader goes through
the digits from the left and keeps the number so far, so what has to be seen is that a number
that is read on is shifted by the digits still to come (`digitsFrom?_eq_some_iff`).

Around a number there may be white space, as much as there is. None of it can be a part of the
number, so where the number begins and ends is not in question.

## Main definitions

* `Text.Numeral`: A text is an integer.
* `Text.Denotes`: A text is an integer of 64 bits, perhaps with white space around it.

## Theorems

* `Text.signed?_eq_some_iff`: Integers are read just if the text is one.
* `Text.int64?_trim_eq_some_iff`: So are integers of 64 bits with white space around them.
-/

namespace Registrar

namespace Text

/-- The number that digits denote to base ten. -/
def digitsValue (digits : List Char) : Nat :=
  Nat.ofDigits 10 (digits.reverse.map fun c => c.toNat - '0'.toNat)

/-- A text is an integer: an optional sign, and at least one digit. -/
inductive Numeral : List Char → Int → Prop
  | unsigned {digits : List Char} (hne : digits ≠ []) (h : ∀ c ∈ digits, c.isDigit = true) :
      Numeral digits (digitsValue digits)
  | positive {digits : List Char} (hne : digits ≠ []) (h : ∀ c ∈ digits, c.isDigit = true) :
      Numeral ('+' :: digits) (digitsValue digits)
  | negative {digits : List Char} (hne : digits ≠ []) (h : ∀ c ∈ digits, c.isDigit = true) :
      Numeral ('-' :: digits) (-(digitsValue digits : Int))

/-- A text is an integer of 64 bits, perhaps with white space before and after it. -/
def Denotes (text : List Char) (n : Int) : Prop :=
  ∃ front numeral back, text = front ++ (numeral ++ back) ∧
    (∀ c ∈ front, isBlank c = true) ∧ (∀ c ∈ back, isBlank c = true) ∧
      Numeral numeral n ∧ inInt64 n = true

theorem digitsValue_cons (c : Char) (digits : List Char) :
    digitsValue (c :: digits) =
      digitsValue digits + 10 ^ digits.length * (c.toNat - '0'.toNat) := by
  rw [digitsValue, List.reverse_cons, List.map_append, Nat.ofDigits_append, List.length_map,
    List.length_reverse, List.map_singleton, Nat.ofDigits_singleton]
  rfl

/-- A number that is read on is shifted by the digits that come after it. -/
theorem digitsFrom?_eq_some_iff {acc n : Nat} {text : List Char} :
    digitsFrom? acc text = some n ↔ (∀ c ∈ text, c.isDigit = true) ∧
      n = digitsValue text + 10 ^ text.length * acc := by
  induction text generalizing acc with
  | nil =>
      simp only [digitsFrom?, Option.some.injEq, List.not_mem_nil, false_imp_iff, implies_true,
        true_and, List.length_nil, Nat.pow_zero, Nat.one_mul]
      rw [show digitsValue [] = 0 from rfl, Nat.zero_add, eq_comm]
  | cons c text ih =>
      -- The digits still to come shift this one and what was read before it.
      have hshift : digitsValue text + 10 ^ text.length * (acc * 10 + (c.toNat - 48)) =
          digitsValue (c :: text) + 10 ^ (c :: text).length * acc := by
        rw [digitsValue_cons, List.length_cons, Nat.pow_succ, show '0'.toNat = 48 from rfl]
        ring
      rw [digitsFrom?, List.forall_mem_cons]
      by_cases hc : c.isDigit = true
      · rw [if_pos hc, ih, hshift, and_iff_right hc]
      · rw [if_neg hc]
        exact iff_of_false (Option.some_ne_none n).symm fun h => hc h.1.1

theorem digits?_eq_some_iff {n : Nat} {text : List Char} :
    digits? text = some n ↔
      text ≠ [] ∧ (∀ c ∈ text, c.isDigit = true) ∧ n = digitsValue text := by
  rw [digits?]
  cases text with
  | nil => exact iff_of_false (Option.some_ne_none n).symm fun h => h.1 rfl
  | cons c text =>
      rw [List.isEmpty_cons, if_neg Bool.false_ne_true, digitsFrom?_eq_some_iff, Nat.mul_zero,
        Nat.add_zero, and_iff_right (List.cons_ne_nil c text)]

theorem ne_sign_of_isDigit {c : Char} (h : c.isDigit = true) : c ≠ '-' ∧ c ≠ '+' := by
  constructor
  · rintro rfl
    exact absurd h (by decide)
  · rintro rfl
    exact absurd h (by decide)

/-- Integers are read just if the text is one. -/
theorem signed?_eq_some_iff {text : List Char} {n : Int} :
    signed? text = some n ↔ Numeral text n := by
  constructor
  · intro h
    unfold signed? at h
    split at h
    · rcases Option.map_eq_some_iff.1 h with ⟨value, hvalue, rfl⟩
      rcases Option.bind_eq_some_iff.1 hvalue with ⟨digits, hread, hcast⟩
      rcases digits?_eq_some_iff.1 hread with ⟨hne, hdigits, rfl⟩
      rcases Option.some.inj hcast
      exact .negative hne hdigits
    · rcases Option.map_eq_some_iff.1 h with ⟨value, hvalue, rfl⟩
      rcases digits?_eq_some_iff.1 hvalue with ⟨hne, hdigits, rfl⟩
      exact .positive hne hdigits
    · rcases Option.map_eq_some_iff.1 h with ⟨value, hvalue, rfl⟩
      rcases digits?_eq_some_iff.1 hvalue with ⟨hne, hdigits, rfl⟩
      exact .unsigned hne hdigits
  · intro h
    cases h with
    | unsigned hne hdigits =>
        -- A digit is no sign, so the text is read as digits from its first character.
        rcases text with _ | ⟨c, text⟩
        · exact absurd rfl hne
        · rcases ne_sign_of_isDigit (hdigits c List.mem_cons_self) with ⟨hminus, hplus⟩
          rw [signed?, digits?_eq_some_iff.2 ⟨hne, hdigits, rfl⟩]
          · rfl
          · rintro rest ⟨rfl, rfl⟩
            exact hminus rfl
          · rintro rest ⟨rfl, rfl⟩
            exact hplus rfl
    | positive hne hdigits =>
        rw [signed?, digits?_eq_some_iff.2 ⟨hne, hdigits, rfl⟩]
        rfl
    | negative hne hdigits =>
        rw [signed?, digits?_eq_some_iff.2 ⟨hne, hdigits, rfl⟩]
        rfl

theorem not_isBlank_of_isDigit {c : Char} (h : c.isDigit = true) : isBlank c = false := by
  have hrange : 48 ≤ c.toNat ∧ c.toNat ≤ 57 := by
    simp only [Char.isDigit, Bool.and_eq_true, decide_eq_true_eq, ge_iff_le,
      UInt32.le_iff_toNat_le] at h
    exact h
  simp only [isBlank, blankRanges, List.any_cons, List.any_nil, Bool.or_false,
    Bool.or_eq_false_iff, Bool.and_eq_false_imp, decide_eq_true_eq, decide_eq_false_iff_not]
  omega

theorem Numeral.not_isBlank {text : List Char} {n : Int} (h : Numeral text n) :
    text ≠ [] ∧ ∀ c ∈ text, isBlank c = false := by
  cases h with
  | unsigned hne h => exact ⟨hne, fun c hc => not_isBlank_of_isDigit (h c hc)⟩
  | positive hne h =>
      refine ⟨List.cons_ne_nil _ _, List.forall_mem_cons.2 ⟨by decide, fun c hc => ?_⟩⟩
      exact not_isBlank_of_isDigit (h c hc)
  | negative hne h =>
      refine ⟨List.cons_ne_nil _ _, List.forall_mem_cons.2 ⟨by decide, fun c hc => ?_⟩⟩
      exact not_isBlank_of_isDigit (h c hc)

/-- Trimming takes away nothing but blanks. -/
theorem exists_trim (text : List Char) : ∃ front back, text = front ++ (trim text ++ back) ∧
    (∀ c ∈ front, isBlank c = true) ∧ ∀ c ∈ back, isBlank c = true := by
  let rest := text.dropWhile isBlank
  refine ⟨text.takeWhile isBlank, (rest.reverse.takeWhile isBlank).reverse, ?_, ?_, ?_⟩
  · have hrest : trim text ++ (rest.reverse.takeWhile isBlank).reverse = rest := by
      rw [trim, ← List.reverse_append, List.takeWhile_append_dropWhile, List.reverse_reverse]
    rw [hrest, List.takeWhile_append_dropWhile]
  · exact fun c hc => List.mem_takeWhile_imp hc
  · exact fun c hc => List.mem_takeWhile_imp (List.mem_reverse.1 hc)

theorem dropWhile_isBlank_append {front text : List Char} (hfront : ∀ c ∈ front, isBlank c = true)
    (hne : text ≠ []) (htext : ∀ c ∈ text, isBlank c = false) (back : List Char) :
    (front ++ (text ++ back)).dropWhile isBlank = text ++ back := by
  rw [List.dropWhile_append_of_pos hfront]
  cases text with
  | nil => exact absurd rfl hne
  | cons c text =>
      rw [List.cons_append, List.dropWhile_cons, htext c List.mem_cons_self,
        if_neg Bool.false_ne_true]

/-- It takes away all of them, around a text without any. -/
theorem trim_append {front text back : List Char} (hfront : ∀ c ∈ front, isBlank c = true)
    (hback : ∀ c ∈ back, isBlank c = true) (hne : text ≠ [])
    (htext : ∀ c ∈ text, isBlank c = false) : trim (front ++ (text ++ back)) = text := by
  have hback' : ∀ c ∈ back.reverse, isBlank c = true := fun c hc => hback c (List.mem_reverse.1 hc)
  have htext' : ∀ c ∈ text.reverse, isBlank c = false :=
    fun c hc => htext c (List.mem_reverse.1 hc)
  have hreverse :=
    dropWhile_isBlank_append hback' (mt List.reverse_eq_nil_iff.1 hne) htext' []
  rw [List.append_nil] at hreverse
  rw [trim, dropWhile_isBlank_append hfront hne htext, List.reverse_append, hreverse,
    List.reverse_reverse]

/-- An integer of 64 bits is read from a text, without the blanks around it, just if the text
    is one. -/
theorem int64?_trim_eq_some_iff {text : List Char} {n : Int} :
    int64? (trim text) = some n ↔ Denotes text n := by
  rw [int64?, Option.filter_eq_some_iff, signed?_eq_some_iff]
  constructor
  · rintro ⟨hnumeral, hrange⟩
    rcases exists_trim text with ⟨front, back, htext, hfront, hback⟩
    exact ⟨front, trim text, back, htext, hfront, hback, hnumeral, hrange⟩
  · -- No blank is a part of a number, so trimming leaves just the number.
    rintro ⟨front, numeral, back, rfl, hfront, hback, hnumeral, hrange⟩
    rcases hnumeral.not_isBlank with ⟨hne, hblank⟩
    rw [trim_append hfront hback hne hblank]
    exact ⟨hnumeral, hrange⟩

end Text

end Registrar
