import Mathlib.Tactic.IntervalCases
import Registrar.Text.Utf8

/-!
# Reading UTF-8 Again

The bytes of a text are read as that text. A character has one to four bytes, and the first of
them says how many; the machine that reads them then waits for as many bytes as are owed. The
bounds that it sets for the second byte are those that a character of that length keeps: one
with fewer bytes is not written with more, and the numbers between the two halves of the
characters are none.

## Theorems

* `Utf8.unitsFrom_char`: The bytes of a character are read as that character.
* `Utf8.decodeLossy_encode`: Those of a text are read as that text.
-/

namespace Registrar

namespace Utf8

theorem begin?_of_ascii {n : Nat} (h : n < 0x80) :
    begin? (UInt8.ofNat n) = some (.inl (Char.ofNat n)) := by
  have hn : (UInt8.ofNat n).toNat = n := by
    rw [UInt8.toNat_ofNat']
    omega
  have hlt : UInt8.ofNat n < 0x80 := by
    rw [UInt8.lt_iff_toNat_lt, hn]
    exact h
  rw [begin?, if_pos hlt, hn]

theorem begin?_of_two {n : Nat} (hlow : 0xC2 ≤ n) (hhigh : n < 0xE0) :
    begin? (UInt8.ofNat n) = some (.inr ⟨0, 0x80, 0xBF, n - 0xC0⟩) := by
  interval_cases n <;> rfl

/-- Of three bytes the second is bounded, if the first alone does not say that the character
    needs three, or that it is one. -/
theorem begin?_of_three {n : Nat} (hlow : 0xE0 ≤ n) (hhigh : n < 0xF0) :
    begin? (UInt8.ofNat n) = some (.inr ⟨1, if n = 0xE0 then 0xA0 else 0x80,
      if n = 0xED then 0x9F else 0xBF, n - 0xE0⟩) := by
  interval_cases n <;> rfl

theorem begin?_of_four {n : Nat} (hlow : 0xF0 ≤ n) (hhigh : n < 0xF5) :
    begin? (UInt8.ofNat n) = some (.inr ⟨2, if n = 0xF0 then 0x90 else 0x80,
      if n = 0xF4 then 0x8F else 0xBF, n - 0xF0⟩) := by
  interval_cases n <;> rfl

variable {low high : UInt8} {n value : Nat}

theorem within_bounds (hlow : low.toNat ≤ n) (hhigh : n ≤ high.toNat) :
    (UInt8.ofNat n).toNat = n ∧ (low ≤ UInt8.ofNat n && UInt8.ofNat n ≤ high) = true := by
  have hn : (UInt8.ofNat n).toNat = n := by
    have hsize := high.toNat_lt
    rw [UInt8.toNat_ofNat']
    omega
  refine ⟨hn, ?_⟩
  rw [Bool.and_eq_true, decide_eq_true_iff, decide_eq_true_iff, UInt8.le_iff_toNat_le,
    UInt8.le_iff_toNat_le, hn]
  exact ⟨hlow, hhigh⟩

/-- The last byte of a character completes it. -/
theorem unitsFrom_last (hlow : low.toNat ≤ n) (hhigh : n ≤ high.toNat) (rest : List UInt8) :
    unitsFrom (some ⟨0, low, high, value⟩) (UInt8.ofNat n :: rest) =
      some (Char.ofNat (value * 64 + (n - 0x80))) :: unitsFrom none rest := by
  rcases within_bounds hlow hhigh with ⟨hn, hwithin⟩
  simp only [unitsFrom, hwithin, if_true, hn]

/-- Any other byte leaves one less to come, for which there are no special bounds. -/
theorem unitsFrom_next (hlow : low.toNat ≤ n) (hhigh : n ≤ high.toNat) (owed : Nat)
    (rest : List UInt8) :
    unitsFrom (some ⟨owed + 1, low, high, value⟩) (UInt8.ofNat n :: rest) =
      unitsFrom (some ⟨owed, 0x80, 0xBF, value * 64 + (n - 0x80)⟩) rest := by
  rcases within_bounds hlow hhigh with ⟨hn, hwithin⟩
  simp only [unitsFrom, hwithin, if_true, hn]

/-- A byte that begins a longer character is waited for. -/
theorem unitsFrom_begin {b : UInt8} {pending : Pending} (h : begin? b = some (.inr pending))
    (rest : List UInt8) : unitsFrom none (b :: rest) = unitsFrom (some pending) rest := by
  simp only [unitsFrom, beginWith, h]

/-- Two bytes are read as one number. -/
theorem unitsFrom_two {v : Nat} (hlow : 0x7F < v) (hhigh : v ≤ 0x7FF) (rest : List UInt8) :
    unitsFrom none (UInt8.ofNat (v / 64 % 32 + 192) :: UInt8.ofNat (v % 64 + 128) :: rest) =
      some (Char.ofNat v) :: unitsFrom none rest := by
  have hvalue : (v / 64 % 32 + 192 - 0xC0) * 64 + (v % 64 + 128 - 0x80) = v := by omega
  rw [unitsFrom_begin (begin?_of_two (by omega) (by omega)),
    unitsFrom_last (by change 0x80 ≤ _; omega) (by change _ ≤ 0xBF; omega), hvalue]

/-- So are three, unless the number is that of no character. -/
theorem unitsFrom_three {v : Nat} (hlow : 0x7FF < v) (hhigh : v ≤ 0xFFFF)
    (hvalid : v < 0xD800 ∨ 0xDFFF < v) (rest : List UInt8) :
    unitsFrom none (UInt8.ofNat (v / 4096 % 16 + 224) :: UInt8.ofNat (v / 64 % 64 + 128) ::
      UInt8.ofNat (v % 64 + 128) :: rest) = some (Char.ofNat v) :: unitsFrom none rest := by
  have hvalue : ((v / 4096 % 16 + 224 - 0xE0) * 64 + (v / 64 % 64 + 128 - 0x80)) * 64 +
      (v % 64 + 128 - 0x80) = v := by omega
  rw [unitsFrom_begin (begin?_of_three (by omega) (by omega)), unitsFrom_next,
    unitsFrom_last (by change 0x80 ≤ _; omega) (by change _ ≤ 0xBF; omega), hvalue]
  · split
    · change 0xA0 ≤ _
      omega
    · change 0x80 ≤ _
      omega
  · split
    · change _ ≤ 0x9F
      omega
    · change _ ≤ 0xBF
      omega

/-- So are four. -/
theorem unitsFrom_four {v : Nat} (hlow : 0xFFFF < v) (hhigh : v < 0x110000)
    (rest : List UInt8) :
    unitsFrom none (UInt8.ofNat (v / 262144 % 8 + 240) :: UInt8.ofNat (v / 4096 % 64 + 128) ::
      UInt8.ofNat (v / 64 % 64 + 128) :: UInt8.ofNat (v % 64 + 128) :: rest) =
        some (Char.ofNat v) :: unitsFrom none rest := by
  have hvalue : (((v / 262144 % 8 + 240 - 0xF0) * 64 + (v / 4096 % 64 + 128 - 0x80)) * 64 +
      (v / 64 % 64 + 128 - 0x80)) * 64 + (v % 64 + 128 - 0x80) = v := by omega
  rw [unitsFrom_begin (begin?_of_four (by omega) (by omega)), unitsFrom_next,
    unitsFrom_next (by change 0x80 ≤ _; omega) (by change _ ≤ 0xBF; omega),
    unitsFrom_last (by change 0x80 ≤ _; omega) (by change _ ≤ 0xBF; omega), hvalue]
  · split
    · change 0x90 ≤ _
      omega
    · change 0x80 ≤ _
      omega
  · split
    · change _ ≤ 0x8F
      omega
    · change _ ≤ 0xBF
      omega

/-- The bytes of a character are read as that character, whatever follows them. -/
theorem unitsFrom_char (c : Char) (rest : List UInt8) :
    unitsFrom none (String.utf8EncodeChar c ++ rest) = some c :: unitsFrom none rest := by
  have hvalid : c.val.toNat < 0xD800 ∨ 0xDFFF < c.val.toNat ∧ c.val.toNat < 0x110000 := c.valid
  have hread : Char.ofNat c.val.toNat = c := Char.ofNat_toNat c
  rw [String.utf8EncodeChar]
  generalize c.val.toNat = v at hvalid hread ⊢
  by_cases hone : v ≤ 127
  · rw [if_pos hone]
    simp only [List.cons_append, List.nil_append, unitsFrom, beginWith,
      begin?_of_ascii (Nat.lt_succ_of_le hone), hread]
  · rw [if_neg hone]
    by_cases htwo : v ≤ 2047
    · rw [if_pos htwo, ← hread]
      exact unitsFrom_two (by omega) htwo rest
    · rw [if_neg htwo]
      by_cases hthree : v ≤ 65535
      · rw [if_pos hthree, ← hread]
        exact unitsFrom_three (by omega) hthree (by omega) rest
      · rw [if_neg hthree, ← hread]
        exact unitsFrom_four (by omega) (by omega) rest

/-- The bytes of a text are characters throughout, and those of the text. -/
theorem units_encode (text : List Char) : units (encode text) = text.map some := by
  induction text with
  | nil => rfl
  | cons c text ih =>
      rw [units, encode, List.flatMap_cons, unitsFrom_char]
      exact congrArg _ ih

/-- The bytes of a text are read as that text. -/
theorem decodeLossy_encode (text : List Char) : decodeLossy (encode text) = text := by
  rw [decodeLossy, units_encode, List.map_map]
  exact List.map_id' text

end Utf8

end Registrar
