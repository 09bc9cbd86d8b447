import Registrar.Json.Lexeme
import Registrar.Text.Cut

/-!
# Tokens of JSON

A text is cut into marks, words, numbers and strings. Where it cannot be cut any
further a token says so, and nothing after that place is looked at.

## Main definitions

* `Token`: A mark, a value without parts, or the place where the text breaks.
* `Token.next?`: The first token and what follows it.
* `Token.all`: The tokens of a text.

## Theorems

* `Token.next?_length`: What follows a token is shorter.
-/

namespace Registrar

namespace Json

/-- A token of a JSON text. -/
inductive Token
  | openArray
  | closeArray
  | openObject
  | closeObject
  | comma
  | colon
  | null
  | bool (value : Bool)
  | number (lexeme : NumberLexeme)
  | string (lexeme : StringLexeme)
  | broken
  deriving DecidableEq, Repr

namespace Token

/-- The blanks of JSON. -/
def isBlank (c : Char) : Bool :=
  c = ' ' || c = '\n' || c = '\t' || c = '\r'

/-- The value of a decimal digit. -/
def digitValue (c : Char) : Nat := c.toNat - 48

/-- The value of a hexadecimal digit of either case. -/
def hexValue? (c : Char) : Option Nat :=
  if c.isDigit then some (c.toNat - 48)
  else if 'a' ≤ c && c ≤ 'f' then some (c.toNat - 87)
  else if 'A' ≤ c && c ≤ 'F' then some (c.toNat - 55)
  else none

/-- The code unit that four hexadecimal digits denote. -/
def codeUnit? (a b c d : Char) : Option Nat := do
  let a ← hexValue? a
  let b ← hexValue? b
  let c ← hexValue? c
  let d ← hexValue? d
  pure (((a * 16 + b) * 16 + c) * 16 + d)

/-- The character that a one-letter escape denotes. -/
def shortEscape? (c : Char) : Option Char :=
  if c = '"' || c = '\\' || c = '/' then some c
  else if c = 'b' then some '\x08'
  else if c = 'f' then some '\x0c'
  else if c = 'n' then some '\n'
  else if c = 'r' then some '\r'
  else if c = 't' then some '\t'
  else none

/-- The inside of a string up to its closing quote, and what follows that. A
    control character below U+0020 has to be escaped. -/
def stringBody? : List Char → Option (StringLexeme × List Char)
  | [] => none
  | '"' :: rest => some ([], rest)
  | '\\' :: 'u' :: a :: b :: c :: d :: rest => do
    let unit ← codeUnit? a b c d
    let body ← stringBody? rest
    pure (.code unit :: body.1, body.2)
  | '\\' :: e :: rest => do
    let c ← shortEscape? e
    let body ← stringBody? rest
    pure (.char c :: body.1, body.2)
  | c :: rest =>
    if c = '\\' || c.toNat < 0x20 then none
    else (stringBody? rest).map fun body => (.char c :: body.1, body.2)

theorem stringBody?_length {text : List Char} {body : StringLexeme × List Char}
    (h : stringBody? text = some body) : body.2.length < text.length := by
  fun_induction stringBody? text generalizing body with
  | case1 => exact absurd h (by simp)
  | case2 rest =>
      simp only [Option.some.injEq] at h
      subst h
      simp
  | case3 a b c d rest ih =>
      simp only [Option.bind_eq_bind, Option.bind_eq_some_iff, Option.pure_def,
        Option.some.injEq] at h
      obtain ⟨_, _, inner, hinner, rfl⟩ := h
      have := ih hinner
      simp only [List.length_cons]
      omega
  | case4 e rest _ ih =>
      simp only [Option.bind_eq_bind, Option.bind_eq_some_iff, Option.pure_def,
        Option.some.injEq] at h
      obtain ⟨_, _, inner, hinner, rfl⟩ := h
      have := ih hinner
      simp only [List.length_cons]
      omega
  | case5 => exact absurd h (by simp)
  | case6 c rest _ _ _ _ ih =>
      obtain ⟨inner, hinner, rfl⟩ := Option.map_eq_some_iff.1 h
      have := ih hinner
      simp only [List.length_cons]
      omega

/-- The digits at the front of a text, and what follows them. -/
def digits (text : List Char) : List Nat × List Char :=
  ((text.takeWhile Char.isDigit).map digitValue, text.dropWhile Char.isDigit)

theorem digits_length (text : List Char) : (digits text).2.length ≤ text.length :=
  (List.dropWhile_suffix _).length_le

/-- The number that digits denote. -/
def digitsNat (ds : List Nat) : Nat :=
  ds.foldl (fun n d => n * 10 + d) 0

/-- The whole part of a number: `0`, or digits that do not begin with `0`. -/
def wholePart? (text : List Char) : Option (List Nat × List Char) :=
  let ds := digits text
  match ds.1 with
  | [] => none
  | 0 :: _ :: _ => none
  | _ => some ds

/-- The digits after the point, if there is a point. -/
def fractionPart? : List Char → Option (List Nat × List Char)
  | '.' :: rest =>
    let ds := digits rest
    if ds.1.isEmpty then none else some ds
  | text => some ([], text)

/-- The sign of an exponent and what follows it. -/
def exponentSign : List Char → Bool × List Char
  | '+' :: rest => (false, rest)
  | '-' :: rest => (true, rest)
  | text => (false, text)

/-- The exponent, if there is one. -/
def exponentPart? : List Char → Option (Option Int × List Char)
  | [] => some (none, [])
  | c :: rest =>
    if c = 'e' || c = 'E' then
      let signed := exponentSign rest
      let ds := digits signed.2
      if ds.1.isEmpty then none
      else
        let size : Int := digitsNat ds.1
        some (some (if signed.1 then -size else size), ds.2)
    else some (none, c :: rest)

/-- A number without its sign, and what follows it. -/
def numberBody? (negative : Bool) (text : List Char) : Option (NumberLexeme × List Char) := do
  let whole ← wholePart? text
  let fraction ← fractionPart? whole.2
  let exponent ← exponentPart? fraction.2
  pure (⟨negative, whole.1, fraction.1, exponent.1⟩, exponent.2)

theorem wholePart?_length {text : List Char} {part : List Nat × List Char}
    (h : wholePart? text = some part) : part.2.length < text.length := by
  cases text with
  | nil => simp [wholePart?, digits] at h
  | cons c rest =>
      have hlen : (digits (c :: rest)).1 ≠ [] →
          (digits (c :: rest)).2.length < (c :: rest).length := by
        intro hne
        simp only [digits, List.takeWhile_cons, List.dropWhile_cons] at hne ⊢
        split at hne
        · rename_i hd
          simp only [hd, if_true, List.length_cons]
          exact Nat.lt_succ_of_le (digits_length rest)
        · exact absurd rfl hne
      simp only [wholePart?] at h
      split at h
      · exact absurd h (by simp)
      · exact absurd h (by simp)
      · rename_i hne _
        simp only [Option.some.injEq] at h
        subst h
        exact hlen hne

theorem fractionPart?_length {text : List Char} {part : List Nat × List Char}
    (h : fractionPart? text = some part) : part.2.length ≤ text.length := by
  unfold fractionPart? at h
  split at h
  · rename_i rest
    simp only at h
    split at h
    · exact absurd h (by simp)
    · simp only [Option.some.injEq] at h
      subst h
      have := digits_length rest
      simp only [List.length_cons]
      omega
  · simp only [Option.some.injEq] at h
    subst h
    exact Nat.le_refl _

theorem exponentSign_length (text : List Char) : (exponentSign text).2.length ≤ text.length := by
  unfold exponentSign
  split <;> simp

theorem exponentPart?_length {text : List Char} {part : Option Int × List Char}
    (h : exponentPart? text = some part) : part.2.length ≤ text.length := by
  unfold exponentPart? at h
  split at h
  · simp only [Option.some.injEq] at h
    subst h
    exact Nat.le_refl _
  · rename_i c rest
    simp only at h
    split at h
    · split at h
      · exact absurd h (by simp)
      · simp only [Option.some.injEq] at h
        subst h
        have h1 := digits_length (exponentSign rest).2
        have h2 := exponentSign_length rest
        simp only [List.length_cons]
        omega
    · simp only [Option.some.injEq] at h
      subst h
      exact Nat.le_refl _

theorem numberBody?_length {negative : Bool} {text : List Char} {body : NumberLexeme × List Char}
    (h : numberBody? negative text = some body) : body.2.length < text.length := by
  simp only [numberBody?, Option.bind_eq_bind, Option.bind_eq_some_iff, Option.pure_def,
    Option.some.injEq] at h
  obtain ⟨whole, hwhole, fraction, hfraction, exponent, hexponent, rfl⟩ := h
  have h1 := wholePart?_length hwhole
  have h2 := fractionPart?_length hfraction
  have h3 := exponentPart?_length hexponent
  simp only
  omega

/-- A token and the text after it; a failed reading breaks the text off. -/
def orBroken {α : Type} (make : α → Token) : Option (α × List Char) → Token × List Char
  | some (value, rest) => (make value, rest)
  | none => (broken, [])

/-- A word and the text after it. -/
def word (letters : List Char) (token : Token) (text : List Char) : Token × List Char :=
  orBroken (fun _ => token) ((Text.afterLead? letters text).map fun rest => ((), rest))

/-- The tokens of one character. -/
def mark? : Char → Option Token
  | '[' => some openArray
  | ']' => some closeArray
  | '\x7b' => some openObject
  | '\x7d' => some closeObject
  | ',' => some comma
  | ':' => some colon
  | _ => none

/-- The rest of the word that begins with a character, and its token. -/
def keyword? : Char → Option (List Char × Token)
  | 'n' => some (['u', 'l', 'l'], null)
  | 't' => some (['r', 'u', 'e'], bool true)
  | 'f' => some (['a', 'l', 's', 'e'], bool false)
  | _ => none

/-- The token that begins with a character, and the text after it. -/
def startingWith (c : Char) (rest : List Char) : Token × List Char :=
  match mark? c, keyword? c with
  | some token, _ => (token, rest)
  | none, some (letters, token) => word letters token rest
  | none, none =>
    if c = '"' then orBroken string (stringBody? rest)
    else if c = '-' then orBroken number (numberBody? true rest)
    else orBroken number (numberBody? false (c :: rest))

/-- The first token of a text and what follows it; nothing if only blanks are
    left. -/
def next? (text : List Char) : Option (Token × List Char) :=
  match text.dropWhile isBlank with
  | [] => none
  | c :: rest => some (startingWith c rest)

theorem orBroken_length {α : Type} {make : α → Token} {body : Option (α × List Char)} {n : Nat}
    (h : ∀ part, body = some part → part.2.length < n + 1) :
    (orBroken make body).2.length < n + 1 := by
  cases body with
  | none => simp [orBroken]
  | some part => exact h part rfl

theorem word_length (letters : List Char) (token : Token) (text : List Char) :
    (word letters token text).2.length < text.length + 1 := by
  refine orBroken_length fun part hpart => ?_
  obtain ⟨rest, hrest, rfl⟩ := Option.map_eq_some_iff.1 hpart
  have := Text.afterLead?_eq_some_iff.1 hrest
  simp only [this, List.length_append]
  omega

theorem startingWith_length (c : Char) (rest : List Char) :
    (startingWith c rest).2.length < rest.length + 1 := by
  unfold startingWith
  split
  · exact Nat.lt_succ_self _
  · exact word_length _ _ _
  · split
    · exact orBroken_length fun _ h => Nat.lt_succ_of_lt (stringBody?_length h)
    · split
      · exact orBroken_length fun _ h => Nat.lt_succ_of_lt (numberBody?_length h)
      · exact orBroken_length fun _ h => numberBody?_length h

/-- What follows a token is shorter. -/
theorem next?_length {text : List Char} {token : Token} {rest : List Char}
    (h : next? text = some (token, rest)) : rest.length < text.length := by
  unfold next? at h
  have hsuffix := (List.dropWhile_suffix isBlank (l := text)).length_le
  split at h
  · exact absurd h (by simp)
  · rename_i c tail htail
    simp only [Option.some.injEq] at h
    have := startingWith_length c tail
    rw [h] at this
    rw [htail, List.length_cons] at hsuffix
    simp only at this
    omega

/-- The tokens of a text. -/
def all (text : List Char) : List Token :=
  match _h : next? text with
  | none => []
  | some (token, rest) => token :: all rest
termination_by text.length
decreasing_by exact next?_length _h

theorem all_of_next? {text rest : List Char} {token : Token} (h : next? text = some (token, rest)) :
    all text = token :: all rest := by
  rw [all]
  split
  · rename_i hnone
    exact nomatch hnone.symm.trans h
  · rename_i hsome
    cases hsome.symm.trans h
    rfl

theorem all_of_none {text : List Char} (h : next? text = none) : all text = [] := by
  rw [all]
  split
  · rfl
  · rename_i hsome
    exact nomatch hsome.symm.trans h

end Token

end Json

end Registrar
