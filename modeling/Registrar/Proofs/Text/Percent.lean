import Mathlib.Data.List.Forall2
import Registrar.Proofs.Text.Utf8
import Registrar.Text.Percent

/-!
# Percent-Encoding a Query

A client writes names and values into a query so that none of their characters is taken for
one that has a meaning there. How it does this is up to the client: any character may be
written as an escape for each of its bytes, with digits in either case, a space may be written
as `+`, and a character that means nothing special may stand for itself. Whatever the client
chooses, the query is read once and gives the names and values again.

In particular a `%` that is a part of a value comes through as `%`, with whatever follows it.

## Main definitions

* `Percent.Escaped`: Bytes are written as escapes.
* `Percent.Encoded`: A text is written so that it can stand in a query.
* `Percent.EncodedPair`: So is a name with a value.
* `Percent.encode`: One way to do it, in which only letters, digits and four marks are kept.

## Theorems

* `Percent.formDecode_of_encoded`: What is written for a text is read as that text.
* `Percent.formPairs_of_encoded`: What is written for names and values is read as these.
* `Percent.encoded_encode`: Every text can be written.
-/

namespace Registrar

namespace Percent

/-- The characters that have a meaning in a query. -/
def marks : List Char := ['%', '+', '&', '=', '#']

/-- The hexadecimal digits with their values. -/
def hexDigits : List (Char × Nat) :=
  "0123456789ABCDEF".toList.zipIdx ++ "abcdef".toList.zipIdx 10

/-- Bytes are written as escapes, one for each. -/
inductive Escaped : List UInt8 → List Char → Prop
  | nil : Escaped [] []
  | cons {b : UInt8} {high low : Char} {bytes : List UInt8} {written : List Char}
      (hhigh : (high, b.toNat / 16) ∈ hexDigits) (hlow : (low, b.toNat % 16) ∈ hexDigits)
      (h : Escaped bytes written) : Escaped (b :: bytes) ('%' :: high :: low :: written)

/-- A text is written so that it can stand in a query. -/
inductive Encoded : List Char → List Char → Prop
  | nil : Encoded [] []
  | plain {c : Char} {text written : List Char} (hc : c ∉ marks) (h : Encoded text written) :
      Encoded (c :: text) (c :: written)
  | space {text written : List Char} (h : Encoded text written) :
      Encoded (' ' :: text) ('+' :: written)
  | escaped {c : Char} {text digits written : List Char}
      (hc : Escaped (String.utf8EncodeChar c) digits) (h : Encoded text written) :
      Encoded (c :: text) (digits ++ written)

/-- A name and a value are written so that they can stand in a query. -/
def EncodedPair (pair : String × String) (written : List Char) : Prop :=
  ∃ name value, Encoded pair.1.toList name ∧ Encoded pair.2.toList value ∧
    written = name ++ '=' :: value

/-- A byte with `+` read as a space, as it is before the escapes are looked at. -/
def spaceOfPlus (b : UInt8) : UInt8 := if b = 0x2B then 0x20 else b

theorem decodeBytes_cons {b : UInt8} (h : b ≠ 0x25) (rest : List UInt8) :
    decodeBytes (b :: rest) = b :: decodeBytes rest := by
  rcases rest with _ | ⟨c, _ | ⟨d, rest⟩⟩
  · rfl
  · rfl
  · rw [decodeBytes, if_neg h]

theorem decodeBytes_append {bytes : List UInt8} (h : ∀ b ∈ bytes, b ≠ 0x25)
    (rest : List UInt8) : decodeBytes (bytes ++ rest) = bytes ++ decodeBytes rest := by
  induction bytes with
  | nil => rfl
  | cons b bytes ih =>
      rw [List.forall_mem_cons] at h
      rw [List.cons_append, decodeBytes_cons h.1, ih h.2, List.cons_append]

/-- A character below 128 is a byte of no other character. -/
theorem ne_of_mem_utf8EncodeChar {c d : Char} (hd : d.val.toNat < 0x80) (hne : c ≠ d) :
    ∀ b ∈ String.utf8EncodeChar c, b ≠ UInt8.ofNat d.val.toNat := by
  intro b hb hsame
  have hval : c.val.toNat ≠ d.val.toNat := fun h => hne (Char.ext (UInt32.toNat_inj.1 h))
  have hnat : b.toNat = d.val.toNat := by
    rw [hsame, UInt8.toNat_ofNat']
    omega
  rw [String.utf8EncodeChar] at hb
  generalize c.val.toNat = v at hval hb
  -- A byte of a longer character is 128 at least.
  split at hb
  · rw [List.mem_singleton.1 hb, UInt8.toNat_ofNat'] at hnat
    omega
  · have hlarge : 0x80 ≤ b.toNat := by
      split at hb
      · simp only [List.mem_cons, List.not_mem_nil, or_false] at hb
        rcases hb with rfl | rfl <;> (rw [UInt8.toNat_ofNat']; omega)
      · split at hb
        · simp only [List.mem_cons, List.not_mem_nil, or_false] at hb
          rcases hb with rfl | rfl | rfl <;> (rw [UInt8.toNat_ofNat']; omega)
        · simp only [List.mem_cons, List.not_mem_nil, or_false] at hb
          rcases hb with rfl | rfl | rfl | rfl <;> (rw [UInt8.toNat_ofNat']; omega)
    omega

/-- A digit is one byte, which is read as its value. -/
theorem hexDigit?_of_mem : ∀ entry ∈ hexDigits,
    String.utf8EncodeChar entry.1 = [UInt8.ofNat entry.1.val.toNat] ∧
      spaceOfPlus (UInt8.ofNat entry.1.val.toNat) = UInt8.ofNat entry.1.val.toNat ∧
        hexDigit? (UInt8.ofNat entry.1.val.toNat) = some (UInt8.ofNat entry.2) := by
  decide +kernel

theorem ne_mark_of_mem : ∀ entry ∈ hexDigits, entry.1 ∉ marks := by
  decide +kernel

theorem escape_value (b : UInt8) :
    UInt8.ofNat (b.toNat / 16) * 16 + UInt8.ofNat (b.toNat % 16) = b := by
  have hb := b.toNat_lt
  rw [← UInt8.toNat_inj, UInt8.toNat_add, UInt8.toNat_mul, UInt8.toNat_ofNat',
    UInt8.toNat_ofNat']
  change ((b.toNat / 16 % 256 * 16 % 256 + b.toNat % 16 % 256) % 256 = b.toNat)
  omega

/-- Escapes are read as the bytes that they are for. -/
theorem decodeBytes_of_escaped {bytes : List UInt8} {written : List Char}
    (h : Escaped bytes written) (rest : List UInt8) :
    decodeBytes ((Utf8.encode written).map spaceOfPlus ++ rest) = bytes ++ decodeBytes rest := by
  induction h with
  | nil => rfl
  | @cons b high low bytes written hhigh hlow h ih =>
      rcases hexDigit?_of_mem _ hhigh with ⟨hhighByte, hhighSpaced, hhighValue⟩
      rcases hexDigit?_of_mem _ hlow with ⟨hlowByte, hlowSpaced, hlowValue⟩
      have hescape : escape? (UInt8.ofNat high.val.toNat) (UInt8.ofNat low.val.toNat) =
          some b := by
        rw [escape?, hhighValue, hlowValue]
        exact congrArg some (escape_value b)
      have hwritten : (Utf8.encode ('%' :: high :: low :: written)).map spaceOfPlus =
          0x25 :: UInt8.ofNat high.val.toNat :: UInt8.ofNat low.val.toNat ::
            (Utf8.encode written).map spaceOfPlus := by
        simp only [Utf8.encode, List.flatMap_cons, hhighByte, hlowByte, List.map_append,
          List.map_cons, List.map_nil, hhighSpaced, hlowSpaced]
        rfl
      rw [hwritten, List.cons_append, List.cons_append, List.cons_append, decodeBytes,
        if_pos rfl, hescape]
      simp only [ih, List.cons_append]

theorem encode_cons (c : Char) (text : List Char) :
    Utf8.encode (c :: text) = String.utf8EncodeChar c ++ Utf8.encode text :=
  List.flatMap_cons

theorem decodeBytes_of_encoded {text written : List Char} (h : Encoded text written) :
    decodeBytes ((Utf8.encode written).map spaceOfPlus) = Utf8.encode text := by
  induction h with
  | nil => rfl
  | @plain c text written hc h ih =>
      simp only [marks, List.mem_cons, not_or] at hc
      have hpercent := ne_of_mem_utf8EncodeChar (d := '%') (by decide) hc.1
      have hplus := ne_of_mem_utf8EncodeChar (d := '+') (by decide) hc.2.1
      have hspaced : (String.utf8EncodeChar c).map spaceOfPlus = String.utf8EncodeChar c := by
        refine (List.map_congr_left fun b hb => ?_).trans (List.map_id' _)
        exact if_neg (hplus b hb)
      rw [encode_cons, List.map_append, hspaced, decodeBytes_append hpercent, ih, encode_cons]
  | @space text written h ih =>
      have hplus : (String.utf8EncodeChar '+').map spaceOfPlus = String.utf8EncodeChar ' ' := by
        decide
      have hspace := ne_of_mem_utf8EncodeChar (c := ' ') (d := '%') (by decide) (by decide)
      rw [encode_cons, encode_cons, List.map_append, hplus, decodeBytes_append hspace, ih]
  | @escaped c text digits written hc h ih =>
      have happend : Utf8.encode (digits ++ written) =
          Utf8.encode digits ++ Utf8.encode written := List.flatMap_append
      rw [happend, List.map_append, decodeBytes_of_escaped hc, ih, encode_cons]

/-- What is written for a text is read as that text. -/
theorem formDecode_of_encoded {text written : List Char} (h : Encoded text written) :
    formDecode written = text := by
  have hbytes := decodeBytes_of_encoded h
  unfold spaceOfPlus at hbytes
  rw [formDecode, hbytes, Utf8.decodeLossy_encode]

/-- The marks that end a value or a query are not in what is written. -/
theorem Escaped.not_mem {bytes : List UInt8} {written : List Char} (h : Escaped bytes written) :
    ∀ c ∈ ['&', '=', '#'], c ∉ written := by
  intro c hc
  have hmark : c ∈ marks := List.mem_cons_of_mem _ (List.mem_cons_of_mem _ hc)
  induction h with
  | nil => exact List.not_mem_nil
  | @cons b high low bytes written hhigh hlow h ih =>
      simp only [List.mem_cons, not_or]
      refine ⟨?_, ?_, ?_, ih⟩
      · rintro rfl
        exact absurd hc (by decide)
      · rintro rfl
        exact ne_mark_of_mem _ hhigh hmark
      · rintro rfl
        exact ne_mark_of_mem _ hlow hmark

theorem Encoded.not_mem {text written : List Char} (h : Encoded text written) :
    ∀ c ∈ ['&', '=', '#'], c ∉ written := by
  intro c hc
  induction h with
  | nil => exact List.not_mem_nil
  | plain hplain h ih =>
      rw [List.mem_cons, not_or]
      refine ⟨?_, ih⟩
      rintro rfl
      exact hplain (List.mem_cons_of_mem _ (List.mem_cons_of_mem _ hc))
  | space h ih =>
      rw [List.mem_cons, not_or]
      refine ⟨?_, ih⟩
      rintro rfl
      exact absurd hc (by decide)
  | escaped hescaped h ih =>
      rw [List.mem_append, not_or]
      exact ⟨hescaped.not_mem c hc, ih⟩

theorem EncodedPair.not_mem {pair : String × String} {written : List Char}
    (h : EncodedPair pair written) : '&' ∉ written ∧ '#' ∉ written := by
  rcases h with ⟨name, value, hname, hvalue, rfl⟩
  simp only [List.mem_append, List.mem_cons, not_or]
  exact ⟨⟨hname.not_mem '&' (by decide), by decide, hvalue.not_mem '&' (by decide)⟩,
    hname.not_mem '#' (by decide), by decide, hvalue.not_mem '#' (by decide)⟩

theorem EncodedPair.cut {pair : String × String} {written : List Char}
    (h : EncodedPair pair written) : ∃ name value, Text.cutAt? '=' written = some (name, value) ∧
      (String.ofList (formDecode name), String.ofList (formDecode value)) = pair := by
  rcases h with ⟨name, value, hname, hvalue, rfl⟩
  refine ⟨name, value, Text.cutAt?_eq_some_iff.2 ⟨rfl, hname.not_mem '=' (by decide)⟩, ?_⟩
  rw [formDecode_of_encoded hname, formDecode_of_encoded hvalue, String.ofList_toList,
    String.ofList_toList]

/-- Parts of a query are read one by one, since none of them is empty. -/
theorem map_filter_of_encoded {read : List Char → String × String}
    (hread : ∀ part name value, Text.cutAt? '=' part = some (name, value) →
      read part = (String.ofList (formDecode name), String.ofList (formDecode value)))
    {pairs : List (String × String)} {written : List (List Char)}
    (h : List.Forall₂ EncodedPair pairs written) :
    (written.filter fun part => !part.isEmpty).map read = pairs := by
  induction h with
  | nil => rfl
  | @cons pair part pairs written hpair h ih =>
      rcases hpair.cut with ⟨name, value, hcut, hsame⟩
      have hfull : (!part.isEmpty) = true := by
        cases part with
        | nil => cases hcut
        | cons c part => rfl
      rw [List.filter_cons, if_pos hfull, List.map_cons, ih, hread part name value hcut, hsame]

/-- What is written for names and values is read as these. -/
theorem formPairs_of_encoded {pairs : List (String × String)} {written : List (List Char)}
    (h : List.Forall₂ EncodedPair pairs written) :
    formPairs (['&'].intercalate written) = pairs := by
  by_cases hnil : written = []
  · -- An empty query has one part, which is empty and not looked at.
    rw [hnil, List.forall₂_nil_right_iff] at h
    rw [hnil, h]
    rfl
  · have hpart : ∀ part ∈ written, '&' ∉ part := by
      clear hnil
      induction h with
      | nil => exact List.forall_mem_nil _
      | cons hpair h ih => exact List.forall_mem_cons.2 ⟨hpair.not_mem.1, ih⟩
    have hsplit := Text.splitOn_eq_iff_intercalate.2 ⟨hnil, rfl, hpart⟩
    rw [formPairs, hsplit]
    refine map_filter_of_encoded (fun part name value hcut => ?_) h
    simp only [hcut]

/-- The character of a hexadecimal digit. -/
def hexDigitOf (n : Nat) : Char := "0123456789ABCDEF".toList.getD n '0'

/-- Bytes as escapes. -/
def escapes : List UInt8 → List Char
  | [] => []
  | b :: rest => '%' :: hexDigitOf (b.toNat / 16) :: hexDigitOf (b.toNat % 16) :: escapes rest

/-- A text as it can stand in a query: letters, digits and four marks are kept, and everything
    else is escaped. -/
def encode : List Char → List Char
  | [] => []
  | c :: rest =>
    (if c.isAlphanum || "-_.~".toList.contains c then [c]
      else escapes (String.utf8EncodeChar c)) ++ encode rest

theorem hexDigitOf_mem : ∀ n < 16, (hexDigitOf n, n) ∈ hexDigits := by
  decide +kernel

theorem escaped_escapes (bytes : List UInt8) : Escaped bytes (escapes bytes) := by
  induction bytes with
  | nil => exact .nil
  | cons b bytes ih =>
      have hb := b.toNat_lt
      exact .cons (hexDigitOf_mem _ (by omega)) (hexDigitOf_mem _ (by omega)) ih

theorem not_mem_marks_of_kept {c : Char}
    (h : (c.isAlphanum || "-_.~".toList.contains c) = true) : c ∉ marks := by
  simp only [marks, List.mem_cons, List.not_mem_nil, or_false]
  -- None of the five is kept.
  rintro (rfl | rfl | rfl | rfl | rfl) <;> exact absurd h (by decide)

/-- Every text can be written so that it can stand in a query. -/
theorem encoded_encode (text : List Char) : Encoded text (encode text) := by
  induction text with
  | nil => exact .nil
  | cons c text ih =>
      rw [encode]
      split
      · next hkept => exact .plain (not_mem_marks_of_kept hkept) ih
      · exact .escaped (escaped_escapes _) ih

end Percent

end Registrar
