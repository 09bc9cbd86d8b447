import Registrar.QueryError
import Registrar.Listing.Query
import Registrar.Text.Blank
import Registrar.Text.Integer

/-!
# Pages

A listing shows one page of its rows. Pages are counted from 0 and all have the
same size, so page `p` begins after `p * size` rows; that offset must fit a
64-bit integer. Of several parameters with one key the last one counts, and its
value is trimmed of white space before it is read as an integer.

An index and a size are read as signed integers and multiplied as unsigned ones. Before a page
is let in, the product is checked against both ranges; when its rows are asked for, the product
is taken once more and stops at the end of its range, which an admissible page never reaches.

## Main definitions

* `Page`: An admissible page.
* `Page.new`: The page with an index and a size, if there is one.
* `Page.ofParams`: The page that the parameters ask for.
* `Page.offset`: How many rows come before it.

## Theorems

* `Page.offset_eq`: An admissible page begins after as many rows as the product says.
* `Page.hasOffset_iff`: Which products are let in.
-/

namespace Registrar

/-- A page of a listing. Its size is positive and its offset fits 64 bits. -/
structure Page where
  index : Nat
  size : Nat
  size_pos : 0 < size
  offset_le : index * size ≤ 9223372036854775807

namespace Page

/-- The size of a page if none is asked for. -/
def defaultSize : Int := 100

/-- The key of the page's index. -/
def indexKey : String := "page"

/-- The key of the page's size. -/
def sizeKey : String := "page_size"

/-- The greatest unsigned 64-bit integer. -/
def maxNat64 : Nat := 18446744073709551615

/-- The product of two unsigned 64-bit integers, if it is one as well. -/
def checkedProduct? (m n : Nat) : Option Nat :=
  if m * n ≤ maxNat64 then some (m * n) else none

/-- The product of two unsigned 64-bit integers, or the greatest of them if it is none. -/
def saturatingProduct (m n : Nat) : Nat := min (m * n) maxNat64

/-- How many rows come before a page. -/
def offset (page : Page) : Nat := saturatingProduct page.index page.size

/-- An admissible page begins at the product itself. -/
theorem offset_eq (page : Page) : page.offset = page.index * page.size :=
  Nat.min_eq_left (Nat.le_trans page.offset_le (by decide))

/-- Whether the product of two unsigned 64-bit integers is one, and a signed one as well. -/
def hasOffset (index size : Nat) : Bool :=
  (checkedProduct? index size).any fun (offset : Nat) => Text.inInt64 (offset : Int)

theorem hasOffset_iff {index size : Nat} :
    hasOffset index size = true ↔ index * size ≤ 9223372036854775807 := by
  rw [hasOffset, checkedProduct?]
  split
  · rw [Option.any_some, Text.inInt64, Bool.and_eq_true, decide_eq_true_iff, decide_eq_true_iff,
      Text.minInt64, Text.maxInt64]
    omega
  · rename_i hproduct
    rw [maxNat64] at hproduct
    rw [Option.any_none]
    exact iff_of_false Bool.false_ne_true fun h => hproduct (Nat.le_trans h (by decide))

/-- The page with an index and a size, if there is one. The index is looked at
    first. -/
def new (index size : Int) : Except QueryError Page :=
  if index < 0 then .error (.invalidPagination s!"page must be >= 0, got {index}")
  else if hsize : size < 1 then
    .error (.invalidPagination s!"page_size must be >= 1, got {size}")
  else if hoffset : hasOffset index.toNat size.toNat = true then
    .ok ⟨index.toNat, size.toNat, by omega, hasOffset_iff.1 hoffset⟩
  else .error (.invalidPagination "page * page_size is too large")

/-- The value of the last parameter with a key. -/
def lastValue? (params : Params) (key : String) : Option String :=
  (params.reverse.find? fun param => param.1 = key).map Prod.snd

/-- The integer that the last parameter with a key holds, or a default if there
    is none. -/
def integerParam (params : Params) (key : String) (default : Int) : Except QueryError Int :=
  match lastValue? params key with
  | none => .ok default
  | some value =>
    match Text.int64? (Text.trim value.toList) with
    | some n => .ok n
    | none => .error (.invalidPagination s!"{key} must be an integer, got '{value}'")

/-- The page that the parameters ask for. -/
def ofParams (params : Params) : Except QueryError Page := do
  let index ← integerParam params indexKey 0
  let size ← integerParam params sizeKey defaultSize
  new index size

end Page

end Registrar
