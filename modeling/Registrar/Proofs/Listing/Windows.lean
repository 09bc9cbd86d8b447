import Mathlib.Data.List.Chain
import Mathlib.Data.List.Range
import Registrar.Catalog.Builtin
import Registrar.Listing.Plan
import Registrar.Proofs.Text.Integer

/-!
# Windows of a Listing

Whoever turns the pages of a listing wants to see every row once. A page is a window on the
rows: so many are passed over, and so many of the others are shown. Windows of one size that
are taken in the order of their indices lie side by side, so what has to be seen is that the
pages that are let in are all of them up to some index, and that the numbers in the statement
are the numbers that were asked for, at the ends of the ranges as well.

The rows are those that the statement without its limit and offset comes to. They are taken to
be the same for every page, which is the database's part.

## Main definitions

* `Select.window`: The rows that the limit and the offset of a selection leave.
* `Page.first`: The first pages of a size.
* `Page.Consecutive`: Pages of one size, one after another from the first on.
* `Page.Last`, `Page.Asked`: What the parameters hold for a key.

## Theorems

* `Page.exists_new_iff`: Which pages there are.
* `Page.consecutive_first`: Those of a size are consecutive.
* `Page.Consecutive.flatMap_window`: The windows of consecutive pages make up the rows.
* `Page.ofParams_eq_ok_iff`: The page that parameters ask for.
* `Page.windows_of_pages`: Whoever turns the pages sees the rows from the first on.
-/

namespace Registrar

open Sql

namespace Sql

/-- The rows that the limit and the offset of a selection leave. -/
def Select.window {α : Type} (select : Select) (rows : List α) : List α :=
  let rest := rows.drop (select.offset.getD 0)
  select.limit.elim rest rest.take

/-- A limit and an offset are the last that is written. -/
theorem Select.text_limit_offset {select : Select} {limit offset : Nat}
    (hlimit : select.limit = some limit) (hoffset : select.offset = some offset) :
    ∃ front, select.text.text =
      front ++ (" LIMIT " ++ (toString (limit : Int) ++ (" OFFSET " ++
        toString (offset : Int)))) := by
  rcases select with ⟨list, source, condition, groupBy, orderBy, limit', offset'⟩
  obtain rfl : limit' = some limit := hlimit
  obtain rfl : offset' = some offset := hoffset
  rw [Select.text, Select.pieces, Text.ofPieces, List.append_assoc, Text.appendAll_append]
  simp only [amount, clause, words, List.cons_append, List.nil_append, Text.appendAll,
    List.foldl_cons, List.foldl_nil, Text.append, Text.appendVerbatim, String.append_assoc]
  exact ⟨_, rfl⟩

end Sql

namespace Page

variable {index size : Int}

/-- A page comes of its own index and size, and of nothing else. -/
theorem new_eq_ok_iff {page : Page} :
    new index size = .ok page ↔ (page.index : Int) = index ∧ (page.size : Int) = size := by
  constructor
  · intro h
    rw [new] at h
    split at h
    · cases h
    · split at h
      · cases h
      · split at h
        · cases h
          constructor
          · exact Int.toNat_of_nonneg (by omega)
          · exact Int.toNat_of_nonneg (by omega)
        · cases h
  · rcases page with ⟨pageIndex, pageSize, hpos, hoffset⟩
    rintro ⟨rfl, rfl⟩
    rw [new, if_neg (Int.natCast_nonneg pageIndex).not_gt, dif_neg (by simp only; omega)]
    exact dif_pos (hasOffset_iff.2 hoffset)

/-- There is a page with an index and a size just if the index counts from 0, the size from 1,
    and what comes before the page fits 64 bits. -/
theorem exists_new_iff :
    (∃ page, new index size = .ok page) ↔
      0 ≤ index ∧ 1 ≤ size ∧ index * size ≤ Text.maxInt64 := by
  constructor
  · rintro ⟨page, h⟩
    rcases new_eq_ok_iff.1 h with ⟨rfl, rfl⟩
    have hpos := page.size_pos
    have hoffset := page.offset_le
    refine ⟨by omega, by omega, ?_⟩
    rw [Text.maxInt64]
    exact_mod_cast hoffset
  · rintro ⟨hindex, hsize, hoffset⟩
    lift index to Nat using hindex
    lift size to Nat using by omega
    rw [Text.maxInt64] at hoffset
    exact ⟨⟨index, size, by omega, by exact_mod_cast hoffset⟩, new_eq_ok_iff.2 ⟨rfl, rfl⟩⟩

/-- With a page there are all that come before it. -/
theorem exists_new_of_le {smaller : Int} (hle : smaller ≤ index) (hnonneg : 0 ≤ smaller)
    (h : ∃ page, new index size = .ok page) : ∃ page, new smaller size = .ok page := by
  rcases exists_new_iff.1 h with ⟨-, hsize, hoffset⟩
  refine exists_new_iff.2 ⟨hnonneg, hsize, le_trans ?_ hoffset⟩
  exact mul_le_mul_of_nonneg_right hle (by omega)

/-- The first pages of a size, as far as there are such pages. -/
def first (size : Int) (count : Nat) : List Page :=
  (List.range count).filterMap fun index : Nat => (new index size).toOption

/-- Pages of one size, one after another from the first on. -/
structure Consecutive (size : Int) (pages : List Page) : Prop where
  indices : pages.map Page.index = List.range pages.length
  sizes : ∀ page ∈ pages, (page.size : Int) = size

theorem Consecutive.append {pages : List Page} {page : Page} (h : Consecutive size pages)
    (hindex : page.index = pages.length) (hsize : (page.size : Int) = size) :
    Consecutive size (pages ++ [page]) where
  indices := by
    rw [List.map_append, h.indices, List.length_append, List.length_singleton, List.range_succ,
      List.map_singleton, hindex]
  sizes := List.forall_mem_append.2 ⟨h.sizes, List.forall_mem_singleton.2 hsize⟩

theorem first_succ (size : Int) (count : Nat) :
    first size (count + 1) = first size count ++ (new count size).toOption.toList := by
  rw [first, List.range_succ, List.filterMap_append]
  rfl

theorem first_succ_of_ok {count : Nat} {page : Page} (h : new count size = .ok page) :
    first size (count + 1) = first size count ++ [page] := by
  rw [first_succ, h]
  rfl

/-- None is missing before a page that there is. -/
theorem length_first {count : Nat} (h : ∃ page, new count size = .ok page) :
    (first size count).length = count := by
  induction count with
  | zero => rfl
  | succ count ih =>
      have hbefore : ∃ page, new count size = .ok page :=
        exists_new_of_le (Int.ofNat_le.2 (Nat.le_succ count)) (Int.natCast_nonneg count) h
      -- So every page before it was added, and none was passed over.
      rcases hbefore with ⟨page, hpage⟩
      rw [first_succ_of_ok hpage, List.length_append, ih ⟨page, hpage⟩, List.length_singleton]

/-- The pages of a size are consecutive. -/
theorem consecutive_first (size : Int) (count : Nat) : Consecutive size (first size count) := by
  induction count with
  | zero => exact ⟨rfl, List.forall_mem_nil _⟩
  | succ count ih =>
      cases hnew : new count size with
      | error _ =>
          -- What is not there adds nothing, and what is there stays as it is.
          rw [first_succ, hnew]
          exact (List.append_nil (first size count)).symm ▸ ih
      | ok page =>
          rcases new_eq_ok_iff.1 hnew with ⟨hindex, hsize⟩
          rw [first_succ_of_ok hnew]
          -- It stands at its own index only because none is missing before it.
          refine ih.append ?_ hsize
          rw [length_first ⟨page, hnew⟩]
          exact Int.ofNat_inj.1 hindex

/-- There is no page after the last. -/
theorem not_exists_new {count : Nat} (h : (first size count).length < count) :
    ¬∃ page, new (first size count).length size = .ok page := by
  rintro ⟨page, hpage⟩
  -- It would be one of the first, and they have smaller indices.
  have hmem : page ∈ first size count := by
    refine List.mem_filterMap.2 ⟨_, List.mem_range.2 h, ?_⟩
    rw [hpage]
    rfl
  have hindex : page.index ∈ List.range (first size count).length := by
    rw [← (consecutive_first size count).indices]
    exact List.mem_map_of_mem hmem
  have heq : page.index = (first size count).length := Int.ofNat_inj.1 (new_eq_ok_iff.1 hpage).1
  exact absurd (List.mem_range.1 hindex) (Nat.not_lt.2 heq.ge)

/-- Neighbours neither overlap nor leave a gap. -/
theorem Consecutive.isChain {pages : List Page} (h : Consecutive size pages) :
    pages.IsChain fun page next => next.offset = page.offset + page.size := by
  have hindices : (pages.map Page.index).IsChain fun index next => next = index + 1 := by
    rw [h.indices, List.isChain_range]
    exact fun _ _ => rfl
  refine ((List.isChain_map Page.index).1 hindices).imp_of_mem_imp fun page next hpage hnext => ?_
  intro hindex
  have hsize : next.size = page.size :=
    Int.ofNat_inj.1 ((h.sizes next hnext).trans (h.sizes page hpage).symm)
  rw [offset_eq, offset_eq, hindex, hsize, Nat.succ_mul]

/-- The rows of a page are those that come right after the ones before it. -/
theorem window_pageOfRows {α : Type} (listed : Listed) (query : ListingQuery) (page : Page)
    (condition : Expr) (rows : List α) :
    (ListingPlan.pageOfRows listed query page condition).window rows =
      (rows.drop (page.index * page.size)).take page.size := by
  rw [← offset_eq]
  rfl

/-- Pieces of one length, one after another, make up what they were cut from. -/
theorem flatMap_range_take_drop {α : Type} (rows : List α) (size count : Nat) :
    ((List.range count).flatMap fun index => (rows.drop (index * size)).take size) =
      rows.take (count * size) := by
  induction count with
  | zero => rw [Nat.zero_mul, List.take_zero, List.range_zero, List.flatMap_nil]
  | succ count ih =>
      rw [List.range_succ, List.flatMap_append, ih, List.flatMap_singleton, Nat.succ_mul,
        List.take_add]

/-- The windows of consecutive pages make up the rows, as far as the pages go. -/
theorem Consecutive.flatMap_window {α : Type} {pages : List Page} (h : Consecutive size pages)
    (listed : Listed) (query : ListingQuery) (condition : Expr) (rows : List α) :
    (pages.flatMap fun page =>
        (ListingPlan.pageOfRows listed query page condition).window rows) =
      rows.take (pages.length * size.toNat) := by
  -- A window is told by the index, the size being the same for all.
  rw [← flatMap_range_take_drop, ← h.indices, List.flatMap_map]
  refine List.flatMap_congr fun page hpage => ?_
  rw [window_pageOfRows, ← h.sizes page hpage, Int.toNat_natCast]

/-- The pages that are missing have no rows, unless there are more than 64 bits can count. -/
theorem take_length_first {α : Type} {rows : List α} (count : Nat)
    (hrows : rows.length ≤ Text.maxInt64) :
    rows.take ((first size count).length * size.toNat) = rows.take (count * size.toNat) := by
  have hle : (first size count).length ≤ count :=
    (List.length_filterMap_le _ _).trans_eq List.length_range
  rcases hle.lt_or_eq with hlt | heq
  · have hmissing := mt exists_new_iff.2 (not_exists_new hlt)
    rcases lt_or_ge size 1 with hsize | hsize
    · rw [Int.toNat_of_nonpos (by omega), Nat.mul_zero, Nat.mul_zero]
    · -- The first page that is missing begins after the last row.
      lift size to Nat using by omega
      have hafter : rows.length ≤ (first size count).length * size := by
        by_contra hbefore
        refine hmissing ⟨Int.natCast_nonneg _, hsize, le_trans ?_ hrows⟩
        exact_mod_cast Nat.le_of_not_le hbefore
      rw [Int.toNat_natCast, List.take_of_length_le hafter,
        List.take_of_length_le (hafter.trans (Nat.mul_le_mul_right size hle))]
  · rw [heq]

/-- The last parameter with a key has a value. -/
def Last (params : Params) (key value : String) : Prop :=
  ∃ before after, params = before ++ (key, value) :: after ∧ ∀ param ∈ after, param.1 ≠ key

/-- The integer that parameters hold for a key: the one that the value of the last denotes, or a
    default if there is none. -/
inductive Asked (params : Params) (key : String) (default : Int) : Int → Prop
  | absent (h : ∀ param ∈ params, param.1 ≠ key) : Asked params key default default
  | last {value : String} {n : Int} (hlast : Last params key value)
      (h : Text.Denotes value.toList n) : Asked params key default n

theorem lastValue?_eq_none_iff {params : Params} {key : String} :
    lastValue? params key = none ↔ ∀ param ∈ params, param.1 ≠ key := by
  rw [lastValue?, Option.map_eq_none_iff, List.find?_eq_none]
  simp only [List.mem_reverse, decide_eq_true_eq, ne_eq]

theorem lastValue?_eq_some_iff {params : Params} {key value : String} :
    lastValue? params key = some value ↔ Last params key value := by
  rw [lastValue?, Option.map_eq_some_iff]
  constructor
  · rintro ⟨⟨found, value⟩, hfind, rfl⟩
    -- The search begins at the end, so what was passed over comes after.
    rcases List.find?_eq_some_iff_append.1 hfind with ⟨hkey, after, before, hparams, hafter⟩
    obtain rfl : found = key := of_decide_eq_true hkey
    refine ⟨before.reverse, after.reverse, ?_, fun param hparam hsame => ?_⟩
    · rw [← List.reverse_inj, hparams, List.reverse_append, List.reverse_cons,
        List.reverse_reverse, List.reverse_reverse, List.append_assoc]
      rfl
    · have hother := hafter param (List.mem_reverse.1 hparam)
      rw [decide_eq_true hsame] at hother
      exact absurd hother (by decide)
  · rintro ⟨before, after, rfl, hafter⟩
    refine ⟨(key, value), List.find?_eq_some_iff_append.2 ⟨decide_eq_true rfl, after.reverse,
      before.reverse, ?_, fun param hparam => ?_⟩, rfl⟩
    · rw [List.reverse_append, List.reverse_cons, List.append_assoc]
      rfl
    · rw [decide_eq_false (hafter param (List.mem_reverse.1 hparam))]
      rfl

/-- An integer is taken from a parameter just if it is asked for. -/
theorem integerParam_eq_ok_iff {params : Params} {key : String} {default n : Int} :
    integerParam params key default = .ok n ↔ Asked params key default n := by
  rw [integerParam]
  constructor
  · intro h
    split at h
    · rename_i hvalue
      cases h
      exact .absent (lastValue?_eq_none_iff.1 hvalue)
    · rename_i value hvalue
      split at h
      · rename_i hn
        cases h
        exact .last (lastValue?_eq_some_iff.1 hvalue) (Text.int64?_trim_eq_some_iff.1 hn)
      · cases h
  · intro h
    cases h with
    | absent h => rw [lastValue?_eq_none_iff.2 h]
    | last hlast h =>
        rw [lastValue?_eq_some_iff.2 hlast]
        simp only [Text.int64?_trim_eq_some_iff.2 h]

/-- The page that parameters ask for. -/
theorem ofParams_eq_ok_iff {params : Params} {page : Page} :
    ofParams params = .ok page ↔ ∃ index size, Asked params indexKey 0 index ∧
      Asked params sizeKey defaultSize size ∧ new index size = .ok page := by
  rw [ofParams, bind_eq_ok_iff]
  refine exists_congr fun index => ?_
  rw [bind_eq_ok_iff, integerParam_eq_ok_iff]
  constructor
  · rintro ⟨hindex, size, hsize, h⟩
    exact ⟨size, hindex, integerParam_eq_ok_iff.1 hsize, h⟩
  · rintro ⟨size, hindex, hsize, h⟩
    exact ⟨hindex, size, integerParam_eq_ok_iff.2 hsize, h⟩

/-- Nothing but the last parameter with each key is looked at, also where there is no page. -/
theorem ofParams_congr {params other : Params}
    (h : ∀ key ∈ [indexKey, sizeKey], ∀ value, Last params key value ↔ Last other key value) :
    ofParams params = ofParams other := by
  have hinteger : ∀ key ∈ [indexKey, sizeKey], ∀ default,
      integerParam params key default = integerParam other key default := by
    intro key hkey default
    have hvalue : lastValue? params key = lastValue? other key := by
      ext value
      rw [lastValue?_eq_some_iff, lastValue?_eq_some_iff, h key hkey value]
    rw [integerParam, integerParam, hvalue]
  rw [ofParams, ofParams, hinteger indexKey List.mem_cons_self,
    hinteger sizeKey (List.mem_cons_of_mem _ List.mem_cons_self)]

/-- A selection is limited to the page with an index and a size: in its clauses, and as it is
    written. -/
structure Limits (select : Select) (index size : Int) : Prop where
  limit : select.limit.map Int.ofNat = some size
  offset : select.offset.map Int.ofNat = some (index * size)
  written : ∃ front, select.text.text =
    front ++ (" LIMIT " ++ (toString size ++ (" OFFSET " ++ toString (index * size))))

/-- A page limits its selection to what was asked for. -/
theorem limits_pageOfRows {page : Page} (h : new index size = .ok page) (listed : Listed)
    (query : ListingQuery) (condition : Expr) :
    Limits (ListingPlan.pageOfRows listed query page condition) index size := by
  rcases new_eq_ok_iff.1 h with ⟨rfl, rfl⟩
  have hoffset : (ListingPlan.pageOfRows listed query page condition).offset =
      some (page.index * page.size) := congrArg some page.offset_eq
  refine ⟨rfl, ?_, ?_⟩
  · rw [hoffset]
    rfl
  · rcases Select.text_limit_offset rfl hoffset with ⟨front, htext⟩
    exact ⟨front, htext⟩

/-- The rows that pages of a listing show, one page after another. -/
def shown {α : Type} (listed : Listed) (query : ListingQuery) (condition : Expr)
    (pages : List Page) (rows : List α) : List α :=
  pages.flatMap fun page => (ListingPlan.pageOfRows listed query page condition).window rows

/-- There is a page just if the rows before it can be counted with 64 bits, and its statement is
    limited to what was asked for. So whoever turns the pages, whatever their size, sees the
    rows from the first on, and each of them once. An index and a size are taken from the last
    parameter with their key, which is an integer, or else it is an error. -/
theorem windows_of_pages {α : Type} (listed : Listed) (query : ListingQuery)
    (condition : Expr) :
    (∀ index size, (∃ page, new index size = .ok page) ↔
      0 ≤ index ∧ 1 ≤ size ∧ index * size ≤ Text.maxInt64) ∧
    (∀ index size page, new index size = .ok page →
      Limits (ListingPlan.pageOfRows listed query page condition) index size) ∧
    (∀ (size : Int) (last : Nat) (rows : List α),
      (first size (last + 1)).map Page.index = List.range (first size (last + 1)).length ∧
      (first size (last + 1)).IsChain (fun page next => next.offset = page.offset + page.size) ∧
      shown listed query condition (first size (last + 1)) rows =
        rows.take ((first size (last + 1)).length * size.toNat) ∧
      ((∃ page, new last size = .ok page) ∨ rows.length ≤ Text.maxInt64 →
        shown listed query condition (first size (last + 1)) rows =
          rows.take ((last + 1) * size.toNat))) ∧
    (∀ params page, ofParams params = .ok page ↔ ∃ index size,
      Asked params "page" 0 index ∧ Asked params "page_size" 100 size ∧
        new index size = .ok page) ∧
    (∀ params other, (∀ key ∈ ["page", "page_size"], ∀ value,
        Last params key value ↔ Last other key value) →
      ofParams params = ofParams other) := by
  refine ⟨fun _ _ => exists_new_iff, fun _ _ _ h => limits_pageOfRows h listed query condition,
    fun size last rows => ?_, fun _ _ => ofParams_eq_ok_iff, fun _ _ => ofParams_congr⟩
  have hpages := consecutive_first size (last + 1)
  have hshown := hpages.flatMap_window listed query condition rows
  refine ⟨hpages.indices, hpages.isChain, hshown, ?_⟩
  rintro (⟨page, hlast⟩ | hrows)
  · rw [shown, hshown, first_succ_of_ok hlast, List.length_append, length_first ⟨page, hlast⟩,
      List.length_singleton]
  · rw [shown, hshown, take_length_first (last + 1) hrows]

/-- Seven notes are on three pages of three. -/
theorem windows_of_pages_notes : ∃ listed page,
    Catalog.builtin.find Collection.notes = .ok listed ∧ new 2 3 = .ok page ∧
      Limits (ListingPlan.pageOfRows listed .empty page .true) 2 3 ∧
      shown listed .empty .true (first 3 3) [1, 2, 3, 4, 5, 6, 7] = [1, 2, 3, 4, 5, 6, 7] ∧
      ofParams [("page", "last"), ("page_size", "+3"), ("page", " 2\t")] = .ok page := by
  have hpage : new 2 3 = .ok ⟨2, 3, by decide, by decide⟩ := rfl
  rcases windows_of_pages ⟨Collection.notes, Catalog.notes.2⟩ .empty .true with
    ⟨-, hlimits, hwindows, hparams, -⟩
  refine ⟨_, _, rfl, hpage, hlimits 2 3 _ hpage, ?_, ?_⟩
  · exact (hwindows 3 2 [1, 2, 3, 4, 5, 6, 7]).2.2.2 (Or.inl ⟨_, hpage⟩)
  · have hindex : Asked [("page", "last"), ("page_size", "+3"), ("page", " 2\t")] "page" 0 2 :=
      .last ⟨[("page", "last"), ("page_size", "+3")], [], rfl, by decide⟩
        (Text.int64?_trim_eq_some_iff.1 rfl)
    have hsize : Asked [("page", "last"), ("page_size", "+3"), ("page", " 2\t")] "page_size" 100
        3 :=
      .last ⟨[("page", "last")], [("page", " 2\t")], rfl, by decide⟩
        (Text.int64?_trim_eq_some_iff.1 rfl)
    exact (hparams _ _).2 ⟨2, 3, hindex, hsize, hpage⟩

end Page

end Registrar
