import Mathlib.Data.List.TakeWhile
import Registrar.Proofs.Listing.Count
import Registrar.Proofs.Text.Percent
import Registrar.Service.Message

/-!
# Operands of Filters

What a client writes for an operand, and what the statement compares with. Between the two
stand the encoding of the query, which is undone once, and the parser, which takes an operand
as it is but for one thing: a space that is written as `%20` there, after the query has been
decoded, is a space. So a client that encodes its operand once has it compared with
unchanged just if the operand itself does not contain `%20` (`spaced_self_iff`).

A pattern loses a wildcard in this way, if `20` comes after it. Whether it is put between two
wildcards is decided after that, by what is left.

## Main definitions

* `Filter.Compiles`: A value under a key is read as a filter, and its condition is a part of
  the statements.

## Theorems

* `Operator.spaced_self_iff`: Which operands stand for themselves.
* `Request.params_of_encoded`: Names and values that are written into a query are its
  parameters.
* `Filter.compiles_of_described`: What a value describes is compiled.
* `Filter.operand_compiles`: What an operand is compiled to.
-/

namespace Registrar

open Sql

namespace Operator

/-- A text has more characters than what it stands for, if a space is written as `%20`. -/
theorem Spaced.length_le {text meaning : List Char} (h : Spaced text meaning) :
    meaning.length ≤ text.length ∧
      (['%', '2', '0'] <:+: text → meaning.length < text.length) := by
  induction h with
  | nil => exact ⟨Nat.le_refl 0, fun hinside => absurd (List.infix_nil.1 hinside) (by decide)⟩
  | space h ih =>
      simp only [List.length_cons]
      exact ⟨by omega, fun _ => by omega⟩
  | char hne h ih =>
      simp only [List.length_cons]
      refine ⟨by omega, fun hinside => ?_⟩
      rcases List.infix_cons_iff.1 hinside with ⟨rest, hrest⟩ | hinside
      · exact absurd hrest.symm (hne rest)
      · have hlt := ih.2 hinside
        omega

/-- The texts that stand for themselves are those without `%20`. -/
theorem spaced_self_iff {text : List Char} :
    Spaced text text ↔ ¬['%', '2', '0'] <:+: text := by
  constructor
  · intro h hinside
    exact absurd (h.length_le.2 hinside) (Nat.lt_irrefl _)
  · exact spaced_self

/-- Every operand stands for a text. -/
theorem exists_spaced (operand : String) :
    ∃ meaning : String, Spaced operand.toList meaning.toList ∧
      (meaning = operand ↔ ¬['%', '2', '0'] <:+: operand.toList) := by
  have hspaced := spaced_replaceAll operand.toList
  refine ⟨String.ofList (Text.replaceAll ['%', '2', '0'] [' '] operand.toList), ?_, ?_⟩
  · rw [String.toList_ofList]
    exact hspaced
  · rw [← spaced_self_iff, ← String.toList_inj, String.toList_ofList]
    constructor
    · intro hsame
      rw [hsame] at hspaced
      exact hspaced
    · exact hspaced.unique

end Operator

theorem Request.query_ofUri {path query : List Char} (hquery : '?' ∉ path) (hpath : '#' ∉ path)
    (hfragment : '#' ∉ query) (method : String) (contentType : Option String) (body : String) :
    (ofUri method (String.ofList (path ++ '?' :: query)) contentType body).query = query := by
  have hsent : (path ++ '?' :: query).takeWhile (· ≠ '#') = path ++ '?' :: query := by
    refine List.takeWhile_eq_self_iff.2 fun c hc => decide_eq_true fun hmark => ?_
    subst hmark
    rcases List.mem_append.1 hc with hc | hc
    · exact hpath hc
    · exact hfragment ((List.mem_cons.1 hc).resolve_left (by decide))
  have hcut : Text.cutAt? '?' (path ++ '?' :: query) = some (path, query) :=
    Text.cutAt?_eq_some_iff.2 ⟨rfl, hquery⟩
  rw [ofUri, String.toList_ofList, hsent, hcut]

/-- Names and values that are written into the query of a request are its parameters. -/
theorem Request.params_of_encoded {params : Params} {written : List (List Char)}
    (h : List.Forall₂ Percent.EncodedPair params written) {path : List Char}
    (hquery : '?' ∉ path) (hpath : '#' ∉ path) (method : String) (contentType : Option String)
    (body : String) :
    (ofUri method (String.ofList (path ++ '?' :: ['&'].intercalate written)) contentType
      body).params = params := by
  have hpart : ∀ part ∈ written, '#' ∉ part := by
    clear contentType body
    induction h with
    | nil => exact List.forall_mem_nil _
    | cons hpair h ih => exact List.forall_mem_cons.2 ⟨hpair.not_mem.2, ih⟩
  have hfragment : '#' ∉ ['&'].intercalate written := by
    by_cases hnil : written = []
    · rw [hnil]
      exact List.not_mem_nil
    · rw [Text.mem_intercalate hnil (by decide)]
      rintro ⟨part, hmem, hmark⟩
      exact hpart part hmem hmark
  rw [Request.params, query_ofUri hquery hpath hfragment, Percent.formPairs_of_encoded h]

namespace Filter

/-- A value under the key of a column is read as a filter, wherever it stands, and what the
    filter asks is a condition of both statements. -/
structure Compiles (listed : Listed) (key value : String) (filter : Filter)
    (asked : Expr) : Prop where
  /-- The value of a parameter and that in a clause of a group are read alike. -/
  read : parse filter.column value.toList = .ok filter
  asks : filter.condition listed = asked
  /-- A parameter adds the filter to those of the others. -/
  parameter : key ∉ ListingQuery.reservedKeys → ∀ before after first last,
    ListingQuery.parse listed.table listed.collection before = .ok first →
    ListingQuery.parse listed.table listed.collection after = .ok last →
    ∃ query, ListingQuery.parse listed.table listed.collection (before ++ (key, value) :: after) =
      .ok query ∧ query.filters = first.filters ++ filter :: last.filters
  /-- The page and the count are of the rows that meet the condition among others. -/
  planned : key ∉ ListingQuery.reservedKeys → ∀ catalog restriction params plan,
    catalog.find listed.collection = .ok listed → (key, value) ∈ params →
    ListingPlan.ofParams catalog listed.collection restriction params = .ok plan →
    ∃ (page : Select) (conditions : List Expr), plan.rows = page.asRows ∧ asked ∈ conditions ∧
      page.condition = .conjunction conditions ∧ plan.count.condition = .conjunction conditions

variable {listed : Listed} {key value : String} {filter : Filter}

/-- What a value describes is compiled. -/
theorem compiles_of_described (hcolumn : listed.table.column? key = some filter.column)
    (h : Described filter.column value.toList filter) :
    Compiles listed key value filter (filter.condition listed) where
  read := parse_eq_ok_iff.2 h
  asks := rfl
  parameter := by
    intro hkey before after first last hfirst hlast
    have hparam : ListingQuery.parse listed.table listed.collection [(key, value)] =
        .ok { ListingQuery.empty with filters := [filter] } :=
      (ListingQuery.parse_single_eq_ok_iff hkey hcolumn).2 ⟨.filter filter, .filter h, rfl⟩
    rw [List.append_cons, ListingQuery.parse_append, ListingQuery.parse_append, hfirst, hparam,
      hlast]
    refine ⟨_, rfl, ?_⟩
    simp only [ListingQuery.followedBy, List.append_assoc, List.singleton_append]
  planned := by
    intro hkey catalog restriction params plan hlisted hmem hplan
    rcases ListingPlan.ofParams_cases hplan with
      ⟨page, found, query, narrowing, hfound, hquery, -, hrows, hcount⟩
    cases hlisted.symm.trans hfound
    -- The filter is one of the query's, and both statements have the conditions of the query.
    have hyields : ListingQuery.filter? listed.table (key, value) = some filter := by
      simp only [ListingQuery.filter?, if_neg hkey, hcolumn,
        Directive.parse_eq_ok_iff.2 (.filter h)]
    have hfilter : filter ∈ query.filters := by
      rw [(ListingQuery.parse_yields hquery).1]
      exact List.mem_filterMap.2 ⟨_, hmem, hyields⟩
    refine ⟨_, narrowing.toList ++ query.conditions listed, hrows, ?_, rfl, ?_⟩
    · exact List.mem_append_right _ (List.mem_append_left _ (List.mem_map_of_mem hfilter))
    · rw [hcount]
      rfl

variable {operand meaning : String}

theorem described_eq (h : Operator.Spaced operand.toList meaning.toList) :
    Operator.Described ("eq." ++ operand).toList (.eq meaning) := by
  have hdescribed := Operator.Described.eq h
  rw [String.ofList_toList] at hdescribed
  rw [String.toList_append]
  exact hdescribed

theorem described_like (h : Operator.Spaced operand.toList meaning.toList) :
    Operator.Described ("like." ++ operand).toList (.like meaning) := by
  have hdescribed := Operator.Described.like h
  rw [String.ofList_toList] at hdescribed
  rw [String.toList_append]
  exact hdescribed

/-- A negated operator is written with `not.` before it. -/
theorem described_not {column : Column} {operator : Operator} {text : String}
    (h : operator.Described text.toList) :
    Described column ("not." ++ text).toList ⟨column, true, operator⟩ := by
  rw [String.toList_append]
  exact .negated h

/-- What a client writes into a query, encoded in whichever way, comes to the parser as it is.
    There an operand stands for a text, which is the operand with a space for each `%20`, and
    so the operand itself just if it contains none. The statements compare with that text. As a
    pattern it is taken as it is if it contains `%`, and is put between two of it otherwise. -/
theorem operand_compiles {column : Column} (hcolumn : listed.table.column? key = some column)
    (operand : String) :
    (∀ params written, List.Forall₂ Percent.EncodedPair params written →
      ∀ path, '?' ∉ path → '#' ∉ path → ∀ method contentType body,
        (Request.ofUri method (String.ofList (path ++ '?' :: ['&'].intercalate written))
          contentType body).params = params) ∧
    ∃ meaning : String, Operator.Spaced operand.toList meaning.toList ∧
      (meaning = operand ↔ ¬['%', '2', '0'] <:+: operand.toList) ∧
      Compiles listed key ("eq." ++ operand) ⟨column, false, .eq meaning⟩
        (.binary .equals (listed.column column.name) (.string meaning)) ∧
      Compiles listed key ("not." ++ ("eq." ++ operand)) ⟨column, true, .eq meaning⟩
        (.binary .notEquals (listed.column column.name) (.string meaning)) ∧
      Compiles listed key ("like." ++ operand) ⟨column, false, .like meaning⟩
        (.binary .like (likeTarget listed column)
          (.string (if '%' ∈ meaning.toList then meaning else "%" ++ meaning ++ "%"))) ∧
      Compiles listed key ("not." ++ ("like." ++ operand)) ⟨column, true, .like meaning⟩
        (.binary .notLike (likeTarget listed column)
          (.string (if '%' ∈ meaning.toList then meaning else "%" ++ meaning ++ "%"))) := by
  refine ⟨fun params written h path hquery hpath method contentType body =>
    Request.params_of_encoded h hquery hpath method contentType body, ?_⟩
  rcases Operator.exists_spaced operand with ⟨meaning, hmeaning, hsame⟩
  refine ⟨meaning, hmeaning, hsame, ?_, ?_, ?_, ?_⟩
  · exact compiles_of_described hcolumn (.plain (described_eq hmeaning))
  · exact compiles_of_described hcolumn (described_not (described_eq hmeaning))
  · exact compiles_of_described hcolumn (.plain (described_like hmeaning))
  · exact compiles_of_described hcolumn (described_not (described_like hmeaning))

/-- Of the notes that are searched for a pattern with two marks of per cent, the first mark is
    kept, and so is a wildcard, but not the mark before `20`. -/
theorem operand_compiles_note : ∃ column, Catalog.notes.2.column? "note" = some column ∧
    (Request.ofUri "GET" "/notes?note=like.100%25%20or%20%2520%25" none "").params =
      [("note", "like.100% or %20%")] ∧
    Compiles ⟨Collection.notes, Catalog.notes.2⟩ "note" "like.100% or %20%"
      ⟨column, false, .like "100% or  %"⟩
      (.binary .like (.column (.known "notes") "note") (.string "100% or  %")) := by
  have hcolumn : (⟨Collection.notes, Catalog.notes.2⟩ : Listed).table.column? "note" =
      some ⟨"note", .string⟩ := rfl
  rcases operand_compiles hcolumn "100% or %20%" with
    ⟨hparams, meaning, hmeaning, -, -, -, hlike, -⟩
  have hsame : meaning = "100% or  %" := by
    rw [← String.toList_inj, hmeaning.unique (Operator.spaced_replaceAll _)]
    decide
  subst hsame
  have hpair : Percent.EncodedPair ("note", "like.100% or %20%")
      (Percent.encode "note".toList ++ '=' :: Percent.encode "like.100% or %20%".toList) :=
    ⟨_, _, Percent.encoded_encode _, Percent.encoded_encode _, rfl⟩
  have hrequest := hparams _ _ (.cons hpair .nil) "/notes".toList (by decide) (by decide) "GET"
    none ""
  have huri : String.ofList ("/notes".toList ++ '?' :: ['&'].intercalate
      [Percent.encode "note".toList ++ '=' :: Percent.encode "like.100% or %20%".toList]) =
        "/notes?note=like.100%25%20or%20%2520%25" := by
    decide +kernel
  rw [huri] at hrequest
  exact ⟨_, hcolumn, hrequest, hlike⟩

/-- A pattern that begins with a wildcard and goes on with `2025` is another pattern in the
    statements, although it was encoded and decoded once. -/
theorem not_compiled_unchanged : ∃ column filter,
    Catalog.notes.2.column? "note" = some column ∧
    (Request.ofUri "GET" "/notes?note=like.%252025" none "").params =
      [("note", "like.%2025")] ∧
    ListingQuery.parse Catalog.notes.2 Collection.notes [("note", "like.%2025")] =
      .ok { ListingQuery.empty with filters := [filter] } ∧
    '%' ∈ "%2025".toList ∧
    filter.condition ⟨Collection.notes, Catalog.notes.2⟩ =
      .binary .like (.column (.known "notes") "note") (.string "% 25%") := by
  refine ⟨⟨"note", .string⟩, ⟨⟨"note", .string⟩, false, .like " 25"⟩, rfl, ?_, ?_, ?_, rfl⟩
  · decide +kernel
  · decide +kernel
  · decide

end Filter

end Registrar
