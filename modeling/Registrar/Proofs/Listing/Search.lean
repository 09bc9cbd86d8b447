import Registrar.Listing.Condition
import Registrar.Proofs.Sql.Matching

/-!
# Searching for a Pattern

A pattern without the wildcard `%` is put between two of it, so that it is searched for. What
is searched for is still a pattern, though, and two characters go on to mean something in it:
`_` finds any character, and a backslash is not looked for but takes the next character as it
is. A backslash at the end finds nothing in the pattern to take, and takes the wildcard that
was put after it. Then the search is for a text that ends with `%`.

So the texts that are found are those that contain the pattern just if neither character
occurs in it (`likePattern_search`).

## Theorems

* `toList_likePattern`: A pattern without `%` is put between two.
* `like_likePattern`: It is searched for anywhere in the text.
* `like_likePattern_escaped`: Unless a backslash takes the wildcard at the end.
* `likePattern_search`: When this finds the texts that contain the pattern.
-/

namespace Registrar

open Sql

variable {pattern : String}

theorem toList_likePattern (h : '%' ∉ pattern.toList) :
    (likePattern pattern).toList = '%' :: (pattern.toList ++ ['%']) := by
  rw [likePattern, if_neg h, String.toList_append, String.toList_append]
  rfl

/-- A pattern that can be read is searched for anywhere in the text. -/
theorem like_likePattern (h : '%' ∉ pattern.toList) {parts : List PatternPart}
    (hparts : Pattern.parts? pattern.toList = some parts) (text : String) :
    Like text (likePattern pattern) ↔
      ∃ found, found <:+: text.toList ∧ Pattern.Matches parts found := by
  have hread : Pattern.parts? (likePattern pattern).toList =
      some (.anything :: (parts ++ [.anything])) := by
    rw [toList_likePattern h, Pattern.parts?_cons (by decide), Pattern.parts?_append hparts]
    rfl
  rw [like_iff hread, Pattern.matches_between]

/-- A backslash at the end takes the wildcard after it, and the text has to end with that. -/
theorem like_likePattern_escaped (h : '%' ∉ pattern.toList) {front : List Char}
    {parts : List PatternPart} (hpattern : pattern.toList = front ++ ['\\'])
    (hparts : Pattern.parts? front = some parts) (text : String) :
    Like text (likePattern pattern) ↔
      ∃ found, found ++ ['%'] <:+ text.toList ∧ Pattern.Matches parts found := by
  have hread : Pattern.parts? (likePattern pattern).toList =
      some (.anything :: (parts ++ [.char '%'])) := by
    rw [toList_likePattern h, hpattern, List.append_assoc, Pattern.parts?_cons (by decide),
      Pattern.parts?_append hparts]
    rfl
  rw [like_iff hread, Pattern.matches_anything_cons]
  constructor
  · rintro ⟨rest, hrest, hmatches⟩
    rcases Pattern.matches_append.1 hmatches with ⟨found, last, rfl, hfound, hlast⟩
    cases Pattern.matches_single.1 hlast
    exact ⟨found, hrest, hfound⟩
  · rintro ⟨found, hrest, hfound⟩
    exact ⟨_, hrest, Pattern.matches_append.2
      ⟨found, ['%'], rfl, hfound, Pattern.matches_single.2 rfl⟩⟩

/-- Without anything special a pattern is found just in the texts that contain it. -/
theorem like_likePattern_plain (h : '%' ∉ pattern.toList) (hsingle : '_' ∉ pattern.toList)
    (hescape : '\\' ∉ pattern.toList) (text : String) :
    Like text (likePattern pattern) ↔ pattern.toList <:+: text.toList := by
  rw [like_likePattern h (Pattern.parts?_of_plain h hsingle hescape)]
  constructor
  · rintro ⟨found, hfound, hmatches⟩
    rw [← Pattern.matches_chars.1 hmatches]
    exact hfound
  · intro hfound
    exact ⟨_, hfound, Pattern.matches_chars.2 rfl⟩

/-- A pattern with a backslash does not find itself, or it finds a text that is too short to
    contain it. -/
theorem exists_of_escape (h : '%' ∉ pattern.toList) (hescape : '\\' ∈ pattern.toList) :
    ∃ text, ¬(Like text (likePattern pattern) ↔ pattern.toList <:+: text.toList) := by
  cases hparts : Pattern.parts? pattern.toList with
  | none =>
      -- The pattern does not end with `%`, as a text that is found would have to.
      rcases Pattern.parts?_eq_none_iff.1 hparts with ⟨front, parts, hpattern, hfront⟩
      refine ⟨pattern, fun hsearch => ?_⟩
      rcases (like_likePattern_escaped h hpattern hfront pattern).1
        (hsearch.2 (List.infix_refl _)) with ⟨found, hfound, -⟩
      exact h (hfound.subset (List.mem_append_right found List.mem_cons_self))
  | some parts =>
      rcases Pattern.exists_matches ' ' parts with ⟨found, hfound, -⟩
      refine ⟨String.ofList found, fun hsearch => ?_⟩
      rw [like_likePattern h hparts, String.toList_ofList] at hsearch
      have hinside := hsearch.1 ⟨found, List.infix_refl found, hfound⟩
      have hlength := hinside.length_le
      have hfewer := (Pattern.length_parts_le hparts).2 hescape
      have hsame := hfound.length_eq (Pattern.anything_not_mem_parts hparts h)
      omega

/-- A pattern with `_` finds a text that does not have this character. -/
theorem exists_of_single (h : '%' ∉ pattern.toList) (hescape : '\\' ∉ pattern.toList)
    (hsingle : '_' ∈ pattern.toList) :
    ∃ text, ¬(Like text (likePattern pattern) ↔ pattern.toList <:+: text.toList) := by
  have hparts := Pattern.parts?_of_unescaped hescape
  rcases Pattern.exists_matches ' ' (pattern.toList.map .ofChar) with ⟨found, hfound, hchars⟩
  refine ⟨String.ofList found, fun hsearch => ?_⟩
  rw [like_likePattern h hparts, String.toList_ofList] at hsearch
  have hinside := hsearch.1 ⟨found, List.infix_refl found, hfound⟩
  rcases hchars '_' (hinside.subset hsingle) with hfiller | hpart
  · exact absurd hfiller (by decide)
  · rcases List.mem_map.1 hpart with ⟨c, -, hc⟩
    exact PatternPart.ne_of_ofChar_eq hc rfl

/-- A pattern without `%` is searched for: it is found in a text just if some part of the text
    matches it, where `_` finds any character and a backslash takes the next character as it
    is. A backslash at the end takes the wildcard that was put there, and the text has to end
    with that. So the texts that are found are those that contain the pattern just if it has
    neither of the two characters. -/
theorem likePattern_search (h : '%' ∉ pattern.toList) :
    (∀ parts, Pattern.parts? pattern.toList = some parts → ∀ text,
      Like text (likePattern pattern) ↔
        ∃ found, found <:+: text.toList ∧ Pattern.Matches parts found) ∧
    (∀ front parts, pattern.toList = front ++ ['\\'] → Pattern.parts? front = some parts →
      ∀ text, Like text (likePattern pattern) ↔
        ∃ found, found ++ ['%'] <:+ text.toList ∧ Pattern.Matches parts found) ∧
    ((∀ text, Like text (likePattern pattern) ↔ pattern.toList <:+: text.toList) ↔
      '_' ∉ pattern.toList ∧ '\\' ∉ pattern.toList) := by
  refine ⟨fun parts hparts => like_likePattern h hparts,
    fun front parts hpattern hparts => like_likePattern_escaped h hpattern hparts, ?_⟩
  constructor
  · intro hsearch
    by_cases hescape : '\\' ∈ pattern.toList
    · rcases exists_of_escape h hescape with ⟨text, hnot⟩
      exact absurd (hsearch text) hnot
    · refine ⟨fun hsingle => ?_, hescape⟩
      rcases exists_of_single h hescape hsingle with ⟨text, hnot⟩
      exact hnot (hsearch text)
  · rintro ⟨hsingle, hescape⟩ text
    exact like_likePattern_plain h hsingle hescape text

/-- A pattern with both characters finds a text that does not contain it, and not itself. -/
theorem likePattern_search_escaped :
    '%' ∉ "a_\\".toList ∧ Like "xab%" (likePattern "a_\\") ∧
      ¬∀ text, Like text (likePattern "a_\\") ↔ "a_\\".toList <:+: text.toList := by
  have h : '%' ∉ "a_\\".toList := by decide
  rcases likePattern_search h with ⟨-, hescaped, hplain⟩
  refine ⟨h, (hescaped ['a', '_'] _ rfl rfl "xab%").2 ⟨['a', 'b'], by decide, by decide⟩, ?_⟩
  intro hsearch
  exact (hplain.1 hsearch).1 (by decide)

/-- A backslash is not found in itself, and `_` is found where there is none. -/
theorem not_substring_search :
    ('%' ∉ "\\".toList ∧ "\\".toList <:+: "\\".toList ∧ ¬Like "\\" (likePattern "\\")) ∧
      '%' ∉ "_".toList ∧ ¬"_".toList <:+: "a".toList ∧ Like "a" (likePattern "_") := by
  decide

end Registrar
