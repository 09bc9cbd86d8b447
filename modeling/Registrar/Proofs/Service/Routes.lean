import Registrar.Service.Target

/-!
# Paths of Targets

Every target stands in one path: a fixed word, and for records and what belongs to them their
ids, with other words in between. Reading a path is the inverse of writing it. So what a path
names can be looked up in the table of paths below, and in that path the ids are where they
should be.

Some targets stand in no path. An id has the name that the path gives it, it has no slash in
it, and at the end of a path it is not empty.

What a method asks of a target is a table as well, with one line for each of the endpoints
that a target offers.

## Main definitions

* `PathId`: A segment of a path is an id.
* `Target.segments`, `Target.path`: The path of a target.
* `Target.Named`: The ids of a target bear the names that its path gives them.
* `Target.Stands`: A target stands in a path.
* `Target.Offers`: What a target offers to a method.

## Theorems

* `PathSegment.id_eq_ok_iff`, `PathSegment.ids_eq_ok_iff`: The ids of segments.
* `Target.ofSegments?_eq_some_iff`: What the segments of a path name.
* `Target.ofPath?_eq_some_iff`: What a path names.
* `Target.offers_of_endpoint?`: What a method asks of a target is what it offers.
-/

namespace Registrar

/-- A segment of a path is an id: decoded, it is an integer of 64 bits. -/
structure PathId (segment : List Char) (id : Int) : Prop where
  unbroken : '/' ∉ segment
  read : (Percent.decode? segment).bind Text.int64? = some id

namespace PathSegment

variable {segment first second : PathSegment} {firstId secondId : Int}

theorem decode_eq_ok_iff {text : List Char} :
    segment.decode = .ok text ↔ Percent.decode? segment.text = some text := by
  unfold decode
  cases Percent.decode? segment.text with
  | none => exact iff_of_false nofun nofun
  | some found =>
      constructor
      · intro h
        cases h
        rfl
      · intro h
        cases h
        rfl

theorem integer_eq_ok_iff {text : List Char} {problem : PathProblem} {n : Int} :
    integer text problem = .ok n ↔ Text.int64? text = some n := by
  unfold integer
  cases Text.int64? text with
  | none => exact iff_of_false nofun nofun
  | some found =>
      constructor
      · intro h
        cases h
        rfl
      · intro h
        cases h
        rfl

/-- The name of a segment does not matter for its id. -/
theorem id_eq_ok_iff {n : Int} :
    segment.id = .ok n ↔ (Percent.decode? segment.text).bind Text.int64? = some n := by
  unfold id
  rw [bind_eq_ok_iff, Option.bind_eq_some_iff]
  simp only [decode_eq_ok_iff, integer_eq_ok_iff]

/-- Two ids are read together just if each of them is read. -/
theorem ids_eq_ok_iff : first.ids second = .ok (firstId, secondId) ↔
    first.id = .ok firstId ∧ second.id = .ok secondId := by
  unfold ids id
  simp only [bind_eq_ok_iff, integer_eq_ok_iff]
  constructor
  · rintro ⟨firstText, hfirst, secondText, hsecond, m, hm, n, hn, hsame⟩
    cases hsame
    exact ⟨⟨firstText, hfirst, hm⟩, secondText, hsecond, hn⟩
  · rintro ⟨⟨firstText, hfirst, hm⟩, secondText, hsecond, hn⟩
    exact ⟨firstText, hfirst, secondText, hsecond, _, hm, _, hn, rfl⟩

end PathSegment

/-- The words before and after the id in the path of a listing. -/
def Relation.words : Relation → String × String
  | groupUsers => ("groups", "users")
  | userGroups => ("users", "groups")
  | projectUsers => ("projects", "users")
  | userProjects => ("users", "projects")
  | userSubmitNodes => ("users", "submit_nodes")
  | projectNotes => ("projects", "notes")

namespace Tie

/-- The words before the two ids in the path of a link. -/
def words : Tie → String × String
  | groupUser => ("groups", "users")
  | projectUser => ("projects", "users")
  | projectNote => ("projects", "notes")

/-- The name of the second id. -/
def idName : Tie → String
  | groupUser | projectUser => "user_id"
  | projectNote => "note_id"

end Tie

namespace Target

/-- The segments of the path of a target. -/
def segments : Target → List (List Char)
  | health => ["health".toList]
  | metrics => ["metrics".toList]
  | resource r => [r.collection.toList]
  | tokens => ["tokens".toList]
  | piProjects => ["pi-projects".toList]
  | record r id => [r.collection.toList, id.text]
  | token id => ["tokens".toList, id.text]
  | related relation id => [relation.words.1.toList, id.text, relation.words.2.toList]
  | tie t first second => [t.words.1.toList, first.text, t.words.2.toList, second.text]

/-- The path of a target. -/
def path (target : Target) : List Char :=
  target.segments.flatMap ('/' :: ·)

/-- The ids of a target bear the names that its path gives them, and at the end of the path
    there is one. -/
def Named : Target → Prop
  | record _ id | token id => id.name = "id" ∧ id.text ≠ []
  | related _ id => id.name = "id"
  | tie t first second => first.name = "id" ∧ second.name = t.idName ∧ second.text ≠ []
  | _ => True

/-- A target stands in a path. -/
structure Stands (target : Target) : Prop where
  named : target.Named
  unbroken : ∀ segment ∈ target.segments, '/' ∉ segment

variable {target : Target}

/-- A target whose path is one word can be found under that word. -/
theorem segments_of_single? {name : String} (h : single? name = some target) :
    target.segments = [name.toList] ∧ target.Named := by
  unfold single? at h
  split at h <;> cases h <;> exact ⟨rfl, trivial⟩

theorem segments_of_recordOf? {name : String} {id : List Char}
    (h : recordOf? name id = some target) :
    target.segments = [name.toList, id] ∧ target.Named := by
  unfold recordOf? at h
  split at h
  · cases h
  · rename_i hempty
    have hid : id ≠ [] := fun hnil => hempty (List.isEmpty_iff.2 hnil)
    -- The word before the id names the collection, and the id is one segment more.
    split at h
    · rename_i r hsingle
      cases h
      exact ⟨congrArg (· ++ [id]) (segments_of_single? hsingle).1, rfl, hid⟩
    · rename_i hsingle
      cases h
      exact ⟨congrArg (· ++ [id]) (segments_of_single? hsingle).1, rfl, hid⟩
    · cases h

theorem relation?_eq_some_iff {name word : String} {relation : Relation} :
    relation? name word = some relation ↔ relation.words = (name, word) := by
  constructor
  · intro h
    unfold relation? at h
    split at h <;> cases h <;> rfl
  · intro h
    cases relation <;> cases h <;> rfl

theorem tie?_eq_some_iff {name word : String} {found : Tie × String} :
    tie? name word = some found ↔ found.1.words = (name, word) ∧ found.2 = found.1.idName := by
  constructor
  · intro h
    unfold tie? at h
    split at h <;> cases h <;> exact ⟨rfl, rfl⟩
  · rintro ⟨hwords, hname⟩
    rcases found with ⟨t, second⟩
    dsimp only at hwords hname
    subst hname
    cases t <;> cases hwords <;> rfl

/-- A target has the segments that name it. -/
theorem segments_of_ofSegments? {parts : List (List Char)} (h : ofSegments? parts = some target) :
    parts = target.segments ∧ target.Named := by
  -- There are as many cases as numbers of segments that a path can have.
  unfold ofSegments? at h
  split at h
  · rename_i name
    rcases segments_of_single? h with ⟨hsegments, hnamed⟩
    exact ⟨by rw [hsegments, String.toList_ofList], hnamed⟩
  · rename_i name id
    rcases segments_of_recordOf? h with ⟨hsegments, hnamed⟩
    exact ⟨by rw [hsegments, String.toList_ofList], hnamed⟩
  · rename_i name id word
    rcases Option.map_eq_some_iff.1 h with ⟨relation, hrelation, rfl⟩
    have hwords := relation?_eq_some_iff.1 hrelation
    refine ⟨?_, rfl⟩
    rw [segments, hwords, String.toList_ofList, String.toList_ofList]
    rfl
  · rename_i name first word second
    split at h
    · cases h
    · rename_i hempty
      rcases Option.map_eq_some_iff.1 h with ⟨found, hfound, rfl⟩
      rcases tie?_eq_some_iff.1 hfound with ⟨hwords, hname⟩
      refine ⟨?_, rfl, hname, fun hnil => hempty (List.isEmpty_iff.2 hnil)⟩
      rw [segments, hwords, String.toList_ofList, String.toList_ofList]
      rfl
  · cases h

/-- The segments of a target name it, if its ids bear the right names. -/
theorem ofSegments?_segments (h : target.Named) : ofSegments? target.segments = some target := by
  -- The words are those of the routes, and an id at the end is compared with nothing.
  cases target with
  | health | metrics | tokens | piProjects => rfl
  | resource r => cases r <;> rfl
  | record r id =>
      rcases id with ⟨name, text⟩
      rcases h with ⟨hname, hid⟩
      dsimp only at hname hid
      subst hname
      rcases text with _ | ⟨c, text⟩
      · exact absurd rfl hid
      · cases r <;> rfl
  | token id =>
      rcases id with ⟨name, text⟩
      rcases h with ⟨hname, hid⟩
      dsimp only at hname hid
      subst hname
      rcases text with _ | ⟨c, text⟩
      · exact absurd rfl hid
      · rfl
  | related relation id =>
      rcases id with ⟨name, text⟩
      cases h
      cases relation <;> rfl
  | tie t first second =>
      rcases first with ⟨firstName, first⟩
      rcases second with ⟨secondName, second⟩
      rcases h with ⟨hfirst, hname, hsecond⟩
      dsimp only at hfirst hname hsecond
      subst hfirst hname
      rcases second with _ | ⟨c, second⟩
      · exact absurd rfl hsecond
      · cases t <;> rfl

/-- What the segments of a path name. -/
theorem ofSegments?_eq_some_iff {parts : List (List Char)} :
    ofSegments? parts = some target ↔ parts = target.segments ∧ target.Named := by
  constructor
  · exact segments_of_ofSegments?
  · rintro ⟨rfl, hnamed⟩
    exact ofSegments?_segments hnamed

theorem ofPath?_eq_some_iff {path : List Char} :
    ofPath? path = some target ↔ path = target.path ∧ target.Stands := by
  constructor
  · intro h
    unfold ofPath? at h
    split at h
    · rename_i rest
      rcases ofSegments?_eq_some_iff.1 h with ⟨hsegments, hnamed⟩
      rcases Text.splitOn_eq_iff.1 hsegments with ⟨hpath, hunbroken⟩
      exact ⟨hpath.symm, hnamed, hunbroken⟩
    · cases h
  · rintro ⟨rfl, hstands⟩
    -- A path begins with the slash before its first segment.
    have hslash : ∃ rest, target.path = '/' :: rest := by
      cases target <;> exact ⟨_, rfl⟩
    rcases hslash with ⟨rest, hrest⟩
    have hsplit := Text.splitOn_eq_iff.2 ⟨hrest, hstands.unbroken⟩
    rw [hrest]
    exact ofSegments?_eq_some_iff.2 ⟨hsplit, hstands.named⟩

/-- What a target offers to a method. -/
inductive Offers : Target → String → Endpoint → Prop
  | health : Offers .health "GET" .health
  | metrics : Offers .metrics "GET" .metrics
  | list (r : Resource) : Offers (.resource r) "GET" (.list r.collection)
  | create (r : Resource) : Offers (.resource r) "POST" (.create r)
  | listTokens : Offers .tokens "GET" (.list Collection.tokens)
  | listPiProjects : Offers .piProjects "GET" (.list Collection.piProjects)
  | get (r : Resource) (id : PathSegment) : Offers (.record r id) "GET" (.get r.collection id)
  | put (r : Resource) (id : PathSegment) : Offers (.record r id) "PUT" (.update r id)
  | patch (r : Resource) (id : PathSegment) : Offers (.record r id) "PATCH" (.update r id)
  | delete (r : Resource) (id : PathSegment) :
      Offers (.record r id) "DELETE" (.delete r.collection id)
  | getToken (id : PathSegment) : Offers (.token id) "GET" (.get Collection.tokens id)
  | deleteToken (id : PathSegment) : Offers (.token id) "DELETE" (.delete Collection.tokens id)
  | listRelated (relation : Relation) (id : PathSegment) :
      Offers (.related relation id) "GET" (.listRelated relation id)
  | addGroupUser (id : PathSegment) : Offers (.related .groupUsers id) "POST" (.addGroupUser id)
  | addProjectUser (id : PathSegment) :
      Offers (.related .projectUsers id) "POST" (.addProjectUser id)
  | addProjectNote (id : PathSegment) :
      Offers (.related .projectNotes id) "POST" (.addProjectNote id)
  | untie (t : Tie) (first second : PathSegment) :
      Offers (.tie t first second) "DELETE" (.untie t first second)

/-- What a method asks of a target is what the target offers to it. -/
theorem offers_of_endpoint? {method : String} {endpoint : Endpoint}
    (h : target.endpoint? method = some endpoint) : target.Offers method endpoint := by
  rw [endpoint?.eq_def] at h
  cases target with
  | health | metrics | tokens | piProjects | tie =>
      dsimp only at h
      split at h
      · rename_i hmethod
        cases hmethod
        cases h
        constructor
      · cases h
  | resource r =>
      dsimp only at h
      split at h <;> cases h <;> constructor
  | record r id =>
      dsimp only at h
      split at h <;> cases h <;> constructor
  | token id =>
      dsimp only at h
      split at h <;> cases h <;> constructor
  | related relation id =>
      dsimp only at h
      split at h <;> cases h <;> constructor

end Target

end Registrar
