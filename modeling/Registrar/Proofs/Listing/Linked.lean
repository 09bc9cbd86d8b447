import Registrar.Catalog.Builtin
import Registrar.Proofs.Listing.Predicate
import Registrar.Proofs.Sql.Scope

/-!
# Listings of Linked Rows

A listing may be restricted to the rows that a link table ties to one other record. The
condition is a selection from the link table inside the selection of the rows, and it
speaks of the listed row through the alias of its table.

Both aliases are names of collections. If the link table is another collection than the
listed one, the condition finds the listed row, and is true of just the rows that have a
link. A collection that links to itself is a different matter: the inner alias hides the
outer one, the condition never looks at the listed row, and either all rows are listed or
none. Nothing refuses such a restriction, but none of the service's own is one.

## Main definitions

* `Restriction.meant`: Which row the alias of the listed table means among the links.
* `Restriction.linkTruth`: Whether a row is a link.
* `ListingPlan.selfLinked`: A table whose rows refer to each other.

## Theorems

* `Restriction.condition_linked`: What a link asks of a row.
* `Restriction.truth?_linked`: What that comes to.
* `ListingPlan.ofParams_linked`: Of which rows the condition of a listing is true.
* `ListingPlan.not_linked_to_itself`: A row that has a link and is not listed.
-/

namespace Registrar

open Sql

variable {catalog : Catalog} {listed linkTable : Listed} {link own other : String} {id : Int}

namespace Restriction

/-- A link asks for a row of the link table that refers to the listed row in one column
    and to the other record in another. -/
theorem condition_linked {condition : Expr}
    (h : (linked link own other id).condition catalog listed = .ok condition) :
    ∃ linkTable, catalog.find link = .ok linkTable ∧
      condition = .exists (.existence linkTable.source
        (.and (.equals (linkTable.column own) (listed.column listed.table.primaryKey))
          (linkTable.columnIs other id))) := by
  rcases bind_eq_ok_iff.1 h with ⟨linkTable, hlink, h⟩
  rcases bind_eq_ok_iff.1 h with ⟨_, -, h⟩
  rcases bind_eq_ok_iff.1 h with ⟨_, -, h⟩
  cases h
  exact ⟨linkTable, hlink, rfl⟩

/-- The row that the alias of the listed table means inside the selection of links: the
    listed row, unless the link table goes by the same alias. -/
def meant (listed linkTable : Listed) (row linkRow : Row) : Row :=
  if listed.collection = linkTable.collection then linkRow else row

theorem datum?_meant (row linkRow : Row) (name : String) :
    (listed.column name).datum? [(linkTable.collection, linkRow), (listed.collection, row)] =
      some (meant listed linkTable row linkRow name) := by
  rw [Listed.column, meant]
  by_cases h : listed.collection = linkTable.collection
  · rw [if_pos h, h]
    exact Expr.datum?_inner name
  · rw [if_neg h, Expr.datum?_outer h]
    exact Expr.datum?_inner name

/-- Whether a row is a link between the row that is meant and the other record. -/
def linkTruth (listed linkTable : Listed) (own other : String) (id : Int) (row linkRow : Row) :
    Truth :=
  ((linkRow own).equals (meant listed linkTable row linkRow listed.table.primaryKey)).and
    ((linkRow other).equals (.integer id))

theorem linkTruth_eq_true_iff {row linkRow : Row} :
    linkTruth listed linkTable own other id row linkRow = .true ↔
      linkRow own = meant listed linkTable row linkRow listed.table.primaryKey ∧
        linkRow own ≠ .null ∧ linkRow other = .integer id := by
  rw [linkTruth, Truth.and_eq_true_iff, Datum.equals_eq_true_iff, Datum.equals_eq_true_iff]
  constructor
  · rintro ⟨⟨hown, hnull⟩, hother, -⟩
    exact ⟨hown, hnull, hother⟩
  · rintro ⟨hown, hnull, hother⟩
    -- An integer is not null, so the second null test holds by itself.
    exact ⟨⟨hown, hnull⟩, hother, hother ▸ nofun⟩

/-- A link is decided on every row, by the rows of the link table. -/
theorem truth?_linked (database : Database) (row : Row) :
    (Expr.exists (.existence linkTable.source
      (.and (.equals (linkTable.column own) (listed.column listed.table.primaryKey))
        (linkTable.columnIs other id)))).truth? database [(listed.collection, row)] =
      some (.exists ((database.rows linkTable.table.schema linkTable.table.name).map
        (linkTruth listed linkTable own other id row))) := by
  refine Expr.truth?_existence fun linkRow => ?_
  have hown : (linkTable.column own).datum?
      [(linkTable.collection, linkRow), (listed.collection, row)] = some (linkRow own) :=
    Expr.datum?_inner own
  have hother : (linkTable.column other).datum?
      [(linkTable.collection, linkRow), (listed.collection, row)] = some (linkRow other) :=
    Expr.datum?_inner other
  exact Expr.truth?_and (Expr.truth?_equals hown (datum?_meant row linkRow _))
    (Expr.truth?_equals hother rfl)

/-- There is a link, read off the rows of the link table. -/
theorem exists_link_iff {database : Database} {row : Row} :
    Truth.exists ((database.rows linkTable.table.schema linkTable.table.name).map
        (linkTruth listed linkTable own other id row)) = .true ↔
      ∃ linkRow ∈ database.rows linkTable.table.schema linkTable.table.name,
        linkRow own = meant listed linkTable row linkRow listed.table.primaryKey ∧
          linkRow own ≠ .null ∧ linkRow other = .integer id := by
  rw [Truth.exists_eq_true_iff, List.mem_map]
  constructor
  · rintro ⟨linkRow, hmem, htrue⟩
    exact ⟨linkRow, hmem, linkTruth_eq_true_iff.1 htrue⟩
  · rintro ⟨linkRow, hmem, hlink⟩
    exact ⟨linkRow, hmem, linkTruth_eq_true_iff.2 hlink⟩

end Restriction

namespace ListingPlan

/-- The statements of a listing of linked rows have the condition of the link in front.
    Whatever is stored, it is true or false of every row. If the link table is another
    collection, it is true of a row just if there is a link from it to the other record;
    if it is the listed collection, the listed row has no part in it. -/
theorem ofParams_linked {collection : String} {params : Params} {plan : ListingPlan}
    (h : ofParams catalog collection (some (.linked link own other id)) params = .ok plan) :
    ∃ listed linkTable query page condition,
      catalog.find collection = .ok listed ∧ catalog.find link = .ok linkTable ∧
      plan.rows = (pageOfRows listed query page
        (.conjunction (condition :: query.conditions listed))).asRows ∧
      plan.count = .count listed.source (.conjunction (condition :: query.conditions listed)) ∧
      ∀ (database : Database) (row : Row), ∃ truth,
        condition.truth? database [(collection, row)] = some truth ∧ truth ≠ .unknown ∧
        (link ≠ collection → (truth = .true ↔
          ∃ linkRow ∈ database.rows linkTable.table.schema linkTable.table.name,
            linkRow own = row listed.table.primaryKey ∧ row listed.table.primaryKey ≠ .null ∧
              linkRow other = .integer id)) ∧
        (link = collection → (truth = .true ↔
          ∃ linkRow ∈ database.rows linkTable.table.schema linkTable.table.name,
            linkRow own = linkRow listed.table.primaryKey ∧ linkRow own ≠ .null ∧
              linkRow other = .integer id)) := by
  rcases ofParams_cases h with
    ⟨page, listed, query, narrowing, hlisted, -, hnarrowing, hrows, hcount⟩
  -- There is one restriction, and so one condition in front.
  rw [Option.mapM_some] at hnarrowing
  rcases bind_eq_ok_iff.1 hnarrowing with ⟨condition, hcondition, hsome⟩
  cases hsome
  rcases Restriction.condition_linked hcondition with ⟨linkTable, hlink, rfl⟩
  have hself : listed.collection = collection := (Catalog.find_eq_ok_iff.1 hlisted).1
  have hother : linkTable.collection = link := (Catalog.find_eq_ok_iff.1 hlink).1
  refine ⟨listed, linkTable, query, page, _, hlisted, hlink, hrows, hcount, ?_⟩
  intro database row
  refine ⟨.exists ((database.rows linkTable.table.schema linkTable.table.name).map
    (Restriction.linkTruth listed linkTable own other id row)), ?_, Truth.exists_ne_unknown _,
    ?_, ?_⟩
  · rw [← hself]
    exact Restriction.truth?_linked database row
  · intro hne
    -- The alias of the listed table means the listed row.
    have hmeant : ∀ linkRow, Restriction.meant listed linkTable row linkRow = row := by
      intro linkRow
      refine if_neg fun hsame => hne ?_
      rw [← hother, ← hsame, hself]
    rw [Restriction.exists_link_iff]
    refine exists_congr fun linkRow => and_congr_right fun _ => ?_
    rw [hmeant]
    exact and_congr_right fun hown => by rw [hown]
  · intro hsame
    -- It means the row of the link, which hides the listed one.
    have hmeant : ∀ linkRow, Restriction.meant listed linkTable row linkRow = linkRow := by
      intro linkRow
      refine if_pos ?_
      rw [hself, hother, hsame]
    rw [Restriction.exists_link_iff]
    refine exists_congr fun linkRow => and_congr_right fun _ => ?_
    rw [hmeant]

/-- The members of a group are the users whose id stands beside the group's. -/
theorem ofParams_linked_members :
    ∃ plan condition rest,
      ofParams .builtin Collection.users
        (some (.linked Collection.userGroups "user_id" "group_id" 5)) [] = .ok plan ∧
      plan.count.condition = .conjunction (condition :: rest) ∧
      ∀ (database : Database) (row : Row),
        condition.truth? database [(Collection.users, row)] = some .true ↔
          ∃ linkRow ∈ database.rows "public" Collection.userGroups,
            linkRow "user_id" = row "id" ∧ row "id" ≠ .null ∧
              linkRow "group_id" = .integer 5 := by
  rcases exists_of_isOk (ofParams .builtin Collection.users
    (some (.linked Collection.userGroups "user_id" "group_id" 5)) []) (by decide +kernel)
    with ⟨plan, hplan⟩
  rcases ofParams_linked hplan with
    ⟨listed, linkTable, query, page, condition, hlisted, hlink, -, hcount, h⟩
  have husers : Catalog.builtin.find Collection.users = .ok ⟨_, Catalog.users.2⟩ := rfl
  have hgroups : Catalog.builtin.find Collection.userGroups = .ok ⟨_, Catalog.userGroups.2⟩ := rfl
  cases husers.symm.trans hlisted
  cases hgroups.symm.trans hlink
  refine ⟨plan, condition, _, hplan, congrArg Select.condition hcount, fun database row => ?_⟩
  rcases h database row with ⟨truth, htruth, -, hiff, -⟩
  rw [htruth, Option.some.injEq]
  exact hiff (by decide)

/-- Notes, each with the note that it answers and its author. -/
def selfLinked : Catalog :=
  ⟨Sorted.ofList [("notes",
    { schema := "public"
      name := "notes"
      primaryKey := "id"
      columns := Keyed.ofList [("id", ⟨"id", .integer⟩), ("answers", ⟨"answers", .integer⟩),
        ("author", ⟨"author", .integer⟩)] })]⟩

/-- The note 1, which answers nothing. -/
def question : Row
  | "id" => .integer 1
  | "author" => .integer 3
  | _ => .null

/-- The note 2, which answers the note 1. -/
def answer : Row
  | "id" => .integer 2
  | "answers" => .integer 1
  | "author" => .integer 5
  | _ => .null

/-- The note 1 is answered by the author 5, and yet it is not among the notes that this
    author has answered. -/
theorem not_linked_to_itself :
    ∃ plan condition,
      ofParams selfLinked "notes" (some (.linked "notes" "answers" "author" 5)) [] = .ok plan ∧
      plan.count.condition = condition ∧
      condition.truth? ⟨fun _ _ => [question, answer]⟩ [("notes", question)] = some .false ∧
      answer "answers" = question "id" ∧ question "id" ≠ .null ∧
      answer "author" = .integer 5 :=
  ⟨_, _, rfl, rfl, by decide, rfl, by decide, rfl⟩

end ListingPlan

end Registrar
