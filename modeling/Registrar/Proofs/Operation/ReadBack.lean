import Registrar.Proofs.Operation.Confined
import Registrar.Proofs.Operation.Counting
import Registrar.Proofs.Operation.Record

/-!
# Looking First and Reading Back

Nothing is changed or removed unseen: the one statement that does so comes right after a
search for the record that brought a row. And nothing is made up of a record that was
written: what is handed out is what a search for it brings afterwards, with the very
statement that getting the record would be.

Both are read off the courses of the operations on single records. Whether a command changes
or removes something is a matter of its text alone, so a search and an insertion are none of
these commands, whatever the catalog holds.

## Main definitions

* `Command.Alters`: A command changes or removes something.
* `Operation.LooksFirst`: What is changed or removed was looked for.
* `Operation.ReadBack`: A document is what the last search brought.
* `Operation.InsertedFirst`: What is got was inserted.
* `Operation.CountedOnce`: A success counts once, and a failure does not count.

## Theorems

* `Operation.ReadingCourse.readBack`: A record that is got is read back.
* `Operation.CreationCourse.insertedFirst`, `Operation.ChangeCourse.looksFirst`,
  `Operation.looksFirst_of_course_deleteOne`: The order of the operations.
* `Operation.records_in_order`: All of this, whatever the catalog and the replies are.
-/

namespace Registrar

open Sql

/-- A command changes or removes something. -/
def Command.Alters (command : Command) : Prop :=
  ∃ sql, command = .execute sql ∧
    ((∃ update, sql = (Statement.update update).text) ∨
      ∃ delete, sql = (Statement.delete delete).text)

theorem Command.not_alters_of_confined {command : Command}
    (h : command.Confined (fun _ => False) fun _ => False) : ¬command.Alters := by
  rintro ⟨sql, hsql, ⟨update, hupdate⟩ | ⟨delete, hdelete⟩⟩
  · exact (h sql hsql).change update hupdate
  · exact (h sql hsql).removal delete hdelete

theorem Command.alters_update (update : Update) :
    (Command.execute (Statement.update update).text).Alters :=
  ⟨_, rfl, Or.inl ⟨update, rfl⟩⟩

namespace Operation

open Session

variable {α : Type} {catalog : Catalog} {collection : String} {id : Int} {payload : Payload}
  {exchanges : List Exchange} {counters : List Counter}

/-- What is changed or removed was looked for. There is nothing before the search, nothing
    after a search that brought no record, and after one that did there is one statement at
    most that alters anything, which is one of those to be sent and comes next. -/
structure LooksFirst (catalog : Catalog) (collection : String) (id : Int)
    (writes : Sql.Text → Prop) (exchanges : List Exchange) (result : Except OperationError α) :
    Prop where
  search : ∀ first rest, exchanges = first :: rest →
    ∃ select, Record.select catalog collection id = .ok select ∧ first.1 = .execute select.text
  missing : ∀ first rest rows, exchanges = first :: rest → first.2 = .ok rows →
    rows.first = none → rest = [] ∧ result = .error (.notFound (recordName collection id))
  failed : ∀ first rest e, exchanges = first :: rest → first.2 = .error e →
    rest = [] ∧ result = .error (.ofDatabase e)
  found : ∀ exchange ∈ exchanges, exchange.1.Alters → ∃ first rest rows cell sql,
    exchanges = first :: exchange :: rest ∧ first.2 = .ok rows ∧ rows.first = some cell ∧
      exchange.1 = .execute sql ∧ writes sql ∧ ∀ later ∈ rest, ¬later.1.Alters

/-- A document is what the last search brought, and that is all it would take to get it. -/
def ReadBack (catalog : Catalog) (collection : String) (id : Int) (exchanges : List Exchange)
    (document : Json.Document) : Prop :=
  ∃ before select rows text, exchanges = before ++ [(.execute select.text, .ok rows)] ∧
    Record.select catalog collection id = .ok select ∧ rows.first = some (.json text) ∧
    Json.Document.parse? text = some document ∧
    Course (getOne catalog collection id).run [(.execute select.text, .ok rows)]
      [.recordOperations] (.ok document)

/-- What is got was inserted: after the insertion of the record comes what it takes to get
    the one with the id that came back, and nothing if none did. -/
def InsertedFirst (catalog : Catalog) (collection : String) (record : Record)
    (exchanges : List Exchange) (counters : List Counter)
    (result : Except OperationError Json.Document) : Prop :=
  ∃ insert reply rest, Record.insert catalog collection record = .ok insert ∧
    exchanges = (.execute (Statement.insert insert).text, reply) :: rest ∧
    ((∃ e, integerOf reply = .error e ∧ rest = [] ∧ result = .error e) ∨
      ∃ id, integerOf reply = .ok id ∧
        Course (getOne catalog collection id).run rest counters result ∧
        ∀ document, result = .ok document → ReadBack catalog collection id rest document)

/-- A success counts once, and a failure does not count. -/
structure CountedOnce (counters : List Counter) (result : Except OperationError α) : Prop where
  success : ∀ a, result = .ok a → counters = [.recordOperations]
  failure : ∀ e, result = .error e → counters = []

theorem Counts.countedOnce {operation : Operation α} (h : operation.Counts [.recordOperations])
    {result : Except OperationError α} (hcourse : Course operation.run exchanges counters result) :
    CountedOnce counters result where
  success := fun a ha => (h.once hcourse).1.2 ⟨a, ha⟩
  failure := by
    rintro e rfl
    exact (h.once hcourse).2.2 fun ⟨_, hnone⟩ => nomatch hnone

/-- A search alters nothing. -/
theorem not_alters_select (select : Select) : ¬(Command.execute select.text).Alters :=
  Command.not_alters_of_confined (confined_selection select)

theorem ReadingCourse.not_alters {result : Except OperationError Json.Document}
    (h : ReadingCourse catalog collection id exchanges counters result) :
    ∀ exchange ∈ exchanges, ¬exchange.1.Alters := by
  cases h with
  | unlisted h => exact List.forall_mem_nil _
  | missing hselect h => exact List.forall_mem_singleton.2 (not_alters_select _)
  | read hselect h => exact List.forall_mem_singleton.2 (not_alters_select _)

theorem ReadingCourse.length_le_one {result : Except OperationError Json.Document}
    (h : ReadingCourse catalog collection id exchanges counters result) :
    exchanges.length ≤ 1 := by
  cases h with
  | unlisted h => exact Nat.zero_le 1
  | missing hselect h => exact Nat.le_refl 1
  | read hselect h => exact Nat.le_refl 1

/-- A record that is got is read back. -/
theorem ReadingCourse.readBack {document : Json.Document}
    (h : ReadingCourse catalog collection id exchanges counters (.ok document)) :
    ReadBack catalog collection id exchanges document := by
  cases h with
  | @read select hselect found _ hfound =>
      rcases recordOf_eq_ok_iff.1 hfound with ⟨rows, text, rfl, hfirst, hparse⟩
      exact ⟨[], select, rows, text, rfl, hselect, hfirst, hparse,
        course_getOne_iff.2 (.read hselect hfound)⟩

/-- It still is if something was said before. -/
theorem ReadBack.append {document : Json.Document}
    (h : ReadBack catalog collection id exchanges document) (before : List Exchange) :
    ReadBack catalog collection id (before ++ exchanges) document := by
  rcases h with ⟨middle, select, rows, text, rfl, h⟩
  exact ⟨before ++ middle, select, rows, text, (List.append_assoc ..).symm, h⟩

variable {writes : Sql.Text → Prop} {result : Except OperationError α}

/-- Who says nothing has looked for everything. -/
theorem looksFirst_nil : LooksFirst catalog collection id writes [] result where
  search := fun _ _ hnone => nomatch hnone
  missing := fun _ _ _ hnone => nomatch hnone
  failed := fun _ _ _ hnone => nomatch hnone
  found := fun _ hmem => absurd hmem List.not_mem_nil

/-- So has one who gives up after a search. -/
theorem looksFirst_of_missing {select : Select}
    (hselect : Record.select catalog collection id = .ok select) {reply : Reply}
    {e : OperationError} (h : recordOf (recordName collection id) reply = .error e) :
    LooksFirst catalog collection id writes [(.execute select.text, reply)]
      (.error e : Except OperationError α) where
  search := by
    rintro _ _ ⟨⟩
    exact ⟨select, hselect, rfl⟩
  missing := by
    rintro _ _ rows ⟨⟩ hrows hfirst
    cases hrows
    rw [recordOf, hfirst] at h
    cases h
    exact ⟨rfl, rfl⟩
  failed := by
    rintro _ _ e' ⟨⟩ he
    cases he
    cases h
    exact ⟨rfl, rfl⟩
  found := by
    intro exchange hmem halters
    cases List.mem_singleton.1 hmem
    exact absurd halters (not_alters_select select)

/-- After a search that brought a record it is enough to look at what follows. -/
theorem looksFirst_of_found {select : Select}
    (hselect : Record.select catalog collection id = .ok select) {found : Reply}
    {document : Json.Document} (hfound : recordOf (recordName collection id) found = .ok document)
    {rest : List Exchange}
    (h : ∀ exchange ∈ rest, exchange.1.Alters → ∃ sql others, exchange.1 = .execute sql ∧
      writes sql ∧ rest = exchange :: others ∧ ∀ later ∈ others, ¬later.1.Alters) :
    LooksFirst catalog collection id writes ((.execute select.text, found) :: rest) result := by
  rcases recordOf_eq_ok_iff.1 hfound with ⟨rows, text, rfl, hfirst, -⟩
  refine ⟨?_, ?_, ?_, ?_⟩
  · rintro _ _ ⟨⟩
    exact ⟨select, hselect, rfl⟩
  · rintro _ _ other ⟨⟩ hsame hnone
    cases hsame
    cases hfirst.symm.trans hnone
  · rintro _ _ e ⟨⟩ hnone
    cases hnone
  · intro exchange hmem halters
    -- The search itself alters nothing, so what alters comes after it.
    rcases List.mem_cons.1 hmem with rfl | hmem
    · exact absurd halters (not_alters_select select)
    · rcases h exchange hmem halters with ⟨sql, others, hsql, hwrites, rfl, hothers⟩
      exact ⟨_, others, rows, .json text, sql, rfl, rfl, hfirst, hsql, hwrites, hothers⟩

/-- What follows may be one statement that is to be sent, and then none that alters. -/
theorem looksFirst_of_write {select : Select}
    (hselect : Record.select catalog collection id = .ok select) {found : Reply}
    {document : Json.Document} (hfound : recordOf (recordName collection id) found = .ok document)
    {sql : Sql.Text} (hwrites : writes sql) (reply : Reply) {rest : List Exchange}
    (hrest : ∀ exchange ∈ rest, ¬exchange.1.Alters) :
    LooksFirst catalog collection id writes
      ((.execute select.text, found) :: (.execute sql, reply) :: rest) result := by
  refine looksFirst_of_found hselect hfound fun exchange hmem halters => ?_
  rcases List.mem_cons.1 hmem with rfl | hmem
  · exact ⟨sql, rest, rfl, hwrites, rfl, hrest⟩
  · exact absurd halters (hrest exchange hmem)

theorem ReadingCourse.looksFirst {result : Except OperationError Json.Document}
    (h : ReadingCourse catalog collection id exchanges counters result) :
    LooksFirst catalog collection id writes exchanges result := by
  cases h with
  | unlisted h => exact looksFirst_nil
  | missing hselect h => exact looksFirst_of_missing hselect h
  | read hselect h => exact looksFirst_of_found hselect h nofun

/-- The updates that set the columns of a payload. -/
def Updates (catalog : Catalog) (collection : String) (id : Int) (payload : Payload)
    (sql : Sql.Text) : Prop :=
  ∃ record update, recordFor catalog collection payload = .ok record ∧
    Record.update? catalog collection id record = .ok (some update) ∧
    sql = (Statement.update update).text

theorem ChangeCourse.looksFirst {result : Except OperationError Json.Document}
    (h : ChangeCourse catalog collection id payload exchanges counters result) :
    LooksFirst catalog collection id (Updates catalog collection id payload) exchanges
      result := by
  cases h with
  | refused h => exact looksFirst_nil
  | missing hrecord hselect h => exact looksFirst_of_missing hselect h
  | unchanged hrecord hselect hfound hupdate h =>
      exact looksFirst_of_found hselect hfound fun exchange hmem halters =>
        absurd halters (h.not_alters exchange hmem)
  | kept hrecord hselect hfound hupdate e =>
      exact looksFirst_of_write hselect hfound ⟨_, _, hrecord, hupdate, rfl⟩ _
        (List.forall_mem_nil _)
  | changed hrecord hselect hfound hupdate done h =>
      exact looksFirst_of_write hselect hfound ⟨_, _, hrecord, hupdate, rfl⟩ _ h.not_alters

/-- The removals of a record. -/
def Removals (catalog : Catalog) (collection : String) (id : Int) (sql : Sql.Text) : Prop :=
  ∃ delete, Record.delete catalog collection id = .ok delete ∧
    sql = (Statement.delete delete).text

theorem looksFirst_of_course_deleteOne {result : Except OperationError Unit}
    (hcourse : Course (deleteOne catalog collection id).run exchanges counters result) :
    LooksFirst catalog collection id (Removals catalog collection id) exchanges result := by
  rcases course_deleteOne_cases hcourse with ⟨e, h, rfl⟩ | ⟨e, select, found, document, hselect,
    hdelete, hfound, rfl, rfl, rfl⟩ | ⟨select, delete, hselect, hdelete, h⟩
  · cases h with
    | unlisted h => exact looksFirst_nil
    | missing hselect h => exact looksFirst_of_missing hselect h
  · exact looksFirst_of_found hselect hfound nofun
  · cases h with
    | missing h => exact looksFirst_of_missing hselect h
    | kept h e =>
        exact looksFirst_of_write hselect h ⟨delete, hdelete, rfl⟩ _ (List.forall_mem_nil _)
    | removed h gone =>
        exact looksFirst_of_write hselect h ⟨delete, hdelete, rfl⟩ _ (List.forall_mem_nil _)

/-- There is nothing to set just if the record is empty. -/
theorem update?_eq_none_iff_names (id : Int) {record : Record}
    (hrecord : recordFor catalog collection payload = .ok record) :
    Record.update? catalog collection id record = .ok none ↔ record.names = [] := by
  rcases find_of_recordFor hrecord with ⟨listed, hlisted, hpayload⟩
  rw [Record.update?_eq_none_iff hlisted, List.eq_nil_iff_forall_not_mem]
  -- Every name of the record is that of a column.
  refine forall_congr' fun column => not_congr ?_
  exact and_iff_right_of_imp fun hname => Payload.column_of_record hpayload hname

/-- After the record was found, an update is sent just if the record to be set is not
    empty. -/
theorem ChangeCourse.alters_iff {result : Except OperationError Json.Document}
    (h : ChangeCourse catalog collection id payload exchanges counters result) {record : Record}
    (hrecord : recordFor catalog collection payload = .ok record) {first : Exchange}
    {rest : List Exchange} (hfirst : exchanges = first :: rest) {document : Json.Document}
    (hfound : recordOf (recordName collection id) first.2 = .ok document) :
    (∃ exchange ∈ exchanges, exchange.1.Alters) ↔ record.names ≠ [] := by
  rw [Ne, ← update?_eq_none_iff_names id hrecord]
  cases h with
  | refused h => cases hfirst
  | missing _ _ h =>
      cases hfirst
      cases h.symm.trans hfound
  | unchanged hsame _ _ hupdate h =>
      cases hrecord.symm.trans hsame
      refine iff_of_false ?_ (not_not_intro hupdate)
      rintro ⟨exchange, hmem, halters⟩
      rcases List.mem_cons.1 hmem with rfl | hmem
      · exact not_alters_select _ halters
      · exact h.not_alters exchange hmem halters
  | kept hsame _ _ hupdate e =>
      cases hrecord.symm.trans hsame
      refine iff_of_true ⟨_, List.mem_cons_of_mem _ List.mem_cons_self,
        Command.alters_update _⟩ fun hnone => ?_
      cases hupdate.symm.trans hnone
  | changed hsame _ _ hupdate done h =>
      cases hrecord.symm.trans hsame
      refine iff_of_true ⟨_, List.mem_cons_of_mem _ List.mem_cons_self,
        Command.alters_update _⟩ fun hnone => ?_
      cases hupdate.symm.trans hnone

theorem ChangeCourse.readBack {document : Json.Document}
    (h : ChangeCourse catalog collection id payload exchanges counters (.ok document)) :
    ReadBack catalog collection id exchanges document := by
  cases h with
  | unchanged hrecord hselect hfound hupdate h => exact h.readBack.append [_]
  | changed hrecord hselect hfound hupdate done h => exact h.readBack.append [_, _]

theorem CreationCourse.insertedFirst {result : Except OperationError Json.Document}
    (h : CreationCourse catalog collection payload exchanges counters result) {record : Record}
    (hrecord : recordFor catalog collection payload = .ok record) :
    InsertedFirst catalog collection record exchanges counters result := by
  cases h with
  | refused h => cases h.symm.trans hrecord
  | @unwritten _ insert hsame hinsert reply e h =>
      cases hrecord.symm.trans hsame
      exact ⟨insert, reply, [], hinsert, rfl, Or.inl ⟨e, h, rfl, rfl⟩⟩
  | @written _ insert hsame hinsert inserted id hid rest _ _ h =>
      cases hrecord.symm.trans hsame
      refine ⟨insert, inserted, rest, hinsert, rfl,
        Or.inr ⟨id, hid, course_getOne_iff.2 h, ?_⟩⟩
      rintro document rfl
      exact h.readBack

/-- A payload that becomes no record is given up before anything is said. -/
theorem CreationCourse.eq_of_refused {result : Except OperationError Json.Document}
    (h : CreationCourse catalog collection payload exchanges counters result)
    {e : OperationError} (hrefused : recordFor catalog collection payload = .error e) :
    exchanges = [] ∧ result = .error e := by
  cases h with
  | refused h =>
      cases h.symm.trans hrefused
      exact ⟨rfl, rfl⟩
  | unwritten hrecord => cases hrecord.symm.trans hrefused
  | written hrecord => cases hrecord.symm.trans hrefused

theorem ChangeCourse.eq_of_refused {result : Except OperationError Json.Document}
    (h : ChangeCourse catalog collection id payload exchanges counters result)
    {e : OperationError} (hrefused : recordFor catalog collection payload = .error e) :
    exchanges = [] ∧ result = .error e := by
  cases h with
  | refused h =>
      cases h.symm.trans hrefused
      exact ⟨rfl, rfl⟩
  | missing hrecord => cases hrecord.symm.trans hrefused
  | unchanged hrecord => cases hrecord.symm.trans hrefused
  | kept hrecord => cases hrecord.symm.trans hrefused
  | changed hrecord => cases hrecord.symm.trans hrefused

/-- A payload that becomes a record is looked for. -/
theorem ChangeCourse.exists_search {result : Except OperationError Json.Document}
    (h : ChangeCourse catalog collection id payload exchanges counters result) {record : Record}
    (hrecord : recordFor catalog collection payload = .ok record) :
    ∃ first rest, exchanges = first :: rest := by
  cases h with
  | refused h => cases h.symm.trans hrecord
  | missing => exact ⟨_, _, rfl⟩
  | unchanged => exact ⟨_, _, rfl⟩
  | kept => exact ⟨_, _, rfl⟩
  | changed => exact ⟨_, _, rfl⟩

/-- The operations on single records, for every catalog and every payload, and whatever comes
    back. To get a record takes one search at most. A creation inserts the record of its
    payload and gets the one with the id that came back. A change and a removal look first;
    the change then sends an update just if its record is not empty, and what it hands out is
    read back. Each of them counts once if it succeeds, and not at all if it fails. -/
theorem records_in_order (catalog : Catalog) (collection : String) :
    (∀ id exchanges counters result,
      Course (getOne catalog collection id).run exchanges counters result →
        exchanges.length ≤ 1 ∧
        LooksFirst catalog collection id (fun _ => False) exchanges result ∧
        (∀ document, result = .ok document →
          ReadBack catalog collection id exchanges document) ∧
        CountedOnce counters result) ∧
    (∀ payload exchanges counters result,
      Course (createOne catalog collection payload).run exchanges counters result →
        (∀ e, recordFor catalog collection payload = .error e →
          exchanges = [] ∧ result = .error e) ∧
        (∀ record, recordFor catalog collection payload = .ok record →
          InsertedFirst catalog collection record exchanges counters result) ∧
        CountedOnce counters result) ∧
    (∀ id payload exchanges counters result,
      Course (updateOne catalog collection id payload).run exchanges counters result →
        (∀ e, recordFor catalog collection payload = .error e →
          exchanges = [] ∧ result = .error e) ∧
        LooksFirst catalog collection id (Updates catalog collection id payload) exchanges
          result ∧
        (∀ record, recordFor catalog collection payload = .ok record →
          ∃ first rest, exchanges = first :: rest ∧
            ∀ document, recordOf (recordName collection id) first.2 = .ok document →
              ((∃ exchange ∈ exchanges, exchange.1.Alters) ↔ record.names ≠ [])) ∧
        (∀ document, result = .ok document →
          ReadBack catalog collection id exchanges document) ∧
        CountedOnce counters result) ∧
    ∀ id exchanges counters result,
      Course (deleteOne catalog collection id).run exchanges counters result →
        LooksFirst catalog collection id (Removals catalog collection id) exchanges result ∧
        (result = .ok () → ∃ exchange ∈ exchanges, exchange.1.Alters) ∧
        CountedOnce counters result := by
  refine ⟨?_, ?_, ?_, ?_⟩
  · intro id exchanges counters result hcourse
    have h := course_getOne_iff.1 hcourse
    refine ⟨h.length_le_one, h.looksFirst, ?_, (counts_getOne id).countedOnce hcourse⟩
    rintro document rfl
    exact h.readBack
  · intro payload exchanges counters result hcourse
    have h := course_createOne_iff.1 hcourse
    exact ⟨fun _ => h.eq_of_refused, fun _ => h.insertedFirst,
      (counts_createOne payload).countedOnce hcourse⟩
  · intro id payload exchanges counters result hcourse
    have h := course_updateOne_iff.1 hcourse
    refine ⟨fun _ => h.eq_of_refused, h.looksFirst, fun record hrecord => ?_, ?_,
      (counts_updateOne id payload).countedOnce hcourse⟩
    · rcases h.exists_search hrecord with ⟨first, rest, hfirst⟩
      exact ⟨first, rest, hfirst, fun document => h.alters_iff hrecord hfirst⟩
    · rintro document rfl
      exact h.readBack
  · intro id exchanges counters result hcourse
    refine ⟨looksFirst_of_course_deleteOne hcourse, ?_,
      (counts_deleteOne id).countedOnce hcourse⟩
    rintro rfl
    -- A removal that succeeds has two statements, and the second one removes.
    rcases (course_deleteOne_ok_iff.1 hcourse).1 with ⟨select, delete, _, _, _, -, -, -, rfl⟩
    exact ⟨_, List.mem_cons_of_mem _ List.mem_cons_self, _, rfl, Or.inr ⟨delete, rfl⟩⟩

/-- What is said, and what comes back, when a record is changed that is there before and
    after. -/
def changing (select : Select) (update : Update) : List Exchange :=
  [(.execute select.text, .ok ⟨some (.json sampleText), 1⟩),
    (.execute (Statement.update update).text, .ok ⟨none, 1⟩),
    (.execute select.text, .ok ⟨some (.json sampleText), 1⟩)]

/-- A group is given another name. What is handed out is what came with the second search. -/
theorem records_in_order_renamed : ∃ select update,
    Record.select .builtin Collection.groups 7 = .ok select ∧
      Record.update? .builtin Collection.groups 7 Record.naming = .ok (some update) ∧
      Course (updateOne .builtin Collection.groups 7
        ⟨.object [("name", .string "physics")], none⟩).run (changing select update)
        [.recordOperations] (.ok sample) ∧
      ReadBack .builtin Collection.groups 7 (changing select update) sample := by
  have hrecord : recordFor .builtin Collection.groups
      ⟨.object [("name", .string "physics")], none⟩ = .ok Record.naming := rfl
  have hfound := recordOf_sampleText (recordName Collection.groups 7) 1
  rcases find_of_recordFor hrecord with ⟨listed, hlisted, -⟩
  rcases Record.select_of_find hlisted 7 with ⟨select, hselect, -⟩
  rcases Record.exists_update? hlisted 7 Record.naming with ⟨update, hupdate, -⟩
  cases update with
  | none => exact absurd ((update?_eq_none_iff_names 7 hrecord).1 hupdate) (by decide +kernel)
  | some update =>
      have hcourse := course_updateOne_iff.2 (.changed hrecord hselect hfound hupdate ⟨none, 1⟩
        (.read hselect hfound))
      rcases (records_in_order .builtin Collection.groups).2.2.1 7 _ _ _ _ hcourse with
        ⟨-, -, -, hread, -⟩
      exact ⟨select, update, hselect, hupdate, hcourse, hread sample rfl⟩

end Operation

end Registrar
