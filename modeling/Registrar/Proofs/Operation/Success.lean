import Registrar.Proofs.Operation.Hopeful
import Registrar.Proofs.Operation.Permitted
import Registrar.Proofs.Record.Assigned

/-!
# Operations That Can Succeed

Every operation on a known collection is hopeful: at each of its commands there are
replies with which it still succeeds. All that can stand in the way before the database
is asked is excluded beforehand, namely an unknown collection, a payload that does not
fit, and a column that does not exist.

The replies that lead to success are the same everywhere: a row with one small document,
or the integer 1.

## Main definitions

* `Operation.sample`: The document that may always come back.

## Theorems

* `Operation.document?_sampleText`: The document can be read from a cell.
* `Operation.hopeful_list`, `Operation.hopeful_createOne` and their like: The operations
  are hopeful.
-/

namespace Registrar

namespace Operation

open Json (Token Tree Decoder)

/-- The text of a record with an id and nothing else. -/
def sampleText : String := "\x7b\"id\":1\x7d"

/-- A record with an id and nothing else. -/
def sample : Json.Document := .object [("id", .ofInt 1)]

theorem all_sampleText : Token.all sampleText.toList =
    [.openObject, .string [.char 'i', .char 'd'], .colon, .number ⟨false, [1], [], none⟩,
     .closeObject] := by
  -- The reader is not structurally recursive, so its tokens are taken one at a time.
  have hopen : Token.next? sampleText.toList =
      some (.openObject, ['"', 'i', 'd', '"', ':', '1', '}']) := rfl
  have hkey : Token.next? ['"', 'i', 'd', '"', ':', '1', '}'] =
      some (.string [.char 'i', .char 'd'], [':', '1', '}']) := rfl
  have hcolon : Token.next? [':', '1', '}'] = some (.colon, ['1', '}']) := rfl
  have hvalue : Token.next? ['1', '}'] = some (.number ⟨false, [1], [], none⟩, ['}']) := rfl
  have hclose : Token.next? ['}'] = some (.closeObject, []) := rfl
  rw [Token.all_of_next? hopen, Token.all_of_next? hkey, Token.all_of_next? hcolon,
    Token.all_of_next? hvalue, Token.all_of_next? hclose, Token.all_of_none rfl]

theorem document?_sampleText : (Cell.json sampleText).document? = .ok sample := by
  rw [Cell.document?, Json.Document.parse?, Decoder.run, Decoder.runFirst, Tree.read,
    all_sampleText]
  rfl

variable {catalog : Catalog} {collection : String} {listed : Listed} {R : Prop}

theorem hopeful_document? {cell : Cell} :
    (ofReply cell.document?).Hopeful (cell = .json sampleText) (· = sample) := by
  refine hopeful_ofReply fun hcell => ⟨sample, ?_, rfl⟩
  rw [hcell]
  exact document?_sampleText

theorem hopeful_integer? {cell : Cell} :
    (ofReply cell.integer?).Hopeful (cell = .integer 1) fun _ => True := by
  refine hopeful_ofReply fun hcell => ⟨1, ?_, trivial⟩
  rw [hcell]
  rfl

theorem hopeful_list (plan : ListingPlan) : (list plan).Hopeful R fun _ => True := by
  refine (hopeful_fetchOne _ (.json sampleText)).bind fun page => ?_
  refine hopeful_document?.bind fun rows => ?_
  refine (hopeful_fetchOne _ (.integer 1)).bind fun count => ?_
  refine hopeful_integer?.bind fun total => ?_
  exact hopeful_tally_pure fun _ => trivial

/-- What a collection has to be known for is translated if it is. -/
theorem hopeful_ofQuery_of_find {α : Type} {translate : Listed → α}
    (hlisted : catalog.find collection = .ok listed) :
    (ofQuery (do
      let listed ← catalog.find collection
      pure (translate listed))).Hopeful R fun _ => True := by
  refine hopeful_ofQuery fun _ => ⟨translate listed, ?_, trivial⟩
  rw [hlisted]
  rfl

theorem hopeful_find (hlisted : catalog.find collection = .ok listed) (id : Int) :
    (find catalog collection id).Hopeful R (· = some sample) := by
  refine (hopeful_ofQuery_of_find hlisted).bind fun select => ?_
  refine (hopeful_send _ ⟨some (.json sampleText), 0⟩).bind fun rows => ?_
  -- Without a row the operation can go on, but not to what is hoped for.
  cases hfirst : rows.first with
  | some cell =>
      have hcell : rows = ⟨some (.json sampleText), 0⟩ → cell = .json sampleText := by
        intro hrows
        rw [hrows] at hfirst
        exact (Option.some.inj hfirst).symm
      exact (hopeful_document?.of_imp hcell).bind fun document => hopeful_pure (congrArg some)
  | none =>
      refine hopeful_pure fun hrows => ?_
      rw [hrows] at hfirst
      exact nomatch hfirst

theorem hopeful_require (hlisted : catalog.find collection = .ok listed) (id : Int) :
    (require catalog collection id).Hopeful R (· = sample) := by
  refine (hopeful_find hlisted id).bind fun found => ?_
  cases found with
  | some document => exact hopeful_pure Option.some.inj
  | none => exact hopeful_fail nofun

theorem hopeful_getOne (hlisted : catalog.find collection = .ok listed) (id : Int) :
    (getOne catalog collection id).Hopeful R (· = sample) := by
  refine (hopeful_require hlisted id).bind fun document => ?_
  exact hopeful_tally_pure fun hdocument => hdocument

theorem hopeful_createOne {payload : Payload}
    (hlisted : Catalog.builtin.find collection = .ok listed)
    (hpayload : payload.Fits listed.table) :
    (createOne .builtin collection payload).Hopeful R (· = sample) := by
  rcases recordFor_of_fits hlisted hpayload with ⟨record, hrecord, -⟩
  have hfound : (ofExcept (recordFor .builtin collection payload)).Hopeful R fun _ => True :=
    hopeful_ofExcept fun _ => ⟨record, hrecord, trivial⟩
  refine hfound.bind fun record => ?_
  refine (hopeful_ofQuery_of_find hlisted).bind fun insert => ?_
  refine (hopeful_fetchOne _ (.integer 1)).bind fun key => ?_
  -- From here on all is as when the record is read.
  refine hopeful_integer?.bind fun id => ?_
  exact hopeful_getOne hlisted id

theorem hopeful_updateOne {payload : Payload} (id : Int)
    (hlisted : Catalog.builtin.find collection = .ok listed)
    (hpayload : payload.Fits listed.table) :
    (updateOne .builtin collection id payload).Hopeful R (· = sample) := by
  rcases recordFor_of_fits hlisted hpayload with ⟨record, hrecord, -⟩
  have hfound : (ofExcept (recordFor .builtin collection payload)).Hopeful R fun _ => True :=
    hopeful_ofExcept fun _ => ⟨record, hrecord, trivial⟩
  refine hfound.bind fun record => ?_
  refine (hopeful_require hlisted id).bind fun _ => ?_
  have hupdate {R : Prop} : (ofQuery (Record.update? .builtin collection id record)).Hopeful R
      fun _ => True := by
    refine hopeful_ofQuery fun _ => ?_
    rcases Record.exists_update? hlisted id record with ⟨update, hupdate, -⟩
    exact ⟨update, hupdate, trivial⟩
  refine hupdate.bind fun update => ?_
  -- With nothing to set no update is sent, and the record is read all the same.
  cases update with
  | some update =>
      refine (hopeful_send _ Rows.none).bind fun _ => ?_
      exact hopeful_getOne hlisted id
  | none => exact hopeful_getOne hlisted id

/-- Columns that exist can be compared with integers. -/
theorem matchConditions_ok {values : List (String × Int)}
    (h : ∀ value ∈ values, (listed.table.column? value.1).isSome) :
    ∃ conditions, Record.matchConditions listed values = .ok conditions := by
  induction values with
  | nil => exact ⟨[], rfl⟩
  | cons value rest ih =>
      rcases ih fun other hother => h other (List.mem_cons_of_mem _ hother) with
        ⟨conditions, hconditions⟩
      refine ⟨listed.columnIs value.1 value.2 :: conditions, ?_⟩
      rw [Record.matchConditions, Listed.requireColumn, if_pos (h value List.mem_cons_self),
        hconditions]
      rfl

theorem deleteWhere_ok (hlisted : catalog.find collection = .ok listed)
    {values : List (String × Int)} (h : ∀ value ∈ values, (listed.table.column? value.1).isSome) :
    ∃ delete, Record.deleteWhere catalog collection values = .ok delete := by
  rcases matchConditions_ok h with ⟨conditions, hconditions⟩
  refine ⟨⟨listed.source, .conjunction conditions⟩, ?_⟩
  rw [Record.deleteWhere, hlisted]
  refine bind_eq_ok_iff.2 ⟨listed, rfl, ?_⟩
  rw [hconditions]
  rfl

/-- A record can be removed because the primary key of its table is a column. -/
theorem delete_ok (hlisted : Catalog.builtin.find collection = .ok listed) (id : Int) :
    ∃ delete, Record.delete .builtin collection id = .ok delete := by
  have hvalues : ∀ value ∈ [(listed.table.primaryKey, id)],
      (listed.table.column? value.1).isSome :=
    List.forall_mem_singleton.2 (Catalog.column?_primaryKey hlisted)
  rw [Record.delete, hlisted]
  exact deleteWhere_ok hlisted hvalues

theorem hopeful_deleteOne (hlisted : Catalog.builtin.find collection = .ok listed) (id : Int) :
    (deleteOne .builtin collection id).Hopeful R fun _ => True := by
  have hdelete {R : Prop} : (ofQuery (Record.delete .builtin collection id)).Hopeful R
      fun _ => True := by
    rcases delete_ok hlisted id with ⟨delete, hdelete⟩
    exact hopeful_ofQuery fun _ => ⟨delete, hdelete, trivial⟩
  refine (hopeful_require hlisted id).bind fun _ => ?_
  refine hdelete.bind fun delete => ?_
  refine (hopeful_send _ Rows.none).bind fun _ => ?_
  exact hopeful_tally fun _ => trivial

theorem hopeful_deleteMatching (hlisted : catalog.find collection = .ok listed)
    {values : List (String × Int)} (h : ∀ value ∈ values, (listed.table.column? value.1).isSome) :
    (deleteMatching catalog collection values).Hopeful R fun _ => True := by
  have hdelete : (ofQuery (Record.deleteWhere catalog collection values)).Hopeful R
      fun _ => True := by
    rcases deleteWhere_ok hlisted h with ⟨delete, hdelete⟩
    exact hopeful_ofQuery fun _ => ⟨delete, hdelete, trivial⟩
  refine hdelete.bind fun delete => ?_
  refine (hopeful_send _ ⟨none, 1⟩).bind fun rows => ?_
  -- A removal that affects no row is an error, so the reply hoped for affects one.
  by_cases hnone : rows.affected = 0
  · rw [if_pos hnone]
    refine hopeful_fail fun hrows => ?_
    rw [hrows] at hnone
    exact nomatch hnone
  · rw [if_neg hnone]
    exact hopeful_tally fun _ => trivial

end Operation

end Registrar
