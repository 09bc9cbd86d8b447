import Registrar.Proofs.Listing.Permitted
import Registrar.Proofs.Record.Permitted
import Registrar.Proofs.Sql.Parameters

/-!
# Parameters of the Statements

Which documents the service binds. A statement that only reads or removes has none: all
that a request says of the rows it means is written into the text. A statement that
writes has one, the record, however many columns it writes; an insertion of nothing but
defaults has nowhere to put even that.

`parameters_numbered` puts this beside the numbering of parameters in general, for any
catalog.

## Theorems

* `ListingPlan.params_eq_nil`, `Record.params_select`, `Record.params_deleteWhere`,
  `Record.params_delete`: Nothing is bound where nothing is written.
* `Record.params_insert`, `Record.params_update`: What is written is bound as one document.
* `parameters_numbered`: Placeholders and parameters of every text agree.
-/

namespace Registrar

open Sql

namespace Sql

theorem Text.params_ofPieces (pieces : List Piece) :
    (Text.ofPieces pieces).params = pieces.filterMap Piece.document? := by
  rw [ofPieces, appendAll_eq]
  exact List.nil_append _

/-- What a statement binds are its documents. -/
theorem Statement.params_text (statement : Statement) :
    statement.text.params = statement.documents :=
  (Text.params_ofPieces _).trans statement.documents_pieces

/-- Pieces whose documents would have a property that nothing has bind none. -/
theorem Guards.params_eq_nil {known : String → Prop} {pieces : List Piece}
    (h : Guards known (fun _ => False) pieces) : (Text.ofPieces pieces).params = [] := by
  rw [Text.params_ofPieces]
  exact List.eq_nil_iff_forall_not_mem.2 h.documents

/-- The same for an expression. -/
theorem Guards.documents_eq_nil {known : String → Prop} {pieces : List Piece}
    (h : Guards known (fun _ => False) pieces) :
    (contentsOf pieces).filterMap Content.document? = [] := by
  rw [documents_contentsOf]
  exact List.eq_nil_iff_forall_not_mem.2 h.documents

end Sql

/-- Every catalog knows all its names, if anything counts as known. -/
theorem Catalog.known_trivial (catalog : Catalog) : catalog.Known fun _ => True :=
  fun _ => ⟨trivial, trivial, trivial, trivial, fun _ _ => ⟨trivial, trivial⟩⟩

variable {catalog : Catalog} {collection : String}

/-- Both statements of a listing are without parameters. -/
theorem ListingPlan.params_eq_nil {restriction : Option Restriction} {params : Params}
    {plan : ListingPlan} (h : ofParams catalog collection restriction params = .ok plan) :
    plan.rows.text.params = [] ∧ plan.count.text.params = [] := by
  have hguards : Guards (fun _ => True) (fun _ => False) plan.rows.pieces ∧
      Guards (fun _ => True) (fun _ => False) plan.count.pieces :=
    guards_of_ofParams catalog.known_trivial (fun _ _ => trivial) h
  exact ⟨hguards.1.params_eq_nil, hguards.2.params_eq_nil⟩

namespace Record

variable {record : Record} {id : Int}

theorem params_select {select : Select} (h : Record.select catalog collection id = .ok select) :
    select.text.params = [] := by
  have hguards : Guards (fun _ => True) (fun _ => False) select.pieces :=
    guards_select catalog.known_trivial (fun _ _ => trivial) h
  exact hguards.params_eq_nil

theorem params_deleteWhere {values : List (String × Int)} {delete : Delete}
    (h : Record.deleteWhere catalog collection values = .ok delete) :
    (Statement.delete delete).text.params = [] := by
  have hguards : Guards (fun _ => True) (fun _ => False) (Statement.delete delete).pieces :=
    guards_deleteWhere catalog.known_trivial h
  exact hguards.params_eq_nil

theorem params_delete {delete : Delete} (h : Record.delete catalog collection id = .ok delete) :
    (Statement.delete delete).text.params = [] := by
  rcases bind_eq_ok_iff.1 h with ⟨listed, -, h⟩
  exact params_deleteWhere h

/-- The row that a record is unfolded into binds the record. -/
theorem documents_unfolded (listed : Listed) (record : Record) :
    (unfolded listed record).contents.filterMap Content.document? = [record.document] := by
  rw [unfolded, Source.unfolded]
  simp only [Source.contents, Expr.contentsOfAll, Expr.contents, Value.contents,
    TypeName.contents]
  rfl

/-- A selection from the row that a record is unfolded into binds the record. -/
theorem documents_selectPayload (listed : Listed) (record : Record) (columns : List String) :
    (Select.contents { Select.simple (columns.map fun key => (key, payloadColumn key)) with
      source := some (unfolded listed record) }).filterMap Content.document? =
        [record.document] := by
  -- The columns are taken from that row by name, and names are no documents.
  have hcolumns : (Expr.contentsOfAliased (columns.map fun key =>
      (key, payloadColumn key))).filterMap Content.document? = [] := by
    induction columns with
    | nil => rfl
    | cons key rest ih =>
        rw [List.map_cons, Expr.contentsOfAliased, List.filterMap_append, List.filterMap_cons, ih,
          payloadColumn, Expr.contents]
        rfl
  simp only [Select.simple, Select.contents, SelectList.contents, Source.contentsOfOption,
    Expr.«true», Expr.contents, Expr.contentsOfAll, Expr.contentsOfOrdered, Value.contents,
    List.filterMap_append, hcolumns, documents_unfolded]
  rfl

/-- An insertion binds the record if it has any of its columns, and else nothing. -/
theorem params_insert {insert : Insert} (h : Record.insert catalog collection record = .ok insert) :
    (insert.columns = [] ∧ insert.source = .defaults ∧
      (Statement.insert insert).text.params = []) ∨
    (insert.columns ≠ [] ∧ insert.source ≠ .defaults ∧
      (Statement.insert insert).text.params = [record.document]) := by
  rcases bind_eq_ok_iff.1 h with ⟨listed, hlisted, h⟩
  cases h
  have hknown := catalog.known_trivial hlisted
  -- What is handed back is a column of the table.
  have hreturning : (SelectList.columns [(insertedId, .castTo
      (.column (.table listed.table.schema listed.table.name) listed.table.primaryKey)
      keyType)]).contents.filterMap Content.document? = [] := by
    rw [← SelectList.contentsOf_pieces]
    exact (guards_returning hknown fun _ _ => trivial).documents_eq_nil
  have hnames : ((presentColumns listed record).map Content.name).filterMap Content.document? =
      [] := by
    rw [List.filterMap_map]
    exact List.filterMap_eq_nil_iff.2 fun _ _ => rfl
  rw [Statement.params_text, Statement.documents, Statement.contents, Insert.contents]
  simp only [List.filterMap_append, List.filterMap_cons, Content.document?, hreturning, hnames,
    List.append_nil, List.nil_append]
  by_cases hempty : (presentColumns listed record).isEmpty
  · refine Or.inl ⟨List.isEmpty_iff.1 hempty, if_pos hempty, ?_⟩
    rw [insertSource, if_pos hempty]
    rfl
  · have hsource : insertSource listed record = .select
        { Select.simple ((presentColumns listed record).map fun key => (key, payloadColumn key))
          with source := some (unfolded listed record) } := if_neg hempty
    refine Or.inr ⟨fun hnil => hempty (List.isEmpty_iff.2 hnil), ?_, ?_⟩
    · rw [hsource]
      intro hdefaults
      cases hdefaults
    · rw [hsource, InsertFrom.contents, documents_selectPayload]

/-- An update binds the record and nothing else. -/
theorem params_update {update : Update}
    (h : Record.update? catalog collection id record = .ok (some update)) :
    (Statement.update update).text.params = [record.document] := by
  rcases bind_eq_ok_iff.1 h with ⟨listed, hlisted, h⟩
  have hknown := catalog.known_trivial hlisted
  by_cases hempty : (presentColumns listed record).isEmpty
  · rw [if_pos hempty] at h
    exact nomatch h
  · rw [if_neg hempty] at h
    cases h
    -- What is set comes from the row that the record is unfolded into, by name.
    have hset : ((Sorted.ofList ((presentColumns listed record).map fun key =>
        (key, payloadColumn key))).entries.flatMap fun entry =>
          .name entry.1 :: entry.2.contents).filterMap Content.document? = [] := by
      rw [List.filterMap_flatMap]
      refine List.flatMap_eq_nil_iff.2 fun entry hentry => ?_
      rcases List.mem_map.1 (Sorted.mem_ofList hentry) with ⟨key, -, rfl⟩
      simp only [payloadColumn, Expr.contents]
      rfl
    have hcondition : (listed.keyIs id).contents.filterMap Content.document? = [] := by
      rw [← Expr.contentsOf_pieces]
      exact (hknown.guards_keyIs id).documents_eq_nil
    rw [Statement.params_text, Statement.documents, Statement.contents, Update.contents]
    simp only [List.filterMap_append, List.filterMap_cons, Content.document?, hset, hcondition,
      Source.contentsOfOption, documents_unfolded, List.append_nil, List.nil_append]

end Record

/-- In every text the placeholders and the parameters agree. A statement or an expression
    that is appended to a text leaves it as it is and numbers its own placeholders on from
    the parameters that are there; one that is written afresh numbers them from 1, and its
    parameters are its documents in their order. Listings, single reads and removals have
    no parameter, and writes have one, the record, unless they insert defaults only. -/
theorem parameters_numbered :
    (∀ (sql : Text) (statement : Statement),
      sql.Continues statement.documents (sql.appendAll statement.pieces)) ∧
    (∀ (sql : Text) (expr : Expr), sql.Continues expr.documents (sql.appendAll expr.pieces)) ∧
    (∀ statement : Statement, statement.text.Binds statement.documents) ∧
    (∀ expr : Expr, expr.text.Binds expr.documents) ∧
    (∀ catalog collection restriction params plan,
      ListingPlan.ofParams catalog collection restriction params = .ok plan →
        plan.rows.text.params = [] ∧ plan.count.text.params = []) ∧
    (∀ catalog collection id select, Record.select catalog collection id = .ok select →
      select.text.params = []) ∧
    (∀ catalog collection values delete,
      Record.deleteWhere catalog collection values = .ok delete →
        (Statement.delete delete).text.params = []) ∧
    (∀ catalog collection id delete, Record.delete catalog collection id = .ok delete →
      (Statement.delete delete).text.params = []) ∧
    (∀ catalog collection record insert, Record.insert catalog collection record = .ok insert →
      (insert.columns = [] ∧ insert.source = .defaults ∧
        (Statement.insert insert).text.params = []) ∨
      (insert.columns ≠ [] ∧ insert.source ≠ .defaults ∧
        (Statement.insert insert).text.params = [record.document])) ∧
    ∀ catalog collection id record update,
      Record.update? catalog collection id record = .ok (some update) →
        (Statement.update update).text.params = [record.document] := by
  refine ⟨Statement.continues, Expr.continues, fun statement => (statement.continues _).fresh,
    fun expr => (expr.continues _).fresh, ?_, ?_, ?_, ?_, ?_, ?_⟩
  · intro catalog collection restriction params plan h
    exact ListingPlan.params_eq_nil h
  · intro catalog collection id select h
    exact Record.params_select h
  · intro catalog collection values delete h
    exact Record.params_deleteWhere h
  · intro catalog collection id delete h
    exact Record.params_delete h
  · intro catalog collection record insert h
    exact Record.params_insert h
  · intro catalog collection id record update h
    exact Record.params_update h

/-- What looks like a placeholder in a value is none. -/
theorem parameters_numbered_update :
    ∃ update, Record.update? .builtin "groups" 7 (Sorted.ofList [("name", .string "$2")]) =
        .ok (some update) ∧
      (Statement.update update).text.params = [.object [("name", .string "$2")]] := by
  rcases parameters_numbered with ⟨-, -, -, -, -, -, -, -, -, hupdate⟩
  exact ⟨_, rfl, hupdate .builtin "groups" 7 (Sorted.ofList [("name", .string "$2")]) _ rfl⟩

end Registrar
