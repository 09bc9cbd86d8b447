import Registrar.Listing.Condition
import Registrar.Proofs.Catalog.Names
import Registrar.Proofs.Sql.Guarded
import Registrar.Proofs.Sql.Reading
import Registrar.Record.Statements

/-!
# Permitted Statements

What the service may say to the database. A text is permitted if it is read as guarded
tokens whose names are names of the built-in catalog or fixed aliases and types, and if
the documents bound to it are flat and written to a table that has all their members as
columns.

It does not matter for any of this what a statement is built from besides the catalog:
ids and documents are values.

## Main definitions

* `permittedNames`: The names that may occur in a statement.
* `written?`: The table that tokens write to.
* `Writes`: Tokens write a document to a table that has its members as columns.
* `Sql.Text.Permitted`: What the service may say.

## Theorems

* `not_mem_permittedNames_of_secret`: Secret columns are never named.
* `permitted_pieces`, `permitted_statement`, `permitted_select`: What is guarded is permitted.
* `Listed.Known.guards_column` and its like: The parts of a collection are guarded.
-/

namespace Registrar

open Sql

/-- The aliases and types that statements name besides what is in the catalog. -/
def fixedNames : List String :=
  [rowsAlias, rowAlias, payloadAlias, countAlias, Record.insertedId, Record.keyType, textType]

/-- The names that may occur in a statement. -/
def permittedNames : List String := Catalog.builtin.names ++ fixedNames

theorem not_mem_permittedNames_of_secret : ∀ value ∈ secretNames, value ∉ permittedNames := by
  intro value hsecret hmem
  have hfixed : ∀ value ∈ secretNames, value ∉ fixedNames := by decide
  -- Neither the catalog nor the list of fixed names has a secret one.
  rcases List.mem_append.1 hmem with hmem | hmem
  · exact Catalog.not_mem_names_of_secret value hsecret hmem
  · exact hfixed value hsecret hmem

theorem mem_permittedNames_of_fixed {value : String} (h : value ∈ fixedNames) :
    value ∈ permittedNames :=
  List.mem_append_right _ h

/-- The names of the built-in collections may occur in a statement. -/
theorem Catalog.builtin_permitted : builtin.Known (· ∈ permittedNames) :=
  fun h => (known_of_find h).mono fun _ => List.mem_append_left _

/-- Whether a document has no documents inside. -/
def Json.Document.isFlat : Json.Document → Bool
  | .array _ | .object _ => false
  | .null | .bool _ | .number _ | .string _ => true

/-- The schema and the table that tokens write to, if they insert or update. -/
def written? : List Token → Option (String × String)
  | .word "INSERT" :: .word "INTO" :: .name schema :: .mark "." :: .name table :: _
  | .word "UPDATE" :: .name schema :: .mark "." :: .name table :: _ => some (schema, table)
  | _ => none

/-- Tokens write a document to a built-in table: its members have no members themselves,
    and each is under the key of a column. -/
def Writes (tokens : List Token) (document : Json.Document) : Prop :=
  ∃ entry ∈ Catalog.builtin.tables.entries, ∃ members,
    written? tokens = some (entry.2.schema, entry.2.name) ∧ document = .object members ∧
      ∀ member ∈ members, (entry.2.column? member.1).isSome ∧ member.2.isFlat

/-- What the service may say: however the server reads backslashes, the text is read as
    guarded tokens, with permitted names only, and they write the documents. -/
def Sql.Text.Permitted (sql : Sql.Text) : Prop :=
  ∃ tokens, (∀ standard, Scanner.tokens standard sql.text = some tokens) ∧
    Guarded (· ∈ permittedNames) tokens ∧ ∀ document ∈ sql.params, Writes tokens document

/-- A text is permitted if its pieces are guarded and write their documents. -/
theorem permitted_pieces {pieces : List Piece} (hphrase : Phrase pieces)
    (h : Guards (· ∈ permittedNames) (Writes (tokensFrom 0 pieces)) pieces) :
    (Text.ofPieces pieces).Permitted := by
  refine ⟨tokensFrom 0 pieces, hphrase.cut, h.tokens 0, ?_⟩
  intro document hmem
  rw [Text.ofPieces, Text.appendAll_eq] at hmem
  exact h.documents document hmem

theorem permitted_statement {statement : Statement}
    (h : Guards (· ∈ permittedNames) (Writes (tokensFrom 0 statement.pieces)) statement.pieces) :
    statement.text.Permitted :=
  permitted_pieces statement.phrase h

/-- A selection binds no documents. -/
theorem permitted_select {select : Select}
    (h : Guards (· ∈ permittedNames) (fun _ => False) select.pieces) : select.text.Permitted := by
  have hstatement : (Statement.select select).text.Permitted :=
    permitted_statement ⟨h.tokens, fun document hmem => (h.documents document hmem).elim⟩
  exact hstatement

/-- A removal binds no documents. -/
theorem permitted_delete {delete : Delete}
    (h : Guards (· ∈ permittedNames) (fun _ => False) delete.pieces) :
    (Statement.delete delete).text.Permitted :=
  permitted_statement ⟨h.tokens, fun document hmem => (h.documents document hmem).elim⟩

namespace Listed.Known

variable {known : String → Prop} {bound : Json.Document → Prop} {listed : Listed}

theorem guards_source (h : listed.Known known) : Guards known bound listed.source.pieces :=
  Guards.sourceTable h.schema h.table h.collection

theorem guards_column {name : String} (h : listed.Known known) (hname : known name) :
    Guards known bound (listed.column name).pieces :=
  Guards.column h.collection hname

theorem guards_columnIs {name : String} (h : listed.Known known) (hname : known name)
    (value : Int) : Guards known bound (listed.columnIs name value).pieces :=
  Guards.binary _ (h.guards_column hname) (Guards.int value)

theorem guards_keyIs (h : listed.Known known) (id : Int) :
    Guards known bound (listed.keyIs id).pieces :=
  h.guards_columnIs h.primaryKey id

theorem columnName {column : Column} (h : listed.Known known)
    (hmem : column ∈ listed.table.columns.values) : known column.name := by
  rcases List.mem_map.1 hmem with ⟨entry, hentry, rfl⟩
  exact (h.columns entry hentry).2

/-- Only columns of the catalog are projected, each under its own name. -/
theorem guards_projection (h : listed.Known known) :
    Guards known bound (SelectList.columns listed.projection).pieces := by
  refine Guards.columns fun entry hentry => ?_
  rcases List.mem_map.1 hentry with ⟨column, hcolumn, rfl⟩
  exact ⟨h.columnName hcolumn, h.guards_column (h.columnName hcolumn)⟩

end Listed.Known

end Registrar
