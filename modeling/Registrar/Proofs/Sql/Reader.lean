import Registrar.Proofs.Sql.Significant

/-!
# Readers

A reader takes pieces off the front of a list and makes something of them. What is written
after one another is read by readers after one another, and what may be left out is looked
for first. That works as long as what follows cannot be taken for a continuation, so every
statement about a reader says what may follow the pieces that it takes off.

## Main definitions

* `Reader`: A reader.
* `Reader.ifWord`, `Reader.ifMark`: Read one thing or another.
* `Reader.separated`: Read a list with commas in it.
* `Reads`: A reader makes something of pieces, if what follows them is right.

## Theorems

* `Reads.bind`: One reader after another.
* `reads_ifWord`, `reads_ifWord_not` and their like: What may be left out.
* `reads_separated`: A list is read if its items are.
-/

namespace Registrar

namespace Sql

/-- A reader takes pieces off the front of a list. -/
abbrev Reader (α : Type) := StateT (List Piece) Option α

/-- Whether pieces begin with a word. -/
def beginsWithWord (letters : String) : List Piece → Bool
  | .word found :: _ => found = letters
  | _ => false

/-- Whether pieces begin with a mark. -/
def beginsWithMark (symbol : String) : List Piece → Bool
  | .mark found :: _ => found = symbol
  | _ => false

namespace Reader

variable {α : Type}

/-- Read nothing. -/
def fail : Reader α := fun _ => none

/-- Read a word. -/
def word (letters : String) : Reader Unit := fun pieces =>
  if beginsWithWord letters pieces then some ((), pieces.tail) else none

/-- Read a mark. -/
def mark (symbol : String) : Reader Unit := fun pieces =>
  if beginsWithMark symbol pieces then some ((), pieces.tail) else none

/-- Read a name. -/
def name : Reader String
  | .name value :: rest => some (value, rest)
  | _ => none

/-- Read a number of rows. -/
def number : Reader Nat
  | .integer value :: rest => some (value.toNat, rest)
  | _ => none

/-- Read what comes after a word if the word is there, and something else if not. -/
def ifWord (letters : String) (present absent : Reader α) : Reader α := fun pieces =>
  if beginsWithWord letters pieces then present pieces.tail else absent pieces

/-- Read what comes after a mark if the mark is there, and something else if not. -/
def ifMark (symbol : String) (present absent : Reader α) : Reader α := fun pieces =>
  if beginsWithMark symbol pieces then present pieces.tail else absent pieces

/-- Read items with commas between them, as many as the given number at most. -/
def separated (item : Reader α) : Nat → Reader (List α)
  | 0 => fail
  | n + 1 => do
    let first ← item
    let more ← ifMark "," (separated item n) (pure [])
    pure (first :: more)

end Reader

/-- A reader makes something of pieces, and leaves alone what follows if that is right. -/
def Reads {α : Type} (follow : List Piece → Prop) (reader : Reader α) (pieces : List Piece)
    (a : α) : Prop :=
  ∀ rest, follow rest → reader (pieces ++ rest) = some (a, rest)

section Reads

variable {α β γ : Type} {follow follow' : List Piece → Prop} {pieces pieces' : List Piece}

theorem Reads.mono {reader : Reader α} {a : α} (h : Reads follow reader pieces a)
    (hfollow : ∀ rest, follow' rest → follow rest) : Reads follow' reader pieces a :=
  fun rest hrest => h rest (hfollow rest hrest)

theorem reads_pure (a : α) : Reads follow (pure a) [] a :=
  fun _ _ => rfl

/-- One reader after another reads what is written after one another. -/
theorem Reads.bind {first : Reader α} {next : α → Reader β} {a : α} {b : β}
    (h : Reads follow first pieces a) (hnext : Reads follow' (next a) pieces' b)
    (hfollow : ∀ rest, follow' rest → follow (pieces' ++ rest)) :
    Reads follow' (first >>= next) (pieces ++ pieces') b := by
  intro rest hrest
  have hfirst := h _ (hfollow rest hrest)
  have hsecond := hnext rest hrest
  rw [List.append_assoc]
  simp only [Bind.bind, StateT.bind, hfirst, Option.bind_some, hsecond]

/-- What a reader makes of pieces may be looked at by a reader that takes off nothing. -/
theorem Reads.check {reader : Reader α} {next : α → Reader β} {a : α} {b : β}
    (h : Reads follow reader pieces a) (hnext : Reads follow (next a) [] b) :
    Reads follow (reader >>= next) pieces b := by
  have hboth : Reads follow (reader >>= next) (pieces ++ []) b := h.bind hnext fun _ hrest => hrest
  rw [List.append_nil] at hboth
  exact hboth

/-- What a reader makes of pieces may be made into something else. -/
theorem Reads.pure {reader : Reader α} {a : α} (h : Reads follow reader pieces a)
    (f : α → β) : Reads follow (reader >>= fun a => Pure.pure (f a)) pieces (f a) :=
  h.check (reads_pure (f a))

theorem reads_word (letters : String) : Reads follow (Reader.word letters) [.word letters] () := by
  intro rest _
  rw [Reader.word, List.singleton_append, beginsWithWord, if_pos (decide_eq_true rfl),
    List.tail_cons]

theorem reads_mark (symbol : String) : Reads follow (Reader.mark symbol) [.mark symbol] () := by
  intro rest _
  rw [Reader.mark, List.singleton_append, beginsWithMark, if_pos (decide_eq_true rfl),
    List.tail_cons]

theorem reads_name (value : String) : Reads follow Reader.name [.name value] value :=
  fun _ _ => rfl

theorem reads_number (n : Nat) : Reads follow Reader.number [.integer n] n :=
  fun _ _ => rfl

variable {next : Reader α} {a : α}

/-- A word is read before anything. -/
theorem Reads.afterWord {letters : String} (h : Reads follow next pieces a) :
    Reads follow (do
      Reader.word letters
      next) (.word letters :: pieces) a :=
  Reads.bind (reads_word letters : Reads (fun _ => True) _ _ _) h fun _ _ => trivial

/-- A mark is read before anything. -/
theorem Reads.afterMark {symbol : String} (h : Reads follow next pieces a) :
    Reads follow (do
      Reader.mark symbol
      next) (.mark symbol :: pieces) a :=
  Reads.bind (reads_mark symbol : Reads (fun _ => True) _ _ _) h fun _ _ => trivial

/-- A name is read before anything. -/
theorem Reads.afterName {value : String} {next : String → Reader α}
    (h : Reads follow (next value) pieces a) :
    Reads follow (Reader.name >>= next) (.name value :: pieces) a :=
  Reads.bind (reads_name value : Reads (fun _ => True) _ _ _) h fun _ _ => trivial

/-- A mark at the end is read after anything. -/
theorem Reads.beforeMark {reader : Reader β} {b : β} {symbol : String}
    (h : Reads follow' reader pieces b) (f : β → α)
    (hfollow : ∀ rest, follow' (.mark symbol :: rest)) :
    Reads follow (do
      let b ← reader
      Reader.mark symbol
      Pure.pure (f b)) (pieces ++ [.mark symbol]) (f b) :=
  h.bind (reads_pure _).afterMark fun _ _ => hfollow _

variable {absent : Reader α}

theorem reads_ifWord {letters : String} (h : Reads follow next pieces a) :
    Reads follow (Reader.ifWord letters next absent) (.word letters :: pieces) a := by
  intro rest hrest
  rw [Reader.ifWord, List.cons_append, beginsWithWord, if_pos (decide_eq_true rfl),
    List.tail_cons]
  exact h rest hrest

theorem reads_ifWord_not {letters : String} (h : Reads follow absent pieces a)
    (hnot : ∀ rest, follow rest → beginsWithWord letters (pieces ++ rest) = false) :
    Reads follow (Reader.ifWord letters next absent) pieces a := by
  intro rest hrest
  rw [Reader.ifWord, hnot rest hrest]
  exact h rest hrest

theorem reads_ifMark {symbol : String} (h : Reads follow next pieces a) :
    Reads follow (Reader.ifMark symbol next absent) (.mark symbol :: pieces) a := by
  intro rest hrest
  rw [Reader.ifMark, List.cons_append, beginsWithMark, if_pos (decide_eq_true rfl),
    List.tail_cons]
  exact h rest hrest

theorem reads_ifMark_not {symbol : String} (h : Reads follow absent pieces a)
    (hnot : ∀ rest, follow rest → beginsWithMark symbol (pieces ++ rest) = false) :
    Reads follow (Reader.ifMark symbol next absent) pieces a := by
  intro rest hrest
  rw [Reader.ifMark, hnot rest hrest]
  exact h rest hrest

/-- A list is read if its items are, each before a comma as well as at the end. -/
theorem reads_separated {item : Reader α} {written : γ → List Piece} {meant : γ → α}
    {items : List γ} (hitem : ∀ x ∈ items, Reads follow item (written x) (meant x))
    (hcomma : ∀ rest, follow (.mark "," :: rest))
    (hfollow : ∀ rest, follow' rest → follow rest ∧ beginsWithMark "," rest = false)
    (hne : items ≠ []) {n : Nat} (hlength : items.length ≤ n) :
    Reads follow' (Reader.separated item n) (punctuated (items.map written))
      (items.map meant) := by
  induction items generalizing n with
  | nil => exact absurd rfl hne
  | cons first items ih =>
      rcases n with _ | n
      · exact absurd hlength (Nat.not_succ_le_zero _)
      · have hfirst := hitem first List.mem_cons_self
        cases items with
        | nil =>
            -- The last item is followed by what follows the list.
            have hmore : Reads follow'
                (Reader.ifMark "," (Reader.separated item n) (pure [])) [] [] :=
              reads_ifMark_not (reads_pure []) fun rest hrest => (hfollow rest hrest).2
            have hpieces : punctuated ([first].map written) = written first ++ [] :=
              (List.append_nil _).symm
            rw [Reader.separated, hpieces]
            exact hfirst.bind (hmore.pure _) fun rest hrest => (hfollow rest hrest).1
        | cons second items =>
            have hrest := ih (fun x hx => hitem x (List.mem_cons_of_mem _ hx))
              (List.cons_ne_nil _ _) (Nat.le_of_succ_le_succ hlength)
            have hmore : Reads follow' (Reader.ifMark "," (Reader.separated item n) (pure []))
                (.mark "," :: punctuated ((second :: items).map written))
                ((second :: items).map meant) := reads_ifMark hrest
            rw [Reader.separated]
            exact hfirst.bind (hmore.pure _) fun rest _ => hcomma _

/-- Read a whole text. -/
def Reader.whole (reader : Reader α) (sql : Text) : Option α := do
  let pieces ← sql.pieces?
  match reader pieces with
  | some (a, []) => some a
  | _ => none

/-- The text of a phrase is read if its significant pieces are, with nothing after them. -/
theorem Reads.whole {reader : Reader α} (h : Reads follow reader (significant pieces) a)
    (hphrase : Phrase pieces) (hfollow : follow []) :
    reader.whole (Text.ofPieces pieces) = some a := by
  have hread := h [] hfollow
  rw [List.append_nil] at hread
  rw [Reader.whole, hphrase.pieces?_ofPieces, Option.bind_eq_bind, Option.bind_some, hread]

end Reads

end Sql

end Registrar
