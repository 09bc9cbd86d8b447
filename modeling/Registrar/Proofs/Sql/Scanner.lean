import Registrar.Sql.Text

/-!
# Cutting a Text into Tokens

How PostgreSQL cuts a statement into tokens, as a machine that takes one
character at a time. It is the other side of `Sql.Text`: that module quotes what
it appends, this one takes quoted text apart, and knows nothing of how a text
was put together.

A name stands in double quotes, a string in single ones, and a doubled quote
inside stands for one. In a string that begins with `E'` a doubled backslash
stands for one too. Whether the same holds in a plain string depends on a setting
of the server, which is a parameter here: with standard strings a backslash is an
ordinary character.

What the server's own lexer looks at besides is left aside: how long a name is, that
it is not empty, and that no character has the code zero. A text that would be
refused there is cut here like any other.

The machine is deliberately partial. Comments, line breaks between tokens, which
can join two strings, dollar quotes, prefixed strings other than `E'…'`, other
escapes than the doubled ones, decimal numbers, and marks that could run together
with their neighbours are not cut at all. So whenever it does give tokens, none of
those rules had a say.

## Main definitions

* `Token`: A token, with its content decoded.
* `Scanner.Mode`: What is being read.
* `Scanner.run`: Read a text to its end.
* `Scanner.tokens`: The tokens of a text.

## Theorems

* `Scanner.run_of_settled`: A token that is complete is handed out as soon as a
  blank, a comma or a parenthesis follows.
* `Scanner.run_quoteName`: A quoted name is read as that name.
* `Scanner.run_quoteLiteral`: A quoted string is read as that string, whatever the
  setting.
-/

namespace Registrar

namespace Sql

/-- A token of a statement. Names and strings are decoded; words and marks stand as
    they are written. -/
inductive Token
  | word (letters : String)
  | mark (symbol : String)
  | number (value : Nat)
  | name (value : String)
  | literal (value : String)
  | param (index : Nat)
  deriving DecidableEq, Repr

namespace Scanner

/-- What is being read. A name or a string may be over at its closing quote, but
    only the next character tells. -/
inductive Mode
  | between
  | word (letters : List Char)
  | dollar
  | digits (placeholder : Bool) (value : Nat)
  | bracket (symbol : Char)
  | point
  | operator (symbols : List Char)
  | name (content : List Char)
  | nameQuote (content : List Char)
  | literal (escapes : Bool) (content : List Char)
  | literalQuote (escapes : Bool) (content : List Char)
  | backslash (content : List Char)
  | broken
  deriving DecidableEq, Repr

/-- Whether a word can begin with a character. -/
def isLetter (c : Char) : Bool :=
  c.isAlpha || c = '_' || 128 ≤ c.toNat

/-- Whether a character can occur inside a word. -/
def isWordChar (c : Char) : Bool :=
  isLetter c || c.isDigit || c = '$'

/-- Whether a text is a single word. -/
def isWord : List Char → Bool
  | [] => false
  | c :: rest => !c.isDigit && isLetter c && rest.all isWordChar

/-- Whether a character stands for itself, next to whatever it stands. -/
def isBracket (c : Char) : Bool :=
  c ∈ ['(', ')', '[', ']', ',', ';']

/-- Whether operators are made of a character. -/
def isOperatorChar (c : Char) : Bool :=
  c ∈ ['+', '-', '*', '/', '<', '>', '=', '~', '!', '@', '#', '%', '^', '&', '|', '?']

/-- The operators that are cut. A run of operator characters counts as a whole, so
    that no comment and no other operator passes for two of these. -/
def operators : List (List Char) :=
  [['='], ['<'], ['>'], ['+'], ['-'], ['*'], ['/'], ['%'], ['<', '>'], ['<', '='], ['>', '=']]

/-- A number with one more digit. -/
def withDigit (value : Nat) (c : Char) : Nat :=
  10 * value + (c.toNat - '0'.toNat)

/-- What a character begins after a complete token. -/
def begin? (standard : Bool) (c : Char) : Option Mode :=
  if c.isDigit then some (.digits false (withDigit 0 c))
  else if isLetter c then some (.word [c])
  else if c = ' ' then some .between
  else if c = '"' then some (.name [])
  else if c = '\'' then some (.literal (!standard) [])
  else if c = '$' then some .dollar
  else if c = '.' then some .point
  else if isBracket c then some (.bracket c)
  else if isOperatorChar c then some (.operator [c])
  else none

/-- What is being read after one more character, if the character belongs to it. -/
def extend? : Mode → Char → Option Mode
  | .between, _ | .bracket _, _ | .broken, _ => none
  | .word letters, c =>
    if isWordChar c then some (.word (letters ++ [c]))
    else if c = '\'' then
      if letters = ['E'] ∨ letters = ['e'] then some (.literal true []) else some .broken
    else none
  | .dollar, c => if c.isDigit then some (.digits true (withDigit 0 c)) else none
  | .digits placeholder value, c =>
    if c.isDigit then some (.digits placeholder (withDigit value c))
    else if isWordChar c ∨ c = '.' then some .broken
    else none
  | .point, c => if c.isDigit ∨ c = '.' then some .broken else none
  | .operator symbols, c =>
    if isOperatorChar c then some (.operator (symbols ++ [c])) else none
  | .name content, c =>
    if c = '"' then some (.nameQuote content) else some (.name (content ++ [c]))
  | .nameQuote content, c => if c = '"' then some (.name (content ++ ['"'])) else none
  | .literal escapes content, c =>
    if c = '\'' then some (.literalQuote escapes content)
    else if escapes ∧ c = '\\' then some (.backslash content)
    else some (.literal escapes (content ++ [c]))
  | .literalQuote escapes content, c =>
    if c = '\'' then some (.literal escapes (content ++ ['\''])) else none
  | .backslash content, c =>
    if c = '\\' then some (.literal true (content ++ ['\\'])) else some .broken

/-- The tokens that what is being read amounts to, if it can be over. -/
def finish? : Mode → Option (List Token)
  | .between => some []
  | .word letters => some [.word (String.ofList letters)]
  | .digits false value => some [.number value]
  | .digits true value => some [.param value]
  | .bracket symbol => some [.mark (String.ofList [symbol])]
  | .point => some [.mark "."]
  | .operator symbols =>
    if symbols ∈ operators then some [.mark (String.ofList symbols)] else none
  | .nameQuote content => some [.name (String.ofList content)]
  | .literalQuote _ content => some [.literal (String.ofList content)]
  | .dollar | .name _ | .literal _ _ | .backslash _ | .broken => none

/-- Read on to the end of a text. -/
def run (standard : Bool) : Mode → List Char → Option (List Token)
  | mode, [] => finish? mode
  | mode, c :: rest =>
    match extend? mode c with
    | some next => run standard next rest
    | none =>
      match finish? mode, begin? standard c with
      | some done, some next => (run standard next rest).map (done ++ ·)
      | _, _ => none

/-- The tokens of a text, given whether the server has standard strings. -/
def tokens (standard : Bool) (text : String) : Option (List Token) :=
  run standard .between text.toList

/-- Whether a text ends whatever stands before it, unless that is still open. -/
def delimits : List Char → Bool
  | [] => true
  | c :: _ => c ∈ [' ', ',', '(', ')']

variable {standard : Bool}

/-- One character that belongs to what is being read. -/
theorem run_extend {mode next : Mode} {c : Char} (rest : List Char)
    (h : extend? mode c = some next) : run standard mode (c :: rest) = run standard next rest := by
  rw [run, h]

/-- One character after a blank, or at the beginning. -/
theorem run_begin {next : Mode} {c : Char} (rest : List Char)
    (h : begin? standard c = some next) :
    run standard .between (c :: rest) = run standard next rest := by
  rw [run, extend?, finish?, h]
  exact Option.map_id'

/-- A complete token is handed out as soon as a character comes that does not belong
    to it. -/
theorem run_of_complete {mode : Mode} {done : List Token} {c : Char} (rest : List Char)
    (hdone : finish? mode = some done) (hc : extend? mode c = none) :
    run standard mode (c :: rest) =
      (run standard .between (c :: rest)).map (done ++ ·) := by
  rw [run, run, hc, hdone, extend?, finish?]
  cases begin? standard c with
  | none => rfl
  | some next =>
      simp only [Option.map_map, List.nil_append]
      rfl

/-- What is being read is complete, and no delimiter continues it. -/
def Settled (mode : Mode) (done : List Token) : Prop :=
  finish? mode = some done ∧ ∀ c ∈ [' ', ',', '(', ')'], extend? mode c = none

/-- A complete token is handed out where the text goes on with a delimiter, and the
    rest is read as if it stood alone. -/
theorem run_of_settled {mode : Mode} {done : List Token} {rest : List Char}
    (hmode : Settled mode done) (hrest : delimits rest) :
    run standard mode rest = (run standard .between rest).map (done ++ ·) := by
  -- At the end of the text there is nothing that could continue the token.
  rcases rest with _ | ⟨c, rest⟩
  · rw [run, run, hmode.1, finish?, Option.map_some, List.append_nil]
  · have hc : c ∈ [' ', ',', '(', ')'] := by simpa only [delimits, decide_eq_true_eq] using hrest
    exact run_of_complete rest hmode.1 (hmode.2 c hc)

/-- A bracket or a comma is a token whatever comes after it. -/
theorem run_bracket (symbol : Char) (rest : List Char) :
    run standard (.bracket symbol) rest =
      (run standard .between rest).map (.mark (String.ofList [symbol]) :: ·) := by
  rcases rest with _ | ⟨c, rest⟩
  · rfl
  · have hnone : extend? (.bracket symbol) c = none := by rw [extend?]
    exact run_of_complete rest rfl hnone

/-- A delimiter belongs to no token that can be complete. -/
theorem of_mem_delimiters : ∀ c ∈ [' ', ',', '(', ')'], isWordChar c = false ∧
    c.isDigit = false ∧ isOperatorChar c = false ∧ c ≠ '\'' ∧ c ≠ '"' ∧ c ≠ '.' := by
  intro c hc
  simp only [List.mem_cons, List.not_mem_nil, or_false] at hc
  rcases hc with rfl | rfl | rfl | rfl <;> decide

theorem settled_word (letters : List Char) :
    Settled (.word letters) [.word (String.ofList letters)] := by
  refine ⟨rfl, fun c hc => ?_⟩
  rcases of_mem_delimiters c hc with ⟨hword, -, -, hquote, -⟩
  rw [extend?, if_neg (by rw [hword]; exact Bool.false_ne_true), if_neg hquote]

theorem settled_digits (placeholder : Bool) (value : Nat) :
    Settled (.digits placeholder value)
      [if placeholder then .param value else .number value] := by
  refine ⟨by cases placeholder <;> rfl, fun c hc => ?_⟩
  rcases of_mem_delimiters c hc with ⟨hword, hdigit, -, -, -, hpoint⟩
  have hnone : ¬(isWordChar c ∨ c = '.') := by
    rw [hword]
    exact not_or.2 ⟨Bool.false_ne_true, hpoint⟩
  rw [extend?, if_neg (by rw [hdigit]; exact Bool.false_ne_true), if_neg hnone]

theorem settled_operator {symbols : List Char} (h : symbols ∈ operators) :
    Settled (.operator symbols) [.mark (String.ofList symbols)] := by
  refine ⟨if_pos h, fun c hc => if_neg ?_⟩
  rw [(of_mem_delimiters c hc).2.2.1]
  exact Bool.false_ne_true

theorem settled_nameQuote (content : List Char) :
    Settled (.nameQuote content) [.name (String.ofList content)] :=
  ⟨rfl, fun c hc => if_neg (of_mem_delimiters c hc).2.2.2.2.1⟩

theorem settled_literalQuote (escapes : Bool) (content : List Char) :
    Settled (.literalQuote escapes content) [.literal (String.ofList content)] :=
  ⟨rfl, fun c hc => if_neg (of_mem_delimiters c hc).2.2.2.1⟩

/-- A word takes up all characters of words that follow. -/
theorem run_wordChars {letters : List Char} (h : letters.all isWordChar) (before rest : List Char) :
    run standard (.word before) (letters ++ rest) =
      run standard (.word (before ++ letters)) rest := by
  -- What was read so far is a variable, because it grows with every step.
  induction letters generalizing before with
  | nil => rw [List.nil_append, List.append_nil]
  | cons c letters ih =>
      rw [List.all_cons, Bool.and_eq_true] at h
      have hstep : extend? (.word before) c = some (.word (before ++ [c])) := if_pos h.1
      rw [List.cons_append, run_extend _ hstep, ih h.2, List.append_assoc, List.singleton_append]

/-- A word is read as that word. -/
theorem run_word {letters : List Char} (h : isWord letters) (rest : List Char) :
    run standard .between (letters ++ rest) = run standard (.word letters) rest := by
  rcases letters with _ | ⟨c, letters⟩
  · exact absurd h Bool.false_ne_true
  · simp only [isWord, Bool.and_eq_true, Bool.not_eq_true'] at h
    have hbegin : begin? standard c = some (.word [c]) := by
      rw [begin?, h.1.1, if_neg Bool.false_ne_true, if_pos h.1.2]
    rw [List.cons_append, run_begin _ hbegin, run_wordChars h.2, List.singleton_append]

/-- A number takes up all digits that follow. -/
theorem run_digits {digits : List Char} (h : ∀ c ∈ digits, c.isDigit) (placeholder : Bool)
    (value : Nat) (rest : List Char) :
    run standard (.digits placeholder value) (digits ++ rest) =
      run standard (.digits placeholder (Nat.ofDigitChars 10 digits value)) rest := by
  induction digits generalizing value with
  | nil => rw [List.nil_append, Nat.ofDigitChars_nil]
  | cons c digits ih =>
      have hstep : extend? (.digits placeholder value) c =
          some (.digits placeholder (withDigit value c)) := if_pos (h c List.mem_cons_self)
      rw [List.cons_append, run_extend _ hstep, ih (fun d hd => h d (List.mem_cons_of_mem _ hd)),
        Nat.ofDigitChars_cons, withDigit]

/-- Inside a string every character but the two special ones stands for itself. -/
theorem extend_literal (escapes : Bool) {c : Char} (hquote : c ≠ '\'') (hslash : c ≠ '\\')
    (content : List Char) :
    extend? (.literal escapes content) c = some (.literal escapes (content ++ [c])) := by
  have hboth : ¬(escapes = true ∧ c = '\\') := fun h => hslash h.2
  rw [extend?, if_neg hquote, if_neg hboth]

/-- Nothing in a name ends it, the quotes inside being doubled. -/
theorem run_nameContent (standard : Bool) (content before rest : List Char) :
    run standard (.name before) (doubled '"' content ++ '"' :: rest) =
      run standard (.nameQuote (before ++ content)) rest := by
  induction content generalizing before with
  | nil => rw [doubled_nil, List.nil_append, List.append_nil, run_extend _ rfl]
  | cons c content ih =>
      have hrest := ih (before ++ [c])
      rw [List.append_assoc, List.singleton_append] at hrest
      rw [← hrest]
      -- A quote stands twice, which the machine reads as one; the rest stands once.
      by_cases hc : c = '"'
      · rw [hc, doubled_cons_self, List.cons_append, List.cons_append, run_extend _ rfl,
          run_extend _ rfl]
      · have hstep : extend? (.name before) c = some (.name (before ++ [c])) := if_neg hc
        rw [doubled_cons_of_ne hc, List.cons_append, run_extend _ hstep]

/-- Nothing in a string without backslashes ends it, whether or not backslashes would
    be special. -/
theorem run_plainContent (standard escapes : Bool) (content before rest : List Char)
    (h : '\\' ∉ content) :
    run standard (.literal escapes before) (doubled '\'' content ++ '\'' :: rest) =
      run standard (.literalQuote escapes (before ++ content)) rest := by
  induction content generalizing before with
  | nil => rw [doubled_nil, List.nil_append, List.append_nil, run_extend _ rfl]
  | cons c content ih =>
      rw [List.mem_cons, not_or] at h
      have hrest := ih (before ++ [c]) h.2
      rw [List.append_assoc, List.singleton_append] at hrest
      rw [← hrest]
      -- Without backslashes it does not matter whether they would be special.
      by_cases hc : c = '\''
      · rw [hc, doubled_cons_self, List.cons_append, List.cons_append, run_extend _ rfl,
          run_extend _ rfl]
      · have hstep := extend_literal escapes hc (Ne.symm h.1) before
        rw [doubled_cons_of_ne hc, List.cons_append, run_extend _ hstep]

/-- Nothing in an escape string ends it, quotes and then backslashes being doubled. -/
theorem run_escapedContent (standard : Bool) (content before rest : List Char) :
    run standard (.literal true before)
        (doubled '\\' (doubled '\'' content) ++ '\'' :: rest) =
      run standard (.literalQuote true (before ++ content)) rest := by
  have hne : '\'' ≠ '\\' := by decide
  induction content generalizing before with
  | nil => rw [doubled_nil, doubled_nil, List.nil_append, List.append_nil, run_extend _ rfl]
  | cons c content ih =>
      have hrest := ih (before ++ [c])
      rw [List.append_assoc, List.singleton_append] at hrest
      rw [← hrest]
      -- The quote is doubled first, and no backslash comes of it, so the two doublings
      -- do not get in each other's way.
      by_cases hquote : c = '\''
      · rw [hquote, doubled_cons_self, doubled_cons_of_ne hne, doubled_cons_of_ne hne,
          List.cons_append, List.cons_append, run_extend _ rfl, run_extend _ rfl]
      · rw [doubled_cons_of_ne hquote]
        by_cases hslash : c = '\\'
        · rw [hslash, doubled_cons_self, List.cons_append, List.cons_append, run_extend _ rfl,
            run_extend _ rfl]
        · rw [doubled_cons_of_ne hslash, List.cons_append,
            run_extend _ (extend_literal true hquote hslash before)]

/-- A quoted name is read as that name. -/
theorem run_quoteName (value : String) (rest : List Char) :
    run standard .between ((quoteName value).toList ++ rest) =
      run standard (.nameQuote value.toList) rest := by
  have hcontent := run_nameContent standard value.toList [] rest
  have hquote : begin? standard '"' = some (.name []) := rfl
  simp only [quoteName, String.toList_ofList, List.cons_append, List.append_assoc, List.nil_append]
  rw [run_begin _ hquote, hcontent, List.nil_append]

/-- A point between two names is a token of its own, and so is the name before
    it. -/
theorem run_point (standard : Bool) (value next : String) (rest : List Char) :
    run standard .between ((quoteName value).toList ++ '.' :: ((quoteName next).toList ++ rest)) =
      (run standard .between ((quoteName next).toList ++ rest)).map
        ([.name value, .mark "."] ++ ·) := by
  have hdone : finish? (.nameQuote value.toList) = some [.name value] := by
    rw [finish?, String.ofList_toList]
  have hpoint : begin? standard '.' = some .point := rfl
  have hnext : (quoteName next).toList = '"' :: (doubled '"' next.toList ++ ['"']) := by
    rw [quoteName, String.toList_ofList, List.cons_append]
  rw [run_quoteName, run_of_complete _ hdone rfl, run_begin _ hpoint, hnext, List.cons_append,
    run_of_complete _ (rfl : finish? .point = some [.mark "."]) rfl, Option.map_map]
  rfl

/-- A quoted string is read as that string. The setting of the server does not
    matter, because a backslash only occurs in an escape string. -/
theorem run_quoteLiteral (standard : Bool) (value : String) (rest : List Char) :
    ∃ escapes, run standard .between ((quoteLiteral value).toList ++ rest) =
      run standard (.literalQuote escapes value.toList) rest := by
  rw [quoteLiteral]
  by_cases hslash : '\\' ∈ doubled '\'' value.toList
  · -- A backslash makes it an escape string, whatever the setting.
    have hcontent := run_escapedContent standard value.toList [] rest
    have hletter : begin? standard 'E' = some (.word ['E']) := rfl
    have hquote : extend? (.word ['E']) '\'' = some (.literal true []) := rfl
    refine ⟨true, ?_⟩
    simp only [if_pos hslash, String.toList_ofList, List.cons_append, List.append_assoc,
      List.nil_append]
    rw [run_begin _ hletter, run_extend _ hquote, hcontent, List.nil_append]
  · -- Without one the setting decides on the mode, and the mode does not matter.
    have hcontent := run_plainContent standard (!standard) value.toList [] rest
      (fun hmem => hslash (mem_doubled_iff.2 hmem))
    have hquote : begin? standard '\'' = some (.literal (!standard) []) := rfl
    refine ⟨!standard, ?_⟩
    simp only [if_neg hslash, String.toList_ofList, List.cons_append, List.append_assoc,
      List.nil_append]
    rw [run_begin _ hquote, hcontent, List.nil_append]

/-- A minus before a number is a token of its own, because no digit belongs to an
    operator. -/
theorem run_minus (value : Nat) (rest : List Char) :
    run standard .between ('-' :: (value.repr.toList ++ rest)) =
      (run standard .between (value.repr.toList ++ rest)).map (.mark "-" :: ·) := by
  have hminus : begin? standard '-' = some (.operator ['-']) := rfl
  have hdone : finish? (.operator ['-']) = some [.mark "-"] := rfl
  rw [Nat.toList_repr]
  rcases hcs : Nat.toDigits 10 value with _ | ⟨c, digits⟩
  · exact absurd hcs Nat.toDigits_ne_nil
  · have hdigit : c.isDigit :=
      Nat.isDigit_of_mem_toDigits (by decide) (by decide) (hcs ▸ List.mem_cons_self)
    have hnone : extend? (.operator ['-']) c = none := by
      refine if_neg fun hsymbol => ?_
      rw [isOperatorChar, decide_eq_true_eq] at hsymbol
      have hnot := List.all_eq_true.1
        (by decide : List.all _ (fun symbol => !symbol.isDigit) = true) c hsymbol
      rw [hdigit] at hnot
      exact Bool.false_ne_true hnot
    rw [run_begin _ hminus, List.cons_append, run_of_complete _ hdone hnone]
    rfl

/-- A written number is read as that number, wherever its first digit begins one. -/
theorem run_repr {mode : Mode} {placeholder : Bool}
    (hfirst : ∀ c rest, c.isDigit → run standard mode (c :: rest) =
      run standard (.digits placeholder (withDigit 0 c)) rest) (value : Nat) (rest : List Char) :
    run standard mode (value.repr.toList ++ rest) =
      run standard (.digits placeholder value) rest := by
  have hdigits : ∀ c ∈ Nat.toDigits 10 value, c.isDigit := fun c hc =>
    Nat.isDigit_of_mem_toDigits (by decide) (by decide) hc
  have hvalue := Nat.ofDigitChars_ten_toDigits (n := value)
  rw [Nat.toList_repr]
  rcases hcs : Nat.toDigits 10 value with _ | ⟨c, digits⟩
  · exact absurd hcs Nat.toDigits_ne_nil
  · rw [hcs] at hdigits hvalue
    rw [List.cons_append, hfirst _ _ (hdigits c List.mem_cons_self),
      run_digits (fun d hd => hdigits d (List.mem_cons_of_mem _ hd)), withDigit,
      ← Nat.ofDigitChars_cons, hvalue]

theorem run_number (value : Nat) (rest : List Char) :
    run standard .between (value.repr.toList ++ rest) = run standard (.digits false value) rest :=
  run_repr (fun _ _ hc => run_begin _ (if_pos hc)) value rest

/-- A placeholder is read as the parameter of its number. -/
theorem run_placeholder (index : Nat) (rest : List Char) :
    run standard .between ('$' :: (index.repr.toList ++ rest)) =
      run standard (.digits true index) rest := by
  have hdollar : begin? standard '$' = some .dollar := rfl
  have hfirst : ∀ c, c.isDigit → extend? .dollar c = some (.digits true (withDigit 0 c)) :=
    fun _ hc => if_pos hc
  rw [run_begin _ hdollar]
  exact run_repr (fun c _ hc => run_extend _ (hfirst c hc)) index rest

end Scanner

end Sql

end Registrar
