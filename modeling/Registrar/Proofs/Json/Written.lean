import Mathlib.Data.List.Forall2
import Registrar.Json.Tree

/-!
# Reading What Was Written

A string is written with as few escapes as possible, and an object member by member. Both are
read again as what was written, whatever text follows them. That a value is followed by
something is what makes the statement fit for induction: inside of an object a member is
followed by the others and by the mark that closes the object, and around the object there
may be more. So `Tree.Reads` says of a text that a reader who expects a value takes just this
text and goes on with what comes after it, wherever the value stands.

A character is written by its code only if it is a control character without a shorter escape.
The codes of these are far below those of surrogates, so each stands for its character alone.

## Main definitions

* `lexemeOf`: What a written string is read as.
* `Tree.settled`: What comes of a value that has been read.
* `Tree.Reads`: A text is that of a value.
* `Tree.MembersRead`: The trees of the members of an object.

## Theorems

* `StringLexeme.value?_lexemeOf`: A written string stands for itself.
* `Token.all_quote`: A written string is one token.
* `Tree.reads_string`, `Tree.reads_object`: Strings and objects are read as they are written.
* `Tree.Reads.read`: A text that is that of a value is read as a whole.
-/

namespace Registrar

namespace Json

/-- The control characters that have an escape of one letter. -/
def lettered : List Char := ['\x08', '\t', '\n', '\x0c', '\r']

/-- Whether a character is written by its code, because there is no shorter escape for it. -/
def isCoded (c : Char) : Bool :=
  c.toNat < 0x20 && !lettered.contains c

/-- What a written character is read as. -/
def unitOf (c : Char) : StringUnit :=
  if isCoded c then .code c.toNat else .char c

/-- What a written string is read as. -/
def lexemeOf (s : String) : StringLexeme :=
  s.toList.map unitOf

namespace Token

theorem codeUnit?_hexDigit {n : Nat} (h : n < 0x20) :
    codeUnit? '0' '0' (hexDigit (n / 16)) (hexDigit (n % 16)) = some n := by
  have hall : ∀ n : Fin 0x20,
      codeUnit? '0' '0' (hexDigit (n.val / 16)) (hexDigit (n.val % 16)) = some n.val := by decide
  exact hall ⟨n, h⟩

variable {body : StringLexeme} {rest after : List Char}

theorem stringBody?_code {a b c d : Char} {unit : Nat} (hunit : codeUnit? a b c d = some unit)
    (h : stringBody? rest = some (body, after)) :
    stringBody? ('\\' :: 'u' :: a :: b :: c :: d :: rest) = some (.code unit :: body, after) := by
  simp only [stringBody?, hunit, h, Option.bind_eq_bind, Option.bind_some, Option.pure_def]

theorem stringBody?_short {e c : Char} (hne : e ≠ 'u') (hshort : shortEscape? e = some c)
    (h : stringBody? rest = some (body, after)) :
    stringBody? ('\\' :: e :: rest) = some (.char c :: body, after) := by
  rw [stringBody?]
  · simp only [hshort, h, Option.bind_eq_bind, Option.bind_some, Option.pure_def]
  · exact fun _ _ _ _ _ hsame _ => hne hsame

theorem stringBody?_char {c : Char} (hquote : c ≠ '"') (hslash : c ≠ '\\')
    (hlow : ¬c.toNat < 0x20) (h : stringBody? rest = some (body, after)) :
    stringBody? (c :: rest) = some (.char c :: body, after) := by
  have hplain : ¬(decide (c = '\\') || decide (c.toNat < 0x20)) = true := by
    rw [decide_eq_false hslash, decide_eq_false hlow]
    exact Bool.false_ne_true
  rw [stringBody?]
  · rw [if_neg hplain, h]
    rfl
  · exact hquote
  · exact fun _ _ _ _ _ hsame _ => hslash hsame
  · exact fun _ _ hsame _ => hslash hsame

/-- A character is read as it was written, whatever follows it. The cases are those of the
    writer. -/
theorem stringBody?_escapeChar (c : Char) (h : stringBody? rest = some (body, after)) :
    stringBody? (escapeChar c ++ rest) = some (unitOf c :: body, after) := by
  by_cases hquote : c = '"'
  · subst hquote
    exact stringBody?_short (by decide) rfl h
  · by_cases hslash : c = '\\'
    · subst hslash
      exact stringBody?_short (by decide) rfl h
    · by_cases hlow : c.toNat < 0x20
      · -- Of the low characters five have a letter. The others are given by their code.
        by_cases hshort : c ∈ lettered
        · simp only [lettered, List.mem_cons, List.not_mem_nil, or_false] at hshort
          rcases hshort with rfl | rfl | rfl | rfl | rfl <;>
            exact stringBody?_short (by decide) rfl h
        · have hunit : unitOf c = .code c.toNat := by
            rw [unitOf, isCoded, decide_eq_true hlow, List.contains_eq_mem, decide_eq_false hshort]
            rfl
          have hescape : escapeChar c =
              ['\\', 'u', '0', '0', hexDigit (c.toNat / 16), hexDigit (c.toNat % 16)] := by
            simp only [lettered, List.mem_cons, List.not_mem_nil, or_false, not_or] at hshort
            simp only [escapeChar, hquote, hslash, hlow, hshort, if_true, if_false]
          rw [hunit, hescape]
          exact stringBody?_code (codeUnit?_hexDigit hlow) h
      · have hunit : unitOf c = .char c := by
          rw [unitOf, isCoded, decide_eq_false hlow]
          rfl
        have hescape : escapeChar c = [c] := by
          simp only [escapeChar, hquote, hslash, hlow, if_false]
        rw [hunit, hescape]
        exact stringBody?_char hquote hslash hlow h

/-- What is written for characters is read again, up to the quote that closes it. -/
theorem stringBody?_escaped (chars rest : List Char) :
    stringBody? (chars.flatMap escapeChar ++ '"' :: rest) = some (chars.map unitOf, rest) := by
  induction chars with
  | nil => rw [List.flatMap_nil, List.nil_append, stringBody?, List.map_nil]
  | cons c chars ih =>
      rw [List.flatMap_cons, List.append_assoc]
      exact stringBody?_escapeChar c ih

end Token

namespace StringLexeme

/-- A code below the surrogates stands for its character, whatever follows it. -/
theorem chars?_code {unit : Nat} (h : unit < 0xD800) (rest : StringLexeme) :
    chars? (.code unit :: rest) = (chars? rest).map (Char.ofNat unit :: ·) := by
  have hlead : isLead unit = false := by
    rw [isLead, decide_eq_false (by omega), Bool.false_and]
  have htrail : isTrail unit = false := by
    rw [isTrail, decide_eq_false (by omega), Bool.false_and]
  rcases rest with _ | ⟨_ | second, rest⟩
  · simp [chars?, hlead, htrail]
  · simp [chars?, hlead, htrail]
  · simp [chars?, hlead, htrail]

theorem chars?_unitOf (c : Char) (rest : StringLexeme) :
    chars? (unitOf c :: rest) = (chars? rest).map (c :: ·) := by
  by_cases hcoded : isCoded c = true
  · have hlow : c.toNat < 0xD800 := by
      simp only [isCoded, Bool.and_eq_true, decide_eq_true_eq] at hcoded
      omega
    rw [unitOf, if_pos hcoded, chars?_code hlow, Char.ofNat_toNat]
  · rw [unitOf, if_neg hcoded, chars?]

/-- What is read for a string stands for that string. -/
theorem value?_lexemeOf (s : String) : (lexemeOf s).value? = some s := by
  have hchars : ∀ chars : List Char, chars? (chars.map unitOf) = some chars := by
    intro chars
    induction chars with
    | nil => rfl
    | cons c chars ih => rw [List.map_cons, chars?_unitOf, ih, Option.map_some]
  rw [value?, lexemeOf, hchars, Option.map_some, String.ofList_toList]

end StringLexeme

namespace Token

/-- A mark is a token, whatever follows it. -/
theorem all_mark {c : Char} {token : Token} (hmark : mark? c = some token)
    (hblank : isBlank c = false) (rest : List Char) : all (c :: rest) = token :: all rest := by
  refine all_of_next? ?_
  rw [next?, List.dropWhile_cons_of_neg (by rw [hblank]; exact Bool.false_ne_true)]
  simp only [startingWith, hmark]

theorem all_comma (rest : List Char) : all (',' :: rest) = .comma :: all rest :=
  all_mark rfl rfl rest

theorem all_colon (rest : List Char) : all (':' :: rest) = .colon :: all rest :=
  all_mark rfl rfl rest

theorem all_openObject (rest : List Char) : all ('\x7b' :: rest) = .openObject :: all rest :=
  all_mark rfl rfl rest

theorem all_closeObject (rest : List Char) : all ('\x7d' :: rest) = .closeObject :: all rest :=
  all_mark rfl rfl rest

theorem toList_quote (s : String) :
    (quote s).toList = '"' :: (s.toList.flatMap escapeChar ++ ['"']) := by
  simp only [quote, String.toList_append, String.toList_ofList, List.append_assoc]
  rfl

/-- A written string is a token, whatever follows it. -/
theorem all_quote (s : String) (rest : List Char) :
    all ((quote s).toList ++ rest) = .string (lexemeOf s) :: all rest := by
  have hbody := stringBody?_escaped s.toList rest
  have hnext : next? ((quote s).toList ++ rest) = some (.string (lexemeOf s), rest) := by
    rw [toList_quote, List.cons_append, List.append_assoc, List.singleton_append]
    simp only [next?, List.dropWhile_cons_of_neg (show ¬isBlank '"' = true from Bool.false_ne_true)]
    simp only [startingWith, mark?, keyword?, hbody, if_true]
    rfl
  exact all_of_next? hnext

end Token

namespace Tree

/-- What comes of a finished value: the whole, or the container around it is read on. -/
def settled (tree : Tree) (stack : List Frame) (tokens : List Token) : Tree × List Token :=
  match settle tree stack with
  | .inl whole => (whole, tokens)
  | .inr stack => grow .afterValue stack tokens

/-- A text is that of a value: the reader takes the value from it and goes on with what
    follows, wherever the value stands. -/
def Reads (text : List Char) (tree : Tree) : Prop :=
  ∀ stack rest, grow .value stack (Token.all (text ++ rest)) = settled tree stack (Token.all rest)

/-- A text that is that of a value is read as that value, and nothing is left. -/
theorem Reads.read {text : String} {tree : Tree} (h : Reads text.toList tree) :
    read text = (tree, []) := by
  have hall := h [] []
  rw [List.append_nil] at hall
  rw [Tree.read, hall, Token.all_of_none rfl]
  rfl

theorem reads_string (s : String) :
    Reads (Document.string s).text.toList (.string (lexemeOf s)) := by
  intro stack rest
  rw [Document.text, Token.all_quote]
  rfl

/-- The trees of the members of an object, in their order. -/
def MembersRead (members : List (String × Document)) (trees : List (StringLexeme × Tree)) : Prop :=
  List.Forall₂ (fun member tree => tree.1 = lexemeOf member.1 ∧
    Reads member.2.text.toList tree.2) members trees

/-- A key is read where one is expected: at the beginning of an object and after a comma. -/
theorem grow_key {place : Place} (hplace : place = .objectStart ∨ place = .key)
    (done : List (StringLexeme × Tree)) (stack : List Frame) (name : String) (rest : List Char) :
    grow place (.object done :: stack) (Token.all ((quote name).toList ++ ':' :: rest)) =
      grow .value (.member done (lexemeOf name) :: stack) (Token.all rest) := by
  rw [Token.all_quote, Token.all_colon]
  rcases hplace with rfl | rfl
  · rfl
  · rfl

theorem grow_comma (done : List (StringLexeme × Tree)) (stack : List Frame) (rest : List Char) :
    grow .afterValue (.object done :: stack) (Token.all (',' :: rest)) =
      grow .key (.object done :: stack) (Token.all rest) := by
  rw [Token.all_comma]
  rfl

theorem grow_closeObject (done : List (StringLexeme × Tree)) (stack : List Frame)
    (rest : List Char) :
    grow .afterValue (.object done :: stack) (Token.all ('\x7d' :: rest)) =
      settled (.object done.reverse true) stack (Token.all rest) := by
  rw [Token.all_closeObject]
  rfl

theorem toList_membersText_single (name : String) (value : Document) :
    (Document.membersText [(name, value)]).toList =
      (quote name).toList ++ ':' :: value.text.toList := by
  simp only [Document.membersText, String.toList_append, List.append_assoc]
  rfl

theorem toList_membersText_cons (name : String) (value : Document)
    {rest : List (String × Document)} (hne : rest ≠ []) :
    (Document.membersText ((name, value) :: rest)).toList =
      (quote name).toList ++ ':' :: (value.text.toList ++ ',' ::
        (Document.membersText rest).toList) := by
  rw [Document.membersText]
  · simp only [String.toList_append, List.append_assoc]
    rfl
  · exact hne

/-- Members are read into the object around them, up to the mark that closes it. The induction
    is on the members, for all that were read before. -/
theorem grow_members {members : List (String × Document)} {trees : List (StringLexeme × Tree)}
    (h : MembersRead members trees) (hne : members ≠ []) {place : Place}
    (hplace : place = .objectStart ∨ place = .key) (done : List (StringLexeme × Tree))
    (stack : List Frame) (rest : List Char) :
    grow place (.object done :: stack)
        (Token.all ((Document.membersText members).toList ++ '\x7d' :: rest)) =
      settled (.object (done.reverse ++ trees) true) stack (Token.all rest) := by
  induction h generalizing place done with
  | nil => exact absurd rfl hne
  | @cons member tree members trees hmember hmembers ih =>
      rcases member with ⟨name, value⟩
      rcases tree with ⟨key, tree⟩
      rcases hmember with ⟨rfl, hvalue⟩
      by_cases hlast : members = []
      · subst hlast
        cases hmembers
        rw [toList_membersText_single, List.append_assoc, List.cons_append, grow_key hplace,
          hvalue, settled, settle]
        simp only [grow_closeObject, List.reverse_cons]
      · rw [toList_membersText_cons name value hlast, List.append_assoc, List.cons_append,
          List.append_assoc, List.cons_append, grow_key hplace, hvalue, settled, settle]
        simp only [grow_comma, ih hlast (Or.inr rfl), List.reverse_cons, List.append_assoc,
          List.singleton_append]

/-- An object is read member by member. -/
theorem reads_object {members : List (String × Document)} {trees : List (StringLexeme × Tree)}
    (h : MembersRead members trees) :
    Reads (Document.object members).text.toList (.object trees true) := by
  intro stack rest
  have htext : (Document.object members).text.toList ++ rest =
      '\x7b' :: ((Document.membersText members).toList ++ '\x7d' :: rest) := by
    simp only [Document.text, String.toList_append, List.append_assoc]
    rfl
  rw [htext, Token.all_openObject]
  by_cases hnone : members = []
  · subst hnone
    cases h
    have hclosed : (Document.membersText []).toList ++ '\x7d' :: rest = '\x7d' :: rest := by
      rw [Document.membersText]
      rfl
    rw [hclosed, Token.all_closeObject]
    rfl
  · exact grow_members h hnone (Or.inl rfl) [] stack rest

end Tree

end Json

end Registrar
