/-
**JSON texts.**

A machine over the bytes splits a text into tokens, where a literal keeps the text in which it is
written.  A tree is printed with two spaces for each level.

Main definitions:

* `Json.isString`, `Json.isScalar` — the literals;
* `Json.lex`, `Json.parse` — the machine, and the tree of a text;
* `Json.indent`, `Json.indentedSize` — a printed tree, and its size.

Main results:

* `Json.reads_indent` — printing is undone by the machine;
* `Json.parse_indent` — **what is printed is read back**;
* `Json.valid_of_parse` — what is read is valid;
* `Json.length_indent` — the size of what is printed.
-/

import Mathlib.Algebra.GroupWithZero.Nat
import NesDeck.Lib.HostFile
import NesDeck.Lib.JsonTree

set_option relaxedAutoImplicit false
set_option autoImplicit false

namespace Json

open HostFile (Bytes ascii)

/-! ### Literals -/

def isSpace (b : UInt8) : Bool := b = 0x20 ∨ b = 0x09 ∨ b = 0x0a ∨ b = 0x0d

def isDigit (b : UInt8) : Bool := 0x30 ≤ b ∧ b ≤ 0x39

/-- The bytes of numbers and words. -/
def isScalarByte (b : UInt8) : Bool :=
  isDigit b ∨ 0x61 ≤ b ∧ b ≤ 0x7a ∨ 0x41 ≤ b ∧ b ≤ 0x5a ∨ b = 0x2d ∨ b = 0x2b ∨ b = 0x2e

/-- One digit or more, and nothing else. -/
def isDigits (text : Bytes) : Bool := text ≠ [] ∧ text.all isDigit

/-- The end of a number: an exponent, or nothing. -/
def isExponent : Bytes → Bool
  | [] => true
  | e :: rest =>
      (e = 0x65 ∨ e = 0x45) ∧ (isDigits rest ∨ (rest.head? = some 0x2b ∨ rest.head? = some 0x2d) ∧
        isDigits rest.tail)

/-- What follows the digits before the point. -/
def isFraction : Bytes → Bool
  | 0x2e :: rest => isDigits (rest.takeWhile isDigit) ∧ isExponent (rest.dropWhile isDigit)
  | rest => isExponent rest

def isNumber (text : Bytes) : Bool :=
  let body := if text.head? = some 0x2d then text.tail else text
  let whole := body.takeWhile isDigit
  isDigits whole ∧ (whole = [0x30] ∨ whole.head? ≠ some 0x30) ∧ isFraction (body.dropWhile isDigit)

/-- A number or a word. -/
def isScalar (text : Bytes) : Bool :=
  text ≠ [] ∧ text.all isScalarByte ∧
    (text = ascii "null" ∨ text = ascii "true" ∨ text = ascii "false" ∨ isNumber text)

/-- Inside a string: at a character, after a backslash, or where a number of hexadecimal digits must
follow. -/
inductive StringMode where
  | plain
  | escape
  | hex (left : ℕ)
  deriving DecidableEq

def isHexDigit (b : UInt8) : Bool := isDigit b ∨ 0x61 ≤ b ∧ b ≤ 0x66 ∨ 0x41 ≤ b ∧ b ≤ 0x46

/-- One byte of a string; `some none` is its end. -/
def stringStep : StringMode → UInt8 → Option (Option StringMode)
  | .plain, b =>
      if b = 0x22 then some none
      else if b = 0x5c then some (some .escape)
      else if b < 0x20 then none
      else some (some .plain)
  | .escape, b =>
      if b = 0x75 then some (some (.hex 3))
      else if b ∈ [0x22, 0x5c, 0x2f, 0x62, 0x66, 0x6e, 0x72, 0x74] then some (some .plain)
      else none
  | .hex left, b =>
      if isHexDigit b = false then none
      else some (some (if left = 0 then .plain else .hex (left - 1)))

/-- The rest of a string, up to its end. -/
def isStringRest : StringMode → Bytes → Bool
  | _, [] => false
  | mode, b :: rest =>
      match stringStep mode b with
      | none => false
      | some none => rest = []
      | some (some mode) => isStringRest mode rest

/-- A string, as it is written. -/
def isString : Bytes → Bool
  | 0x22 :: rest => isStringRest .plain rest
  | _ => false

/-- A literal, as it is written. -/
def isLiteral (text : Bytes) : Bool := isString text || isScalar text

/-- Only a quote ends a string. -/
theorem eq_of_stringStep {mode : StringMode} {b : UInt8} (h : stringStep mode b = some none) :
    b = 0x22 := by
  cases mode with
  | plain =>
      rw [stringStep] at h
      split at h
      · assumption
      · split_ifs at h <;> simp at h
  | escape =>
      rw [stringStep] at h
      split_ifs at h <;> simp at h
  | hex left =>
      rw [stringStep] at h
      split_ifs at h <;> simp at h

/-- A string ends with a quote. -/
theorem exists_of_isStringRest {mode : StringMode} {rest : Bytes}
    (h : isStringRest mode rest = true) :
    ∃ text, rest = text ++ [0x22] := by
  induction rest generalizing mode with
  | nil => cases h
  | cons b rest ih =>
      rw [isStringRest] at h
      split at h
      · cases h
      · next hend =>
          obtain rfl : rest = [] := by simpa using h
          exact ⟨[], by rw [eq_of_stringStep hend]; rfl⟩
      · obtain ⟨text, rfl⟩ := ih h
        exact ⟨b :: text, rfl⟩

/-- A string begins with a quote, too. -/
theorem exists_of_isString {text : Bytes} (h : isString text = true) :
    ∃ inner, text = 0x22 :: inner ++ [0x22] := by
  rw [isString.eq_def] at h
  split at h
  · obtain ⟨inner, rfl⟩ := exists_of_isStringRest h
    exact ⟨inner, rfl⟩
  · cases h

/-! ### Splitting a text -/

/-- The literal that is being read, and what was read of it. -/
inductive Pending where
  | none
  | scalar (text : Bytes)
  | string (text : Bytes) (mode : StringMode)

structure Lexer where
  tokens : List (Token Bytes)
  pending : Pending

def punctuation (b : UInt8) : Option (Token Bytes) :=
  if b = 0x5b then some .openArray
  else if b = 0x5d then some .closeArray
  else if b = 0x7b then some .openObject
  else if b = 0x7d then some .closeObject
  else if b = 0x2c then some .comma
  else if b = 0x3a then some .colon
  else none

/-- The first byte after a token. -/
def lexStart (tokens : List (Token Bytes)) (b : UInt8) : Option Lexer :=
  if isSpace b = true then some ⟨tokens, .none⟩
  else
    match punctuation b with
    | some token => some ⟨tokens ++ [token], .none⟩
    | none =>
        if b = 0x22 then some ⟨tokens, .string [b] .plain⟩
        else if isScalarByte b = true then some ⟨tokens, .scalar [b]⟩
        else none

def lexStep : Lexer → UInt8 → Option Lexer
  | ⟨tokens, .none⟩, b => lexStart tokens b
  | ⟨tokens, .scalar text⟩, b =>
      if isScalarByte b = true then some ⟨tokens, .scalar (text ++ [b])⟩
      else if isScalar text = true then lexStart (tokens ++ [.literal text]) b
      else none
  | ⟨tokens, .string text mode⟩, b =>
      match stringStep mode b with
      | none => none
      | some none => some ⟨tokens ++ [.literal (text ++ [b])], .none⟩
      | some (some mode) => some ⟨tokens, .string (text ++ [b]) mode⟩

/-- The tokens at the end of the text. -/
def Lexer.finish : Lexer → Option (List (Token Bytes))
  | ⟨tokens, .none⟩ => some tokens
  | ⟨tokens, .scalar text⟩ =>
      if isScalar text = true then some (tokens ++ [.literal text]) else none
  | ⟨_, .string _ _⟩ => none

def lex (text : Bytes) : Option (List (Token Bytes)) :=
  (text.foldlM lexStep ⟨[], .none⟩).bind Lexer.finish

/-- The tree of a text that is nested no deeper than the bound. -/
def parse (maxDepth : ℕ) (text : Bytes) : Option (Node Bytes) :=
  ((lex text).bind (build isString)).filter fun t => t.depth ≤ maxDepth

/-- The literals of a tree are literals, and its keys are strings. -/
abbrev Node.Valid (t : Node Bytes) : Prop :=
  t.All (fun text => isLiteral text = true) fun text => isString text = true

/-! ### Printing -/

/-- A new line at a level, with two spaces for each one. -/
def newline (level : ℕ) : Bytes := 0x0a :: List.replicate (2 * level) 0x20

mutual

def indent (level : ℕ) : Node Bytes → Bytes
  | .literal text => text
  | .array items =>
      0x5b :: indentItems (level + 1) true items ++ (if items.isEmpty then [] else newline level) ++
        [0x5d]
  | .object members =>
      0x7b :: indentMembers (level + 1) true members ++
        (if members.isEmpty then [] else newline level) ++ [0x7d]
termination_by structural t => t

def indentItems (level : ℕ) (first : Bool) : List (Node Bytes) → Bytes
  | [] => []
  | t :: items =>
      (if first then [] else [0x2c]) ++ newline level ++ indent level t ++
        indentItems level false items
termination_by structural items => items

def indentMembers (level : ℕ) (first : Bool) : List (Bytes × Node Bytes) → Bytes
  | [] => []
  | m :: members =>
      (if first then [] else [0x2c]) ++ newline level ++ indentMember level m ++
        indentMembers level false members
termination_by structural members => members

def indentMember (level : ℕ) : Bytes × Node Bytes → Bytes
  | (key, t) => key ++ [0x3a, 0x20] ++ indent level t
termination_by structural m => m

end

/-! ### Reading what was printed -/

/-- A text that is split into these tokens, whatever follows it. -/
def Splits (text : Bytes) (ts : List (Token Bytes)) : Prop :=
  ∀ done rest, (text ++ rest).foldlM lexStep ⟨done, .none⟩ = rest.foldlM lexStep ⟨done ++ ts, .none⟩

/-- A text that is split into these tokens, where no number or word can go on after it. -/
def Reads (text : Bytes) (ts : List (Token Bytes)) : Prop :=
  ∀ done b rest, isScalarByte b = false →
    (text ++ b :: rest).foldlM lexStep ⟨done, .none⟩ =
      (b :: rest).foldlM lexStep ⟨done ++ ts, .none⟩

theorem foldlM_start (done : List (Token Bytes)) (b : UInt8) (rest : Bytes) :
    (b :: rest).foldlM lexStep ⟨done, .none⟩ = (lexStart done b).bind (rest.foldlM lexStep) := rfl

theorem splits_nil : Splits [] [] := by
  intro done rest
  rw [List.nil_append, List.append_nil]

theorem Splits.append {text text' : Bytes} {ts ts' : List (Token Bytes)} (h : Splits text ts)
    (h' : Splits text' ts') : Splits (text ++ text') (ts ++ ts') := by
  intro done rest
  rw [List.append_assoc, h, h', List.append_assoc]

theorem Splits.reads {text : Bytes} {ts : List (Token Bytes)} (h : Splits text ts) :
    Reads text ts :=
  fun done b rest _ => h done (b :: rest)

theorem Splits.append_reads {text text' : Bytes} {ts ts' : List (Token Bytes)} (h : Splits text ts)
    (h' : Reads text' ts') : Reads (text ++ text') (ts ++ ts') := by
  intro done b rest hb
  rw [List.append_assoc, h, h' _ b rest hb, List.append_assoc]

theorem Reads.append_splits {text text' : Bytes} {ts ts' : List (Token Bytes)} {b : UInt8}
    (h : Reads text ts) (hb : isScalarByte b = false) (h' : Splits (b :: text') ts') :
    Splits (text ++ b :: text') (ts ++ ts') := by
  intro done rest
  have hrest := h' (done ++ ts) rest
  rw [List.append_assoc, List.cons_append, h done b (text' ++ rest) hb, ← List.cons_append, hrest,
    List.append_assoc]

theorem splits_space {b : UInt8} (h : isSpace b = true) : Splits [b] [] := by
  intro done rest
  rw [List.singleton_append, foldlM_start, lexStart, if_pos h, List.append_nil]
  rfl

theorem splits_punctuation {b : UInt8} {token : Token Bytes} (hspace : isSpace b = false)
    (h : punctuation b = some token) : Splits [b] [token] := by
  intro done rest
  rw [List.singleton_append, foldlM_start, lexStart, if_neg (Bool.eq_false_iff.1 hspace), h]
  rfl

theorem splits_newline (level : ℕ) : Splits (newline level) [] := by
  have hspaces : ∀ n, Splits (List.replicate n 0x20) [] := by
    intro n
    induction n with
    | zero => exact splits_nil
    | succ n ih => exact (splits_space (b := 0x20) rfl).append ih
  exact (splits_space (b := 0x0a) rfl).append (hspaces (2 * level))

/-! #### Literals -/

theorem foldlM_string {rest : Bytes} {mode : StringMode} (h : isStringRest mode rest = true)
    (done : List (Token Bytes)) (text more : Bytes) :
    (rest ++ more).foldlM lexStep ⟨done, .string text mode⟩ =
      more.foldlM lexStep ⟨done ++ [.literal (text ++ rest)], .none⟩ := by
  induction rest generalizing mode text with
  | nil => cases h
  | cons b rest ih =>
      rw [isStringRest] at h
      rw [List.cons_append, List.foldlM_cons, lexStep]
      cases hstep : stringStep mode b with
      | none =>
          rw [hstep] at h
          cases h
      | some next =>
          rw [hstep] at h
          cases next with
          | none =>
              obtain rfl : rest = [] := by simpa using h
              rfl
          | some next =>
              have hrest := ih h (text ++ [b])
              rw [List.append_assoc, List.singleton_append] at hrest
              exact hrest

theorem foldlM_scalar {rest : Bytes} (h : ∀ b ∈ rest, isScalarByte b = true)
    (done : List (Token Bytes)) (text more : Bytes) :
    (rest ++ more).foldlM lexStep ⟨done, .scalar text⟩ =
      more.foldlM lexStep ⟨done, .scalar (text ++ rest)⟩ := by
  induction rest generalizing text with
  | nil => rw [List.nil_append, List.append_nil]
  | cons b rest ih =>
      have hb := h b List.mem_cons_self
      have hrest := ih (fun b hb => h b (List.mem_cons_of_mem _ hb)) (text ++ [b])
      rw [List.append_assoc, List.singleton_append] at hrest
      rw [List.cons_append, List.foldlM_cons, lexStep, if_pos hb]
      exact hrest

theorem splits_string {text : Bytes} (h : isString text = true) : Splits text [.literal text] := by
  intro done rest
  rw [isString.eq_def] at h
  split at h
  · exact foldlM_string h done [0x22] rest
  · cases h

/-- The bytes of a number or a word begin nothing else. -/
theorem scalarByte_spec : ∀ b : UInt8, isScalarByte b = true →
    isSpace b = false ∧ punctuation b = none ∧ b ≠ 0x22 :=
  HostFile.forall_byte (by decide +kernel)

theorem lexStart_scalar {b : UInt8} (h : isScalarByte b = true) (done : List (Token Bytes)) :
    lexStart done b = some ⟨done, .scalar [b]⟩ := by
  obtain ⟨hspace, hpunctuation, hquote⟩ := scalarByte_spec b h
  rw [lexStart, if_neg (Bool.eq_false_iff.1 hspace), hpunctuation]
  dsimp only
  rw [if_neg hquote, if_pos h]

theorem reads_scalar {text : Bytes} (h : isScalar text = true) : Reads text [.literal text] := by
  intro done b rest hb
  have hparts := h
  simp only [isScalar, ne_eq, decide_eq_true_eq, List.all_eq_true] at hparts
  obtain ⟨hne, hall, -⟩ := hparts
  cases text with
  | nil => exact absurd rfl hne
  | cons first text =>
      have hfirst := hall first List.mem_cons_self
      rw [List.cons_append, foldlM_start, lexStart_scalar hfirst, Option.bind_some,
        foldlM_scalar (fun b hb => hall b (List.mem_cons_of_mem _ hb)), List.foldlM_cons, lexStep,
        if_neg (Bool.eq_false_iff.1 hb), List.singleton_append, if_pos h, foldlM_start]
      rfl

theorem reads_literal {text : Bytes} (h : isLiteral text = true) : Reads text [.literal text] := by
  rw [isLiteral, Bool.or_eq_true] at h
  rcases h with hstring | hscalar
  · exact (splits_string hstring).reads
  · exact reads_scalar hscalar

/-! #### Trees -/

/-- Nothing that follows an item can go on with a number or a word. -/
theorem exists_follow (level : ℕ) (items : List (Node Bytes)) {b : UInt8}
    (hb : isScalarByte b = false) (rest : Bytes) :
    ∃ c rest', indentItems level false items ++ b :: rest = c :: rest' ∧
      isScalarByte c = false := by
  cases items with
  | nil => exact ⟨b, rest, rfl, hb⟩
  | cons t items => exact ⟨0x2c, _, rfl, rfl⟩

theorem exists_followMember (level : ℕ) (members : List (Bytes × Node Bytes)) {b : UInt8}
    (hb : isScalarByte b = false) (rest : Bytes) :
    ∃ c rest', indentMembers level false members ++ b :: rest = c :: rest' ∧
      isScalarByte c = false := by
  cases members with
  | nil => exact ⟨b, rest, rfl, hb⟩
  | cons m members => exact ⟨0x2c, _, rfl, rfl⟩

theorem splits_separator (first : Bool) (level : ℕ) :
    Splits ((if first then [] else [0x2c]) ++ newline level) (if first then [] else [.comma]) := by
  cases first with
  | true => exact splits_newline level
  | false => exact (splits_punctuation (b := 0x2c) rfl rfl).append (splits_newline level)

theorem reads_items {level : ℕ} {items : List (Node Bytes)}
    (h : ∀ t ∈ items, Reads (indent level t) (tokens t)) (first : Bool) :
    Reads (indentItems level first items) (itemTokens first items) := by
  induction items generalizing first with
  | nil => exact splits_nil.reads
  | cons t items ih =>
      have hitem := (splits_separator first level).append_reads (h t List.mem_cons_self)
      have hitems := ih (fun t ht => h t (List.mem_cons_of_mem _ ht)) false
      intro done b rest hb
      obtain ⟨c, rest', hfollow, hc⟩ := exists_follow level items hb rest
      rw [indentItems, List.append_assoc _ (indentItems level false items), hfollow,
        hitem done c rest' hc,
        ← hfollow, hitems _ b rest hb, itemTokens, List.append_assoc]

theorem reads_members {level : ℕ} {members : List (Bytes × Node Bytes)}
    (h : ∀ m ∈ members, Reads (indentMember level m) (oneMemberTokens m)) (first : Bool) :
    Reads (indentMembers level first members) (memberTokens first members) := by
  induction members generalizing first with
  | nil => exact splits_nil.reads
  | cons m members ih =>
      have hmember := (splits_separator first level).append_reads (h m List.mem_cons_self)
      have hmembers := ih (fun m hm => h m (List.mem_cons_of_mem _ hm)) false
      intro done b rest hb
      obtain ⟨c, rest', hfollow, hc⟩ := exists_followMember level members hb rest
      rw [indentMembers, List.append_assoc _ (indentMembers level false members), hfollow,
        hmember done c rest' hc, ← hfollow, hmembers _ b rest hb, memberTokens, List.append_assoc]

/-- The end of an array or an object. -/
theorem splits_close (empty : Bool) (level : ℕ) {b : UInt8} {token : Token Bytes}
    (hspace : isSpace b = false) (h : punctuation b = some token) :
    Splits ((if empty then [] else newline level) ++ [b]) [token] := by
  cases empty with
  | true => exact splits_punctuation hspace h
  | false => exact (splits_newline level).append (splits_punctuation hspace h)

theorem follow_close (empty : Bool) (level : ℕ) {b : UInt8} (hb : isScalarByte b = false) :
    ∃ c rest, (if empty then [] else newline level) ++ [b] = c :: rest ∧
      isScalarByte c = false := by
  cases empty with
  | true => exact ⟨b, [], rfl, hb⟩
  | false => exact ⟨0x0a, _, rfl, rfl⟩

/-- **Printing is undone by the first machine.** -/
theorem reads_indent {t : Node Bytes} (h : t.Valid) (level : ℕ) :
    Reads (indent level t) (tokens t) := by
  induction h generalizing level with
  | literal htext =>
      rw [indent, tokens]
      exact reads_literal htext
  | @array items _ ih =>
      have hitems := reads_items (fun t ht => ih t ht (level + 1)) true
      obtain ⟨c, rest, hclose, hc⟩ := follow_close items.isEmpty level (b := 0x5d) rfl
      have hend := splits_close items.isEmpty level (b := 0x5d) rfl rfl
      rw [hclose] at hend
      have hall := (splits_punctuation (b := 0x5b) rfl rfl).append (hitems.append_splits hc hend)
      rw [indent, tokens, List.append_assoc, hclose]
      exact hall.reads
  | @object members hkeys _ ih =>
      have hmember : ∀ m ∈ members,
          Reads (indentMember (level + 1) m) (oneMemberTokens m) := by
        rintro ⟨key, t⟩ hm
        have hcolon : Splits [0x3a, 0x20] [.colon] :=
          (splits_punctuation (b := 0x3a) rfl rfl).append (splits_space (b := 0x20) rfl)
        exact ((splits_string (hkeys _ hm)).append hcolon).append_reads (ih _ hm (level + 1))
      have hmembers := reads_members hmember true
      obtain ⟨c, rest, hclose, hc⟩ := follow_close members.isEmpty level (b := 0x7d) rfl
      have hend := splits_close members.isEmpty level (b := 0x7d) rfl rfl
      rw [hclose] at hend
      have hall := (splits_punctuation (b := 0x7b) rfl rfl).append (hmembers.append_splits hc hend)
      rw [indent, tokens, List.append_assoc, hclose]
      exact hall.reads

/-- **What is printed is read back**, with a new line at its end. -/
theorem parse_indent {t : Node Bytes} (h : t.Valid) {maxDepth : ℕ} (hdepth : t.depth ≤ maxDepth) :
    parse maxDepth (indent 0 t ++ [0x0a]) = some t := by
  have hlex : lex (indent 0 t ++ [0x0a]) = some (tokens t) := by
    rw [lex, reads_indent h 0 [] 0x0a [] rfl]
    rfl
  have hkeys : t.All (fun _ => True) fun text => isString text = true :=
    h.mono (fun _ _ => trivial) fun _ hkey => hkey
  rw [parse, hlex, Option.bind_some, build_tokens hkeys]
  simp [hdepth]

/-! ### What is read is valid -/

/-- What was read of a string can be completed. -/
def Pending.Valid : Pending → Prop
  | .none => True
  | .scalar _ => True
  | .string text mode => ∀ rest, isStringRest mode rest = true → isString (text ++ rest) = true

structure Lexer.Valid (lexer : Lexer) : Prop where
  tokens : ∀ text, Token.literal text ∈ lexer.tokens → isLiteral text = true
  pending : lexer.pending.Valid

theorem literal_append {ts : List (Token Bytes)} {new : Bytes}
    (h : ∀ text, Token.literal text ∈ ts → isLiteral text = true) (hnew : isLiteral new = true) :
    ∀ text, Token.literal text ∈ ts ++ [.literal new] → isLiteral text = true := by
  intro text hmem
  rcases List.mem_append.1 hmem with hmem | hmem
  · exact h text hmem
  · cases List.mem_singleton.1 hmem
    exact hnew

theorem valid_lexStart {ts : List (Token Bytes)}
    (h : ∀ text, Token.literal text ∈ ts → isLiteral text = true) {b : UInt8} {lexer : Lexer}
    (hstart : lexStart ts b = some lexer) : lexer.Valid := by
  rw [lexStart] at hstart
  split at hstart
  · cases hstart
    exact ⟨h, trivial⟩
  split at hstart
  · next token htoken =>
      cases hstart
      refine ⟨?_, trivial⟩
      intro text hmem
      rcases List.mem_append.1 hmem with hmem | hmem
      · exact h text hmem
      · rw [← List.mem_singleton.1 hmem] at htoken
        exact absurd htoken (by unfold punctuation; split_ifs <;> simp)
  split at hstart
  · next hquote =>
      cases hstart
      refine ⟨h, ?_⟩
      intro rest hrest
      rw [hquote]
      exact hrest
  split at hstart
  · cases hstart
    exact ⟨h, trivial⟩
  · cases hstart

theorem Lexer.Valid.step {lexer lexer' : Lexer} (h : lexer.Valid) {b : UInt8}
    (hstep : lexStep lexer b = some lexer') : lexer'.Valid := by
  obtain ⟨htokens, hpending⟩ := h
  rw [lexStep.eq_def] at hstep
  split at hstep
  · exact valid_lexStart htokens hstep
  · next ts text =>
      split at hstep
      · cases hstep
        exact ⟨htokens, trivial⟩
      split at hstep
      · next hscalar =>
          exact valid_lexStart
            (literal_append htokens (by rw [isLiteral, hscalar, Bool.or_true])) hstep
      · cases hstep
  · next ts text mode =>
      split at hstep
      · cases hstep
      · next hnone =>
          cases hstep
          have hstring := hpending [b] (by rw [isStringRest, hnone]; rfl)
          exact ⟨literal_append htokens (by rw [isLiteral, hstring, Bool.true_or]), trivial⟩
      · next mode' hsome =>
          cases hstep
          refine ⟨htokens, ?_⟩
          intro rest hrest
          have hstring := hpending (b :: rest) (by rw [isStringRest, hsome]; exact hrest)
          rwa [List.append_assoc]

theorem literal_of_lex {text : Bytes} {ts : List (Token Bytes)} (h : lex text = some ts) :
    ∀ literal, Token.literal literal ∈ ts → isLiteral literal = true := by
  have hrun : ∀ (text : Bytes) (lexer lexer' : Lexer), lexer.Valid →
      text.foldlM lexStep lexer = some lexer' → lexer'.Valid := by
    intro text
    induction text with
    | nil =>
        intro lexer lexer' hlexer hrun
        cases hrun
        exact hlexer
    | cons b text ih =>
        intro lexer lexer' hlexer hrun
        rw [List.foldlM_cons, Option.bind_eq_bind, Option.bind_eq_some_iff] at hrun
        obtain ⟨next, hstep, hrest⟩ := hrun
        exact ih next lexer' (hlexer.step hstep) hrest
  rw [lex, Option.bind_eq_some_iff] at h
  obtain ⟨lexer, hfold, hfinish⟩ := h
  have hstart : Lexer.Valid ⟨[], .none⟩ := ⟨fun _ h => absurd h List.not_mem_nil, trivial⟩
  obtain ⟨htokens, -⟩ := hrun text _ lexer hstart hfold
  rw [Lexer.finish.eq_def] at hfinish
  split at hfinish
  · cases hfinish
    exact htokens
  · split at hfinish
    · next hscalar =>
        cases hfinish
        exact literal_append htokens (by rw [isLiteral, hscalar, Bool.or_true])
    · cases hfinish
  · cases hfinish

/-- **What is read is valid**, and nested no deeper than the bound. -/
theorem valid_of_parse {maxDepth : ℕ} {text : Bytes} {t : Node Bytes}
    (h : parse maxDepth text = some t) : t.Valid ∧ t.depth ≤ maxDepth := by
  rw [parse, Option.filter_eq_some_iff, Option.bind_eq_some_iff] at h
  obtain ⟨⟨ts, hlex, hbuild⟩, hdepth⟩ := h
  refine ⟨all_of_build (fun _ _ hkey => hkey) (literal_of_lex hlex) hbuild, ?_⟩
  exact of_decide_eq_true hdepth

/-! ### Sizes -/

mutual

/-- The size of a tree as it is printed. -/
def indentedSize (level : ℕ) : Node Bytes → ℕ
  | .literal text => text.length
  | .array items => itemsSize (level + 1) items + (if items.isEmpty then 2 else 2 * level + 2)
  | .object members =>
      membersSize (level + 1) members + (if members.isEmpty then 2 else 2 * level + 2)
termination_by structural t => t

/-- Each item takes a new line, and one byte for the comma before it; the first one has no comma,
and this byte is that of the bracket. -/
def itemsSize (level : ℕ) : List (Node Bytes) → ℕ
  | [] => 0
  | t :: items => 2 * level + 2 + indentedSize level t + itemsSize level items
termination_by structural items => items

def membersSize (level : ℕ) : List (Bytes × Node Bytes) → ℕ
  | [] => 0
  | m :: members => 2 * level + 2 + memberSize level m + membersSize level members
termination_by structural members => members

def memberSize (level : ℕ) : Bytes × Node Bytes → ℕ
  | (key, t) => key.length + 2 + indentedSize level t
termination_by structural m => m

end

theorem length_newline (level : ℕ) : (newline level).length = 2 * level + 1 := by
  rw [newline, List.length_cons, List.length_replicate]

theorem length_indentItems {level : ℕ} {items : List (Node Bytes)}
    (h : ∀ t ∈ items, (indent level t).length = indentedSize level t) :
    (indentItems level false items).length = itemsSize level items ∧
      (items ≠ [] → (indentItems level true items).length + 1 = itemsSize level items) := by
  induction items with
  | nil => exact ⟨rfl, fun hne => absurd rfl hne⟩
  | cons t items ih =>
      have hitem := h t List.mem_cons_self
      have hitems := (ih fun t ht => h t (List.mem_cons_of_mem _ ht)).1
      simp only [indentItems, itemsSize, List.length_append, length_newline, hitem, hitems, if_true,
        List.length_nil, if_neg Bool.false_ne_true, List.length_singleton]
      exact ⟨by omega, fun _ => by omega⟩

theorem length_indentMembers {level : ℕ} {members : List (Bytes × Node Bytes)}
    (h : ∀ m ∈ members, (indent level m.2).length = indentedSize level m.2) :
    (indentMembers level false members).length = membersSize level members ∧
      (members ≠ [] → (indentMembers level true members).length + 1 =
        membersSize level members) := by
  induction members with
  | nil => exact ⟨rfl, fun hne => absurd rfl hne⟩
  | cons m members ih =>
      obtain ⟨key, t⟩ := m
      have hmember : (indent level t).length = indentedSize level t := h (key, t) List.mem_cons_self
      have hmembers := (ih fun m hm => h m (List.mem_cons_of_mem _ hm)).1
      simp only [indentMembers, indentMember, membersSize, memberSize, List.length_append,
        length_newline, hmember, hmembers, if_true, List.length_nil, if_neg Bool.false_ne_true,
        List.length_cons]
      exact ⟨by omega, fun _ => by omega⟩

/-- **The size of what is printed.** -/
theorem length_indent (level : ℕ) (t : Node Bytes) :
    (indent level t).length = indentedSize level t := by
  induction t.all_true generalizing level with
  | literal _ => rw [indent, indentedSize]
  | @array items _ ih =>
      rw [indent, indentedSize]
      cases items with
      | nil => rfl
      | cons t items =>
          have hitems :=
            (length_indentItems fun t ht => ih t ht (level + 1)).2 (List.cons_ne_nil t items)
          simp only [List.isEmpty_cons, if_neg Bool.false_ne_true, List.length_cons,
            List.length_append,
            length_newline, List.length_nil]
          omega
  | @object members _ _ ih =>
      rw [indent, indentedSize]
      cases members with
      | nil => rfl
      | cons m members =>
          have hmembers :=
            (length_indentMembers fun m hm => ih m hm (level + 1)).2 (List.cons_ne_nil m members)
          simp only [List.isEmpty_cons, if_neg Bool.false_ne_true, List.length_cons,
            List.length_append,
            length_newline, List.length_nil]
          omega

theorem itemsSize_append (level : ℕ) (items items' : List (Node Bytes)) :
    itemsSize level (items ++ items') = itemsSize level items + itemsSize level items' := by
  induction items with
  | nil => simp [itemsSize]
  | cons t items ih => simp only [List.cons_append, itemsSize, ih, Nat.add_assoc]

theorem membersSize_eq (level : ℕ) (members : List (Bytes × Node Bytes)) :
    membersSize level members =
      (members.map fun m => 2 * level + 4 + m.1.length + indentedSize level m.2).sum := by
  induction members with
  | nil => rfl
  | cons m members ih =>
      rw [membersSize, memberSize, ih, List.map_cons, List.sum_cons]
      omega

end Json
