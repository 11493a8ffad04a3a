/-
**The Lisp reader.**

`read-catalog` opens a file and takes one form from it with the reader of Common Lisp, in its
standard syntax and without `*read-eval*`.  The reader first makes lexemes of the characters, which
it can do beforehand since nothing that it reads here changes the syntax of what follows, and then
forms of the lexemes.

Left out are the macro characters for code (the quote, the backquote, the comma and the sharp sign),
package prefixes, and characters beyond ASCII in symbols: a text with one is refused here.  A symbol
without a package is taken for one of the package of the program, `NIL` apart.

Main definitions:

* `NesDeck.CatalogCompiler.Mode.step`, `NesDeck.CatalogCompiler.lexLoop` — the lexemes of a text;
* `NesDeck.CatalogCompiler.readStep`, `NesDeck.CatalogCompiler.readLoop` — the next form;
* `NesDeck.CatalogCompiler.ExternalFormat` — how the runtime decodes a file;
* `NesDeck.CatalogCompiler.readCatalog` — the one form of a file;
* `NesDeck.CatalogCompiler.Denotes` — the lexeme of a piece of text.

Main results:

* `NesDeck.CatalogCompiler.lexLoop_of_layout` — **a layout of tokens has the lexemes of its
  tokens**;
* `NesDeck.CatalogCompiler.readCatalog_of_layout` — **the form of a file that is a layout**.
-/

import NesDeck.CatalogForm
import NesDeck.Lib.Layout

set_option relaxedAutoImplicit false
set_option autoImplicit false

namespace NesDeck.CatalogCompiler

open HostFile (Bytes ascii forall_ascii)

/-! ### Characters and lexemes -/

/-- Tab, newline, page, return, space and rubout. -/
def isWhitespace (character : Char) : Bool := character.toNat ∈ [9, 10, 12, 13, 32, 127]

def isParenthesis (character : Char) : Bool := character = '(' ∨ character = ')'

/-- The macro characters that end a token. -/
def isTerminatingMacro (character : Char) : Bool := character ∈ "\"'(),;`".toList

inductive ReaderError where
  | endOfFile
  | unmatchedParenthesis
  | onlyDots
  | dotContext
  /-- The reader may go on here; the model does not. -/
  | unmodelled (character : Char)
  deriving DecidableEq

inductive Lexeme where
  | openList
  | closeList
  | dot
  | atom (form : Form)
  deriving DecidableEq

/-! ### Tokens -/

/-- A token: its characters, each with whether it was escaped, and whether there was an escape at
all. -/
structure ReaderToken where
  characters : List (Char × Bool)
  escaped : Bool

def ReaderToken.push (token : ReaderToken) (character : Char) (escaped : Bool) : ReaderToken :=
  { token with characters := token.characters ++ [(character, escaped)] }

def isSign (character : Char) : Bool := character = '+' ∨ character = '-'

/-- A text without its sign. -/
def unsigned (text : List Char) : List Char :=
  if text.head?.any isSign = true then text.tail else text

def isDigits (text : List Char) : Bool := text ≠ [] ∧ text.all Char.isDigit = true

/-- An integer in radix 10: a sign or none, digits, and a decimal point or none. -/
def integerOf (text : List Char) : Option ℤ :=
  let body := unsigned text
  let digits := if body.getLast? = some '.' then body.dropLast else body
  if isDigits digits = true then
    let value : ℕ := digits.foldl (fun value digit => 10 * value + (digit.toNat - 48)) 0
    some (if text.head? = some '-' then -(value : ℤ) else value)
  else none

def isRatio (text : List Char) : Bool :=
  match (unsigned text).splitOn '/' with
  | [numerator, denominator] => isDigits numerator = true ∧ isDigits denominator = true
  | _ => false

def isExponentMarker (character : Char) : Bool := character ∈ "ESFDL".toList

/-- Digits with a decimal point and digits behind it, or with an exponent. -/
def isFloat (text : List Char) : Bool :=
  let body := unsigned text
  let mantissa := (body.takeWhile fun character => !isExponentMarker character).splitOn '.'
  match body.dropWhile fun character => !isExponentMarker character with
  | [] =>
      match mantissa with
      | [whole, fraction] => whole.all Char.isDigit = true ∧ isDigits fraction = true
      | _ => false
  | _ :: exponent =>
      match mantissa with
      | [whole] => isDigits whole = true ∧ isDigits (unsigned exponent) = true
      | [whole, fraction] =>
          isDigits (whole ++ fraction) = true ∧ isDigits (unsigned exponent) = true
      | _ => false

/-- What a token stands for. -/
def ReaderToken.lexeme (token : ReaderToken) : Except ReaderError Lexeme :=
  let text := token.characters.map Prod.fst
  let plain := !token.escaped
  if plain = true ∧ text.all (· = '.') = true then
    if text.length = 1 then .ok .dot else .error .onlyDots
  else if plain = true ∧ (integerOf text).isSome = true then
    .ok (.atom (.integer ((integerOf text).getD 0)))
  else if plain = true ∧ (isRatio text = true ∨ isFloat text = true) then .ok (.atom (.other text))
  else
    match token.characters with
    | (':', false) :: name =>
        if name = [] ∨ (':', false) ∈ name then .error (.unmodelled ':')
        else .ok (.atom (.symbol "KEYWORD".toList (name.map Prod.fst)))
    | characters =>
        if (':', false) ∈ characters then .error (.unmodelled ':')
        else if text = "NIL".toList then .ok (.atom .nil)
        else .ok (.atom (.symbol "NES-DECK-CATALOG".toList text))

/-! ### Lexemes of a text -/

/-- Where the reader is. -/
inductive Mode where
  | outside
  | comment
  | string (text : List Char)
  | stringEscape (text : List Char)
  | token (token : ReaderToken)
  /-- Between two vertical bars. -/
  | bars (token : ReaderToken)
  /-- Behind a backslash. -/
  | escape (token : ReaderToken) (inBars : Bool)

/-- A character of a token. -/
def tokenStep (token : ReaderToken) (character : Char) : Except ReaderError (List Lexeme × Mode) :=
  if character = '\\' then .ok ([], .escape { token with escaped := true } false)
  else if character = '|' then .ok ([], .bars { token with escaped := true })
  else if character.toNat ≤ 32 ∨ 126 < character.toNat then .error (.unmodelled character)
  else .ok ([], .token (token.push character.toUpper false))

/-- A character outside of tokens, strings and comments. -/
def outsideStep (character : Char) : Except ReaderError (List Lexeme × Mode) :=
  if isWhitespace character = true then .ok ([], .outside)
  else if character = '(' then .ok ([.openList], .outside)
  else if character = ')' then .ok ([.closeList], .outside)
  else if character = '"' then .ok ([], .string [])
  else if character = ';' then .ok ([], .comment)
  else if isTerminatingMacro character = true ∨ character = '#' then .error (.unmodelled character)
  else tokenStep ⟨[], false⟩ character

/-- The lexemes that a character completes, and where the reader is then. -/
def Mode.step : Mode → Char → Except ReaderError (List Lexeme × Mode)
  | .outside, character => outsideStep character
  | .comment, character => .ok ([], if character = '\n' then .outside else .comment)
  | .string text, character =>
      if character = '"' then .ok ([.atom (.string text)], .outside)
      else if character = '\\' then .ok ([], .stringEscape text)
      else .ok ([], .string (text ++ [character]))
  | .stringEscape text, character => .ok ([], .string (text ++ [character]))
  | .token begun, character =>
      if isWhitespace character = true ∨ isTerminatingMacro character = true then
        match begun.lexeme with
        | .error error => .error error
        | .ok lexeme =>
            match outsideStep character with
            | .error error => .error error
            | .ok (lexemes, mode) => .ok (lexeme :: lexemes, mode)
      else tokenStep begun character
  | .bars begun, character =>
      if character = '|' then .ok ([], .token begun)
      else if character = '\\' then .ok ([], .escape begun true)
      else .ok ([], .bars (begun.push character true))
  | .escape begun inBars, character =>
      let more := begun.push character true
      .ok ([], if inBars = true then .bars more else .token more)

/-- The lexeme that the end of the file completes. -/
def Mode.finish : Mode → Except ReaderError (List Lexeme)
  | .outside => .ok []
  | .comment => .ok []
  | .token begun => begun.lexeme.map fun lexeme => [lexeme]
  | .string _ => .error .endOfFile
  | .stringEscape _ => .error .endOfFile
  | .bars _ => .error .endOfFile
  | .escape _ _ => .error .endOfFile

def lexLoop : Mode → List Char → Except ReaderError (List Lexeme)
  | mode, [] => mode.finish
  | mode, character :: rest =>
      match mode.step character with
      | .error error => .error error
      | .ok (lexemes, mode) => (lexLoop mode rest).map (lexemes ++ ·)

/-! ### Forms -/

/-- A list that is being read; its elements are reversed. -/
inductive Frame where
  | elements (elements : List Form)
  | dotted (elements : List Form)
  /-- The object behind the dot is there. -/
  | tail (elements : List Form) (rest : Form)

/-- The list of reversed elements in front of `rest`. -/
def listOf : (elements : List Form) → (rest : Form) → Form
  | [], rest => rest
  | element :: elements, rest => listOf elements (.cons element rest)

/-- A form is complete.  Outside of all lists it is the result. -/
def deliver (form : Form) : List Frame → Except ReaderError (Form ⊕ List Frame)
  | [] => .ok (.inl form)
  | .elements elements :: stack => .ok (.inr (.elements (form :: elements) :: stack))
  | .dotted elements :: stack => .ok (.inr (.tail elements form :: stack))
  | .tail _ _ :: _ => .error .dotContext

def readStep : Lexeme → List Frame → Except ReaderError (Form ⊕ List Frame)
  | .atom form, stack => deliver form stack
  | .openList, stack => .ok (.inr (.elements [] :: stack))
  | .closeList, .elements elements :: stack => deliver (listOf elements .nil) stack
  | .closeList, .tail elements rest :: stack => deliver (listOf elements rest) stack
  | .closeList, .dotted _ :: _ => .error .dotContext
  | .closeList, [] => .error .unmatchedParenthesis
  | .dot, .elements (element :: elements) :: stack =>
      .ok (.inr (.dotted (element :: elements) :: stack))
  | .dot, _ => .error .dotContext

/-- `read`: the next form and the lexemes behind it, or nothing at the end of the file. -/
def readLoop : List Lexeme → (stack : List Frame) →
    Except ReaderError (Option (Form × List Lexeme))
  | [], [] => .ok none
  | [], _ :: _ => .error .endOfFile
  | lexeme :: lexemes, stack =>
      match readStep lexeme stack with
      | .error error => .error error
      | .ok (.inl form) => .ok (some (form, lexemes))
      | .ok (.inr stack) => readLoop lexemes stack

/-! ### Files -/

def characterOf (byte : UInt8) : Char := .ofNat byte.toNat

/-- How the runtime decodes the bytes of a file; ASCII is the same everywhere. -/
structure ExternalFormat where
  decode : Bytes → List Char
  decode_ascii : ∀ bytes : Bytes, (∀ byte ∈ bytes, byte < 0x80) →
    decode bytes = bytes.map characterOf

/-- Every byte is a character. -/
def ExternalFormat.latin1 : ExternalFormat := ⟨List.map characterOf, fun _ _ => rfl⟩

def maximumCatalogBytes : ℕ := 65536

/-- The reasons for which a file has no form. -/
inductive ReadError where
  | tooLarge
  | empty
  | moreThanOneForm
  | reader (error : ReaderError)
  deriving DecidableEq

/-- The text of the error; that of the reader is the one of the runtime. -/
def ReadError.message (readerText : ReaderError → Bytes) (source : Bytes) : ReadError → Bytes
  | tooLarge =>
      ascii "Catalog error: " ++ source ++
        ascii (" exceeds the " ++ toString maximumCatalogBytes ++ "-byte input limit")
  | empty => ascii "Catalog error: " ++ source ++ ascii " is empty"
  | moreThanOneForm =>
      ascii "Catalog error: " ++ source ++ ascii " contains more than one top-level form"
  | reader error => readerText error

def readCatalog (format : ExternalFormat) (contents : Bytes) : Except ReadError Form :=
  if maximumCatalogBytes < contents.length then .error .tooLarge
  else
    match lexLoop .outside (format.decode contents) with
    | .error error => .error (.reader error)
    | .ok lexemes =>
        match readLoop lexemes [] with
        | .error error => .error (.reader error)
        | .ok none => .error .empty
        | .ok (some (form, rest)) =>
            match readLoop rest [] with
            | .error error => .error (.reader error)
            | .ok (some _) => .error .moreThanOneForm
            | .ok none => .ok form

/-! ### Words -/

/-- A character that makes a token by itself, wherever in the token it stands. -/
def isConstituent (character : Char) : Bool :=
  32 < character.toNat ∧ character.toNat ≤ 126 ∧ character ∉ "\"'(),;`\\|#".toList

/-- A piece of text that the reader makes one lexeme of, if it is not a word that goes on. -/
def Denotes (piece : List Char) (lexeme : Lexeme) : Prop :=
  ∀ rest, ((∀ character ∈ piece, Layout.IsWord isWhitespace isParenthesis character = true) →
      Layout.Ends isWhitespace isParenthesis rest) →
    lexLoop .outside (piece ++ rest) = (lexLoop .outside rest).map ([lexeme] ++ ·)

theorem lexLoop_cons {mode mode' : Mode} {character : Char} {rest : List Char}
    {lexemes : List Lexeme} (h : mode.step character = .ok (lexemes, mode')) :
    lexLoop mode (character :: rest) = (lexLoop mode' rest).map (lexemes ++ ·) := by
  rw [lexLoop, h]

/-- A character that completes nothing. -/
theorem lexLoop_cons_silent {mode mode' : Mode} {character : Char} {rest : List Char}
    (h : mode.step character = .ok ([], mode')) :
    lexLoop mode (character :: rest) = lexLoop mode' rest := by
  rw [lexLoop_cons h]
  cases lexLoop mode' rest with
  | error error => rfl
  | ok lexemes => rfl

theorem isConstituent_spec {character : Char} (h : isConstituent character = true) :
    isWhitespace character = false ∧ isTerminatingMacro character = false ∧
      (∀ token, tokenStep token character =
        .ok ([], .token (token.push character.toUpper false))) ∧
      outsideStep character = tokenStep ⟨[], false⟩ character := by
  rw [isConstituent, decide_eq_true_eq] at h
  obtain ⟨hlow, hhigh, hspecial⟩ := h
  have hother : character ≠ '"' ∧ character ≠ '\x27' ∧ character ≠ '(' ∧ character ≠ ')' ∧
      character ≠ ',' ∧ character ≠ ';' ∧ character ≠ '\x60' ∧ character ≠ '\\' ∧
      character ≠ '|' ∧ character ≠ '#' := by
    simpa using hspecial
  obtain ⟨hquote, hapostrophe, hopen, hclose, hcomma, hsemicolon, hbackquote, hbackslash, hbar,
    hsharp⟩ := hother
  have hwhite : isWhitespace character = false := by
    rw [isWhitespace, decide_eq_false_iff_not]
    simp only [List.mem_cons, List.not_mem_nil, or_false]
    omega
  have hterminating : isTerminatingMacro character = false := by
    rw [isTerminatingMacro, decide_eq_false_iff_not]
    simp [hquote, hapostrophe, hopen, hclose, hcomma, hsemicolon, hbackquote]
  refine ⟨hwhite, hterminating, ?_, ?_⟩
  · intro token
    rw [tokenStep, if_neg hbackslash, if_neg hbar, if_neg (by omega)]
  · rw [outsideStep, if_neg (by simp [hwhite]), if_neg hopen, if_neg hclose, if_neg hquote,
      if_neg hsemicolon, if_neg (by simp [hterminating, hsharp])]

/-- No constituent ends a word. -/
theorem isWord_of_isConstituent {character : Char} (h : isConstituent character = true) :
    Layout.IsWord isWhitespace isParenthesis character = true := by
  obtain ⟨hwhite, hterminating, -⟩ := isConstituent_spec h
  refine Layout.isWord_iff.2 ⟨hwhite, ?_⟩
  rw [isParenthesis, decide_eq_false_iff_not]
  rintro (rfl | rfl)
  · exact absurd hterminating (by decide)
  · exact absurd hterminating (by decide)

theorem ReaderToken.push_append (token : ReaderToken) (character : Char) (word : List Char) :
    (⟨(token.push character.toUpper false).characters ++ word.map fun c => (c.toUpper, false),
      (token.push character.toUpper false).escaped⟩ : ReaderToken) =
    ⟨token.characters ++ (character :: word).map fun c => (c.toUpper, false), token.escaped⟩ := by
  rw [push, List.append_assoc, List.singleton_append, List.map_cons]

/-- The rest of a token. -/
theorem lexLoop_token {word : List Char} (h : word.all isConstituent = true) (token : ReaderToken)
    (rest : List Char) :
    lexLoop (.token token) (word ++ rest) =
      lexLoop (.token ⟨token.characters ++ word.map fun c => (c.toUpper, false), token.escaped⟩)
        rest := by
  induction word generalizing token with
  | nil => rw [List.nil_append, List.map_nil, List.append_nil]
  | cons character word ih =>
      rw [List.all_cons, Bool.and_eq_true] at h
      obtain ⟨hwhite, hterminating, htoken, -⟩ := isConstituent_spec h.1
      have hstep : (Mode.token token).step character =
          .ok ([], .token (token.push character.toUpper false)) := by
        rw [Mode.step, if_neg (by simp [hwhite, hterminating]), htoken]
      rw [List.cons_append, lexLoop_cons_silent hstep, ih h.2, token.push_append]

/-- A token ends before a blank, a parenthesis, or the end of the file. -/
theorem lexLoop_token_end {token : ReaderToken} {lexeme : Lexeme} (h : token.lexeme = .ok lexeme)
    {rest : List Char} (hends : Layout.Ends isWhitespace isParenthesis rest) :
    lexLoop (.token token) rest = (lexLoop .outside rest).map ([lexeme] ++ ·) := by
  cases rest with
  | nil =>
      have hfinish : (Mode.token token).finish = .ok [lexeme] := by
        rw [Mode.finish, h]
        rfl
      rw [lexLoop, lexLoop, hfinish]
      rfl
  | cons character rest =>
      have hterminating : isWhitespace character = true ∨ isTerminatingMacro character = true := by
        refine (Layout.isWord_eq_false_iff.1 (Layout.ends_cons.1 hends)).imp id ?_
        intro hmark
        rw [isParenthesis, decide_eq_true_eq] at hmark
        rcases hmark with rfl | rfl
        · rfl
        · rfl
      have hstep : (Mode.token token).step character =
          (outsideStep character).map fun result => (lexeme :: result.1, result.2) := by
        rw [Mode.step, if_pos hterminating, h]
        cases outsideStep character with
        | error error => rfl
        | ok result => rfl
      have houtside : Mode.outside.step character = outsideStep character := rfl
      rw [lexLoop, lexLoop, hstep, houtside]
      cases outsideStep character with
      | error error => rfl
      | ok result =>
          dsimp only [Except.map]
          cases lexLoop result.2 rest with
          | error error => rfl
          | ok lexemes => rfl

/-- **A word of constituents** is the lexeme of its token. -/
theorem denotes_token {word : List Char} {lexeme : Lexeme} (hne : word ≠ [])
    (hword : word.all isConstituent = true)
    (h : ReaderToken.lexeme ⟨word.map fun c => (c.toUpper, false), false⟩ = .ok lexeme) :
    Denotes word lexeme := by
  intro rest hends
  have hall := List.all_eq_true.1 hword
  obtain ⟨character, word, rfl⟩ := List.exists_cons_of_ne_nil hne
  rw [List.all_cons, Bool.and_eq_true] at hword
  obtain ⟨-, -, htoken, houtside⟩ := isConstituent_spec hword.1
  have hstep : Mode.outside.step character =
      .ok ([], .token (ReaderToken.push ⟨[], false⟩ character.toUpper false)) :=
    houtside.trans (htoken _)
  rw [List.cons_append, lexLoop_cons_silent hstep, lexLoop_token hword.2, ReaderToken.push_append]
  exact lexLoop_token_end h (hends fun c hc => isWord_of_isConstituent (hall c hc))

/-- The rest of a string. -/
theorem lexLoop_string {body : List Char}
    (h : ∀ character ∈ body, character ≠ '"' ∧ character ≠ '\\') (text rest : List Char) :
    lexLoop (.string text) (body ++ '"' :: rest) =
      (lexLoop .outside rest).map ([.atom (.string (text ++ body))] ++ ·) := by
  induction body generalizing text with
  | nil => rw [List.nil_append, List.append_nil, lexLoop_cons (by rw [Mode.step, if_pos rfl])]
  | cons character body ih =>
      rw [List.forall_mem_cons] at h
      have hstep : (Mode.string text).step character = .ok ([], .string (text ++ [character])) := by
        rw [Mode.step, if_neg h.1.1, if_neg h.1.2]
      rw [List.cons_append, lexLoop_cons_silent hstep, ih h.2, List.append_assoc,
        List.singleton_append]

/-- **A string** without backslashes. -/
theorem denotes_string {body : List Char}
    (h : ∀ character ∈ body, character ≠ '"' ∧ character ≠ '\\') :
    Denotes ('"' :: (body ++ ['"'])) (.atom (.string body)) := by
  intro rest _
  have hstep : Mode.outside.step '"' = .ok ([], .string []) := rfl
  rw [List.cons_append, List.append_assoc, List.singleton_append, lexLoop_cons_silent hstep,
    lexLoop_string h, List.nil_append]

theorem denotes_open : Denotes ['('] .openList := fun _ _ => lexLoop_cons rfl

theorem denotes_close : Denotes [')'] .closeList := fun _ _ => lexLoop_cons rfl

/-! ### Layouts -/

/-- **A layout of tokens has the lexemes of its tokens.** -/
theorem lexLoop_of_layout {tokens : List (List Char)} {text : List Char} {lexemes : List Lexeme}
    (h : Layout isWhitespace isParenthesis tokens text)
    (hlexemes : List.Forall₂ Denotes tokens lexemes) : lexLoop .outside text = .ok lexemes := by
  induction h generalizing lexemes with
  | nil =>
      cases hlexemes
      rfl
  | blank hblank _ ih =>
      rw [lexLoop_cons_silent (by rw [Mode.step, outsideStep, if_pos hblank])]
      exact ih hlexemes
  | @mark _ text character hmark _ ih =>
      cases hlexemes with
      | cons hfirst hrest =>
          have hword : Layout.IsWord isWhitespace isParenthesis character = false :=
            Layout.isWord_eq_false_iff.2 (Or.inr hmark)
          rw [← List.singleton_append, hfirst text, ih hrest]
          · rfl
          · intro hall
            rw [hall character (List.mem_singleton_self _)] at hword
            cases hword
  | word _ _ hends _ ih =>
      cases hlexemes with
      | cons hfirst hrest =>
          rw [hfirst _ fun _ => hends, ih hrest]
          rfl

/-! ### Lists -/

theorem listOf_append (elements : List Form) (rest : List Form) :
    listOf elements (.ofList rest) = .ofList (elements.reverse ++ rest) := by
  induction elements generalizing rest with
  | nil => rw [listOf, List.reverse_nil, List.nil_append]
  | cons element elements ih =>
      have hrest : Form.cons element (.ofList rest) = .ofList (element :: rest) := rfl
      rw [listOf, hrest, ih, List.reverse_cons, List.append_assoc, List.singleton_append]

/-- The elements of a list that are no lists. -/
theorem readLoop_atoms (forms : List Form) (lexemes : List Lexeme) (elements : List Form)
    (stack : List Frame) :
    readLoop (forms.map .atom ++ lexemes) (.elements elements :: stack) =
      readLoop lexemes (.elements (forms.reverse ++ elements) :: stack) := by
  induction forms generalizing elements with
  | nil => rw [List.map_nil, List.nil_append, List.reverse_nil, List.nil_append]
  | cons form forms ih =>
      rw [List.map_cons, List.cons_append, readLoop, readStep, deliver]
      dsimp only
      rw [ih, List.reverse_cons, List.append_assoc, List.singleton_append]

/-- A list that ends with another list. -/
theorem readLoop_nested (outer inner : List Form) :
    readLoop (.openList :: (outer.map .atom ++
        .openList :: (inner.map .atom ++ [.closeList, .closeList]))) [] =
      .ok (some (.ofList (outer ++ [.ofList inner]), [])) := by
  have hinner := listOf_append inner.reverse []
  have houter := listOf_append (.ofList inner :: outer.reverse) []
  rw [List.reverse_reverse, List.append_nil] at hinner
  rw [List.reverse_cons, List.reverse_reverse, List.append_nil] at houter
  rw [readLoop, readStep]
  dsimp only
  rw [readLoop_atoms, readLoop, readStep]
  dsimp only
  rw [readLoop_atoms, List.append_nil, List.append_nil, readLoop, readStep]
  dsimp only [Form.ofList] at hinner ⊢
  rw [hinner, deliver]
  dsimp only
  rw [readLoop, readStep]
  dsimp only [Form.ofList] at houter ⊢
  rw [houter, deliver]

/-! ### Files of tokens -/

theorem isParenthesis_characterOf : ∀ {byte : UInt8}, byte < 0x80 →
    (isParenthesis (characterOf byte) = true ↔ byte = 0x28 ∨ byte = 0x29) :=
  @(forall_ascii (by decide +kernel))

/-- A printable character that is no space. -/
def isGraphic (byte : UInt8) : Bool := 0x20 < byte ∧ byte < 0x7f

theorem isGraphic_iff {byte : UInt8} : isGraphic byte = true ↔ 0x20 < byte ∧ byte < 0x7f := by
  rw [isGraphic, decide_eq_true_eq]

theorem isWhitespace_characterOf {byte : UInt8} (hgraphic : isGraphic byte = true) :
    isWhitespace (characterOf byte) = false := by
  have hall : ∀ byte : UInt8, byte < 0x80 → isGraphic byte = true →
      isWhitespace (characterOf byte) = false :=
    forall_ascii (by decide +kernel)
  exact hall byte (UInt8.lt_trans (isGraphic_iff.1 hgraphic).2 (by decide)) hgraphic

/-- **The form of a file that is a layout** of printable tokens, with parentheses as its marks. -/
theorem readCatalog_of_layout {blank mark : UInt8 → Bool}
    (hblank : ∀ byte, blank byte = true → byte < 0x80 ∧ isWhitespace (characterOf byte) = true)
    (hmark : ∀ byte, mark byte = true ↔ byte = 0x28 ∨ byte = 0x29) (format : ExternalFormat)
    {contents : Bytes} {tokens : List Bytes} {lexemes : List Lexeme} {form : Form}
    (h : Layout blank mark tokens contents) (hsize : contents.length ≤ maximumCatalogBytes)
    (hgraphic : ∀ token ∈ tokens, token.all isGraphic = true)
    (hlexemes : List.Forall₂ Denotes (tokens.map (List.map characterOf)) lexemes)
    (hform : readLoop lexemes [] = .ok (some (form, []))) :
    readCatalog format contents = .ok form := by
  have hbytes : ∀ token ∈ tokens, ∀ byte ∈ token, isGraphic byte = true := fun token htoken =>
    List.all_eq_true.1 (hgraphic token htoken)
  have hascii : ∀ byte ∈ contents, byte < 0x80 :=
    h.forall_mem (fun byte hbyte => (hblank byte hbyte).1) fun token htoken byte hbyte =>
      UInt8.lt_trans (isGraphic_iff.1 (hbytes token htoken byte hbyte)).2 (by decide)
  have hlayout : Layout isWhitespace isParenthesis (tokens.map (List.map characterOf))
      (contents.map characterOf) := by
    refine h.map (fun byte hbyte => (hblank byte hbyte).2) ?_ ?_
    · intro byte hbyte
      rcases (hmark byte).1 hbyte with rfl | rfl
      · decide
      · decide
    · intro token htoken byte hbyte hword
      have hbyteGraphic := hbytes token htoken byte hbyte
      have hhigh := (isGraphic_iff.1 hbyteGraphic).2
      refine Layout.isWord_iff.2 ⟨isWhitespace_characterOf hbyteGraphic, ?_⟩
      rw [Bool.eq_false_iff, ne_eq,
        isParenthesis_characterOf (UInt8.lt_trans hhigh (by decide)), ← hmark,
        (Layout.isWord_iff.1 hword).2]
      decide
  have hend : readLoop [] [] = .ok none := rfl
  rw [readCatalog, if_neg (Nat.not_lt.2 hsize), format.decode_ascii contents hascii,
    lexLoop_of_layout hlayout hlexemes]
  dsimp only
  rw [hform]
  dsimp only
  rw [hend]

end NesDeck.CatalogCompiler
