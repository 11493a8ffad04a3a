/-
**The palette of the uploader.**

The uploader shows the colours of the dashboard in a form, and writes the ones that the user picks
to an override (`uploader/palette.go`): a Lisp form that the catalog compiler will read. It reads
the override back with a tokenizer of its own, and the table of the compiler line by line.

Main definitions:

* `NesDeck.Uploader.Palette` — the colours of the roles;
* `NesDeck.Uploader.validatePalette`, `NesDeck.Uploader.normalizeRGB` — the palettes that are saved;
* `NesDeck.Uploader.parsePaletteTSV` — the reader of a table;
* `NesDeck.Uploader.paletteTokens`, `NesDeck.Uploader.parsePaletteOverride` — the reader of an
  override;
* `NesDeck.Uploader.encodePaletteOverride` — the writer;
* `NesDeck.Uploader.IsOverride` — the tokens of an override.

Main results:

* `NesDeck.Uploader.paletteTokens_layout`, `NesDeck.Uploader.paletteTokens_of_layout` — **the tokens
  of a text are those it is a layout of**;
* `NesDeck.Uploader.parsePaletteOverride_iff` — **the overrides that are accepted**;
* `NesDeck.Uploader.parsePaletteOverride_encodePaletteOverride` — **what is written is read back**.
-/

import Mathlib.Data.List.Perm.Subperm
import NesDeck.Lib.Layout
import NesDeck.Lib.Table
import NesDeck.Uploader.Catalog

set_option relaxedAutoImplicit false
set_option autoImplicit false

namespace NesDeck.Uploader

open HostFile
open MenuText

def maximumPaletteBytes : ℕ := 4096

/-- The names of `dashboardPaletteSpecs`. -/
def paletteNames : List Bytes :=
  [ascii "background", ascii "text-dark", ascii "field", ascii "surface", ascii "inactive-border",
   ascii "control-border", ascii "footer", ascii "inactive-text", ascii "text", ascii "white",
   ascii "title", ascii "volume-off", ascii "volume-on", ascii "selected", ascii "wifi-active",
   ascii "wifi-focus", ascii "wifi-active-border", ascii "field-label", ascii "accent",
   ascii "active", ascii "control-surface", ascii "muted"]

/-- The colours by role. -/
abbrev Palette := Table Bytes Bytes

/-- The reasons for which a palette is refused, a table of one, or an override. -/
inductive PaletteError where
  | incomplete
  | missing (name : Bytes)
  | notCanonical (name : Bytes)
  | malformedEntry
  | invalidIcon
  | unknownEntry
  | repeated (name : Bytes)
  | notFullColor (name : Bytes)
  | lineTooLong
  | overrideSize
  | invalidToken
  | tokenTooLong
  | tooManyTokens
  | invalidStructure
  | version3
  | legacyIcon
  | version2
  | version
  | missingPalette
  | unknownColor
  | overrideRepeated (name : Bytes)
  | notQuoted (name : Bytes)
  | overrideNotFullColor (name : Bytes)
  deriving DecidableEq

/-- The text of the error. -/
def PaletteError.message : PaletteError → Bytes
  | incomplete => ascii "palette must contain every dashboard color exactly once"
  | missing name => ascii "palette is missing " ++ name
  | notCanonical name => ascii "palette " ++ name ++ ascii " must use canonical #RRGGBB"
  | malformedEntry => ascii "appearance contains a malformed entry"
  | invalidIcon => ascii "appearance contains an invalid settings icon"
  | unknownEntry => ascii "palette contains an unknown entry"
  | repeated name => ascii "palette repeats " ++ name
  | notFullColor name => ascii "palette " ++ name ++ ascii " is not a full RGB color"
  | lineTooLong => ascii "bufio.Scanner: token too long"
  | overrideSize => ascii "palette override has an invalid size"
  | invalidToken => ascii "palette override contains an invalid token"
  | tokenTooLong => ascii "palette override token is too long"
  | tooManyTokens => ascii "palette override contains too many tokens"
  | invalidStructure => ascii "appearance override has an invalid structure"
  | version3 => ascii "appearance override must use schema version 3"
  | legacyIcon => ascii "appearance override contains an invalid legacy settings icon"
  | version2 => ascii "palette override version 2 has an invalid structure"
  | version => ascii "appearance override must use schema version 2 or 3"
  | missingPalette => ascii "appearance override is missing its palette"
  | unknownColor => ascii "palette override contains an unknown color"
  | overrideRepeated name => ascii "palette override repeats " ++ name
  | notQuoted name => ascii "palette override " ++ name ++ ascii " is not a quoted RGB color"
  | overrideNotFullColor name =>
      ascii "palette override " ++ name ++ ascii " is not a full RGB color"

/-! ### Names and colours -/

def validPaletteName (name : Bytes) : Bool := paletteNames.any (· = name)

/-- The loop is over the runes of the name; a byte that is not ASCII belongs to a rune that is
refused, too. -/
def validLegacySettingsIcon (name : Bytes) : Bool :=
  if name.length = 0 ∨ 64 < name.length then false
  else name.all fun character =>
    isLower character = true ∨ isDigit character = true ∨ character = 0x2d

def isHexadecimal (character : UInt8) : Bool :=
  isDigit character = true ∨ (0x61 ≤ character ∧ character ≤ 0x66) ∨
    (0x41 ≤ character ∧ character ≤ 0x46)

/-- `strings.ToUpper` of an ASCII character. -/
def toUpper (character : UInt8) : UInt8 :=
  if isLower character = true then character - 0x20 else character

/-- The canonical text of a colour, if the text is one. -/
def normalizeRGB (value : Bytes) : Option Bytes :=
  if value.length ≠ 7 ∨ value.head? ≠ some 0x23 then none
  else if value.tail.all isHexadecimal = false then none
  else some (value.map toUpper)

/-- The loop over the roles. -/
def checkSpecs (values : Palette) : (names : List Bytes) → Except PaletteError Unit
  | [] => .ok ()
  | name :: names =>
      match values.get name with
      | none => .error (.missing name)
      | some value =>
          if normalizeRGB value ≠ some value then .error (.notCanonical name)
          else checkSpecs values names

def validatePalette (values : Palette) : Except PaletteError Unit :=
  if values.size ≠ paletteNames.length then .error .incomplete else checkSpecs values paletteNames

/-! ### Tables -/

/-- The loop over the lines.  The buffer of the scanner holds lines of up to 4096 bytes. -/
def paletteLines : (lines : List Bytes) → (sawLegacySettingsIcon : Bool) → (values : Palette) →
    Except PaletteError Palette
  | [], _, values => .ok values
  | raw :: lines, sawLegacySettingsIcon, values =>
      if 4096 < raw.length then .error .lineTooLong
      else
        match splitTabs (trimLine raw) with
        | [name, text] =>
            if name = ascii "settings-icon" then
              if sawLegacySettingsIcon = true ∨ validLegacySettingsIcon text = false then
                .error .invalidIcon
              else paletteLines lines true values
            else if validPaletteName name = false then .error .unknownEntry
            else if (values.get name).isSome = true then .error (.repeated name)
            else
              match normalizeRGB text with
              | none => .error (.notFullColor name)
              | some value => paletteLines lines sawLegacySettingsIcon (values.set name value)
        | _ => .error .malformedEntry

def parsePaletteTSV (contents : Bytes) : Except PaletteError Palette :=
  match paletteLines (getlines contents) false .empty with
  | .error error => .error error
  | .ok values =>
      match validatePalette values with
      | .error error => .error error
      | .ok () => .ok values

/-! ### Overrides -/

def isBlank (character : UInt8) : Bool :=
  character = 0x20 ∨ character = 0x09 ∨ character = 0x0d ∨ character = 0x0a

def isParenthesis (character : UInt8) : Bool := character = 0x28 ∨ character = 0x29

/-- The characters over which the inner loop of the tokenizer runs. -/
def isTokenCharacter (character : UInt8) : Bool := Layout.IsWord isBlank isParenthesis character

def maximumTokens : ℕ := 2 * paletteNames.length + 10

/-- The loop over the contents. -/
def tokenLoop (contents : Bytes) (tokens : List Bytes) : Except PaletteError (List Bytes) :=
  match contents with
  | [] => .ok tokens
  | character :: rest =>
      if isBlank character = true then tokenLoop rest tokens
      else if isParenthesis character = true then tokenLoop rest (tokens ++ [[character]])
      else
        let token := (character :: rest).takeWhile isTokenCharacter
        if token = [] then .error .invalidToken
        else if 64 < token.length then .error .tokenTooLong
        else if maximumTokens < (tokens ++ [token]).length then .error .tooManyTokens
        else tokenLoop (rest.dropWhile isTokenCharacter) (tokens ++ [token])
termination_by contents.length
decreasing_by
  · simp
  · simp
  · exact Nat.lt_succ_of_le (List.dropWhile_sublist _).length_le

def paletteTokens (contents : Bytes) : Except PaletteError (List Bytes) :=
  if contents.length = 0 ∨ maximumPaletteBytes < contents.length then .error .overrideSize
  else tokenLoop contents []

/-- The token at an index. -/
def tokenAt (tokens : List Bytes) (index : ℕ) : Bytes := tokens.getD index []

/-- The name of a legacy icon in its quotes. -/
def validEncodedIcon (encodedIcon : Bytes) : Bool :=
  3 ≤ encodedIcon.length ∧ encodedIcon.head? = some 0x22 ∧ encodedIcon.getLast? = some 0x22 ∧
    validLegacySettingsIcon encodedIcon.tail.dropLast = true

/-- Where the palette of an override should be, by the version of the override. -/
def paletteIndex (tokens : List Bytes) : Except PaletteError ℕ :=
  if tokenAt tokens 2 = ascii "3" then
    if tokens.length ≠ 2 * paletteNames.length + 9 ∨ tokenAt tokens 3 ≠ ascii ":settings-icon" then
      .error .version3
    else if validEncodedIcon (tokenAt tokens 4) = false then .error .legacyIcon
    else .ok 5
  else if tokenAt tokens 2 = ascii "2" then
    if tokens.length ≠ 2 * paletteNames.length + 7 then .error .version2 else .ok 3
  else .error .version

/-- The loop over the keys and colours; the last two tokens are the closing parentheses. -/
def colorLoop : (tokens : List Bytes) → (values : Palette) → Except PaletteError Palette
  | key :: encoded :: rest, values =>
      if rest = [] then .ok values
      else if key.head? ≠ some 0x3a ∨ validPaletteName key.tail = false then .error .unknownColor
      else if (values.get key.tail).isSome = true then .error (.overrideRepeated key.tail)
      else if encoded.length ≠ 9 ∨ encoded.head? ≠ some 0x22 ∨ encoded.getLast? ≠ some 0x22 then
        .error (.notQuoted key.tail)
      else
        match normalizeRGB encoded.tail.dropLast with
        | none => .error (.overrideNotFullColor key.tail)
        | some value => colorLoop rest (values.set key.tail value)
  | _, values => .ok values

def parsePaletteOverride (contents : Bytes) : Except PaletteError Palette :=
  match paletteTokens contents with
  | .error error => .error error
  | .ok tokens =>
      if tokens.length < 7 ∨ tokenAt tokens 0 ≠ ascii "(" ∨ tokenAt tokens 1 ≠ ascii ":version" ∨
          tokenAt tokens (tokens.length - 2) ≠ ascii ")" ∨
          tokenAt tokens (tokens.length - 1) ≠ ascii ")" then .error .invalidStructure
      else
        match paletteIndex tokens with
        | .error error => .error error
        | .ok index =>
            if tokenAt tokens index ≠ ascii ":palette" ∨ tokenAt tokens (index + 1) ≠ ascii "(" then
              .error .missingPalette
            else
              match colorLoop (tokens.drop (index + 2)) .empty with
              | .error error => .error error
              | .ok values =>
                  match validatePalette values with
                  | .error error => .error error
                  | .ok () => .ok values

/-- The key and the quoted colour of a role; a role without a colour has the empty text. -/
def encodeEntry (values : Palette) (name : Bytes) : Bytes :=
  ascii ":" ++ name ++ ascii " \"" ++ (values.get name).getD [] ++ ascii "\""

def encodePaletteOverride (values : Palette) : Bytes :=
  ascii "(:version 2\n :palette\n  (" ++
    List.intercalate (ascii "\n   ") (paletteNames.map (encodeEntry values)) ++ ascii "))\n"

/-! ### Tokens -/

/-- The tokenizer finds the tokens of which the contents are a layout. -/
theorem tokenLoop_layout {contents : Bytes} {tokens result : List Bytes}
    (h : tokenLoop contents tokens = .ok result) :
    ∃ pieces, result = tokens ++ pieces ∧ Layout isBlank isParenthesis pieces contents ∧
      ∀ piece ∈ pieces, piece.length ≤ 64 := by
  fun_induction tokenLoop contents tokens with
  | case1 tokens =>
      cases h
      exact ⟨[], (List.append_nil _).symm, .nil, fun _ hmem => absurd hmem List.not_mem_nil⟩
  | case2 tokens character rest hblank ih =>
      obtain ⟨pieces, hresult, hlayout, hshort⟩ := ih h
      exact ⟨pieces, hresult, .blank hblank hlayout, hshort⟩
  | case3 tokens character rest _ hmark ih =>
      obtain ⟨pieces, rfl, hlayout, hshort⟩ := ih h
      refine ⟨[character] :: pieces, ?_, .mark hmark hlayout,
        List.forall_mem_cons.2 ⟨Nat.le_of_ble_eq_true rfl, hshort⟩⟩
      rw [List.append_assoc, List.singleton_append]
  | case4 => cases h
  | case5 => cases h
  | case6 => cases h
  | case7 tokens character rest hblank hmark token _ hlong _ ih =>
      obtain ⟨pieces, rfl, hlayout, hshort⟩ := ih h
      rw [Bool.not_eq_true] at hblank hmark
      refine ⟨token :: pieces, ?_,
        Layout.cons_takeWhile (Layout.isWord_iff.2 ⟨hblank, hmark⟩) hlayout,
        List.forall_mem_cons.2 ⟨Nat.not_lt.1 hlong, hshort⟩⟩
      rw [List.append_assoc, List.singleton_append]

theorem isBlank_of_isParenthesis {character : UInt8} (h : isParenthesis character = true) :
    isBlank character = false := by
  rw [isParenthesis, decide_eq_true_eq] at h
  rcases h with rfl | rfl
  · decide
  · decide

/-- The tokens of a layout are found, if they are short and not too many. -/
theorem tokenLoop_of_layout {pieces : List Bytes} {contents : Bytes}
    (h : Layout isBlank isParenthesis pieces contents)
    (hshort : ∀ piece ∈ pieces, piece.length ≤ 64) {tokens : List Bytes}
    (hroom : tokens.length + pieces.length ≤ maximumTokens) :
    tokenLoop contents tokens = .ok (tokens ++ pieces) := by
  induction h generalizing tokens with
  | nil => rw [tokenLoop, List.append_nil]
  | blank hblank _ ih =>
      rw [tokenLoop, if_pos hblank]
      exact ih hshort hroom
  | mark hmark _ ih =>
      rw [List.forall_mem_cons] at hshort
      rw [List.length_cons] at hroom
      rw [tokenLoop, if_neg (by rw [isBlank_of_isParenthesis hmark]; decide), if_pos hmark,
        ih hshort.2,
        List.append_assoc, List.singleton_append]
      rw [List.length_append, List.length_singleton]
      omega
  | @word pieces text word hne hword hends _ ih =>
      obtain ⟨character, rest, rfl⟩ := List.exists_cons_of_ne_nil hne
      have htake : (character :: (rest ++ text)).takeWhile isTokenCharacter = character :: rest :=
        Layout.takeWhile_eq hword hends
      have hdrop : (rest ++ text).dropWhile isTokenCharacter = text :=
        Layout.dropWhile_eq (fun c hc => hword c (List.mem_cons_of_mem _ hc)) hends
      obtain ⟨hblank, hmark⟩ := Layout.isWord_iff.1 (hword character List.mem_cons_self)
      rw [List.forall_mem_cons] at hshort
      rw [List.length_cons] at hroom
      rw [List.cons_append, tokenLoop, if_neg (by rw [hblank]; decide),
        if_neg (by rw [hmark]; decide)]
      dsimp only
      rw [htake, hdrop, if_neg hne, if_neg (Nat.not_lt.2 hshort.1), if_neg, ih hshort.2,
        List.append_assoc, List.singleton_append]
      · rw [List.length_append, List.length_singleton]
        omega
      · rw [List.length_append, List.length_singleton]
        omega

theorem paletteTokens_layout {contents : Bytes} {tokens : List Bytes}
    (h : paletteTokens contents = .ok tokens) :
    Layout isBlank isParenthesis tokens contents ∧ (∀ token ∈ tokens, token.length ≤ 64) ∧
      contents.length ≤ maximumPaletteBytes := by
  rw [paletteTokens] at h
  split at h
  · cases h
  rename_i hsize
  rw [not_or] at hsize
  obtain ⟨pieces, hresult, hlayout, hshort⟩ := tokenLoop_layout h
  rw [List.nil_append] at hresult
  subst hresult
  exact ⟨hlayout, hshort, Nat.not_lt.1 hsize.2⟩

theorem paletteTokens_of_layout {contents : Bytes} {tokens : List Bytes}
    (h : Layout isBlank isParenthesis tokens contents) (hne : tokens ≠ [])
    (hshort : ∀ token ∈ tokens, token.length ≤ 64) (hroom : tokens.length ≤ maximumTokens)
    (hsize : contents.length ≤ maximumPaletteBytes) : paletteTokens contents = .ok tokens := by
  have hempty : contents ≠ [] := mt h.tokens_eq_nil hne
  rw [paletteTokens, if_neg, tokenLoop_of_layout h hshort (by simpa using hroom), List.nil_append]
  rw [not_or, List.length_eq_zero_iff]
  exact ⟨hempty, Nat.not_lt.2 hsize⟩

/-! ### Colours -/

theorem normalizeRGB_eq_some_iff {value canonical : Bytes} :
    normalizeRGB value = some canonical ↔
      value.length = 7 ∧ value.head? = some 0x23 ∧ value.tail.all isHexadecimal = true ∧
        canonical = value.map toUpper := by
  rw [normalizeRGB]
  split
  · rename_i hshape
    refine ⟨by simp, ?_⟩
    rintro ⟨hlength, hhead, -⟩
    rcases hshape with hne | hne
    · exact absurd hlength hne
    · exact absurd hhead hne
  · rename_i hshape
    rw [not_or, not_not, not_not] at hshape
    split
    · rename_i hdigits
      refine ⟨by simp, ?_⟩
      rintro ⟨-, -, hall, -⟩
      rw [hdigits] at hall
      cases hall
    · rename_i hdigits
      rw [Bool.not_eq_false] at hdigits
      simp only [hshape.1, hshape.2, hdigits, true_and, Option.some.injEq]
      exact eq_comm

theorem validPaletteName_iff {name : Bytes} : validPaletteName name = true ↔
    name ∈ paletteNames := by
  simp [validPaletteName]

/-! ### Entries -/

/-- The colours of the entries, on top of those that are there. -/
def addColors (entries : List (Bytes × Bytes)) (values : Palette) : Palette :=
  entries.foldl (fun values entry => values.set entry.1 (entry.2.map toUpper)) values

/-- Entries that both loops accept: roles that exist, none of them there yet and none twice, and
colours. -/
structure IsEntries (values : Palette) (entries : List (Bytes × Bytes)) : Prop where
  known : ∀ entry ∈ entries, entry.1 ∈ paletteNames
  colors : ∀ entry ∈ entries, normalizeRGB entry.2 = some (entry.2.map toUpper)
  fresh : ∀ entry ∈ entries, values.get entry.1 = none
  nodup : (entries.map Prod.fst).Nodup

theorem isEntries_nil (values : Palette) : IsEntries values [] where
  known := fun _ h => absurd h List.not_mem_nil
  colors := fun _ h => absurd h List.not_mem_nil
  fresh := fun _ h => absurd h List.not_mem_nil
  nodup := List.nodup_nil

/-- What the loops check of one entry. -/
theorem isEntries_cons_iff {values : Palette} {name text : Bytes} {entries : List (Bytes × Bytes)} :
    IsEntries values ((name, text) :: entries) ↔
      name ∈ paletteNames ∧ normalizeRGB text = some (text.map toUpper) ∧ values.get name = none ∧
        IsEntries (values.set name (text.map toUpper)) entries := by
  constructor
  · intro h
    obtain ⟨hname, hknown⟩ := List.forall_mem_cons.1 h.known
    obtain ⟨htext, hcolors⟩ := List.forall_mem_cons.1 h.colors
    obtain ⟨hnew, hfresh⟩ := List.forall_mem_cons.1 h.fresh
    have hnodup := h.nodup
    rw [List.map_cons, List.nodup_cons] at hnodup
    refine ⟨hname, htext, hnew, hknown, hcolors, ?_, hnodup.2⟩
    intro entry hentry
    rw [Table.get_set_of_ne]
    · exact hfresh entry hentry
    · rintro rfl
      exact hnodup.1 (List.mem_map.2 ⟨entry, hentry, rfl⟩)
  · rintro ⟨hname, htext, hnew, h⟩
    have hne : ∀ entry ∈ entries, entry.1 ≠ name := by
      rintro entry hentry rfl
      have hfresh := h.fresh entry hentry
      rw [Table.get_set_self] at hfresh
      cases hfresh
    refine ⟨List.forall_mem_cons.2 ⟨hname, h.known⟩, List.forall_mem_cons.2 ⟨htext, h.colors⟩,
      List.forall_mem_cons.2 ⟨hnew, ?_⟩, ?_⟩
    · intro entry hentry
      have hfresh := h.fresh entry hentry
      rwa [Table.get_set_of_ne _ _ (hne entry hentry)] at hfresh
    · rw [List.map_cons, List.nodup_cons]
      refine ⟨?_, h.nodup⟩
      intro hmem
      obtain ⟨entry, hentry, heq⟩ := List.mem_map.1 hmem
      exact hne entry hentry heq

/-- A role has the colour of its entry. -/
theorem get_addColors {values : Palette} {entries : List (Bytes × Bytes)}
    (h : IsEntries values entries) (name color : Bytes) :
    (addColors entries values).get name = some color ↔
      (∃ text, (name, text) ∈ entries ∧ color = text.map toUpper) ∨
        values.get name = some color := by
  induction entries generalizing values with
  | nil => simp [addColors]
  | cons entry entries ih =>
      obtain ⟨-, -, hnew, hrest⟩ := isEntries_cons_iff.1 h
      have hstep : addColors (entry :: entries) values =
          addColors entries (values.set entry.1 (entry.2.map toUpper)) := rfl
      rw [hstep, ih hrest, Table.get_set]
      constructor
      · rintro (⟨text, hmem, hcolor⟩ | hget)
        · exact Or.inl ⟨text, List.mem_cons_of_mem _ hmem, hcolor⟩
        · split at hget
          · rename_i hname
            refine Or.inl ⟨entry.2, ?_, (Option.some.inj hget).symm⟩
            rw [hname]
            exact List.mem_cons_self
          · exact Or.inr hget
      · rintro (⟨text, hmem, hcolor⟩ | hget)
        · rcases List.mem_cons.1 hmem with heq | hmem
          · right
            rw [← heq, if_pos rfl, hcolor]
          · exact Or.inl ⟨text, hmem, hcolor⟩
        · right
          rw [if_neg, hget]
          rintro rfl
          rw [hnew] at hget
          cases hget

theorem size_addColors {values : Palette} {entries : List (Bytes × Bytes)}
    (h : IsEntries values entries) :
    (addColors entries values).size = values.size + entries.length := by
  induction entries generalizing values with
  | nil => rfl
  | cons entry entries ih =>
      obtain ⟨-, -, hnew, hrest⟩ := isEntries_cons_iff.1 h
      have hstep : addColors (entry :: entries) values =
          addColors entries (values.set entry.1 (entry.2.map toUpper)) := rfl
      rw [hstep, ih hrest, Table.size_set_of_get_eq_none hnew, List.length_cons]
      omega

/-- The key and the quoted colour of every entry. -/
def entryTokens (entries : List (Bytes × Bytes)) : List Bytes :=
  entries.flatMap fun entry => [0x3a :: entry.1, 0x22 :: (entry.2 ++ [0x22])]

theorem entryTokens_cons (entry : Bytes × Bytes) (entries : List (Bytes × Bytes)) :
    entryTokens (entry :: entries) =
      (0x3a :: entry.1) :: (0x22 :: (entry.2 ++ [0x22])) :: entryTokens entries := rfl

theorem length_entryTokens (entries : List (Bytes × Bytes)) :
    (entryTokens entries).length = 2 * entries.length := by
  induction entries with
  | nil => rfl
  | cons entry entries ih =>
      rw [entryTokens_cons, List.length_cons, List.length_cons, List.length_cons, ih]
      omega

/-- What the loop does with the tokens of one more entry. -/
theorem colorLoop_entry {values : Palette} {name text : Bytes} {rest : List Bytes}
    (hrest : rest ≠ []) (hname : name ∈ paletteNames)
    (htext : normalizeRGB text = some (text.map toUpper)) (hnew : values.get name = none) :
    colorLoop ((0x3a :: name) :: (0x22 :: (text ++ [0x22])) :: rest) values =
      colorLoop rest (values.set name (text.map toUpper)) := by
  have hlength := (normalizeRGB_eq_some_iff.1 htext).1
  have hlast : (0x22 :: (text ++ [0x22])).getLast? = some (0x22 : UInt8) := by
    rw [← List.cons_append, List.getLast?_concat]
  rw [colorLoop, if_neg hrest, if_neg, if_neg, if_neg]
  · rw [List.tail_cons, List.tail_cons, List.dropLast_concat, htext]
  · simp [hlength, hlast]
  · simp [hnew]
  · simp [validPaletteName_iff.2 hname]

theorem colorLoop_entryTokens {values : Palette} {entries : List (Bytes × Bytes)}
    (h : IsEntries values entries) {last : List Bytes} (hlast : last.length = 2) :
    colorLoop (entryTokens entries ++ last) values = .ok (addColors entries values) := by
  induction entries generalizing values with
  | nil =>
      obtain ⟨first, second, rfl⟩ := List.length_eq_two.1 hlast
      rw [entryTokens, List.flatMap_nil, List.nil_append, colorLoop, if_pos rfl]
      rfl
  | cons entry entries ih =>
      obtain ⟨hname, htext, hnew, hrest⟩ := isEntries_cons_iff.1 h
      have hne : entryTokens entries ++ last ≠ [] := by
        intro hnil
        rw [(List.append_eq_nil_iff.1 hnil).2] at hlast
        cases hlast
      rw [entryTokens_cons, List.cons_append, List.cons_append,
        colorLoop_entry hne hname htext hnew]
      exact ih hrest

/-- A text in quotes. -/
theorem eq_quoted {encoded : Bytes} {n : ℕ} (hlength : encoded.length = n + 2)
    (hhead : encoded.head? = some 0x22) (hlast : encoded.getLast? = some 0x22) :
    encoded = 0x22 :: (encoded.tail.dropLast ++ [0x22]) := by
  obtain ⟨rest, rfl⟩ := List.head?_eq_some_iff.1 hhead
  have hne : rest ≠ [] := by
    rintro rfl
    rw [List.length_cons, List.length_nil] at hlength
    omega
  rw [List.tail_cons]
  rw [List.getLast?_cons_of_ne_nil hne] at hlast
  obtain ⟨front, rfl⟩ := List.getLast?_eq_some_iff.1 hlast
  rw [List.dropLast_concat]

/-- **The tokens that the loop accepts** are those of entries, up to the last two. -/
theorem colorLoop_spec {tokens : List Bytes} {values result : Palette}
    (h : colorLoop tokens values = .ok result) (heven : tokens.length % 2 = 0)
    (hlength : 2 ≤ tokens.length) :
    ∃ entries last, tokens = entryTokens entries ++ last ∧ last.length = 2 ∧
      IsEntries values entries ∧ result = addColors entries values := by
  fun_induction colorLoop tokens values with
  | case1 key encoded values =>
      cases h
      exact ⟨[], [key, encoded], rfl, rfl, isEntries_nil _, rfl⟩
  | case2 => cases h
  | case3 => cases h
  | case4 => cases h
  | case5 => cases h
  | case6 key encoded rest values hrest hkey hnew hquoted value hvalue ih =>
      rw [not_or, not_not, Bool.not_eq_false, validPaletteName_iff] at hkey
      rw [Bool.not_eq_true, Option.isSome_eq_false_iff, Option.isNone_iff_eq_none] at hnew
      rw [not_or, not_or, not_not, not_not, not_not] at hquoted
      obtain ⟨hnine, hhead, hlast⟩ := hquoted
      have hpos : 0 < rest.length := List.length_pos_iff.2 hrest
      rw [List.length_cons, List.length_cons] at heven
      obtain ⟨entries, last, rfl, htwo, hentries, rfl⟩ := ih h (by omega) (by omega)
      have hcanonical := normalizeRGB_eq_some_iff.1 hvalue
      rw [hcanonical.2.2.2] at hvalue hentries ⊢
      refine ⟨(key.tail, encoded.tail.dropLast) :: entries, last, ?_, htwo,
        isEntries_cons_iff.2 ⟨hkey.2, hvalue, hnew, hentries⟩, rfl⟩
      have hkeyToken : key = 0x3a :: key.tail := by
        obtain ⟨name, rfl⟩ := List.head?_eq_some_iff.1 hkey.1
        rfl
      have hencoded := eq_quoted (n := 7) hnine hhead hlast
      rw [entryTokens_cons, List.cons_append, List.cons_append, ← hkeyToken, ← hencoded]
  | case7 tokens values hshort =>
      match tokens, hlength with
      | key :: encoded :: rest, _ => exact absurd rfl (hshort key encoded rest)

/-! ### Valid palettes -/

theorem checkSpecs_iff {values : Palette} {names : List Bytes} :
    checkSpecs values names = .ok () ↔
      ∀ name ∈ names, ∃ value, values.get name = some value ∧ normalizeRGB value = some value := by
  induction names with
  | nil => simp [checkSpecs]
  | cons name names ih =>
      rw [checkSpecs, List.forall_mem_cons]
      cases hget : values.get name with
      | none => simp
      | some value =>
          dsimp only
          split
          · rename_i hne
            simp [hne]
          · rename_i hcanonical
            rw [not_not] at hcanonical
            rw [ih]
            simp [hcanonical]

theorem validatePalette_iff {values : Palette} :
    validatePalette values = .ok () ↔
      values.size = paletteNames.length ∧
        ∀ name ∈ paletteNames, ∃ value, values.get name = some value ∧
          normalizeRGB value = some value := by
  rw [validatePalette, ← checkSpecs_iff]
  split
  · rename_i hsize
    simp [hsize]
  · rename_i hsize
    rw [not_not] at hsize
    simp [hsize]

theorem nodup_paletteNames : paletteNames.Nodup := by decide

theorem length_paletteNames_le : ∀ name ∈ paletteNames, name.length ≤ 32 := by decide

/-- As many different names as there are roles, all of them roles: these are all of them. -/
theorem perm_paletteNames {names : List Bytes} (hnodup : names.Nodup)
    (hknown : ∀ name ∈ names, name ∈ paletteNames) (hlength : names.length = paletteNames.length) :
    names.Perm paletteNames :=
  (List.Nodup.subperm hnodup hknown).perm_of_length_le (Nat.le_of_eq hlength.symm)

/-- A valid palette has colours for nothing but the roles. -/
theorem mem_paletteNames_of_get {values : Palette} (h : validatePalette values = .ok ())
    {name color : Bytes} (hget : values.get name = some color) : name ∈ paletteNames := by
  obtain ⟨hsize, hnames⟩ := validatePalette_iff.1 h
  have hsubset : ∀ role ∈ paletteNames, role ∈ values.entries.map Prod.fst := by
    intro role hrole
    obtain ⟨value, hvalue, -⟩ := hnames role hrole
    exact List.mem_map.2 ⟨_, (Table.get_eq_some values role value).1 hvalue, rfl⟩
  have hperm : paletteNames.Perm (values.entries.map Prod.fst) := by
    refine (List.Nodup.subperm nodup_paletteNames hsubset).perm_of_length_le ?_
    rw [List.length_map]
    exact Nat.le_of_eq hsize
  exact hperm.mem_iff.2 (List.mem_map.2 ⟨_, (Table.get_eq_some values name color).1 hget, rfl⟩)

theorem isHexadecimal_toUpper : ∀ {character : UInt8}, isHexadecimal character = true →
    isHexadecimal (toUpper character) = true ∧ toUpper (toUpper character) = toUpper character :=
  @(forall_byte (by decide +kernel))

/-- The canonical text of a colour is its own one. -/
theorem normalizeRGB_canonical {text canonical : Bytes} (h : normalizeRGB text = some canonical) :
    normalizeRGB canonical = some canonical := by
  obtain ⟨hlength, hhead, hdigits, rfl⟩ := normalizeRGB_eq_some_iff.1 h
  obtain ⟨digits, rfl⟩ := List.head?_eq_some_iff.1 hhead
  rw [List.tail_cons, List.all_eq_true] at hdigits
  refine normalizeRGB_eq_some_iff.2 ⟨by rw [List.length_map, hlength], rfl, ?_, ?_⟩
  · rw [List.map_cons, List.tail_cons, List.all_map]
    exact List.all_eq_true.2 fun c hc => (isHexadecimal_toUpper (hdigits c hc)).1
  · rw [List.map_map]
    refine List.map_congr_left ?_
    intro c hc
    rcases List.mem_cons.1 hc with rfl | hc
    · decide
    · exact (isHexadecimal_toUpper (hdigits c hc)).2.symm

/-- Entries are a palette exactly if there are as many of them as roles. -/
theorem validatePalette_addColors_iff {entries : List (Bytes × Bytes)}
    (h : IsEntries .empty entries) :
    validatePalette (addColors entries .empty) = .ok () ↔ entries.length = paletteNames.length := by
  have hsize := size_addColors h
  rw [Table.size_empty, Nat.zero_add] at hsize
  rw [validatePalette_iff, hsize]
  refine ⟨And.left, fun hlength => ⟨hlength, ?_⟩⟩
  intro name hname
  have hknown : ∀ role ∈ entries.map Prod.fst, role ∈ paletteNames :=
    List.forall_mem_map.2 h.known
  have hperm := perm_paletteNames h.nodup hknown (by rw [List.length_map, hlength])
  obtain ⟨⟨role, text⟩, hmem, rfl⟩ := List.mem_map.1 (hperm.mem_iff.2 hname)
  exact ⟨text.map toUpper, (get_addColors h role _).2 (Or.inl ⟨text, hmem, rfl⟩),
    normalizeRGB_canonical (h.colors _ hmem)⟩

/-! ### The overrides that are accepted -/

/-- The tokens in front of the entries; an icon makes it version 3. -/
def headTokens : (icon : Option Bytes) → List Bytes
  | none => [ascii "(", ascii ":version", ascii "2", ascii ":palette", ascii "("]
  | some name =>
      [ascii "(", ascii ":version", ascii "3", ascii ":settings-icon", 0x22 :: (name ++ [0x22]),
       ascii ":palette", ascii "("]

def overrideTokens (icon : Option Bytes) (entries : List (Bytes × Bytes)) : List Bytes :=
  headTokens icon ++ (entryTokens entries ++ [ascii ")", ascii ")"])

/-- A text that is laid out as an override, with an entry for every role. -/
structure IsOverride (contents : Bytes) (icon : Option Bytes) (entries : List (Bytes × Bytes)) :
    Prop where
  size : contents.length ≤ maximumPaletteBytes
  layout : Layout isBlank isParenthesis (overrideTokens icon entries) contents
  icon : ∀ name ∈ icon, validLegacySettingsIcon name = true ∧ name.length ≤ 62
  valid : IsEntries .empty entries
  complete : entries.length = paletteNames.length

theorem paletteIndex_spec {tokens : List Bytes} {index : ℕ} (h : paletteIndex tokens = .ok index) :
    (tokens.length = 51 ∧ tokenAt tokens 2 = ascii "2" ∧ index = 3) ∨
      (tokens.length = 53 ∧ tokenAt tokens 2 = ascii "3" ∧
        tokenAt tokens 3 = ascii ":settings-icon" ∧ validEncodedIcon (tokenAt tokens 4) = true ∧
        index = 5) := by
  rw [paletteIndex] at h
  split at h
  · rename_i hversion
    split at h
    · cases h
    rename_i hshape
    rw [not_or, not_not, not_not] at hshape
    split at h
    · cases h
    rename_i hicon
    cases h
    exact Or.inr ⟨hshape.1, hversion, hshape.2, (Bool.not_eq_false _).mp hicon, rfl⟩
  split at h
  · rename_i hversion
    split at h
    · cases h
    rename_i hlength
    rw [not_not] at hlength
    cases h
    exact Or.inl ⟨hlength, hversion, rfl⟩
  · cases h

theorem validEncodedIcon_spec {encodedIcon : Bytes} (h : validEncodedIcon encodedIcon = true) :
    ∃ name, encodedIcon = 0x22 :: (name ++ [0x22]) ∧ validLegacySettingsIcon name = true := by
  rw [validEncodedIcon, decide_eq_true_eq] at h
  obtain ⟨hlength, hhead, hlast, hname⟩ := h
  have hlong : encodedIcon.length = encodedIcon.length - 2 + 2 := by omega
  exact ⟨_, eq_quoted hlong hhead hlast, hname⟩

/-- The head of an override, by its version. -/
theorem eq_headTokens {tokens : List Bytes} {index : ℕ} (hopen : tokenAt tokens 0 = ascii "(")
    (hversion : tokenAt tokens 1 = ascii ":version") (hindex : paletteIndex tokens = .ok index)
    (hpalette : tokenAt tokens index = ascii ":palette")
    (hinner : tokenAt tokens (index + 1) = ascii "(") :
    ∃ icon, (∀ name ∈ icon, validLegacySettingsIcon name = true) ∧
      tokens = headTokens icon ++ tokens.drop (index + 2) ∧
      (tokens.drop (index + 2)).length = 2 * paletteNames.length + 2 := by
  rcases paletteIndex_spec hindex with ⟨hlength, htwo, rfl⟩ | ⟨hlength, hthree, hicon, hname, rfl⟩
  · match tokens, hlength with
    | t₀ :: t₁ :: t₂ :: t₃ :: t₄ :: rest, hlength =>
        refine ⟨none, by simp, ?_, Nat.add_right_cancel (m := 5) hlength⟩
        simp only [tokenAt, List.getD_cons_zero, List.getD_cons_succ] at *
        rw [hopen, hversion, htwo, hpalette, hinner]
        rfl
  · obtain ⟨name, hencoded, hvalid⟩ := validEncodedIcon_spec hname
    match tokens, hlength with
    | t₀ :: t₁ :: t₂ :: t₃ :: t₄ :: t₅ :: t₆ :: rest, hlength =>
        refine ⟨some name, fun other h => Option.some.inj h ▸ hvalid, ?_,
          Nat.add_right_cancel (m := 7) hlength⟩
        simp only [tokenAt, List.getD_cons_zero, List.getD_cons_succ] at *
        rw [hopen, hversion, hthree, hicon, hencoded, hpalette, hinner]
        rfl

/-- The last two tokens. -/
theorem tokenAt_last (front : List Bytes) (first second : Bytes) :
    tokenAt (front ++ [first, second]) ((front ++ [first, second]).length - 2) = first ∧
      tokenAt (front ++ [first, second]) ((front ++ [first, second]).length - 1) = second := by
  simp [tokenAt]

/-- **The overrides that are accepted**, and their colours. -/
theorem parsePaletteOverride_spec {contents : Bytes} {values : Palette}
    (h : parsePaletteOverride contents = .ok values) :
    ∃ icon entries, IsOverride contents icon entries ∧ values = addColors entries .empty := by
  rw [parsePaletteOverride] at h
  split at h
  · cases h
  rename_i tokens htokens
  obtain ⟨hlayout, hshort, hsize⟩ := paletteTokens_layout htokens
  split at h
  · cases h
  rename_i hstructure
  simp only [not_or, not_not] at hstructure
  obtain ⟨-, hopen, hversion, hclose, hend⟩ := hstructure
  split at h
  · cases h
  rename_i index hindex
  split at h
  · cases h
  rename_i hpalette
  rw [not_or, not_not, not_not] at hpalette
  split at h
  · cases h
  rename_i result hcolors
  split at h
  · cases h
  rename_i hvalid
  cases h
  obtain ⟨icon, hicon, htokensEq, hlength⟩ :=
    eq_headTokens hopen hversion hindex hpalette.1 hpalette.2
  obtain ⟨entries, last, hrest, hlast, hentries, rfl⟩ :=
    colorLoop_spec hcolors (by omega) (by omega)
  obtain ⟨first, second, rfl⟩ := List.length_eq_two.1 hlast
  have hends := tokenAt_last (headTokens icon ++ entryTokens entries) first second
  rw [List.append_assoc, ← hrest, ← htokensEq, hclose, hend] at hends
  rw [← hends.1, ← hends.2] at hrest
  rw [hrest] at htokensEq
  subst htokensEq
  refine ⟨icon, entries, ⟨hsize, hlayout, fun name hname => ⟨hicon name hname, ?_⟩, hentries,
    (validatePalette_addColors_iff hentries).1 hvalid⟩, rfl⟩
  rw [Option.mem_def] at hname
  subst hname
  have hquoted := hshort (0x22 :: (name ++ [0x22])) (by simp [headTokens])
  rw [List.length_cons, List.length_append, List.length_singleton] at hquoted
  omega

/-- A property of the tokens of an override: of the fixed ones, of the icon and of each entry. -/
theorem forall_overrideTokens {icon : Option Bytes} {entries : List (Bytes × Bytes)}
    {P : Bytes → Prop}
    (hfixed : ∀ token ∈ [ascii "(", ascii ")", ascii ":version", ascii "2", ascii "3",
      ascii ":settings-icon", ascii ":palette"], P token)
    (hicon : ∀ name ∈ icon, P (0x22 :: (name ++ [0x22])))
    (hentries : ∀ entry ∈ entries, P (0x3a :: entry.1) ∧ P (0x22 :: (entry.2 ++ [0x22]))) :
    ∀ token ∈ overrideTokens icon entries, P token := by
  simp only [List.forall_mem_cons] at hfixed
  obtain ⟨hopen, hclose, hversion, htwo, hthree, hkey, hpalette, hnil⟩ := hfixed
  rw [overrideTokens, List.forall_mem_append, List.forall_mem_append]
  refine ⟨?_, ?_, ?_⟩
  · cases icon with
    | none =>
        simp only [headTokens, List.forall_mem_cons]
        exact ⟨hopen, hversion, htwo, hpalette, hopen, hnil⟩
    | some name =>
        simp only [headTokens, List.forall_mem_cons]
        exact ⟨hopen, hversion, hthree, hkey, hicon name rfl, hpalette, hopen, hnil⟩
  · intro token hmem
    obtain ⟨entry, hentry, hmem⟩ := List.mem_flatMap.1 hmem
    rcases List.mem_pair.1 hmem with rfl | rfl
    · exact (hentries entry hentry).1
    · exact (hentries entry hentry).2
  · simp only [List.forall_mem_cons]
    exact ⟨hclose, hclose, hnil⟩

/-- The tokens of an override are short enough for the tokenizer. -/
theorem IsOverride.length_token_le {contents : Bytes} {icon : Option Bytes}
    {entries : List (Bytes × Bytes)} (h : IsOverride contents icon entries) :
    ∀ token ∈ overrideTokens icon entries, token.length ≤ 64 := by
  refine forall_overrideTokens (by decide) ?_ ?_
  · intro name hname
    have hlength := (h.icon name hname).2
    rw [List.length_cons, List.length_append, List.length_singleton]
    omega
  · intro entry hentry
    have hname := length_paletteNames_le entry.1 (h.valid.known entry hentry)
    have hcolor := (normalizeRGB_eq_some_iff.1 (h.valid.colors entry hentry)).1
    simp only [List.length_cons, List.length_append, List.length_nil]
    omega

theorem validEncodedIcon_quoted {name : Bytes} (h : validLegacySettingsIcon name = true) :
    validEncodedIcon (0x22 :: (name ++ [0x22])) = true := by
  have hne : name.length ≠ 0 := by
    intro hnil
    rw [validLegacySettingsIcon, if_pos (Or.inl hnil)] at h
    cases h
  have hlast : (0x22 :: (name ++ [0x22])).getLast? = some (0x22 : UInt8) := by
    rw [← List.cons_append, List.getLast?_concat]
  rw [validEncodedIcon, decide_eq_true_eq, hlast, List.tail_cons, List.dropLast_concat,
    List.length_cons, List.length_append, List.length_singleton]
  exact ⟨by omega, rfl, rfl, h⟩

/-- The version of an override tells where its palette is. -/
theorem paletteIndex_headTokens {icon : Option Bytes} {rest : List Bytes}
    (hicon : ∀ name ∈ icon, validLegacySettingsIcon name = true)
    (hlength : rest.length = 2 * paletteNames.length + 2) :
    ∃ index, paletteIndex (headTokens icon ++ rest) = .ok index ∧
      tokenAt (headTokens icon ++ rest) index = ascii ":palette" ∧
      tokenAt (headTokens icon ++ rest) (index + 1) = ascii "(" ∧
      (headTokens icon ++ rest).drop (index + 2) = rest := by
  have hthree : ascii "2" ≠ ascii "3" := by decide
  cases icon with
  | none =>
      have hversion : tokenAt (headTokens none ++ rest) 2 = ascii "2" := rfl
      refine ⟨3, ?_, rfl, rfl, rfl⟩
      rw [paletteIndex, hversion, if_neg hthree, if_pos rfl, if_neg]
      rw [List.length_append, hlength, not_not]
      rfl
  | some name =>
      have hversion : tokenAt (headTokens (some name) ++ rest) 2 = ascii "3" := rfl
      have hkey : tokenAt (headTokens (some name) ++ rest) 3 = ascii ":settings-icon" := rfl
      have hquoted : tokenAt (headTokens (some name) ++ rest) 4 = 0x22 :: (name ++ [0x22]) := rfl
      refine ⟨5, ?_, rfl, rfl, rfl⟩
      rw [paletteIndex, hversion, if_pos rfl, hkey, if_neg, hquoted,
        validEncodedIcon_quoted (hicon name rfl), if_neg (by decide)]
      rw [List.length_append, hlength, not_or, not_not, not_not]
      exact ⟨rfl, rfl⟩

/-- Every text that is laid out as an override is accepted. -/
theorem IsOverride.accepted {contents : Bytes} {icon : Option Bytes}
    {entries : List (Bytes × Bytes)} (h : IsOverride contents icon entries) :
    parsePaletteOverride contents = .ok (addColors entries .empty) := by
  have hrest : (entryTokens entries ++ [ascii ")", ascii ")"]).length =
      2 * paletteNames.length + 2 := by
    rw [List.length_append, length_entryTokens, h.complete]
    rfl
  have hhead : 5 ≤ (headTokens icon).length ∧ (headTokens icon).length ≤ 7 := by
    cases icon with
    | none => exact ⟨Nat.le_refl 5, by decide⟩
    | some name => exact ⟨by simp [headTokens], Nat.le_refl 7⟩
  have hnames : paletteNames.length = 22 := rfl
  have hlength : (overrideTokens icon entries).length =
      (headTokens icon).length + (2 * paletteNames.length + 2) := by
    rw [overrideTokens, List.length_append, hrest]
  have htokens : paletteTokens contents = .ok (overrideTokens icon entries) := by
    refine paletteTokens_of_layout h.layout ?_ h.length_token_le ?_ h.size
    · rw [← List.length_pos_iff]
      omega
    · rw [hlength, maximumTokens]
      omega
  obtain ⟨index, hindex, hpalette, hinner, hdrop⟩ :=
    paletteIndex_headTokens (fun name hname => (h.icon name hname).1) hrest
  rw [← overrideTokens] at hindex hpalette hinner hdrop
  have hfirst : tokenAt (overrideTokens icon entries) 0 = ascii "(" ∧
      tokenAt (overrideTokens icon entries) 1 = ascii ":version" := by
    cases icon with
    | none => exact ⟨rfl, rfl⟩
    | some name => exact ⟨rfl, rfl⟩
  have hlast := tokenAt_last (headTokens icon ++ entryTokens entries) (ascii ")") (ascii ")")
  rw [List.append_assoc, ← overrideTokens] at hlast
  rw [parsePaletteOverride, htokens]
  dsimp only
  rw [if_neg, hindex]
  · dsimp only
    rw [if_neg, hdrop, colorLoop_entryTokens h.valid rfl]
    · dsimp only
      rw [(validatePalette_addColors_iff h.valid).2 h.complete]
    · rw [hpalette, hinner, not_or, not_not, not_not]
      exact ⟨rfl, rfl⟩
  · rw [hfirst.1, hfirst.2, hlast.1, hlast.2]
    simp only [ne_eq, not_true_eq_false, or_false]
    omega

/-- **The overrides that are accepted** are the texts that are laid out as one. -/
theorem parsePaletteOverride_iff {contents : Bytes} {values : Palette} :
    parsePaletteOverride contents = .ok values ↔
      ∃ icon entries, IsOverride contents icon entries ∧ values = addColors entries .empty := by
  refine ⟨parsePaletteOverride_spec, ?_⟩
  rintro ⟨icon, entries, h, rfl⟩
  exact h.accepted

/-! ### What is written is read back -/

/-- The entries that the writer writes. -/
def paletteEntries (values : Palette) : List (Bytes × Bytes) :=
  paletteNames.map fun name => (name, (values.get name).getD [])

/-- A valid palette is written as entries, in canonical form. -/
theorem get_of_validatePalette {values : Palette} (h : validatePalette values = .ok ())
    {name : Bytes} (hname : name ∈ paletteNames) :
    values.get name = some ((values.get name).getD []) ∧
      normalizeRGB ((values.get name).getD []) = some ((values.get name).getD []) := by
  obtain ⟨value, hget, hcanonical⟩ := (validatePalette_iff.1 h).2 name hname
  rw [hget]
  exact ⟨rfl, hcanonical⟩

theorem isEntries_paletteEntries {values : Palette} (h : validatePalette values = .ok ()) :
    IsEntries .empty (paletteEntries values) where
  known := List.forall_mem_map.2 fun _ hname => hname
  colors := by
    refine List.forall_mem_map.2 ?_
    intro name hname
    have hcanonical := (get_of_validatePalette h hname).2
    exact hcanonical.trans (congrArg some (normalizeRGB_eq_some_iff.1 hcanonical).2.2.2)
  fresh := fun _ _ => rfl
  nodup := by
    rw [paletteEntries, List.map_map]
    exact nodup_paletteNames.map_on fun _ _ _ _ heq => heq

/-- The entries of a valid palette have its colours. -/
theorem get_addColors_paletteEntries {values : Palette} (h : validatePalette values = .ok ())
    (name : Bytes) : (addColors (paletteEntries values) .empty).get name = values.get name := by
  refine Option.ext ?_
  intro color
  rw [get_addColors (isEntries_paletteEntries h)]
  constructor
  · rintro (⟨text, hmem, rfl⟩ | hempty)
    · obtain ⟨role, hrole, heq⟩ := List.mem_map.1 hmem
      cases heq
      obtain ⟨hget, hcanonical⟩ := get_of_validatePalette h hrole
      rw [← (normalizeRGB_eq_some_iff.1 hcanonical).2.2.2]
      exact hget
    · cases hempty
  · intro hget
    have hname := mem_paletteNames_of_get h hget
    have hcanonical := (get_of_validatePalette h hname).2
    rw [hget, Option.getD_some] at hcanonical
    refine Or.inl ⟨color, List.mem_map.2 ⟨name, hname, ?_⟩,
      (normalizeRGB_eq_some_iff.1 hcanonical).2.2.2⟩
    rw [hget, Option.getD_some]

theorem isTokenCharacter_of_isHexadecimal : ∀ {character : UInt8}, isHexadecimal character = true →
    isTokenCharacter character = true :=
  @(forall_byte (by decide +kernel))

theorem isTokenCharacter_of_normalizeRGB {text canonical : Bytes}
    (h : normalizeRGB text = some canonical) :
    ∀ character ∈ text, isTokenCharacter character = true := by
  obtain ⟨-, hhead, hdigits, -⟩ := normalizeRGB_eq_some_iff.1 h
  obtain ⟨digits, rfl⟩ := List.head?_eq_some_iff.1 hhead
  rw [List.tail_cons, List.all_eq_true] at hdigits
  exact List.forall_mem_cons.2 ⟨by decide, fun c hc =>
    isTokenCharacter_of_isHexadecimal (hdigits c hc)⟩

/-- The text of an entry: its key, a blank, and its colour in quotation marks. -/
theorem encodeEntry_eq (values : Palette) (name : Bytes) :
    encodeEntry values name =
      (0x3a :: name) ++ 0x20 :: (0x22 :: ((values.get name).getD [] ++ [0x22])) := by
  have hcolon : ascii ":" = [0x3a] := by decide
  have hopen : ascii " \"" = [0x20, 0x22] := by decide
  have hclose : ascii "\"" = [0x22] := by decide
  rw [encodeEntry, hcolon, hopen, hclose]
  simp

/-- One entry is laid out as its key and its colour. -/
theorem layout_encodeEntry {values : Palette} (h : validatePalette values = .ok ()) {name : Bytes}
    (hname : name ∈ paletteNames) {tokens : List Bytes} {text : Bytes}
    (htext : Layout isBlank isParenthesis tokens text)
    (hends : Layout.Ends isBlank isParenthesis text) :
    Layout isBlank isParenthesis
      ((0x3a :: name) :: (0x22 :: ((values.get name).getD [] ++ [0x22])) :: tokens)
      (encodeEntry values name ++ text) := by
  have hnames : ∀ name ∈ paletteNames, ((0x3a : UInt8) :: name).all isTokenCharacter = true := by
    decide
  have hcolor := isTokenCharacter_of_normalizeRGB (get_of_validatePalette h hname).2
  have hquote : isTokenCharacter 0x22 = true := by decide
  have hquoted : ∀ character ∈ (0x22 : UInt8) :: ((values.get name).getD [] ++ [0x22]),
      isTokenCharacter character = true :=
    List.forall_mem_cons.2 ⟨hquote, List.forall_mem_append.2
      ⟨hcolor, List.forall_mem_singleton.2 hquote⟩⟩
  have hblank : isBlank 0x20 = true := by decide
  have hspace : Layout.IsWord isBlank isParenthesis 0x20 = false := by decide
  rw [encodeEntry_eq, List.append_assoc, List.cons_append]
  exact .word (List.cons_ne_nil _ _) (List.all_eq_true.1 (hnames name hname))
    (Layout.ends_cons.2 hspace)
    (.blank hblank (.word (List.cons_ne_nil _ _) hquoted hends htext))

/-- The entries are laid out as their keys and colours. -/
theorem layout_encodeEntries {values : Palette} (h : validatePalette values = .ok ())
    {tokens : List Bytes} {text : Bytes} (htext : Layout isBlank isParenthesis tokens text)
    (hends : Layout.Ends isBlank isParenthesis text) {names : List Bytes}
    (hnames : ∀ name ∈ names, name ∈ paletteNames) (hne : names ≠ []) :
    Layout isBlank isParenthesis
      (entryTokens (names.map fun name => (name, (values.get name).getD [])) ++ tokens)
      (List.intercalate (ascii "\n   ") (names.map (encodeEntry values)) ++ text) := by
  have hgap : (ascii "\n   ").all isBlank = true := by decide
  induction names with
  | nil => exact absurd rfl hne
  | cons name names ih =>
      obtain ⟨hname, hrest⟩ := List.forall_mem_cons.1 hnames
      rw [List.map_cons, List.map_cons, entryTokens_cons, List.cons_append, List.cons_append]
      by_cases hlast : names = []
      · subst hlast
        rw [List.map_nil, List.map_nil, List.intercalate_singleton]
        exact layout_encodeEntry h hname htext hends
      · rw [List.intercalate_cons_of_ne_nil (mt List.map_eq_nil_iff.1 hlast), List.append_assoc,
          List.append_assoc]
        refine layout_encodeEntry h hname (.blanks (List.all_eq_true.1 hgap) (ih hrest hlast)) ?_
        have hgapText : ascii "\n   " = 0x0a :: [0x20, 0x20, 0x20] := by decide
        rw [hgapText, List.cons_append, Layout.ends_cons]
        decide

/-- The size of joined texts. -/
theorem length_intercalate_le (separator : Bytes) {texts : List Bytes} {m : ℕ}
    (h : ∀ text ∈ texts, text.length ≤ m) :
    (List.intercalate separator texts).length ≤ texts.length * (m + separator.length) := by
  induction texts with
  | nil => simp
  | cons text texts ih =>
      obtain ⟨htext, hrest⟩ := List.forall_mem_cons.1 h
      have hlength := ih hrest
      rw [List.length_cons, Nat.succ_mul]
      by_cases hlast : texts = []
      · subst hlast
        rw [List.intercalate_singleton]
        omega
      · rw [List.intercalate_cons_of_ne_nil hlast, List.length_append, List.length_append]
        omega

/-- What is written is no larger than an override may be. -/
theorem length_encodePaletteOverride_le {values : Palette} (h : validatePalette values = .ok ()) :
    (encodePaletteOverride values).length ≤ maximumPaletteBytes := by
  have hlines : ∀ text ∈ paletteNames.map (encodeEntry values), text.length ≤ 43 := by
    refine List.forall_mem_map.2 ?_
    intro name hname
    have hlength := length_paletteNames_le name hname
    have hcolor := (normalizeRGB_eq_some_iff.1 (get_of_validatePalette h hname).2).1
    rw [encodeEntry_eq, List.length_append, List.length_cons, List.length_cons, List.length_cons,
      List.length_append, List.length_singleton]
    omega
  have hjoined := length_intercalate_le (ascii "\n   ") hlines
  have hgap : (ascii "\n   ").length = 4 := by decide
  have hhead : (ascii "(:version 2\n :palette\n  (").length = 25 := by decide
  have htail : (ascii "))\n").length = 3 := by decide
  have hnumber : (paletteNames.map (encodeEntry values)).length = 22 := by
    rw [List.length_map]
    rfl
  rw [hgap, hnumber] at hjoined
  rw [encodePaletteOverride, List.length_append, List.length_append, hhead, htail,
    maximumPaletteBytes]
  omega

/-- What is written is laid out as the tokens of version 2. -/
theorem layout_encodePaletteOverride {values : Palette} (h : validatePalette values = .ok ()) :
    Layout isBlank isParenthesis (overrideTokens none (paletteEntries values))
      (encodePaletteOverride values) := by
  have hspace : isBlank 0x20 = true ∧ Layout.IsWord isBlank isParenthesis 0x20 = false := by decide
  have hnewline : isBlank 0x0a = true ∧ Layout.IsWord isBlank isParenthesis 0x0a = false := by
    decide
  have hopen : isParenthesis 0x28 = true := by decide
  have hclose : isParenthesis 0x29 = true := by decide
  have htext : ascii "))\n" = [0x29, 0x29, 0x0a] := by decide
  have hend : Layout isBlank isParenthesis [ascii ")", ascii ")"] (ascii "))\n") := by
    rw [htext]
    exact .mark hclose (.mark hclose (.blank hnewline.1 .nil))
  have hends : Layout.Ends isBlank isParenthesis (ascii "))\n") := by
    rw [htext, Layout.ends_cons]
    decide
  have hentries := layout_encodeEntries h hend hends (fun name hname => hname) (by decide)
  have hhead : ascii "(:version 2\n :palette\n  (" =
      0x28 :: (ascii ":version" ++ 0x20 :: (ascii "2" ++ 0x0a :: 0x20 :: (ascii ":palette" ++
        0x0a :: 0x20 :: 0x20 :: [0x28]))) := by decide
  have hword : ∀ token ∈ [ascii ":version", ascii "2", ascii ":palette"],
      token ≠ [] ∧ token.all isTokenCharacter = true := by decide
  simp only [List.forall_mem_cons, List.all_eq_true] at hword
  obtain ⟨hversion, htwo, hpalette, -⟩ := hword
  rw [encodePaletteOverride, hhead]
  simp only [List.append_assoc, List.cons_append, List.nil_append]
  exact .mark hopen (.word hversion.1 hversion.2 (Layout.ends_cons.2 hspace.2) (.blank hspace.1
    (.word htwo.1 htwo.2 (Layout.ends_cons.2 hnewline.2) (.blank hnewline.1 (.blank hspace.1
      (.word hpalette.1 hpalette.2 (Layout.ends_cons.2 hnewline.2) (.blank hnewline.1
        (.blank hspace.1 (.blank hspace.1 (.mark hopen hentries))))))))))

/-- **What is written** is an override of version 2. -/
theorem isOverride_encodePaletteOverride {values : Palette} (h : validatePalette values = .ok ()) :
    IsOverride (encodePaletteOverride values) none (paletteEntries values) where
  size := length_encodePaletteOverride_le h
  layout := layout_encodePaletteOverride h
  icon := by simp
  valid := isEntries_paletteEntries h
  complete := List.length_map _

/-- **What is written is read back.** -/
theorem parsePaletteOverride_encodePaletteOverride {values : Palette}
    (h : validatePalette values = .ok ()) :
    parsePaletteOverride (encodePaletteOverride values) =
      .ok (addColors (paletteEntries values) .empty) :=
  (isOverride_encodePaletteOverride h).accepted

/-! ### Tables -/

/-- The line of an entry. -/
def paletteLine (entry : Bytes × Bytes) : Bytes := entry.1 ++ 0x09 :: entry.2

theorem ge_of_isHexadecimal {character : UInt8} (h : isHexadecimal character = true) :
    0x20 ≤ character := by
  rw [isHexadecimal, decide_eq_true_eq] at h
  rcases h with hdigit | hlower | hupper
  · rw [isDigit, decide_eq_true_eq] at hdigit
    exact UInt8.le_trans (by decide) hdigit.1
  · exact UInt8.le_trans (by decide) hlower.1
  · exact UInt8.le_trans (by decide) hupper.1

theorem ge_of_normalizeRGB {text canonical : Bytes} (h : normalizeRGB text = some canonical) :
    ∀ character ∈ text, 0x20 ≤ character := by
  obtain ⟨-, hhead, hdigits, -⟩ := normalizeRGB_eq_some_iff.1 h
  obtain ⟨digits, rfl⟩ := List.head?_eq_some_iff.1 hhead
  rw [List.tail_cons, List.all_eq_true] at hdigits
  exact List.forall_mem_cons.2 ⟨by decide, fun c hc => ge_of_isHexadecimal (hdigits c hc)⟩

theorem paletteNames_spec : ∀ name ∈ paletteNames,
    name.all (fun character => 0x20 ≤ character) = true ∧ name.length ≤ 32 ∧
      name ≠ ascii "settings-icon" ∧ name.head? ≠ some 0x23 ∧ name ≠ [] := by decide

/-- A line of a known role and a colour: its fields are found, and nothing is cut off. -/
theorem paletteLine_spec {name text canonical : Bytes} (hname : name ∈ paletteNames)
    (htext : normalizeRGB text = some canonical) :
    (0x0a : UInt8) ∉ paletteLine (name, text) ∧ (paletteLine (name, text)).length ≤ 40 ∧
      splitTabs (paletteLine (name, text)) = [name, text] ∧
      stripCarriageReturn (paletteLine (name, text)) = paletteLine (name, text) := by
  obtain ⟨hall, hlength, -⟩ := paletteNames_spec name hname
  have hprintable : ∀ character ∈ name, (0x20 : UInt8) ≤ character :=
    List.all_iff_forall_prop.1 hall
  have hcolor := ge_of_normalizeRGB htext
  have hseven := (normalizeRGB_eq_some_iff.1 htext).1
  have hnoTab : ∀ field : Bytes, (∀ character ∈ field, (0x20 : UInt8) ≤ character) →
      (0x09 : UInt8) ∉ field := fun field h hmem => absurd (h _ hmem) (by decide)
  have hline : ∀ character ∈ paletteLine (name, text), character = 0x09 ∨ 0x20 ≤ character := by
    refine List.forall_mem_append.2 ⟨fun c hc => Or.inr (hprintable c hc),
      List.forall_mem_cons.2 ⟨Or.inl rfl, fun c hc => Or.inr (hcolor c hc)⟩⟩
  refine ⟨fun hmem => absurd (hline _ hmem) (by decide), ?_, ?_, ?_⟩
  · rw [paletteLine, List.length_append, List.length_cons]
    dsimp only
    omega
  · rw [splitTabs, paletteLine, List.splitOn_append_cons_self_of_not_mem (hnoTab name hprintable),
      List.splitOn_eq_singleton (hnoTab text hcolor)]
  · rw [stripCarriageReturn, if_neg]
    exact fun hlast => absurd (hline _ (List.mem_of_getLast? hlast)) (by decide)

/-- The loop over the lines of entries. -/
theorem paletteLines_entries {values : Palette} {entries : List (Bytes × Bytes)}
    (h : IsEntries values entries) (sawLegacySettingsIcon : Bool) :
    paletteLines (entries.map paletteLine) sawLegacySettingsIcon values =
      .ok (addColors entries values) := by
  induction entries generalizing values with
  | nil => rfl
  | cons entry entries ih =>
      obtain ⟨name, text⟩ := entry
      obtain ⟨hname, htext, hnew, hrest⟩ := isEntries_cons_iff.1 h
      obtain ⟨-, hlength, hfields, hstrip⟩ := paletteLine_spec hname htext
      obtain ⟨-, -, hicon, -⟩ := paletteNames_spec name hname
      have htrim : trimLine (paletteLine (name, text)) = paletteLine (name, text) := by
        rw [trimLine, hstrip, hstrip]
      rw [List.map_cons, paletteLines, if_neg (by omega), htrim, hfields]
      dsimp only
      rw [if_neg hicon, if_neg (by simp [validPaletteName_iff.2 hname]), if_neg (by simp [hnew]),
        htext]
      exact ih hrest

/-- **A table of entries is read**, if there is one for every role. -/
theorem parsePaletteTSV_entries {entries : List (Bytes × Bytes)} (h : IsEntries .empty entries)
    (hcomplete : entries.length = paletteNames.length) :
    parsePaletteTSV ((entries.map paletteLine).flatMap fun line => line ++ [0x0a]) =
      .ok (addColors entries .empty) := by
  have hlines : ∀ line ∈ entries.map paletteLine, (0x0a : UInt8) ∉ line :=
    List.forall_mem_map.2 fun entry hentry =>
      (paletteLine_spec (h.known entry hentry) (h.colors entry hentry)).1
  rw [parsePaletteTSV, getlines_lines hlines, paletteLines_entries h]
  dsimp only
  rw [(validatePalette_addColors_iff h).2 hcomplete]

end NesDeck.Uploader
