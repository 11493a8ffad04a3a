/-
**The catalog compiler.**

`compile-catalog.lisp` validates the catalog of the Deck and writes the manifest of the menu. Its
texts are printable ASCII, so that the manifest does not depend on the locale of the runtime.
`alphanumericp` and `string-upcase` are those of the standard. So is `digit-char-p`: that its digits
are the ten of ASCII is an assumption on the runtime, made in `digitCharP` and nowhere else.

Main definitions:

* `NesDeck.CatalogCompiler.validateGame`, `NesDeck.CatalogCompiler.validateCatalog` — the
  validator;
* `NesDeck.CatalogCompiler.writeTsv` — the manifest of the validated games;
* `NesDeck.CatalogCompiler.GameRow.Valid` — what the validator demands of one game.

Main results:

* `NesDeck.CatalogCompiler.validateGame_spec`, `NesDeck.CatalogCompiler.validateCatalog_spec` — what
  is known of a validated catalog;
* `NesDeck.CatalogCompiler.writeTsv_eq` — the manifest is the one of its entries;
* `NesDeck.CatalogCompiler.GameRow.Valid.good` — **the menu accepts the entry of a validated game**
  if it accepts its ROM;
* `NesDeck.CatalogCompiler.loadManifest_writeTsv` — **the menu reads the games of a validated
  catalog back**.
-/

import Mathlib.Data.List.Infix
import NesDeck.CatalogForm
import NesDeck.ManifestRows

set_option relaxedAutoImplicit false
set_option autoImplicit false

namespace NesDeck.CatalogCompiler

open HostFile
open MenuText

/-! ### Texts -/

def isPrintable (character : Char) : Bool := 32 ≤ character.toNat ∧ character.toNat ≤ 126

def printableAsciiStringP (text : List Char) : Bool := text.all isPrintable

def validateTextField (value : Form) (name : Bytes) (maximumLength : ℕ) :
    Except FormError (List Char) :=
  match value with
  | .string text =>
      if printableAsciiStringP text = true ∧ 0 < text.length ∧ text.length ≤ maximumLength then
        .ok text
      else .error (.textField name maximumLength)
  | _ => .error (.textField name maximumLength)

def isBlank (character : Char) : Bool := character = ' '

/-- `string-trim` of spaces. -/
def stringTrim (text : List Char) : List Char := (text.dropWhile isBlank).rdropWhile isBlank

def validateTrimmedTextField (value : Form) (name : Bytes) (maximumLength : ℕ) :
    Except FormError (List Char) :=
  match validateTextField value name maximumLength with
  | .error error => .error error
  | .ok text => if text = stringTrim text then .ok text else .error (.untrimmed name)

def lowercaseIdCharacterP (character : Char) : Bool :=
  ('a' ≤ character ∧ character ≤ 'z') ∨ character.isDigit = true

def isIdCharacter (character : Char) : Bool :=
  lowercaseIdCharacterP character = true ∨ character = '-'

def validateId (value : Form) : Except FormError (List Char) :=
  match validateTextField value (ascii "game :id") 32 with
  | .error error => .error error
  | .ok text =>
      if (text.head?.any lowercaseIdCharacterP) = true ∧ text.all isIdCharacter = true ∧
          text.getLast? ≠ some '-' ∧ ¬ ['-', '-'] <:+: text then .ok text
      else .error .id

/-! ### Systems and ROM paths -/

def consoleRomRoot : List Char := "/mnt/data/roms/".toList

def deckGameRoot : List Char := "/mnt/data/nes-deck/games/".toList

/-- The lower case of the name of a symbol. -/
def symbolDowncase : Form → List Char
  | .symbol _ name => name.map Char.toLower
  | _ => []

def systemKeys : List Form :=
  [.keyword "NES", .keyword "GB", .keyword "GBC", .keyword "ZX", .keyword "CHIP8", .keyword "DECK"]

def validateSystem (value : Form) : Except FormError (List Char) :=
  if value ∈ systemKeys then .ok (symbolDowncase value) else .error .system

/-- What the paths of a system start with. -/
def expectedRoot (system : Form) : List Char :=
  if system = .keyword "DECK" then deckGameRoot
  else consoleRomRoot ++ symbolDowncase system ++ "/".toList

/-- What the paths of a system end with: nothing for deck games, and for other objects there is no
answer. -/
def expectedExtension (system : Form) : Option (Option (List Char)) :=
  if system = .keyword "NES" then some (some ".nes".toList)
  else if system = .keyword "GB" then some (some ".gb".toList)
  else if system = .keyword "GBC" then some (some ".gbc".toList)
  else if system = .keyword "ZX" then some (some ".tap".toList)
  else if system = .keyword "CHIP8" then some (some ".ch8".toList)
  else if system = .keyword "DECK" then some none
  else none

def romPathCharacterP (character : Char) : Bool :=
  character.isAlphanum = true ∨ character ∈ "/._-".toList

def validateRomPath (value system : Form) : Except FormError (List Char) :=
  match validateTextField value (ascii "game :rom") 512 with
  | .error error => .error error
  | .ok text =>
      match expectedExtension system with
      | none => .error (.unsupportedSystem system)
      | some extension =>
          if expectedRoot system <+: text ∧ extension.getD [] <:+ text ∧
              text.all romPathCharacterP = true ∧ ¬ "//".toList <:+: text ∧
              ¬ "/./".toList <:+: text ∧ ¬ "/../".toList <:+: text then .ok text
          else .error (.romPath extension (expectedRoot system))

/-! ### Colours -/

/-- `digit-char-p`, with the potential digits of the standard. A runtime that counts the decimal
digits of other scripts among them would let them into a colour, where nothing else asks for
ASCII. -/
def digitCharP (character : Char) : Bool := character.isDigit

def hexadecimalCharacterP (character : Char) : Bool :=
  digitCharP character = true ∨ character ∈ "ABCDEFabcdef".toList

/-- The weight of a hexadecimal digit. -/
def digitWeight (character : Char) : ℕ :=
  if character.isDigit = true then character.toNat - 48
  else if character.toNat < 97 then character.toNat - 65 + 10
  else character.toNat - 97 + 10

/-- `parse-integer` of the characters from `start` to `stop`, in radix 16. -/
def parseInteger (text : List Char) (start stop : ℕ) : ℕ :=
  ((text.take stop).drop start).foldl (fun value character => 16 * value + digitWeight character) 0

def xtermCubeComponentP (component : ℕ) : Bool := component ∈ [0, 95, 135, 175, 215, 255]

def xtermColorP (value : List Char) : Bool :=
  let red := parseInteger value 1 3
  let green := parseInteger value 3 5
  let blue := parseInteger value 5 7
  let rgb := red <<< 16 + green <<< 8 + blue
  rgb ∈ [0x000000, 0x800000, 0x008000, 0x808000, 0x000080, 0x800080, 0x008080, 0xc0c0c0, 0x808080,
      0xff0000, 0x00ff00, 0xffff00, 0x0000ff, 0xff00ff, 0x00ffff, 0xffffff] ∨
    (xtermCubeComponentP red = true ∧ xtermCubeComponentP green = true ∧
      xtermCubeComponentP blue = true) ∨
    (red = green ∧ green = blue ∧ 8 ≤ red ∧ red ≤ 238 ∧ (red - 8) % 10 = 0)

/-- The shape `#RRGGBB`. -/
def isRgbText (text : List Char) : Bool :=
  text.length = 7 ∧ text.head? = some '#' ∧ text.tail.all hexadecimalCharacterP = true

def validateColor (value : Form) : Except FormError (List Char) :=
  match value with
  | .string text =>
      if isRgbText text = false then .error .colorShape
      else if xtermColorP text = false then .error .colorPalette
      else .ok (text.map Char.toUpper)
  | _ => .error .colorShape

def validateRgbColor (value key : Form) : Except FormError (List Char) :=
  match value with
  | .string text =>
      if isRgbText text = false then .error (.paletteColor key) else .ok (text.map Char.toUpper)
  | _ => .error (.paletteColor key)

def paletteKeys : List Form :=
  [.keyword "BACKGROUND", .keyword "TEXT-DARK", .keyword "FIELD", .keyword "SURFACE",
   .keyword "INACTIVE-BORDER", .keyword "CONTROL-BORDER", .keyword "FOOTER",
   .keyword "INACTIVE-TEXT", .keyword "TEXT", .keyword "WHITE", .keyword "TITLE",
   .keyword "VOLUME-OFF", .keyword "VOLUME-ON", .keyword "SELECTED", .keyword "WIFI-ACTIVE",
   .keyword "WIFI-FOCUS", .keyword "WIFI-ACTIVE-BORDER", .keyword "FIELD-LABEL",
   .keyword "ACCENT", .keyword "ACTIVE", .keyword "CONTROL-SURFACE", .keyword "MUTED"]

/-- The name and the colour of every role. -/
def validateRoles (pairs : List (Form × Form)) :
    (keys : List Form) → Except FormError (List (List Char × List Char))
  | [] => .ok []
  | key :: keys =>
      match validateRgbColor (requiredValue key pairs) key with
      | .error error => .error error
      | .ok color =>
          match validateRoles pairs keys with
          | .error error => .error error
          | .ok palette => .ok ((symbolDowncase key, color) :: palette)

def validatePalette (form : Form) (context : Bytes) :
    Except FormError (List (List Char × List Char)) :=
  match decodePlist form paletteKeys context paletteKeys with
  | .error error => .error error
  | .ok pairs => validateRoles pairs paletteKeys

/-! ### Games and catalogs -/

/-- The list that `validate-game` returns. -/
structure GameRow where
  id : List Char
  title : List Char
  system : List Char
  rom : List Char
  color : List Char
  deriving DecidableEq

/-- The fields in the order in which they are written. -/
def GameRow.fields (game : GameRow) : List (List Char) :=
  [game.id, game.title, game.system, game.rom, game.color]

def gameKeys : List Form :=
  [.keyword "ID", .keyword "TITLE", .keyword "SYSTEM", .keyword "ROM", .keyword "COLOR"]

def validateGame (form : Form) (position : ℕ) : Except FormError GameRow :=
  match decodePlist form gameKeys (ascii ("game " ++ toString position)) gameKeys with
  | .error error => .error error
  | .ok pairs =>
      let system := requiredValue (.keyword "SYSTEM") pairs
      match validateId (requiredValue (.keyword "ID") pairs) with
      | .error error => .error error
      | .ok id =>
          match validateTrimmedTextField (requiredValue (.keyword "TITLE") pairs)
              (ascii "game :title") 48 with
          | .error error => .error error
          | .ok title =>
              match validateSystem system with
              | .error error => .error error
              | .ok systemName =>
                  match validateRomPath (requiredValue (.keyword "ROM") pairs) system with
                  | .error error => .error error
                  | .ok rom =>
                      match validateColor (requiredValue (.keyword "COLOR") pairs) with
                      | .error error => .error error
                      | .ok color => .ok ⟨id, title, systemName, rom, color⟩

def validateGames : List Form → (position : ℕ) → Except FormError (List GameRow)
  | [], _ => .ok []
  | form :: forms, position =>
      match validateGame form position with
      | .error error => .error error
      | .ok game =>
          match validateGames forms (position + 1) with
          | .error error => .error error
          | .ok games => .ok (game :: games)

/-- The first value of a field that a later game has, too. -/
def duplicateField (field : GameRow → List Char) : List GameRow → Option (List Char)
  | [] => none
  | game :: games =>
      if (games.find? fun other => field other = field game).isSome = true then some (field game)
      else duplicateField field games

def schemaVersion : ℕ := 7

def maximumGames : ℕ := 64

def catalogKeys : List Form := [.keyword "VERSION", .keyword "PALETTE", .keyword "GAMES"]

def validateCatalog (form : Form) :
    Except FormError (List GameRow × List (List Char × List Char)) :=
  match decodePlist form catalogKeys (ascii "catalog") catalogKeys with
  | .error error => .error error
  | .ok pairs =>
      let version := requiredValue (.keyword "VERSION") pairs
      match validatePalette (requiredValue (.keyword "PALETTE") pairs)
          (ascii "catalog :palette") with
      | .error error => .error error
      | .ok palette =>
          match boundedListElements (requiredValue (.keyword "GAMES") pairs) maximumGames
              (ascii "catalog :games") false with
          | .error error => .error error
          | .ok rawGames =>
              match validateGames rawGames 1 with
              | .error error => .error error
              | .ok games =>
                  if version ≠ .integer schemaVersion then
                    .error (.version version schemaVersion)
                  else
                    match duplicateField GameRow.id games with
                    | some value => .error (.duplicateGame (ascii ":id") value)
                    | none =>
                        match duplicateField GameRow.rom games with
                        | some value => .error (.duplicateGame (ascii ":rom") value)
                        | none => .ok (games, palette)

/-- The line of a game: its fields with tabs between them, and a newline. -/
def writeRow (game : GameRow) : Bytes :=
  List.intercalate (ascii "\t") (game.fields.map writeString) ++ ascii "\n"

def writeTsv (games : List GameRow) : Bytes := games.flatMap writeRow

/-! ### Printable characters -/

/-- The byte of an ASCII character. -/
def byteOf (character : Char) : UInt8 := .ofNat character.toNat

/-- A property of all printable characters is checked for each of them. -/
theorem forall_printable {P : Char → Prop} (h : ∀ n < 127, 32 ≤ n → P (Char.ofNat n))
    {character : Char} (hprintable : isPrintable character = true) : P character := by
  rw [isPrintable, decide_eq_true_eq] at hprintable
  rw [← Char.ofNat_toNat character]
  exact h character.toNat (by omega) hprintable.1

theorem byteOf_spec {character : Char} (h : isPrintable character = true) :
    String.utf8EncodeChar character = [byteOf character] ∧ 0x20 ≤ byteOf character ∧
      byteOf character < 0x7f ∧ Char.ofNat (byteOf character).toNat = character :=
  forall_printable (P := fun character => String.utf8EncodeChar character = [byteOf character] ∧
    0x20 ≤ byteOf character ∧ byteOf character < 0x7f ∧
      Char.ofNat (byteOf character).toNat = character) (by decide +kernel) h

theorem writeString_eq {text : List Char} (h : printableAsciiStringP text = true) :
    writeString text = text.map byteOf := by
  induction text with
  | nil => rfl
  | cons character text ih =>
      rw [printableAsciiStringP, List.all_cons, Bool.and_eq_true] at h
      rw [writeString, List.flatMap_cons, (byteOf_spec h.1).1, ← writeString, ih h.2, List.map_cons,
        List.singleton_append]

theorem length_writeString {text : List Char} (h : printableAsciiStringP text = true) :
    (writeString text).length = text.length := by rw [writeString_eq h, List.length_map]

theorem mem_writeString {text : List Char} (h : printableAsciiStringP text = true) {byte : UInt8}
    (hmem : byte ∈ writeString text) : 0x20 ≤ byte ∧ byte < 0x7f := by
  rw [writeString_eq h] at hmem
  obtain ⟨character, hcharacter, rfl⟩ := List.mem_map.1 hmem
  have hspec := byteOf_spec (List.all_eq_true.1 h character hcharacter)
  exact ⟨hspec.2.1, hspec.2.2.1⟩

/-- Different texts are written differently. -/
theorem writeString_inj {text other : List Char} (h : printableAsciiStringP text = true)
    (hother : printableAsciiStringP other = true) (heq : writeString text = writeString other) :
    text = other := by
  have hread : ∀ {text : List Char}, printableAsciiStringP text = true →
      (writeString text).map (fun byte => Char.ofNat byte.toNat) = text := by
    intro text h
    rw [writeString_eq h, List.map_map]
    refine (List.map_congr_left ?_).trans (List.map_id text)
    intro character hmem
    exact (byteOf_spec (List.all_eq_true.1 h character hmem)).2.2.2
  rw [← hread h, heq, hread hother]

/-- A printable text that does not start or end with a space is trimmed. -/
theorem trimAsciiSpace_writeString {text : List Char} (h : printableAsciiStringP text = true)
    (hhead : text.head? ≠ some ' ') (hlast : text.getLast? ≠ some ' ') :
    trimAsciiSpace (writeString text) = writeString text := by
  have hspace : ∀ {character : Char}, isPrintable character = true → character ≠ ' ' →
      isSpace (byteOf character) = false := fun hprintable =>
    forall_printable (P := fun character => character ≠ ' ' → isSpace (byteOf character) = false)
      (by decide +kernel) hprintable
  rw [writeString_eq h]
  refine trimAsciiSpace_eq_self ?_ ?_
  · intro first hfirst
    rw [List.head?_map, Option.map_eq_some_iff] at hfirst
    obtain ⟨character, hcharacter, rfl⟩ := hfirst
    refine hspace (List.all_eq_true.1 h _ (List.mem_of_mem_head? hcharacter)) ?_
    rintro rfl
    exact hhead hcharacter
  · intro last hend
    rw [List.getLast?_map, Option.map_eq_some_iff] at hend
    obtain ⟨character, hcharacter, rfl⟩ := hend
    refine hspace (List.all_eq_true.1 h _ (List.mem_of_getLast? hcharacter)) ?_
    rintro rfl
    exact hlast hcharacter

/-- A trimmed text does not start or end with a space. -/
theorem ends_of_stringTrim {text : List Char} (h : text = stringTrim text) :
    text.head? ≠ some ' ' ∧ text.getLast? ≠ some ' ' := by
  constructor
  · intro hhead
    obtain ⟨rest, rfl⟩ := List.head?_eq_some_iff.1 hhead
    have hlength : (stringTrim (' ' :: rest)).length ≤ rest.length := by
      rw [stringTrim, List.dropWhile_cons_of_pos (by decide)]
      exact Nat.le_trans ( List.rdropWhile_prefix _ _).length_le
        (List.dropWhile_sublist _).length_le
    rw [← h, List.length_cons] at hlength
    omega
  · intro hlast
    rw [h, stringTrim] at hlast
    obtain ⟨hne, hend⟩ := List.mem_getLast?_eq_getLast hlast
    have hblank := List.rdropWhile_last_not _ _ hne
    rw [← hend] at hblank
    exact hblank (by decide)

/-! ### What is known of a validated game -/

/-- A printable text of 1 to `maximumLength` characters. -/
structure IsText (maximumLength : ℕ) (text : List Char) : Prop where
  printable : printableAsciiStringP text = true
  pos : 0 < text.length
  bounded : text.length ≤ maximumLength

/-- An id: lower case letters and digits, with single hyphens between them. -/
structure IsId (text : List Char) : Prop extends IsText 32 text where
  head : (text.head?.any lowercaseIdCharacterP) = true
  characters : text.all isIdCharacter = true
  last : text.getLast? ≠ some '-'
  single : ¬ ['-', '-'] <:+: text

/-- A ROM path of a system. -/
structure IsRomPath (system : Form) (text : List Char) : Prop extends IsText 512 text where
  root : expectedRoot system <+: text
  extension : ∃ extension, expectedExtension system = some extension ∧ extension.getD [] <:+ text
  characters : text.all romPathCharacterP = true
  slashes : ¬ "//".toList <:+: text
  dot : ¬ "/./".toList <:+: text
  dots : ¬ "/../".toList <:+: text

/-- What the validator demands of one game. -/
structure GameRow.Valid (game : GameRow) : Prop where
  id : IsId game.id
  title : IsText 48 game.title
  titleTrimmed : game.title = stringTrim game.title
  rom : ∃ system ∈ systemKeys, game.system = symbolDowncase system ∧ IsRomPath system game.rom
  color : ∃ text, isRgbText text = true ∧ xtermColorP text = true ∧
    game.color = text.map Char.toUpper

theorem validateTextField_spec {value : Form} {name : Bytes} {maximumLength : ℕ} {text : List Char}
    (h : validateTextField value name maximumLength = .ok text) : IsText maximumLength text := by
  rw [validateTextField.eq_def] at h
  split at h
  · split at h
    · rename_i htext
      cases h
      exact ⟨htext.1, htext.2.1, htext.2.2⟩
    · cases h
  · cases h

theorem validateTrimmedTextField_spec {value : Form} {name : Bytes} {maximumLength : ℕ}
    {text : List Char} (h : validateTrimmedTextField value name maximumLength = .ok text) :
    IsText maximumLength text ∧ text = stringTrim text := by
  rw [validateTrimmedTextField] at h
  split at h
  · cases h
  rename_i htext
  split at h
  · rename_i htrimmed
    cases h
    exact ⟨validateTextField_spec htext, htrimmed⟩
  · cases h

theorem validateId_spec {value : Form} {text : List Char} (h : validateId value = .ok text) :
    IsId text := by
  rw [validateId] at h
  split at h
  · cases h
  rename_i htext
  split at h
  · rename_i hshape
    cases h
    obtain ⟨hhead, hcharacters, hlast, hsingle⟩ := hshape
    exact ⟨validateTextField_spec htext, hhead, hcharacters, hlast, hsingle⟩
  · cases h

theorem validateSystem_spec {value : Form} {text : List Char}
    (h : validateSystem value = .ok text) : value ∈ systemKeys ∧ text = symbolDowncase value := by
  rw [validateSystem] at h
  split at h
  · rename_i hmem
    cases h
    exact ⟨hmem, rfl⟩
  · cases h

theorem validateRomPath_spec {value system : Form} {text : List Char}
    (h : validateRomPath value system = .ok text) : IsRomPath system text := by
  rw [validateRomPath] at h
  split at h
  · cases h
  rename_i htext
  split at h
  · cases h
  rename_i extension hextension
  split at h
  · rename_i hshape
    cases h
    obtain ⟨hroot, hend, hcharacters, hslashes, hdot, hdots⟩ := hshape
    exact ⟨validateTextField_spec htext, hroot, ⟨extension, hextension, hend⟩, hcharacters,
      hslashes, hdot, hdots⟩
  · cases h

theorem validateColor_spec {value : Form} {color : List Char}
    (h : validateColor value = .ok color) :
    ∃ text, isRgbText text = true ∧ xtermColorP text = true ∧ color = text.map Char.toUpper := by
  rw [validateColor.eq_def] at h
  split at h
  · rename_i text
    split at h
    · cases h
    rename_i hshape
    split at h
    · cases h
    rename_i hxterm
    cases h
    exact ⟨text, (Bool.not_eq_false _).mp hshape, (Bool.not_eq_false _).mp hxterm, rfl⟩
  · cases h

/-- **A validated game.** -/
theorem validateGame_spec {form : Form} {position : ℕ} {game : GameRow}
    (h : validateGame form position = .ok game) : game.Valid := by
  rw [validateGame] at h
  split at h
  · cases h
  dsimp only at h
  split at h
  · cases h
  rename_i hid
  split at h
  · cases h
  rename_i htitle
  split at h
  · cases h
  rename_i hsystem
  split at h
  · cases h
  rename_i hrom
  split at h
  · cases h
  rename_i hcolor
  cases h
  obtain ⟨htext, htrimmed⟩ := validateTrimmedTextField_spec htitle
  obtain ⟨hkey, hname⟩ := validateSystem_spec hsystem
  exact ⟨validateId_spec hid, htext, htrimmed, ⟨_, hkey, hname, validateRomPath_spec hrom⟩,
    validateColor_spec hcolor⟩

theorem validateGames_spec {forms : List Form} {position : ℕ} {games : List GameRow}
    (h : validateGames forms position = .ok games) :
    (∀ game ∈ games, game.Valid) ∧ games.length = forms.length := by
  induction forms generalizing position games with
  | nil =>
      cases h
      exact ⟨fun _ hmem => absurd hmem List.not_mem_nil, rfl⟩
  | cons form forms ih =>
      rw [validateGames] at h
      split at h
      · cases h
      rename_i hgame
      split at h
      · cases h
      rename_i hgames
      cases h
      obtain ⟨hvalid, hlength⟩ := ih hgames
      refine ⟨?_, by rw [List.length_cons, List.length_cons, hlength]⟩
      intro other hmem
      rcases List.mem_cons.1 hmem with rfl | hmem
      · exact validateGame_spec hgame
      · exact hvalid other hmem

/-- The search for a duplicate finds none exactly if there is none. -/
theorem duplicateField_eq_none_iff {field : GameRow → List Char} {games : List GameRow} :
    duplicateField field games = none ↔ (games.map field).Nodup := by
  induction games with
  | nil => simp [duplicateField]
  | cons game games ih =>
      have hfind : (games.find? fun other => field other = field game).isSome = true ↔
          field game ∈ games.map field := by
        rw [List.find?_isSome, List.mem_map]
        simp
      rw [duplicateField, List.map_cons, List.nodup_cons, ← ih]
      split
      · rename_i hfound
        simp [hfind.1 hfound]
      · rename_i hfound
        simp [mt hfind.2 hfound]

/-- The games of a validated catalog. -/
structure IsCatalog (games : List GameRow) : Prop where
  valid : ∀ game ∈ games, game.Valid
  ids : (games.map GameRow.id).Nodup
  roms : (games.map GameRow.rom).Nodup
  nonempty : games ≠ []
  bounded : games.length ≤ maximumGames

/-- **A validated catalog.** -/
theorem validateCatalog_spec {form : Form} {games : List GameRow}
    {palette : List (List Char × List Char)} (h : validateCatalog form = .ok (games, palette)) :
    IsCatalog games := by
  rw [validateCatalog] at h
  split at h
  · cases h
  dsimp only at h
  split at h
  · cases h
  split at h
  · cases h
  rename_i hraw
  split at h
  · cases h
  rename_i hgames
  split at h
  · cases h
  split at h
  · cases h
  rename_i hids
  split at h
  · cases h
  rename_i hroms
  cases h
  obtain ⟨-, hbound, hempty⟩ := boundedListElements_iff.1 hraw
  obtain ⟨hvalid, hlength⟩ := validateGames_spec hgames
  refine ⟨hvalid, duplicateField_eq_none_iff.1 hids, duplicateField_eq_none_iff.1 hroms, ?_,
    hlength ▸ hbound⟩
  rintro rfl
  have hnil := List.length_eq_zero_iff.1 hlength.symm
  exact Bool.false_ne_true (hempty hnil)

/-! ### Ids -/

theorem isLower_or_isDigit {character : Char} (h : isPrintable character = true) :
    lowercaseIdCharacterP character = true →
      isLower (byteOf character) = true ∨ isDigit (byteOf character) = true :=
  forall_printable (P := fun character => lowercaseIdCharacterP character = true →
    isLower (byteOf character) = true ∨ isDigit (byteOf character) = true) (by decide +kernel) h

theorem eq_hyphen {character : Char} (h : isPrintable character = true) :
    byteOf character = 0x2d → character = '-' :=
  forall_printable (P := fun character => byteOf character = 0x2d → character = '-')
    (by decide +kernel) h

theorem idCharacter_spec {character : Char} (h : isPrintable character = true)
    (hcharacter : isIdCharacter character = true) :
    isLower (byteOf character) = true ∨ isDigit (byteOf character) = true ∨
      byteOf character = 0x2d := by
  rw [isIdCharacter, decide_eq_true_eq] at hcharacter
  rcases hcharacter with hlower | rfl
  · rcases isLower_or_isDigit h hlower with hlower | hdigit
    · exact Or.inl hlower
    · exact Or.inr (Or.inl hdigit)
  · exact Or.inr (Or.inr (by decide))

/-- The loop of the menu over an id, after the characters in `before`. -/
theorem validIdLoop_map {before text : List Char}
    (hprintable : ∀ character ∈ before ++ text, isPrintable character = true)
    (hcharacters : ∀ character ∈ before ++ text, isIdCharacter character = true)
    (hhead : ((before ++ text).head?.any lowercaseIdCharacterP) = true)
    (hlast : text.getLast? ≠ some '-') (hsingle : ¬ ['-', '-'] <:+: before ++ text) :
    validIdLoop (text.map byteOf) (before.getLast?.map byteOf) = true := by
  induction text generalizing before with
  | nil => rw [List.map_nil, validIdLoop]
  | cons character rest ih =>
      have hmem : character ∈ before ++ character :: rest :=
        List.mem_append_right _ List.mem_cons_self
      have hbyte := idCharacter_spec (hprintable character hmem) (hcharacters character hmem)
      rw [List.map_cons, validIdLoop, if_neg (not_not.2 hbyte), if_neg, if_neg]
      · have hrest := @ih (before ++ [character])
        rw [List.append_assoc, List.singleton_append, List.getLast?_concat] at hrest
        refine hrest hprintable hcharacters hhead (fun hend => hlast ?_) hsingle
        rw [List.getLast?_cons, hend]
        rfl
      · rintro ⟨heq, hnil | hprevious⟩
        · -- a hyphen at the end
          rw [List.map_eq_nil_iff] at hnil
          rw [hnil, eq_hyphen (hprintable character hmem) heq] at hlast
          exact hlast rfl
        · -- two hyphens
          rw [Option.map_eq_some_iff] at hprevious
          obtain ⟨previous, hprevious, hpreviousByte⟩ := hprevious
          obtain ⟨front, rfl⟩ := List.getLast?_eq_some_iff.1 hprevious
          have hpreviousMem : previous ∈ front ++ [previous] ++ character :: rest := by simp
          refine hsingle ⟨front, rest, ?_⟩
          rw [eq_hyphen (hprintable previous hpreviousMem) hpreviousByte,
            eq_hyphen (hprintable character hmem) heq]
          simp
      · rintro ⟨hnone, hnotLower, hnotDigit⟩
        -- the first character
        rw [Option.map_eq_none_iff, List.getLast?_eq_none_iff] at hnone
        rw [hnone, List.nil_append, List.head?_cons, Option.any_some] at hhead
        rcases isLower_or_isDigit (hprintable character hmem) hhead with h | h
        · rw [hnotLower] at h
          cases h
        · rw [hnotDigit] at h
          cases h

/-- **The menu accepts the ids of the compiler.** -/
theorem IsId.validId {text : List Char} (h : IsId text) :
    validId (writeString text) = true := by
  have hlength := length_writeString h.printable
  have hpos := h.pos
  have hbound := h.bounded
  have hloop := @validIdLoop_map [] text (List.all_eq_true.1 h.printable)
    (List.all_eq_true.1 h.characters) h.head h.last h.single
  rw [NesDeck.validId, if_neg, writeString_eq h.printable]
  · exact hloop
  · rintro (hnil | hlong)
    · rw [hnil, List.length_nil] at hlength
      omega
    · omega

/-! ### Colours -/

theorem hexadecimal_spec {character : Char} (h : isPrintable character = true) :
    hexadecimalCharacterP character = true →
      isPrintable character.toUpper = true ∧ digitWeight character < 16 ∧
        nibble (byteOf character.toUpper) = some (digitWeight character) :=
  forall_printable (P := fun character => hexadecimalCharacterP character = true →
      isPrintable character.toUpper = true ∧ digitWeight character < 16 ∧
        nibble (byteOf character.toUpper) = some (digitWeight character)) (by decide +kernel) h

theorem isPrintable_of_hexadecimal {character : Char} (h : hexadecimalCharacterP character = true) :
    isPrintable character = true := by
  rw [hexadecimalCharacterP, decide_eq_true_eq] at h
  rw [isPrintable, decide_eq_true_eq]
  rcases h with hdigit | hmem
  · rw [digitCharP, Char.isDigit, Bool.and_eq_true, decide_eq_true_eq, decide_eq_true_eq] at hdigit
    have hlow := UInt32.le_iff_toNat_le.1 hdigit.1
    have hhigh := UInt32.le_iff_toNat_le.1 hdigit.2
    have hzero : '0'.val.toNat = 48 := by decide
    have hnine : '9'.val.toNat = 57 := by decide
    rw [Char.toNat]
    omega
  · have hall : ∀ character ∈ "ABCDEFabcdef".toList,
        32 ≤ character.toNat ∧ character.toNat ≤ 126 := List.all_iff_forall_prop.1 (by decide)
    exact hall character hmem

/-- One more digit. -/
theorem shiftLeft_or {value digit : ℕ} (h : digit < 16) :
    value <<< 4 ||| digit = 16 * value + digit := by
  rw [← Nat.shiftLeft_add_eq_or_of_lt (i := 4) h, Nat.shiftLeft_eq]
  omega

/-- The digits of a colour in upper case have the weights of its digits. -/
theorem colorValue_map {digits : List Char} (h : digits.all hexadecimalCharacterP = true)
    (value : ℕ) : colorValue ((digits.map Char.toUpper).map byteOf) value =
      some (digits.foldl (fun value character => 16 * value + digitWeight character) value) := by
  induction digits generalizing value with
  | nil => rw [List.map_nil, List.map_nil, colorValue, List.foldl_nil]
  | cons character digits ih =>
      rw [List.all_cons, Bool.and_eq_true] at h
      obtain ⟨-, hweight, hnibble⟩ := hexadecimal_spec (isPrintable_of_hexadecimal h.1) h.1
      rw [List.map_cons, List.map_cons, colorValue, hnibble]
      dsimp only
      rw [shiftLeft_or hweight, ih h.2, List.foldl_cons]

/-- The value of six digits. -/
def rgbValue (text : List Char) : ℕ :=
  text.tail.foldl (fun value character => 16 * value + digitWeight character) 0

/-- The components of a colour are those of its value. -/
theorem parseInteger_spec {text : List Char} (h : isRgbText text = true) :
    parseInteger text 1 3 < 256 ∧ parseInteger text 3 5 < 256 ∧ parseInteger text 5 7 < 256 ∧
      rgbValue text = 65536 * parseInteger text 1 3 + 256 * parseInteger text 3 5 +
        parseInteger text 5 7 := by
  rw [isRgbText, decide_eq_true_eq] at h
  obtain ⟨hlength, -, hdigits⟩ := h
  obtain ⟨first, a, b, c, d, e, f, rfl⟩ : ∃ first a b c d e f,
      text = [first, a, b, c, d, e, f] := by
    match text, hlength with
    | [first, a, b, c, d, e, f], _ => exact ⟨first, a, b, c, d, e, f, rfl⟩
  have hweight : ∀ character ∈ [a, b, c, d, e, f], digitWeight character < 16 := by
    intro character hmem
    have hhexadecimal := List.all_eq_true.1 hdigits character hmem
    exact (hexadecimal_spec (isPrintable_of_hexadecimal hhexadecimal) hhexadecimal).2.1
  simp only [List.forall_mem_cons] at hweight
  obtain ⟨ha, hb, hc, hd, he, hf, -⟩ := hweight
  simp only [parseInteger, rgbValue, List.take, List.drop, List.tail_cons, List.foldl_cons,
    List.foldl_nil]
  omega

/-- The colour that the compiler sees. -/
def rgbOf (text : List Char) : RgbColor :=
  ⟨parseInteger text 1 3, parseInteger text 3 5, parseInteger text 5 7⟩

theorem printable_of_isRgbText {text : List Char} (h : isRgbText text = true) :
    printableAsciiStringP (text.map Char.toUpper) = true ∧ text.length = 7 := by
  rw [isRgbText, decide_eq_true_eq] at h
  obtain ⟨hlength, hhead, hdigits⟩ := h
  obtain ⟨rest, rfl⟩ := List.head?_eq_some_iff.1 hhead
  refine ⟨?_, hlength⟩
  rw [printableAsciiStringP, List.map_cons, List.all_cons, List.all_map, Bool.and_eq_true]
  refine ⟨by decide, List.all_eq_true.2 ?_⟩
  intro character hmem
  have hhexadecimal := List.all_eq_true.1 hdigits character hmem
  exact (hexadecimal_spec (isPrintable_of_hexadecimal hhexadecimal) hhexadecimal).1

/-- **The menu parses the colours of the compiler.** -/
theorem parseColor_writeString {text : List Char} (h : isRgbText text = true) :
    parseColor (writeString (text.map Char.toUpper)) = some (rgbOf text) := by
  obtain ⟨hred, hgreen, hblue, hvalue⟩ := parseInteger_spec h
  obtain ⟨hprintable, hlength⟩ := printable_of_isRgbText h
  rw [isRgbText, decide_eq_true_eq] at h
  obtain ⟨-, hhead, hdigits⟩ := h
  obtain ⟨rest, rfl⟩ := List.head?_eq_some_iff.1 hhead
  rw [List.tail_cons] at hdigits
  rw [writeString_eq hprintable, parseColor, if_neg, List.map_cons, List.map_cons, List.tail_cons,
    colorValue_map hdigits]
  · rw [rgbValue, List.tail_cons] at hvalue
    dsimp only
    rw [hvalue, rgbOf]
    have hmask : (0xff : ℕ) = 2 ^ 8 - 1 := rfl
    simp only [hmask, Nat.and_two_pow_sub_one_eq_mod, Nat.shiftRight_eq_div_pow]
    congr 2
    all_goals omega
  · rw [List.length_map, List.length_map, hlength]
    rintro (hne | hne)
    · exact hne rfl
    · exact hne rfl

/-- An upper case colour is a colour, and stays as it is. -/
theorem isRgbText_map_toUpper {text : List Char} (h : isRgbText text = true) :
    isRgbText (text.map Char.toUpper) = true ∧
      (text.map Char.toUpper).map Char.toUpper = text.map Char.toUpper := by
  have hupper : ∀ {character : Char}, hexadecimalCharacterP character = true →
      hexadecimalCharacterP character.toUpper = true ∧
        character.toUpper.toUpper = character.toUpper := fun hmem =>
    forall_printable (P := fun character => hexadecimalCharacterP character = true →
        hexadecimalCharacterP character.toUpper = true ∧
          character.toUpper.toUpper = character.toUpper) (by decide +kernel)
      (isPrintable_of_hexadecimal hmem) hmem
  rw [isRgbText, decide_eq_true_eq] at h
  obtain ⟨hlength, hhead, hdigits⟩ := h
  obtain ⟨rest, rfl⟩ := List.head?_eq_some_iff.1 hhead
  rw [List.tail_cons, List.all_eq_true] at hdigits
  constructor
  · rw [isRgbText, decide_eq_true_eq, List.length_map, List.map_cons, List.tail_cons, List.all_map]
    exact ⟨hlength, rfl, List.all_eq_true.2 fun character hmem => (hupper (hdigits _ hmem)).1⟩
  · rw [List.map_map]
    refine List.map_congr_left ?_
    intro character hmem
    rcases List.mem_cons.1 hmem with rfl | hmem
    · rfl
    · exact (hupper (hdigits _ hmem)).2

/-- The menu parses an upper case colour to what the compiler sees in it. -/
theorem parseColor_of_isRgbText {text : List Char} (h : isRgbText text = true) :
    parseColor (writeString (text.map Char.toUpper)) = some (rgbOf (text.map Char.toUpper)) := by
  obtain ⟨hshape, hupper⟩ := isRgbText_map_toUpper h
  have hparse := parseColor_writeString hshape
  rwa [hupper] at hparse

theorem isXtermColor_ansi : ∀ color ∈ ansiColors, isXtermColor color = true := by decide +kernel

theorem ansiColors_lt : ∀ color ∈ ansiColors,
    color.red < 256 ∧ color.green < 256 ∧ color.blue < 256 := by decide

/-- The first sixteen colours as numbers. -/
theorem mem_ansiColors {rgb : ℕ}
    (h : rgb ∈ [0x000000, 0x800000, 0x008000, 0x808000, 0x000080, 0x800080, 0x008080, 0xc0c0c0,
      0x808080, 0xff0000, 0x00ff00, 0xffff00, 0x0000ff, 0xff00ff, 0x00ffff, 0xffffff]) :
    ∃ color ∈ ansiColors, rgb = 65536 * color.red + 256 * color.green + color.blue := by
  have hmap : ansiColors.map (fun color => 65536 * color.red + 256 * color.green + color.blue) =
      [0x000000, 0x800000, 0x008000, 0x808000, 0x000080, 0x800080, 0x008080, 0xc0c0c0,
        0x808080, 0xff0000, 0x00ff00, 0xffff00, 0x0000ff, 0xff00ff, 0x00ffff, 0xffffff] := by
    decide
  rw [← hmap] at h
  obtain ⟨color, hmem, hvalue⟩ := List.mem_map.1 h
  exact ⟨color, hmem, hvalue.symm⟩

theorem isXtermColor_xtermColor {index : ℕ} (h : index < 256) :
    isXtermColor (xtermColor index) = true :=
  List.any_eq_true.2 ⟨index, List.mem_range.2 h, decide_eq_true rfl⟩

/-- Where a colour of the cube stands. -/
def cubeIndex (red green blue : ℕ) : ℕ :=
  16 + 36 * cubeLevels.idxOf red + 6 * cubeLevels.idxOf green + cubeLevels.idxOf blue

theorem xtermColor_cubeIndex : ∀ red ∈ cubeLevels, ∀ green ∈ cubeLevels, ∀ blue ∈ cubeLevels,
    cubeIndex red green blue < 256 ∧
      xtermColor (cubeIndex red green blue) = ⟨red, green, blue⟩ := by decide +kernel

theorem isXtermColor_gray : ∀ step < 24,
    isXtermColor ⟨8 + 10 * step, 8 + 10 * step, 8 + 10 * step⟩ = true := by decide +kernel

/-- **The colours of the compiler are xterm colours.** -/
theorem isXtermColor_rgbOf {text : List Char} (h : isRgbText text = true)
    (hxterm : xtermColorP text = true) : isXtermColor (rgbOf text) = true := by
  obtain ⟨hred, hgreen, hblue, -⟩ := parseInteger_spec h
  rw [xtermColorP, decide_eq_true_eq, Nat.shiftLeft_eq, Nat.shiftLeft_eq] at hxterm
  rw [rgbOf]
  generalize parseInteger text 1 3 = red at *
  generalize parseInteger text 3 5 = green at *
  generalize parseInteger text 5 7 = blue at *
  rcases hxterm with hansi | ⟨hr, hg, hb⟩ | ⟨rfl, rfl, hlow, hhigh, hstep⟩
  · obtain ⟨⟨ansiRed, ansiGreen, ansiBlue⟩, hmem, hvalue⟩ := mem_ansiColors hansi
    obtain ⟨hansiRed, hansiGreen, hansiBlue⟩ := ansiColors_lt _ hmem
    dsimp only at hvalue hansiRed hansiGreen hansiBlue
    have heqRed : red = ansiRed := by omega
    have heqGreen : green = ansiGreen := by omega
    have heqBlue : blue = ansiBlue := by omega
    rw [heqRed, heqGreen, heqBlue]
    exact isXtermColor_ansi _ hmem
  · rw [xtermCubeComponentP, decide_eq_true_eq] at hr hg hb
    obtain ⟨hindex, hcolor⟩ := xtermColor_cubeIndex red hr green hg blue hb
    rw [← hcolor]
    exact isXtermColor_xtermColor hindex
  · have hgray := isXtermColor_gray ((red - 8) / 10) (by omega)
    have hred : 8 + 10 * ((red - 8) / 10) = red := by omega
    rw [hred] at hgray
    exact hgray

/-! ### Entries of the menu -/

/-- The line of the manifest that a game becomes. -/
def GameRow.entry (game : GameRow) : CatalogEntry :=
  ⟨writeString game.id, writeString game.title, writeString game.system, writeString game.rom,
    writeString game.color⟩

/-- **The manifest is the one of its entries.** -/
theorem writeTsv_eq (games : List GameRow) :
    writeTsv games = encodeCatalog (games.map GameRow.entry) := by
  have hrow : ∀ game : GameRow, writeRow game = game.entry.line ++ [0x0a] := by
    intro game
    have htab : ascii "\t" = [0x09] := by decide
    have hnewline : ascii "\n" = [0x0a] := by decide
    rw [writeRow, htab, hnewline, GameRow.fields, GameRow.entry, CatalogEntry.line]
    simp [List.intercalate]
  rw [writeTsv, encodeCatalog, List.flatMap_map]
  exact List.flatMap_congr fun game _ => hrow game

theorem systemName_spec : ∀ system ∈ systemKeys,
    validSystem (writeString (symbolDowncase system)) = true ∧
      printableAsciiStringP (symbolDowncase system) = true ∧
        (symbolDowncase system).length ≤ 5 ∧ (expectedRoot system).head? = some '/' := by decide

theorem IsText.validUtf8Text_writeString {maximumLength maxCodepoints : ℕ} {text : List Char}
    (h : IsText maximumLength text) (hle : maximumLength ≤ maxCodepoints) :
    validUtf8Text (writeString text) maxCodepoints false = true := by
  have hlength := length_writeString h.printable
  have hpos := h.pos
  have hbound := h.bounded
  refine validUtf8Text_of_printable false ?_ (fun byte hmem => mem_writeString h.printable hmem)
    (by omega)
  intro hnil
  rw [hnil, List.length_nil] at hlength
  omega

namespace GameRow.Valid

variable {game : GameRow}

theorem isText_rom (h : game.Valid) : IsText 512 game.rom := by
  obtain ⟨_, _, _, hrom⟩ := h.rom
  exact hrom.toIsText

theorem system (h : game.Valid) : NesDeck.validSystem (writeString game.system) = true ∧
    printableAsciiStringP game.system = true ∧ game.system.length ≤ 5 := by
  obtain ⟨system, hmem, hsystem, -⟩ := h.rom
  rw [hsystem]
  exact ⟨(systemName_spec system hmem).1, (systemName_spec system hmem).2.1,
    (systemName_spec system hmem).2.2.1⟩

theorem printable_color (h : game.Valid) :
    printableAsciiStringP game.color = true ∧ game.color.length = 7 := by
  obtain ⟨text, hshape, -, hcolor⟩ := h.color
  rw [hcolor, List.length_map]
  exact printable_of_isRgbText hshape

/-- A path has no spaces. -/
theorem ne_space_of_mem_rom (h : game.Valid) : ' ' ∉ game.rom := by
  obtain ⟨_, _, _, hrom⟩ := h.rom
  intro hmem
  exact absurd (List.all_eq_true.1 hrom.characters _ hmem) (by decide)

theorem isAbsolutePath_rom (h : game.Valid) : isAbsolutePath (writeString game.rom) = true := by
  obtain ⟨system, hmem, -, hrom⟩ := h.rom
  have hlength := length_writeString hrom.printable
  have hbound := hrom.bounded
  obtain ⟨rest, hrest⟩ := hrom.root
  have hhead : game.rom.head? = some '/' := by
    rw [← hrest, List.head?_append, (systemName_spec system hmem).2.2.2]
    rfl
  have hmax : pathMax = 4096 := rfl
  rw [isAbsolutePath, decide_eq_true_eq]
  refine ⟨?_, by omega⟩
  rw [writeString_eq hrom.printable, List.head?_map, hhead]
  decide

/-- The size of a line. -/
theorem length_line_le (h : game.Valid) : game.entry.line.length ≤ 608 := by
  have hid := length_writeString h.id.printable
  have htitle := length_writeString h.title.printable
  have hsystem := length_writeString h.system.2.1
  have hrom := length_writeString h.isText_rom.printable
  have hcolor := length_writeString h.printable_color.1
  have hidBound := h.id.bounded
  have htitleBound := h.title.bounded
  have hsystemBound := h.system.2.2
  have hromBound := h.isText_rom.bounded
  have hcolorLength := h.printable_color.2
  rw [entry, CatalogEntry.line]
  simp only [List.length_append, List.length_cons]
  omega

/-- **The menu accepts the entry of a validated game** if it accepts its ROM. -/
theorem good (h : game.Valid) {files : Bytes → File}
    (hrom : validateRom (writeString game.system) (writeString game.rom)
      (files (writeString game.rom)) = .ok ()) : game.entry.Good files := by
  obtain ⟨text, hshape, hxterm, hcolor⟩ := h.color
  obtain ⟨hhead, hlast⟩ := ends_of_stringTrim h.titleTrimmed
  have hspace := h.ne_space_of_mem_rom
  have hparse := parseColor_writeString hshape
  have hline := h.length_line_le
  rw [← hcolor] at hparse
  refine ⟨?_, ?_, by omega⟩
  · exact
      { id := h.id.validId
        title := h.title.validUtf8Text_writeString (by decide)
        titleTrimmed := trimAsciiSpace_writeString h.title.printable hhead hlast
        system := h.system.1
        rom := h.isText_rom.validUtf8Text_writeString (by decide)
        romTrimmed := trimAsciiSpace_writeString h.isText_rom.printable
          (fun hmem => hspace (List.mem_of_mem_head? hmem))
          (fun hmem => hspace (List.mem_of_getLast? hmem))
        color := by
          rw [entry, CatalogEntry.game, hparse, Option.getD_some]
          exact isXtermColor_rgbOf hshape hxterm
        content := hrom
        cover := rfl }
  · rw [entry, hparse]
    rfl

/-- The ROMs of a console lie below the root of the ROMs. -/
theorem rom_root (h : game.Valid) : writeString game.system = ascii "deck" ∨
    ascii "/mnt/data/roms/" <+: writeString game.rom := by
  have hroot : ∀ system ∈ systemKeys, writeString (symbolDowncase system) = ascii "deck" ∨
      consoleRomRoot <+: expectedRoot system := by decide
  obtain ⟨system, hmem, hsystem, hrom⟩ := h.rom
  rcases hroot system hmem with hdeck | hconsole
  · rw [hsystem]
    exact Or.inl hdeck
  · refine Or.inr ?_
    obtain ⟨rest, hrest⟩ := hconsole.trans hrom.root
    rw [← hrest, writeString, List.flatMap_append, ← writeString]
    exact List.prefix_append (writeString consoleRomRoot) _

end GameRow.Valid

/-- The entries of a validated catalog have different ids and different ROMs. -/
theorem IsCatalog.nodup_entries {games : List GameRow} (h : IsCatalog games) :
    ((games.map GameRow.entry).map (·.id)).Nodup ∧
    ((games.map GameRow.entry).map (·.rom)).Nodup := by
  constructor
  · rw [List.map_map]
    refine List.Nodup.map_on ?_ h.ids.of_map
    intro game hmem other hother heq
    exact List.inj_on_of_nodup_map h.ids hmem hother
      (writeString_inj (h.valid game hmem).id.printable (h.valid other hother).id.printable heq)
  · rw [List.map_map]
    refine List.Nodup.map_on ?_ h.roms.of_map
    intro game hmem other hother heq
    exact List.inj_on_of_nodup_map h.roms hmem hother
      (writeString_inj (h.valid game hmem).isText_rom.printable
        (h.valid other hother).isText_rom.printable heq)

/-! ### The menu reads the manifest back -/

/-- The game that the menu shows for a game of the catalog. -/
def GameRow.gameEntry (game : GameRow) : GameEntry :=
  ⟨writeString game.id, writeString game.title, writeString game.system, writeString game.rom,
    rgbOf game.color, .none⟩

theorem GameRow.Valid.game_entry {game : GameRow} (h : game.Valid) :
    game.entry.game = game.gameEntry := by
  obtain ⟨text, hshape, -, hcolor⟩ := h.color
  rw [GameRow.entry, CatalogEntry.game, GameRow.gameEntry, hcolor, parseColor_of_isRgbText hshape,
    Option.getD_some]

/-- The menu accepts every entry of a catalog whose console ROMs it accepts: a deck game is judged
by its path alone. -/
theorem IsCatalog.good {games : List GameRow} (h : IsCatalog games) {files : Bytes → File}
    (hroms : ∀ game ∈ games, writeString game.system ≠ ascii "deck" →
      validateRom (writeString game.system) (writeString game.rom)
        (files (writeString game.rom)) = .ok ()) :
    ∀ game ∈ games, game.entry.Good files := by
  intro game hmem
  have hvalid := h.valid game hmem
  refine hvalid.good ?_
  by_cases hdeck : writeString game.system = ascii "deck"
  · rw [hdeck]
    exact validateRom_deck hvalid.isAbsolutePath_rom _
  · exact hroms game hmem hdeck

/-- The manifest of a catalog fits into what the menu reads. -/
theorem IsCatalog.length_writeTsv_le {games : List GameRow} (h : IsCatalog games) :
    (writeTsv games).length ≤ kMaximumManifestBytes := by
  have hline : ∀ entry ∈ games.map GameRow.entry, entry.line.length < 609 := by
    intro entry hmem
    obtain ⟨game, hgame, rfl⟩ := List.mem_map.1 hmem
    exact Nat.lt_succ_of_le (h.valid game hgame).length_line_le
  have hsize := length_encodeCatalog_le hline
  have hroom : games.length ≤ 64 := h.bounded
  rw [List.length_map] at hsize
  rw [writeTsv_eq, kMaximumManifestBytes]
  omega

/-- **The menu reads the games of a validated catalog back**, in their order, from the manifest that
the compiler writes for it, as long as the ROMs of the consoles are valid. -/
theorem loadManifest_writeTsv {form : Form} {games : List GameRow}
    {palette : List (List Char × List Char)} {files : Bytes → File} {path : Bytes}
    (hform : validateCatalog form = .ok (games, palette))
    (hpath : isAbsolutePath path = true) (hfile : (files path).readable)
    (hcontent : (files path).content = writeTsv games)
    (hroms : ∀ game ∈ games, writeString game.system ≠ ascii "deck" →
      validateRom (writeString game.system) (writeString game.rom)
        (files (writeString game.rom)) = .ok ()) :
    loadManifest files path = .ok (games.map GameRow.gameEntry) := by
  have hgames := validateCatalog_spec hform
  have hsize := hgames.length_writeTsv_le
  have hgood := hgames.good hroms
  obtain ⟨hids, hpaths⟩ := hgames.nodup_entries
  rw [writeTsv_eq] at hcontent hsize
  have hload := loadManifest_encodeCatalog hpath hfile hcontent hsize
    (mt List.map_eq_nil_iff.1 hgames.nonempty) (List.forall_mem_map.2 hgood) hids hpaths
    (by rw [List.length_map]; exact hgames.bounded)
  have hentries : (games.map GameRow.entry).map CatalogEntry.game =
      games.map GameRow.gameEntry := by
    rw [List.map_map]
    exact List.map_congr_left fun game hmem => (hgames.valid game hmem).game_entry
  rwa [hentries] at hload

/-! ### A catalog of a console game and a deck game -/

section Sample

def pongRom : List Char := "/mnt/data/roms/chip8/pong.ch8".toList

def pongForm : Form :=
  .ofList
    [.keyword "GAMES",
     .ofList
       [.ofList
         [.keyword "COLOR", .string "#5f87ff".toList, .keyword "ROM", .string pongRom,
          .keyword "ID", .string "pong".toList, .keyword "SYSTEM", .keyword "CHIP8",
          .keyword "TITLE", .string "PONG".toList],
        .ofList
         [.keyword "ID", .string "ten".toList, .keyword "TITLE", .string "TEN MORE".toList,
          .keyword "SYSTEM", .keyword "DECK", .keyword "ROM",
          .string "/mnt/data/nes-deck/games/ten".toList, .keyword "COLOR",
          .string "#FFFFFF".toList]],
     .keyword "PALETTE",
     .ofList (paletteKeys.flatMap fun key => [key, .string "#000000".toList]),
     .keyword "VERSION", .integer 7]

def pongGames : List GameRow :=
  [⟨"pong".toList, "PONG".toList, "chip8".toList, pongRom, "#5F87FF".toList⟩,
   ⟨"ten".toList, "TEN MORE".toList, "deck".toList, "/mnt/data/nes-deck/games/ten".toList,
     "#FFFFFF".toList⟩]

def pongFiles (path : Bytes) : File :=
  if path = writeString pongRom then .ofContent [0x12, 0x00] else .ofContent (writeTsv pongGames)

/-- A program of two bytes, and a deck game without a file. -/
theorem loadManifest_writeTsv_pong :
    loadManifest pongFiles (ascii "/games.tsv") = .ok (pongGames.map GameRow.gameEntry) := by
  have hform : validateCatalog pongForm =
      .ok (pongGames, paletteKeys.map fun key => (symbolDowncase key, "#000000".toList)) := by
    decide +kernel
  have hfile : pongFiles (ascii "/games.tsv") = .ofContent (writeTsv pongGames) :=
    if_neg (by decide)
  refine loadManifest_writeTsv hform (by decide) ?_ ?_ ?_
  · rw [hfile]
    exact File.readable_ofContent _
  · rw [hfile]
    rfl
  · decide +kernel

end Sample

end NesDeck.CatalogCompiler
