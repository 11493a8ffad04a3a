/-
**The appearance override.**

The colours that a user picks in the uploader reach the dashboard as a Lisp form, which the catalog
compiler reads, validates and writes out as a table.  The uploader reads the same text with a
tokenizer that knows nothing of Lisp, to show the colours that are in force; it must not accept a
text that the compiler refuses or reads differently.

Main definitions:

* `NesDeck.CatalogCompiler.validateAppearanceOverride` — the validator;
* `NesDeck.CatalogCompiler.writePaletteTsv` — the table;
* `NesDeck.CatalogCompiler.overrideForm` — the form of the overrides that the uploader accepts.

Main results:

* `NesDeck.CatalogCompiler.readCatalog_of_isOverride` — the reader finds this form;
* `NesDeck.CatalogCompiler.validateAppearanceOverride_overrideForm` — the validator accepts it;
* `NesDeck.CatalogCompiler.parsePaletteOverride_agrees` — **an override that the uploader accepts is
  accepted by the compiler, with the same colours**.
-/

import NesDeck.CompileCatalog
import NesDeck.LispReader
import NesDeck.Uploader.Palette

set_option relaxedAutoImplicit false
set_option autoImplicit false

namespace NesDeck.CatalogCompiler

open HostFile (Bytes ascii forall_ascii)
open Uploader
  (IsEntries IsOverride Palette addColors entryTokens forall_overrideTokens headTokens normalizeRGB
  overrideTokens paletteEntries paletteNames parsePaletteOverride validLegacySettingsIcon)

/-! ### The validator -/

def appearanceOverrideVersion : ℕ := 3

def appearanceOverrideKeys : List Form :=
  [.keyword "VERSION", .keyword "SETTINGS-ICON", .keyword "PALETTE"]

/-- The reasons for which an override is refused. -/
inductive AppearanceError where
  | form (error : FormError)
  | version (value : Form)
  | iconInVersion2
  | missingIcon
  | legacyIcon (context : Bytes)
  deriving DecidableEq

/-- The text of the error; `prin1` prints a form. -/
def AppearanceError.message (prin1 : Form → Bytes) : AppearanceError → Bytes
  | form error => error.message prin1
  | version value =>
      ascii "Catalog error: unsupported appearance override :version " ++ prin1 value ++
        ascii ("; expected 2 or " ++ toString appearanceOverrideVersion)
  | iconInVersion2 => ascii "Catalog error: appearance override version 2 cannot set an icon"
  | missingIcon => ascii "Catalog error: appearance override version 3 is missing :settings-icon"
  | legacyIcon context =>
      ascii "Catalog error: " ++ context ++ ascii " is not a valid legacy cog name"

def isIconCharacter (character : Char) : Bool :=
  character = '-' ∨ ('a' ≤ character ∧ character ≤ 'z') ∨ ('0' ≤ character ∧ character ≤ '9')

def validateLegacySettingsIcon (value : Form) (context : Bytes) : Except AppearanceError Unit :=
  match value with
  | .string text =>
      if 1 ≤ text.length ∧ text.length ≤ 64 ∧ text.all isIconCharacter = true then .ok ()
      else .error (.legacyIcon context)
  | _ => .error (.legacyIcon context)

/-- The part of the validator about the icon. -/
def validateSettingsPair (version : Form) (settingsPair : Option Form) :
    Except AppearanceError Unit :=
  if version = .integer 2 ∧ settingsPair.isSome = true then .error .iconInVersion2
  else if version = .integer appearanceOverrideVersion ∧ settingsPair.isNone = true then
    .error .missingIcon
  else
    match settingsPair with
    | none => .ok ()
    | some value =>
        validateLegacySettingsIcon value (ascii "appearance override :settings-icon")

def validateAppearanceOverride (form : Form) :
    Except AppearanceError (List (List Char × List Char)) :=
  match decodePlist form appearanceOverrideKeys (ascii "appearance override")
      [.keyword "VERSION", .keyword "PALETTE"] with
  | .error error => .error (.form error)
  | .ok pairs =>
      let version := requiredValue (.keyword "VERSION") pairs
      if version ∉ [Form.integer 2, .integer 3] then .error (.version version)
      else
        match validateSettingsPair version (pairs.lookup (.keyword "SETTINGS-ICON")) with
        | .error error => .error error
        | .ok () =>
            match validatePalette (requiredValue (.keyword "PALETTE") pairs)
                (ascii "appearance override :palette") with
            | .error error => .error (.form error)
            | .ok palette => .ok palette

/-- The name and the colour of a role, as they are written. -/
def writtenRole (entry : List Char × List Char) : Bytes × Bytes :=
  (writeString entry.1, writeString entry.2)

def writePaletteTsv (palette : List (List Char × List Char)) : Bytes :=
  palette.flatMap fun entry =>
    writeString entry.1 ++ ascii "\t" ++ writeString entry.2 ++ ascii "\n"

theorem writePaletteTsv_eq (palette : List (List Char × List Char)) :
    writePaletteTsv palette =
      ((palette.map writtenRole).map Uploader.paletteLine).flatMap fun line => line ++ [0x0a] := by
  have htab : ascii "\t" = [0x09] := by decide
  have hnewline : ascii "\n" = [0x0a] := by decide
  rw [writePaletteTsv, List.flatMap_map, List.flatMap_map, htab, hnewline]
  refine List.flatMap_congr ?_
  intro entry _
  rw [writtenRole, Uploader.paletteLine, List.append_assoc (writeString entry.1),
    List.singleton_append]

/-! ### The form of an override -/

/-- The keyword of a name. -/
def keyOf (name : Bytes) : Form :=
  .symbol "KEYWORD".toList ((name.map characterOf).map Char.toUpper)

def stringOf (text : Bytes) : Form := .string (text.map characterOf)

/-- The keys and values of the palette. -/
def palettePairs (entries : List (Bytes × Bytes)) : List (Form × Form) :=
  entries.map fun entry => (keyOf entry.1, stringOf entry.2)

/-- What an override says before its palette. -/
def headPairs : (icon : Option Bytes) → List (Form × Form)
  | none => [(.keyword "VERSION", .integer 2)]
  | some name => [(.keyword "VERSION", .integer 3), (.keyword "SETTINGS-ICON", stringOf name)]

def overridePairs (icon : Option Bytes) (entries : List (Bytes × Bytes)) : List (Form × Form) :=
  headPairs icon ++ [(.keyword "PALETTE", .ofList (plist (palettePairs entries)))]

def overrideForm (icon : Option Bytes) (entries : List (Bytes × Bytes)) : Form :=
  .ofList (plist (overridePairs icon entries))

/-! ### Bytes and characters -/

/-- The characters of colours. -/
def isColorByte (byte : UInt8) : Bool := byte = 0x23 ∨ Uploader.isHexadecimal byte = true

theorem lt_of_isColorByte {byte : UInt8} (h : isColorByte byte = true) : byte < 0x80 := by
  rw [isColorByte, decide_eq_true_eq, Uploader.isHexadecimal, decide_eq_true_eq, isDigit,
    decide_eq_true_eq] at h
  rcases h with rfl | ⟨-, hle⟩ | ⟨-, hle⟩ | ⟨-, hle⟩
  · decide
  · exact UInt8.lt_of_le_of_lt hle (by decide)
  · exact UInt8.lt_of_le_of_lt hle (by decide)
  · exact UInt8.lt_of_le_of_lt hle (by decide)

/-- What a character of a colour is to the compiler. -/
theorem isColorByte_spec {byte : UInt8} (h : isColorByte byte = true) :
    isGraphic byte = true ∧ (characterOf byte ≠ '"' ∧ characterOf byte ≠ '\\') ∧
      (Uploader.isHexadecimal byte = true → hexadecimalCharacterP (characterOf byte) = true) ∧
      String.utf8EncodeChar (characterOf byte).toUpper = [Uploader.toUpper byte] :=
  forall_ascii (P := fun byte => isColorByte byte = true →
      isGraphic byte = true ∧ (characterOf byte ≠ '"' ∧ characterOf byte ≠ '\\') ∧
        (Uploader.isHexadecimal byte = true → hexadecimalCharacterP (characterOf byte) = true) ∧
        String.utf8EncodeChar (characterOf byte).toUpper = [Uploader.toUpper byte])
    (by decide +kernel) byte (lt_of_isColorByte h) h

theorem forall_isColorByte {text canonical : Bytes} (h : normalizeRGB text = some canonical) :
    ∀ byte ∈ text, isColorByte byte = true := by
  obtain ⟨-, hhead, hdigits, -⟩ := Uploader.normalizeRGB_eq_some_iff.1 h
  obtain ⟨digits, rfl⟩ := List.head?_eq_some_iff.1 hhead
  rw [List.tail_cons, List.all_eq_true] at hdigits
  refine List.forall_mem_cons.2 ⟨by decide, ?_⟩
  intro byte hbyte
  rw [isColorByte, decide_eq_true_eq]
  exact Or.inr (hdigits byte hbyte)

/-- **A colour of the uploader is one of the compiler**, and is written in the same upper case. -/
theorem isRgbText_of_normalizeRGB {text canonical : Bytes}
    (h : normalizeRGB text = some canonical) :
    isRgbText (text.map characterOf) = true ∧
      writeString ((text.map characterOf).map Char.toUpper) = canonical := by
  have hbytes := forall_isColorByte h
  obtain ⟨hlength, hhead, hdigits, rfl⟩ := Uploader.normalizeRGB_eq_some_iff.1 h
  constructor
  · obtain ⟨digits, rfl⟩ := List.head?_eq_some_iff.1 hhead
    rw [List.tail_cons, List.all_eq_true] at hdigits
    rw [isRgbText, decide_eq_true_eq, List.length_map, List.map_cons, List.tail_cons, List.all_map]
    exact ⟨hlength, rfl, List.all_eq_true.2 fun byte hbyte =>
      (isColorByte_spec (hbytes byte (List.mem_cons_of_mem _ hbyte))).2.2.1 (hdigits byte hbyte)⟩
  · rw [writeString, List.map_map, List.flatMap_map, List.map_eq_flatMap]
    exact List.flatMap_congr fun byte hbyte => (isColorByte_spec (hbytes byte hbyte)).2.2.2

/-- The characters of the names of legacy icons. -/
def isIconByte (byte : UInt8) : Bool :=
  isLower byte = true ∨ isDigit byte = true ∨ byte = 0x2d

theorem isIconByte_spec {byte : UInt8} (h : isIconByte byte = true) :
    isGraphic byte = true ∧ (characterOf byte ≠ '"' ∧ characterOf byte ≠ '\\') ∧
      isIconCharacter (characterOf byte) = true := by
  have hascii : byte < 0x80 := by
    have hcases := h
    rw [isIconByte, decide_eq_true_eq, isLower, decide_eq_true_eq, isDigit,
      decide_eq_true_eq] at hcases
    rcases hcases with ⟨-, hle⟩ | ⟨-, hle⟩ | rfl
    · exact UInt8.lt_of_le_of_lt hle (by decide)
    · exact UInt8.lt_of_le_of_lt hle (by decide)
    · decide
  exact forall_ascii (P := fun byte => isIconByte byte = true →
      isGraphic byte = true ∧ (characterOf byte ≠ '"' ∧ characterOf byte ≠ '\\') ∧
        isIconCharacter (characterOf byte) = true) (by decide +kernel) byte hascii h

theorem validLegacySettingsIcon_iff {name : Bytes} :
    validLegacySettingsIcon name = true ↔
      1 ≤ name.length ∧ name.length ≤ 64 ∧ ∀ byte ∈ name, isIconByte byte = true := by
  rw [validLegacySettingsIcon]
  split
  · rename_i hlength
    refine ⟨by simp, ?_⟩
    rintro ⟨hpos, hle, -⟩
    omega
  · rename_i hlength
    rw [List.all_eq_true]
    constructor
    · exact fun h => ⟨by omega, by omega, h⟩
    · exact fun h => h.2.2

/-! ### The reader finds the form -/

/-- The name of a role: as a token a keyword, and written as it was. -/
theorem keyOf_spec : ∀ name ∈ paletteNames,
    (((0x3a :: name).map characterOf).all isConstituent = true ∧
      ReaderToken.lexeme ⟨((0x3a :: name).map characterOf).map fun c => (c.toUpper, false), false⟩ =
        .ok (.atom (keyOf name))) ∧
      ((0x3a : UInt8) :: name).all isGraphic = true ∧
      writeString (symbolDowncase (keyOf name)) = name := by decide +kernel

/-- A quoted text of harmless characters. -/
theorem denotes_quoted {text : Bytes}
    (h : ∀ byte ∈ text, characterOf byte ≠ '"' ∧ characterOf byte ≠ '\\') :
    Denotes (((0x22 :: (text ++ [0x22])) : Bytes).map characterOf) (.atom (stringOf text)) := by
  have hquote : characterOf 0x22 = '"' := by decide
  rw [List.map_cons, List.map_append, List.map_singleton, hquote]
  exact denotes_string (List.forall_mem_map.2 h)

/-- The lexemes of the entries. -/
theorem denotes_entryTokens {entries : List (Bytes × Bytes)}
    (hknown : ∀ entry ∈ entries, entry.1 ∈ paletteNames)
    (hcolors : ∀ entry ∈ entries, normalizeRGB entry.2 = some (entry.2.map Uploader.toUpper)) :
    List.Forall₂ Denotes ((entryTokens entries).map (List.map characterOf))
      ((plist (palettePairs entries)).map .atom) := by
  induction entries with
  | nil => exact .nil
  | cons entry entries ih =>
      obtain ⟨hname, hknown⟩ := List.forall_mem_cons.1 hknown
      obtain ⟨hcolor, hcolors⟩ := List.forall_mem_cons.1 hcolors
      obtain ⟨⟨hword, hlexeme⟩, -⟩ := keyOf_spec entry.1 hname
      exact .cons (denotes_token (List.cons_ne_nil _ _) hword hlexeme)
        (.cons (denotes_quoted fun byte hbyte =>
          (isColorByte_spec (forall_isColorByte hcolor byte hbyte)).2.1) (ih hknown hcolors))

theorem denotes_head : Denotes ((ascii "(").map characterOf) .openList ∧
    Denotes ((ascii ")").map characterOf) .closeList ∧
    Denotes ((ascii ":version").map characterOf) (.atom (.keyword "VERSION")) ∧
    Denotes ((ascii ":settings-icon").map characterOf) (.atom (.keyword "SETTINGS-ICON")) ∧
    Denotes ((ascii ":palette").map characterOf) (.atom (.keyword "PALETTE")) ∧
    Denotes ((ascii "2").map characterOf) (.atom (.integer 2)) ∧
    Denotes ((ascii "3").map characterOf) (.atom (.integer 3)) := by
  have hopen : (ascii "(").map characterOf = ['('] := by decide
  have hclose : (ascii ")").map characterOf = [')'] := by decide
  rw [hopen, hclose]
  refine ⟨denotes_open, denotes_close, ?_, ?_, ?_, ?_, ?_⟩
  all_goals exact denotes_token (by decide) (by decide) (by decide)

/-- The lexemes in front of the entries. -/
theorem denotes_headTokens {icon : Option Bytes}
    (hicon : ∀ name ∈ icon, ∀ byte ∈ name, isIconByte byte = true) :
    List.Forall₂ Denotes ((headTokens icon).map (List.map characterOf))
      (.openList ::
        ((plist (headPairs icon) ++ [Form.keyword "PALETTE"]).map .atom ++ [.openList])) := by
  obtain ⟨hopen, -, hversion, hkey, hpalette, htwo, hthree⟩ := denotes_head
  cases icon with
  | none => exact .cons hopen (.cons hversion (.cons htwo (.cons hpalette (.cons hopen .nil))))
  | some name =>
      have hname := denotes_quoted fun byte hbyte =>
        (isIconByte_spec (hicon name rfl byte hbyte)).2.1
      exact .cons hopen (.cons hversion (.cons hthree (.cons hkey (.cons hname
        (.cons hpalette (.cons hopen .nil))))))

theorem all_isGraphic_quoted {text : Bytes} (h : ∀ byte ∈ text, isGraphic byte = true) :
    ((0x22 : UInt8) :: (text ++ [0x22])).all isGraphic = true := by
  have hquote : isGraphic 0x22 = true := by decide
  rw [List.all_cons, List.all_append, List.all_eq_true.2 h, hquote]
  decide

/-- The tokens of an override are printable. -/
theorem all_isGraphic_overrideTokens {contents : Bytes} {icon : Option Bytes}
    {entries : List (Bytes × Bytes)} (h : IsOverride contents icon entries) :
    ∀ token ∈ overrideTokens icon entries, token.all isGraphic = true := by
  refine forall_overrideTokens (by decide) ?_ ?_
  · intro name hname
    have hicon := (validLegacySettingsIcon_iff.1 (h.icon name hname).1).2.2
    exact all_isGraphic_quoted fun byte hbyte => (isIconByte_spec (hicon byte hbyte)).1
  · intro entry hentry
    have hcolor := forall_isColorByte (h.valid.colors entry hentry)
    exact ⟨(keyOf_spec entry.1 (h.valid.known entry hentry)).2.1,
      all_isGraphic_quoted fun byte hbyte => (isColorByte_spec (hcolor byte hbyte)).1⟩

/-- **The reader finds the form of an override.** -/
theorem readCatalog_of_isOverride (format : ExternalFormat) {contents : Bytes}
    {icon : Option Bytes} {entries : List (Bytes × Bytes)} (h : IsOverride contents icon entries) :
    readCatalog format contents = .ok (overrideForm icon entries) := by
  have hicon : ∀ name ∈ icon, ∀ byte ∈ name, isIconByte byte = true := fun name hname =>
    (validLegacySettingsIcon_iff.1 (h.icon name hname).1).2.2
  have hclose := denotes_head.2.1
  have htokens : List.Forall₂ Denotes ((overrideTokens icon entries).map (List.map characterOf))
      (.openList :: ((plist (headPairs icon) ++ [Form.keyword "PALETTE"]).map .atom ++
        .openList :: ((plist (palettePairs entries)).map .atom ++ [.closeList, .closeList]))) := by
    have hentries := denotes_entryTokens h.valid.known h.valid.colors
    have hall := List.rel_append (denotes_headTokens hicon)
      (List.rel_append hentries (.cons hclose (.cons hclose .nil)))
    rw [overrideTokens, List.map_append, List.map_append]
    simpa using hall
  have hblank : ∀ byte, Uploader.isBlank byte = true →
      byte < 0x80 ∧ isWhitespace (characterOf byte) = true := by
    intro byte hbyte
    rw [Uploader.isBlank, decide_eq_true_eq] at hbyte
    rcases hbyte with rfl | rfl | rfl | rfl
    · decide
    · decide
    · decide
    · decide
  have hmark : ∀ byte, Uploader.isParenthesis byte = true ↔ byte = 0x28 ∨ byte = 0x29 := fun byte =>
    by rw [Uploader.isParenthesis, decide_eq_true_eq]
  have hsize : contents.length ≤ maximumCatalogBytes := Nat.le_trans h.size (by decide)
  have hform := readLoop_nested (plist (headPairs icon) ++ [.keyword "PALETTE"])
    (plist (palettePairs entries))
  have hpairs : plist (headPairs icon) ++ [.keyword "PALETTE"] ++
      [.ofList (plist (palettePairs entries))] = plist (overridePairs icon entries) := by
    cases icon with
    | none => rfl
    | some name => rfl
  rw [hpairs] at hform
  exact readCatalog_of_layout hblank hmark format h.layout hsize (all_isGraphic_overrideTokens h)
    htokens hform

/-! ### The validator accepts it -/

theorem requiredValue_of_mem {pairs : List (Form × Form)} (hnodup : (pairs.map Prod.fst).Nodup)
    {key value : Form} (h : (key, value) ∈ pairs) : requiredValue key pairs = value := by
  rw [requiredValue, lookup_of_mem hnodup h, Option.getD_some]

theorem paletteKeys_eq : paletteKeys = paletteNames.map keyOf := by decide +kernel

theorem nodup_paletteKeys : paletteKeys.Nodup := by decide +kernel

/-- The loop over the roles, when the pairs have a colour for each. -/
theorem validateRoles_keyOf {pairs : List (Form × Form)} {values : Palette} {names : List Bytes}
    (hnames : ∀ name ∈ names, name ∈ paletteNames)
    (hcolors : ∀ name ∈ names, ∃ text canonical, requiredValue (keyOf name) pairs = stringOf text ∧
      normalizeRGB text = some canonical ∧ values.get name = some canonical) :
    ∃ palette, validateRoles pairs (names.map keyOf) = .ok palette ∧
      palette.map writtenRole = names.map fun name => (name, (values.get name).getD []) := by
  induction names with
  | nil => exact ⟨[], rfl, rfl⟩
  | cons name names ih =>
      obtain ⟨hname, hnames⟩ := List.forall_mem_cons.1 hnames
      obtain ⟨⟨text, canonical, hvalue, hcolor, hget⟩, hcolors⟩ := List.forall_mem_cons.1 hcolors
      obtain ⟨palette, hpalette, hwritten⟩ := ih hnames hcolors
      obtain ⟨hshape, hupper⟩ := isRgbText_of_normalizeRGB hcolor
      have hrole : validateRgbColor (stringOf text) (keyOf name) =
          .ok ((text.map characterOf).map Char.toUpper) := by
        rw [stringOf, validateRgbColor, hshape, if_neg (by decide)]
      refine ⟨_, by rw [List.map_cons, validateRoles, hvalue, hrole, hpalette], ?_⟩
      rw [List.map_cons, List.map_cons, hwritten, writtenRole, hupper, (keyOf_spec name hname).2.2,
        hget, Option.getD_some]

/-- The keys of a complete palette are all keys, in some order. -/
theorem perm_palettePairs {entries : List (Bytes × Bytes)} (h : IsEntries .empty entries)
    (hcomplete : entries.length = paletteNames.length) :
    ((palettePairs entries).map Prod.fst).Perm paletteKeys := by
  have hknown : ∀ name ∈ entries.map Prod.fst, name ∈ paletteNames :=
    List.forall_mem_map.2 h.known
  have hperm := Uploader.perm_paletteNames h.nodup hknown (by rw [List.length_map, hcomplete])
  have hkeys : (palettePairs entries).map Prod.fst = (entries.map Prod.fst).map keyOf := by
    rw [palettePairs, List.map_map, List.map_map]
    rfl
  rw [hkeys, paletteKeys_eq]
  exact hperm.map keyOf

/-- **The validator accepts a complete palette**, and writes the colours of the uploader. -/
theorem validatePalette_palettePairs {entries : List (Bytes × Bytes)} (h : IsEntries .empty entries)
    (hcomplete : entries.length = paletteNames.length) (context : Bytes) :
    ∃ palette, validatePalette (.ofList (plist (palettePairs entries))) context = .ok palette ∧
      palette.map writtenRole = paletteEntries (addColors entries .empty) := by
  have hperm := perm_palettePairs h hcomplete
  have hnodup : ((palettePairs entries).map Prod.fst).Nodup := hperm.nodup_iff.2 nodup_paletteKeys
  have hdecode : decodePlist (.ofList (plist (palettePairs entries))) paletteKeys context
      paletteKeys = .ok (palettePairs entries) := by
    refine decodePlist_ofPairs context ?_ hnodup ?_ ?_
    · intro pair hpair
      exact hperm.mem_iff.1 (List.mem_map.2 ⟨pair, hpair, rfl⟩)
    · intro hnil
      have hkeys := hperm.length_eq
      rw [hnil] at hkeys
      cases hkeys
    · intro key hkey
      exact hperm.mem_iff.2 hkey
  have hcolors : ∀ name ∈ paletteNames, ∃ text canonical,
      requiredValue (keyOf name) (palettePairs entries) = stringOf text ∧
        normalizeRGB text = some canonical ∧
          (addColors entries .empty).get name = some canonical := by
    intro name hname
    have hknown : ∀ name ∈ entries.map Prod.fst, name ∈ paletteNames :=
      List.forall_mem_map.2 h.known
    have hnames := Uploader.perm_paletteNames h.nodup hknown (by rw [List.length_map, hcomplete])
    obtain ⟨⟨role, text⟩, hentry, rfl⟩ := List.mem_map.1 (hnames.mem_iff.2 hname)
    refine ⟨text, text.map Uploader.toUpper, requiredValue_of_mem hnodup ?_,
      h.colors _ hentry, (Uploader.get_addColors h role _).2 (Or.inl ⟨text, hentry, rfl⟩)⟩
    exact List.mem_map.2 ⟨_, hentry, rfl⟩
  obtain ⟨palette, hpalette, hwritten⟩ := validateRoles_keyOf (fun _ hname => hname) hcolors
  refine ⟨palette, ?_, hwritten⟩
  rw [validatePalette, hdecode]
  dsimp only
  rw [paletteKeys_eq, hpalette]

theorem validateLegacySettingsIcon_stringOf {name : Bytes}
    (h : validLegacySettingsIcon name = true) (context : Bytes) :
    validateLegacySettingsIcon (stringOf name) context = .ok () := by
  obtain ⟨hpos, hlength, hbytes⟩ := validLegacySettingsIcon_iff.1 h
  rw [stringOf, validateLegacySettingsIcon, if_pos]
  rw [List.length_map, List.all_map]
  exact ⟨hpos, hlength, List.all_eq_true.2 fun byte hbyte =>
    (isIconByte_spec (hbytes byte hbyte)).2.2⟩

/-- **The validator accepts the form of an override**, and writes the colours of the uploader. -/
theorem validateAppearanceOverride_overrideForm {contents : Bytes} {icon : Option Bytes}
    {entries : List (Bytes × Bytes)} (h : IsOverride contents icon entries) :
    ∃ palette, validateAppearanceOverride (overrideForm icon entries) = .ok palette ∧
      palette.map writtenRole = paletteEntries (addColors entries .empty) := by
  obtain ⟨palette, hpalette, hwritten⟩ := validatePalette_palettePairs h.valid h.complete
    (ascii "appearance override :palette")
  refine ⟨palette, ?_, hwritten⟩
  have hkeys : ((overridePairs icon entries).map Prod.fst).Nodup ∧
      (∀ pair ∈ overridePairs icon entries, pair.1 ∈ appearanceOverrideKeys) ∧
      ∀ key ∈ [Form.keyword "VERSION", .keyword "PALETTE"],
        key ∈ (overridePairs icon entries).map Prod.fst := by
    rw [← List.forall_mem_map (P := fun key => key ∈ appearanceOverrideKeys)]
    cases icon with
    | none =>
        have hmap : (overridePairs none entries).map Prod.fst =
            [.keyword "VERSION", .keyword "PALETTE"] := rfl
        rw [hmap]
        decide
    | some name =>
        have hmap : (overridePairs (some name) entries).map Prod.fst =
            [.keyword "VERSION", .keyword "SETTINGS-ICON", .keyword "PALETTE"] := rfl
        rw [hmap]
        decide
  obtain ⟨hnodup, hallowed, hrequired⟩ := hkeys
  have hne : overridePairs icon entries ≠ [] := by
    rw [overridePairs]
    exact List.append_ne_nil_of_right_ne_nil _ (List.cons_ne_nil _ _)
  have hpaletteValue : requiredValue (.keyword "PALETTE") (overridePairs icon entries) =
      .ofList (plist (palettePairs entries)) :=
    requiredValue_of_mem hnodup (List.mem_append_right _ (List.mem_singleton_self _))
  have hversion : requiredValue (.keyword "VERSION") (overridePairs icon entries) ∈
      [Form.integer 2, .integer 3] ∧
      validateSettingsPair (requiredValue (.keyword "VERSION") (overridePairs icon entries))
        ((overridePairs icon entries).lookup (.keyword "SETTINGS-ICON")) = .ok () := by
    cases icon with
    | none => exact ⟨List.mem_cons_self, rfl⟩
    | some name =>
        exact ⟨List.mem_cons_of_mem _ List.mem_cons_self,
          validateLegacySettingsIcon_stringOf (h.icon name rfl).1 _⟩
  rw [validateAppearanceOverride, overrideForm,
    decodePlist_ofPairs (ascii "appearance override") hallowed hnodup hne hrequired]
  dsimp only
  rw [if_neg (not_not.2 hversion.1), hversion.2]
  dsimp only
  rw [hpaletteValue, hpalette]

/-- **An override that the uploader accepts** is accepted by the compiler, which gives every role
the colour that the uploader shows for it, and no colour to anything else. -/
theorem parsePaletteOverride_agrees (format : ExternalFormat) {contents : Bytes} {values : Palette}
    (h : parsePaletteOverride contents = .ok values) :
    ∃ form palette, readCatalog format contents = .ok form ∧
      validateAppearanceOverride form = .ok palette ∧
      palette.map (fun entry => writeString entry.1) = paletteNames ∧
      ∀ role color, values.get role = some color ↔ (role, color) ∈ palette.map writtenRole := by
  obtain ⟨icon, entries, hoverride, rfl⟩ := Uploader.parsePaletteOverride_iff.1 h
  obtain ⟨palette, hpalette, hwritten⟩ := validateAppearanceOverride_overrideForm hoverride
  have hvalid := (Uploader.validatePalette_addColors_iff hoverride.valid).2 hoverride.complete
  refine ⟨overrideForm icon entries, palette, readCatalog_of_isOverride format hoverride, hpalette,
    ?_, ?_⟩
  · have hroles := congrArg (List.map Prod.fst) hwritten
    rw [List.map_map, paletteEntries, List.map_map] at hroles
    exact hroles.trans (List.map_id _)
  · intro role color
    rw [hwritten, paletteEntries, List.mem_map]
    constructor
    · intro hget
      exact ⟨role, Uploader.mem_paletteNames_of_get hvalid hget, by rw [hget, Option.getD_some]⟩
    · rintro ⟨name, hname, heq⟩
      cases heq
      exact (Uploader.get_of_validatePalette hvalid hname).1

/-! ### An override of version 3 -/

/-- The roles in reverse order, colours in lower case, and little but the necessary blanks. -/
def legacyOverride : Bytes :=
  ascii "(:version 3\t:settings-icon \"cog-2\"\n" ++ ascii ":palette(" ++
    (paletteNames.reverse.flatMap fun name => ascii ":" ++ name ++ ascii "\r\n\"#abCDef\" ") ++
    ascii ") )"

/-- Both programs read it. -/
theorem parsePaletteOverride_agrees_legacy :
    ∃ values, parsePaletteOverride legacyOverride = .ok values ∧
      ∃ form palette, readCatalog .latin1 legacyOverride = .ok form ∧
        validateAppearanceOverride form = .ok palette ∧
        palette.map (fun entry => writeString entry.1) = paletteNames ∧
        ∀ role color, values.get role = some color ↔ (role, color) ∈ palette.map writtenRole := by
  have hok : (parsePaletteOverride legacyOverride).isOk = true := by decide +kernel
  cases h : parsePaletteOverride legacyOverride with
  | error error =>
      rw [h] at hok
      cases hok
  | ok values => exact ⟨values, rfl, parsePaletteOverride_agrees .latin1 h⟩

end NesDeck.CatalogCompiler
