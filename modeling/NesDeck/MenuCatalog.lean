/-
**The catalog of the menu.**

`menu_catalog.cpp` reads the manifest: lines of five fields, separated by tabs, that name the
games.  `load_manifest` refuses the whole manifest for one bad line, so that a catalog that it
returns is a list of good entries with pairwise different ids and pairwise different ROM paths.
The menu appends seven entries of its own.

Main definitions:

* `NesDeck.RgbColor`, `NesDeck.CoverImage`, `NesDeck.GameEntry` — what the menu knows of a game;
* `NesDeck.manifestEntry`, `NesDeck.manifestLoop`, `NesDeck.loadManifest` — the parser;
* `NesDeck.GameEntry.Good` — what the parser demands of one entry;
* `NesDeck.builtInEntries` — the entries that the menu appends.

Main results:

* `NesDeck.manifestEntry_iff` — the lines that make an entry;
* `NesDeck.loadManifest_spec` — what a manifest that is loaded went through;
* `NesDeck.loadManifest_isCatalog` — the entries of a loaded catalog are good, and at most 64.
-/

import Mathlib.Data.List.Nodup
import NesDeck.ValidateRom

set_option relaxedAutoImplicit false
set_option autoImplicit false

namespace NesDeck

open HostFile
open MenuText

/-! ### Colours -/

structure RgbColor where
  red : ℕ
  green : ℕ
  blue : ℕ
  deriving DecidableEq

/-- `rgb565` of the three components. -/
def RgbColor.pixel (color : RgbColor) : UInt16 :=
  .ofNat (((color.red &&& 0xf8) <<< 8) ||| ((color.green &&& 0xfc) <<< 3) ||| (color.blue >>> 3))

def ansiColors : List RgbColor :=
  [⟨0, 0, 0⟩, ⟨128, 0, 0⟩, ⟨0, 128, 0⟩, ⟨128, 128, 0⟩, ⟨0, 0, 128⟩, ⟨128, 0, 128⟩, ⟨0, 128, 128⟩,
   ⟨192, 192, 192⟩, ⟨128, 128, 128⟩, ⟨255, 0, 0⟩, ⟨0, 255, 0⟩, ⟨255, 255, 0⟩, ⟨0, 0, 255⟩,
   ⟨255, 0, 255⟩, ⟨0, 255, 255⟩, ⟨255, 255, 255⟩]

def cubeLevels : List ℕ := [0, 95, 135, 175, 215, 255]

def xtermColor (index : ℕ) : RgbColor :=
  if index < 16 then ansiColors.getD index ⟨0, 0, 0⟩
  else if index < 232 then
    let cube := index - 16
    ⟨cubeLevels.getD (cube / 36) 0, cubeLevels.getD ((cube / 6) % 6) 0,
      cubeLevels.getD (cube % 6) 0⟩
  else if index < 256 then
    let level := 8 + (index - 232) * 10
    ⟨level, level, level⟩
  else ⟨0, 0, 0⟩

def isXtermColor (color : RgbColor) : Bool :=
  (List.range 256).any fun index => xtermColor index = color

/-- The value of a hexadecimal digit. -/
def nibble (character : UInt8) : Option ℕ :=
  if 0x30 ≤ character ∧ character ≤ 0x39 then some (character.toNat - 0x30)
  else if 0x61 ≤ character ∧ character ≤ 0x66 then some (character.toNat - 0x61 + 10)
  else if 0x41 ≤ character ∧ character ≤ 0x46 then some (character.toNat - 0x41 + 10)
  else none

/-- The loop over the digits of a colour. -/
def colorValue : Bytes → ℕ → Option ℕ
  | [], value => some value
  | character :: rest, value =>
      match nibble character with
      | none => none
      | some digit => colorValue rest (value <<< 4 ||| digit)

def parseColor (text : Bytes) : Option RgbColor :=
  if text.length ≠ 7 ∨ text.head? ≠ some 0x23 then none
  else
    match colorValue text.tail 0 with
    | none => none
    | some value => some ⟨(value >>> 16) &&& 0xff, (value >>> 8) &&& 0xff, value &&& 0xff⟩

/-! ### Entries -/

structure CoverImage where
  width : ℕ
  height : ℕ
  pixels : List UInt16

def CoverImage.available (cover : CoverImage) : Bool :=
  0 < cover.width ∧ 0 < cover.height ∧ cover.pixels.length = cover.width * cover.height

structure GameEntry where
  id : Bytes
  title : Bytes
  system : Bytes
  rom : Bytes
  color : RgbColor
  cover : CoverImage

/-- An entry of a manifest has no cover yet. -/
def CoverImage.none : CoverImage := ⟨0, 0, []⟩

def isLower (character : UInt8) : Bool := 0x61 ≤ character ∧ character ≤ 0x7a

def isDigit (character : UInt8) : Bool := 0x30 ≤ character ∧ character ≤ 0x39

/-- The loop over an id: lower case letters and digits, with single hyphens between them. -/
def validIdLoop : Bytes → (previous : Option UInt8) → Bool
  | [], _ => true
  | character :: rest, previous =>
      if ¬ (isLower character ∨ isDigit character ∨ character = 0x2d) then false
      else if previous = none ∧ isLower character = false ∧ isDigit character = false then false
      else if character = 0x2d ∧ (rest = [] ∨ previous = some 0x2d) then false
      else validIdLoop rest (some character)

def validId (id : Bytes) : Bool :=
  if id = [] ∨ 48 < id.length then false else validIdLoop id none

def isOptionalHeader (fields : List Bytes) : Bool :=
  fields.length = 5 ∧ fields.take 4 = [ascii "id", ascii "title", ascii "system", ascii "rom"] ∧
    (fields.drop 4 = [ascii "color"] ∨ fields.drop 4 = [ascii "#RRGGBB"])

/-! ### The manifest -/

def kMaximumCatalogGames : ℕ := 64

def kMaximumManifestBytes : ℕ := 65536

/-- The reasons for which `load_manifest` refuses a manifest; most name a line. -/
inductive ManifestError where
  | notAbsolute
  | cannotStat (errno : Errno)
  | notSmallRegular
  | cannotOpen (errno : Errno)
  | lineTooLong (line : ℕ)
  | fieldCount (line : ℕ)
  | invalidId (line : ℕ)
  | invalidTitle (line : ℕ)
  | invalidSystem (line : ℕ)
  | invalidRomPath (line : ℕ)
  | invalidColor (line : ℕ)
  | notXtermColor (line : ℕ)
  | badRom (line : ℕ) (system path : Bytes) (error : RomError)
  | duplicateId (line : ℕ)
  | duplicateRom (line : ℕ)
  | tooManyGames
  | readError
  | noGames
  deriving DecidableEq

/-- The text of the error. -/
def ManifestError.message (strerror : Errno → Bytes) (path : Bytes) : ManifestError → Bytes
  | notAbsolute => ascii "manifest path must be absolute"
  | cannotStat errno => errnoMessage strerror (ascii "cannot stat manifest " ++ path) errno
  | notSmallRegular => ascii "manifest must be a regular file no larger than 65536 bytes"
  | cannotOpen errno => errnoMessage strerror (ascii "cannot open manifest " ++ path) errno
  | lineTooLong line => ascii ("manifest line " ++ toString line ++ " exceeds 4096 bytes")
  | fieldCount line =>
      ascii ("manifest line " ++ toString line ++ " must have exactly 5 TSV fields")
  | invalidId line => ascii ("invalid id on manifest line " ++ toString line)
  | invalidTitle line => ascii ("invalid title on manifest line " ++ toString line)
  | invalidSystem line => ascii ("invalid system on manifest line " ++ toString line)
  | invalidRomPath line => ascii ("invalid ROM path on manifest line " ++ toString line)
  | invalidColor line => ascii ("invalid #RRGGBB color on manifest line " ++ toString line)
  | notXtermColor line =>
      ascii ("color is not in the xterm-256 palette on manifest line " ++ toString line)
  | badRom line system rom error =>
      ascii ("manifest line " ++ toString line ++ ": ") ++ error.message strerror system rom
  | duplicateId line => ascii ("duplicate id on manifest line " ++ toString line)
  | duplicateRom line => ascii ("duplicate ROM on manifest line " ++ toString line)
  | tooManyGames =>
      ascii ("manifest has more than " ++ toString kMaximumCatalogGames ++
        " games; use fewer entries to keep touch targets large")
  | readError => ascii "error while reading manifest " ++ path
  | noGames => ascii "manifest contains no games"

/-- The checks of one line, in the order of the source.  The sets of the ids and of the ROM paths
seen so far are those of `games`. -/
def manifestEntry (files : Bytes → File) (games : List GameEntry) (line : ℕ)
    (fields : List Bytes) : Except ManifestError GameEntry :=
  match fields with
  | [id, title, system, rom, color] =>
      if validId id = false then .error (.invalidId line)
      else if validUtf8Text title 64 false = false ∨ trimAsciiSpace title ≠ title then
        .error (.invalidTitle line)
      else if validSystem system = false then .error (.invalidSystem line)
      else if validUtf8Text rom (pathMax - 1) false = false ∨ trimAsciiSpace rom ≠ rom then
        .error (.invalidRomPath line)
      else
        match parseColor color with
        | none => .error (.invalidColor line)
        | some color =>
            if isXtermColor color = false then .error (.notXtermColor line)
            else
              match validateRom system rom (files rom) with
              | .error error => .error (.badRom line system rom error)
              | .ok () =>
                  if id ∈ games.map (·.id) then .error (.duplicateId line)
                  else if rom ∈ games.map (·.rom) then .error (.duplicateRom line)
                  else .ok ⟨id, title, system, rom, color, .none⟩
  | _ => .error (.fieldCount line)

/-- A line without the carriage return of its end. -/
def stripCarriageReturn (line : Bytes) : Bytes :=
  if line.getLast? = some 0x0d then line.dropLast else line

/-- The loop over the lines. -/
def manifestLoop (files : Bytes → File) :
    (lines : List Bytes) → (lineNumber : ℕ) → (sawData : Bool) → (games : List GameEntry) →
      Except ManifestError (List GameEntry)
  | [], _, _, games => .ok games
  | line :: lines, lineNumber, sawData, games =>
      if 4096 < line.length then .error (.lineTooLong (lineNumber + 1))
      else
        let line := stripCarriageReturn line
        if line = [] ∨ line.head? = some 0x23 then
          manifestLoop files lines (lineNumber + 1) sawData games
        else
          let fields := splitTabs line
          if sawData = false ∧ isOptionalHeader fields = true then
            manifestLoop files lines (lineNumber + 1) true games
          else
            match manifestEntry files games (lineNumber + 1) fields with
            | .error error => .error error
            | .ok game =>
                if kMaximumCatalogGames < games.length + 1 then .error .tooManyGames
                else manifestLoop files lines (lineNumber + 1) true (games ++ [game])

/-- The lines that a loop of `std::getline` obtains: an empty rest after the last newline is not
a line. -/
def getlines (content : Bytes) : List Bytes :=
  let lines := content.splitOn 0x0a
  if lines.getLast? = some [] then lines.dropLast else lines

/-- `load_manifest`, with the files that the paths lead to. -/
def loadManifest (files : Bytes → File) (path : Bytes) :
    Except ManifestError (List GameEntry) :=
  let manifest := files path
  if isAbsolutePath path = false then .error .notAbsolute
  else
    match manifest.statError with
    | some errno => .error (.cannotStat errno)
    | none =>
        if manifest.isRegular = false ∨ kMaximumManifestBytes < manifest.size then
          .error .notSmallRegular
        else
          match manifest.openError with
          | some errno => .error (.cannotOpen errno)
          | none =>
              match manifestLoop files (getlines (manifest.content.take manifest.streamed)) 0
                  false [] with
              | .error error => .error error
              | .ok games =>
                  if manifest.streamBad = true then .error .readError
                  else if games = [] then .error .noGames
                  else .ok games

/-! ### Good entries -/

/-- What the parser demands of an entry by itself. -/
structure GameEntry.Good (files : Bytes → File) (game : GameEntry) : Prop where
  id : validId game.id = true
  title : validUtf8Text game.title 64 false = true
  titleTrimmed : trimAsciiSpace game.title = game.title
  system : validSystem game.system = true
  rom : validUtf8Text game.rom (pathMax - 1) false = true
  romTrimmed : trimAsciiSpace game.rom = game.rom
  color : isXtermColor game.color = true
  content : validateRom game.system game.rom (files game.rom) = .ok ()
  cover : game.cover = .none

/-- **The lines that make an entry**: five fields, good ones, with a new id and a new path. -/
theorem manifestEntry_iff (files : Bytes → File) (games : List GameEntry) (line : ℕ)
    (fields : List Bytes) (game : GameEntry) :
    manifestEntry files games line fields = .ok game ↔
      ∃ color, fields = [game.id, game.title, game.system, game.rom, color] ∧
        parseColor color = some game.color ∧ game.Good files ∧
        game.id ∉ games.map (·.id) ∧ game.rom ∉ games.map (·.rom) := by
  constructor
  · intro h
    rw [manifestEntry.eq_def] at h
    split at h
    · rename_i id title system rom color
      split at h
      · cases h
      rename_i hid
      split at h
      · cases h
      rename_i htitle
      rw [not_or, not_not] at htitle
      split at h
      · cases h
      rename_i hsystem
      split at h
      · cases h
      rename_i hrom
      rw [not_or, not_not] at hrom
      split at h
      · cases h
      rename_i rgb hcolor
      split at h
      · cases h
      rename_i hxterm
      split at h
      · cases h
      rename_i hcontent
      split at h
      · cases h
      rename_i hnewId
      split at h
      · cases h
      rename_i hnewRom
      cases h
      refine ⟨color, rfl, hcolor, ⟨?_, ?_, htitle.2, ?_, ?_, hrom.2, ?_, hcontent, rfl⟩, hnewId,
        hnewRom⟩
      · exact (Bool.not_eq_false _).mp hid
      · exact (Bool.not_eq_false _).mp htitle.1
      · exact (Bool.not_eq_false _).mp hsystem
      · exact (Bool.not_eq_false _).mp hrom.1
      · exact (Bool.not_eq_false _).mp hxterm
    · cases h
  · rintro ⟨color, rfl, hcolor, hgood, hid, hrom⟩
    rw [manifestEntry]
    simp only [hgood.id, hgood.title, hgood.titleTrimmed, hgood.system, hgood.rom,
      hgood.romTrimmed, hgood.color, hcolor, hgood.content, hid, hrom, Bool.true_eq_false, ne_eq,
      not_true_eq_false, or_self, if_false]
    rw [← hgood.cover]

/-- A catalog: good entries, with different ids and different ROM paths, and room on the
screen. -/
structure IsCatalog (files : Bytes → File) (games : List GameEntry) : Prop where
  good : ∀ game ∈ games, game.Good files
  ids : (games.map (·.id)).Nodup
  roms : (games.map (·.rom)).Nodup
  bounded : games.length ≤ kMaximumCatalogGames

theorem isCatalog_nil (files : Bytes → File) : IsCatalog files [] where
  good := fun _ h => absurd h List.not_mem_nil
  ids := List.nodup_nil
  roms := List.nodup_nil
  bounded := Nat.zero_le _

/-- One more entry. -/
theorem IsCatalog.append {files : Bytes → File} {games : List GameEntry}
    (h : IsCatalog files games) {game : GameEntry} (hgood : game.Good files)
    (hid : game.id ∉ games.map (·.id)) (hrom : game.rom ∉ games.map (·.rom))
    (hroom : games.length + 1 ≤ kMaximumCatalogGames) : IsCatalog files (games ++ [game]) where
  good := by
    intro other hmem
    rcases List.mem_append.1 hmem with hmem | hmem
    · exact h.good other hmem
    · rw [List.mem_singleton.1 hmem]
      exact hgood
  ids := by
    rw [List.map_append]
    exact List.nodup_append.2 ⟨h.ids, List.nodup_singleton _, by
      intro a ha b hb
      rintro rfl
      rw [List.map_singleton, List.mem_singleton] at hb
      exact hid (hb ▸ ha)⟩
  roms := by
    rw [List.map_append]
    exact List.nodup_append.2 ⟨h.roms, List.nodup_singleton _, by
      intro a ha b hb
      rintro rfl
      rw [List.map_singleton, List.mem_singleton] at hb
      exact hrom (hb ▸ ha)⟩
  bounded := by
    rw [List.length_append]
    exact hroom

/-- The loop extends a catalog to a catalog. -/
theorem manifestLoop_isCatalog {files : Bytes → File} {lines : List Bytes} {lineNumber : ℕ}
    {sawData : Bool} {games games' : List GameEntry} (hgames : IsCatalog files games)
    (h : manifestLoop files lines lineNumber sawData games = .ok games') :
    IsCatalog files games' := by
  fun_induction manifestLoop files lines lineNumber sawData games with
  | case1 =>
      cases h
      exact hgames
  | case2 => cases h
  | case3 lines lineNumber sawData games line hline text hblank ih => exact ih hgames h
  | case4 lines lineNumber sawData games line hline text htext fields hheader ih =>
      exact ih hgames h
  | case5 => cases h
  | case6 => cases h
  | case7 line lines lineNumber sawData games hline _ hdata _ _ game hentry hroom ih =>
      obtain ⟨_, _, _, hgood, hid, hrom⟩ := (manifestEntry_iff ..).1 hentry
      exact ih (hgames.append hgood hid hrom (Nat.not_lt.1 hroom)) h

/-- A manifest that is loaded is a small file, and its lines are accepted. -/
theorem loadManifest_spec {files : Bytes → File} {path : Bytes} {games : List GameEntry}
    (h : loadManifest files path = .ok games) :
    (files path).size ≤ kMaximumManifestBytes ∧ games ≠ [] ∧
      manifestLoop files (getlines ((files path).content.take (files path).streamed)) 0 false [] =
        .ok games := by
  rw [loadManifest] at h
  split at h
  · cases h
  split at h
  · cases h
  split at h
  · cases h
  rename_i hsmall
  rw [not_or, Nat.not_lt] at hsmall
  split at h
  · cases h
  split at h
  · cases h
  rename_i hloop
  split at h
  · cases h
  split at h
  · cases h
  rename_i hne
  cases h
  exact ⟨hsmall.2, hne, hloop⟩

/-- **A loaded catalog** has good entries, with different ids and ROM paths, and at most 64. -/
theorem loadManifest_isCatalog {files : Bytes → File} {path : Bytes} {games : List GameEntry}
    (h : loadManifest files path = .ok games) : IsCatalog files games ∧ games ≠ [] := by
  obtain ⟨-, hne, hloop⟩ := loadManifest_spec h
  exact ⟨manifestLoop_isCatalog (isCatalog_nil files) hloop, hne⟩

/-! ### The entries of the menu itself -/

def builtInTerminalEntry (launcher : Bytes) : GameEntry :=
  ⟨ascii "terminal", ascii "TERMINAL", ascii "deck", launcher, xtermColor 67, .none⟩

def builtInLuaEntry (launcher : Bytes) : GameEntry :=
  ⟨ascii "lua-repl", ascii "LUA REPL", ascii "deck", launcher, xtermColor 69, .none⟩

def builtInLispEntry (launcher : Bytes) : GameEntry :=
  ⟨ascii "lisp-repl", ascii "LISP REPL", ascii "deck", launcher, xtermColor 149, .none⟩

def builtInPythonEntry (launcher : Bytes) : GameEntry :=
  ⟨ascii "python-repl", ascii "PYTHON REPL", ascii "deck", launcher, xtermColor 220, .none⟩

def builtInSchemeEntry (launcher : Bytes) : GameEntry :=
  ⟨ascii "scheme-repl", ascii "SCHEME REPL", ascii "deck", launcher, xtermColor 114, .none⟩

def builtInChiptuneEntry (directory : Bytes) : GameEntry :=
  ⟨ascii "chiptunes", ascii "CHIPTUNES", ascii "deck", directory, xtermColor 208, .none⟩

def builtInRebootEntry (executable : Bytes) : GameEntry :=
  ⟨ascii "reboot", ascii "REBOOT", ascii "deck", executable, xtermColor 167, .none⟩

/-- The test for one of the entries of the menu, by its id and its system. -/
def isBuiltIn (id : Bytes) (game : GameEntry) : Bool := game.id = id ∧ game.system = ascii "deck"

def isBuiltInTerminal : GameEntry → Bool := isBuiltIn (ascii "terminal")

def isBuiltInLua : GameEntry → Bool := isBuiltIn (ascii "lua-repl")

def isBuiltInLisp : GameEntry → Bool := isBuiltIn (ascii "lisp-repl")

def isBuiltInPython : GameEntry → Bool := isBuiltIn (ascii "python-repl")

def isBuiltInScheme : GameEntry → Bool := isBuiltIn (ascii "scheme-repl")

def isBuiltInChiptune : GameEntry → Bool := isBuiltIn (ascii "chiptunes")

def isBuiltInReboot : GameEntry → Bool := isBuiltIn (ascii "reboot")

def kRebootExecutable : Bytes := ascii "/sbin/reboot"

/-- The entries that `application_main` appends to the catalog, in its order. -/
def builtInEntries (terminal chiptuneDirectory : Bytes) : List GameEntry :=
  [builtInLuaEntry terminal, builtInLispEntry terminal, builtInPythonEntry terminal,
   builtInSchemeEntry terminal, builtInChiptuneEntry chiptuneDirectory,
   builtInTerminalEntry terminal, builtInRebootEntry kRebootExecutable]

theorem map_title_builtInEntries (terminal chiptuneDirectory : Bytes) :
    (builtInEntries terminal chiptuneDirectory).map (·.title) =
      [ascii "LUA REPL", ascii "LISP REPL", ascii "PYTHON REPL", ascii "SCHEME REPL",
       ascii "CHIPTUNES", ascii "TERMINAL", ascii "REBOOT"] := rfl

/-- The games of the dashboard: the catalog and the entries of the menu, with the covers that
`load_game_covers` finds. -/
def applicationGames (catalog : List GameEntry) (terminal chiptuneDirectory : Bytes)
    (covers : GameEntry → Option CoverImage) : List GameEntry :=
  (catalog ++ builtInEntries terminal chiptuneDirectory).map fun game =>
    { game with cover := (covers game).getD game.cover }

/-- The mode in which a terminal is started for an entry; the empty one starts none. -/
def terminalModeForGame (game : GameEntry) : Bytes :=
  if isBuiltInTerminal game = true then ascii "shell"
  else if isBuiltInLua game = true then ascii "lua"
  else if isBuiltInLisp game = true then ascii "lisp"
  else if isBuiltInPython game = true then ascii "python"
  else if isBuiltInScheme game = true then ascii "scheme"
  else []

def terminalProgramTitle (mode : Bytes) : Bytes :=
  if mode = ascii "lua" then ascii "LUA REPL"
  else if mode = ascii "lisp" then ascii "LISP REPL"
  else if mode = ascii "python" then ascii "PYTHON REPL"
  else if mode = ascii "scheme" then ascii "SCHEME REPL"
  else ascii "TERMINAL"

end NesDeck
