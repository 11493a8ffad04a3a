/-
**The ROM validator of the menu.**

`validate_rom` of `menu_catalog.cpp` opens the file of a catalog entry and checks what the format
of its system lets one check: the iNES magic, the logo, checksum and colour flag of a Game Boy
header, the chain of length-prefixed TAP blocks, or the size of a CHIP-8 program.

Main definitions:

* `NesDeck.validSystem` — the systems of a catalog;
* `NesDeck.RomError` — the reasons for a refusal, with their texts;
* `NesDeck.tapeLoop` — the walk over the TAP blocks;
* `NesDeck.validateRom` — the validator.

Main results:

* `NesDeck.readExactAt_of_readable` — what a complete read inside the file returns;
* `NesDeck.validateRom_of_readable` — the verdict on a file that can be read.
-/

import NesDeck.MenuText
import NesDeck.RomFormat

set_option relaxedAutoImplicit false
set_option autoImplicit false

namespace NesDeck

open HostFile
open MenuText (isAbsolutePath)

/-! ### Systems -/

def validSystem (system : Bytes) : Bool :=
  system = ascii "nes" ∨ system = ascii "gb" ∨ system = ascii "gbc" ∨ system = ascii "zx" ∨
    system = ascii "chip8" ∨ system = ascii "deck"

/-! ### Errors -/

/-- The reasons for which `validate_rom` refuses an entry. -/
inductive RomError where
  | unsupportedSystem
  | notAbsolute
  | cannotOpen (errno : Errno)
  | cannotStat (errno : Errno)
  | notRegular
  | noInesHeader
  | noGameBoyHeader
  | invalidChecksum
  | noColorSupport
  | tapSize
  | tapIncomplete
  | tapBlocks
  | chip8Size
  deriving DecidableEq

/-- `errno_message`. -/
def errnoMessage (strerror : Errno → Bytes) (what : Bytes) (errno : Errno) : Bytes :=
  what ++ ascii ": " ++ strerror errno

/-- The text of the error. -/
def RomError.message (strerror : Errno → Bytes) (system path : Bytes) : RomError → Bytes
  | unsupportedSystem => ascii "unsupported system: " ++ system
  | notAbsolute => ascii "game data path must be absolute: " ++ path
  | cannotOpen errno => errnoMessage strerror (ascii "cannot open game data " ++ path) errno
  | cannotStat errno => errnoMessage strerror (ascii "cannot stat game data " ++ path) errno
  | notRegular => ascii "game data is not a regular file: " ++ path
  | noInesHeader => ascii "ROM has no iNES header: " ++ path
  | noGameBoyHeader => ascii "ROM has no valid Game Boy header: " ++ path
  | invalidChecksum => ascii "ROM has an invalid Game Boy header checksum: " ++ path
  | noColorSupport => ascii "GBC entry does not advertise color support: " ++ path
  | tapSize => ascii "ZX Spectrum TAP must contain 4 bytes through 8 MiB: " ++ path
  | tapIncomplete => ascii "cannot read complete ZX Spectrum TAP: " ++ path
  | tapBlocks => ascii "ZX Spectrum TAP has invalid blocks or checksums: " ++ path
  | chip8Size => ascii "CHIP-8 ROM must contain 1 through 65024 bytes: " ++ path

/-! ### Reading -/

/-- `read_exact_at`: the bytes at an offset, if all of them arrive. -/
def readExactAt (file : File) (offset size : ℕ) : Option Bytes :=
  let result := readLoop file.reads (file.content.drop offset) (List.replicate size 0) 0 size
  if result.2 = 0 then some result.1 else none

/-- A read inside a file that can be read returns the bytes that are there. -/
theorem readExactAt_of_readable {file : File} (h : file.readable) {offset size : ℕ}
    (hsize : offset + size ≤ file.size) :
    readExactAt file offset size = some ((file.content.drop offset).take size) := by
  have hlen : ((file.content.drop offset).take size).length = size := by
    rw [File.size] at hsize
    rw [List.length_take, List.length_drop]
    omega
  have hstore : Buffer.store (List.replicate size 0) 0 ((file.content.drop offset).take size)
      = (file.content.drop offset).take size := by
    refine Buffer.store_zero_of_length_eq ?_
    rw [hlen, List.length_replicate]
  rw [readExactAt, readLoop_eq, delivered_eq_take h.reads]
  simp only [hlen, hstore, Nat.sub_self, if_true]

/-! ### The formats -/

/-- The four bytes an iNES file starts with. -/
def kInesMagic : Bytes := [0x4e, 0x45, 0x53, 0x1a]

/-- The logo that a Game Boy header holds from its fifth byte on. -/
def kGameBoyLogo : Bytes :=
  [0xce, 0xed, 0x66, 0x66, 0xcc, 0x0d, 0x00, 0x0b, 0x03, 0x73, 0x00, 0x83,
   0x00, 0x0c, 0x00, 0x0d, 0x00, 0x08, 0x11, 0x1f, 0x88, 0x89, 0x00, 0x0e,
   0xdc, 0xcc, 0x6e, 0xe6, 0xdd, 0xdd, 0xd9, 0x99, 0xbb, 0xbb, 0x67, 0x63,
   0x6e, 0x0e, 0xec, 0xcc, 0xdd, 0xdc, 0x99, 0x9f, 0xbb, 0xb9, 0x33, 0x3e]

/-- The wrapping checksum of the bytes `0x34` through `0x4c` of a Game Boy header. -/
def headerChecksum (header : Bytes) : UInt8 :=
  (List.range' 0x34 0x19).foldl (fun checksum index => checksum - header.getD index 0 - 1) 0

/-- The branch for the two Game Boy systems. -/
def validateGameBoyFile (system : Bytes) (file : File) : Except RomError Unit :=
  if file.size < 0x150 ∨ 8 * 1024 * 1024 < file.size then .error .noGameBoyHeader
  else
    match readExactAt file 0x100 0x50 with
    | none => .error .noGameBoyHeader
    | some header =>
        if (header.drop 4).take 48 ≠ kGameBoyLogo then .error .noGameBoyHeader
        else if headerChecksum header ≠ header.getD 0x4d 0 then .error .invalidChecksum
        else if system = ascii "gbc" ∧ header.getD 0x43 0 ≠ 0x80 ∧ header.getD 0x43 0 ≠ 0xc0 then
          .error .noColorSupport
        else .ok ()

/-- The exclusive or of `blockSize` bytes of the tape, which is zero for a block whose last byte
is its checksum. -/
def tapeChecksum (tape : Bytes) (offset blockSize : ℕ) : UInt8 :=
  (List.range blockSize).foldl (fun checksum byte => checksum ^^^ tape.getD (offset + byte) 0) 0

/-- The walk over the blocks of the tape from an offset on: whether no block is bad, where it
ends, and how many blocks it passed. -/
def tapeLoop (tape : Bytes) (offset blockCount : ℕ) : Bool × ℕ × ℕ :=
  if _h : offset < tape.length then
    if tape.length - offset < 2 then (false, offset, blockCount)
    else
      let blockSize := (tape.getD offset 0).toNat ||| (tape.getD (offset + 1) 0).toNat <<< 8
      if blockSize < 2 ∨ tape.length - (offset + 2) < blockSize then
        (false, offset + 2, blockCount)
      else if tapeChecksum tape (offset + 2) blockSize ≠ 0 then (false, offset + 2, blockCount)
      else tapeLoop tape (offset + 2 + blockSize) (blockCount + 1)
  else (true, offset, blockCount)
termination_by tape.length - offset

/-- The branch for the ZX Spectrum.  The offset and the count are only looked at for the text of
an error, not for the verdict. -/
def validateTapeFile (file : File) : Except RomError Unit :=
  if file.size < 4 ∨ 8 * 1024 * 1024 < file.size then .error .tapSize
  else
    match readExactAt file 0 file.size with
    | none => .error .tapIncomplete
    | some tape => if (tapeLoop tape 0 0).1 then .ok () else .error .tapBlocks

/-- `validate_rom`. -/
def validateRom (system path : Bytes) (file : File) : Except RomError Unit :=
  if validSystem system = false then .error .unsupportedSystem
  else if isAbsolutePath path = false then .error .notAbsolute
  else if system = ascii "deck" then .ok ()
  else
    match file.openError with
    | some errno => .error (.cannotOpen errno)
    | none =>
        match file.statError with
        | some errno => .error (.cannotStat errno)
        | none =>
            if file.isRegular = false then .error .notRegular
            else if system = ascii "nes" then
              if file.size < 16 ∨ readExactAt file 0 4 ≠ some kInesMagic then
                .error .noInesHeader
              else .ok ()
            else if system = ascii "gb" ∨ system = ascii "gbc" then
              validateGameBoyFile system file
            else if system = ascii "zx" then validateTapeFile file
            else if file.size < 1 ∨ 65024 < file.size then .error .chip8Size
            else .ok ()

/-! ### The verdict -/

theorem tapeChecksum_eq (tape : Bytes) {offset blockSize : ℕ}
    (h : offset + blockSize ≤ tape.length) :
    tapeChecksum tape offset blockSize = RomFormat.parity ((tape.drop offset).take blockSize) :=
  Buffer.foldl_range_getD (fun checksum byte => checksum ^^^ byte) 0 tape 0 h

/-- The walk succeeds exactly on a tape. -/
theorem tapeLoop_iff (tape : Bytes) (offset blockCount : ℕ) :
    (tapeLoop tape offset blockCount).1 = true ↔ RomFormat.Tape (tape.drop offset) := by
  fun_induction tapeLoop tape offset blockCount with
  | case1 offset blockCount hlt hshort =>
      simp [RomFormat.not_tape_drop tape (show tape.length - offset = 1 by omega)]
  | case2 offset blockCount hlt hlong blockSize hbad =>
      rw [RomFormat.tape_drop_iff tape (n := blockSize) (by omega) rfl]
      simp only [Bool.false_eq_true, false_iff]
      rintro ⟨hsize, hfits, -⟩
      omega
  | case3 offset blockCount hlt hlong blockSize hgood hchecksum =>
      rw [tapeChecksum_eq tape (by omega)] at hchecksum
      rw [RomFormat.tape_drop_iff tape (n := blockSize) (by omega) rfl]
      simp only [Bool.false_eq_true, false_iff]
      rintro ⟨-, -, hparity, -⟩
      exact hchecksum hparity
  | case4 offset blockCount hlt hlong blockSize hgood hchecksum ih =>
      rw [tapeChecksum_eq tape (by omega), not_not] at hchecksum
      rw [ih, RomFormat.tape_drop_iff tape (n := blockSize) (by omega) rfl]
      constructor
      · intro h
        exact ⟨by omega, by omega, hchecksum, h⟩
      · rintro ⟨-, -, -, h⟩
        exact h
  | case5 offset blockCount hge =>
      have hnil : tape.drop offset = [] := List.drop_of_length_le (by omega)
      simp [hnil, RomFormat.Tape.nil]

/-- The branch for the ZX Spectrum on a file that can be read. -/
theorem validateTapeFile_iff {file : File} (h : file.readable) :
    validateTapeFile file = .ok () ↔
      RomFormat.Tape file.content ∧ 4 ≤ file.size ∧ file.size ≤ 8 * 1024 * 1024 := by
  rw [validateTapeFile]
  by_cases hsize : file.size < 4 ∨ 8 * 1024 * 1024 < file.size
  · rw [if_pos hsize]
    simp only [reduceCtorEq, false_iff]
    omega
  · have hread := readExactAt_of_readable h (Nat.le_of_eq (Nat.zero_add file.size))
    rw [List.drop_zero, File.size, List.take_length] at hread
    have hwalk := tapeLoop_iff file.content 0 0
    rw [List.drop_zero] at hwalk
    rw [if_neg hsize, File.size, hread]
    dsimp only
    rw [← hwalk, ← File.size]
    cases (tapeLoop file.content 0 0).1 with
    | false => simp
    | true =>
        simp only [if_true, true_and, true_iff]
        omega

/-- The checksum loop runs over the part of the image that the header holds. -/
theorem headerChecksum_eq (header : Bytes) (h : header.length = 0x50) :
    headerChecksum header = RomFormat.checksum ((header.drop 0x34).take 0x19) :=
  Buffer.foldl_range'_getD (fun sum byte => sum - byte - 1) 0 header 0 (by omega)

/-- The branch for the Game Boy on a file that can be read. -/
theorem validateGameBoyFile_iff (system : Bytes) {file : File} (h : file.readable) :
    validateGameBoyFile system file = .ok () ↔
      RomFormat.GameBoy file.content ∧ file.size ≤ 8 * 1024 * 1024 ∧
        (system = ascii "gbc" → RomFormat.Color file.content) := by
  rw [validateGameBoyFile]
  by_cases hsize : file.size < 0x150 ∨ 8 * 1024 * 1024 < file.size
  · rw [if_pos hsize]
    simp only [reduceCtorEq, false_iff]
    rintro ⟨hheader, hmax, -⟩
    have := hheader.size
    rw [← File.size] at this
    omega
  · have hlen : 0x150 ≤ file.content.length := by
      rw [← File.size]
      omega
    have hread := readExactAt_of_readable h (show 0x100 + 0x50 ≤ file.size by omega)
    have hlogo : (((file.content.drop 0x100).take 0x50).drop 4).take 48
        = (file.content.drop 0x104).take 48 :=
      Buffer.take_drop_take_drop file.content 0x100 (by omega)
    have hchecksum : headerChecksum ((file.content.drop 0x100).take 0x50)
        = RomFormat.checksum ((file.content.drop 0x134).take 0x19) := by
      rw [headerChecksum_eq _ (by rw [List.length_take, List.length_drop]; omega),
        Buffer.take_drop_take_drop file.content 0x100 (by omega)]
    have hsum : ((file.content.drop 0x100).take 0x50).getD 0x4d 0 = file.content.getD 0x14d 0 :=
      Buffer.getD_take_drop file.content 0 0x100 (by omega)
    have hflag : ((file.content.drop 0x100).take 0x50).getD 0x43 0 = file.content.getD 0x143 0 :=
      Buffer.getD_take_drop file.content 0 0x100 (by omega)
    rw [if_neg hsize, hread]
    dsimp only
    rw [hlogo, hchecksum, hsum, hflag]
    constructor
    · intro hok
      split at hok
      · cases hok
      · rename_i hlogoOk
        split at hok
        · cases hok
        · rename_i hsumOk
          split at hok
          · cases hok
          · rename_i hflagOk
            refine ⟨⟨hlen, not_not.1 hlogoOk, not_not.1 hsumOk⟩, by omega, ?_⟩
            intro hgbc
            by_contra hcolor
            rw [RomFormat.Color, not_or] at hcolor
            exact hflagOk ⟨hgbc, hcolor.1, hcolor.2⟩
    · rintro ⟨hheader, -, hcolor⟩
      have hlogoOk : (file.content.drop 0x104).take 48 = kGameBoyLogo := hheader.logo
      rw [if_neg (not_not_intro hlogoOk), if_neg (not_not_intro hheader.checksum), if_neg]
      rintro ⟨hgbc, hne, hne'⟩
      rcases hcolor hgbc with heq | heq
      · exact hne heq
      · exact hne' heq

/-- A file that can be read: the branch of its system decides. -/
theorem validateRom_of_readable {system path : Bytes} {file : File} (h : file.readable)
    (hsystem : validSystem system = true) (hconsole : system ≠ ascii "deck")
    (hpath : isAbsolutePath path = true) :
    validateRom system path file =
      if system = ascii "nes" then
        if file.size < 16 ∨ readExactAt file 0 4 ≠ some kInesMagic then .error .noInesHeader
        else .ok ()
      else if system = ascii "gb" ∨ system = ascii "gbc" then validateGameBoyFile system file
      else if system = ascii "zx" then validateTapeFile file
      else if file.size < 1 ∨ 65024 < file.size then .error .chip8Size
      else .ok () := by
  rw [validateRom, if_neg (by simp [hsystem]), if_neg (by simp [hpath]), if_neg hconsole, h.opens]
  dsimp only
  rw [h.stat]
  dsimp only
  rw [h.regular, if_neg (by simp)]

/-- An entry without a console needs no file. -/
theorem validateRom_deck {path : Bytes} (hpath : isAbsolutePath path = true) (file : File) :
    validateRom (ascii "deck") path file = .ok () := by
  rw [validateRom, if_neg (by decide), if_neg (by simp [hpath]), if_pos rfl]

/-- A deck game is judged by its path alone. -/
theorem validateRom_deck_congr (path : Bytes) (file other : File) :
    validateRom (ascii "deck") path file = validateRom (ascii "deck") path other := by
  rw [validateRom, validateRom, if_pos rfl, if_pos rfl]

/-- A system is one of the six, and the literals differ. -/
theorem validSystem_iff {system : Bytes} :
    validSystem system = true ↔
      system = ascii "nes" ∨ system = ascii "gb" ∨ system = ascii "gbc" ∨ system = ascii "zx" ∨
        system = ascii "chip8" ∨ system = ascii "deck" := by
  simp [validSystem]

theorem validateNesFile_iff {file : File} (h : file.readable) :
    ((if file.size < 16 ∨ readExactAt file 0 4 ≠ some kInesMagic then
        Except.error RomError.noInesHeader else .ok ()) = .ok ()) ↔
      RomFormat.Ines file.content := by
  by_cases hsize : file.size < 16
  · rw [if_pos (Or.inl hsize)]
    simp only [reduceCtorEq, false_iff]
    intro hines
    have := hines.size
    rw [← File.size] at this
    omega
  · have hread := readExactAt_of_readable h (show 0 + 4 ≤ file.size by omega)
    rw [List.drop_zero] at hread
    rw [hread]
    have hsize' : 16 ≤ file.content.length := by
      rw [← File.size]
      omega
    by_cases hmagic : file.content.take 4 = kInesMagic
    · rw [if_neg (by simp [hsize, hmagic])]
      simp only [true_iff]
      exact ⟨hsize', hmagic⟩
    · rw [if_pos (by simp [hmagic])]
      simp only [reduceCtorEq, false_iff]
      intro hines
      exact hmagic hines.magic

/-- **The verdict of the menu** on a console game whose file can be read. -/
theorem validateRom_iff {system path : Bytes} {file : File} (h : file.readable)
    (hsystem : validSystem system = true) (hconsole : system ≠ ascii "deck")
    (hpath : isAbsolutePath path = true) :
    validateRom system path file = .ok () ↔ RomFormat.Accepted system file.content := by
  rw [validateRom_of_readable h hsystem hconsole hpath, RomFormat.Accepted]
  by_cases hnes : system = ascii "nes"
  · rw [if_pos hnes, if_pos hnes, validateNesFile_iff h]
  rw [if_neg hnes, if_neg hnes]
  by_cases hgb : system = ascii "gb" ∨ system = ascii "gbc"
  · rw [if_pos hgb, if_pos hgb, validateGameBoyFile_iff system h, File.size]
  rw [if_neg hgb, if_neg hgb]
  by_cases hzx : system = ascii "zx"
  · rw [if_pos hzx, if_pos hzx, validateTapeFile_iff h, File.size]
  rw [if_neg hzx, if_neg hzx, File.size]
  by_cases hsize : file.content.length < 1 ∨ 65024 < file.content.length
  · rw [if_pos hsize]
    simp only [reduceCtorEq, false_iff]
    omega
  · rw [if_neg hsize]
    simp only [true_iff]
    omega

end NesDeck
