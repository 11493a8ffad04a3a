/-
**The ROM validators of the uploader.**

The uploader (`uploader/rom.go`) checks an image before it installs it, and the menu checks the
installed file again (`menu_catalog.cpp`).  The two validators were written in different languages;
both decide the predicate `RomFormat.Accepted`, up to the bounds on the size, and so they agree.

Main definitions:

* `NesDeck.Uploader.supportedSystems` — extension, colour and maximum of a system;
* `NesDeck.Uploader.ImageError` — the reasons for a refusal, with their texts;
* `NesDeck.Uploader.zxLoop` — the loop over the TAP blocks, with its errors and its count;
* `NesDeck.Uploader.validateROM` — the validator.

Main results:

* `NesDeck.Uploader.validateROM_iff` — what the uploader accepts;
* `NesDeck.Uploader.validateROM_iff_validateRom` — the two validators agree.
-/

import NesDeck.ValidateRom

set_option relaxedAutoImplicit false
set_option autoImplicit false

namespace NesDeck.Uploader

open HostFile
open MenuText (isAbsolutePath)

/-! ### Systems -/

structure SystemSpec where
  extension : Bytes
  color : Bytes
  maximum : ℕ
  deriving DecidableEq

/-- The systems that the uploader knows. -/
def supportedSystems (system : Bytes) : Option SystemSpec :=
  if system = ascii "nes" then some ⟨ascii ".nes", ascii "#FF5F00", 8 * 1024 * 1024⟩
  else if system = ascii "gb" then some ⟨ascii ".gb", ascii "#87AF87", 8 * 1024 * 1024⟩
  else if system = ascii "gbc" then some ⟨ascii ".gbc", ascii "#5F87D7", 8 * 1024 * 1024⟩
  else if system = ascii "zx" then some ⟨ascii ".tap", ascii "#AF87D7", 8 * 1024 * 1024⟩
  else if system = ascii "chip8" then some ⟨ascii ".ch8", ascii "#5FD7D7", 65024⟩
  else none

/-! ### Errors -/

/-- The reasons for which `validateROM` refuses an image. -/
inductive ImageError where
  | unsupportedSystem
  | sizeOutside (maximum : ℕ)
  | noInesHeader
  | noGameBoyHeader
  | invalidChecksum
  | noColorSupport
  | tapTooShort
  | tapBlockHeader
  | tapBlockLength
  | tapBlockChecksum
  | tapNoBlocks
  deriving DecidableEq

/-- The text of the error. -/
def ImageError.message : ImageError → String
  | unsupportedSystem => "choose a supported system"
  | sizeOutside maximum => "the ROM must contain 1 through " ++ toString maximum ++ " bytes"
  | noInesHeader => "the file has no iNES header"
  | noGameBoyHeader => "the file has no valid Game Boy header"
  | invalidChecksum => "the Game Boy header checksum is invalid"
  | noColorSupport => "the ROM does not advertise Game Boy Color support"
  | tapTooShort => "the TAP file is too short"
  | tapBlockHeader => "the TAP file ends inside a block header"
  | tapBlockLength => "the TAP file has an invalid block length"
  | tapBlockChecksum => "the TAP file has an invalid block checksum"
  | tapNoBlocks => "the TAP file contains no blocks"

/-! ### The validators -/

def validateNES (data : Bytes) : Except ImageError Unit :=
  if data.length < 16 ∨ data.take 4 ≠ [0x4e, 0x45, 0x53, 0x1a] then .error .noInesHeader
  else .ok ()

def nintendoLogo : Bytes :=
  [0xce, 0xed, 0x66, 0x66, 0xcc, 0x0d, 0x00, 0x0b,
   0x03, 0x73, 0x00, 0x83, 0x00, 0x0c, 0x00, 0x0d,
   0x00, 0x08, 0x11, 0x1f, 0x88, 0x89, 0x00, 0x0e,
   0xdc, 0xcc, 0x6e, 0xe6, 0xdd, 0xdd, 0xd9, 0x99,
   0xbb, 0xbb, 0x67, 0x63, 0x6e, 0x0e, 0xec, 0xcc,
   0xdd, 0xdc, 0x99, 0x9f, 0xbb, 0xb9, 0x33, 0x3e]

/-- The checksum loop of `validateGameBoy`, over the bytes `0x134` through `0x14c`. -/
def gameBoyChecksum (data : Bytes) : UInt8 :=
  (List.range' 0x134 0x19).foldl (fun checksum index => checksum - data.getD index 0 - 1) 0

def validateGameBoy (data : Bytes) (colorOnly : Bool) : Except ImageError Unit :=
  if data.length < 0x150 ∨ (data.drop 0x104).take (0x134 - 0x104) ≠ nintendoLogo then
    .error .noGameBoyHeader
  else if gameBoyChecksum data ≠ data.getD 0x14d 0 then .error .invalidChecksum
  else if colorOnly = true ∧ data.getD 0x143 0 ≠ 0x80 ∧ data.getD 0x143 0 ≠ 0xc0 then
    .error .noColorSupport
  else .ok ()

/-- The loop of `validateZX` from an offset on: the number of blocks, or the first error. -/
def zxLoop (data : Bytes) (offset blocks : ℕ) : Except ImageError ℕ :=
  if _h : offset < data.length then
    if data.length - offset < 2 then .error .tapBlockHeader
    else
      let blockSize := (data.getD offset 0).toNat ||| (data.getD (offset + 1) 0).toNat <<< 8
      if blockSize < 2 ∨ data.length - (offset + 2) < blockSize then .error .tapBlockLength
      else if ((data.drop (offset + 2)).take blockSize).foldl (· ^^^ ·) 0 ≠ 0 then
        .error .tapBlockChecksum
      else zxLoop data (offset + 2 + blockSize) (blocks + 1)
  else .ok blocks
termination_by data.length - offset

def validateZX (data : Bytes) : Except ImageError Unit :=
  if data.length < 4 then .error .tapTooShort
  else
    match zxLoop data 0 0 with
    | .error error => .error error
    | .ok blocks => if blocks = 0 then .error .tapNoBlocks else .ok ()

def validateROM (system data : Bytes) : Except ImageError Unit :=
  match supportedSystems system with
  | none => .error .unsupportedSystem
  | some spec =>
      if data.length = 0 ∨ spec.maximum < data.length then .error (.sizeOutside spec.maximum)
      else if system = ascii "nes" then validateNES data
      else if system = ascii "gb" then validateGameBoy data false
      else if system = ascii "gbc" then validateGameBoy data true
      else if system = ascii "zx" then validateZX data
      else .ok ()

/-! ### What each of them accepts -/

theorem validateNES_iff (data : Bytes) :
    validateNES data = .ok () ↔ RomFormat.Ines data := by
  rw [validateNES]
  split
  · rename_i hbad
    simp only [reduceCtorEq, false_iff]
    rintro ⟨hsize, hmagic⟩
    rcases hbad with hshort | hne
    · omega
    · exact hne hmagic
  · rename_i hgood
    rw [not_or, not_lt, not_not] at hgood
    simp only [true_iff]
    exact ⟨hgood.1, hgood.2⟩

theorem gameBoyChecksum_eq (data : Bytes) (h : 0x14d ≤ data.length) :
    gameBoyChecksum data = RomFormat.checksum ((data.drop 0x134).take 0x19) :=
  Buffer.foldl_range'_getD (fun sum byte => sum - byte - 1) 0 data 0 (by omega)

theorem validateGameBoy_iff (data : Bytes) (colorOnly : Bool) :
    validateGameBoy data colorOnly = .ok () ↔
      RomFormat.GameBoy data ∧ (colorOnly = true → RomFormat.Color data) := by
  rw [validateGameBoy]
  by_cases hheader : data.length < 0x150 ∨ (data.drop 0x104).take (0x134 - 0x104) ≠ nintendoLogo
  · rw [if_pos hheader]
    simp only [reduceCtorEq, false_iff]
    rintro ⟨⟨hsize, hlogo, -⟩, -⟩
    rcases hheader with hshort | hne
    · omega
    · exact hne hlogo
  rw [if_neg hheader]
  rw [not_or, not_lt, not_not] at hheader
  obtain ⟨hsize, hlogo⟩ := hheader
  rw [gameBoyChecksum_eq data (by omega)]
  by_cases hsum : RomFormat.checksum ((data.drop 0x134).take 0x19) = data.getD 0x14d 0
  · rw [if_neg (not_not_intro hsum)]
    by_cases hflag : colorOnly = true ∧ data.getD 0x143 0 ≠ 0x80 ∧ data.getD 0x143 0 ≠ 0xc0
    · rw [if_pos hflag]
      simp only [reduceCtorEq, false_iff]
      rintro ⟨-, hcolor⟩
      rcases hcolor hflag.1 with heq | heq
      · exact hflag.2.1 heq
      · exact hflag.2.2 heq
    · rw [if_neg hflag]
      simp only [true_iff]
      refine ⟨⟨hsize, hlogo, hsum⟩, ?_⟩
      intro hgbc
      by_contra hcolor
      rw [RomFormat.Color, not_or] at hcolor
      exact hflag ⟨hgbc, hcolor.1, hcolor.2⟩
  · rw [if_pos hsum]
    simp only [reduceCtorEq, false_iff]
    rintro ⟨⟨-, -, hsum'⟩, -⟩
    exact hsum hsum'

/-- The loop succeeds exactly on a tape, and counts its blocks. -/
theorem zxLoop_iff (data : Bytes) (offset blocks : ℕ) :
    (∃ count, zxLoop data offset blocks = .ok count) ↔ RomFormat.Tape (data.drop offset) := by
  fun_induction zxLoop data offset blocks with
  | case1 offset blocks hlt hshort =>
      simp [RomFormat.not_tape_drop data (show data.length - offset = 1 by omega)]
  | case2 offset blocks hlt hlong blockSize hbad =>
      rw [RomFormat.tape_drop_iff data (n := blockSize) (by omega) rfl]
      simp only [reduceCtorEq, exists_false, false_iff]
      rintro ⟨hsize, hfits, -⟩
      omega
  | case3 offset blocks hlt hlong blockSize hgood hchecksum =>
      rw [RomFormat.tape_drop_iff data (n := blockSize) (by omega) rfl]
      simp only [reduceCtorEq, exists_false, false_iff]
      rintro ⟨-, -, hparity, -⟩
      exact hchecksum hparity
  | case4 offset blocks hlt hlong blockSize hgood hchecksum ih =>
      rw [not_not] at hchecksum
      rw [ih, RomFormat.tape_drop_iff data (n := blockSize) (by omega) rfl]
      constructor
      · intro h
        exact ⟨by omega, by omega, hchecksum, h⟩
      · rintro ⟨-, -, -, h⟩
        exact h
  | case5 offset blocks hge =>
      have hnil : data.drop offset = [] := List.drop_of_length_le (by omega)
      simp [hnil, RomFormat.Tape.nil]

/-- The count does not decrease, and it grows with the first block. -/
theorem zxLoop_count {data : Bytes} {offset blocks count : ℕ}
    (h : zxLoop data offset blocks = .ok count) :
    blocks ≤ count ∧ (offset < data.length → blocks < count) := by
  fun_induction zxLoop data offset blocks with
  | case1 => cases h
  | case2 => cases h
  | case3 => cases h
  | case4 offset blocks hlt hlong blockSize hgood hchecksum ih =>
      have := (ih h).1
      exact ⟨by omega, fun _ => by omega⟩
  | case5 offset blocks hge =>
      cases h
      exact ⟨Nat.le_refl _, fun hlt => absurd hlt hge⟩

theorem validateZX_iff (data : Bytes) :
    validateZX data = .ok () ↔ RomFormat.Tape data ∧ 4 ≤ data.length := by
  rw [validateZX]
  by_cases hsize : data.length < 4
  · rw [if_pos hsize]
    simp only [reduceCtorEq, false_iff]
    omega
  rw [if_neg hsize]
  have hloop := zxLoop_iff data 0 0
  rw [List.drop_zero] at hloop
  rw [← hloop]
  cases hzx : zxLoop data 0 0 with
  | error error => simp
  | ok blocks =>
      have hcount := (zxLoop_count hzx).2 (by omega)
      dsimp only
      rw [if_neg (by omega)]
      simp only [true_iff]
      exact ⟨⟨blocks, rfl⟩, by omega⟩

/-! ### The systems in turn -/

/-- The supported systems, one after the other. -/
theorem supportedSystems_eq_some {system : Bytes} {spec : SystemSpec}
    (h : supportedSystems system = some spec) :
    system = ascii "nes" ∧ spec = ⟨ascii ".nes", ascii "#FF5F00", 8 * 1024 * 1024⟩ ∨
    system = ascii "gb" ∧ spec = ⟨ascii ".gb", ascii "#87AF87", 8 * 1024 * 1024⟩ ∨
    system = ascii "gbc" ∧ spec = ⟨ascii ".gbc", ascii "#5F87D7", 8 * 1024 * 1024⟩ ∨
    system = ascii "zx" ∧ spec = ⟨ascii ".tap", ascii "#AF87D7", 8 * 1024 * 1024⟩ ∨
    system = ascii "chip8" ∧ spec = ⟨ascii ".ch8", ascii "#5FD7D7", 65024⟩ := by
  rw [supportedSystems] at h
  split at h
  · rename_i hnes
    exact Or.inl ⟨hnes, (Option.some.inj h).symm⟩
  right
  split at h
  · rename_i hgb
    exact Or.inl ⟨hgb, (Option.some.inj h).symm⟩
  right
  split at h
  · rename_i hgbc
    exact Or.inl ⟨hgbc, (Option.some.inj h).symm⟩
  right
  split at h
  · rename_i hzx
    exact Or.inl ⟨hzx, (Option.some.inj h).symm⟩
  right
  split at h
  · rename_i hchip8
    exact ⟨hchip8, (Option.some.inj h).symm⟩
  · cases h

/-- The supported systems are the five console systems of the menu. -/
theorem validSystem_of_supportedSystems {system : Bytes} {spec : SystemSpec}
    (h : supportedSystems system = some spec) :
    validSystem system = true ∧ system ≠ ascii "deck" := by
  rcases supportedSystems_eq_some h with ⟨rfl, -⟩ | ⟨rfl, -⟩ | ⟨rfl, -⟩ | ⟨rfl, -⟩ | ⟨rfl, -⟩
  all_goals exact ⟨by decide, by decide⟩

theorem supportedSystems_isSome {system : Bytes}
    (h : system ∈ [ascii "nes", ascii "gb", ascii "gbc", ascii "zx", ascii "chip8"]) :
    (supportedSystems system).isSome = true := by
  simp only [List.mem_cons, List.not_mem_nil, or_false] at h
  rcases h with rfl | rfl | rfl | rfl | rfl <;> decide

/-- **What the uploader accepts**: what the menu accepts, up to the maximum of the system. -/
theorem validateROM_iff {system : Bytes} {spec : SystemSpec}
    (hspec : supportedSystems system = some spec) (data : Bytes) :
    validateROM system data = .ok () ↔
      RomFormat.Accepted system data ∧ data.length ≤ spec.maximum := by
  rw [validateROM, hspec]
  dsimp only
  by_cases hsize : data.length = 0 ∨ spec.maximum < data.length
  · rw [if_pos hsize]
    simp only [reduceCtorEq, false_iff]
    rintro ⟨haccepted, hmax⟩
    have hpos := RomFormat.accepted_pos haccepted
    omega
  rw [if_neg hsize]
  rw [not_or, not_lt] at hsize
  obtain ⟨hpos, hmax⟩ := hsize
  rcases supportedSystems_eq_some hspec with
    ⟨rfl, rfl⟩ | ⟨rfl, rfl⟩ | ⟨rfl, rfl⟩ | ⟨rfl, rfl⟩ | ⟨rfl, rfl⟩
  · rw [if_pos rfl, validateNES_iff, RomFormat.accepted_nes]
    exact ⟨fun h => ⟨h, hmax⟩, fun h => h.1⟩
  · rw [if_neg (by decide), if_pos rfl, validateGameBoy_iff, RomFormat.accepted_gb]
    exact ⟨fun h => ⟨⟨h.1, hmax⟩, hmax⟩, fun h => ⟨h.1.1, nofun⟩⟩
  · rw [if_neg (by decide), if_neg (by decide), if_pos rfl, validateGameBoy_iff,
      RomFormat.accepted_gbc]
    exact ⟨fun h => ⟨⟨h.1, hmax, h.2 rfl⟩, hmax⟩, fun h => ⟨h.1.1, fun _ => h.1.2.2⟩⟩
  · rw [if_neg (by decide), if_neg (by decide), if_neg (by decide), if_pos rfl, validateZX_iff,
      RomFormat.accepted_zx]
    exact ⟨fun h => ⟨⟨h.1, h.2, hmax⟩, hmax⟩, fun h => ⟨h.1.1, h.1.2.1⟩⟩
  · rw [if_neg (by decide), if_neg (by decide), if_neg (by decide), if_neg (by decide),
      RomFormat.accepted_chip8]
    simp only [true_iff]
    exact ⟨⟨Nat.pos_of_ne_zero hpos, hmax⟩, hmax⟩

/-! ### The two validators -/

/-- **The two validators agree.**  On a file that can be read, the uploader accepts the content
exactly if the menu accepts the file and the content does not exceed the maximum of the system. -/
theorem validateROM_iff_validateRom {system path : Bytes} {file : File}
    (hsystem : system ∈ [ascii "nes", ascii "gb", ascii "gbc", ascii "zx", ascii "chip8"])
    (hpath : isAbsolutePath path = true) (hfile : file.readable) :
    validateROM system file.content = .ok () ↔
      validateRom system path file = .ok () ∧
        ∃ spec, supportedSystems system = some spec ∧ file.content.length ≤ spec.maximum := by
  obtain ⟨spec, hspec⟩ := Option.isSome_iff_exists.1 (supportedSystems_isSome hsystem)
  obtain ⟨hvalid, hconsole⟩ := validSystem_of_supportedSystems hspec
  rw [validateROM_iff hspec, validateRom_iff hfile hvalid hconsole hpath]
  simp only [hspec, Option.some.injEq, exists_eq_left']

/-- The agreement on a tape of one block, whose bytes are `1` and `1`. -/
theorem validateROM_iff_validateRom_tape :
    validateROM (ascii "zx") [2, 0, 1, 1] = .ok () ↔
      validateRom (ascii "zx") (ascii "/t.tap") (File.ofContent [2, 0, 1, 1]) = .ok () ∧
        ∃ spec, supportedSystems (ascii "zx") = some spec ∧
          [(2 : UInt8), 0, 1, 1].length ≤ spec.maximum :=
  validateROM_iff_validateRom (by decide) (by decide) (File.readable_ofContent [2, 0, 1, 1])

end NesDeck.Uploader
