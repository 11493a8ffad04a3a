/-
**What the menu lists and what its frontends load.**

The menu checks every console game of its catalog with `validate_rom`, and the frontend that it
starts for the game checks the file once more with `read_rom`.  The two agree on the Game Boy and
on the ZX Spectrum.  On the NES the menu knows no upper bound, so that it lists images that the
frontend refuses.

Main definitions:

* `NesDeck.frontendForGame` — the frontend of a system;
* `NesDeck.oversizedImage` — an iNES image that is listed and never starts.

Main results:

* `NesDeck.validateRom_readRom_iff` — **a listed game loads unless it is an iNES image above the
  maximum**.
-/

import NesDeck.ValidateRom
import NesDeck.LibretroDeck

set_option relaxedAutoImplicit false
set_option autoImplicit false

namespace NesDeck

open HostFile
open MenuText (isAbsolutePath)
open LibretroDeck (Frontend readRom readRom_eq_ok_iff kMaximumRomBytes)

/-- The systems of `emulator_for_game` that are played by a build of `libretro_deck.cpp`. -/
def frontendForGame (system : Bytes) : Option Frontend :=
  if system = ascii "nes" then some .nes
  else if system = ascii "gb" ∨ system = ascii "gbc" then some .gb
  else if system = ascii "zx" then some .zx
  else none

theorem frontendForGame_eq_some {system : Bytes} {frontend : Frontend}
    (h : frontendForGame system = some frontend) :
    system = ascii "nes" ∧ frontend = .nes ∨ system = ascii "gb" ∧ frontend = .gb ∨
      system = ascii "gbc" ∧ frontend = .gb ∨ system = ascii "zx" ∧ frontend = .zx := by
  rw [frontendForGame] at h
  split at h
  · rename_i hnes
    exact Or.inl ⟨hnes, (Option.some.inj h).symm⟩
  right
  split at h
  · rename_i hgb
    rcases hgb with hgb | hgbc
    · exact Or.inl ⟨hgb, (Option.some.inj h).symm⟩
    · exact Or.inr (Or.inl ⟨hgbc, (Option.some.inj h).symm⟩)
  right; right
  split at h
  · rename_i hzx
    exact ⟨hzx, (Option.some.inj h).symm⟩
  · cases h

/-- A system of a frontend is a console system of the menu. -/
theorem validSystem_of_frontendForGame {system : Bytes} {frontend : Frontend}
    (h : frontendForGame system = some frontend) :
    validSystem system = true ∧ system ≠ ascii "deck" := by
  rcases frontendForGame_eq_some h with ⟨rfl, -⟩ | ⟨rfl, -⟩ | ⟨rfl, -⟩ | ⟨rfl, -⟩
  all_goals exact ⟨by decide, by decide⟩

/-- What a frontend loads, in the terms of the formats. -/
theorem readRom_of_accepted {system : Bytes} {frontend : Frontend} {file : File}
    (hfrontend : frontendForGame system = some frontend) (hfile : file.readable)
    (h : RomFormat.Accepted system file.content) :
    readRom frontend file = .ok file.content ↔ file.size ≤ kMaximumRomBytes := by
  rw [readRom_eq_ok_iff hfile]
  constructor
  · rintro ⟨-, -, hmax, -⟩
    exact hmax
  intro hmax
  rcases frontendForGame_eq_some hfrontend with ⟨rfl, rfl⟩ | ⟨rfl, rfl⟩ | ⟨rfl, rfl⟩ | ⟨rfl, rfl⟩
  · obtain ⟨hsize, hmagic⟩ := (RomFormat.accepted_nes _).1 h
    refine ⟨rfl, hsize, hmax, fun _ => ⟨?_, hmagic⟩⟩
    rw [File.size]
    omega
  · exact ⟨rfl, ((RomFormat.accepted_gb _).1 h).1.size, hmax, fun hnes => absurd hnes (by decide)⟩
  · exact ⟨rfl, ((RomFormat.accepted_gbc _).1 h).1.size, hmax, fun hnes => absurd hnes (by decide)⟩
  · exact ⟨rfl, ((RomFormat.accepted_zx _).1 h).2.1, hmax, fun hnes => absurd hnes (by decide)⟩

/-- Only on the NES is an accepted image larger than a frontend takes. -/
theorem le_maximum_of_accepted {system content : Bytes} {frontend : Frontend}
    (hfrontend : frontendForGame system = some frontend) (hnes : system ≠ ascii "nes")
    (h : RomFormat.Accepted system content) : content.length ≤ kMaximumRomBytes := by
  rcases frontendForGame_eq_some hfrontend with ⟨rfl, -⟩ | ⟨rfl, -⟩ | ⟨rfl, -⟩ | ⟨rfl, -⟩
  · exact absurd rfl hnes
  · exact ((RomFormat.accepted_gb _).1 h).2
  · exact ((RomFormat.accepted_gbc _).1 h).2.1
  · exact ((RomFormat.accepted_zx _).1 h).2.2

/-- **The menu and its frontends.**  If the menu accepts a file that can be read, then its
frontend returns the bytes of the file: this holds of every file but an iNES image of more bytes
than a frontend takes. -/
theorem validateRom_readRom_iff {system path : Bytes} {frontend : Frontend} {file : File}
    (hfrontend : frontendForGame system = some frontend) (hpath : isAbsolutePath path = true)
    (hfile : file.readable) :
    (validateRom system path file = .ok () → readRom frontend file = .ok file.content) ↔
      ¬ (system = ascii "nes" ∧ RomFormat.Ines file.content ∧
        8 * 1024 * 1024 < file.content.length) := by
  obtain ⟨hvalid, hconsole⟩ := validSystem_of_frontendForGame hfrontend
  rw [validateRom_iff hfile hvalid hconsole hpath]
  constructor
  · rintro hloads ⟨rfl, hines, hlarge⟩
    have haccepted := (RomFormat.accepted_nes file.content).2 hines
    have hmax := (readRom_of_accepted hfrontend hfile haccepted).1 (hloads haccepted)
    rw [File.size, kMaximumRomBytes] at hmax
    omega
  · intro hnot haccepted
    refine (readRom_of_accepted hfrontend hfile haccepted).2 ?_
    rw [File.size]
    by_cases hnes : system = ascii "nes"
    · subst hnes
      have hines := (RomFormat.accepted_nes file.content).1 haccepted
      by_contra hlarge
      exact hnot ⟨rfl, hines, Nat.not_le.1 hlarge⟩
    · exact le_maximum_of_accepted hfrontend hnes haccepted

/-- A cartridge of sixteen bytes, listed and loaded. -/
theorem validateRom_readRom_sixteen :
    (validateRom (ascii "nes") (ascii "/g.nes")
        (File.ofContent (RomFormat.inesMagic ++ List.replicate 12 0)) = .ok () →
      readRom .nes (File.ofContent (RomFormat.inesMagic ++ List.replicate 12 0)) =
        .ok (RomFormat.inesMagic ++ List.replicate 12 0)) ↔
      ¬ (ascii "nes" = ascii "nes" ∧
        RomFormat.Ines (RomFormat.inesMagic ++ List.replicate 12 0) ∧
        8 * 1024 * 1024 < (RomFormat.inesMagic ++ List.replicate 12 (0 : UInt8)).length) :=
  validateRom_readRom_iff rfl (by decide)
    (File.readable_ofContent (RomFormat.inesMagic ++ List.replicate 12 0))

/-- An iNES image one header above what a frontend takes. -/
def oversizedImage : Bytes := RomFormat.inesMagic ++ List.replicate kMaximumRomBytes 0

theorem length_oversizedImage : oversizedImage.length = 4 + kMaximumRomBytes := by
  rw [oversizedImage, List.length_append, List.length_replicate]
  rfl

theorem ines_oversizedImage : RomFormat.Ines oversizedImage where
  size := by
    rw [length_oversizedImage, kMaximumRomBytes]
    omega
  magic := List.take_left' rfl

/-- The menu lists the oversized image and its frontend refuses it. -/
theorem validateRom_readRom_oversized :
    validateRom (ascii "nes") (ascii "/g.nes") (File.ofContent oversizedImage) = .ok () ∧
      readRom .nes (File.ofContent oversizedImage) ≠ .ok oversizedImage := by
  have hreadable := File.readable_ofContent oversizedImage
  have haccepted : RomFormat.Accepted (ascii "nes") (File.ofContent oversizedImage).content :=
    (RomFormat.accepted_nes oversizedImage).2 ines_oversizedImage
  constructor
  · exact (validateRom_iff hreadable (by decide) (by decide) (by decide)).2 haccepted
  · intro hloads
    have hfrontend : frontendForGame (ascii "nes") = some .nes := rfl
    have hmax := (readRom_of_accepted hfrontend hreadable haccepted).1 hloads
    have hlength : (File.ofContent oversizedImage).size = 4 + kMaximumRomBytes :=
      length_oversizedImage
    omega

end NesDeck
