/-
**What a cartridge image is.**

The uploader and the menu each check the images they accept, in different languages and with
different loops.  This module says what they check, as predicates on the bytes of the image: the
iNES magic, the header of a Game Boy cartridge, and the decomposition of a tape into blocks whose
bytes cancel out.  The two validators are compared with these predicates, and through them with
each other.

Main definitions:

* `NesDeck.RomFormat.Ines`, `NesDeck.RomFormat.GameBoy`, `NesDeck.RomFormat.Color`,
  `NesDeck.RomFormat.Tape` — the formats;
* `NesDeck.RomFormat.Accepted` — the images of a system, without an upper bound on the NES.

Main results:

* `NesDeck.RomFormat.tape_drop_iff` — the block of a tape at an offset.
-/

import NesDeck.Lib.HostFile

set_option relaxedAutoImplicit false
set_option autoImplicit false

namespace NesDeck.RomFormat

open HostFile (Bytes ascii)

/-! ### The NES -/

/-- The four bytes an iNES file starts with. -/
def inesMagic : Bytes := [0x4e, 0x45, 0x53, 0x1a]

/-- An iNES file, as far as it is checked. -/
structure Ines (content : Bytes) : Prop where
  size : 16 ≤ content.length
  magic : content.take 4 = inesMagic

/-! ### The Game Boy -/

/-- The logo in the header. -/
def logo : Bytes :=
  [0xce, 0xed, 0x66, 0x66, 0xcc, 0x0d, 0x00, 0x0b, 0x03, 0x73, 0x00, 0x83,
   0x00, 0x0c, 0x00, 0x0d, 0x00, 0x08, 0x11, 0x1f, 0x88, 0x89, 0x00, 0x0e,
   0xdc, 0xcc, 0x6e, 0xe6, 0xdd, 0xdd, 0xd9, 0x99, 0xbb, 0xbb, 0x67, 0x63,
   0x6e, 0x0e, 0xec, 0xcc, 0xdd, 0xdc, 0x99, 0x9f, 0xbb, 0xb9, 0x33, 0x3e]

/-- The wrapping checksum over some bytes of the header. -/
def checksum (bytes : Bytes) : UInt8 := bytes.foldl (fun sum byte => sum - byte - 1) 0

/-- A Game Boy image, as far as it is checked. -/
structure GameBoy (content : Bytes) : Prop where
  size : 0x150 ≤ content.length
  logo : (content.drop 0x104).take 48 = logo
  checksum : checksum ((content.drop 0x134).take 0x19) = content.getD 0x14d 0

/-- An image that advertises colour support. -/
def Color (content : Bytes) : Prop :=
  content.getD 0x143 0 = 0x80 ∨ content.getD 0x143 0 = 0xc0

/-! ### The ZX Spectrum -/

/-- The exclusive or of some bytes. -/
def parity (bytes : Bytes) : UInt8 := bytes.foldl (· ^^^ ·) 0

/-- A two-byte length, the low byte first. -/
def blockLength (low high : UInt8) : ℕ := low.toNat ||| high.toNat <<< 8

/-- A tape is a sequence of blocks, each behind its length, whose bytes cancel out. -/
inductive Tape : Bytes → Prop where
  | nil : Tape []
  | cons (low high : UInt8) (block rest : Bytes) (hlength : blockLength low high = block.length)
      (hsize : 2 ≤ block.length) (hparity : parity block = 0) (hrest : Tape rest) :
      Tape (low :: high :: (block ++ rest))

theorem not_tape_singleton (byte : UInt8) : ¬ Tape [byte] := by
  intro h
  cases h

/-- The front block of a tape. -/
theorem tape_cons_cons_iff (low high : UInt8) (rest : Bytes) :
    Tape (low :: high :: rest) ↔
      2 ≤ blockLength low high ∧ blockLength low high ≤ rest.length ∧
        parity (rest.take (blockLength low high)) = 0 ∧
        Tape (rest.drop (blockLength low high)) := by
  constructor
  · intro h
    cases h with
    | cons _ _ block rest hlength hsize hparity hrest =>
        rw [hlength, List.take_left' rfl, List.drop_left' rfl, List.length_append]
        exact ⟨hsize, Nat.le_add_right _ _, hparity, hrest⟩
  · rintro ⟨hsize, hfits, hparity, hrest⟩
    have hlength : blockLength low high = (rest.take (blockLength low high)).length := by
      rw [List.length_take]
      omega
    have h := Tape.cons low high _ _ hlength (by omega) hparity hrest
    rwa [List.take_append_drop] at h

/-- The block of a tape at an offset. -/
theorem tape_drop_iff (tape : Bytes) {offset n : ℕ} (h : offset + 2 ≤ tape.length)
    (hn : blockLength (tape.getD offset 0) (tape.getD (offset + 1) 0) = n) :
    Tape (tape.drop offset) ↔
      2 ≤ n ∧ n ≤ tape.length - (offset + 2) ∧
        parity ((tape.drop (offset + 2)).take n) = 0 ∧ Tape (tape.drop (offset + 2 + n)) := by
  have hlow : tape.getD offset 0 = tape[offset] := List.getD_eq_getElem _ _ (by omega)
  have hhigh : tape.getD (offset + 1) 0 = tape[offset + 1] := List.getD_eq_getElem _ _ (by omega)
  rw [hlow, hhigh] at hn
  rw [List.drop_eq_getElem_cons (by omega), List.drop_eq_getElem_cons (by omega),
    tape_cons_cons_iff, hn, List.length_drop, List.drop_drop]

/-- A tape that ends inside the length of a block. -/
theorem not_tape_drop (tape : Bytes) {offset : ℕ} (h : tape.length - offset = 1) :
    ¬ Tape (tape.drop offset) := by
  obtain ⟨byte, hbyte⟩ : ∃ byte, tape.drop offset = [byte] :=
    List.length_eq_one_iff.1 (by rw [List.length_drop, h])
  rw [hbyte]
  exact not_tape_singleton byte

/-! ### The images of a system -/

/-- The images that the menu accepts for a console system. -/
def Accepted (system content : Bytes) : Prop :=
  if system = ascii "nes" then Ines content
  else if system = ascii "gb" ∨ system = ascii "gbc" then
    GameBoy content ∧ content.length ≤ 8 * 1024 * 1024 ∧ (system = ascii "gbc" → Color content)
  else if system = ascii "zx" then
    Tape content ∧ 4 ≤ content.length ∧ content.length ≤ 8 * 1024 * 1024
  else 1 ≤ content.length ∧ content.length ≤ 65024

theorem accepted_nes (content : Bytes) : Accepted (ascii "nes") content ↔ Ines content := by
  rw [Accepted, if_pos rfl]

theorem accepted_gb (content : Bytes) :
    Accepted (ascii "gb") content ↔ GameBoy content ∧ content.length ≤ 8 * 1024 * 1024 := by
  have hne : ascii "gb" ≠ ascii "gbc" := by decide
  rw [Accepted, if_neg (by decide), if_pos (Or.inl rfl)]
  simp only [hne, false_imp_iff, and_true]

theorem accepted_gbc (content : Bytes) :
    Accepted (ascii "gbc") content ↔
      GameBoy content ∧ content.length ≤ 8 * 1024 * 1024 ∧ Color content := by
  rw [Accepted, if_neg (by decide), if_pos (Or.inr rfl)]
  simp only [true_imp_iff]

theorem accepted_zx (content : Bytes) :
    Accepted (ascii "zx") content ↔
      Tape content ∧ 4 ≤ content.length ∧ content.length ≤ 8 * 1024 * 1024 := by
  rw [Accepted, if_neg (by decide), if_neg (by decide), if_pos rfl]

theorem accepted_chip8 (content : Bytes) :
    Accepted (ascii "chip8") content ↔ 1 ≤ content.length ∧ content.length ≤ 65024 := by
  rw [Accepted, if_neg (by decide), if_neg (by decide), if_neg (by decide)]

/-- No system has an empty image. -/
theorem accepted_pos {system content : Bytes} (h : Accepted system content) :
    0 < content.length := by
  rw [Accepted] at h
  split at h
  · have := h.size
    omega
  split at h
  · have := h.1.size
    omega
  split at h
  · omega
  · omega

end NesDeck.RomFormat
