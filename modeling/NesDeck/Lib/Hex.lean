/-
**Bytes written as hexadecimal digits.**

A byte is written as two digits, the high half first.  The writer uses small letters; the reader
takes letters of either size, skips blanks and drops a digit that has no partner.

Main definitions:

* `Hex.encode` — the digits of a text;
* `Hex.decode` — the text of some digits;
* `Hex.lower` — the digits `A` to `F` as small letters.

Main results:

* `Hex.decode_encode` — **what was written is read back**;
* `Hex.encode_decode` — small digits in pairs are written as they were read;
* `Hex.decode_lower` — the size of the letters does not matter;
* `Hex.encode_injective` — two texts have different digits;
* `Hex.length_encode`, `Hex.mem_encode` — the length and the digits of what is written.
-/

import NesDeck.Lib.HostFile

set_option relaxedAutoImplicit false
set_option autoImplicit false

namespace Hex

open HostFile (Bytes)

/-- The digit of a number below sixteen. -/
def digit (n : ℕ) : UInt8 := UInt8.ofNat (if n < 10 then 0x30 + n else 0x57 + n)

/-- The digits of a text. -/
def encode : Bytes → Bytes
  | [] => []
  | byte :: text => digit (byte.toNat / 16) :: digit (byte.toNat % 16) :: encode text

/-- The number of a digit. -/
def value (c : UInt8) : Option ℕ :=
  if 0x30 ≤ c ∧ c ≤ 0x39 then some (c.toNat - 0x30)
  else if 0x61 ≤ c ∧ c ≤ 0x66 then some (c.toNat - 0x57)
  else if 0x41 ≤ c ∧ c ≤ 0x46 then some (c.toNat - 0x37)
  else none

/-- A digit with small letters. -/
def isLowerDigit (c : UInt8) : Bool := (0x30 ≤ c && c ≤ 0x39) || (0x61 ≤ c && c ≤ 0x66)

/-- A digit with letters of either size. -/
def isDigit (c : UInt8) : Bool := isLowerDigit c || (0x41 ≤ c && c ≤ 0x46)

/-- A capital digit as a small one. -/
def lowerDigit (c : UInt8) : UInt8 := if 0x41 ≤ c ∧ c ≤ 0x46 then c + 0x20 else c

/-- The digits `A` to `F` as small letters. -/
def lower (text : Bytes) : Bytes := text.map lowerDigit

/-- Reading digits after a first half that waits for its partner, if there is one. -/
def decodeFrom : Option ℕ → Bytes → Bytes
  | _, [] => []
  | none, c :: rest => decodeFrom (value c) rest
  | some high, c :: rest =>
      match value c with
      | some low => UInt8.ofNat (16 * high + low) :: decodeFrom none rest
      | none =>
          -- A blank may stand between the halves; anything else drops the first one.
          if c = 0x20 ∨ c = 0x09 ∨ c = 0x0a then decodeFrom (some high) rest
          else decodeFrom none rest

/-- The text of some digits. -/
def decode (digits : Bytes) : Bytes := decodeFrom none digits

/-! ### One byte -/

theorem value_digit {n : ℕ} (h : n < 16) : value (digit n) = some n := by
  have hall : (List.range 16).all (fun n => value (digit n) == some n) = true := by decide
  have hn := List.all_eq_true.1 hall n (List.mem_range.2 h)
  simpa using hn

theorem isLowerDigit_digit {n : ℕ} (h : n < 16) : isLowerDigit (digit n) = true := by
  have hall : (List.range 16).all (fun n => isLowerDigit (digit n)) = true := by decide
  exact List.all_eq_true.1 hall n (List.mem_range.2 h)

theorem high_lt (byte : UInt8) : byte.toNat / 16 < 16 := by
  have := byte.toNat_lt
  omega

theorem low_lt (byte : UInt8) : byte.toNat % 16 < 16 := Nat.mod_lt _ (by omega)

/-- A byte is its high half times sixteen plus its low half. -/
theorem ofNat_halves (byte : UInt8) :
    UInt8.ofNat (16 * (byte.toNat / 16) + byte.toNat % 16) = byte := by
  rw [Nat.div_add_mod]
  exact UInt8.ofNat_toNat

/-! ### A text -/

@[simp] theorem encode_nil : encode [] = [] := rfl

@[simp] theorem encode_cons (byte : UInt8) (text : Bytes) :
    encode (byte :: text) =
      digit (byte.toNat / 16) :: digit (byte.toNat % 16) :: encode text := rfl

/-- **What was written is read back.** -/
theorem decode_encode (text : Bytes) : decode (encode text) = text := by
  unfold decode
  induction text with
  | nil => rfl
  | cons byte text ih =>
      rw [encode_cons, decodeFrom, value_digit (high_lt byte), decodeFrom,
        value_digit (low_lt byte)]
      simp only [ofNat_halves, ih]

/-- Two texts have different digits. -/
theorem encode_injective {a b : Bytes} (h : encode a = encode b) : a = b := by
  rw [← decode_encode a, h, decode_encode]

theorem length_encode (text : Bytes) : (encode text).length = 2 * text.length := by
  induction text with
  | nil => rfl
  | cons byte text ih =>
      rw [encode_cons, List.length_cons, List.length_cons, ih, List.length_cons]
      omega

theorem encode_eq_nil {text : Bytes} : encode text = [] ↔ text = [] := by
  constructor
  · intro h
    exact encode_injective (h.trans encode_nil.symm)
  · rintro rfl
    rfl

/-- What is written are small digits. -/
theorem mem_encode {text : Bytes} {c : UInt8} (h : c ∈ encode text) : isLowerDigit c = true := by
  induction text with
  | nil => simp at h
  | cons byte text ih =>
      rcases List.mem_cons.1 h with rfl | h
      · exact isLowerDigit_digit (high_lt byte)
      · rcases List.mem_cons.1 h with rfl | h
        · exact isLowerDigit_digit (low_lt byte)
        · exact ih h

/-- A small digit is one that is written. -/
theorem exists_digit_of_isLowerDigit {c : UInt8} (h : isLowerDigit c = true) :
    ∃ n < 16, digit n = c := by
  simp only [isLowerDigit, Bool.or_eq_true, Bool.and_eq_true, decide_eq_true_eq,
    UInt8.le_iff_toNat_le] at h
  rcases h with ⟨hlow, hhigh⟩ | ⟨hlow, hhigh⟩
  · have hbounds : 0x30 ≤ c.toNat ∧ c.toNat ≤ 0x39 := ⟨hlow, hhigh⟩
    refine ⟨c.toNat - 0x30, by omega, ?_⟩
    unfold digit
    rw [if_pos (by omega), Nat.add_sub_of_le hbounds.1, UInt8.ofNat_toNat]
  · have hbounds : 0x61 ≤ c.toNat ∧ c.toNat ≤ 0x66 := ⟨hlow, hhigh⟩
    refine ⟨c.toNat - 0x57, by omega, ?_⟩
    unfold digit
    rw [if_neg (by omega), Nat.add_sub_of_le (by omega), UInt8.ofNat_toNat]

/-- Two digits are one byte. -/
theorem decode_cons_cons {high low : ℕ} (hhigh : high < 16) (hlow : low < 16) (digits : Bytes) :
    decode (digit high :: digit low :: digits) =
      UInt8.ofNat (16 * high + low) :: decode digits := by
  unfold decode
  rw [decodeFrom, value_digit hhigh, decodeFrom, value_digit hlow]

/-- **Small digits in pairs are written as they were read.** -/
theorem encode_decode : ∀ {digits : Bytes}, (∀ c ∈ digits, isLowerDigit c = true) →
    digits.length % 2 = 0 → encode (decode digits) = digits
  | [], _, _ => rfl
  | [_], _, heven => by simp at heven
  | a :: b :: digits, hdigits, heven => by
      rw [List.forall_mem_cons, List.forall_mem_cons] at hdigits
      obtain ⟨high, hhigh, rfl⟩ := exists_digit_of_isLowerDigit hdigits.1
      obtain ⟨low, hlow, rfl⟩ := exists_digit_of_isLowerDigit hdigits.2.1
      have hbyte : (UInt8.ofNat (16 * high + low)).toNat = 16 * high + low := by
        rw [UInt8.toNat_ofNat']
        omega
      have hrest : encode (decode digits) = digits := by
        refine encode_decode hdigits.2.2 ?_
        rw [List.length_cons, List.length_cons] at heven
        omega
      rw [decode_cons_cons hhigh hlow, encode_cons, hbyte, hrest]
      congr 2
      · omega
      · congr 1
        omega

/-! ### Small letters -/

theorem lowerDigit_of_isLowerDigit {c : UInt8} (h : isLowerDigit c = true) : lowerDigit c = c := by
  unfold lowerDigit
  rw [if_neg]
  rintro ⟨hlow, hhigh⟩
  simp only [isLowerDigit, Bool.or_eq_true, Bool.and_eq_true, decide_eq_true_eq,
    UInt8.le_iff_toNat_le] at h hlow hhigh
  simp at h hlow hhigh
  omega

/-- Small letters stay as they are. -/
theorem lower_of_forall {text : Bytes} (h : ∀ c ∈ text, isLowerDigit c = true) :
    lower text = text := by
  induction text with
  | nil => rfl
  | cons c text ih =>
      rw [List.forall_mem_cons] at h
      rw [lower, List.map_cons, lowerDigit_of_isLowerDigit h.1]
      exact congrArg _ (ih h.2)

theorem lower_encode (text : Bytes) : lower (encode text) = encode text :=
  lower_of_forall fun _ hc => mem_encode hc

/-- A letter is made small, every other byte stays as it is. -/
theorem lowerDigit_cases (c : UInt8) :
    lowerDigit c = c ∨ (0x41 ≤ c.toNat ∧ c.toNat ≤ 0x46) ∧
      (lowerDigit c).toNat = c.toNat + 0x20 := by
  unfold lowerDigit
  split
  · next hcap =>
      simp only [UInt8.le_iff_toNat_le] at hcap
      refine Or.inr ⟨hcap, ?_⟩
      have hhigh : c.toNat ≤ 0x46 := hcap.2
      rw [UInt8.toNat_add]
      exact Nat.mod_eq_of_lt (by simp; omega)
  · exact Or.inl rfl

theorem value_lowerDigit (c : UInt8) : value (lowerDigit c) = value c := by
  rcases lowerDigit_cases c with h | ⟨hcap, h⟩
  · rw [h]
  · simp only [value, UInt8.le_iff_toNat_le, h]
    simp
    grind

/-- A letter is not a blank, whatever its size. -/
theorem lowerDigit_eq_iff {c blank : UInt8} (hblank : blank.toNat < 0x41) :
    lowerDigit c = blank ↔ c = blank := by
  rcases lowerDigit_cases c with h | ⟨hcap, h⟩
  · rw [h]
  · rw [← UInt8.toNat_inj, ← UInt8.toNat_inj, h]
    omega

/-- The size of the letters does not matter to the reader. -/
theorem decodeFrom_lower (high : Option ℕ) (digits : Bytes) :
    decodeFrom high (lower digits) = decodeFrom high digits := by
  induction digits generalizing high with
  | nil => rfl
  | cons c digits ih =>
      have hlower : lower (c :: digits) = lowerDigit c :: lower digits := rfl
      cases high with
      | none => rw [hlower, decodeFrom, decodeFrom, value_lowerDigit, ih]
      | some high =>
          rw [hlower, decodeFrom, decodeFrom, value_lowerDigit]
          simp only [ih, lowerDigit_eq_iff (by decide : (0x20 : UInt8).toNat < 0x41),
            lowerDigit_eq_iff (by decide : (0x09 : UInt8).toNat < 0x41),
            lowerDigit_eq_iff (by decide : (0x0a : UInt8).toNat < 0x41)]

theorem decode_lower (digits : Bytes) : decode (lower digits) = decode digits :=
  decodeFrom_lower none digits

end Hex
