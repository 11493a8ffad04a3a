/-
**Signed arithmetic in which overflow is undefined.**

A signed number of `bits` bits is an integer in the range of its type. An operation has the exact
result of the integers where the type has it, and no result otherwise. A conversion from another
type keeps the residue modulo the number of values.

Main definitions:

* `Signed.Fits` — the integers of the type;
* `Signed.neg`, `Signed.add`, `Signed.sub`, `Signed.mul`, `Signed.abs` — the operations;
* `Signed.cast` — the conversion.

Main results:

* `Signed.neg_eq_none_iff` — the only number without a negation is the least one;
* `Signed.sub_of_nonneg` — differences that do not overflow;
* `Signed.cast_of_fits` — a conversion of a number that the type has.
-/

import Mathlib.Algebra.Order.Ring.Int
import Mathlib.Tactic.Ring

set_option relaxedAutoImplicit false
set_option autoImplicit false

namespace Signed

section

variable (bits : ℕ)

def least : ℤ := -2 ^ (bits - 1)

def greatest : ℤ := 2 ^ (bits - 1) - 1

def Fits (z : ℤ) : Prop := least bits ≤ z ∧ z ≤ greatest bits

instance (z : ℤ) : Decidable (Fits bits z) := inferInstanceAs (Decidable (_ ∧ _))

/-- The result of an operation, if the type has it. -/
def exact (z : ℤ) : Option ℤ := if Fits bits z then some z else none

def neg (a : ℤ) : Option ℤ := exact bits (-a)

def add (a b : ℤ) : Option ℤ := exact bits (a + b)

def sub (a b : ℤ) : Option ℤ := exact bits (a - b)

def mul (a b : ℤ) : Option ℤ := exact bits (a * b)

def abs (a : ℤ) : Option ℤ := exact bits |a|

def cast (z : ℤ) : ℤ := Int.bmod z (2 ^ bits)

end

variable {bits : ℕ} {a b : ℤ}

theorem exact_of_fits (h : Fits bits a) : exact bits a = some a := if_pos h

theorem least_eq : least bits = -(greatest bits + 1) := by
  rw [least, greatest, sub_add_cancel]

theorem greatest_nonneg : 0 ≤ greatest bits := by
  have hpow : (0 : ℤ) < 2 ^ (bits - 1) := pow_pos two_pos _
  rw [greatest]
  omega

/-- **The only number without a negation is the least one.** -/
theorem neg_eq_none_iff (h : Fits bits a) : neg bits a = none ↔ a = least bits := by
  obtain ⟨hleast, hgreatest⟩ := h
  have hrange := @least_eq bits
  have hnonneg := @greatest_nonneg bits
  rw [neg, exact]
  split
  next hfits =>
    obtain ⟨-, hle⟩ := hfits
    constructor
    · rintro ⟨⟩
    · omega
  next hfits =>
    refine ⟨?_, fun _ => rfl⟩
    intro _
    by_contra hne
    exact hfits ⟨by omega, by omega⟩

theorem neg_of_ne (h : Fits bits a) (hne : a ≠ least bits) : neg bits a = some (-a) := by
  have hnegated := mt (neg_eq_none_iff h).1 hne
  rw [neg, exact] at hnegated ⊢
  split
  · rfl
  next hfits => exact absurd (if_neg hfits) hnegated

/-- The difference of two numbers that are not negative. -/
theorem sub_of_nonneg (ha : Fits bits a) (hb : Fits bits b) (hpos : 0 ≤ a) (hpos' : 0 ≤ b) :
    sub bits a b = some (a - b) := by
  have hrange := @least_eq bits
  exact exact_of_fits ⟨by have := hb.2; omega, by have := ha.2; omega⟩

theorem fits_of_nonneg {n : ℕ} (h : (n : ℤ) ≤ greatest bits) : Fits bits n := by
  have hrange := @least_eq bits
  have hnonneg := @greatest_nonneg bits
  exact ⟨by omega, h⟩

/-- A conversion keeps a number that the type has. -/
theorem cast_of_fits (hbits : 0 < bits) (h : Fits bits a) : cast bits a = a := by
  have hhalf : (2 : ℕ) ^ bits = 2 * 2 ^ (bits - 1) := by
    rw [← Nat.pow_succ', Nat.succ_eq_add_one, Nat.sub_add_cancel hbits]
  have hcast : ((2 ^ (bits - 1) : ℕ) : ℤ) = 2 ^ (bits - 1) := by push_cast; rfl
  rw [Fits, least, greatest, ← hcast] at h
  rw [cast, hhalf]
  exact Int.bmod_eq_of_le (by omega) (by omega)

end Signed
