/-
**Converting a signal from one rate to another.**

A converter that is fed in pieces takes from every piece as many whole units as there are, and
carries what is left to the next piece: nothing is lost, and how the signal was cut does not show.
Between two values it interpolates: to the first it adds the part of the difference that a phase
stands for, in numbers that wrap around.

Main definitions:

* `RateConversion.carried` — the units that are taken from each of some amounts, and what is left;
* `RateConversion.share` — the part of a difference, out of `base` parts, on a wheel of
  `base * base` numbers.

Main results:

* `RateConversion.sum_carried` — **the units that are taken are as many as the sum of all amounts
  has**;
* `RateConversion.between_iff` — **an interpolated value lies between the two values exactly when
  the product does not wrap around**;
* `RateConversion.share_modEq` — a product that wraps around changes the value by a multiple of the
  base.
-/

import Mathlib.Data.Int.ModEq
import Mathlib.Algebra.Order.Ring.Abs
import Mathlib.Algebra.Order.Ring.Int
import Mathlib.Algebra.BigOperators.Group.List.Basic
import Mathlib.Data.Nat.Prime.Basic

set_option relaxedAutoImplicit false
set_option autoImplicit false

namespace RateConversion

/-! ### Division with a carried remainder -/

/-- The units taken from each of the amounts, what is left being carried, and what is left at the
end. -/
def carried (unit : ℕ) : (rest : ℕ) → List ℕ → List ℕ × ℕ
  | rest, [] => ([], rest)
  | rest, amount :: amounts =>
      let next := carried unit ((amount + rest) % unit) amounts
      ((amount + rest) / unit :: next.1, next.2)

variable {unit rest : ℕ}

/-- Nothing is lost. -/
theorem carried_balance (amounts : List ℕ) :
    unit * (carried unit rest amounts).1.sum + (carried unit rest amounts).2 =
      amounts.sum + rest := by
  induction amounts generalizing rest with
  | nil =>
      rw [carried, List.sum_nil, Nat.mul_zero]
  | cons amount amounts ih =>
      have htail := @ih ((amount + rest) % unit)
      have hhead := Nat.div_add_mod (amount + rest) unit
      rw [carried, List.sum_cons, List.sum_cons, Nat.mul_add]
      omega

/-- What is left is less than a unit. -/
theorem snd_carried_lt (hrest : rest < unit) (amounts : List ℕ) :
    (carried unit rest amounts).2 < unit := by
  induction amounts generalizing rest with
  | nil => exact hrest
  | cons amount amounts ih => exact ih (Nat.mod_lt _ (Nat.zero_lt_of_lt hrest))

/-- **The units are those of the sum of all amounts.** -/
theorem sum_carried (hrest : rest < unit) (amounts : List ℕ) :
    (carried unit rest amounts).1.sum = (amounts.sum + rest) / unit := by
  have hpositive := Nat.zero_lt_of_lt hrest
  rw [← carried_balance amounts, Nat.mul_add_div hpositive,
    Nat.div_eq_of_lt (snd_carried_lt hrest _),
    Nat.add_zero]

/-- What is taken from the first amounts does not depend on the later ones. -/
theorem fst_carried_append (before after : List ℕ) :
    (carried unit rest (before ++ after)).1 =
      (carried unit rest before).1 ++ (carried unit (carried unit rest before).2 after).1 := by
  induction before generalizing rest with
  | nil => rfl
  | cons amount before ih => exact congrArg (List.cons _) ih

/-! ### Interpolation on a wheel -/

variable {base : ℕ} {first difference phase : ℤ}

/-- The part of a difference that a phase out of `base` stands for. The product is taken on a wheel
of `base * base` numbers, with as many below zero as above. -/
def share (base : ℕ) (difference phase : ℤ) : ℤ :=
  (difference * phase).bmod (base * base) / base

/-- The product wraps around by a multiple of the base. -/
theorem share_eq (hbase : 0 < base) :
    share base difference phase =
      difference * phase / base - base * (difference * phase).bdiv (base * base) := by
  have hne : (base : ℤ) ≠ 0 := by omega
  rw [share, Int.bmod_eq_self_sub_mul_bdiv, Nat.cast_mul, Int.mul_assoc,
    Int.sub_mul_ediv_left _ _ hne]

/-- It is the part of the difference up to a multiple of the base. -/
theorem share_modEq (hbase : 0 < base) :
    share base difference phase ≡ difference * phase / base [ZMOD base] := by
  rw [share_eq hbase]
  exact (Int.modEq_iff_dvd.2 ⟨_, by rw [sub_sub_cancel]⟩)

/-- The product does not wrap around. -/
def Fits (base : ℕ) (difference phase : ℤ) : Prop :=
  (difference * phase).bmod (base * base) = difference * phase

/-- A part of a difference lies between nothing and all of it. -/
theorem part_between (hbase : 0 < base) (hphase : 0 ≤ phase ∧ phase < base) :
    min 0 difference ≤ difference * phase / base ∧
      difference * phase / base ≤ max 0 difference := by
  have hpositive : (0 : ℤ) < base := by omega
  rcases le_total 0 difference with hdifference | hdifference
  · rw [min_eq_left hdifference, max_eq_right hdifference]
    refine ⟨Int.ediv_nonneg (Int.mul_nonneg hdifference hphase.1) hpositive.le, ?_⟩
    exact Int.ediv_le_of_le_mul hpositive (Int.mul_le_mul_of_nonneg_left hphase.2.le hdifference)
  · rw [min_eq_right hdifference, max_eq_left hdifference]
    have hproduct : difference * phase ≤ 0 :=
      Int.mul_nonpos_of_nonpos_of_nonneg hdifference hphase.1
    refine ⟨?_, Int.ediv_le_of_le_mul hpositive (by rwa [Int.zero_mul])⟩
    rw [Int.le_ediv_iff_mul_le hpositive]
    exact Int.mul_le_mul_of_nonpos_left hdifference hphase.2.le

/-- **An interpolated value lies between the two values exactly when the product does not wrap
around.** -/
theorem between_iff (hdifference : |difference| < base) (hphase : 0 ≤ phase ∧ phase < base) :
    min first (first + difference) ≤ first + share base difference phase ∧
      first + share base difference phase ≤ max first (first + difference) ↔
    Fits base difference phase := by
  have hbase : 0 < base := by
    have := abs_nonneg difference
    omega
  obtain ⟨hlower, hupper⟩ := @part_between _ difference _ hbase hphase
  have hmin : min first (first + difference) = first + min 0 difference := by
    rw [← min_add_add_left, add_zero]
  have hmax : max first (first + difference) = first + max 0 difference := by
    rw [← max_add_add_left, add_zero]
  rw [hmin, hmax, Int.add_le_add_iff_left, Int.add_le_add_iff_left, share_eq hbase, Fits,
    Int.bmod_eq_self_sub_mul_bdiv]
  generalize (difference * phase).bdiv (base * base) = turns
  -- A turn leads further away than the difference is wide.
  have hwide := abs_lt.1 hdifference
  constructor
  · rintro ⟨habove, hbelow⟩
    have hzero : turns = 0 := by
      rcases Int.lt_trichotomy turns 0 with hturns | hturns | hturns
      · have hturn : (base : ℤ) * turns ≤ base * (-1) :=
          Int.mul_le_mul_of_nonneg_left (by omega) (by omega)
        omega
      · exact hturns
      · have hturn : (base : ℤ) * 1 ≤ base * turns :=
          Int.mul_le_mul_of_nonneg_left (by omega) (by omega)
        omega
    rw [hzero, Int.mul_zero, Int.sub_zero]
  · intro hfits
    have hproduct : ((base * base : ℕ) : ℤ) * turns = 0 := by omega
    have hsquare : ((base * base : ℕ) : ℤ) ≠ 0 := by
      have := Nat.mul_pos hbase hbase
      omega
    have hzero : turns = 0 := (Int.mul_eq_zero.1 hproduct).resolve_left hsquare
    rw [hzero, Int.mul_zero, Int.sub_zero]
    exact ⟨hlower, hupper⟩

/-- Two numbers of so many bits do not multiply to the power of two halfway round the wheel. -/
theorem mul_ne_two_pow {bits a b : ℕ} (ha : a < 2 ^ bits) (hb : b < 2 ^ bits) :
    a * b ≠ 2 ^ (2 * bits - 1) := by
  intro heq
  obtain ⟨i, -, rfl⟩ := (Nat.dvd_prime_pow Nat.prime_two).1 (Dvd.intro b heq)
  obtain ⟨j, -, rfl⟩ := (Nat.dvd_prime_pow Nat.prime_two).1 (Dvd.intro_left (2 ^ i) heq)
  have hi := (Nat.pow_lt_pow_iff_right (by omega)).1 ha
  have hj := (Nat.pow_lt_pow_iff_right (by omega)).1 hb
  rw [← Nat.pow_add] at heq
  have hsum := Nat.pow_right_injective (le_refl 2) heq
  omega

/-- The product does not wrap around as long as it is smaller than half of the wheel. -/
theorem fits_iff {bits : ℕ} (hbits : 0 < bits) (hdifference : |difference| < (2 ^ bits : ℕ))
    (hphase : 0 ≤ phase ∧ phase < (2 ^ bits : ℕ)) :
    Fits (2 ^ bits) difference phase ↔ |difference| * phase < (2 ^ (2 * bits - 1) : ℕ) := by
  have hwheel : 2 ^ bits * 2 ^ bits = 2 * 2 ^ (2 * bits - 1) := by
    rw [← Nat.pow_add, ← Nat.pow_succ']
    congr 1
    omega
  have habs : |difference| * phase = |difference * phase| := by
    rw [abs_mul, abs_of_nonneg hphase.1]
  have hne : |difference * phase| ≠ (2 ^ (2 * bits - 1) : ℕ) := by
    intro heq
    have hnat := congrArg Int.natAbs heq
    rw [Int.natAbs_abs, Int.natAbs_mul, Int.natAbs_natCast] at hnat
    have hwide := abs_lt.1 hdifference
    exact mul_ne_two_pow (by omega) (by omega) hnat
  have hhalf := Nat.two_pow_pos (2 * bits - 1)
  rw [habs, Fits, hwheel]
  generalize difference * phase = product at hne ⊢
  generalize 2 ^ (2 * bits - 1) = half at hne hhalf ⊢
  constructor
  · intro hfits
    have hwheel : 0 < 2 * half := Nat.mul_pos (by decide) hhalf
    have hlower := @Int.le_bmod product _ hwheel
    have hupper := @Int.bmod_lt product _ hwheel
    rw [hfits] at hlower hupper
    rcases abs_cases product with ⟨heq, -⟩ | ⟨heq, -⟩
    · omega
    · omega
  · intro hsmall
    have hrange := abs_lt.1 hsmall
    exact Int.bmod_eq_of_le_mul_two (by omega) (by omega)

end RateConversion
