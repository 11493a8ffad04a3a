/-
**Lines on a grid.**

A line from the origin to the point `(n, m)`, where `m ≤ n`, has one cell in every column: the cell
that is nearest to the ideal line, and the upper one of two cells that are equally near. An
algorithm that draws the line column by column needs no division. It keeps an error, and reads off
the double of the error whether the line rises.

Main definitions:

* `Raster.height` — the row of the cell in a column;
* `Raster.error` — the error that is kept;
* `Raster.cell`, `Raster.balance` — the cells of a line that may be steep, and the error with a
  sign.

Main results:

* `Raster.nearest`, `Raster.abs_cross_le` — the cells are nearest to the ideal line;
* `Raster.height_zero`, `Raster.height_self` — the line starts and ends in its end points;
* `Raster.height_succ` — **whether the line rises is read off the error**;
* `Raster.error_bounds`, `Raster.abs_balance_le` — the error is bounded;
* `Raster.cell_succ` — **where a line goes is read off the error in both directions**.
-/

import Mathlib.Tactic.Linarith
import Mathlib.Tactic.Ring

set_option relaxedAutoImplicit false
set_option autoImplicit false

namespace Raster

/-- The row of the cell in column `i` of the line to `(n, m)`. -/
def height (n m i : ℕ) : ℕ := (2 * m * i + n) / (2 * n)

/-- The error at the cell `(i, j)`. -/
def error (n m i j : ℕ) : ℤ := n * (j + 1) - m * (i + 1)

section

variable {n m : ℕ}

theorem height_eq_iff (hn : 0 < n) {i j : ℕ} :
    height n m i = j ↔ 2 * n * j ≤ 2 * m * i + n ∧ 2 * m * i < 2 * n * j + n := by
  have hcomm : 2 * n * j = j * (2 * n) := Nat.mul_comm _ _
  rw [height, Nat.div_eq_iff (by omega), hcomm]
  omega

/-- **The cell is nearest to the ideal line.** -/
theorem nearest (hn : 0 < n) (i : ℕ) :
    2 * n * height n m i ≤ 2 * m * i + n ∧ 2 * m * i < 2 * n * height n m i + n :=
  (height_eq_iff hn).1 rfl

/-- The line starts in the origin. -/
@[simp] theorem height_zero (n m : ℕ) : height n m 0 = 0 := by
  rcases Nat.eq_zero_or_pos n with rfl | hn
  · simp [height]
  · rw [height_eq_iff hn]
    omega

/-- The line ends in its end point. -/
theorem height_self (hle : m ≤ n) : height n m n = m := by
  rcases Nat.eq_zero_or_pos n with rfl | hn
  · rw [Nat.le_zero.1 hle, height_zero]
  · have hcomm : 2 * m * n = 2 * n * m := by ring
    rw [height_eq_iff hn, hcomm]
    omega

/-- The line does not fall. -/
theorem height_mono {i k : ℕ} (hik : i ≤ k) : height n m i ≤ height n m k :=
  Nat.div_le_div_right (Nat.add_le_add_right (Nat.mul_le_mul_left (2 * m) hik) n)

/-- The line does not rise above its end point. -/
theorem height_le (hle : m ≤ n) {i : ℕ} (hi : i ≤ n) : height n m i ≤ m :=
  (height_mono hi).trans_eq (height_self hle)

/-- The double of the error, by the distance of the cell from the ideal line. -/
theorem error_double (n m i j : ℕ) :
    2 * error n m i j = ((2 * n * j : ℕ) : ℤ) - ((2 * m * i : ℕ) : ℤ) + 2 * n - 2 * m := by
  rw [error]
  push_cast
  ring

/-- The error in the cell of a column is bounded, and its double is never so small that the column
is not left. -/
theorem error_bounds (hn : 0 < n) (hle : m ≤ n) (i : ℕ) :
    -(m : ℤ) ≤ 2 * error n m i (height n m i) ∧ 2 * error n m i (height n m i) ≤ 3 * n - 2 * m := by
  obtain ⟨hlow, hhigh⟩ := nearest (m := m) hn i
  rw [error_double]
  omega

/-- **Whether the line rises is read off the error.** -/
theorem height_succ (hn : 0 < n) (hle : m ≤ n) (i : ℕ) :
    height n m (i + 1) =
      height n m i + if 2 * error n m i (height n m i) ≤ n then 1 else 0 := by
  obtain ⟨hlow, hhigh⟩ := nearest (m := m) hn i
  have hcolumn : 2 * m * (i + 1) = 2 * m * i + 2 * m := Nat.mul_succ _ _
  rw [height_eq_iff hn, hcolumn, error_double]
  split
  next hrises =>
    have hrow : 2 * n * (height n m i + 1) = 2 * n * height n m i + 2 * n := Nat.mul_succ _ _
    rw [hrow]
    omega
  next hstays =>
    rw [Nat.add_zero]
    omega

end

/-! ### Steep lines -/

/-- The cell of the line from the origin to `(a, b)` after `i` steps. -/
def cell (a b i : ℕ) : ℕ × ℕ := if b ≤ a then (i, height a b i) else (height b a i, i)

/-- The error at a cell of the line to `(a, b)`. -/
def balance (a b : ℕ) (c : ℕ × ℕ) : ℤ := a * (c.2 + 1) - b * (c.1 + 1)

theorem balance_flat (a b i j : ℕ) : balance a b (i, j) = error a b i j := rfl

theorem balance_steep (a b i j : ℕ) : balance a b (j, i) = -error b a i j := by
  rw [balance, error]
  ring

variable {a b : ℕ}

@[simp] theorem cell_zero (a b : ℕ) : cell a b 0 = (0, 0) := by simp [cell]

theorem cell_max (a b : ℕ) : cell a b (max a b) = (a, b) := by
  rw [cell]
  split
  next hflat => rw [Nat.max_eq_left hflat, height_self hflat]
  next hsteep => rw [Nat.max_eq_right (by omega), height_self (by omega)]

/-- A line is not at its end before its last step. -/
theorem cell_ne {i : ℕ} (hi : i < max a b) : cell a b i ≠ (a, b) := by
  intro h
  rw [cell] at h
  split at h
  next hflat =>
    rw [Nat.max_eq_left hflat, ← (Prod.mk.inj h).1] at hi
    exact Nat.lt_irrefl i hi
  next hsteep =>
    rw [Nat.max_eq_right (by omega), ← (Prod.mk.inj h).2] at hi
    exact Nat.lt_irrefl i hi

/-- A line does not leave the rectangle between its end points. -/
theorem cell_le {i : ℕ} (hi : i ≤ max a b) : (cell a b i).1 ≤ a ∧ (cell a b i).2 ≤ b := by
  rw [cell]
  split
  next hflat =>
    rw [Nat.max_eq_left hflat] at hi
    exact ⟨hi, height_le hflat hi⟩
  next hsteep =>
    rw [Nat.max_eq_right (by omega)] at hi
    exact ⟨height_le (by omega) hi, hi⟩

/-- The error is bounded by the length of the line. -/
theorem abs_balance_le (i : ℕ) : |2 * balance a b (cell a b i)| ≤ 3 * (max a b : ℕ) := by
  rw [abs_le, cell]
  split
  next hflat =>
    rcases Nat.eq_zero_or_pos a with rfl | ha
    · obtain rfl := Nat.le_zero.1 hflat
      simp [balance]
    · have hbounds := error_bounds ha hflat i
      rw [Nat.max_eq_left hflat, balance_flat]
      omega
  next hsteep =>
    have hbounds := error_bounds (show 0 < b by omega) (show a ≤ b by omega) i
    rw [Nat.max_eq_right (by omega), balance_steep]
    omega

/-- **The cells of a line are nearest to the ideal line**, flat or steep. -/
theorem abs_cross_le (i : ℕ) :
    |2 * (((cell a b i).1 : ℤ) * b - (cell a b i).2 * a)| ≤ (max a b : ℕ) := by
  rw [abs_le, cell]
  split
  next hflat =>
    rcases Nat.eq_zero_or_pos a with rfl | ha
    · obtain rfl := Nat.le_zero.1 hflat
      simp
    · obtain ⟨hlow, hhigh⟩ := nearest (m := b) ha i
      have hcross : 2 * ((i : ℤ) * b - height a b i * a) =
          ((2 * b * i : ℕ) : ℤ) - ((2 * a * height a b i : ℕ) : ℤ) := by
        push_cast
        ring
      rw [Nat.max_eq_left hflat, hcross]
      omega
  next hsteep =>
    obtain ⟨hlow, hhigh⟩ := nearest (m := a) (show 0 < b by omega) i
    have hcross : 2 * ((height b a i : ℤ) * b - i * a) =
        ((2 * b * height b a i : ℕ) : ℤ) - ((2 * a * i : ℕ) : ℤ) := by
      push_cast
      ring
    rw [Nat.max_eq_right (by omega), hcross]
    omega

/-- **Where a line goes is read off the error in both directions.** -/
theorem cell_succ {i : ℕ} (hi : i < max a b) :
    cell a b (i + 1) =
      ((cell a b i).1 + if -(b : ℤ) ≤ 2 * balance a b (cell a b i) then 1 else 0,
        (cell a b i).2 + if 2 * balance a b (cell a b i) ≤ a then 1 else 0) := by
  rw [cell, cell]
  split
  next hflat =>
    rw [Nat.max_eq_left hflat] at hi
    have hbounds := error_bounds (show 0 < a by omega) hflat i
    rw [balance_flat, if_pos hbounds.1, height_succ (by omega) hflat]
  next hsteep =>
    have hbounds := error_bounds (show 0 < b by omega) (show a ≤ b by omega) i
    have hrises : -(b : ℤ) ≤ 2 * -error b a i (height b a i) ↔
        2 * error b a i (height b a i) ≤ b := by
      omega
    rw [balance_steep, height_succ (show 0 < b by omega) (by omega)]
    simp only [hrises]
    rw [if_pos (show 2 * -error b a i (height b a i) ≤ (a : ℤ) by omega)]

end Raster
