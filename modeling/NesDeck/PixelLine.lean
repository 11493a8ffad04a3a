/-
**Lines of the player.**

The music player draws the lines of its symbols point by point (`draw_pixel_line` in
`chiptune_deck.cpp`). The loop ends when both coordinates are those of the end point at the same
time. It keeps an error and compares its double with the two differences, and these are computed in
32 bits, where an overflow has no result.

Main definitions:

* `NesDeck.PixelLine.drawPixelLine` — the calls of `fill_rect`, if the loop ends within so many
  passes;
* `NesDeck.PixelLine.linePoint` — the points of the line, computed one by one.

Main results:

* `NesDeck.PixelLine.step_penAt` — one pass of the loop goes from one point to the next;
* `NesDeck.PixelLine.drawPixelLine_eq` — the loop draws the points of the line;
* `NesDeck.PixelLine.linePoint_near` — the points are nearest to the ideal line;
* `NesDeck.PixelLine.drawPixelLine_points` — **the loop ends after as many points as the line is
  long, from one end point to the other and from neighbour to neighbour**.
-/

import Mathlib.Algebra.Order.Ring.Abs
import NesDeck.Lib.Raster
import NesDeck.Lib.Signed
import NesDeck.MenuUi

set_option relaxedAutoImplicit false
set_option autoImplicit false

namespace NesDeck.PixelLine

open MenuUi (Fill)
open Raster

/-! ### The loop -/

/-- What the loop does not change. -/
structure Line where
  toX : ℤ
  toY : ℤ
  deltaX : ℤ
  stepX : ℤ
  deltaY : ℤ
  stepY : ℤ

/-- What the loop changes. -/
structure Pen where
  fromX : ℤ
  fromY : ℤ
  error : ℤ

/-- What is computed before the loop. -/
def startLine (fromX fromY toX toY : ℤ) : Option (Line × Pen) := do
  let deltaX ← (Signed.sub 32 toX fromX).bind (Signed.abs 32)
  let stepX := if fromX < toX then 1 else -1
  let distance ← (Signed.sub 32 toY fromY).bind (Signed.abs 32)
  let deltaY ← Signed.neg 32 distance
  let stepY := if fromY < toY then 1 else -1
  let error ← Signed.add 32 deltaX deltaY
  some (⟨toX, toY, deltaX, stepX, deltaY, stepY⟩, ⟨fromX, fromY, error⟩)

def Line.moveX (line : Line) (pen : Pen) : Option Pen := do
  let error ← Signed.add 32 pen.error line.deltaY
  let fromX ← Signed.add 32 pen.fromX line.stepX
  some ⟨fromX, pen.fromY, error⟩

def Line.moveY (line : Line) (pen : Pen) : Option Pen := do
  let error ← Signed.add 32 pen.error line.deltaX
  let fromY ← Signed.add 32 pen.fromY line.stepY
  some ⟨pen.fromX, fromY, error⟩

/-- A pass of the loop that does not end it. -/
def Line.step (line : Line) (pen : Pen) : Option Pen := do
  let doubledError ← Signed.mul 32 pen.error 2
  let pen ← if line.deltaY ≤ doubledError then line.moveX pen else some pen
  if doubledError ≤ line.deltaX then line.moveY pen else some pen

/-- The call of `fill_rect` for a point. -/
def plot (thickness : ℤ) (color : UInt16) (point : ℤ × ℤ) : Fill :=
  ⟨⟨point.1, point.2, thickness, thickness⟩, color⟩

/-- At most so many passes of the loop. -/
def Line.draw (line : Line) (thickness : ℤ) (color : UInt16) : ℕ → Pen → Option (List Fill)
  | 0, _ => none
  | passes + 1, pen =>
      let fill := plot thickness color (pen.fromX, pen.fromY)
      if pen.fromX = line.toX ∧ pen.fromY = line.toY then some [fill]
      else do
        let pen ← line.step pen
        let fills ← line.draw thickness color passes pen
        some (fill :: fills)

/-- `draw_pixel_line`: the calls of `fill_rect`, if the loop ends within so many passes. -/
def drawPixelLine (passes : ℕ) (fromX fromY toX toY thickness : ℤ) (color : UInt16) :
    Option (List Fill) := do
  let (line, pen) ← startLine fromX fromY toX toY
  line.draw thickness color passes pen

/-! ### Points -/

/-- A pair of coordinates of type `int`. -/
structure EndPoint where
  x : ℤ
  y : ℤ
  fits_x : Signed.Fits 32 x
  fits_y : Signed.Fits 32 y

def direction (first last : ℤ) : ℤ := if first < last then 1 else -1

section

variable (first last : EndPoint)

def dx : ℕ := (last.x - first.x).natAbs

def dy : ℕ := (last.y - first.y).natAbs

/-- The point that a cell of the line from the origin to `(dx, dy)` stands for. -/
def pointAt (c : ℕ × ℕ) : ℤ × ℤ :=
  (first.x + direction first.x last.x * c.1, first.y + direction first.y last.y * c.2)

/-- The point of the line after `i` steps. -/
def linePoint (i : ℕ) : ℤ × ℤ := pointAt first last (cell (dx first last) (dy first last) i)

/-- The points of the line, from one end point to the other. -/
def linePoints : List (ℤ × ℤ) :=
  (List.range (max (dx first last) (dy first last) + 1)).map (linePoint first last)

def lineOf : Line :=
  ⟨last.x, last.y, dx first last, direction first.x last.x, -dy first last,
    direction first.y last.y⟩

/-- The pen at a cell. -/
def penAt (c : ℕ × ℕ) : Pen :=
  ⟨(pointAt first last c).1, (pointAt first last c).2, balance (dx first last) (dy first last) c⟩

end

/-- Two points are neighbours, also over a corner. -/
def Adjacent (p q : ℤ × ℤ) : Prop := p ≠ q ∧ |q.1 - p.1| ≤ 1 ∧ |q.2 - p.2| ≤ 1

/-! ### Coordinates -/

theorem fits_iff {z : ℤ} : Signed.Fits 32 z ↔ -2147483648 ≤ z ∧ z ≤ 2147483647 := by
  simp [Signed.Fits, Signed.least, Signed.greatest]

/-- All steps together go from the first coordinate to the last. -/
theorem direction_mul_natAbs (first last : ℤ) :
    direction first last * ((last - first).natAbs : ℤ) = last - first := by
  rw [direction]
  split <;> omega

/-- A coordinate between two others is one of the type. -/
theorem fits_between {first last : ℤ} (hfirst : Signed.Fits 32 first)
    (hlast : Signed.Fits 32 last) {n : ℕ}
    (hn : n ≤ (last - first).natAbs) : Signed.Fits 32 (first + direction first last * n) := by
  rw [fits_iff] at hfirst hlast ⊢
  rw [direction]
  split <;> omega

section

variable {first last : EndPoint}

theorem pointAt_last : pointAt first last (dx first last, dy first last) = (last.x, last.y) := by
  rw [pointAt, dx, dy, direction_mul_natAbs, direction_mul_natAbs]
  simp

/-- Two cells stand for different points. -/
theorem pointAt_injective : Function.Injective (pointAt first last) := by
  rintro ⟨i, j⟩ ⟨i', j'⟩ h
  simp only [pointAt, Prod.mk.injEq, direction] at h
  refine Prod.ext ?_ ?_
  · have hx := h.1
    split at hx <;> · dsimp only; omega
  · have hy := h.2
    split at hy <;> · dsimp only; omega

/-! ### One pass -/

/-- What is computed before the loop. -/
theorem startLine_eq (hx : dx first last < 2 ^ 29) (hy : dy first last < 2 ^ 29) :
    startLine first.x first.y last.x last.y =
      some (lineOf first last, penAt first last (0, 0)) := by
  have habsX : |last.x - first.x| = dx first last := Int.abs_eq_natAbs _
  have habsY : |last.y - first.y| = dy first last := Int.abs_eq_natAbs _
  have hsubX : Signed.Fits 32 (last.x - first.x) := fits_iff.2 (by rw [dx] at hx; omega)
  have hsubY : Signed.Fits 32 (last.y - first.y) := fits_iff.2 (by rw [dy] at hy; omega)
  have hdeltaX : Signed.Fits 32 (dx first last : ℤ) := fits_iff.2 (by omega)
  have hdistance : Signed.Fits 32 (dy first last : ℤ) := fits_iff.2 (by omega)
  have hdeltaY : Signed.Fits 32 (-(dy first last : ℤ)) := fits_iff.2 (by omega)
  have herror : Signed.Fits 32 ((dx first last : ℤ) + -dy first last) := fits_iff.2 (by omega)
  have hpen : penAt first last (0, 0) =
      ⟨first.x, first.y, (dx first last : ℤ) + -dy first last⟩ := by
    simp [penAt, pointAt, balance, sub_eq_add_neg]
  rw [hpen]
  simp only [startLine, Signed.sub, Signed.abs, Signed.neg, Signed.add, Signed.exact_of_fits hsubX,
    Signed.exact_of_fits hsubY, Option.bind_eq_bind, Option.bind_some, habsX, habsY,
    Signed.exact_of_fits hdeltaX, Signed.exact_of_fits hdistance, Signed.exact_of_fits hdeltaY,
    Signed.exact_of_fits herror]
  rfl

theorem moveX_penAt {c : ℕ × ℕ} (hc : c.1 + 1 ≤ dx first last)
    (hfits : Signed.Fits 32 (balance (dx first last) (dy first last) c - dy first last)) :
    (lineOf first last).moveX (penAt first last c) = some (penAt first last (c.1 + 1, c.2)) := by
  have hpoint : (pointAt first last c).1 + direction first.x last.x =
      (pointAt first last (c.1 + 1, c.2)).1 := by
    simp only [pointAt]
    push_cast
    ring
  have hbalance : balance (dx first last) (dy first last) c + -dy first last =
      balance (dx first last) (dy first last) (c.1 + 1, c.2) := by
    simp only [balance]
    push_cast
    ring
  have hmoved : Signed.Fits 32 (pointAt first last (c.1 + 1, c.2)).1 :=
    fits_between first.fits_x last.fits_x hc
  rw [sub_eq_add_neg, hbalance] at hfits
  simp only [Line.moveX, lineOf, penAt, Signed.add, hbalance, hpoint, Signed.exact_of_fits hfits,
    Signed.exact_of_fits hmoved]
  rfl

theorem moveY_penAt {c : ℕ × ℕ} (hc : c.2 + 1 ≤ dy first last)
    (hfits : Signed.Fits 32 (balance (dx first last) (dy first last) c + dx first last)) :
    (lineOf first last).moveY (penAt first last c) = some (penAt first last (c.1, c.2 + 1)) := by
  have hpoint : (pointAt first last c).2 + direction first.y last.y =
      (pointAt first last (c.1, c.2 + 1)).2 := by
    simp only [pointAt]
    push_cast
    ring
  have hbalance : balance (dx first last) (dy first last) c + dx first last =
      balance (dx first last) (dy first last) (c.1, c.2 + 1) := by
    simp only [balance]
    push_cast
    ring
  have hmoved : Signed.Fits 32 (pointAt first last (c.1, c.2 + 1)).2 :=
    fits_between first.fits_y last.fits_y hc
  rw [hbalance] at hfits
  simp only [Line.moveY, lineOf, penAt, Signed.add, hbalance, hpoint, Signed.exact_of_fits hfits,
    Signed.exact_of_fits hmoved]
  rfl

/-- What a test decides about the second coordinate. -/
theorem moveY_if {c : ℕ × ℕ} (p : Prop) [Decidable p] (hc : p → c.2 + 1 ≤ dy first last)
    (hfits : Signed.Fits 32 (balance (dx first last) (dy first last) c + dx first last)) :
    (if p then (lineOf first last).moveY (penAt first last c) else some (penAt first last c)) =
      some (penAt first last (c.1, c.2 + if p then 1 else 0)) := by
  split
  next hp => exact moveY_penAt (hc hp) hfits
  next => rfl

/-- **One pass of the loop goes from one cell to the next.** -/
theorem step_penAt (hx : dx first last < 2 ^ 29) (hy : dy first last < 2 ^ 29) {i : ℕ}
    (hi : i < max (dx first last) (dy first last)) :
    (lineOf first last).step (penAt first last (cell (dx first last) (dy first last) i)) =
      some (penAt first last (cell (dx first last) (dy first last) (i + 1))) := by
  have hle := cell_le (Nat.succ_le_of_lt hi)
  have hbounds := abs_le.1 (abs_balance_le (a := dx first last) (b := dy first last) i)
  rw [cell_succ hi] at hle ⊢
  generalize cell (dx first last) (dy first last) i = c at *
  generalize hb : balance (dx first last) (dy first last) c = e at *
  have hdoubled : Signed.mul 32 (penAt first last c).error 2 = some (2 * e) := by
    rw [Signed.mul, penAt, hb, mul_comm]
    exact Signed.exact_of_fits (fits_iff.2 (show _ ≤ 2 * e ∧ 2 * e ≤ _ by omega))
  have hrise : 2 * e ≤ dx first last → c.2 + 1 ≤ dy first last := by
    intro hrise
    simpa [if_pos hrise] using hle.2
  rw [Line.step, hdoubled, Option.bind_eq_bind, Option.bind_some]
  by_cases hmove : -(dy first last : ℤ) ≤ 2 * e
  · rw [if_pos hmove] at hle ⊢
    have hmoved : balance (dx first last) (dy first last) (c.1 + 1, c.2) = e - dy first last := by
      rw [← hb]
      simp only [balance]
      push_cast
      ring
    rw [if_pos (show (lineOf first last).deltaY ≤ 2 * e from hmove),
      moveX_penAt hle.1 (fits_iff.2 (by rw [hb]; omega))]
    exact moveY_if _ hrise (fits_iff.2 (by rw [hmoved]; omega))
  · rw [if_neg hmove, if_neg (show ¬(lineOf first last).deltaY ≤ 2 * e from hmove)]
    exact moveY_if _ hrise (fits_iff.2 (by rw [hb]; omega))

/-! ### All passes -/

variable (thickness : ℤ) (color : UInt16)

/-- The rest of the loop draws the rest of the points. -/
theorem draw_penAt (hx : dx first last < 2 ^ 29) (hy : dy first last < 2 ^ 29) {passes i : ℕ}
    (hi : i ≤ max (dx first last) (dy first last))
    (hpasses : max (dx first last) (dy first last) < i + passes) :
    (lineOf first last).draw thickness color passes
        (penAt first last (cell (dx first last) (dy first last) i)) =
      some ((List.range' i (max (dx first last) (dy first last) - i + 1)).map fun k =>
        plot thickness color (linePoint first last k)) := by
  induction passes generalizing i with
  | zero => omega
  | succ passes ih =>
      rcases hi.eq_or_lt with rfl | hlt
      · rw [Line.draw, if_pos]
        · simp [penAt, linePoint]
        · rw [penAt, cell_max, pointAt_last]
          exact ⟨rfl, rfl⟩
      · have hne :
            ¬((penAt first last (cell (dx first last) (dy first last) i)).fromX =
              (lineOf first last).toX ∧
              (penAt first last (cell (dx first last) (dy first last) i)).fromY =
              (lineOf first last).toY) := by
          intro hend
          have hpoint : pointAt first last (cell (dx first last) (dy first last) i) =
              pointAt first last (dx first last, dy first last) := by
            rw [pointAt_last]
            exact Prod.ext hend.1 hend.2
          exact cell_ne hlt (pointAt_injective hpoint)
        have hcount : max (dx first last) (dy first last) - i =
            max (dx first last) (dy first last) - (i + 1) + 1 := by
          omega
        rw [Line.draw, if_neg hne, step_penAt hx hy hlt, Option.bind_eq_bind, Option.bind_some,
          ih hlt (by omega), hcount, List.range'_succ (s := i)]
        rfl

/-- **The loop draws the points of the line**, if it may take as many passes as there are points. -/
theorem drawPixelLine_eq (hx : dx first last < 2 ^ 29) (hy : dy first last < 2 ^ 29) {passes : ℕ}
    (hpasses : max (dx first last) (dy first last) < passes) :
    drawPixelLine passes first.x first.y last.x last.y thickness color =
      some ((linePoints first last).map (plot thickness color)) := by
  have hdraw := draw_penAt thickness color hx hy (i := 0) (Nat.zero_le _) (by rwa [Nat.zero_add])
  rw [cell_zero] at hdraw
  rw [drawPixelLine, startLine_eq hx hy, Option.bind_eq_bind, Option.bind_some]
  dsimp only
  rw [hdraw, linePoints, List.map_map, List.range_eq_range', Nat.sub_zero]
  rfl

/-- One step goes to a neighbour. -/
theorem adjacent_linePoint {i : ℕ} (hi : i < max (dx first last) (dy first last)) :
    Adjacent (linePoint first last i) (linePoint first last (i + 1)) := by
  have hsucc := cell_succ hi
  rw [linePoint, linePoint]
  generalize cell (dx first last) (dy first last) i = c at *
  generalize cell (dx first last) (dy first last) (i + 1) = c' at *
  generalize balance (dx first last) (dy first last) c = e at *
  obtain rfl := hsucc
  -- the two tests cannot both fail
  have hsome : -(dy first last : ℤ) ≤ 2 * e ∨ 2 * e ≤ dx first last := by omega
  refine ⟨pointAt_injective.ne ?_, ?_, ?_⟩
  · intro heq
    obtain ⟨hx, hy⟩ := Prod.mk.inj heq
    rcases hsome with hmove | hrise
    · simp [hmove] at hx
    · simp [hrise] at hy
  · simp only [pointAt, direction, abs_le]
    split <;> split <;> · push_cast; omega
  · simp only [pointAt, direction, abs_le]
    split <;> split <;> · push_cast; omega

theorem linePoints_isChain : (linePoints first last).IsChain Adjacent := by
  rw [List.isChain_iff_getElem]
  intro i hi
  simp only [linePoints, List.length_map, List.length_range] at hi
  simp only [linePoints, List.getElem_map, List.getElem_range]
  exact adjacent_linePoint (by omega)

/-- **The points are nearest to the ideal line** between the end points. -/
theorem linePoint_near (i : ℕ) :
    |2 * (((linePoint first last i).1 - first.x) * (last.y - first.y) -
        ((linePoint first last i).2 - first.y) * (last.x - first.x))| ≤
      (max (dx first last) (dy first last) : ℕ) := by
  have hcross : ((linePoint first last i).1 - first.x) * (last.y - first.y) -
        ((linePoint first last i).2 - first.y) * (last.x - first.x) =
      direction first.x last.x * direction first.y last.y *
        (((cell (dx first last) (dy first last) i).1 : ℤ) * dy first last -
          (cell (dx first last) (dy first last) i).2 * dx first last) := by
    rw [← direction_mul_natAbs first.x last.x, ← direction_mul_natAbs first.y last.y]
    simp only [linePoint, pointAt, dx, dy]
    ring
  have hsign : |direction first.x last.x * direction first.y last.y| = 1 := by
    simp only [direction]
    split <;> split <;> rfl
  rw [hcross, mul_left_comm, abs_mul, hsign, one_mul]
  exact abs_cross_le i

end

/-- **The loop of `draw_pixel_line` ends** for all end points whose coordinates differ by less than
`2 ^ 29`. No number overflows, the points are as many as the larger difference and one, the first
and the last are the end points, and each point is a neighbour of the one before it. -/
theorem drawPixelLine_points (first last : EndPoint) (thickness : ℤ) (color : UInt16)
    (hx : |last.x - first.x| < 2 ^ 29) (hy : |last.y - first.y| < 2 ^ 29) :
    ∃ points : List (ℤ × ℤ),
      (∀ passes : ℕ, max |last.x - first.x| |last.y - first.y| < passes →
        drawPixelLine passes first.x first.y last.x last.y thickness color =
          some (points.map (plot thickness color))) ∧
      (points.length : ℤ) = max |last.x - first.x| |last.y - first.y| + 1 ∧
      points.head? = some (first.x, first.y) ∧ points.getLast? = some (last.x, last.y) ∧
      points.IsChain Adjacent := by
  have habsX : |last.x - first.x| = dx first last := Int.abs_eq_natAbs _
  have habsY : |last.y - first.y| = dy first last := Int.abs_eq_natAbs _
  rw [habsX] at hx
  rw [habsY] at hy
  refine ⟨linePoints first last, ?_, ?_, ?_, ?_, linePoints_isChain⟩
  · intro passes hpasses
    rw [habsX, habsY, ← Nat.cast_max, Nat.cast_lt] at hpasses
    exact drawPixelLine_eq thickness color (by omega) (by omega) hpasses
  · simp [linePoints, habsX, habsY]
  · simp [linePoints, List.head?_range, linePoint, pointAt]
  · simp [linePoints, List.getLast?_range, linePoint, cell_max, pointAt_last]

/-- A steep line to the left. -/
theorem drawPixelLine_points_steep :
    ∃ points : List (ℤ × ℤ),
      drawPixelLine 6 10 20 8 25 2 7 = some (points.map (plot 2 7)) ∧ points.length = 6 ∧
        points.head? = some (10, 20) ∧ points.getLast? = some (8, 25) := by
  obtain ⟨points, hdraw, hlength, hhead, hlast, -⟩ :=
    drawPixelLine_points ⟨10, 20, by decide, by decide⟩ ⟨8, 25, by decide, by decide⟩ 2 7
      (by decide) (by decide)
  exact ⟨points, hdraw 6 (by decide), Int.ofNat_inj.1 (hlength.trans (by decide)), hhead, hlast⟩

end NesDeck.PixelLine
