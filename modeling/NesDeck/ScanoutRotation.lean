/-
**The turned canvas of the menu.**

The menu draws on a canvas of 1280 by 480 pixels. The panel is scanned in portrait, in rows of at
least 600 words of which the first 480 are shown, so that the canvas is turned on its way to the
panel, and turned back when the menu takes over what another program left there.

Main definitions:

* `NesDeck.ScanoutRotation.stageCanvasForScanout`, `NesDeck.ScanoutRotation.readScanoutIntoCanvas` —
  the two loops;
* `NesDeck.ScanoutRotation.scanoutCell`, `NesDeck.ScanoutRotation.canvasPixel` — where a pixel goes,
  and where it comes from.

Main results:

* `NesDeck.ScanoutRotation.scanoutCell_bijOn` — **the pixels of the canvas are the cells that are
  shown**, one by one;
* `NesDeck.ScanoutRotation.scanout_round_trip` — **what is staged is read back**, and no other word
  of the frame is touched.
-/

import Mathlib.Data.Set.Function
import NesDeck.Framebuffer

set_option relaxedAutoImplicit false
set_option autoImplicit false

namespace NesDeck.ScanoutRotation

open DeckFramebuffer (kLogicalWidth kLogicalHeight kPhysicalWidth kPhysicalHeight)
open Painting

/-! ### The loops -/

/-- `stage_canvas_for_scanout`: the frame, if the canvas can be staged. -/
def stageCanvasForScanout (canvas : List UInt16) (rowWords : ℕ) (frame : List UInt16) :
    Option (List UInt16) :=
  if canvas.length ≠ kLogicalWidth * kLogicalHeight ∨ rowWords < kPhysicalWidth ∨
      frame.length < rowWords * kPhysicalHeight then none
  else
    some (loop kLogicalWidth (fun logicalX frame =>
      let physicalRow := kPhysicalHeight - 1 - logicalX
      let destination := physicalRow * rowWords
      loop kLogicalHeight (fun logicalY frame =>
        frame.put (destination + logicalY) (canvas.getD (logicalY * kLogicalWidth + logicalX) 0))
          frame)
      (⟨frame, []⟩ : Canvas UInt16)).cells

/-- `read_scanout_into_canvas`: the canvas, from the words at a pointer. -/
def readScanoutIntoCanvas (frame : ℕ → UInt16) (rowWords : ℕ) (canvas : List UInt16) :
    Option (List UInt16) :=
  if rowWords < kPhysicalWidth then none
  else
    let canvas := canvas.takeD (kLogicalWidth * kLogicalHeight) 0
    some (loop kLogicalWidth (fun logicalX canvas =>
      let source := (kPhysicalHeight - 1 - logicalX) * rowWords
      loop kLogicalHeight (fun logicalY canvas =>
        canvas.put (logicalY * kLogicalWidth + logicalX) (frame (source + logicalY))) canvas)
      (⟨canvas, []⟩ : Canvas UInt16)).cells

/-! ### Pixels and cells -/

/-- The cell of the frame that a pixel of the canvas is staged in. -/
def scanoutCell (rowWords pixel : ℕ) : ℕ :=
  (kPhysicalHeight - 1 - pixel % kLogicalWidth) * rowWords + pixel / kLogicalWidth

/-- The pixel of the canvas that a cell of the frame shows. -/
def canvasPixel (rowWords cell : ℕ) : ℕ :=
  cell % rowWords * kLogicalWidth + (kPhysicalHeight - 1 - cell / rowWords)

/-- The cells that are shown: the first 480 columns of the 1280 rows. -/
def Shown (rowWords cell : ℕ) : Prop :=
  ∃ row < kPhysicalHeight, ∃ column < kLogicalHeight, cell = row * rowWords + column

theorem scanoutCell_pixel (rowWords : ℕ) {x : ℕ} (hx : x < kLogicalWidth) (y : ℕ) :
    scanoutCell rowWords (y * kLogicalWidth + x) = (kPhysicalHeight - 1 - x) * rowWords + y := by
  obtain ⟨hblock, hplace⟩ := block_place y hx
  rw [scanoutCell, hblock, hplace]

theorem canvasPixel_cell {rowWords column : ℕ} (hcolumn : column < rowWords) (row : ℕ) :
    canvasPixel rowWords (row * rowWords + column) =
      column * kLogicalWidth + (kPhysicalHeight - 1 - row) := by
  obtain ⟨hblock, hplace⟩ := block_place row hcolumn
  rw [canvasPixel, hblock, hplace]

/-- A pixel is in a row and a column. -/
theorem exists_pixel {pixel : ℕ} (h : pixel < kLogicalWidth * kLogicalHeight) :
    ∃ x < kLogicalWidth, ∃ y < kLogicalHeight, pixel = y * kLogicalWidth + x := by
  refine ⟨pixel % kLogicalWidth, Nat.mod_lt _ (by decide), pixel / kLogicalWidth,
    Nat.div_lt_of_lt_mul h, ?_⟩
  rw [Nat.div_add_mod']

section

variable {rowWords : ℕ}

/-- A pixel is staged in a cell that is shown, and comes back from there. -/
theorem canvasPixel_scanoutCell (hrow : kPhysicalWidth ≤ rowWords) {pixel : ℕ}
    (h : pixel < kLogicalWidth * kLogicalHeight) :
    Shown rowWords (scanoutCell rowWords pixel) ∧
      canvasPixel rowWords (scanoutCell rowWords pixel) = pixel := by
  obtain ⟨x, hx, y, hy, rfl⟩ := exists_pixel h
  rw [scanoutCell_pixel rowWords hx]
  have hcolumn : y < rowWords := by
    simp only [kLogicalHeight, kPhysicalWidth] at hy hrow
    omega
  refine ⟨⟨kPhysicalHeight - 1 - x, by simp only [kPhysicalHeight]; omega, y, hy, rfl⟩, ?_⟩
  rw [canvasPixel_cell hcolumn]
  simp only [kLogicalWidth, kPhysicalHeight] at hx ⊢
  omega

/-- A cell that is shown has a pixel, and is the cell of this pixel. -/
theorem scanoutCell_canvasPixel (hrow : kPhysicalWidth ≤ rowWords) {cell : ℕ}
    (h : Shown rowWords cell) :
    canvasPixel rowWords cell < kLogicalWidth * kLogicalHeight ∧
      scanoutCell rowWords (canvasPixel rowWords cell) = cell := by
  obtain ⟨row, hrow', column, hcolumn, rfl⟩ := h
  simp only [kPhysicalWidth, kPhysicalHeight, kLogicalHeight] at hrow hrow' hcolumn
  have hx : kPhysicalHeight - 1 - row < kLogicalWidth := by
    simp only [kPhysicalHeight, kLogicalWidth]
    omega
  rw [canvasPixel_cell (by omega), scanoutCell_pixel rowWords hx]
  simp only [kPhysicalHeight, kLogicalWidth, kLogicalHeight]
  constructor
  · omega
  · rw [show 1280 - 1 - (1280 - 1 - row) = row by omega]

/-- **The pixels of the canvas are the cells that are shown**, one by one. -/
theorem scanoutCell_bijOn (hrow : kPhysicalWidth ≤ rowWords) :
    Set.BijOn (scanoutCell rowWords) {pixel | pixel < kLogicalWidth * kLogicalHeight}
      {cell | Shown rowWords cell} := by
  have hinverse : Set.InvOn (canvasPixel rowWords) (scanoutCell rowWords)
      {pixel | pixel < kLogicalWidth * kLogicalHeight} {cell | Shown rowWords cell} := by
    constructor
    · intro pixel hpixel
      exact (canvasPixel_scanoutCell hrow hpixel).2
    · intro cell hcell
      exact (scanoutCell_canvasPixel hrow hcell).2
  refine hinverse.bijOn ?_ ?_
  · intro pixel hpixel
    exact (canvasPixel_scanoutCell hrow hpixel).1
  · intro cell hcell
    exact (scanoutCell_canvasPixel hrow hcell).1

/-- A cell that is shown lies in every frame that is large enough. -/
theorem Shown.lt {cell size : ℕ} (hrow : kPhysicalWidth ≤ rowWords)
    (hsize : rowWords * kPhysicalHeight ≤ size) (h : Shown rowWords cell) : cell < size := by
  obtain ⟨row, hrow', column, hcolumn, rfl⟩ := h
  have hle : (row + 1) * rowWords ≤ rowWords * kPhysicalHeight := by
    rw [Nat.mul_comm rowWords]
    exact Nat.mul_le_mul_right rowWords hrow'
  simp only [kPhysicalWidth, kLogicalHeight] at hrow hcolumn
  rw [Nat.add_mul, Nat.one_mul] at hle
  omega

/-! ### There and back -/

/-- What `stage_canvas_for_scanout` leaves in a frame that is large enough. -/
theorem stage_spec {canvas frame : List UInt16}
    (hcanvas : canvas.length = kLogicalWidth * kLogicalHeight)
    (hrow : kPhysicalWidth ≤ rowWords) (hframe : rowWords * kPhysicalHeight ≤ frame.length) :
    ∃ staged, stageCanvasForScanout canvas rowWords frame = some staged ∧
      staged.length = frame.length ∧
      (∀ pixel < kLogicalWidth * kLogicalHeight,
        staged[scanoutCell rowWords pixel]? = canvas[pixel]?) ∧
      ∀ cell, ¬ Shown rowWords cell → staged[cell]? = frame[cell]? := by
  obtain ⟨hlength, hstored, hkept⟩ := grid_spec
    (p := fun cell => canvas.getD (canvasPixel rowWords cell) 0)
    (f := fun x y => (kPhysicalHeight - 1 - x) * rowWords + y)
    (g := fun x y => canvas.getD (y * kLogicalWidth + x) 0)
    (m := kLogicalWidth) (n := kLogicalHeight) (by
      intro x hx y hy
      have hpixel : y * kLogicalWidth + x < kLogicalWidth * kLogicalHeight := by
        simp only [kLogicalWidth, kLogicalHeight] at hx hy ⊢
        omega
      have hback := (canvasPixel_scanoutCell hrow hpixel).2
      rw [scanoutCell_pixel rowWords hx] at hback
      rw [hback]) ⟨frame, []⟩
  have hchecks : ¬ (canvas.length ≠ kLogicalWidth * kLogicalHeight ∨ rowWords < kPhysicalWidth ∨
      frame.length < rowWords * kPhysicalHeight) := by
    omega
  refine ⟨_, if_neg hchecks, hlength, ?_, ?_⟩
  · intro pixel hpixel
    obtain ⟨hshown, hback⟩ := canvasPixel_scanoutCell hrow hpixel
    have hlt := hshown.lt hrow hframe
    have hget := List.getElem?_eq_getElem (hpixel.trans_eq hcanvas.symm)
    obtain ⟨x, hx, y, hy, rfl⟩ := exists_pixel hpixel
    rw [scanoutCell_pixel rowWords hx] at hlt hback ⊢
    rw [hstored x hx y hy hlt, hback, List.getD_eq_getElem?_getD, hget, Option.getD_some]
  · intro cell hcell
    refine hkept cell fun x hx y hy heq => hcell ⟨kPhysicalHeight - 1 - x, ?_, y, hy, heq⟩
    simp only [kPhysicalHeight]
    omega

/-- What `read_scanout_into_canvas` makes of the words at a pointer. -/
theorem read_spec (hrow : kPhysicalWidth ≤ rowWords) (frame : ℕ → UInt16) (target : List UInt16) :
    ∃ canvas, readScanoutIntoCanvas frame rowWords target = some canvas ∧
      canvas.length = kLogicalWidth * kLogicalHeight ∧
      ∀ pixel < kLogicalWidth * kLogicalHeight,
        canvas[pixel]? = some (frame (scanoutCell rowWords pixel)) := by
  obtain ⟨hlength, hstored, -⟩ := grid_spec (p := fun pixel => frame (scanoutCell rowWords pixel))
    (f := fun x y => y * kLogicalWidth + x)
    (g := fun x y => frame ((kPhysicalHeight - 1 - x) * rowWords + y))
    (m := kLogicalWidth) (n := kLogicalHeight) (by
      intro x hx y hy
      rw [scanoutCell_pixel rowWords hx])
    ⟨target.takeD (kLogicalWidth * kLogicalHeight) 0, []⟩
  dsimp only at hlength hstored
  rw [List.takeD_length] at hlength hstored
  refine ⟨_, if_neg (Nat.not_lt.2 hrow), hlength, ?_⟩
  intro pixel hpixel
  obtain ⟨x, hx, y, hy, rfl⟩ := exists_pixel hpixel
  exact hstored x hx y hy hpixel

/-- **What is staged is read back**: for every canvas, every row of at least 600 words and every
frame that is large enough, the pixels are staged one by one in the cells that are shown, all other
words of the frame are left alone, and the canvas is read back from memory that begins with the
frame, whatever comes after the frame and whatever the canvas held before. -/
theorem scanout_round_trip {canvas frame : List UInt16}
    (hcanvas : canvas.length = kLogicalWidth * kLogicalHeight) (hrow : kPhysicalWidth ≤ rowWords)
    (hframe : rowWords * kPhysicalHeight ≤ frame.length) :
    ∃ staged, stageCanvasForScanout canvas rowWords frame = some staged ∧
      staged.length = frame.length ∧
      Set.BijOn (scanoutCell rowWords) {pixel | pixel < kLogicalWidth * kLogicalHeight}
        {cell | Shown rowWords cell} ∧
      (∀ pixel < kLogicalWidth * kLogicalHeight,
        staged[scanoutCell rowWords pixel]? = canvas[pixel]?) ∧
      (∀ cell, ¬ Shown rowWords cell → staged[cell]? = frame[cell]?) ∧
      ∀ (memory : ℕ → UInt16) (target : List UInt16),
        (∀ cell word, staged[cell]? = some word → memory cell = word) →
          readScanoutIntoCanvas memory rowWords target = some canvas := by
  obtain ⟨staged, hstage, hlength, hpixels, hkept⟩ := stage_spec hcanvas hrow hframe
  refine ⟨staged, hstage, hlength, scanoutCell_bijOn hrow, hpixels, hkept, ?_⟩
  intro memory target hmemory
  obtain ⟨restored, hread, hrestored, hwords⟩ := read_spec hrow memory target
  rw [hread]
  refine congrArg some (List.ext_getElem? ?_)
  intro pixel
  by_cases hpixel : pixel < kLogicalWidth * kLogicalHeight
  · have hget := List.getElem?_eq_getElem (hpixel.trans_eq hcanvas.symm)
    rw [hwords pixel hpixel, hget]
    exact congrArg some (hmemory _ _ ((hpixels pixel hpixel).trans hget))
  · rw [List.getElem?_eq_none (by omega), List.getElem?_eq_none (by omega)]

end

/-- A canvas with one bright pixel in its corner. -/
def cornerCanvas : List UInt16 := 0x1234 :: List.replicate (kLogicalWidth * kLogicalHeight - 1) 0

/-- The first pixel goes to the last row, and the word after the first 480 is left alone. -/
theorem scanout_round_trip_corner :
    ∃ staged, stageCanvasForScanout cornerCanvas 600 (List.replicate (600 * 1280) 0xdead) =
      some staged ∧
      staged[1279 * 600]? = some 0x1234 ∧ staged[480]? = some 0xdead ∧
      readScanoutIntoCanvas (fun cell => staged.getD cell 0) 600 [] = some cornerCanvas := by
  obtain ⟨staged, hstage, -, -, hpixels, hkept, hread⟩ :=
    @scanout_round_trip 600 cornerCanvas (List.replicate (600 * 1280) 0xdead)
      (by rw [cornerCanvas, List.length_cons, List.length_replicate]; rfl)
      (by decide) (Nat.le_of_eq List.length_replicate.symm)
  have hhidden : ¬ Shown 600 480 := by
    rintro ⟨row, -, column, hcolumn, heq⟩
    simp only [kLogicalHeight] at hcolumn
    omega
  refine ⟨staged, hstage, hpixels 0 (by decide), ?_, hread _ _ ?_⟩
  · rw [hkept 480 hhidden, List.getElem?_replicate, if_pos (by decide)]
  · intro cell word hword
    rw [List.getD_eq_getElem?_getD, hword, Option.getD_some]

end NesDeck.ScanoutRotation
