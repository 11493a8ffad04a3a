/-
**The three ways to scale a frame.**

`present` in `deck_wayland.cpp` fills a buffer of the size of the surface from a frame of any size.
It copies a frame of that size, it repeats the pixels of a frame that goes into it a whole number of
times, and it looks for the nearest pixel otherwise.

Main definitions:

* `NesDeck.WaylandBuffers.drawIdentity`, `NesDeck.WaylandBuffers.drawScaled`,
  `NesDeck.WaylandBuffers.drawNearest` — the three loops;
* `NesDeck.WaylandBuffers.Tiles` — every pixel of the target was written once, with the right pixel.

Main results:

* `NesDeck.WaylandBuffers.paths_agree` — **the two fast ways leave the buffer that the general one
  would leave**, and each of the three tiles the target;
* `NesDeck.WaylandBuffers.draw_eq_drawFrame` — the loops compute the frame that `submit` stores.
-/

import NesDeck.Lib.Painting
import NesDeck.WaylandBuffers

set_option relaxedAutoImplicit false
set_option autoImplicit false

namespace NesDeck.WaylandBuffers

open Painting

/-! ### The loops -/

/-- The frame has the size of the target. -/
def drawIdentity (targetWidth targetHeight : ℕ) (readPixel : ℕ → ℕ → BitVec 32)
    (memory : Canvas (BitVec 32)) : Canvas (BitVec 32) :=
  loop targetHeight (fun y memory =>
    let destination := y * targetWidth
    loop targetWidth (fun x memory => memory.put (destination + x) (readPixel x y)) memory) memory

/-- The frame goes into the target a whole number of times: a row is made of runs, and repeated. -/
def drawScaled (targetWidth sourceWidth sourceHeight : ℕ) (readPixel : ℕ → ℕ → BitVec 32)
    (memory : Canvas (BitVec 32)) : Canvas (BitVec 32) :=
  let scale := targetWidth / sourceWidth
  loop sourceHeight (fun sourceY memory =>
    let firstRow := sourceY * scale * targetWidth
    let memory := loop sourceWidth (fun sourceX memory =>
      memory.store (firstRow + sourceX * scale)
        (List.replicate scale (readPixel sourceX sourceY))) memory
    -- The loop over `duplicate_y` starts at one.
    loop (scale - 1) (fun copy memory =>
      let duplicateY := copy + 1
      memory.store (firstRow + duplicateY * targetWidth)
        ((memory.cells.drop firstRow).take targetWidth)) memory) memory

/-- The nearest pixel, with a product of 64 bits. -/
def drawNearest (targetWidth targetHeight sourceWidth sourceHeight : ℕ)
    (readPixel : ℕ → ℕ → BitVec 32) (memory : Canvas (BitVec 32)) : Canvas (BitVec 32) :=
  loop targetHeight (fun y memory =>
    let sourceY := y * sourceHeight % 2 ^ 64 / targetHeight % 2 ^ 32
    loop targetWidth (fun x memory =>
      let sourceX := x * sourceWidth % 2 ^ 64 / targetWidth % 2 ^ 32
      memory.put (y * targetWidth + x) (readPixel sourceX sourceY)) memory) memory

/-- The first test of `present`. -/
def SameSize (targetWidth targetHeight sourceWidth sourceHeight : ℕ) : Prop :=
  targetWidth = sourceWidth ∧ targetHeight = sourceHeight

/-- The second test of `present`. -/
def WholeScale (targetWidth targetHeight sourceWidth sourceHeight : ℕ) : Prop :=
  targetWidth % sourceWidth = 0 ∧ targetHeight % sourceHeight = 0 ∧
    targetWidth / sourceWidth = targetHeight / sourceHeight

instance (targetWidth targetHeight sourceWidth sourceHeight : ℕ) :
    Decidable (SameSize targetWidth targetHeight sourceWidth sourceHeight) :=
  inferInstanceAs (Decidable (_ ∧ _))

instance (targetWidth targetHeight sourceWidth sourceHeight : ℕ) :
    Decidable (WholeScale targetWidth targetHeight sourceWidth sourceHeight) :=
  inferInstanceAs (Decidable (_ ∧ _ ∧ _))

/-- The middle of `present`. -/
def draw (targetWidth targetHeight sourceWidth sourceHeight : ℕ) (readPixel : ℕ → ℕ → BitVec 32)
    (memory : Canvas (BitVec 32)) : Canvas (BitVec 32) :=
  if SameSize targetWidth targetHeight sourceWidth sourceHeight then
    drawIdentity targetWidth targetHeight readPixel memory
  else if WholeScale targetWidth targetHeight sourceWidth sourceHeight then
    drawScaled targetWidth sourceWidth sourceHeight readPixel memory
  else drawNearest targetWidth targetHeight sourceWidth sourceHeight readPixel memory

/-! ### The picture -/

/-- The pixel of the source that belongs to a cell of the target. -/
def nearest (targetWidth targetHeight sourceWidth sourceHeight : ℕ) (readPixel : ℕ → ℕ → BitVec 32)
    (i : ℕ) : BitVec 32 :=
  readPixel (i % targetWidth * sourceWidth / targetWidth)
    (i / targetWidth * sourceHeight / targetHeight)

section

variable {targetWidth targetHeight sourceWidth sourceHeight : ℕ} {readPixel : ℕ → ℕ → BitVec 32}

theorem nearest_cell (readPixel : ℕ → ℕ → BitVec 32) {x y : ℕ} (hx : x < targetWidth) :
    nearest targetWidth targetHeight sourceWidth sourceHeight readPixel (y * targetWidth + x) =
      readPixel (x * sourceWidth / targetWidth) (y * sourceHeight / targetHeight) := by
  have hdiv : (y * targetWidth + x) / targetWidth = y := by
    rw [Nat.mul_comm, Nat.mul_add_div (by omega), Nat.div_eq_of_lt hx, Nat.add_zero]
  have hmod : (y * targetWidth + x) % targetWidth = x := by
    rw [Nat.mul_comm, Nat.mul_add_mod, Nat.mod_eq_of_lt hx]
  rw [nearest, hdiv, hmod]

/-- The cells of the target, row by row. -/
theorem rows_eq (targetWidth targetHeight : ℕ) :
    ((List.range targetHeight).flatMap fun y => (List.range targetWidth).flatMap fun x =>
      [y * targetWidth + x]) = List.range (targetHeight * targetWidth) := by
  have hrow : ∀ y, ((List.range targetWidth).flatMap fun x => [y * targetWidth + x]) =
      List.range' (0 + y * targetWidth) targetWidth := by
    intro y
    rw [← List.map_eq_flatMap, List.range'_eq_map_range, Nat.zero_add]
  simp only [hrow, flatMap_range', ← List.range_eq_range']

/-- The general way. -/
theorem draws_drawNearest (readPixel : ℕ → ℕ → BitVec 32) (htargetWidth : targetWidth < 2 ^ 32)
    (htargetHeight : targetHeight < 2 ^ 32) (hsourceWidth : sourceWidth < 2 ^ 32)
    (hsourceHeight : sourceHeight < 2 ^ 32) (memory : Canvas (BitVec 32)) :
    Draws (nearest targetWidth targetHeight sourceWidth sourceHeight readPixel) memory
      (drawNearest targetWidth targetHeight sourceWidth sourceHeight readPixel memory)
      (List.range (targetHeight * targetWidth)) := by
  -- The product has no more than 64 bits, and the quotient no more than 32.
  have hexact : ∀ {place target source : ℕ}, place < target → target < 2 ^ 32 → source < 2 ^ 32 →
      place * source % 2 ^ 64 / target % 2 ^ 32 = place * source / target := by
    intro place target source hplace htarget hsource
    have hproduct : place * source < 2 ^ 64 := by
      calc place * source < 2 ^ 32 * 2 ^ 32 :=
            Nat.mul_lt_mul'' (Nat.lt_trans hplace htarget) hsource
        _ = 2 ^ 64 := (Nat.pow_add 2 32 32).symm
    have hquotient : place * source / target < 2 ^ 32 := by
      refine Nat.lt_of_le_of_lt (Nat.div_le_of_le_mul ?_) hsource
      exact Nat.mul_le_mul_right source (Nat.le_of_lt hplace)
    rw [Nat.mod_eq_of_lt hproduct, Nat.mod_eq_of_lt hquotient]
  rw [← rows_eq]
  refine painted_loop fun y hy memory _ => painted_loop fun x hx memory _ => painted_put ?_
  rw [nearest_cell readPixel hx, hexact hx htargetWidth hsourceWidth,
    hexact hy htargetHeight hsourceHeight]

/-- The copy. -/
theorem draws_drawIdentity (memory : Canvas (BitVec 32)) :
    Draws (nearest targetWidth targetHeight targetWidth targetHeight readPixel) memory
      (drawIdentity targetWidth targetHeight readPixel memory)
      (List.range (targetHeight * targetWidth)) := by
  rw [← rows_eq]
  refine painted_loop fun y hy memory _ => painted_loop fun x hx memory _ => painted_put ?_
  rw [nearest_cell readPixel hx, Nat.mul_div_cancel _ (by omega), Nat.mul_div_cancel _ (by omega)]

/-! ### Whole scales -/

/-- A place of a frame that is enlarged by a whole number. -/
theorem block_source {source scale place count : ℕ} (hplace : place < scale) (hcount : 0 < count) :
    (source * scale + place) * count / (count * scale) = source := by
  rw [Nat.mul_comm _ count, Nat.mul_div_mul_left _ _ hcount, Nat.mul_comm,
    Nat.mul_add_div (by omega), Nat.div_eq_of_lt hplace, Nat.add_zero]

/-- A pixel of a row of the enlarged frame. -/
theorem nearest_block (sourceWidth sourceHeight : ℕ) (readPixel : ℕ → ℕ → BitVec 32)
    {scale sourceX sourceY x y : ℕ} (hsourceX : sourceX < sourceWidth)
    (hsourceY : sourceY < sourceHeight) (hx : x < scale) (hy : y < scale) :
    nearest (sourceWidth * scale) (sourceHeight * scale) sourceWidth sourceHeight readPixel
      ((sourceY * scale + y) * (sourceWidth * scale) + (sourceX * scale + x)) =
      readPixel sourceX sourceY := by
  have hcolumn : sourceX * scale + x < sourceWidth * scale := by
    calc sourceX * scale + x < sourceX * scale + scale := Nat.add_lt_add_left hx _
      _ = (sourceX + 1) * scale := by rw [Nat.add_mul, Nat.one_mul]
      _ ≤ sourceWidth * scale := Nat.mul_le_mul_right scale hsourceX
  rw [nearest_cell readPixel hcolumn, block_source hx (by omega), block_source hy (by omega)]

/-- The rows of one row of the source look alike. -/
theorem nearest_copy (sourceWidth sourceHeight : ℕ) (readPixel : ℕ → ℕ → BitVec 32)
    {scale sourceY y x : ℕ} (hsourceY : sourceY < sourceHeight) (hy : y < scale)
    (hx : x < sourceWidth * scale) :
    nearest (sourceWidth * scale) (sourceHeight * scale) sourceWidth sourceHeight readPixel
      ((sourceY * scale + y) * (sourceWidth * scale) + x) =
      nearest (sourceWidth * scale) (sourceHeight * scale) sourceWidth sourceHeight readPixel
        (sourceY * scale * (sourceWidth * scale) + x) := by
  have hscale : 0 < scale := by omega
  have hsourceX : x / scale < sourceWidth :=
    Nat.div_lt_of_lt_mul (Nat.mul_comm sourceWidth scale ▸ hx)
  have hpixel : ∀ y < scale,
      nearest (sourceWidth * scale) (sourceHeight * scale) sourceWidth sourceHeight readPixel
        ((sourceY * scale + y) * (sourceWidth * scale) + x) = readPixel (x / scale) sourceY := by
    intro y hy
    have hblock := nearest_block sourceWidth sourceHeight readPixel hsourceX hsourceY
      (Nat.mod_lt x hscale) hy
    rwa [Nat.div_add_mod'] at hblock
  rw [hpixel y hy, ← hpixel 0 hscale, Nat.add_zero]

/-- The first row of an enlarged row of the source lies within the target. -/
theorem firstRow_le {scale sourceY : ℕ} (hsourceY : sourceY < sourceHeight) (hscale : 0 < scale)
    (width : ℕ) : sourceY * scale * width + width ≤ sourceHeight * scale * width := by
  calc sourceY * scale * width + width = (sourceY * scale + 1) * width := by
        rw [Nat.add_mul, Nat.one_mul]
    _ ≤ (sourceY + 1) * scale * width := by
        refine Nat.mul_le_mul_right width ?_
        rw [Nat.add_mul, Nat.one_mul]
        omega
    _ ≤ sourceHeight * scale * width :=
        Nat.mul_le_mul_right width (Nat.mul_le_mul_right scale hsourceY)

/-- The first row of an enlarged row of the source. -/
theorem draws_firstRow (sourceWidth scale : ℕ) (readPixel : ℕ → ℕ → BitVec 32) {sourceY : ℕ}
    (hsourceY : sourceY < sourceHeight) (memory : Canvas (BitVec 32)) :
    Draws (nearest (sourceWidth * scale) (sourceHeight * scale) sourceWidth sourceHeight readPixel)
      memory
      (loop sourceWidth (fun sourceX memory =>
        memory.store (sourceY * scale * (sourceWidth * scale) + sourceX * scale)
          (List.replicate scale (readPixel sourceX sourceY))) memory)
      (List.range' (sourceY * scale * (sourceWidth * scale)) (sourceWidth * scale)) := by
  rw [← flatMap_range']
  refine painted_loop ?_
  intro sourceX hsourceX memory _
  have hstore : Draws (nearest (sourceWidth * scale) (sourceHeight * scale) sourceWidth sourceHeight
      readPixel) memory (memory.store (sourceY * scale * (sourceWidth * scale) + sourceX * scale)
        (List.replicate scale (readPixel sourceX sourceY)))
      (List.range' (sourceY * scale * (sourceWidth * scale) + sourceX * scale)
        (List.replicate scale (readPixel sourceX sourceY)).length) := by
    refine painted_store ?_
    intro x a ha
    have hx : x < scale := by
      have hlt := (List.getElem?_eq_some_iff.1 ha).1
      rwa [List.length_replicate] at hlt
    rw [List.getElem?_replicate_of_lt hx, Option.some.injEq] at ha
    have hblock := nearest_block sourceWidth sourceHeight readPixel hsourceX hsourceY hx
      (Nat.zero_lt_of_lt hx)
    rw [Nat.add_zero] at hblock
    rw [Nat.add_assoc, hblock, ha]
  rwa [List.length_replicate] at hstore

/-- The copies of the first row. -/
theorem draws_copies {scale sourceY : ℕ} (hsourceY : sourceY < sourceHeight)
    {memory : Canvas (BitVec 32)}
    (hlength : memory.cells.length = sourceHeight * scale * (sourceWidth * scale))
    (hfirst : ∀ x < sourceWidth * scale,
      memory.cells[sourceY * scale * (sourceWidth * scale) + x]? = some
        (nearest (sourceWidth * scale) (sourceHeight * scale) sourceWidth sourceHeight readPixel
          (sourceY * scale * (sourceWidth * scale) + x))) :
    Draws (nearest (sourceWidth * scale) (sourceHeight * scale) sourceWidth sourceHeight readPixel)
      memory
      (loop (scale - 1) (fun copy memory =>
        memory.store (sourceY * scale * (sourceWidth * scale) + (copy + 1) * (sourceWidth * scale))
          ((memory.cells.drop (sourceY * scale * (sourceWidth * scale))).take
            (sourceWidth * scale)))
        memory)
      (List.range' (sourceY * scale * (sourceWidth * scale) + sourceWidth * scale)
        ((scale - 1) * (sourceWidth * scale))) := by
  rw [← flatMap_range']
  refine painted_loop ?_
  intro copy hcopy after hbefore
  let first := sourceY * scale * (sourceWidth * scale)
  -- The copies made so far lie behind the first row.
  have hkept : ∀ x < sourceWidth * scale, after.cells[first + x]? = memory.cells[first + x]? := by
    intro x hx
    refine hbefore.kept _ ?_
    intro hmem
    obtain ⟨i, -, hi⟩ := List.mem_flatMap.1 hmem
    have hge := (List.mem_range'_1.1 hi).1
    omega
  have hfits : first + sourceWidth * scale ≤ after.cells.length := by
    rw [hbefore.length, hlength]
    exact firstRow_le hsourceY (by omega) (sourceWidth * scale)
  have hstore : Draws (nearest (sourceWidth * scale) (sourceHeight * scale) sourceWidth sourceHeight
      readPixel) after (after.store (first + (copy + 1) * (sourceWidth * scale))
        ((after.cells.drop first).take (sourceWidth * scale)))
      (List.range' (first + (copy + 1) * (sourceWidth * scale))
        ((after.cells.drop first).take (sourceWidth * scale)).length) := by
    refine painted_store ?_
    intro x a ha
    rw [List.getElem?_take] at ha
    split at ha
    · next hx =>
        rw [List.getElem?_drop, hkept x hx, hfirst x hx, Option.some.injEq] at ha
        have hcopied := nearest_copy sourceWidth sourceHeight readPixel hsourceY
          (Nat.add_lt_of_lt_sub hcopy) hx
        rw [Nat.add_mul] at hcopied
        rw [← ha, hcopied]
    · cases ha
  have hwhole : ((after.cells.drop first).take (sourceWidth * scale)).length =
      sourceWidth * scale := by
    rw [List.length_take, List.length_drop]
    omega
  have hstart : first + sourceWidth * scale + copy * (sourceWidth * scale) =
      first + (copy + 1) * (sourceWidth * scale) := by
    rw [Nat.add_mul, Nat.one_mul]
    omega
  rw [hwhole] at hstore
  rwa [hstart]

/-- The rows of the target, as the rows of the source with their copies. -/
theorem blocks_eq (sourceWidth sourceHeight scale : ℕ) :
    ((List.range sourceHeight).flatMap fun sourceY =>
      List.range' (sourceY * scale * (sourceWidth * scale)) (sourceWidth * scale) ++
        List.range' (sourceY * scale * (sourceWidth * scale) + sourceWidth * scale)
          ((scale - 1) * (sourceWidth * scale))) =
      List.range (sourceHeight * scale * (sourceWidth * scale)) := by
  have hblock : ∀ sourceY, List.range' (sourceY * scale * (sourceWidth * scale))
        (sourceWidth * scale) ++
      List.range' (sourceY * scale * (sourceWidth * scale) + sourceWidth * scale)
        ((scale - 1) * (sourceWidth * scale)) =
      List.range' (0 + sourceY * (scale * (sourceWidth * scale)))
        (scale * (sourceWidth * scale)) := by
    intro sourceY
    cases scale with
    | zero => simp
    | succ scale =>
        have hsize : (scale + 1) * (sourceWidth * (scale + 1)) =
            sourceWidth * (scale + 1) + scale * (sourceWidth * (scale + 1)) := by
          rw [Nat.add_mul scale, Nat.one_mul, Nat.add_comm]
        rw [List.range'_append_1, Nat.add_sub_cancel, Nat.zero_add, Nat.mul_assoc, hsize]
  simp only [hblock, flatMap_range', ← List.range_eq_range']
  rw [Nat.mul_assoc]

/-- The repetition of pixels. -/
theorem draws_drawScaled {scale : ℕ} (hwidth : 0 < sourceWidth) {memory : Canvas (BitVec 32)}
    (hlength : memory.cells.length = sourceHeight * scale * (sourceWidth * scale)) :
    Draws (nearest (sourceWidth * scale) (sourceHeight * scale) sourceWidth sourceHeight readPixel)
      memory
      (drawScaled (sourceWidth * scale) sourceWidth sourceHeight readPixel memory)
      (List.range (sourceHeight * scale * (sourceWidth * scale))) := by
  rw [← blocks_eq, drawScaled, Nat.mul_div_cancel_left _ hwidth]
  refine painted_loop ?_
  intro sourceY hsourceY after hbefore
  have hfirst := draws_firstRow sourceWidth scale readPixel hsourceY after
  refine hfirst.trans (draws_copies hsourceY ?_ ?_)
  · rw [hfirst.length, hbefore.length, hlength]
  · intro x hx
    have hscale : 0 < scale := Nat.pos_of_ne_zero fun hzero => by simp [hzero] at hx
    have hle := firstRow_le hsourceY hscale (sourceWidth * scale)
    refine hfirst.getElem?_of_mem (List.mem_range'_1.2 ⟨by omega, by omega⟩) ?_
    rw [hbefore.length, hlength]
    omega

end

/-! ### The ways agree -/

/-- **The target is tiled**: every pixel was written once, with the nearest pixel of the source. -/
structure Tiles (targetWidth targetHeight sourceWidth sourceHeight : ℕ)
    (readPixel : ℕ → ℕ → BitVec 32) (memory : Canvas (BitVec 32)) : Prop where
  written : memory.written = List.range (targetHeight * targetWidth)
  pixel : ∀ y < targetHeight, ∀ x < targetWidth, memory.cells[y * targetWidth + x]? =
    some (readPixel (x * sourceWidth / targetWidth) (y * sourceHeight / targetHeight))

theorem tiles_of_draws {targetWidth targetHeight sourceWidth sourceHeight : ℕ}
    {readPixel : ℕ → ℕ → BitVec 32} {cells : List (BitVec 32)} {memory : Canvas (BitVec 32)}
    (hlength : cells.length = targetHeight * targetWidth)
    (h : Draws (nearest targetWidth targetHeight sourceWidth sourceHeight readPixel)
      ⟨cells, []⟩ memory
      (List.range (targetHeight * targetWidth))) :
    Tiles targetWidth targetHeight sourceWidth sourceHeight readPixel memory where
  written := h.written
  pixel := by
    intro y hy x hx
    have hlt : y * targetWidth + x < targetHeight * targetWidth := by
      calc y * targetWidth + x < y * targetWidth + targetWidth := Nat.add_lt_add_left hx _
        _ = (y + 1) * targetWidth := by rw [Nat.add_mul, Nat.one_mul]
        _ ≤ targetHeight * targetWidth := Nat.mul_le_mul_right targetWidth hy
    rw [h.getElem?_of_mem (List.mem_range.2 hlt) (hlength.symm ▸ hlt), nearest_cell readPixel hx]

/-- What holds of a way to fill the target, next to the general one. -/
structure Path (targetWidth targetHeight sourceWidth sourceHeight : ℕ)
    (readPixel : ℕ → ℕ → BitVec 32) (cells : List (BitVec 32)) (memory : Canvas (BitVec 32)) : Prop
    extends Tiles targetWidth targetHeight sourceWidth sourceHeight readPixel memory where
  same : memory.cells =
    (drawNearest targetWidth targetHeight sourceWidth sourceHeight readPixel ⟨cells, []⟩).cells

theorem WholeScale.exists_scale {targetWidth targetHeight sourceWidth sourceHeight : ℕ}
    (h : WholeScale targetWidth targetHeight sourceWidth sourceHeight) :
    ∃ scale, targetWidth = sourceWidth * scale ∧ targetHeight = sourceHeight * scale := by
  obtain ⟨hwidth, hheight, hsame⟩ := h
  refine ⟨targetWidth / sourceWidth, ?_, ?_⟩
  · exact (Nat.mul_div_cancel' (Nat.dvd_of_mod_eq_zero hwidth)).symm
  · rw [hsame]
    exact (Nat.mul_div_cancel' (Nat.dvd_of_mod_eq_zero hheight)).symm

theorem SameSize.draws {targetWidth targetHeight sourceWidth sourceHeight : ℕ}
    (h : SameSize targetWidth targetHeight sourceWidth sourceHeight)
    (readPixel : ℕ → ℕ → BitVec 32) (memory : Canvas (BitVec 32)) :
    Draws (nearest targetWidth targetHeight sourceWidth sourceHeight readPixel) memory
      (drawIdentity targetWidth targetHeight readPixel memory)
      (List.range (targetHeight * targetWidth)) := by
  obtain ⟨rfl, rfl⟩ := h
  exact draws_drawIdentity memory

theorem WholeScale.draws {targetWidth targetHeight sourceWidth sourceHeight : ℕ}
    (h : WholeScale targetWidth targetHeight sourceWidth sourceHeight) (hwidth : 0 < sourceWidth)
    (readPixel : ℕ → ℕ → BitVec 32) {memory : Canvas (BitVec 32)}
    (hlength : memory.cells.length = targetHeight * targetWidth) :
    Draws (nearest targetWidth targetHeight sourceWidth sourceHeight readPixel) memory
      (drawScaled targetWidth sourceWidth sourceHeight readPixel memory)
      (List.range (targetHeight * targetWidth)) := by
  obtain ⟨scale, rfl, rfl⟩ := h.exists_scale
  exact draws_drawScaled hwidth hlength

/-- **The copy and the repetition of pixels leave the buffer that the general way would leave**, and
each of the three ways tiles the target. -/
theorem paths_agree (sourceWidth sourceHeight targetWidth targetHeight : BitVec 32)
    (hwidth : 0 < sourceWidth) (readPixel : ℕ → ℕ → BitVec 32) {cells : List (BitVec 32)}
    (hlength : cells.length = targetHeight.toNat * targetWidth.toNat) :
    Tiles targetWidth.toNat targetHeight.toNat sourceWidth.toNat sourceHeight.toNat readPixel
        (drawNearest targetWidth.toNat targetHeight.toNat sourceWidth.toNat sourceHeight.toNat
          readPixel ⟨cells, []⟩) ∧
      (SameSize targetWidth.toNat targetHeight.toNat sourceWidth.toNat sourceHeight.toNat →
        Path targetWidth.toNat targetHeight.toNat sourceWidth.toNat sourceHeight.toNat
          readPixel cells
          (drawIdentity targetWidth.toNat targetHeight.toNat readPixel ⟨cells, []⟩)) ∧
      (WholeScale targetWidth.toNat targetHeight.toNat sourceWidth.toNat sourceHeight.toNat →
        Path targetWidth.toNat targetHeight.toNat sourceWidth.toNat sourceHeight.toNat
          readPixel cells
          (drawScaled targetWidth.toNat sourceWidth.toNat sourceHeight.toNat readPixel
            ⟨cells, []⟩)) := by
  have hgeneral := draws_drawNearest readPixel targetWidth.isLt targetHeight.isLt sourceWidth.isLt
    sourceHeight.isLt ⟨cells, []⟩
  have hpath : ∀ {memory : Canvas (BitVec 32)},
      Draws (nearest targetWidth.toNat targetHeight.toNat sourceWidth.toNat sourceHeight.toNat
        readPixel) ⟨cells, []⟩ memory (List.range (targetHeight.toNat * targetWidth.toNat)) →
      Path targetWidth.toNat targetHeight.toNat sourceWidth.toNat sourceHeight.toNat readPixel cells
        memory :=
    fun hdraws => ⟨tiles_of_draws hlength hdraws, hdraws.cells_eq hgeneral fun _ => Iff.rfl⟩
  refine ⟨tiles_of_draws hlength hgeneral, ?_, ?_⟩
  · intro hsame
    exact hpath (hsame.draws readPixel ⟨cells, []⟩)
  · intro hwhole
    exact hpath (hwhole.draws (BitVec.lt_def.1 hwidth) readPixel hlength)

/-- A frame of 320 by 240 pixels on a surface of twice its size. -/
theorem paths_agree_double :
    let readPixel := fun x y => BitVec.ofNat 32 (320 * y + x)
    Path 640 480 320 240 readPixel (List.replicate 307200 0)
      (drawScaled 640 320 240 readPixel ⟨List.replicate 307200 0, []⟩) :=
  (paths_agree 320 240 640 480 (by decide) _
    (List.length_replicate.trans (by decide))).2.2 (by decide)

/-! ### The frame of the model of buffers -/

/-- The pixel that `present` takes is the nearest one, whatever its way. -/
theorem sourcePixel_eq {targetWidth targetHeight sourceWidth sourceHeight : ℕ}
    (hwidth : 0 < sourceWidth) (hheight : 0 < sourceHeight) {x y : ℕ} (hx : x < targetWidth)
    (hy : y < targetHeight) :
    sourcePixel targetWidth targetHeight sourceWidth sourceHeight x y =
      (x * sourceWidth / targetWidth, y * sourceHeight / targetHeight) := by
  rw [sourcePixel]
  split
  · next hsame =>
      obtain ⟨rfl, rfl⟩ := hsame
      rw [Nat.mul_div_cancel _ (by omega), Nat.mul_div_cancel _ (by omega)]
  split
  · next hwhole =>
      obtain ⟨scale, rfl, rfl⟩ := WholeScale.exists_scale hwhole
      rw [Nat.mul_div_cancel_left _ hwidth, Nat.mul_comm x, Nat.mul_div_mul_left _ _ hwidth,
        Nat.mul_comm y, Nat.mul_div_mul_left _ _ hheight]
  · rfl

/-- The frame, cell by cell. -/
theorem drawFrame_eq {targetWidth targetHeight sourceWidth sourceHeight : ℕ}
    (hwidth : 0 < sourceWidth) (hheight : 0 < sourceHeight) (readPixel : ℕ → ℕ → BitVec 32) :
    drawFrame targetWidth targetHeight sourceWidth sourceHeight readPixel =
      (List.range (targetHeight * targetWidth)).map
        (nearest targetWidth targetHeight sourceWidth sourceHeight readPixel) := by
  rw [← rows_eq, List.map_flatMap, drawFrame]
  refine List.flatMap_congr ?_
  intro y hy
  rw [← List.map_eq_flatMap, List.map_map]
  refine List.map_congr_left ?_
  intro x hx
  dsimp only
  rw [sourcePixel_eq hwidth hheight (List.mem_range.1 hx) (List.mem_range.1 hy)]
  exact (nearest_cell readPixel (List.mem_range.1 hx)).symm

/-- What a drawing of the whole target leaves. -/
theorem cells_eq_of_draws {n : ℕ} {picture : ℕ → BitVec 32} {cells : List (BitVec 32)}
    {memory : Canvas (BitVec 32)} (hlength : cells.length = n)
    (h : Draws picture ⟨cells, []⟩ memory (List.range n)) :
    memory.cells = (List.range n).map picture := by
  refine List.ext_getElem? ?_
  intro i
  rw [h.getElem?, List.getElem?_map]
  by_cases hi : i < n
  · rw [List.getElem?_eq_getElem (hlength ▸ hi), List.getElem?_range hi, Option.map_some,
      Option.map_some, if_pos (List.mem_range.2 hi)]
  · have hcells : cells.length ≤ i := hlength ▸ Nat.le_of_not_lt hi
    rw [List.getElem?_eq_none hcells, List.getElem?_eq_none (by rw [List.length_range]; omega)]
    rfl

/-- **The loops compute the frame that is stored in the slot.** -/
theorem draw_eq_drawFrame {sourceWidth sourceHeight targetWidth targetHeight : BitVec 32}
    (hwidth : 0 < sourceWidth) (hheight : 0 < sourceHeight) (readPixel : ℕ → ℕ → BitVec 32)
    {cells : List (BitVec 32)} (hlength : cells.length = targetHeight.toNat * targetWidth.toNat) :
    (draw targetWidth.toNat targetHeight.toNat sourceWidth.toNat sourceHeight.toNat readPixel
      ⟨cells, []⟩).cells =
      drawFrame targetWidth.toNat targetHeight.toNat sourceWidth.toNat sourceHeight.toNat
        readPixel := by
  have hsourceWidth := BitVec.lt_def.1 hwidth
  have hgeneral := draws_drawNearest readPixel targetWidth.isLt targetHeight.isLt sourceWidth.isLt
    sourceHeight.isLt ⟨cells, []⟩
  rw [drawFrame_eq hsourceWidth (BitVec.lt_def.1 hheight), draw]
  split
  · next hsame => exact cells_eq_of_draws hlength (hsame.draws readPixel ⟨cells, []⟩)
  split
  · next hwhole => exact cells_eq_of_draws hlength (hwhole.draws hsourceWidth readPixel hlength)
  · exact cells_eq_of_draws hlength hgeneral

end NesDeck.WaylandBuffers
