/-
**The direct framebuffer.**

`DeckFramebuffer` in `deck_runtime.cpp` shows a picture on the panel of the Deck. The panel is
scanned as 600 by 1280 pixels in portrait, while a picture is 1280 by 480 in landscape, so that each
picture is turned, and it is enlarged by the largest whole number that keeps it within the safe
area. It is built in a staging buffer of its own, and only its rectangle is copied to the panel.

Main definitions:

* `NesDeck.deckComputeScaledLayout` — the place and the scale of a picture;
* `NesDeck.Scanout` — a panel that `open_device` accepts;
* `NesDeck.DeckFramebuffer.drawPixels`, `NesDeck.DeckFramebuffer.drawRows` — the two ways to build a
  picture: pixel after pixel, and row after row of the panel;
* `NesDeck.DeckFramebuffer.publishFrame` — the copy to the panel;
* `NesDeck.DeckFramebuffer.present` — the functions that show a picture, each in its format;
* `NesDeck.DeckFramebuffer.rotated` — what a cell of the panel shows.

Main results:

* `NesDeck.DeckFramebuffer.drawRows_agrees` — **both ways write the same cells with the same
  values**, these are the cells that are copied, and they lie within the safe area;
* `NesDeck.Screen.shows_run` — **after every run of calls the panel shows the last picture**, and
  nothing of the ones before it.
-/

import Mathlib.Algebra.Group.Nat.Defs
import NesDeck.Lib.HostFile
import NesDeck.Lib.Painting
import NesDeck.Lib.Run

set_option relaxedAutoImplicit false
set_option autoImplicit false

namespace NesDeck

open HostFile (Errno)
open Painting

/-! ### Layouts -/

namespace DeckFramebuffer

def kLogicalWidth : ℕ := 1280

def kLogicalHeight : ℕ := 480

def kPhysicalWidth : ℕ := 600

def kPhysicalHeight : ℕ := 1280

def kSafeInset : ℕ := 16

end DeckFramebuffer

open DeckFramebuffer

/-- `DeckScaledLayout`. -/
structure DeckScaledLayout where
  scale : ℕ
  x : ℕ
  y : ℕ
  width : ℕ
  height : ℕ
  deriving DecidableEq

/-- `DeckComputeScaledLayout`. -/
def deckComputeScaledLayout (sourceWidth sourceHeight : ℕ) : Option DeckScaledLayout :=
  if sourceWidth = 0 ∨ sourceHeight = 0 then none
  else
    let usableWidth := kLogicalWidth - 2 * kSafeInset
    let usableHeight := kLogicalHeight - 2 * kSafeInset
    if usableWidth < sourceWidth ∨ usableHeight < sourceHeight then none
    else
      let scale := min (usableWidth / sourceWidth) (usableHeight / sourceHeight)
      if scale < 1 then none
      else
        let width := sourceWidth * scale
        let height := sourceHeight * scale
        let x := (kLogicalWidth - width) / 2
        let y := (kLogicalHeight - height) / 2
        if kSafeInset ≤ x ∧ kSafeInset ≤ y ∧ x + width ≤ kLogicalWidth - kSafeInset ∧
            y + height ≤ kLogicalHeight - kSafeInset then
          some ⟨scale, x, y, width, height⟩
        else none

/-- What is known of a layout. -/
structure DeckScaledLayout.Fits (layout : DeckScaledLayout)
    (sourceWidth sourceHeight : ℕ) : Prop where
  scale_pos : 0 < layout.scale
  width_eq : layout.width = sourceWidth * layout.scale
  height_eq : layout.height = sourceHeight * layout.scale
  x_ge : 16 ≤ layout.x
  y_ge : 16 ≤ layout.y
  x_le : layout.x + layout.width ≤ 1264
  y_le : layout.y + layout.height ≤ 464

theorem fits_of_layout {sourceWidth sourceHeight : ℕ} {layout : DeckScaledLayout}
    (h : deckComputeScaledLayout sourceWidth sourceHeight = some layout) :
    layout.Fits sourceWidth sourceHeight := by
  rw [deckComputeScaledLayout] at h
  split at h
  · cases h
  dsimp only at h
  split at h
  · cases h
  split at h
  · cases h
  rename_i hscale
  split at h
  · next hinside =>
      cases h
      obtain ⟨hx, hy, hwidth, hheight⟩ := hinside
      exact ⟨Nat.not_lt.1 hscale, rfl, rfl, hx, hy, hwidth, hheight⟩
  · cases h

/-! ### Panels -/

/-- `FB_TYPE_PACKED_PIXELS`. -/
def fbTypePackedPixels : ℕ := 0

/-- `FB_VISUAL_TRUECOLOR`. -/
def fbVisualTruecolor : ℕ := 2

/-- `INT_MAX`. -/
def intMaximum : ℕ := 2 ^ 31 - 1

/-- `fb_bitfield`. -/
structure FbBitfield where
  offset : ℕ
  length : ℕ
  msbRight : ℕ
  deriving DecidableEq

/-- What the driver says of the panel: the fields of `fb_var_screeninfo` and `fb_fix_screeninfo`
that `open_device` looks at. -/
structure FbScreenInfo where
  xres : ℕ
  yres : ℕ
  yresVirtual : ℕ
  xoffset : ℕ
  yoffset : ℕ
  bitsPerPixel : ℕ
  red : FbBitfield
  green : FbBitfield
  blue : FbBitfield
  transpLength : ℕ
  lineLength : ℕ
  smemLen : ℕ
  fbType : ℕ
  visual : ℕ

def FbScreenInfo.rows (info : FbScreenInfo) : ℕ :=
  if info.yresVirtual ≠ 0 then info.yresVirtual else info.yres

/-- The panel is one of 600 by 1280 pixels in RGB565. -/
def FbScreenInfo.Supported (info : FbScreenInfo) : Prop :=
  info.xres = kPhysicalWidth ∧ info.yres = kPhysicalHeight ∧ info.bitsPerPixel = 16 ∧
    info.xoffset = 0 ∧ info.yoffset = 0 ∧ kPhysicalHeight ≤ info.rows ∧
    info.fbType = fbTypePackedPixels ∧ info.visual = fbVisualTruecolor ∧
    info.lineLength ≤ intMaximum ∧ kPhysicalWidth * 2 ≤ info.lineLength ∧
    info.lineLength % 2 = 0 ∧ info.lineLength * info.rows ≤ info.smemLen ∧
    info.red.offset = 11 ∧ info.red.length = 5 ∧ info.red.msbRight = 0 ∧
    info.green.offset = 5 ∧ info.green.length = 6 ∧ info.green.msbRight = 0 ∧
    info.blue.offset = 0 ∧ info.blue.length = 5 ∧ info.blue.msbRight = 0 ∧
    info.transpLength = 0

instance (info : FbScreenInfo) : Decidable info.Supported := by
  unfold FbScreenInfo.Supported
  infer_instance

/-- A panel with an admissible stride: the stride in bytes and the size of the mapping. -/
structure Scanout where
  stride : ℕ
  mapSize : ℕ
  even : stride % 2 = 0
  wide : kPhysicalWidth * 2 ≤ stride
  required : stride * kPhysicalHeight ≤ mapSize

/-- The cells of a row of the panel. -/
def Scanout.rowWords (scanout : Scanout) : ℕ := scanout.stride / 2

/-- The panel that the driver describes. -/
def FbScreenInfo.scanout (info : FbScreenInfo) (h : info.Supported) : Scanout where
  stride := info.lineLength
  mapSize := info.smemLen
  even := h.2.2.2.2.2.2.2.2.2.2.1
  wide := h.2.2.2.2.2.2.2.2.2.1
  required := Nat.le_trans (Nat.mul_le_mul_left _ h.2.2.2.2.2.1) h.2.2.2.2.2.2.2.2.2.2.2.1

/-- An open `DeckFramebuffer`: the panel and the staging buffer, in words of 16 bits. -/
structure DeckFramebuffer where
  scanout : Scanout
  memory : List UInt16
  frame : List UInt16
  lastSourceWidth : ℕ
  lastSourceHeight : ℕ
  exitHint : Bool

namespace DeckFramebuffer

/-- A framebuffer that was just opened: both buffers are black. -/
def opened (scanout : Scanout) (exitHint : Bool) : DeckFramebuffer where
  scanout := scanout
  memory := List.replicate (scanout.mapSize / 2) 0
  frame := List.replicate (scanout.mapSize / 2) 0
  lastSourceWidth := 0
  lastSourceHeight := 0
  exitHint := exitHint

/-- What the system answers to the calls of `open_device`. -/
structure DeviceAnswers where
  opened : Option Errno
  queried : Except Errno FbScreenInfo
  mapped : Option Errno

/-- `open_device` without Wayland, on a machine with a `size_t` of `word` bits. -/
def openDevice (word : ℕ) (strerror : Errno → String) (exitHint : Bool) (answers : DeviceAnswers) :
    Except String DeckFramebuffer :=
  match answers.opened with
  | some errno => .error ("cannot open /dev/fb0: " ++ strerror errno)
  | none =>
      match answers.queried with
      | .error errno => .error ("cannot query framebuffer geometry: " ++ strerror errno)
      | .ok info =>
          if info.lineLength = 0 ∨ (2 ^ word - 1) / info.lineLength < info.rows then
            .error "framebuffer geometry overflows the address space"
          else if h : info.Supported then
            match answers.mapped with
            | some errno => .error ("cannot mmap /dev/fb0: " ++ strerror errno)
            | none => .ok (opened (info.scanout h) exitHint)
          else .error "unsupported framebuffer; expected 600x1280 RGB565 with a valid stride"

/-- A framebuffer that was opened is black. -/
theorem opened_of_openDevice {word : ℕ} {strerror : Errno → String} {exitHint : Bool}
    {answers : DeviceAnswers} {self : DeckFramebuffer}
    (h : openDevice word strerror exitHint answers = .ok self) :
    ∃ scanout, self = opened scanout exitHint := by
  rw [openDevice] at h
  split at h
  · cases h
  split at h
  · cases h
  split at h
  · cases h
  split at h
  · split at h
    · cases h
    · cases h
      exact ⟨_, rfl⟩
  · cases h

/-! ### Drawing -/

/-- `draw_scaled_pixel`. -/
def drawScaledPixel (rowWords : ℕ) (layout : DeckScaledLayout) (sourceX sourceY : ℕ)
    (color : UInt16) (frame : Canvas UInt16) : Canvas UInt16 :=
  let left := layout.x + sourceX * layout.scale
  let top := layout.y + sourceY * layout.scale
  loop layout.scale (fun y frame =>
    let physicalColumn := top + y
    loop layout.scale (fun x frame =>
      let logicalX := left + x
      let physicalRow := kPhysicalHeight - 1 - logicalX
      frame.put (physicalRow * rowWords + physicalColumn) color) frame) frame

/-- The loops of `present_xrgb8888` and of `present_indexed`: pixel after pixel. -/
def drawPixels (rowWords : ℕ) (layout : DeckScaledLayout) (width height : ℕ)
    (color : ℕ → ℕ → UInt16) (frame : Canvas UInt16) : Canvas UInt16 :=
  loop height (fun y frame =>
    loop width (fun x frame => drawScaledPixel rowWords layout x y (color x y) frame) frame) frame

/-- The loops of `present_rgb565`: one row of the panel after the other, with a pointer that runs
along the row. -/
def drawRows (rowWords : ℕ) (layout : DeckScaledLayout) (width height : ℕ)
    (color : ℕ → ℕ → UInt16) (frame : Canvas UInt16) : Canvas UInt16 :=
  loop width (fun sourceX frame =>
    let firstPhysicalRow := kPhysicalHeight - 1 - layout.x - sourceX * layout.scale
    loop layout.scale (fun duplicateX frame =>
      let destination := (firstPhysicalRow - duplicateX) * rowWords + layout.y
      (loop height (fun sourceY state =>
        loop layout.scale (fun _ state =>
          (state.1.put state.2 (color sourceX sourceY), state.2 + 1))
          state) (frame, destination)).1) frame) frame

/-- `publish_frame` without the exit hint: the rectangle of the picture is copied to the panel. -/
def publishRectangle (rowWords : ℕ) (layout : DeckScaledLayout) (frame : List UInt16)
    (memory : Canvas UInt16) : Canvas UInt16 :=
  let firstPhysicalRow := kPhysicalHeight - layout.x - layout.width
  loop layout.width (fun row memory =>
    let offset := (firstPhysicalRow + row) * rowWords + layout.y
    memory.store offset ((frame.drop offset).take layout.height)) memory

/-! ### The exit hint -/

/-- `fill_logical_rect`. -/
def fillLogicalRect (rowStride x y width height : ℕ) (color : UInt16) (pixels : Canvas UInt16) :
    Canvas UInt16 :=
  loop width (fun dx pixels =>
    let logicalX := x + dx
    if kPhysicalHeight ≤ logicalX then pixels
    else
      let physicalRow := kPhysicalHeight - 1 - logicalX
      loop height (fun dy pixels =>
        let logicalY := y + dy
        if logicalY < 480 then pixels.put (physicalRow * rowStride + logicalY) color else pixels)
        pixels) pixels

/-- `DeckDrawExitHintRgb565`: a cross with a black border. -/
def deckDrawExitHint (rowStride : ℕ) (pixels : Canvas UInt16) : Canvas UInt16 :=
  if rowStride < 600 then pixels
  else
    let left := 20
    let top := 20
    let cell := 4
    let pixels := loop 9 (fun step pixels =>
      let x := left + step * cell
      let oppositeX := left + (8 - step) * cell
      let y := top + step * cell
      let pixels := fillLogicalRect rowStride (x - 2) (y - 2) (cell + 4) (cell + 4) 0x0000 pixels
      fillLogicalRect rowStride (oppositeX - 2) (y - 2) (cell + 4) (cell + 4) 0x0000 pixels) pixels
    loop 9 (fun step pixels =>
      let x := left + step * cell
      let oppositeX := left + (8 - step) * cell
      let y := top + step * cell
      let pixels := fillLogicalRect rowStride x y cell cell 0xffff pixels
      fillLogicalRect rowStride oppositeX y cell cell 0xffff pixels) pixels

/-- The cells of the exit hint. -/
def exitHintCells (rowStride : ℕ) : List ℕ := (deckDrawExitHint rowStride ⟨[], []⟩).written

/-! ### Frames -/

/-- The bytes at a pointer. -/
abbrev Pixels := ℕ → UInt8

def readWord (bytes : Pixels) (offset : ℕ) : UInt16 :=
  .ofNat ((bytes offset).toNat + 256 * (bytes (offset + 1)).toNat)

def readLong (bytes : Pixels) (offset : ℕ) : UInt32 :=
  .ofNat ((readWord bytes offset).toNat + 65536 * (readWord bytes (offset + 2)).toNat)

/-- `DeckRgb888To565`. -/
def deckRgb888To565 (color : UInt32) : UInt16 :=
  let red := (color >>> 16) &&& 0xff
  let green := (color >>> 8) &&& 0xff
  let blue := color &&& 0xff
  (((red &&& 0xf8) <<< 8) ||| ((green &&& 0xfc) <<< 3) ||| (blue >>> 3)).toUInt16

/-- A call of one of the functions that show a picture.  A null pointer is `none`. -/
inductive Call where
  | xrgb8888 (pixels : Option Pixels) (width height pitch : ℕ)
  | rgb565 (pixels : Option Pixels) (width height pitch : ℕ)
  | indexed (pixels : Option Pixels) (width height pitch : ℕ) (palette : Option (ℕ → UInt32))
      (paletteSize : ℕ)

/-- What a call wants to show. -/
structure Picture where
  width : ℕ
  height : ℕ
  color : ℕ → ℕ → UInt16

/-- `begin_frame`. -/
def beginFrame (self : DeckFramebuffer) (width height : ℕ) :
    Except String (DeckScaledLayout × DeckFramebuffer) :=
  match deckComputeScaledLayout width height with
  | none => .error "video frame does not fit the Deck safe area"
  | some layout =>
      if self.frame.length * 2 ≠ self.scanout.mapSize then
        .error "framebuffer staging buffer is unavailable"
      else if width ≠ self.lastSourceWidth ∨ height ≠ self.lastSourceHeight then
        .ok (layout,
          { self with
            frame := List.replicate self.frame.length 0
            memory := List.replicate self.memory.length 0
            lastSourceWidth := width
            lastSourceHeight := height })
      else .ok (layout, self)

/-- `publish_frame`. -/
def publishFrame (self : DeckFramebuffer) (layout : DeckScaledLayout) : DeckFramebuffer :=
  let rowWords := self.scanout.rowWords
  let memory := (publishRectangle rowWords layout self.frame ⟨self.memory, []⟩).cells
  { self with
    memory := if self.exitHint then (deckDrawExitHint rowWords ⟨memory, []⟩).cells else memory }

/-- The common end of the three functions: the frame is begun, drawn and published. -/
def showPicture (self : DeckFramebuffer) (picture : Picture)
    (draw : (rowWords : ℕ) → DeckScaledLayout → (width height : ℕ) → (color : ℕ → ℕ → UInt16) →
      Canvas UInt16 → Canvas UInt16) : DeckFramebuffer × Option String :=
  match self.beginFrame picture.width picture.height with
  | .error error => (self, some error)
  | .ok (layout, self) =>
      let frame := (draw self.scanout.rowWords layout picture.width picture.height picture.color
        ⟨self.frame, []⟩).cells
      (publishFrame { self with frame := frame } layout, none)

/-- `present_xrgb8888`. -/
def presentXrgb8888 (word : ℕ) (self : DeckFramebuffer) (pixels : Option Pixels)
    (width height pitch : ℕ) : DeckFramebuffer × Option String :=
  match pixels with
  | none => (self, some "invalid XRGB8888 video frame")
  | some bytes =>
      if pitch < width * 4 % 2 ^ word then (self, some "invalid XRGB8888 video frame")
      else
        self.showPicture
          ⟨width, height, fun x y =>
            deckRgb888To565 (readLong bytes (y * pitch + 4 * x))⟩ drawPixels

/-- `present_rgb565`. -/
def presentRgb565 (word : ℕ) (self : DeckFramebuffer) (pixels : Option Pixels)
    (width height pitch : ℕ) : DeckFramebuffer × Option String :=
  match pixels with
  | none => (self, some "invalid RGB565 video frame")
  | some bytes =>
      if pitch < width * 2 % 2 ^ word then (self, some "invalid RGB565 video frame")
      else
        self.showPicture ⟨width, height, fun x y => readWord bytes (y * pitch + 2 * x)⟩ drawRows

/-- `present_indexed`. -/
def presentIndexed (self : DeckFramebuffer) (pixels : Option Pixels) (width height pitch : ℕ)
    (palette : Option (ℕ → UInt32)) (paletteSize : ℕ) : DeckFramebuffer × Option String :=
  match pixels, palette with
  | some bytes, some colors =>
      if paletteSize = 0 ∨ pitch < width then (self, some "invalid indexed video frame")
      else
        self.showPicture
          ⟨width, height, fun x y =>
            let index := (bytes (y * pitch + x)).toNat
            deckRgb888To565 (if index < paletteSize then colors index else 0)⟩ drawPixels
  | _, _ => (self, some "invalid indexed video frame")

/-- One call. -/
def present (word : ℕ) (self : DeckFramebuffer) : Call → DeckFramebuffer × Option String
  | .xrgb8888 pixels width height pitch => self.presentXrgb8888 word pixels width height pitch
  | .rgb565 pixels width height pitch => self.presentRgb565 word pixels width height pitch
  | .indexed pixels width height pitch palette paletteSize =>
      self.presentIndexed pixels width height pitch palette paletteSize

/-! ### What a cell shows -/

/-- The cell of the panel that shows a pixel of the logical display. -/
def cell (rowWords logicalX logicalY : ℕ) : ℕ :=
  (kPhysicalHeight - 1 - logicalX) * rowWords + logicalY

/-- What a cell of the panel shows of an enlarged picture: the margins are black. -/
def rotated (rowWords : ℕ) (layout : DeckScaledLayout) (color : ℕ → ℕ → UInt16) (i : ℕ) : UInt16 :=
  let logicalX := kPhysicalHeight - 1 - i / rowWords
  let logicalY := i % rowWords
  if i / rowWords < kPhysicalHeight ∧ layout.x ≤ logicalX ∧ logicalX < layout.x + layout.width ∧
      layout.y ≤ logicalY ∧ logicalY < layout.y + layout.height then
    color ((logicalX - layout.x) / layout.scale) ((logicalY - layout.y) / layout.scale)
  else 0

/-- The cell belongs to the rectangle of the picture. -/
def InPicture (rowWords : ℕ) (layout : DeckScaledLayout) (i : ℕ) : Prop :=
  ∃ x < layout.width, ∃ y < layout.height, i = cell rowWords (layout.x + x) (layout.y + y)

section

variable {rowWords : ℕ} {layout : DeckScaledLayout} {width height : ℕ}

theorem cell_div {x y : ℕ} (hy : y < rowWords) : cell rowWords x y / rowWords = 1279 - x := by
  rw [cell, Nat.mul_comm, Nat.mul_add_div (by omega), Nat.div_eq_of_lt hy]
  rfl

theorem cell_mod {x y : ℕ} (hy : y < rowWords) : cell rowWords x y % rowWords = y := by
  rw [cell, Nat.mul_comm, Nat.mul_add_mod, Nat.mod_eq_of_lt hy]

/-- The cells of the rectangle show the picture. -/
theorem rotated_cell (hwords : 600 ≤ rowWords) (hfits : layout.Fits width height)
    (color : ℕ → ℕ → UInt16) {x y : ℕ} (hx : x < layout.width) (hy : y < layout.height) :
    rotated rowWords layout color (cell rowWords (layout.x + x) (layout.y + y)) =
      color (x / layout.scale) (y / layout.scale) := by
  have hxle := hfits.x_le
  have hyle := hfits.y_le
  have hcolumn : layout.y + y < rowWords := by omega
  have hlogical : kPhysicalHeight - 1 - (1279 - (layout.x + x)) = layout.x + x := by
    simp only [kPhysicalHeight]
    omega
  rw [rotated, cell_div hcolumn, cell_mod hcolumn, hlogical, if_pos, Nat.add_sub_cancel_left,
    Nat.add_sub_cancel_left]
  simp only [kPhysicalHeight]
  omega

/-- All other cells are black. -/
theorem rotated_of_not_inPicture (color : ℕ → ℕ → UInt16) {i : ℕ}
    (h : ¬InPicture rowWords layout i) : rotated rowWords layout color i = 0 := by
  rw [rotated, if_neg]
  rintro ⟨hrow, hx, hxlt, hy, hylt⟩
  -- The place of the cell in the rectangle, from its row and its column.
  have hplace : ∃ x < layout.width, kPhysicalHeight - 1 - (layout.x + x) = i / rowWords := by
    simp only [kPhysicalHeight] at hrow hx hxlt ⊢
    generalize i / rowWords = row at *
    exact ⟨1280 - 1 - row - layout.x, by omega, by omega⟩
  obtain ⟨x, hxwidth, hxrow⟩ := hplace
  refine h ⟨x, hxwidth, i % rowWords - layout.y, Nat.sub_lt_left_of_lt_add hy hylt, ?_⟩
  rw [cell, hxrow, Nat.add_sub_cancel' hy, Nat.div_add_mod']

/-- The rectangle lies within the safe area. -/
theorem inPicture_safe (hfits : layout.Fits width height) {i : ℕ}
    (h : InPicture rowWords layout i) :
    ∃ row column, i = row * rowWords + column ∧ 16 ≤ row ∧ row ≤ 1263 ∧ 16 ≤ column ∧
      column ≤ 463 := by
  obtain ⟨x, hx, y, hy, rfl⟩ := h
  have hxle := hfits.x_le
  have hyle := hfits.y_le
  have hxge := hfits.x_ge
  have hyge := hfits.y_ge
  refine ⟨1280 - 1 - (layout.x + x), layout.y + y, rfl, ?_⟩
  omega

/-! ### Both ways to draw -/

/-- The cells of one pixel of the source. -/
def pixelCells (rowWords : ℕ) (layout : DeckScaledLayout) (sourceX sourceY : ℕ) : List ℕ :=
  (List.range layout.scale).flatMap fun y => (List.range layout.scale).flatMap fun x =>
    [cell rowWords (layout.x + (sourceX * layout.scale + x))
      (layout.y + (sourceY * layout.scale + y))]

/-- A place within the enlarged pixel of the source. -/
theorem block_lt {source size scale place : ℕ} (hsource : source < size) (hplace : place < scale) :
    source * scale + place < size * scale := by
  calc source * scale + place < source * scale + scale := Nat.add_lt_add_left hplace _
    _ = (source + 1) * scale := by rw [Nat.add_mul, Nat.one_mul]
    _ ≤ size * scale := Nat.mul_le_mul_right scale hsource

theorem block_div {source scale place : ℕ} (hplace : place < scale) :
    (source * scale + place) / scale = source := by
  rw [Nat.mul_comm, Nat.mul_add_div (by omega), Nat.div_eq_of_lt hplace, Nat.add_zero]

/-- The colour of a cell of the enlarged pixel. -/
theorem rotated_block (hwords : 600 ≤ rowWords) (hfits : layout.Fits width height)
    (color : ℕ → ℕ → UInt16) {sourceX sourceY x y : ℕ} (hsourceX : sourceX < width)
    (hsourceY : sourceY < height) (hx : x < layout.scale) (hy : y < layout.scale) :
    color sourceX sourceY = rotated rowWords layout color
      (cell rowWords (layout.x + (sourceX * layout.scale + x))
        (layout.y + (sourceY * layout.scale + y))) := by
  have hxlt : sourceX * layout.scale + x < layout.width :=
    hfits.width_eq ▸ block_lt hsourceX hx
  have hylt : sourceY * layout.scale + y < layout.height :=
    hfits.height_eq ▸ block_lt hsourceY hy
  rw [rotated_cell hwords hfits color hxlt hylt, block_div hx, block_div hy]

theorem draws_drawScaledPixel (hwords : 600 ≤ rowWords) (hfits : layout.Fits width height)
    (color : ℕ → ℕ → UInt16) {sourceX sourceY : ℕ} (hsourceX : sourceX < width)
    (hsourceY : sourceY < height) (frame : Canvas UInt16) :
    Draws (rotated rowWords layout color) frame
      (drawScaledPixel rowWords layout sourceX sourceY (color sourceX sourceY) frame)
      (pixelCells rowWords layout sourceX sourceY) := by
  refine painted_loop ?_
  intro y hy frame _
  refine painted_loop ?_
  intro x hx frame _
  rw [← Nat.add_assoc, ← Nat.add_assoc]
  refine painted_put ?_
  have hcolor := rotated_block hwords hfits color hsourceX hsourceY hx hy
  rwa [← Nat.add_assoc, ← Nat.add_assoc] at hcolor

theorem draws_drawPixels (hwords : 600 ≤ rowWords) (hfits : layout.Fits width height)
    (color : ℕ → ℕ → UInt16) (frame : Canvas UInt16) :
    Draws (rotated rowWords layout color) frame
      (drawPixels rowWords layout width height color frame)
      ((List.range height).flatMap fun y => (List.range width).flatMap fun x =>
        pixelCells rowWords layout x y) :=
  painted_loop fun _ hy _ _ => painted_loop fun _ hx frame _ =>
    draws_drawScaledPixel hwords hfits color hx hy frame

/-- The pointer that runs along a row of the panel. -/
theorem drawRow_eq (layout : DeckScaledLayout) (height : ℕ) (color : ℕ → UInt16)
    (frame : Canvas UInt16) (destination : ℕ) :
    (loop height (fun sourceY (state : Canvas UInt16 × ℕ) =>
        loop layout.scale (fun _ state => (state.1.put state.2 (color sourceY), state.2 + 1)) state)
      (frame, destination)).1 =
    loop height (fun sourceY frame => loop layout.scale (fun y frame =>
      frame.put (destination + (sourceY * layout.scale + y)) (color sourceY)) frame) frame := by
  have hpixel : ∀ (a : UInt16) (state : Canvas UInt16 × ℕ),
      loop layout.scale (fun _ state => (state.1.put state.2 a, state.2 + 1)) state =
        (loop layout.scale (fun y frame => frame.put (state.2 + y) a) state.1,
          state.2 + layout.scale) := by
    intro a state
    have hrun := loop_pointer layout.scale 1 (fun _ pointer (frame : Canvas UInt16) =>
      frame.put pointer a) state.1 state.2
    simpa only [Nat.mul_one] using hrun
  have hrow := loop_pointer height layout.scale (fun sourceY pointer (frame : Canvas UInt16) =>
    loop layout.scale (fun y frame => frame.put (pointer + y) (color sourceY)) frame)
      frame destination
  rw [loop_congr (fun sourceY _ state => hpixel (color sourceY) state), hrow]
  simp only [Nat.add_assoc]

theorem draws_drawRows (hwords : 600 ≤ rowWords) (hfits : layout.Fits width height)
    (color : ℕ → ℕ → UInt16) (frame : Canvas UInt16) :
    Draws (rotated rowWords layout color) frame (drawRows rowWords layout width height color frame)
      ((List.range width).flatMap fun sourceX => (List.range layout.scale).flatMap fun x =>
        (List.range height).flatMap fun sourceY => (List.range layout.scale).flatMap fun y =>
          [cell rowWords (layout.x + (sourceX * layout.scale + x))
            (layout.y + (sourceY * layout.scale + y))]) := by
  refine painted_loop ?_
  intro sourceX hsourceX frame _
  refine painted_loop ?_
  intro x hx frame _
  rw [drawRow_eq layout height (color sourceX)]
  refine painted_loop ?_
  intro sourceY hsourceY frame _
  refine painted_loop ?_
  intro y hy frame _
  have hindex : (kPhysicalHeight - 1 - layout.x - sourceX * layout.scale - x) *
    rowWords + layout.y +
      (sourceY * layout.scale + y) =
      cell rowWords (layout.x + (sourceX * layout.scale + x))
        (layout.y + (sourceY * layout.scale + y)) := by
    rw [cell, Nat.sub_sub _ (sourceX * layout.scale), Nat.sub_sub _ layout.x, Nat.add_assoc]
  rw [hindex]
  exact painted_put (rotated_block hwords hfits color hsourceX hsourceY hx hy)

/-- The cells that are written pixel after pixel. -/
theorem mem_pixels (hfits : layout.Fits width height) {i : ℕ} :
    (i ∈ (List.range height).flatMap fun y => (List.range width).flatMap fun x =>
      pixelCells rowWords layout x y) ↔ InPicture rowWords layout i := by
  rw [InPicture, hfits.width_eq, hfits.height_eq]
  simp only [exists_lt_mul_iff, pixelCells, List.mem_flatMap, List.mem_range, List.mem_singleton]
  constructor
  · rintro ⟨sourceY, hsourceY, sourceX, hsourceX, y, hy, x, hx, rfl⟩
    exact ⟨sourceX, hsourceX, x, hx, sourceY, hsourceY, y, hy, rfl⟩
  · rintro ⟨sourceX, hsourceX, x, hx, sourceY, hsourceY, y, hy, rfl⟩
    exact ⟨sourceY, hsourceY, sourceX, hsourceX, y, hy, x, hx, rfl⟩

/-- The cells that are written row after row. -/
theorem mem_rows (hfits : layout.Fits width height) {i : ℕ} :
    (i ∈ (List.range width).flatMap fun sourceX => (List.range layout.scale).flatMap fun x =>
      (List.range height).flatMap fun sourceY => (List.range layout.scale).flatMap fun y =>
        [cell rowWords (layout.x + (sourceX * layout.scale + x))
          (layout.y + (sourceY * layout.scale + y))]) ↔ InPicture rowWords layout i := by
  rw [InPicture, hfits.width_eq, hfits.height_eq]
  simp only [exists_lt_mul_iff, List.mem_flatMap, List.mem_range, List.mem_singleton]

/-! ### The copy to the panel -/

/-- A row of the rectangle lies within the staging buffer. -/
theorem row_le (hfits : layout.Fits width height) {frame : List UInt16} (hwords : 600 ≤ rowWords)
    (hframe : kPhysicalHeight * rowWords ≤ frame.length) {row : ℕ} (hrow : row < layout.width) :
    (kPhysicalHeight - layout.x - layout.width + row) * rowWords + layout.y + layout.height ≤
      frame.length := by
  have hxle := hfits.x_le
  have hyle := hfits.y_le
  have hbelow : kPhysicalHeight - layout.x - layout.width + row + 1 ≤ kPhysicalHeight := by
    have hxge := hfits.x_ge
    simp only [kPhysicalHeight]
    omega
  calc (kPhysicalHeight - layout.x - layout.width + row) * rowWords + layout.y + layout.height
      ≤ (kPhysicalHeight - layout.x - layout.width + row) * rowWords + rowWords := by omega
    _ = (kPhysicalHeight - layout.x - layout.width + row + 1) * rowWords := by
        rw [Nat.add_mul _ 1, Nat.one_mul]
    _ ≤ kPhysicalHeight * rowWords := Nat.mul_le_mul_right rowWords hbelow
    _ ≤ frame.length := hframe

/-- The cells that are copied to the panel. -/
def publishedCells (rowWords : ℕ) (layout : DeckScaledLayout) : List ℕ :=
  (List.range layout.width).flatMap fun row =>
    List.range' ((kPhysicalHeight - layout.x - layout.width + row) * rowWords + layout.y)
      layout.height

theorem painted_publishRectangle (hwords : 600 ≤ rowWords) (hfits : layout.Fits width height)
    (frame : List UInt16) (hframe : kPhysicalHeight * rowWords ≤ frame.length)
    (memory : Canvas UInt16) :
    Painted (fun i a => frame[i]? = some a) memory (publishRectangle rowWords layout frame memory)
      (publishedCells rowWords layout) := by
  refine painted_loop ?_
  intro row hrow memory _
  let offset := (kPhysicalHeight - layout.x - layout.width + row) * rowWords + layout.y
  have hle : offset + layout.height ≤ frame.length := row_le hfits hwords hframe hrow
  have hlength : ((frame.drop offset).take layout.height).length = layout.height := by
    rw [List.length_take, List.length_drop]
    omega
  have hstore : Painted (fun i a => frame[i]? = some a) memory
      (memory.store offset ((frame.drop offset).take layout.height))
      (List.range' offset ((frame.drop offset).take layout.height).length) := by
    refine painted_store ?_
    intro i a ha
    rw [List.getElem?_take] at ha
    split at ha
    · rwa [List.getElem?_drop] at ha
    · cases ha
  rwa [hlength] at hstore

/-- **The copied rectangle is the one of the picture.** -/
theorem mem_publishedCells (hfits : layout.Fits width height) {i : ℕ} :
    i ∈ publishedCells rowWords layout ↔ InPicture rowWords layout i := by
  have hxle := hfits.x_le
  simp only [publishedCells, List.mem_flatMap, List.mem_range, List.mem_range'_1, InPicture, cell,
    kPhysicalHeight]
  constructor
  · rintro ⟨row, hrow, hge, hlt⟩
    refine ⟨layout.width - 1 - row, by omega,
      i - ((1280 - layout.x - layout.width + row) * rowWords +
      layout.y), by omega, ?_⟩
    have hsame : 1280 - 1 - (layout.x + (layout.width - 1 - row)) =
        1280 - layout.x - layout.width + row := by omega
    rw [hsame]
    omega
  · rintro ⟨x, hx, y, hy, rfl⟩
    have hsame : 1280 - layout.x - layout.width + (layout.width - 1 - x) =
        1280 - 1 - (layout.x + x) := by omega
    refine ⟨layout.width - 1 - x, by omega, ?_⟩
    rw [hsame]
    omega

end

/-! ### The two ways agree -/

theorem rowWords_ge (scanout : Scanout) : 600 ≤ scanout.rowWords := by
  have hwide := scanout.wide
  simp only [kPhysicalWidth] at hwide
  rw [Scanout.rowWords]
  omega

/-- The staging buffer has room for all rows of the panel. -/
theorem rows_le (scanout : Scanout) : kPhysicalHeight * scanout.rowWords ≤ scanout.mapSize / 2 := by
  have heven := scanout.even
  have hrequired := scanout.required
  rw [Scanout.rowWords, Nat.le_div_iff_mul_le (by decide)]
  calc kPhysicalHeight * (scanout.stride / 2) * 2 = scanout.stride * kPhysicalHeight := by
        simp only [kPhysicalHeight]
        omega
    _ ≤ scanout.mapSize := hrequired

/-- What holds of a picture that was built row after row, next to one that was built pixel after
pixel. -/
structure Agrees (rowWords : ℕ) (layout : DeckScaledLayout) (rows pixels : Canvas UInt16)
    (frame memory : List UInt16) : Prop where
  cells_eq : rows.cells = pixels.cells
  written_iff : ∀ i, i ∈ rows.written ↔ i ∈ pixels.written
  within : ∀ i ∈ rows.written, i < frame.length
  safe : ∀ i ∈ rows.written, ∃ row column, i = row * rowWords + column ∧ 16 ≤ row ∧ row ≤ 1263 ∧
    16 ≤ column ∧ column ≤ 463
  published_iff : ∀ i, i ∈ (publishRectangle rowWords layout rows.cells ⟨memory, []⟩).written ↔
    i ∈ rows.written

/-- **A picture that is built row after row is the one that is built pixel after pixel**: the same
cells are written with the same values, they lie within the safe area, and they are the cells that
are copied to the panel. -/
theorem drawRows_agrees (scanout : Scanout) {width height : ℕ} {layout : DeckScaledLayout}
    (h : deckComputeScaledLayout width height = some layout) (bytes : Pixels) (pitch : ℕ)
    {frame : List UInt16} (hframe : frame.length = scanout.mapSize / 2) (memory : List UInt16) :
    let color := fun x y => readWord bytes (y * pitch + 2 * x)
    Agrees scanout.rowWords layout
      (drawRows scanout.rowWords layout width height color ⟨frame, []⟩)
      (drawPixels scanout.rowWords layout width height color ⟨frame, []⟩) frame memory := by
  intro color
  have hfits := fits_of_layout h
  have hwords := rowWords_ge scanout
  have hroom : kPhysicalHeight * scanout.rowWords ≤ frame.length := hframe ▸ rows_le scanout
  have hrows := draws_drawRows hwords hfits color ⟨frame, []⟩
  have hpixels := draws_drawPixels hwords hfits color ⟨frame, []⟩
  have hwritten : ∀ i,
    i ∈ (drawRows scanout.rowWords layout width height color ⟨frame, []⟩).written ↔
      InPicture scanout.rowWords layout i := by
    intro i
    rw [hrows.written, List.nil_append]
    exact mem_rows hfits
  refine ⟨?_, ?_, ?_, ?_, ?_⟩
  · exact hrows.cells_eq hpixels fun i => (mem_rows hfits).trans (mem_pixels hfits).symm
  · intro i
    rw [hwritten, hpixels.written, List.nil_append]
    exact (mem_pixels hfits).symm
  · intro i hi
    obtain ⟨row, column, rfl, -, hrow, -, hcolumn⟩ := inPicture_safe hfits ((hwritten i).1 hi)
    calc row * scanout.rowWords + column < (row + 1) * scanout.rowWords := by
          rw [Nat.add_mul, Nat.one_mul]
          omega
      _ ≤ kPhysicalHeight * scanout.rowWords :=
          Nat.mul_le_mul_right _ (by simp only [kPhysicalHeight]; omega)
      _ ≤ frame.length := hroom
  · intro i hi
    exact inPicture_safe hfits ((hwritten i).1 hi)
  · intro i
    have hlength := hrows.length
    have hpublish := painted_publishRectangle hwords hfits
      (drawRows scanout.rowWords layout width height color ⟨frame, []⟩).cells
      (by rw [hlength]; exact hroom) ⟨memory, []⟩
    rw [hpublish.written, List.nil_append, mem_publishedCells hfits, hwritten]

/-- The panel of the Deck. -/
def deckPanel : Scanout where
  stride := 1200
  mapSize := 1536000
  even := by decide
  wide := by decide
  required := by decide

/-- A picture of 160 by 144 pixels, which is shown three times as large. -/
theorem drawRows_agrees_handheld :
    let layout : DeckScaledLayout := ⟨3, 400, 24, 480, 432⟩
    let color := fun x y => readWord UInt8.ofNat (y * 320 + 2 * x)
    Agrees 600 layout
      (drawRows 600 layout 160 144 color ⟨List.replicate 768000 0, []⟩)
      (drawPixels 600 layout 160 144 color ⟨List.replicate 768000 0, []⟩)
      (List.replicate 768000 0) (List.replicate 768000 0) :=
  drawRows_agrees deckPanel (by decide) UInt8.ofNat 320 List.length_replicate
    (List.replicate 768000 0)

/-! ### The exit hint -/

/-- The cells of a rectangle of the hint. -/
def rectangleCells (rowStride x y width height : ℕ) : List ℕ :=
  (List.range width).flatMap fun dx =>
    if kPhysicalHeight ≤ x + dx then []
    else (List.range height).flatMap fun dy =>
      if y + dy < 480 then [(kPhysicalHeight - 1 - (x + dx)) * rowStride + (y + dy)] else []

theorem painted_fillLogicalRect (rowStride x y width height : ℕ) (color : UInt16)
    (pixels : Canvas UInt16) :
    Painted (fun _ _ => True) pixels (fillLogicalRect rowStride x y width height color pixels)
      (rectangleCells rowStride x y width height) := by
  refine painted_loop ?_
  intro dx _ pixels _
  dsimp only
  split
  · exact Painted.refl _ pixels
  · refine painted_loop ?_
    intro dy _ pixels _
    split
    · exact painted_put trivial
    · exact Painted.refl _ pixels

/-- The cells of the two bars of the cross, with a border around them. -/
def barCells (rowStride border : ℕ) : List ℕ :=
  (List.range 9).flatMap fun step =>
    rectangleCells rowStride (20 + step * 4 - border) (20 + step * 4 - border) (4 + 2 * border)
        (4 + 2 * border) ++
      rectangleCells rowStride (20 + (8 - step) * 4 - border) (20 + step * 4 - border)
        (4 + 2 * border) (4 + 2 * border)

/-- The hint is drawn into cells of its own, whatever there was before. -/
theorem painted_deckDrawExitHint (rowStride : ℕ) : ∃ indices, ∀ pixels,
    Painted (fun _ _ => True) pixels (deckDrawExitHint rowStride pixels) indices := by
  by_cases hnarrow : rowStride < 600
  · refine ⟨[], ?_⟩
    intro pixels
    rw [deckDrawExitHint, if_pos hnarrow]
    exact Painted.refl _ pixels
  · refine ⟨barCells rowStride 2 ++ barCells rowStride 0, ?_⟩
    intro pixels
    rw [deckDrawExitHint, if_neg hnarrow]
    refine Painted.trans (painted_loop ?_)
      (painted_loop ?_)
    · intro step _ pixels _
      exact (painted_fillLogicalRect ..).trans (painted_fillLogicalRect ..)
    · intro step _ pixels _
      exact (painted_fillLogicalRect ..).trans (painted_fillLogicalRect ..)

theorem painted_exitHint (rowStride : ℕ) (pixels : Canvas UInt16) :
    Painted (fun _ _ => True) pixels (deckDrawExitHint rowStride pixels)
      (exitHintCells rowStride) := by
  obtain ⟨indices, hpainted⟩ := painted_deckDrawExitHint rowStride
  have hcells : exitHintCells rowStride = indices := by
    rw [exitHintCells, (hpainted ⟨[], []⟩).written, List.nil_append]
  rw [hcells]
  exact hpainted pixels

end DeckFramebuffer

/-! ### Runs of calls -/

/-- The picture that a call wants to show; a null pointer shows none. -/
def DeckFramebuffer.Call.picture : DeckFramebuffer.Call → Option Picture
  | .xrgb8888 pixels width height pitch =>
      pixels.map fun bytes =>
        ⟨width, height, fun x y => deckRgb888To565 (readLong bytes (y * pitch + 4 * x))⟩
  | .rgb565 pixels width height pitch =>
      pixels.map fun bytes => ⟨width, height, fun x y => readWord bytes (y * pitch + 2 * x)⟩
  | .indexed pixels width height pitch palette paletteSize =>
      pixels.bind fun bytes => palette.map fun colors =>
        ⟨width, height, fun x y =>
          let index := (bytes (y * pitch + x)).toNat
          deckRgb888To565 (if index < paletteSize then colors index else 0)⟩

/-- A framebuffer, with the picture of the last call that succeeded. -/
structure Screen where
  framebuffer : DeckFramebuffer
  shown : Option Picture

namespace Screen

def opened (scanout : Scanout) (exitHint : Bool) : Screen :=
  ⟨DeckFramebuffer.opened scanout exitHint, none⟩

/-- One call. -/
def react (word : ℕ) (screen : Screen) (call : Call) : Screen :=
  match screen.framebuffer.present word call with
  | (framebuffer, some _) => { screen with framebuffer := framebuffer }
  | (framebuffer, none) => ⟨framebuffer, call.picture⟩

/-- What a cell of the panel should show: the last picture, turned and enlarged, on black. -/
def image (screen : Screen) (i : ℕ) : UInt16 :=
  match screen.shown with
  | none => 0
  | some picture =>
      match deckComputeScaledLayout picture.width picture.height with
      | none => 0
      | some layout => rotated screen.framebuffer.scanout.rowWords layout picture.color i

/-- The cell belongs to the exit hint, and the hint is on. -/
def Hinted (framebuffer : DeckFramebuffer) (i : ℕ) : Prop :=
  framebuffer.exitHint = true ∧ i ∈ exitHintCells framebuffer.scanout.rowWords

/-- **The panel shows the last picture and nothing else**, apart from the exit hint. -/
def Shows (screen : Screen) : Prop :=
  ∀ i < screen.framebuffer.scanout.mapSize / 2, ¬Hinted screen.framebuffer i →
    screen.framebuffer.memory[i]? = some (screen.image i)

/-- The invariant: the panel shows the last picture, the staging buffer is the picture, and its size
is the remembered one. -/
structure Sound (screen : Screen) : Prop where
  length_frame : screen.framebuffer.frame.length = screen.framebuffer.scanout.mapSize / 2
  length_memory : screen.framebuffer.memory.length = screen.framebuffer.scanout.mapSize / 2
  frame : ∀ i < screen.framebuffer.scanout.mapSize / 2,
    screen.framebuffer.frame[i]? = some (screen.image i)
  memory : screen.Shows
  last : ∀ picture, screen.shown = some picture →
    screen.framebuffer.lastSourceWidth = picture.width ∧
      screen.framebuffer.lastSourceHeight = picture.height

theorem sound_opened (scanout : Scanout) (exitHint : Bool) : (opened scanout exitHint).Sound where
  length_frame := List.length_replicate
  length_memory := List.length_replicate
  frame := fun _ hi => List.getElem?_replicate_of_lt hi
  memory := fun _ hi _ => List.getElem?_replicate_of_lt hi
  last := fun _ h => by cases h

/-- What a drawing of a picture does to the staging buffer. -/
def Builds (draw : (rowWords : ℕ) → DeckScaledLayout → (width height : ℕ) →
    (color : ℕ → ℕ → UInt16) →
    Canvas UInt16 → Canvas UInt16) : Prop :=
  ∀ {rowWords : ℕ} {layout : DeckScaledLayout} {width height : ℕ}, 600 ≤ rowWords →
    layout.Fits width height → ∀ color frame, ∃ indices,
      Draws (rotated rowWords layout color) frame (draw rowWords layout width height color frame)
        indices ∧ ∀ i, i ∈ indices ↔ InPicture rowWords layout i

theorem builds_drawPixels : Builds drawPixels := fun hwords hfits color frame =>
  ⟨_, draws_drawPixels hwords hfits color frame, fun _ => mem_pixels hfits⟩

theorem builds_drawRows : Builds drawRows := fun hwords hfits color frame =>
  ⟨_, draws_drawRows hwords hfits color frame, fun _ => mem_rows hfits⟩

/-- **What a call can do**: it fails and leaves everything as it was, or it shows its picture. -/
theorem present_cases (word : ℕ) (self : DeckFramebuffer) (call : Call) :
    (∃ error, self.present word call = (self, some error)) ∨
      ∃ picture draw, call.picture = some picture ∧ Builds draw ∧
        self.present word call = self.showPicture picture draw := by
  cases call with
  | xrgb8888 pixels width height pitch =>
      cases pixels with
      | none => exact Or.inl ⟨_, rfl⟩
      | some bytes =>
          simp only [present, presentXrgb8888]
          split
          · exact Or.inl ⟨_, rfl⟩
          · exact Or.inr ⟨_, drawPixels, rfl, builds_drawPixels, rfl⟩
  | rgb565 pixels width height pitch =>
      cases pixels with
      | none => exact Or.inl ⟨_, rfl⟩
      | some bytes =>
          simp only [present, presentRgb565]
          split
          · exact Or.inl ⟨_, rfl⟩
          · exact Or.inr ⟨_, drawRows, rfl, builds_drawRows, rfl⟩
  | indexed pixels width height pitch palette paletteSize =>
      cases pixels with
      | none => exact Or.inl ⟨_, rfl⟩
      | some bytes =>
          cases palette with
          | none => exact Or.inl ⟨_, rfl⟩
          | some colors =>
              simp only [present, presentIndexed]
              split
              · exact Or.inl ⟨_, rfl⟩
              · exact Or.inr ⟨_, drawPixels, rfl, builds_drawPixels, rfl⟩

/-- Outside the rectangle of a new picture of the same size there is nothing but black. -/
theorem image_eq_zero {screen : Screen} (h : screen.Sound) {layout : DeckScaledLayout}
    (hlayout : deckComputeScaledLayout screen.framebuffer.lastSourceWidth
      screen.framebuffer.lastSourceHeight = some layout) {i : ℕ}
    (hi : ¬InPicture screen.framebuffer.scanout.rowWords layout i) : screen.image i = 0 := by
  cases hshown : screen.shown with
  | none => simp only [image, hshown]
  | some picture =>
      obtain ⟨hwidth, hheight⟩ := h.last picture hshown
      rw [hwidth, hheight] at hlayout
      simp only [image, hshown, hlayout]
      exact rotated_of_not_inPicture picture.color hi

/-- **What `begin_frame` leaves behind**: both buffers are black outside the rectangle of the new
picture, but for the exit hint. -/
structure Begun (before after : DeckFramebuffer) (layout : DeckScaledLayout) (width height : ℕ) :
    Prop where
  scanout : after.scanout = before.scanout
  exitHint : after.exitHint = before.exitHint
  length_frame : after.frame.length = after.scanout.mapSize / 2
  length_memory : after.memory.length = after.scanout.mapSize / 2
  frame : ∀ i < after.scanout.mapSize / 2, ¬InPicture after.scanout.rowWords layout i →
    after.frame[i]? = some 0
  memory : ∀ i < after.scanout.mapSize / 2, ¬InPicture after.scanout.rowWords layout i →
    ¬Hinted after i → after.memory[i]? = some 0
  last : after.lastSourceWidth = width ∧ after.lastSourceHeight = height

theorem begun_of_beginFrame {screen : Screen} (h : screen.Sound) {width height : ℕ}
    {layout : DeckScaledLayout} {self : DeckFramebuffer}
    (hbegin : screen.framebuffer.beginFrame width height = .ok (layout, self)) :
    deckComputeScaledLayout width height = some layout ∧
      Begun screen.framebuffer self layout width height := by
  rw [beginFrame] at hbegin
  split at hbegin
  · cases hbegin
  rename_i layout' hlayout
  split at hbegin
  · cases hbegin
  split at hbegin
  · -- The size is new: everything is cleared.
    cases hbegin
    refine ⟨hlayout, rfl, rfl, ?_, ?_, ?_, ?_, rfl, rfl⟩
    · exact List.length_replicate.trans h.length_frame
    · exact List.length_replicate.trans h.length_memory
    · intro i hi _
      exact List.getElem?_replicate_of_lt (h.length_frame ▸ hi)
    · intro i hi _ _
      exact List.getElem?_replicate_of_lt (h.length_memory ▸ hi)
  · next hsame =>
      -- The size is the one of the last picture, and so is the place.
      cases hbegin
      rw [not_or, not_not, not_not] at hsame
      have hblack : ∀ i, ¬InPicture screen.framebuffer.scanout.rowWords layout i →
          screen.image i = 0 := by
        intro i hi
        exact image_eq_zero h (hsame.1 ▸ hsame.2 ▸ hlayout) hi
      refine ⟨hlayout, rfl, rfl, h.length_frame, h.length_memory, ?_, ?_, hsame.1.symm,
        hsame.2.symm⟩
      · intro i hi hout
        rw [h.frame i hi, hblack i hout]
      · intro i hi hout hhint
        rw [h.memory i hi hhint, hblack i hout]

/-- The staging buffer after a drawing. -/
theorem frame_drawn {self : DeckFramebuffer} {layout : DeckScaledLayout}
    {before : DeckFramebuffer} {width height : ℕ} (hbegun : Begun before self layout width height)
    {color : ℕ → ℕ → UInt16} {drawn : Canvas UInt16} {indices : List ℕ}
    (hdraws : Draws (rotated self.scanout.rowWords layout color) ⟨self.frame, []⟩ drawn indices)
    (hmem : ∀ i, i ∈ indices ↔ InPicture self.scanout.rowWords layout i) {i : ℕ}
    (hi : i < self.scanout.mapSize / 2) :
    drawn.cells[i]? = some (rotated self.scanout.rowWords layout color i) := by
  by_cases hin : InPicture self.scanout.rowWords layout i
  · exact hdraws.getElem?_of_mem ((hmem i).2 hin) (hbegun.length_frame ▸ hi)
  · rw [hdraws.kept i (mt (hmem i).1 hin), hbegun.frame i hi hin,
      rotated_of_not_inPicture color hin]

/-- The panel after the rectangle of the picture was copied. -/
theorem memory_published {self : DeckFramebuffer} {layout : DeckScaledLayout}
    {before : DeckFramebuffer} {width height : ℕ} (hbegun : Begun before self layout width height)
    (hfits : layout.Fits width height) {color : ℕ → ℕ → UInt16} {frame : List UInt16}
    (hlength : frame.length = self.scanout.mapSize / 2)
    (hframe : ∀ i < self.scanout.mapSize / 2,
      frame[i]? = some (rotated self.scanout.rowWords layout color i)) {i : ℕ}
    (hi : i < self.scanout.mapSize / 2) (hhint : ¬Hinted self i) :
    (publishRectangle self.scanout.rowWords layout frame ⟨self.memory, []⟩).cells[i]? =
      some (rotated self.scanout.rowWords layout color i) := by
  have hpublish := painted_publishRectangle (rowWords_ge self.scanout) hfits frame
    (hlength ▸ rows_le self.scanout) ⟨self.memory, []⟩
  by_cases hin : InPicture self.scanout.rowWords layout i
  · have hlt : i < (publishRectangle self.scanout.rowWords layout frame
        ⟨self.memory, []⟩).cells.length := by
      rw [hpublish.length, hbegun.length_memory]
      exact hi
    have hcopied := hpublish.painted i ((mem_publishedCells hfits).2 hin) _
      (List.getElem?_eq_getElem hlt)
    rw [List.getElem?_eq_getElem hlt, ← hcopied, hframe i hi]
  · rw [hpublish.kept i (mt (mem_publishedCells hfits).1 hin), hbegun.memory i hi hin hhint,
      rotated_of_not_inPicture color hin]

/-- The exit hint changes its own cells only. -/
theorem getElem?_hinted {self : DeckFramebuffer} {memory : List UInt16} {i : ℕ}
    (hhint : ¬Hinted self i) :
    (if self.exitHint then (deckDrawExitHint self.scanout.rowWords ⟨memory, []⟩).cells
      else memory)[i]? = memory[i]? := by
  split
  · next hon =>
      exact (painted_exitHint self.scanout.rowWords ⟨memory, []⟩).kept i fun hmem =>
        hhint ⟨hon, hmem⟩
  · rfl

theorem length_hinted (self : DeckFramebuffer) (memory : List UInt16) :
    (if self.exitHint then (deckDrawExitHint self.scanout.rowWords ⟨memory, []⟩).cells
      else memory).length = memory.length := by
  split
  · exact (painted_exitHint self.scanout.rowWords ⟨memory, []⟩).length
  · rfl

/-- **A call keeps the invariant.** -/
theorem sound_react {word : ℕ} (screen : Screen) (call : Call) (h : screen.Sound) :
    (screen.react word call).Sound := by
  rw [react]
  rcases present_cases word screen.framebuffer call with ⟨error, hfail⟩ |
    ⟨picture, draw, hpicture, hbuilds, hshow⟩
  · rw [hfail]
    exact h
  rw [hshow, showPicture]
  cases hbegin : screen.framebuffer.beginFrame picture.width picture.height with
  | error error => exact h
  | ok begun =>
      obtain ⟨layout, self⟩ := begun
      obtain ⟨hlayout, hbegun⟩ := begun_of_beginFrame h hbegin
      have hfits := fits_of_layout hlayout
      obtain ⟨indices, hdraws, hmem⟩ :=
        hbuilds (rowWords_ge self.scanout) hfits picture.color ⟨self.frame, []⟩
      have hlength := hdraws.length.trans hbegun.length_frame
      have hframe := fun i hi => frame_drawn hbegun hdraws hmem (i := i) hi
      dsimp only
      rw [hpicture]
      refine ⟨hlength, ?_, ?_, ?_, ?_⟩
      · refine (length_hinted _ _).trans ?_
        have hpublish := painted_publishRectangle (rowWords_ge self.scanout) hfits _
          (hlength ▸ rows_le self.scanout) ⟨self.memory, []⟩
        exact hpublish.length.trans hbegun.length_memory
      · intro i hi
        simp only [image, hlayout]
        exact hframe i hi
      · intro i hi hhint
        simp only [image, hlayout]
        refine (getElem?_hinted hhint).trans ?_
        exact memory_published hbegun hfits hlength hframe hi hhint
      · rintro picture' hshown
        cases hshown
        exact hbegun.last

/-- **After every run of calls the panel shows the last picture that was accepted**, turned and
enlarged on black, apart from the cells of the exit hint when it is on. -/
theorem shows_run (word : ℕ) (scanout : Scanout) (exitHint : Bool) (calls : List Call) :
    (calls.foldl (react word) (opened scanout exitHint)).Shows :=
  (Run.invariant sound_react (sound_opened scanout exitHint) calls).memory

end Screen

end NesDeck
