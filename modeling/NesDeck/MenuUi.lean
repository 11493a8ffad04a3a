/-
**Rectangles and text on the canvas.**

`menu_ui.cpp` draws everything with `fill_rect`, which clips a rectangle to the canvas of
1280 × 480 pixels and fills each row of what is left with `std::fill`.  The four sides are clipped
one by one, so that a rectangle far to the left ends before it begins.

The drawing functions are modelled by the rectangles that they hand to `fill_rect`, in order.

Main definitions:

* `NesDeck.MenuUi.Rect`, `NesDeck.MenuUi.fillRect` — rectangles, and the calls of `std::fill`;
* `NesDeck.MenuUi.Rect.Sound` — the calls are legal and paint what they should;
* `NesDeck.MenuUi.strokeRect`, `NesDeck.MenuUi.drawCenteredText`, … — the drawing functions;
* `NesDeck.MenuUi.Within` — rectangles between two columns.

Main results:

* `NesDeck.MenuUi.Rect.sound_iff` — **a rectangle is painted soundly exactly if its visible rows
  do not end before they begin**;
* `NesDeck.MenuUi.within_drawCenteredText` — text that fits stays between the sides of its bounds.
-/

import NesDeck.MenuText

set_option relaxedAutoImplicit false
set_option autoImplicit false

namespace NesDeck.MenuUi

open HostFile (Bytes ascii)
open MenuText

def kLogicalWidth : ℤ := 1280

def kLogicalHeight : ℤ := 480

def kBitmapGlyphWidth : ℕ := 5

def kBitmapGlyphHeight : ℕ := 7

def kBitmapGlyphAdvance : ℕ := 6

/-! ### Rectangles -/

structure Rect where
  x : ℤ
  y : ℤ
  width : ℤ
  height : ℤ
  deriving DecidableEq

def Rect.contains (rect : Rect) (px py : ℤ) : Bool :=
  rect.x ≤ px ∧ rect.y ≤ py ∧ px < rect.x + rect.width ∧ py < rect.y + rect.height

/-- One call of `std::fill`: the row it is meant for, and the range as offsets into the canvas. -/
structure Span where
  row : ℤ
  start : ℤ
  stop : ℤ
  deriving DecidableEq

/-- `fill_rect`: the calls of `std::fill`. -/
def fillRect (rect : Rect) : List Span :=
  let left := max 0 rect.x
  let top := max 0 rect.y
  let right := min kLogicalWidth (rect.x + rect.width)
  let bottom := min kLogicalHeight (rect.y + rect.height)
  (List.range (bottom - top).toNat).map fun (i : ℕ) =>
    let y := top + i
    ⟨y, y * kLogicalWidth + left, y * kLogicalWidth + right⟩

/-- A call is legal: it does not end before it begins, and it stays in its row. -/
structure Span.Legal (span : Span) : Prop where
  row : 0 ≤ span.row ∧ span.row < kLogicalHeight
  start : span.row * kLogicalWidth ≤ span.start
  ordered : span.start ≤ span.stop
  stop : span.stop ≤ (span.row + 1) * kLogicalWidth

/-- The pixels that a legal call paints. -/
def Span.paints (span : Span) (px py : ℤ) : Prop :=
  span.start ≤ py * kLogicalWidth + px ∧ py * kLogicalWidth + px < span.stop

/-- The calls for a rectangle are legal, and together they paint its part of the canvas. -/
structure Rect.Sound (rect : Rect) : Prop where
  legal : ∀ span ∈ fillRect rect, span.Legal
  exact : ∀ px py, 0 ≤ px → px < kLogicalWidth → 0 ≤ py → py < kLogicalHeight →
    ((∃ span ∈ fillRect rect, span.paints px py) ↔ rect.contains px py = true)

theorem mem_fillRect {rect : Rect} {span : Span} :
    span ∈ fillRect rect ↔
      max 0 rect.y ≤ span.row ∧ span.row < min kLogicalHeight (rect.y + rect.height) ∧
        span.start = span.row * kLogicalWidth + max 0 rect.x ∧
        span.stop = span.row * kLogicalWidth + min kLogicalWidth (rect.x + rect.width) := by
  rw [fillRect, List.mem_map]
  constructor
  · rintro ⟨i, hi, rfl⟩
    rw [List.mem_range] at hi
    dsimp only
    refine ⟨?_, ?_, rfl, rfl⟩
    · omega
    · omega
  · rintro ⟨hlow, hhigh, hstart, hstop⟩
    refine ⟨(span.row - max 0 rect.y).toNat, ?_, ?_⟩
    · rw [List.mem_range]
      omega
    · have hrow : max 0 rect.y + ((span.row - max 0 rect.y).toNat : ℤ) = span.row := by omega
      rw [hrow]
      dsimp only
      rw [← hstart, ← hstop]

/-- **A rectangle is painted soundly** exactly if its visible rows, when there are any, do not end
before they begin. -/
theorem Rect.sound_iff (rect : Rect) :
    rect.Sound ↔
      (max 0 rect.y < min kLogicalHeight (rect.y + rect.height) →
        max 0 rect.x ≤ min kLogicalWidth (rect.x + rect.width)) := by
  simp only [kLogicalHeight, kLogicalWidth]
  constructor
  · intro hsound hvisible
    -- the first visible row
    have hmem : (⟨max 0 rect.y, max 0 rect.y * kLogicalWidth + max 0 rect.x,
        max 0 rect.y * kLogicalWidth + min kLogicalWidth (rect.x + rect.width)⟩ : Span) ∈
          fillRect rect :=
      mem_fillRect.2 ⟨Int.le_refl (max 0 rect.y), hvisible, rfl, rfl⟩
    have hlegal := hsound.legal _ hmem
    have := hlegal.ordered
    simp only [kLogicalWidth] at this
    omega
  · intro hordered
    constructor
    · intro span hspan
      obtain ⟨hlow, hhigh, hstart, hstop⟩ := mem_fillRect.1 hspan
      simp only [kLogicalHeight, kLogicalWidth] at hhigh hstart hstop
      have := hordered (by omega)
      refine ⟨⟨by omega, ?_⟩, ?_, by omega, ?_⟩
      · simp only [kLogicalHeight]
        omega
      · simp only [kLogicalWidth]
        omega
      · simp only [kLogicalWidth]
        omega
    · intro px py hpx hpx' hpy hpy'
      simp only [kLogicalWidth, kLogicalHeight] at hpx' hpy'
      constructor
      · rintro ⟨span, hspan, hstart', hstop'⟩
        obtain ⟨hlow, hhigh, hstart, hstop⟩ := mem_fillRect.1 hspan
        simp only [kLogicalHeight, kLogicalWidth] at hhigh hstart hstop hstart' hstop'
        have hrow : span.row = py := by omega
        simp only [Rect.contains, decide_eq_true_eq]
        omega
      · intro hcontains
        simp only [Rect.contains, decide_eq_true_eq] at hcontains
        refine ⟨⟨py, py * kLogicalWidth + max 0 rect.x,
          py * kLogicalWidth + min kLogicalWidth (rect.x + rect.width)⟩, ?_, ?_⟩
        · rw [mem_fillRect]
          simp only [kLogicalHeight, and_true]
          omega
        · simp only [Span.paints, kLogicalWidth]
          omega

/-! ### Drawing rectangles -/

/-- One call of `fill_rect`. -/
structure Fill where
  rect : Rect
  color : UInt16

def strokeRect (rect : Rect) (thickness : ℤ) (color : UInt16) : List Fill :=
  [⟨⟨rect.x, rect.y, rect.width, thickness⟩, color⟩,
   ⟨⟨rect.x, rect.y + rect.height - thickness, rect.width, thickness⟩, color⟩,
   ⟨⟨rect.x, rect.y, thickness, rect.height⟩, color⟩,
   ⟨⟨rect.x + rect.width - thickness, rect.y, thickness, rect.height⟩, color⟩]

def fillPixelCutRect (rect : Rect) (cut : ℤ) (color : UInt16) : List Fill :=
  if rect.width ≤ cut * 2 ∨ rect.height ≤ cut * 2 then []
  else
    [⟨⟨rect.x + cut, rect.y, rect.width - cut * 2, rect.height⟩, color⟩,
     ⟨⟨rect.x, rect.y + cut, rect.width, rect.height - cut * 2⟩, color⟩]

/-! ### The bitmap font -/

/-- The rows of the digits. -/
def digits : List (List ℕ) :=
  [[14, 17, 19, 21, 25, 17, 14], [4, 12, 4, 4, 4, 4, 14], [14, 17, 1, 2, 4, 8, 31],
   [30, 1, 1, 14, 1, 1, 30], [2, 6, 10, 18, 31, 2, 2], [31, 16, 16, 30, 1, 1, 30],
   [14, 16, 16, 30, 17, 17, 14], [31, 1, 2, 4, 8, 8, 8], [14, 17, 17, 14, 17, 17, 14],
   [14, 17, 17, 15, 1, 1, 14]]

/-- The rows of the capital letters. -/
def letters : List (List ℕ) :=
  [[14, 17, 17, 31, 17, 17, 17], [30, 17, 17, 30, 17, 17, 30], [14, 17, 16, 16, 16, 17, 14],
   [30, 17, 17, 17, 17, 17, 30], [31, 16, 16, 30, 16, 16, 31], [31, 16, 16, 30, 16, 16, 16],
   [14, 17, 16, 23, 17, 17, 15], [17, 17, 17, 31, 17, 17, 17], [14, 4, 4, 4, 4, 4, 14],
   [7, 2, 2, 2, 18, 18, 12], [17, 18, 20, 24, 20, 18, 17], [16, 16, 16, 16, 16, 16, 31],
   [17, 27, 21, 21, 17, 17, 17], [17, 25, 21, 19, 17, 17, 17], [14, 17, 17, 17, 17, 17, 14],
   [30, 17, 17, 30, 16, 16, 16], [14, 17, 17, 17, 21, 18, 13], [30, 17, 17, 30, 20, 18, 17],
   [15, 16, 16, 14, 1, 1, 30], [31, 4, 4, 4, 4, 4, 4], [17, 17, 17, 17, 17, 17, 14],
   [17, 17, 17, 17, 17, 10, 4], [17, 17, 17, 17, 21, 21, 10], [17, 17, 10, 4, 10, 17, 17],
   [17, 17, 10, 4, 4, 4, 4], [31, 1, 2, 4, 8, 16, 31]]

/-- The rows of the small letters. -/
def lowercase : List (List ℕ) :=
  [[0, 0, 14, 1, 15, 17, 15], [16, 16, 30, 17, 17, 17, 30], [0, 0, 14, 16, 16, 17, 14],
   [1, 1, 15, 17, 17, 17, 15], [0, 0, 14, 17, 31, 16, 14], [6, 9, 8, 28, 8, 8, 8],
   [0, 0, 15, 17, 15, 1, 14], [16, 16, 30, 17, 17, 17, 17], [4, 0, 12, 4, 4, 4, 14],
   [2, 0, 6, 2, 2, 18, 12], [16, 16, 18, 20, 24, 20, 18], [12, 4, 4, 4, 4, 4, 14],
   [0, 0, 26, 21, 21, 17, 17], [0, 0, 30, 17, 17, 17, 17], [0, 0, 14, 17, 17, 17, 14],
   [0, 0, 30, 17, 30, 16, 16], [0, 0, 15, 17, 15, 1, 1], [0, 0, 22, 25, 16, 16, 16],
   [0, 0, 15, 16, 14, 1, 30], [8, 8, 28, 8, 8, 9, 6], [0, 0, 17, 17, 17, 19, 13],
   [0, 0, 17, 17, 17, 10, 4], [0, 0, 17, 17, 21, 21, 10], [0, 0, 17, 10, 4, 10, 17],
   [0, 0, 17, 17, 15, 1, 14], [0, 0, 31, 2, 4, 8, 31]]

/-- The rows of the other characters that the font knows. -/
def symbols : List (UInt8 × List ℕ) :=
  [(0x20, [0, 0, 0, 0, 0, 0, 0]), (0x2e, [0, 0, 0, 0, 0, 6, 6]), (0x2c, [0, 0, 0, 0, 6, 6, 4]),
   (0x3a, [0, 6, 6, 0, 6, 6, 0]), (0x2d, [0, 0, 0, 31, 0, 0, 0]), (0x2f, [1, 2, 2, 4, 8, 8, 16]),
   (0x2b, [0, 4, 4, 31, 4, 4, 0]), (0x21, [4, 4, 4, 4, 4, 0, 4]),
   (0x3f, [14, 17, 1, 2, 4, 0, 4]), (0x27, [4, 4, 8, 0, 0, 0, 0]), (0x28, [2, 4, 8, 8, 8, 4, 2]),
   (0x29, [8, 4, 2, 2, 2, 4, 8]), (0x26, [12, 18, 20, 8, 21, 18, 13]),
   (0x23, [10, 10, 31, 10, 31, 10, 10]), (0x5f, [0, 0, 0, 0, 0, 0, 31]),
   (0x3b, [0, 6, 6, 0, 6, 6, 4]), (0x3d, [0, 31, 0, 31, 0, 0, 0]),
   (0x22, [10, 10, 20, 0, 0, 0, 0]), (0x2a, [0, 21, 14, 31, 14, 21, 0]),
   (0x25, [25, 25, 2, 4, 8, 19, 19]), (0x5e, [4, 10, 17, 0, 0, 0, 0]),
   (0x7c, [4, 4, 4, 4, 4, 4, 4]), (0x5c, [16, 8, 8, 4, 2, 2, 1]), (0x3c, [2, 4, 8, 16, 8, 4, 2]),
   (0x3e, [8, 4, 2, 1, 2, 4, 8]), (0x5b, [14, 8, 8, 8, 8, 8, 14]),
   (0x5d, [14, 2, 2, 2, 2, 2, 14]), (0x7b, [6, 4, 4, 24, 4, 4, 6]),
   (0x7d, [12, 4, 4, 3, 4, 4, 12]), (0x40, [14, 17, 23, 21, 23, 16, 14]),
   (0x24, [4, 15, 20, 14, 5, 30, 4]), (0x60, [8, 4, 0, 0, 0, 0, 0]),
   (0x7e, [0, 0, 9, 22, 0, 0, 0])]

/-- `glyph_rows`: the seven rows of a character, five bits each. -/
def glyphRows (character : UInt8) : List ℕ :=
  if 0x61 ≤ character ∧ character ≤ 0x7a then lowercase.getD (character - 0x61).toNat []
  else if 0x41 ≤ character ∧ character ≤ 0x5a then letters.getD (character - 0x41).toNat []
  else if 0x30 ≤ character ∧ character ≤ 0x39 then digits.getD (character - 0x30).toNat []
  else (symbols.lookup character).getD [14, 17, 1, 2, 4, 0, 4]

def bitmapGlyphPixel (character : UInt8) (column row : ℕ) : Bool :=
  ((glyphRows character).getD row 0).testBit (kBitmapGlyphWidth - 1 - column)

def drawCharacter (x y : ℤ) (character : UInt8) (scale : ℕ) (color : UInt16) : List Fill :=
  (List.range kBitmapGlyphHeight).flatMap fun row =>
    (List.range kBitmapGlyphWidth).flatMap fun column =>
      if bitmapGlyphPixel character column row = true then
        [⟨⟨x + column * scale, y + row * scale, scale, scale⟩, color⟩]
      else []

/-! ### Text -/

/-- `text_width`.  The source multiplies in `int`, at scales of at most 6: only a text of tens of
millions of characters would overflow.  A title has 64 characters, a message names one path, and no
file whose lines the menu shows has more than 65536 bytes. -/
def textWidth (text : Bytes) (scale : ℕ) : ℤ :=
  if text = [] then 0 else text.length * kBitmapGlyphAdvance * scale - scale

def drawText (x y : ℤ) (utf8Text : Bytes) (scale : ℕ) (color : UInt16) : List Fill :=
  (displayAscii utf8Text).zipIdx.flatMap fun (character, i) =>
    drawCharacter (x + i * kBitmapGlyphAdvance * scale) y character scale color

def drawCenteredText (bounds : Rect) (text : Bytes) (scale : ℕ) (color : UInt16) : List Fill :=
  let shown := displayAscii text
  let width := textWidth shown scale
  let height : ℤ := kBitmapGlyphHeight * scale
  drawText (bounds.x + max 0 ((bounds.width - width).tdiv 2))
    (bounds.y + max 0 ((bounds.height - height).tdiv 2)) shown scale color

/-- The largest scale from `preferred` down to `minimum` at which the text fits. -/
def fitTextScale (text : Bytes) (maximumWidth : ℤ) (preferred minimum : ℕ) : ℕ :=
  let shown := displayAscii text
  ((List.range' minimum (preferred + 1 - minimum)).reverse.find? fun scale =>
    textWidth shown scale ≤ maximumWidth).getD minimum

/-- A text that is too wide is cut, with three dots at its end where there is room for them. -/
def fitTextWidth (text : Bytes) (maximumWidth : ℤ) (scale : ℕ) : Bytes :=
  let shown := displayAscii text
  if textWidth shown scale ≤ maximumWidth then shown
  else
    let characterWidth : ℤ := kBitmapGlyphAdvance * scale
    let capacity : ℕ :=
      if 0 < maximumWidth then ((maximumWidth + scale).tdiv characterWidth).toNat else 0
    if capacity = 0 then []
    else if capacity ≤ 3 then shown.take capacity
    else shown.take (capacity - 3) ++ ascii "..."

/-! ### Staying between two columns -/

/-- The rectangles lie between the two columns, and none has a negative width. -/
def Within (left right : ℤ) (fills : List Fill) : Prop :=
  ∀ fill ∈ fills, left ≤ fill.rect.x ∧ 0 ≤ fill.rect.width ∧ fill.rect.x + fill.rect.width ≤ right

section Within

variable {left right : ℤ} {fills fills' : List Fill}

@[simp] theorem within_nil : Within left right [] := fun _ h => absurd h List.not_mem_nil

@[simp] theorem within_cons {fill : Fill} :
    Within left right (fill :: fills) ↔
      (left ≤ fill.rect.x ∧ 0 ≤ fill.rect.width ∧ fill.rect.x + fill.rect.width ≤ right) ∧
        Within left right fills := by
  simp [Within]

@[simp] theorem within_append :
    Within left right (fills ++ fills') ↔ Within left right fills ∧ Within left right fills' := by
  simp only [Within, List.mem_append]
  exact ⟨fun h => ⟨fun fill hmem => h fill (Or.inl hmem), fun fill hmem => h fill (Or.inr hmem)⟩,
    fun h fill hmem => hmem.elim (h.1 fill) (h.2 fill)⟩

theorem within_flatMap {β : Type*} {l : List β} {f : β → List Fill}
    (h : ∀ b ∈ l, Within left right (f b)) : Within left right (l.flatMap f) := by
  intro fill hmem
  obtain ⟨b, hb, hfill⟩ := List.mem_flatMap.1 hmem
  exact h b hb fill hfill

theorem Within.mono {left' right' : ℤ} (h : Within left right fills) (hleft : left' ≤ left)
    (hright : right ≤ right') : Within left' right' fills := by
  intro fill hmem
  obtain ⟨hx, hwidth, hend⟩ := h fill hmem
  exact ⟨by omega, hwidth, by omega⟩

/-- **Rectangles between the sides of the canvas are painted soundly**, wherever their rows are. -/
theorem Within.sound (h : Within 0 kLogicalWidth fills) :
    ∀ fill ∈ fills, fill.rect.Sound := by
  intro fill hmem
  obtain ⟨hx, hwidth, hend⟩ := h fill hmem
  rw [Rect.sound_iff]
  intro _
  simp only [kLogicalWidth] at hend ⊢
  omega

theorem within_strokeRect {rect : Rect} {thickness : ℤ} (color : UInt16) (hx : left ≤ rect.x)
    (hend : rect.x + rect.width ≤ right) (hthickness : 0 ≤ thickness)
    (hwidth : thickness ≤ rect.width) : Within left right (strokeRect rect thickness color) := by
  simp only [strokeRect, within_cons, within_nil, and_true]
  omega

theorem within_fillPixelCutRect {rect : Rect} {cut : ℤ} (color : UInt16) (hx : left ≤ rect.x)
    (hend : rect.x + rect.width ≤ right) (hcut : 0 ≤ cut) :
    Within left right (fillPixelCutRect rect cut color) := by
  rw [fillPixelCutRect]
  split
  · exact within_nil
  · simp only [within_cons, within_nil, and_true]
    omega

/-- The pixels of a character lie in its five columns. -/
theorem within_drawCharacter (x y : ℤ) (character : UInt8) (scale : ℕ) (color : UInt16) :
    Within x (x + kBitmapGlyphWidth * scale) (drawCharacter x y character scale color) := by
  refine within_flatMap ?_
  intro row _
  refine within_flatMap ?_
  intro column hcolumn
  split
  · rw [List.mem_range] at hcolumn
    have hle : ((column : ℤ) + 1) * scale ≤ kBitmapGlyphWidth * scale :=
      Int.mul_le_mul_of_nonneg_right (by omega) (Int.natCast_nonneg scale)
    rw [Int.add_mul, Int.one_mul] at hle
    have hnonneg : 0 ≤ (column : ℤ) * scale := Int.mul_nonneg (by omega) (by omega)
    simp only [within_cons, within_nil, and_true]
    omega
  · exact within_nil

/-- Text reaches from its origin to its width. -/
theorem within_drawText (x y : ℤ) (text : Bytes) (scale : ℕ) (color : UInt16) :
    Within x (x + textWidth (displayAscii text) scale) (drawText x y text scale color) := by
  refine within_flatMap ?_
  intro entry hentry
  obtain ⟨character, i⟩ := entry
  have hi : i < (displayAscii text).length := by
    have := List.mem_zipIdx hentry
    omega
  have hne : displayAscii text ≠ [] := List.ne_nil_of_length_pos (by omega)
  have hnonneg : 0 ≤ (i : ℤ) * kBitmapGlyphAdvance * scale :=
    Int.mul_nonneg (Int.mul_nonneg (by omega) (by omega)) (by omega)
  have hlast : ((i : ℤ) * kBitmapGlyphAdvance + kBitmapGlyphWidth + 1) * scale ≤
      (displayAscii text).length * kBitmapGlyphAdvance * scale := by
    refine Int.mul_le_mul_of_nonneg_right ?_ (Int.natCast_nonneg scale)
    simp only [kBitmapGlyphAdvance, kBitmapGlyphWidth]
    omega
  rw [Int.add_mul, Int.add_mul, Int.one_mul] at hlast
  rw [textWidth, if_neg hne]
  exact (within_drawCharacter _ y character scale color).mono (by omega) (by omega)

/-- **Text that fits stays between the sides of its bounds.** -/
theorem within_drawCenteredText {bounds : Rect} {text : Bytes} {scale : ℕ} (color : UInt16)
    (hx : left ≤ bounds.x) (hend : bounds.x + bounds.width ≤ right)
    (hfits : textWidth (displayAscii text) scale ≤ bounds.width) :
    Within left right (drawCenteredText bounds text scale color) := by
  have hdiv : (bounds.width - textWidth (displayAscii text) scale).tdiv 2 =
      (bounds.width - textWidth (displayAscii text) scale) / 2 :=
    Int.tdiv_eq_ediv_of_nonneg (by omega)
  have h := within_drawText
    (bounds.x + max 0 ((bounds.width - textWidth (displayAscii text) scale).tdiv 2))
    (bounds.y + max 0 ((bounds.height - (kBitmapGlyphHeight * scale : ℤ)).tdiv 2))
    (displayAscii text) scale color
  rw [displayAscii_displayAscii] at h
  exact h.mono (by omega) (by omega)

end Within

/-! ### Fitting text -/

theorem textWidth_eq {text : Bytes} (scale : ℕ) (h : text ≠ []) :
    textWidth text scale = text.length * 6 * scale - scale := by
  rw [textWidth, if_neg h]
  rfl

/-- At the scale that `fit_text_scale` chooses the text fits, if it does at the smallest one. -/
theorem textWidth_fitTextScale {text : Bytes} {maximumWidth : ℤ} {preferred minimum : ℕ}
    (h : textWidth (displayAscii text) minimum ≤ maximumWidth) :
    textWidth (displayAscii text) (fitTextScale text maximumWidth preferred minimum) ≤
      maximumWidth := by
  rw [fitTextScale]
  cases hfind : (List.range' minimum (preferred + 1 - minimum)).reverse.find? fun scale =>
      textWidth (displayAscii text) scale ≤ maximumWidth with
  | none => exact h
  | some scale =>
      have hscale := List.find?_some hfind
      exact of_decide_eq_true hscale

theorem textWidth_mono {text text' : Bytes} (h : text.length ≤ text'.length) (scale : ℕ) :
    textWidth text scale ≤ textWidth text' scale := by
  have hmul : (text.length : ℤ) * 6 * scale ≤ text'.length * 6 * scale :=
    Int.mul_le_mul_of_nonneg_right (by omega) (Int.natCast_nonneg scale)
  by_cases hnil' : text' = []
  · have hnil : text = [] := List.length_eq_zero_iff.1 (by simpa [hnil'] using h)
    exact Int.le_of_eq (by rw [hnil, hnil'])
  have hpos : 0 < text'.length := List.length_pos_of_ne_nil hnil'
  have hone : (1 : ℤ) * scale ≤ text'.length * 6 * scale :=
    Int.mul_le_mul_of_nonneg_right (by omega) (Int.natCast_nonneg scale)
  rw [textWidth_eq scale hnil']
  by_cases hnil : text = []
  · rw [hnil, textWidth, if_pos rfl]
    omega
  · rw [textWidth_eq scale hnil]
    omega

/-- A text of at most `n` characters. -/
theorem textWidth_le_of_length_le {text : Bytes} {n : ℕ} (scale : ℕ) (hn : 0 < n)
    (h : text.length ≤ n) : textWidth text scale ≤ n * 6 * scale - scale := by
  have hreplicate : List.replicate n (0 : UInt8) ≠ [] := by
    rw [Ne, List.replicate_eq_nil_iff]
    omega
  have hlength : text.length ≤ (List.replicate n (0 : UInt8)).length := by
    rw [List.length_replicate]
    exact h
  have hmono := textWidth_mono hlength scale
  rwa [textWidth_eq scale hreplicate, List.length_replicate] at hmono

/-- The text that `fit_text_width` returns fits. -/
theorem textWidth_fitTextWidth (text : Bytes) {maximumWidth : ℤ} {scale : ℕ}
    (hmax : 0 ≤ maximumWidth) (hscale : 0 < scale) :
    textWidth (displayAscii (fitTextWidth text maximumWidth scale)) scale ≤ maximumWidth := by
  refine Int.le_trans (textWidth_mono (length_displayAscii_le _) scale) ?_
  rw [fitTextWidth]
  dsimp only
  split
  · assumption
  generalize hcapacity : (if 0 < maximumWidth then
    ((maximumWidth + scale).tdiv ((kBitmapGlyphAdvance : ℤ) * scale)).toNat else 0) = capacity
  split
  · exact hmax
  rename_i hpos
  -- as many characters as the capacity says are not wider than allowed
  have hfits : (capacity : ℤ) * 6 * scale - scale ≤ maximumWidth := by
    split at hcapacity
    · rw [Int.tdiv_eq_ediv_of_nonneg (by omega)] at hcapacity
      have hdiv := Int.ediv_mul_le (maximumWidth + scale)
        (show (kBitmapGlyphAdvance : ℤ) * scale ≠ 0 by simp only [kBitmapGlyphAdvance]; omega)
      have hcast : (capacity : ℤ) =
          (maximumWidth + scale) / ((kBitmapGlyphAdvance : ℤ) * scale) := by omega
      rw [← hcast, ← Int.mul_assoc] at hdiv
      have hsix : (capacity : ℤ) * (kBitmapGlyphAdvance : ℤ) * scale ≤ maximumWidth + scale := hdiv
      simp only [kBitmapGlyphAdvance] at hsix
      push_cast at hsix
      omega
    · omega
  refine Int.le_trans (textWidth_le_of_length_le scale (Nat.pos_of_ne_zero hpos) ?_) hfits
  split
  · rw [List.length_take]
    omega
  · have hdots : (ascii "...").length = 3 := by decide
    rw [List.length_append, List.length_take, hdots]
    omega

end NesDeck.MenuUi
