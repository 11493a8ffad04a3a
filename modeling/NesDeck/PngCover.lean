/-
**Covers that are pictures of any size.**

A cover may also be a PNG picture of at most 2048 by 2048 pixels (`load_png_cover_image` in
`deck_menu.cpp`). It is made smaller until it has at most 600 by 378 pixels, its transparent pixels
are blended with the colour of the game, and its colours are replaced by the nearest xterm colours,
which a table holds. The menu shows the square in the middle of a cover (`draw_cover_square`). A
read or a store outside a vector has no result here.

The decoder of the pictures is a library of which only the outcomes of its two calls are used.

Main definitions:

* `NesDeck.PngCover.xtermQuantizationTable` — the table of the nearest colours;
* `NesDeck.PngCover.scaleCover`, `NesDeck.PngCover.loadPngCoverImage` — the cover of a picture, and
  of a file;
* `NesDeck.PngCover.drawCoverSquare` — what is stored into the canvas for a cover;
* `NesDeck.PngCover.ScaledInRange`, `NesDeck.PngCover.SquareDrawn` — what is in range, and what is
  drawn.

Main results:

* `NesDeck.PngCover.getElem?_xtermQuantizationTable`, `NesDeck.PngCover.nearestPixel_spec` — the
  entries of the table are nearest;
* `NesDeck.PngCover.background_of_applicationGames` — the colour of a game has bytes as components;
* `NesDeck.PngCover.scaleCover_eq_some` — every picture has a cover;
* `NesDeck.PngCover.drawCoverSquare_eq_some` — a cover is drawn pixel by pixel;
* `NesDeck.PngCover.loadPngCoverImage_inRange` — **the sizes, the reads, the blended colours and the
  indices are in range, and the square of the cover fills its bounds**.
-/

import NesDeck.Lib.Painting
import NesDeck.MenuUi
import NesDeck.PpmCover

set_option relaxedAutoImplicit false
set_option autoImplicit false

namespace NesDeck.PngCover

open HostFile
open MenuUi (Rect kLogicalWidth kLogicalHeight)
open Painting
open PpmCover (kMaximumCoverWidth kMaximumCoverHeight)

/-! ### The table of colours -/

/-- Five bits of a component, spread over eight. -/
def expand (five : ℕ) : ℕ := (five <<< 3) ||| (five >>> 2)

/-- The square of the distance of two colours. -/
def colorDistance (color candidate : RgbColor) : ℕ :=
  ((color.red : ℤ) - candidate.red).natAbs ^ 2 + ((color.green : ℤ) - candidate.green).natAbs ^ 2 +
    ((color.blue : ℤ) - candidate.blue).natAbs ^ 2

/-- One candidate of the loop over the xterm colours, with the best distance and the best pixel. -/
def nearestStep (color : RgbColor) (best : ℕ × UInt16) (index : ℕ) : ℕ × UInt16 :=
  if colorDistance color (xtermColor index) < best.1 then
    (colorDistance color (xtermColor index), (xtermColor index).pixel)
  else best

def uintMax : ℕ := 4294967295

def nearestPixel (color : RgbColor) : UInt16 :=
  ((List.range 256).foldl (nearestStep color) (uintMax, 0)).2

def tableOffset (red5 green5 blue5 : ℕ) : ℕ := (red5 <<< 10) ||| (green5 <<< 5) ||| blue5

/-- `xterm_quantization_table`, when it is filled. -/
def xtermQuantizationTable : List UInt16 :=
  (loop 32 (fun red5 table =>
    loop 32 (fun green5 table =>
      loop 32 (fun blue5 table =>
        table.put (tableOffset red5 green5 blue5)
          (nearestPixel ⟨expand red5, expand green5, expand blue5⟩)) table) table)
    (⟨List.replicate (32 * 32 * 32) 0, []⟩ : Canvas UInt16)).cells

/-! ### The cover of a picture -/

def kMaximumPngCoverBytes : ℕ := 4 * 1024 * 1024

def kMaximumPngDimension : ℕ := 2048

/-- A conversion to a number of 32 bits without a sign. -/
def uint32 (n : ℕ) : ℕ := n % 2 ^ 32

/-- The width and the height of the cover. -/
def targetSize (width height : ℕ) : ℕ × ℕ :=
  if kMaximumCoverWidth < width ∨ kMaximumCoverHeight < height then
    if height * kMaximumCoverWidth < width * kMaximumCoverHeight then
      (kMaximumCoverWidth, max 1 (uint32 (height * kMaximumCoverWidth / width)))
    else
      (max 1 (uint32 (width * kMaximumCoverHeight / height)), kMaximumCoverHeight)
  else (width, height)

/-- The row or the column of the picture for one of the cover. -/
def sourcePlace (place size target : ℕ) : ℕ := uint32 (place * size / target)

def sourceOffset (width sourceX sourceY : ℕ) : ℕ := uint32 ((sourceY * width + sourceX) * 4)

/-- One component of a pixel on its background. -/
def blend (source : UInt8) (background : ℕ) (alpha : UInt8) : ℕ :=
  uint32 (source.toNat * alpha.toNat + background * (255 - alpha.toNat) + 127) / 255

def blendColor (background : RgbColor) (red green blue alpha : UInt8) : RgbColor :=
  ⟨blend red background.red alpha, blend green background.green alpha,
    blend blue background.blue alpha⟩

def quantizedOffset (color : RgbColor) : ℕ :=
  tableOffset (color.red >>> 3) (color.green >>> 3) (color.blue >>> 3)

/-- The pixel of the cover for a pixel of the picture. -/
def scaledPixel (background : RgbColor) (source : Bytes) (offset : ℕ) : Option UInt16 := do
  let alpha ← source[offset + 3]?
  let red ← source[offset]?
  let green ← source[offset + 1]?
  let blue ← source[offset + 2]?
  xtermQuantizationTable[quantizedOffset (blendColor background red green blue alpha)]?

/-- The scaling in `load_png_cover_image`. -/
def scaleCover (background : RgbColor) (width height : ℕ) (source : Bytes) : Option CoverImage := do
  let target := targetSize width height
  let pixels : Canvas UInt16 := ⟨List.replicate (uint32 (target.1 * target.2)) 0, []⟩
  let pixels ← loopM target.2 (fun y pixels =>
    loopM target.1 (fun x pixels => do
      let sourceY := sourcePlace y height target.2
      let sourceX := sourcePlace x width target.1
      let pixel ← scaledPixel background source (sourceOffset width sourceX sourceY)
      pixels.putChecked (uint32 (y * target.1 + x)) pixel) pixels) pixels
  some ⟨target.1, target.2, pixels.cells⟩

/-! ### The cover of a file -/

/-- The outcomes of the two calls of the library, with the texts of its errors: the width and the
height, and the bytes that it stores into a buffer. -/
structure PngCalls where
  beginRead : Except Bytes (ℕ × ℕ)
  finishRead : (size : ℕ) → Except Bytes { buffer : Bytes // buffer.length = size }

/-- The reasons for which there is no cover. -/
inductive PngError where
  | missing
  | cannotStat (errno : Errno)
  | notSmallRegular
  | cannotDecode (message : Bytes)
  | outsideDimensions
  | cannotRead (message : Bytes)
  deriving DecidableEq

/-- The text of the error; a missing cover is none. -/
def PngError.message (strerror : Errno → Bytes) (path : Bytes) : PngError → Option Bytes
  | missing => none
  | cannotStat errno => some (errnoMessage strerror (ascii "cannot stat cover " ++ path) errno)
  | notSmallRegular => some (ascii "cover must be a regular PNG no larger than 4 MiB: " ++ path)
  | cannotDecode message => some (ascii "cannot decode cover PNG " ++ path ++ ascii ": " ++ message)
  | outsideDimensions => some (ascii "cover PNG dimensions are outside 1..2048: " ++ path)
  | cannotRead message => some (ascii "cannot read cover PNG " ++ path ++ ascii ": " ++ message)

/-- `load_png_cover_image`: an error, or the cover if nothing outside a vector is read or stored. -/
def loadPngCoverImage (file : File) (calls : PngCalls) (background : RgbColor) :
    Except PngError (Option CoverImage) :=
  match file.statError with
  | some errno => .error (if errno = Errno.enoent then .missing else .cannotStat errno)
  | none =>
      if file.isRegular = false ∨ file.size < 8 ∨ kMaximumPngCoverBytes < file.size then
        .error .notSmallRegular
      else
        match calls.beginRead with
        | .error message => .error (.cannotDecode message)
        | .ok (width, height) =>
            if width < 1 ∨ height < 1 ∨ kMaximumPngDimension < width ∨
              kMaximumPngDimension < height then
              .error .outsideDimensions
            else
              match calls.finishRead (uint32 (height * (width * 4))) with
              | .error message => .error (.cannotRead message)
              | .ok source => .ok (scaleCover background width height source)

/-! ### The square of a cover -/

/-- One pixel that is stored into the canvas: where it is meant to be, and where it is stored. -/
structure Put where
  x : ℤ
  y : ℤ
  index : ℕ
  pixel : UInt16

/-- `draw_cover_square`: the pixels that are stored, in order. -/
def drawCoverSquare (bounds : Rect) (cover : CoverImage) : Option (List Put) :=
  if cover.available = false ∨ bounds.width < 1 ∨ bounds.height < 1 then some []
  else
    let sourceSize := min cover.width cover.height
    let sourceLeft := (cover.width - sourceSize) / 2
    let sourceTop := (cover.height - sourceSize) / 2
    loopM bounds.height.toNat (fun y puts =>
      loopM bounds.width.toNat (fun x puts => do
        let sourceY := sourceTop + y * sourceSize / bounds.height.toNat
        let sourceX := sourceLeft + x * sourceSize / bounds.width.toNat
        let pixel ← cover.pixels[sourceY * cover.width + sourceX]?
        let index := ((bounds.y + y) * kLogicalWidth + bounds.x + x) % 2 ^ 64
        some (puts ++ [⟨bounds.x + x, bounds.y + y, index.toNat, pixel⟩])) puts) []

/-! ### Entries of the table -/

theorem tableOffset_eq {red5 green5 blue5 : ℕ} (hgreen : green5 < 32) (hblue : blue5 < 32) :
    tableOffset red5 green5 blue5 = red5 * 1024 + green5 * 32 + blue5 := by
  have hlow : green5 <<< 5 < 2 ^ 10 := by rw [Nat.shiftLeft_eq]; omega
  have hsum : (red5 <<< 10) ||| (green5 <<< 5) = (red5 * 32 + green5) <<< 5 := by
    rw [← Nat.shiftLeft_add_eq_or_of_lt hlow]
    simp only [Nat.shiftLeft_eq]
    omega
  rw [tableOffset, hsum, ← Nat.shiftLeft_add_eq_or_of_lt (show blue5 < 2 ^ 5 by omega),
    Nat.shiftLeft_eq]
  omega

/-- The colour that stands at a place of the table. -/
def tableColor (offset : ℕ) : RgbColor :=
  ⟨expand (offset / 1024), expand (offset / 32 % 32), expand (offset % 32)⟩

theorem tableColor_tableOffset {red5 green5 blue5 : ℕ} (hgreen : green5 < 32) (hblue : blue5 < 32) :
    tableColor (tableOffset red5 green5 blue5) = ⟨expand red5, expand green5, expand blue5⟩ := by
  rw [tableOffset_eq hgreen hblue, tableColor, show (red5 * 1024 + green5 * 32 + blue5) / 1024 =
    red5 by omega,
    show (red5 * 1024 + green5 * 32 + blue5) / 32 % 32 = green5 by omega,
    show (red5 * 1024 + green5 * 32 + blue5) % 32 = blue5 by omega]

/-- What the three loops store. -/
theorem exists_draws_xtermQuantizationTable :
    ∃ table, xtermQuantizationTable = table.cells ∧
      Draws (fun offset => nearestPixel (tableColor offset))
        ⟨List.replicate (32 * 32 * 32) 0, []⟩ table
        ((List.range 32).flatMap fun red5 => (List.range 32).flatMap fun green5 =>
          (List.range 32).flatMap fun blue5 => [tableOffset red5 green5 blue5]) := by
  refine ⟨_, rfl, painted_loop ?_⟩
  intro red5 hred table _
  refine painted_loop ?_
  intro green5 hgreen table _
  refine painted_loop ?_
  intro blue5 hblue table _
  exact painted_put (congrArg nearestPixel (tableColor_tableOffset hgreen hblue)).symm

theorem length_xtermQuantizationTable : xtermQuantizationTable.length = 32768 := by
  obtain ⟨table, heq, hdraws⟩ := exists_draws_xtermQuantizationTable
  rw [heq, hdraws.length, List.length_replicate]

/-- **The table holds the nearest pixels.** -/
theorem getElem?_xtermQuantizationTable {red5 green5 blue5 : ℕ} (hred : red5 < 32)
    (hgreen : green5 < 32) (hblue : blue5 < 32) :
    xtermQuantizationTable[tableOffset red5 green5 blue5]? =
      some (nearestPixel ⟨expand red5, expand green5, expand blue5⟩) := by
  obtain ⟨table, heq, hdraws⟩ := exists_draws_xtermQuantizationTable
  have hmem : tableOffset red5 green5 blue5 ∈ (List.range 32).flatMap fun red5 =>
      (List.range 32).flatMap fun green5 =>
        (List.range 32).flatMap fun blue5 => [tableOffset red5 green5 blue5] :=
    List.mem_flatMap.2 ⟨red5, List.mem_range.2 hred,
      List.mem_flatMap.2 ⟨green5, List.mem_range.2 hgreen,
      List.mem_flatMap.2 ⟨blue5, List.mem_range.2 hblue, List.mem_singleton.2 rfl⟩⟩⟩
  rw [heq, hdraws.getElem?_of_mem hmem, tableColor_tableOffset hgreen hblue]
  rw [List.length_replicate, tableOffset_eq hgreen hblue]
  omega

/-- The loop over the first colours has found the nearest one of them. -/
theorem nearestStep_range (color : RgbColor)
    (hbound : ∀ index < 256, colorDistance color (xtermColor index) < uintMax) {n : ℕ}
    (hn : n < 256) :
    ∃ index ≤ n,
      (List.range (n + 1)).foldl (nearestStep color) (uintMax, 0) =
        (colorDistance color (xtermColor index), (xtermColor index).pixel) ∧
      ∀ other ≤ n, colorDistance color (xtermColor index) ≤
        colorDistance color (xtermColor other) := by
  induction n with
  | zero =>
      refine ⟨0, le_rfl, if_pos (hbound 0 hn), ?_⟩
      intro other hother
      rw [Nat.le_zero.1 hother]
  | succ n ih =>
      obtain ⟨index, hindex, hfold, hnearest⟩ := ih (by omega)
      rw [List.range_succ, List.foldl_append, hfold, List.foldl_cons, List.foldl_nil, nearestStep]
      dsimp only
      split
      next hless =>
        refine ⟨n + 1, le_rfl, rfl, ?_⟩
        intro other hother
        rcases hother.eq_or_lt with rfl | hlt
        · exact le_rfl
        · exact hless.le.trans (hnearest other (Nat.le_of_lt_succ hlt))
      next hmore =>
        refine ⟨index, Nat.le_succ_of_le hindex, rfl, ?_⟩
        intro other hother
        rcases hother.eq_or_lt with rfl | hlt
        · exact Nat.not_lt.1 hmore
        · exact hnearest other (Nat.le_of_lt_succ hlt)

/-- A colour whose components are bytes. -/
structure IsBytes (color : RgbColor) : Prop where
  red : color.red ≤ 255
  green : color.green ≤ 255
  blue : color.blue ≤ 255

theorem isBytes_xtermColor {index : ℕ} (h : index < 256) : IsBytes (xtermColor index) := by
  obtain ⟨hred, hgreen, hblue, -⟩ := PpmCover.xtermColor_bytes index h
  exact ⟨Nat.le_of_lt_succ hred, Nat.le_of_lt_succ hgreen, Nat.le_of_lt_succ hblue⟩

/-- **The colour of a game has bytes as components**, whatever catalog was loaded. -/
theorem background_of_applicationGames {files : Bytes → File} {catalog : List GameEntry}
    (hcatalog : IsCatalog files catalog) (terminal chiptuneDirectory : Bytes)
    (covers : GameEntry → Option CoverImage) :
    ∀ game ∈ applicationGames catalog terminal chiptuneDirectory covers, IsBytes game.color := by
  intro game hgame
  obtain ⟨entry, hentry, rfl⟩ := List.mem_map.1 hgame
  rcases List.mem_append.1 hentry with hloaded | hbuiltIn
  · obtain ⟨index, hindex, hcolor⟩ :=
      (PpmCover.isXtermColor_iff _).1 (hcatalog.good entry hloaded).color
    exact hcolor ▸ isBytes_xtermColor hindex
  · have hcolors : (builtInEntries terminal chiptuneDirectory).map (·.color) =
        [69, 149, 220, 114, 208, 67, 167].map xtermColor := rfl
    have hmem := List.mem_map_of_mem (f := (·.color)) hbuiltIn
    rw [hcolors] at hmem
    obtain ⟨index, hindex, hcolor⟩ := List.mem_map.1 hmem
    have hlt : ∀ index ∈ [69, 149, 220, 114, 208, 67, 167], index < 256 := by simp
    exact hcolor ▸ isBytes_xtermColor (hlt index hindex)

theorem colorDistance_lt {color candidate : RgbColor} (hcolor : IsBytes color)
    (hcandidate : IsBytes candidate) : colorDistance color candidate < uintMax := by
  have hsquare : ∀ a b : ℕ, a ≤ 255 → b ≤ 255 → ((a : ℤ) - b).natAbs ^ 2 ≤ 255 ^ 2 := by
    intro a b ha hb
    exact Nat.pow_le_pow_left (by omega) 2
  have hred := hsquare _ _ hcolor.red hcandidate.red
  have hgreen := hsquare _ _ hcolor.green hcandidate.green
  have hblue := hsquare _ _ hcolor.blue hcandidate.blue
  rw [colorDistance, uintMax]
  omega

/-- **The pixel of a nearest xterm colour** is found. -/
theorem nearestPixel_spec {color : RgbColor} (hcolor : IsBytes color) :
    ∃ index < 256, nearestPixel color = (xtermColor index).pixel ∧
      ∀ other < 256, colorDistance color (xtermColor index) ≤
        colorDistance color (xtermColor other) := by
  obtain ⟨index, hindex, hfold, hnearest⟩ := nearestStep_range color
    (fun index hindex => colorDistance_lt hcolor (isBytes_xtermColor hindex))
    (show 255 < 256 by decide)
  refine ⟨index, Nat.lt_succ_of_le hindex, ?_, fun other hother =>
    hnearest other (Nat.le_of_lt_succ hother)⟩
  rw [nearestPixel, hfold]

/-! ### Blended colours -/

theorem uint32_of_lt {n : ℕ} (h : n < 2 ^ 32) : uint32 n = n := Nat.mod_eq_of_lt h

/-- A blended component is a byte, whatever the alpha value is. -/
theorem blend_le (source alpha : UInt8) {background : ℕ} (h : background ≤ 255) :
    blend source background alpha ≤ 255 := by
  have hsource : source.toNat * alpha.toNat ≤ 255 * alpha.toNat :=
    Nat.mul_le_mul_right _ (Nat.le_of_lt_succ source.toNat_lt)
  have hbackground : background * (255 - alpha.toNat) ≤ 255 * (255 - alpha.toNat) :=
    Nat.mul_le_mul_right _ h
  have halpha := alpha.toNat_lt
  have hmod : uint32 (source.toNat * alpha.toNat + background * (255 - alpha.toNat) + 127) ≤
      source.toNat * alpha.toNat + background * (255 - alpha.toNat) + 127 := Nat.mod_le _ _
  rw [blend]
  omega

theorem isBytes_blendColor {background : RgbColor} (h : IsBytes background)
    (red green blue alpha : UInt8) :
    IsBytes (blendColor background red green blue alpha) where
  red := blend_le red alpha h.red
  green := blend_le green alpha h.green
  blue := blend_le blue alpha h.blue

/-- An opaque pixel hides its background. -/
theorem blend_opaque (source : UInt8) (background : ℕ) :
    blend source background 255 = source.toNat := by
  have hsource := source.toNat_lt
  have halpha : (255 : UInt8).toNat = 255 := rfl
  rw [blend, halpha, Nat.sub_self, Nat.mul_zero, Nat.add_zero, uint32_of_lt (by omega)]
  omega

/-- A transparent pixel shows its background. -/
theorem blend_transparent (source : UInt8) {background : ℕ} (h : background ≤ 255) :
    blend source background 0 = background := by
  have halpha : (0 : UInt8).toNat = 0 := rfl
  rw [blend, halpha, Nat.mul_zero, Nat.zero_add, Nat.sub_zero, uint32_of_lt (by omega)]
  omega

theorem shift_lt {component : ℕ} (h : component ≤ 255) : component >>> 3 < 32 := by
  rw [Nat.shiftRight_eq_div_pow]
  omega

/-- The index of a colour is one of the table. -/
theorem quantizedOffset_lt {color : RgbColor} (h : IsBytes color) :
    quantizedOffset color < 32768 := by
  have hred := shift_lt h.red
  have hgreen := shift_lt h.green
  have hblue := shift_lt h.blue
  rw [quantizedOffset, tableOffset_eq hgreen hblue]
  omega

/-- The nearest pixel for a colour, by the five leading bits of its components. -/
def quantizedPixel (color : RgbColor) : UInt16 :=
  nearestPixel ⟨expand (color.red >>> 3), expand (color.green >>> 3), expand (color.blue >>> 3)⟩

theorem getElem?_quantizedOffset {color : RgbColor} (h : IsBytes color) :
    xtermQuantizationTable[quantizedOffset color]? = some (quantizedPixel color) :=
  getElem?_xtermQuantizationTable (shift_lt h.red) (shift_lt h.green) (shift_lt h.blue)

/-! ### Sizes -/

/-- A decoded picture. -/
structure DecodedPng where
  width : ℕ
  height : ℕ
  width_pos : 1 ≤ width
  width_le : width ≤ 2048
  height_pos : 1 ≤ height
  height_le : height ≤ 2048
  source : Bytes
  length_source : source.length = width * height * 4

/-- A side of the cover when the other one has its greatest length. -/
theorem scaledSide_inRange {size other limit bound : ℕ} (hsize : size ≤ 2048)
    (hlimit : limit ≤ 600) (hbound : 1 ≤ bound) (hle : size * limit ≤ bound * other) :
    1 ≤ max 1 (uint32 (size * limit / other)) ∧ max 1 (uint32 (size * limit / other)) ≤ bound := by
  have hquotient : size * limit / other ≤ bound :=
    Nat.div_le_of_le_mul (by rwa [Nat.mul_comm other])
  have hproduct : size * limit ≤ 2048 * 600 := Nat.mul_le_mul hsize hlimit
  have hdiv : size * limit / other ≤ size * limit := Nat.div_le_self _ _
  rw [uint32_of_lt (by omega)]
  omega

/-- **The cover has at least one pixel and at most 600 by 378.** -/
theorem targetSize_inRange (image : DecodedPng) :
    (1 ≤ (targetSize image.width image.height).1 ∧ (targetSize image.width image.height).1 ≤ 600) ∧
      1 ≤ (targetSize image.width image.height).2 ∧
        (targetSize image.width image.height).2 ≤ 378 := by
  have hwidth := image.width_pos
  have hheight := image.height_pos
  rw [targetSize, kMaximumCoverWidth, kMaximumCoverHeight]
  split
  next hlarge =>
    split
    next hwide =>
      refine ⟨⟨Nat.le_of_ble_eq_true rfl, le_rfl⟩, ?_⟩
      exact scaledSide_inRange image.height_le le_rfl (by decide)
        (by rw [Nat.mul_comm 378]; exact hwide.le)
    next htall =>
      refine ⟨?_, Nat.le_of_ble_eq_true rfl, le_rfl⟩
      exact scaledSide_inRange image.width_le (by decide) (by decide)
        (by rw [Nat.mul_comm 600]; exact Nat.not_lt.1 htall)
  next hsmall =>
    rw [not_or, Nat.not_lt, Nat.not_lt] at hsmall
    exact ⟨⟨hwidth, hsmall.1⟩, hheight, hsmall.2⟩

/-! ### Reads -/

/-- The place in the picture is one of the picture. -/
theorem sourcePlace_lt {place size target : ℕ} (hplace : place < target) (hpos : 1 ≤ size)
    (hsize : size ≤ 2048) : sourcePlace place size target < size := by
  have hquotient : place * size / target < size := by
    refine Nat.div_lt_of_lt_mul ?_
    exact Nat.mul_lt_mul_of_pos_right hplace hpos
  rw [sourcePlace, uint32_of_lt (by omega)]
  exact hquotient

/-- **The four bytes of a pixel are bytes of the picture.** -/
theorem sourceOffset_lt (image : DecodedPng) {x y : ℕ} (hx : x < image.width)
    (hy : y < image.height) :
    sourceOffset image.width x y + 3 < image.source.length := by
  have hwidth := image.width_le
  have hheight := image.height_le
  have hrow : (y + 1) * image.width ≤ image.height * image.width := Nat.mul_le_mul_right _ hy
  have harea : image.height * image.width ≤ 2048 * 2048 := Nat.mul_le_mul hheight hwidth
  rw [Nat.add_mul, Nat.one_mul] at hrow
  rw [image.length_source, Nat.mul_comm image.width, sourceOffset, uint32_of_lt (by omega)]
  omega

/-- The pixel of the cover, where its reads are inside the picture. -/
theorem scaledPixel_eq_some {background : RgbColor} (hbackground : IsBytes background)
    {source : Bytes} {offset : ℕ} (h : offset + 3 < source.length) :
    scaledPixel background source offset =
      some (quantizedPixel
        (blendColor background (source.getD offset 0) (source.getD (offset + 1) 0)
        (source.getD (offset + 2) 0) (source.getD (offset + 3) 0))) := by
  have hread : ∀ i < source.length, source[i]? = some (source.getD i 0) := by
    intro i hi
    rw [List.getD_eq_getElem?_getD, List.getElem?_eq_getElem hi, Option.getD_some]
  rw [scaledPixel, hread (offset + 3) h, hread offset (by omega), hread (offset + 1) (by omega),
    hread (offset + 2) (by omega), Option.bind_eq_bind, Option.bind_some, Option.bind_some,
    Option.bind_some,
    Option.bind_some]
  exact getElem?_quantizedOffset (isBytes_blendColor hbackground _ _ _ _)

/-! ### Covers -/

/-- Where the pixel of the cover in column `x` and row `y` is read. -/
def readOffset (image : DecodedPng) (x y : ℕ) : ℕ :=
  sourceOffset image.width (sourcePlace x image.width (targetSize image.width image.height).1)
    (sourcePlace y image.height (targetSize image.width image.height).2)

/-- The pixel is read inside the picture. -/
theorem readOffset_lt (image : DecodedPng) {x y : ℕ}
    (hx : x < (targetSize image.width image.height).1)
    (hy : y < (targetSize image.width image.height).2) :
    sourcePlace x image.width (targetSize image.width image.height).1 < image.width ∧
      sourcePlace y image.height (targetSize image.width image.height).2 < image.height ∧
        readOffset image x y + 3 < image.source.length := by
  have hcolumn := sourcePlace_lt hx image.width_pos image.width_le
  have hrow := sourcePlace_lt hy image.height_pos image.height_le
  exact ⟨hcolumn, hrow, sourceOffset_lt image hcolumn hrow⟩

/-- A place in the cover, by its row and its column. -/
theorem place_lt {x y width height : ℕ} (hx : x < width) (hy : y < height) :
    y * width + x < width * height := by
  have hrow : (y + 1) * width ≤ height * width := Nat.mul_le_mul_right width hy
  rw [Nat.add_mul, Nat.one_mul] at hrow
  rw [Nat.mul_comm width]
  omega

/-- The two loops store every pixel once. -/
theorem coverLoop_spec {width height : ℕ} (hwidth : width ≤ 600) (hheight : height ≤ 378)
    {value : ℕ → ℕ → Option UInt16} {pixel : ℕ → ℕ → UInt16}
    (hvalue : ∀ y < height, ∀ x < width, value y x = some (pixel y x)) :
    ∃ canvas : Canvas UInt16,
      loopM height (fun y pixels =>
        loopM width (fun x pixels =>
          (value y x).bind fun a => Canvas.putChecked pixels (uint32 (y * width + x)) a) pixels)
        ⟨List.replicate (uint32 (width * height)) 0, []⟩ = some canvas ∧
      canvas.cells.length = width * height ∧
      ∀ y < height, ∀ x < width, canvas.cells[y * width + x]? = some (pixel y x) := by
  have harea : width * height ≤ 600 * 378 := Nat.mul_le_mul hwidth hheight
  have hplace : ∀ y < height, ∀ x < width, uint32 (y * width + x) = y * width + x := by
    intro y hy x hx
    have hlt := place_lt hx hy
    exact uint32_of_lt (by omega)
  have hlength : (List.replicate (uint32 (width * height)) (0 : UInt16)).length =
      width * height := by
    rw [List.length_replicate, uint32_of_lt (by omega)]
  have hindex : ∀ y < height, ∀ x < width,
      uint32 (y * width + x) < (List.replicate (uint32 (width * height)) (0 : UInt16)).length := by
    intro y hy x hx
    rw [hplace y hy x hx, hlength]
    exact place_lt hx hy
  obtain ⟨hkept, hstored, -⟩ := grid_spec (p := fun place => pixel (place / width) (place % width))
    (f := fun y x => uint32 (y * width + x)) (g := pixel) (m := height) (n := width) (by
      intro y hy x hx
      obtain ⟨hblock, hrest⟩ := block_place y hx
      rw [hplace y hy x hx, hblock, hrest])
    ⟨List.replicate (uint32 (width * height)) 0, []⟩
  refine ⟨_, gridM_eq_some hvalue hindex, hkept.trans hlength, ?_⟩
  intro y hy x hx
  obtain ⟨hblock, hrest⟩ := block_place y hx
  have hcell := hstored y hy x hx (hindex y hy x hx)
  rwa [hplace y hy x hx, hblock, hrest] at hcell

/-- **Every picture has a cover.** -/
theorem scaleCover_eq_some (image : DecodedPng) {background : RgbColor}
    (hbackground : IsBytes background) :
    ∃ cover, scaleCover background image.width image.height image.source = some cover ∧
      cover.width = (targetSize image.width image.height).1 ∧
      cover.height = (targetSize image.width image.height).2 ∧ cover.available = true ∧
      ∀ y < cover.height, ∀ x < cover.width,
        cover.pixels[y * cover.width + x]? =
          scaledPixel background image.source (readOffset image x y) := by
  obtain ⟨⟨hwidth, hwidth'⟩, hheight, hheight'⟩ := targetSize_inRange image
  have hvalue : ∀ y < (targetSize image.width image.height).2,
    ∀ x < (targetSize image.width image.height).1,
      scaledPixel background image.source (readOffset image x y) =
        some ((scaledPixel background image.source (readOffset image x y)).getD 0) := by
    intro y hy x hx
    rw [scaledPixel_eq_some hbackground (readOffset_lt image hx hy).2.2, Option.getD_some]
  obtain ⟨canvas, hloop, hlength, hpixels⟩ := coverLoop_spec hwidth' hheight' hvalue
  refine ⟨⟨_, _, canvas.cells⟩, Option.bind_eq_some_iff.2 ⟨canvas, hloop, rfl⟩, rfl, rfl, ?_, ?_⟩
  · simp only [CoverImage.available, decide_eq_true_eq]
    exact ⟨hwidth, hheight, hlength⟩
  · intro y hy x hx
    exact (hpixels y hy x hx).trans (hvalue y hy x hx).symm

/-- The file is a small regular one, and the library decodes a picture from it. -/
structure Decodes (file : File) (calls : PngCalls) (image : DecodedPng) : Prop where
  stat : file.statError = none
  regular : file.isRegular = true
  size : 8 ≤ file.size ∧ file.size ≤ kMaximumPngCoverBytes
  beginRead : calls.beginRead = .ok (image.width, image.height)
  finishRead : (calls.finishRead (uint32 (image.height * (image.width * 4)))).map Subtype.val =
    .ok image.source

/-- The size of the buffer fits in 32 bits. -/
theorem bufferSize_eq {width height : ℕ} (hwidth : width ≤ 2048) (hheight : height ≤ 2048) :
    uint32 (height * (width * 4)) = height * (width * 4) := by
  have harea : height * (width * 4) ≤ 2048 * (2048 * 4) :=
    Nat.mul_le_mul hheight (Nat.mul_le_mul_right 4 hwidth)
  exact uint32_of_lt (by omega)

/-- **A file has a cover exactly if a picture is decoded from it**, and it is the cover of this
picture. -/
theorem loadPngCoverImage_eq_ok {file : File} {calls : PngCalls} {background : RgbColor}
    {result : Option CoverImage} :
    loadPngCoverImage file calls background = .ok result ↔
      ∃ image, Decodes file calls image ∧
        result = scaleCover background image.width image.height image.source := by
  constructor
  · intro h
    rw [loadPngCoverImage] at h
    split at h
    · cases h
    next hstat =>
    split at h
    · cases h
    next hsmall =>
    split at h
    · cases h
    next width height hbegin =>
    split at h
    · cases h
    next hdimensions =>
    split at h
    · cases h
    next source hfinish =>
    simp only [not_or, Bool.not_eq_false, Nat.not_lt, kMaximumPngDimension] at hsmall hdimensions
    obtain ⟨hwidth, hheight, hwidth', hheight'⟩ := hdimensions
    have hlength : source.val.length = width * height * 4 := by
      rw [source.property, bufferSize_eq hwidth' hheight']
      ring
    refine ⟨⟨width, height, hwidth, hwidth', hheight, hheight', source.val, hlength⟩,
      ⟨hstat, hsmall.1, hsmall.2, hbegin, ?_⟩, (Except.ok.inj h).symm⟩
    rw [hfinish]
    rfl
  · rintro ⟨image, hdecodes, rfl⟩
    have hsmall : ¬(file.isRegular = false ∨ file.size < 8 ∨
        kMaximumPngCoverBytes < file.size) := by
      have hsize := hdecodes.size
      simp only [hdecodes.regular, Bool.true_eq_false, false_or]
      omega
    have hdimensions : ¬(image.width < 1 ∨ image.height < 1 ∨ kMaximumPngDimension < image.width ∨
        kMaximumPngDimension < image.height) := by
      have hwidth := image.width_pos
      have hwidth' := image.width_le
      have hheight := image.height_pos
      have hheight' := image.height_le
      rw [kMaximumPngDimension]
      omega
    have hfinish := hdecodes.finishRead
    rw [loadPngCoverImage, hdecodes.stat]
    dsimp only
    rw [if_neg hsmall, hdecodes.beginRead]
    dsimp only
    rw [if_neg hdimensions]
    split
    next message hmessage =>
      rw [hmessage] at hfinish
      cases hfinish
    next source hsource =>
      rw [hsource] at hfinish
      rw [show source.val = image.source from Except.ok.inj hfinish]

/-! ### Squares -/

/-- Where the square of a cover is read for a place in its bounds: the column and the row. -/
def squareSource (bounds : Rect) (cover : CoverImage) (x y : ℕ) : ℕ × ℕ :=
  let sourceSize := min cover.width cover.height
  ((cover.width - sourceSize) / 2 + x * sourceSize / bounds.width.toNat,
    (cover.height - sourceSize) / 2 + y * sourceSize / bounds.height.toNat)

/-- The pixel that is stored for a place in the bounds. -/
def squarePut (bounds : Rect) (cover : CoverImage) (x y : ℕ) : Put where
  x := bounds.x + x
  y := bounds.y + y
  index := (((bounds.y + y) * kLogicalWidth + bounds.x + x) % 2 ^ 64).toNat
  pixel := cover.pixels.getD
    ((squareSource bounds cover x y).2 * cover.width + (squareSource bounds cover x y).1) 0

def squarePuts (bounds : Rect) (cover : CoverImage) : List Put :=
  (List.range bounds.height.toNat).flatMap fun y =>
    (List.range bounds.width.toNat).map fun x => squarePut bounds cover x y

/-- Bounds inside the canvas. -/
structure OnCanvas (bounds : Rect) : Prop where
  left : 0 ≤ bounds.x
  top : 0 ≤ bounds.y
  right : bounds.x + bounds.width ≤ kLogicalWidth
  bottom : bounds.y + bounds.height ≤ kLogicalHeight

/-- The stored pixels are pixels of the cover, one for each place in the bounds, and on the canvas
they are stored where they are meant to be. -/
structure SquareDrawn (bounds : Rect) (cover : CoverImage) (puts : List Put) : Prop where
  reads : ∀ put ∈ puts, ∃ x < cover.width, ∃ y < cover.height,
    cover.pixels[y * cover.width + x]? = some put.pixel
  once : (puts.map fun put => (put.x, put.y)).Nodup
  places : ∀ px py, (px, py) ∈ puts.map (fun put => (put.x, put.y)) ↔ bounds.contains px py = true
  cells : OnCanvas bounds → ∀ put ∈ puts,
    (put.index : ℤ) = put.y * kLogicalWidth + put.x ∧
    (put.index : ℤ) < kLogicalWidth * kLogicalHeight

section

variable {bounds : Rect} {cover : CoverImage}

/-- **The square is read inside the cover.** -/
theorem squareSource_lt (hcover : cover.available = true) {x y : ℕ} (hx : x < bounds.width.toNat)
    (hy : y < bounds.height.toNat) :
    (squareSource bounds cover x y).1 < cover.width ∧
    (squareSource bounds cover x y).2 < cover.height := by
  simp only [CoverImage.available, decide_eq_true_eq] at hcover
  have hcolumn : x * min cover.width cover.height / bounds.width.toNat <
      min cover.width cover.height :=
    Nat.div_lt_of_lt_mul (Nat.mul_lt_mul_of_pos_right hx (by omega))
  have hrow : y * min cover.width cover.height / bounds.height.toNat <
      min cover.width cover.height :=
    Nat.div_lt_of_lt_mul (Nat.mul_lt_mul_of_pos_right hy (by omega))
  simp only [squareSource]
  omega

theorem getElem?_squareSource (hcover : cover.available = true) {x y : ℕ}
    (hx : x < bounds.width.toNat) (hy : y < bounds.height.toNat) :
    cover.pixels[(squareSource bounds cover x y).2 * cover.width +
      (squareSource bounds cover x y).1]? =
      some (squarePut bounds cover x y).pixel := by
  obtain ⟨hcolumn, hrow⟩ := squareSource_lt hcover hx hy
  have hplace := place_lt hcolumn hrow
  simp only [CoverImage.available, decide_eq_true_eq] at hcover
  rw [← hcover.2.2] at hplace
  rw [squarePut, List.getD_eq_getElem?_getD, List.getElem?_eq_getElem hplace, Option.getD_some]

/-- One row of the bounds. -/
theorem squareRow_eq_some (hcover : cover.available = true) {y : ℕ} (hy : y < bounds.height.toNat)
    (puts : List Put) :
    loopM bounds.width.toNat (fun x puts =>
        (cover.pixels[(squareSource bounds cover x y).2 * cover.width +
          (squareSource bounds cover x y).1]?).bind fun pixel =>
            some (puts ++
              [⟨bounds.x + x, bounds.y + y, (squarePut bounds cover x y).index, pixel⟩])) puts =
      some (puts ++ (List.range bounds.width.toNat).map fun x => squarePut bounds cover x y) := by
  rw [List.map_eq_flatMap, ← loop_append]
  refine (loopM_eq_some (I := fun _ => True) trivial ?_).1
  intro x hx puts _
  rw [getElem?_squareSource hcover hx hy, Option.bind_some]
  exact ⟨rfl, trivial⟩

/-- **A cover is drawn pixel by pixel.** -/
theorem drawCoverSquare_eq_some (hcover : cover.available = true) (hwidth : 1 ≤ bounds.width)
    (hheight : 1 ≤ bounds.height) : drawCoverSquare bounds cover =
      some (squarePuts bounds cover) := by
  have hchecks : ¬(cover.available = false ∨ bounds.width < 1 ∨ bounds.height < 1) := by
    simp only [hcover, Bool.true_eq_false, false_or]
    omega
  have hrows : squarePuts bounds cover = loop bounds.height.toNat (fun y puts =>
      puts ++ (List.range bounds.width.toNat).map fun x => squarePut bounds cover x y) [] := by
    rw [loop_append, List.nil_append, squarePuts]
  rw [drawCoverSquare, if_neg hchecks, hrows]
  refine (loopM_eq_some (I := fun _ => True) trivial ?_).1
  intro y hy puts _
  exact ⟨squareRow_eq_some hcover hy puts, trivial⟩

/-- Every stored pixel is one of the cover. -/
theorem pixel_of_mem_squarePuts (hcover : cover.available = true) :
    ∀ put ∈ squarePuts bounds cover, ∃ x < cover.width, ∃ y < cover.height,
      cover.pixels[y * cover.width + x]? = some put.pixel := by
  intro put hput
  obtain ⟨y, hy, hrow⟩ := List.mem_flatMap.1 hput
  obtain ⟨x, hx, rfl⟩ := List.mem_map.1 hrow
  rw [List.mem_range] at hx hy
  obtain ⟨hcolumn, hrow⟩ := squareSource_lt hcover hx hy
  exact ⟨_, hcolumn, _, hrow, getElem?_squareSource hcover hx hy⟩

/-- The places of the pixels, row by row. -/
theorem map_squarePuts :
    (squarePuts bounds cover).map (fun put => (put.x, put.y)) =
      (List.range bounds.height.toNat).flatMap fun y : ℕ =>
        (List.range bounds.width.toNat).map fun x : ℕ =>
        (bounds.x + (x : ℤ), bounds.y + (y : ℤ)) := by
  simp only [squarePuts, List.map_flatMap, List.map_map]
  rfl

/-- **No place is stored twice.** -/
theorem nodup_squarePuts : ((squarePuts bounds cover).map fun put => (put.x, put.y)).Nodup := by
  rw [map_squarePuts, List.nodup_flatMap]
  constructor
  · intro y _
    refine List.Nodup.map ?_ List.nodup_range
    intro x x' heq
    have hx := (Prod.mk.inj heq).1
    omega
  · refine List.nodup_range.imp ?_
    intro y y' hne place hplace hplace'
    obtain ⟨x, -, rfl⟩ := List.mem_map.1 hplace
    obtain ⟨x', -, heq⟩ := List.mem_map.1 hplace'
    have hy := (Prod.mk.inj heq).2
    omega

/-- **The places are those of the bounds.** -/
theorem mem_squarePuts (px py : ℤ) :
    (px, py) ∈ (squarePuts bounds cover).map (fun put => (put.x, put.y)) ↔
      bounds.contains px py = true := by
  rw [map_squarePuts, Rect.contains, decide_eq_true_eq]
  constructor
  · intro hmem
    obtain ⟨y, hy, hrow⟩ := List.mem_flatMap.1 hmem
    obtain ⟨x, hx, heq⟩ := List.mem_map.1 hrow
    obtain ⟨rfl, rfl⟩ := Prod.mk.inj heq
    rw [List.mem_range] at hx hy
    omega
  · rintro ⟨hleft, htop, hright, hbottom⟩
    refine List.mem_flatMap.2 ⟨(py - bounds.y).toNat, List.mem_range.2 (by omega), ?_⟩
    refine List.mem_map.2 ⟨(px - bounds.x).toNat, List.mem_range.2 (by omega), Prod.ext ?_ ?_⟩
    · show bounds.x + ((px - bounds.x).toNat : ℤ) = px
      omega
    · show bounds.y + ((py - bounds.y).toNat : ℤ) = py
      omega

/-- On the canvas a pixel is stored where it is meant to be. -/
theorem index_of_mem_squarePuts (hcanvas : OnCanvas bounds) :
    ∀ put ∈ squarePuts bounds cover,
      (put.index : ℤ) = put.y * kLogicalWidth + put.x ∧
        (put.index : ℤ) < kLogicalWidth * kLogicalHeight := by
  intro put hput
  obtain ⟨y, hy, hrow⟩ := List.mem_flatMap.1 hput
  obtain ⟨x, hx, rfl⟩ := List.mem_map.1 hrow
  rw [List.mem_range] at hx hy
  obtain ⟨hleft, htop, hright, hbottom⟩ := hcanvas
  simp only [squarePut, kLogicalWidth, kLogicalHeight] at hright hbottom ⊢
  rw [Int.emod_eq_of_lt (by omega) (by omega), Int.toNat_of_nonneg (by omega)]
  omega

theorem squareDrawn_squarePuts (hcover : cover.available = true) :
    SquareDrawn bounds cover (squarePuts bounds cover) where
  reads := pixel_of_mem_squarePuts hcover
  once := nodup_squarePuts
  places := mem_squarePuts
  cells := index_of_mem_squarePuts

end

/-! ### Scaling and drawing -/

/-- What is computed for the cover of a picture is in range. -/
structure ScaledInRange (background : RgbColor) (image : DecodedPng) : Prop where
  width : 1 ≤ (targetSize image.width image.height).1 ∧
    (targetSize image.width image.height).1 ≤ 600
  height : 1 ≤ (targetSize image.width image.height).2 ∧
    (targetSize image.width image.height).2 ≤ 378
  reads : ∀ x < (targetSize image.width image.height).1,
    ∀ y < (targetSize image.width image.height).2,
    sourcePlace x image.width (targetSize image.width image.height).1 < image.width ∧
      sourcePlace y image.height (targetSize image.width image.height).2 < image.height ∧
        readOffset image x y + 3 < image.source.length
  blends : ∀ red green blue alpha : UInt8, IsBytes (blendColor background red green blue alpha)
  indices : ∀ red green blue alpha : UInt8,
    quantizedOffset (blendColor background red green blue alpha) < xtermQuantizationTable.length

theorem scaledInRange (image : DecodedPng) {background : RgbColor}
    (hbackground : IsBytes background) :
    ScaledInRange background image where
  width := (targetSize_inRange image).1
  height := (targetSize_inRange image).2
  reads := fun _ hx _ hy => readOffset_lt image hx hy
  blends := isBytes_blendColor hbackground
  indices := by
    intro red green blue alpha
    rw [length_xtermQuantizationTable]
    exact quantizedOffset_lt (isBytes_blendColor hbackground red green blue alpha)

/-- **Scaling and drawing stay in range.** For every decoded picture and every colour with bytes as
components, as all games have: the cover has at least one pixel and at most 600 by 378, every pixel
is read inside the picture, every blended component is a byte, every index is one of the table,
which has 32768 entries, and the function makes a cover without a read or a store outside a vector.
For all bounds that are not empty, the square of this cover is read inside the cover and stored once
for each place in the bounds. -/
theorem loadPngCoverImage_inRange (image : DecodedPng) (background : RgbColor)
    (hbackground : IsBytes background) {file : File} {calls : PngCalls}
    (hdecodes : Decodes file calls image) :
    ScaledInRange background image ∧ xtermQuantizationTable.length = 32768 ∧
      ∃ cover, loadPngCoverImage file calls background = .ok (some cover) ∧
        cover.width = (targetSize image.width image.height).1 ∧
        cover.height = (targetSize image.width image.height).2 ∧
        ∀ bounds : Rect, 1 ≤ bounds.width → 1 ≤ bounds.height →
          ∃ puts, drawCoverSquare bounds cover = some puts ∧ SquareDrawn bounds cover puts := by
  obtain ⟨cover, hscale, hwidth, hheight, havailable, -⟩ := scaleCover_eq_some image hbackground
  refine ⟨scaledInRange image hbackground, length_xtermQuantizationTable, cover, ?_, hwidth,
    hheight, ?_⟩
  · exact loadPngCoverImage_eq_ok.2 ⟨image, hdecodes, hscale.symm⟩
  · intro bounds hbounds hbounds'
    exact ⟨_, drawCoverSquare_eq_some havailable hbounds hbounds',
      squareDrawn_squarePuts havailable⟩

/-- A picture of one row that is half transparent. -/
def thinPng : DecodedPng where
  width := 2048
  height := 1
  width_pos := by decide
  width_le := by decide
  height_pos := by decide
  height_le := by decide
  source := List.replicate 8192 0x80
  length_source := List.length_replicate

def thinCalls : PngCalls where
  beginRead := .ok (2048, 1)
  finishRead := fun size => .ok ⟨List.replicate size 0x80, List.length_replicate⟩

/-- The cover of the picture has one row, and the square in its middle one pixel. -/
theorem loadPngCoverImage_inRange_thin :
    ∃ cover, loadPngCoverImage (File.ofContent (List.replicate 8 0)) thinCalls (xtermColor 67) =
        .ok (some cover) ∧ cover.width = 600 ∧ cover.height = 1 ∧
      ∃ puts, drawCoverSquare ⟨10, 20, 3, 2⟩ cover = some puts ∧
        (puts.map fun put => (put.x, put.y)).Nodup ∧ (12, 21) ∈ puts.map fun put =>
        (put.x, put.y) := by
  have hdecodes : Decodes (File.ofContent (List.replicate 8 0)) thinCalls thinPng :=
    ⟨rfl, rfl, by decide, rfl, rfl⟩
  obtain ⟨-, -, cover, hload, hwidth, hheight, hdraw⟩ :=
    loadPngCoverImage_inRange thinPng (xtermColor 67) (isBytes_xtermColor (by decide)) hdecodes
  have htarget : targetSize 2048 1 = (600, 1) := by decide
  obtain ⟨puts, hputs, hdrawn⟩ := hdraw ⟨10, 20, 3, 2⟩ (by decide) (by decide)
  exact ⟨cover, hload, hwidth.trans (congrArg Prod.fst htarget),
    hheight.trans (congrArg Prod.snd htarget),
    puts, hputs, hdrawn.once, (hdrawn.places 12 21).2 (by decide)⟩

end NesDeck.PngCover
