/-
**The menu screen.**

`render_menu` (`deck_menu.cpp`) lays the screen out and draws it: a tab for every system of the
catalog, up to three cards around the selected game, two arrows, a row of indicators with one for
every game of the active system, and a line of status.  The layout is kept for the touch screen.

The model returns the layout together with the rectangles that the function hands to `fill_rect`,
in order.  The settings icon and the covers are copied pixel by pixel, not with `fill_rect`, so
that they contribute none.

Main definitions:

* `NesDeck.RenderMenu.MenuLayout`, `NesDeck.RenderMenu.menuLayout` — where things are;
* `NesDeck.RenderMenu.drawGameCard` and the functions before it — how they are drawn;
* `NesDeck.RenderMenu.renderMenu` — the screen;
* `NesDeck.RenderMenu.StatusText` — the lines of status that the program shows.

Main results:

* `NesDeck.RenderMenu.within_drawCards` and its siblings — all but the indicators lies on the
  canvas;
* `NesDeck.RenderMenu.indicators_sound_iff` — where the row of indicators leaves the canvas;
* `NesDeck.RenderMenu.renderMenu_sound_iff` — **the screen is drawn soundly exactly while the
  active system has at most 53 games**.
-/

import Mathlib.Tactic.IntervalCases
import NesDeck.ManifestRows
import NesDeck.MenuUi

set_option relaxedAutoImplicit false
set_option autoImplicit false

namespace NesDeck.RenderMenu

open HostFile (Bytes ascii File)
open MenuText
open MenuUi

def kPixelStroke : ℤ := 4

def kGameTitleScale : ℕ := 2

/-- The colours that the screen uses. -/
structure Palette where
  background : RgbColor
  footer : RgbColor
  text : RgbColor
  controlBorder : RgbColor
  accent : RgbColor
  active : RgbColor

/-! ### The layout -/

structure MenuLayout where
  creditsButton : Rect
  settingsButton : Rect
  gamePreviousButton : Rect
  gameNextButton : Rect
  systems : List Bytes
  systemButtons : List Rect
  gameButtons : List Rect
  gamePositionIndicators : List Rect
  gameIndices : List ℕ
  visibleGameIndices : List ℕ
  shownGameIndex : ℕ

/-- The systems, in the order of their tabs, with their labels. -/
def kSystemDefinitions : List (Bytes × Bytes) :=
  [(ascii "nes", ascii "NES"), (ascii "gb", ascii "GAME BOY"), (ascii "gbc", ascii "GBC"),
   (ascii "zx", ascii "ZX SPECTRUM"), (ascii "chip8", ascii "CHIP-8"), (ascii "deck", ascii "DECK")]

def hasSystem (games : List GameEntry) (system : Bytes) : Bool :=
  games.any fun game => game.system = system

def systemLabel (system : Bytes) : Bytes :=
  (kSystemDefinitions.lookup system).getD (displayAscii system)

/-- The systems that get a tab. -/
def shownSystems (games : List GameEntry) : List Bytes :=
  (kSystemDefinitions.map Prod.fst).filter (hasSystem games)

def tabWidth (count : ℕ) : ℤ :=
  if count = 0 then 0 else (1168 - 8 * ((count : ℤ) - 1)).tdiv count

def systemTabs (count : ℕ) : List Rect :=
  (List.range count).map fun (index : ℕ) =>
    ⟨56 + index * (tabWidth count + 8), 76, tabWidth count, 52⟩

/-- The indices of the games of a system. -/
def gameIndicesOf (games : List GameEntry) (system : Bytes) : List ℕ :=
  (List.range games.length).filter fun index => (games[index]?).any fun game => game.system = system

/-- The position of the first of the visible games. -/
def firstPosition (count selectedPosition : ℕ) : ℕ :=
  let visibleCount := min 3 count
  if visibleCount < count then
    if selectedPosition = 0 then 0
    else if count ≤ selectedPosition + 1 then count - visibleCount
    else selectedPosition - 1
  else 0

/-- A row of `count` rectangles of one size, from left to right. -/
def rectRow (y width height gap : ℤ) : ℕ → ℤ → List Rect
  | 0, _ => []
  | count + 1, x => ⟨x, y, width, height⟩ :: rectRow y width height gap count (x + (width + gap))

/-- The width of a row with gaps between its rectangles. -/
def rowWidth (width gap : ℤ) (count : ℕ) : ℤ := count * width + max 0 ((count : ℤ) - 1) * gap

/-- A row in the middle of the screen. -/
def centredRow (y width height gap : ℤ) (count : ℕ) : List Rect :=
  rectRow y width height gap count ((kLogicalWidth - rowWidth width gap count).tdiv 2)

def menuLayout (games : List GameEntry) (activeSystem : Bytes) (gamePosition : ℕ) : MenuLayout :=
  let systems := shownSystems games
  let gameIndices := gameIndicesOf games activeSystem
  let count := gameIndices.length
  let selectedPosition := gamePosition % count
  let first := firstPosition count selectedPosition
  { creditsButton := ⟨12, 412, 56, 56⟩
    settingsButton := ⟨1212, 412, 56, 56⟩
    gamePreviousButton := if count = 1 then ⟨0, 0, 0, 0⟩ else ⟨156, 232, 80, 100⟩
    gameNextButton := if count = 1 then ⟨0, 0, 0, 0⟩ else ⟨1044, 232, 80, 100⟩
    systems
    systemButtons := systemTabs systems.length
    gameButtons := centredRow 154 216 264 36 (min 3 count)
    gamePositionIndicators := centredRow 438 16 8 8 count
    gameIndices
    visibleGameIndices := (gameIndices.drop first).take (min 3 count)
    shownGameIndex := gameIndices.getD selectedPosition games.length }

/-! ### Drawing -/

def drawPixelPanel (rect : Rect) (fill border : UInt16) (thickness : ℤ) : List Fill :=
  fillPixelCutRect rect thickness border ++
    fillPixelCutRect ⟨rect.x + thickness, rect.y + thickness, rect.width - thickness * 2,
      rect.height - thickness * 2⟩ thickness fill

/-- The blocks of the arrow: their corners, from the centre of the bounds, and their sizes. -/
def arrowBlocks : List Rect :=
  [⟨28, -2, 4, 4⟩, ⟨24, -6, 4, 4⟩, ⟨20, -10, 4, 4⟩, ⟨16, -14, 4, 4⟩, ⟨12, -18, 4, 4⟩,
   ⟨8, -22, 4, 10⟩, ⟨-28, -12, 36, 4⟩, ⟨-28, -8, 4, 16⟩, ⟨-28, 8, 36, 4⟩, ⟨8, 12, 4, 10⟩,
   ⟨12, 14, 4, 4⟩, ⟨16, 10, 4, 4⟩, ⟨20, 6, 4, 4⟩, ⟨24, 2, 4, 4⟩]

/-- `draw_outline_arrow`, mirrored for the arrow to the left. -/
def drawOutlineArrow (bounds : Rect) (mirrored : Bool) (color : UInt16) : List Fill :=
  let centerX := bounds.x + bounds.width.tdiv 2
  let centerY := bounds.y + bounds.height.tdiv 2
  arrowBlocks.map fun block =>
    let left := if mirrored then centerX - block.x - block.width else centerX + block.x
    ⟨⟨left, centerY + block.y, block.width, block.height⟩, color⟩

def drawCompactPowerIcon (bounds : Rect) (color : UInt16) : List Fill :=
  let centerX := bounds.x + bounds.width.tdiv 2
  let centerY := bounds.y + bounds.height.tdiv 2
  [⟨⟨centerX - 5, centerY - 58, 10, 54⟩, color⟩,
   ⟨⟨centerX - 48, centerY - 34, 22, 8⟩, color⟩,
   ⟨⟨centerX + 26, centerY - 34, 22, 8⟩, color⟩,
   ⟨⟨centerX - 58, centerY - 26, 8, 54⟩, color⟩,
   ⟨⟨centerX + 50, centerY - 26, 8, 54⟩, color⟩,
   ⟨⟨centerX - 48, centerY + 28, 16, 8⟩, color⟩,
   ⟨⟨centerX + 32, centerY + 28, 16, 8⟩, color⟩,
   ⟨⟨centerX - 32, centerY + 36, 64, 8⟩, color⟩]

/-- The heights of the bars of the chiptune logo. -/
def chiptuneHeights : List ℤ := [34, 62, 92, 48, 112, 74, 42, 86, 56]

/-- `draw_compact_deck_logo`, if the entry has one. -/
def drawCompactDeckLogo (palette : Palette) (bounds : Rect) (game : GameEntry) :
    Option (List Fill) :=
  let accent := game.color.pixel
  let centerX := bounds.x + bounds.width.tdiv 2
  let centerY := bounds.y + bounds.height.tdiv 2
  if game.system ≠ ascii "deck" then none
  else if game.id = ascii "ten-seconds" then
    some (drawCenteredText bounds (ascii "10.00") 5 accent)
  else if isBuiltInLua game = true then
    some (drawPixelPanel ⟨bounds.x + 24, bounds.y + 46, bounds.width - 48, bounds.height - 92⟩
        palette.background.pixel accent 4 ++
      drawCenteredText bounds (ascii "LUA>") 4 accent)
  else if isBuiltInLisp game = true then some (drawCenteredText bounds (ascii "(LISP)") 4 accent)
  else if isBuiltInPython game = true then
    some (drawCenteredText bounds (ascii ">>>") 6 accent ++
      [⟨⟨centerX - 54, centerY + 34, 108, 6⟩, accent⟩])
  else if isBuiltInScheme game = true then
    some (drawCenteredText bounds (ascii "(SCHEME)") 3 accent ++
      [⟨⟨centerX - 34, centerY + 30, 68, 5⟩, accent⟩])
  else if isBuiltInChiptune game = true then
    some (chiptuneHeights.zipIdx.map fun (height, index) =>
      ⟨⟨centerX - 86 + index * 20, centerY - height.tdiv 2, 10, height⟩, accent⟩)
  else if isBuiltInTerminal game = true then
    let screen : Rect := ⟨bounds.x + 30, bounds.y + 44, bounds.width - 60, 96⟩
    some (strokeRect screen 4 accent ++
      drawCenteredText screen (ascii ">_") 5 palette.text.pixel ++
      [⟨⟨centerX - 6, screen.y + screen.height, 12, 18⟩, accent⟩,
       ⟨⟨centerX - 44, screen.y + screen.height + 18, 88, 4⟩, accent⟩])
  else if isBuiltInReboot game = true then some (drawCompactPowerIcon bounds accent)
  else none

def drawCompactCartridge (palette : Palette) (bounds : Rect) (color : UInt16) : List Fill :=
  let cartridge : Rect := ⟨bounds.x + 34, bounds.y + 28, bounds.width - 68, bounds.height - 56⟩
  drawPixelPanel cartridge palette.background.pixel color 4 ++
    [⟨⟨cartridge.x + 24, cartridge.y + 26, cartridge.width - 48, 8⟩, color⟩,
     ⟨⟨cartridge.x + 24, cartridge.y + 46, cartridge.width - 48, 4⟩, color⟩,
     ⟨⟨cartridge.x + 20, cartridge.y + cartridge.height - 30, cartridge.width - 40, 10⟩, color⟩]

def drawGameCard (palette : Palette) (card : Rect) (game : GameEntry) (selected : Bool) :
    List Fill :=
  let fill := if selected then palette.active.pixel else palette.background.pixel
  let art : Rect := ⟨card.x + 8, card.y + 8, card.width - 16, card.width - 16⟩
  let picture :=
    if game.cover.available = true then []
    else
      (drawCompactDeckLogo palette art game).getD
        (drawCompactCartridge palette art game.color.pixel)
  let label : Rect :=
    ⟨card.x + 8, card.y + card.width, card.width - 16, card.height - card.width - 8⟩
  let title := fitTextWidth game.title (label.width - 12) kGameTitleScale
  drawPixelPanel card fill palette.accent.pixel kPixelStroke ++ picture ++
    drawCenteredText label title kGameTitleScale palette.text.pixel

/-- A tab with its label. -/
def drawTab (palette : Palette) (activeSystem system : Bytes) (tab : Rect) : List Fill :=
  let fill := if system = activeSystem then palette.active.pixel else palette.background.pixel
  let label := systemLabel system
  drawPixelPanel tab fill palette.accent.pixel kPixelStroke ++
    drawCenteredText tab label (fitTextScale label (tab.width - 16) 2 1) palette.text.pixel

/-- The cards of the visible games. -/
def drawCards (palette : Palette) (games : List GameEntry) (layout : MenuLayout) : List Fill :=
  (layout.gameButtons.zip layout.visibleGameIndices).flatMap fun (card, index) =>
    match games[index]? with
    | none => []
    | some game => drawGameCard palette card game (index = layout.shownGameIndex)

/-- The two arrows, when there is more than one game. -/
def drawArrows (palette : Palette) (layout : MenuLayout) : List Fill :=
  if 1 < layout.gameIndices.length then
    drawOutlineArrow layout.gamePreviousButton true palette.footer.pixel ++
      drawOutlineArrow layout.gameNextButton false palette.footer.pixel
  else []

/-- The row of indicators. -/
def drawIndicators (palette : Palette) (gamePosition : ℕ) (layout : MenuLayout) : List Fill :=
  layout.gamePositionIndicators.zipIdx.flatMap fun (bounds, indicator) =>
    strokeRect bounds 2
      (if indicator = gamePosition % layout.gameIndices.length then palette.footer.pixel
      else palette.controlBorder.pixel)

/-- The line of status. -/
def drawStatus (palette : Palette) (status : Bytes) : List Fill :=
  if status = [] then []
  else
    drawCenteredText ⟨100, 452, kLogicalWidth - 200, 24⟩ status
      (fitTextScale status (kLogicalWidth - 220) 2 1) palette.footer.pixel

/-- `render_menu`: the layout, and the calls of `fill_rect`. -/
def renderMenu (palette : Palette) (games : List GameEntry) (activeSystem : Bytes)
    (gamePosition : ℕ) (status : Bytes) : MenuLayout × List Fill :=
  let layout := menuLayout games activeSystem gamePosition
  (layout,
    drawCenteredText layout.creditsButton (ascii "(c)") 2 palette.footer.pixel ++
    ((layout.systems.zip layout.systemButtons).flatMap fun (system, tab) =>
      drawTab palette activeSystem system tab) ++
    drawCards palette games layout ++ drawArrows palette layout ++
    drawIndicators palette gamePosition layout ++ drawStatus palette status)

/-! ### The parts stay between their sides -/

section Parts

variable {left right : ℤ}

theorem within_drawPixelPanel {rect : Rect} {thickness : ℤ} (fill border : UInt16)
    (hx : left ≤ rect.x) (hend : rect.x + rect.width ≤ right) (hthickness : 0 ≤ thickness) :
    Within left right (drawPixelPanel rect fill border thickness) := by
  rw [drawPixelPanel, within_append]
  refine ⟨within_fillPixelCutRect border hx hend hthickness,
    within_fillPixelCutRect fill ?_ ?_ hthickness⟩
  · dsimp only
    omega
  · dsimp only
    omega

/-- A text that is narrow enough as it stands stays in its bounds. -/
theorem within_drawCenteredText_of_width {bounds : Rect} {text : Bytes} {scale : ℕ}
    (color : UInt16) (hx : left ≤ bounds.x) (hend : bounds.x + bounds.width ≤ right)
    (hfits : textWidth text scale ≤ bounds.width) :
    Within left right (drawCenteredText bounds text scale color) :=
  within_drawCenteredText color hx hend
    (Int.le_trans (textWidth_mono (length_displayAscii_le text) scale) hfits)

/-- The arrows lie in the middle sixty columns of their bounds. -/
theorem within_drawOutlineArrow {bounds : Rect} (mirrored : Bool) (color : UInt16)
    (hx : left ≤ bounds.x) (hend : bounds.x + bounds.width ≤ right) (hwidth : bounds.width = 80) :
    Within left right (drawOutlineArrow bounds mirrored color) := by
  have hhalf : bounds.width.tdiv 2 = 40 := by rw [hwidth]; rfl
  rw [drawOutlineArrow, hhalf]
  cases mirrored with
  | false =>
      simp only [arrowBlocks, List.map_cons, List.map_nil, within_cons, within_nil,
        Bool.false_eq_true, if_false, and_true]
      omega
  | true =>
      simp only [arrowBlocks, List.map_cons, List.map_nil, within_cons, within_nil, if_true,
        and_true]
      omega

theorem within_drawCompactPowerIcon {bounds : Rect} (color : UInt16) (hx : left ≤ bounds.x)
    (hend : bounds.x + bounds.width ≤ right) (hwidth : bounds.width = 200) :
    Within left right (drawCompactPowerIcon bounds color) := by
  have hhalf : bounds.width.tdiv 2 = 100 := by rw [hwidth]; rfl
  rw [drawCompactPowerIcon, hhalf]
  simp only [within_cons, within_nil, and_true]
  omega

/-- The logos of the entries of the menu lie in the square for the art. -/
theorem within_drawCompactDeckLogo {palette : Palette} {bounds : Rect} {game : GameEntry}
    {fills : List Fill} (h : drawCompactDeckLogo palette bounds game = some fills)
    (hx : left ≤ bounds.x) (hend : bounds.x + bounds.width ≤ right) (hwidth : bounds.width = 200) :
    Within left right fills := by
  have hhalf : bounds.width.tdiv 2 = 100 := by rw [hwidth]; rfl
  have htext : ∀ {text scale} color, textWidth text scale ≤ 200 →
      Within left right (drawCenteredText bounds text scale color) := fun color hfits =>
    within_drawCenteredText_of_width color hx hend (by rw [hwidth]; exact hfits)
  rw [drawCompactDeckLogo, hhalf] at h
  dsimp only at h
  split at h
  · cases h
  split at h
  · cases h
    exact htext _ (by decide)
  split at h
  · cases h
    refine within_append.2 ⟨within_drawPixelPanel _ _ ?_ ?_ (by decide), htext _ (by decide)⟩
    · dsimp only
      omega
    · dsimp only
      omega
  split at h
  · cases h
    exact htext _ (by decide)
  split at h
  · cases h
    refine within_append.2 ⟨htext _ (by decide), ?_⟩
    simp only [within_cons, within_nil, and_true]
    omega
  split at h
  · cases h
    refine within_append.2 ⟨htext _ (by decide), ?_⟩
    simp only [within_cons, within_nil, and_true]
    omega
  split at h
  · cases h
    simp only [chiptuneHeights, List.zipIdx_cons, List.zipIdx_nil, List.map_cons, List.map_nil,
      within_cons, within_nil, and_true]
    omega
  split at h
  · cases h
    refine within_append.2 ⟨within_append.2 ⟨within_strokeRect _ ?_ ?_ (by decide) ?_,
      within_drawCenteredText_of_width _ ?_ ?_ ?_⟩, ?_⟩
    · dsimp only
      omega
    · dsimp only
      omega
    · dsimp only
      omega
    · dsimp only
      omega
    · dsimp only
      omega
    · have hprompt : textWidth (ascii ">_") 5 = 55 := by decide
      rw [hprompt]
      dsimp only
      omega
    · simp only [within_cons, within_nil, and_true]
      omega
  split at h
  · cases h
    exact within_drawCompactPowerIcon _ hx hend hwidth
  · cases h

theorem within_drawCompactCartridge (palette : Palette) {bounds : Rect} (color : UInt16)
    (hx : left ≤ bounds.x) (hend : bounds.x + bounds.width ≤ right) (hwidth : bounds.width = 200) :
    Within left right (drawCompactCartridge palette bounds color) := by
  refine within_append.2 ⟨within_drawPixelPanel _ _ ?_ ?_ (by decide), ?_⟩
  · dsimp only
    omega
  · dsimp only
    omega
  · simp only [within_cons, within_nil, and_true]
    omega

/-- Whatever its game, a card stays between its sides. -/
theorem within_drawGameCard (palette : Palette) {card : Rect} (game : GameEntry)
    (selected : Bool) (hx : left ≤ card.x) (hend : card.x + card.width ≤ right)
    (hwidth : card.width = 216) : Within left right (drawGameCard palette card game selected) := by
  have hart : card.width - 16 = 200 := by omega
  refine within_append.2 ⟨within_append.2 ⟨within_drawPixelPanel _ _ hx hend (by decide), ?_⟩, ?_⟩
  · split
    · exact within_nil
    · generalize hlogo : drawCompactDeckLogo palette _ game = logo
      cases logo with
      | none =>
          refine within_drawCompactCartridge palette _ ?_ ?_ hart
          · dsimp only
            omega
          · dsimp only
            omega
      | some fills =>
          refine within_drawCompactDeckLogo hlogo ?_ ?_ hart
          · dsimp only
            omega
          · dsimp only
            omega
  · have hfits : textWidth (displayAscii
        (fitTextWidth game.title (card.width - 16 - 12) kGameTitleScale)) kGameTitleScale ≤
          card.width - 16 - 12 :=
      textWidth_fitTextWidth game.title (by omega) (by decide)
    refine within_drawCenteredText _ ?_ ?_ ?_
    · dsimp only
      omega
    · dsimp only
      omega
    · dsimp only
      omega

end Parts

/-! ### Rows of rectangles -/

theorem mem_rectRow {y width height gap x : ℤ} {count : ℕ} {rect : Rect}
    (h : rect ∈ rectRow y width height gap count x) :
    ∃ k < count, rect = ⟨x + k * (width + gap), y, width, height⟩ := by
  induction count generalizing x with
  | zero => exact absurd h List.not_mem_nil
  | succ count ih =>
      rcases List.mem_cons.1 h with rfl | hrest
      · exact ⟨0, Nat.succ_pos _, by simp⟩
      · obtain ⟨k, hk, rfl⟩ := ih hrest
        refine ⟨k + 1, Nat.succ_lt_succ hk, ?_⟩
        congr 1
        push_cast
        rw [Int.add_mul, Int.one_mul]
        omega

/-- The visible cards lie between the columns 280 and 1000. -/
theorem within_drawCards (palette : Palette) (games : List GameEntry) (activeSystem : Bytes)
    (gamePosition : ℕ) :
    Within 0 kLogicalWidth
      (drawCards palette games (menuLayout games activeSystem gamePosition)) := by
  refine within_flatMap ?_
  intro entry hentry
  obtain ⟨card, index⟩ := entry
  obtain ⟨k, hk, hcard⟩ := mem_rectRow (List.of_mem_zip hentry).1
  dsimp only
  split
  · exact within_nil
  · generalize hcount : min 3 (gameIndicesOf games activeSystem).length = count at hk hcard
    have hrow : rowWidth 216 36 count = count * 216 + max 0 ((count : ℤ) - 1) * 36 := rfl
    have hdiv : (kLogicalWidth - rowWidth 216 36 count).tdiv 2 =
        (kLogicalWidth - rowWidth 216 36 count) / 2 :=
      Int.tdiv_eq_ediv_of_nonneg (by simp only [kLogicalWidth]; omega)
    simp only [kLogicalWidth] at hdiv ⊢
    refine within_drawGameCard palette _ _ ?_ ?_ ?_
    · rw [hcard]
      simp only [kLogicalWidth]
      omega
    · rw [hcard]
      simp only [kLogicalWidth]
      omega
    · rw [hcard]

/-! ### The tabs -/

theorem length_shownSystems (games : List GameEntry) : (shownSystems games).length ≤ 6 :=
  List.length_filter_le _ _

/-- Six tabs still leave room for every label. -/
theorem tab_bounds {count : ℕ} (hpos : 0 < count) (hsix : count ≤ 6) {tab : Rect}
    (h : tab ∈ systemTabs count) :
    0 ≤ tab.x ∧ tab.x + tab.width ≤ kLogicalWidth ∧ 188 ≤ tab.width := by
  obtain ⟨index, hindex, rfl⟩ := List.mem_map.1 h
  rw [List.mem_range] at hindex
  have hwidth : tabWidth count = (1168 - 8 * ((count : ℤ) - 1)) / count := by
    rw [tabWidth, if_neg (by omega)]
    exact Int.tdiv_eq_ediv_of_nonneg (by omega)
  simp only [hwidth, kLogicalWidth]
  interval_cases count <;> omega

theorem within_tabs (palette : Palette) (activeSystem : Bytes) (games : List GameEntry) :
    Within 0 kLogicalWidth
      (((shownSystems games).zip (systemTabs (shownSystems games).length)).flatMap
        fun (system, tab) => drawTab palette activeSystem system tab) := by
  refine within_flatMap ?_
  intro entry hentry
  obtain ⟨system, tab⟩ := entry
  obtain ⟨hsystem, htab⟩ := List.of_mem_zip hentry
  obtain ⟨hx, hend, hwidth⟩ :=
    tab_bounds (List.length_pos_of_mem hsystem) (length_shownSystems games) htab
  have hlabel : textWidth (systemLabel system) 1 ≤ 65 := by
    have hall : ∀ system ∈ kSystemDefinitions.map Prod.fst,
        textWidth (systemLabel system) 1 ≤ 65 := by decide
    exact hall system (List.mem_of_mem_filter hsystem)
  have hsmall := textWidth_mono (length_displayAscii_le (systemLabel system)) 1
  have hfits : textWidth (displayAscii (systemLabel system))
      (fitTextScale (systemLabel system) (tab.width - 16) 2 1) ≤ tab.width - 16 :=
    textWidth_fitTextScale (by omega)
  exact within_append.2 ⟨within_drawPixelPanel _ _ hx hend (by decide),
    within_drawCenteredText _ hx hend (by omega)⟩

/-! ### The frame -/

theorem within_drawArrows (palette : Palette) (games : List GameEntry) (activeSystem : Bytes)
    (gamePosition : ℕ) :
    Within 0 kLogicalWidth
      (drawArrows palette (menuLayout games activeSystem gamePosition)) := by
  rw [drawArrows]
  split
  · rename_i hmany
    have hne : (gameIndicesOf games activeSystem).length ≠ 1 := by
      intro hone
      rw [menuLayout] at hmany
      dsimp only at hmany
      omega
    simp only [menuLayout, hne, if_false, kLogicalWidth]
    exact within_append.2 ⟨within_drawOutlineArrow _ _ (by decide) (by decide) rfl,
      within_drawOutlineArrow _ _ (by decide) (by decide) rfl⟩
  · exact within_nil

/-- A line of status of at most 176 characters fits at the smaller scale. -/
theorem within_drawStatus (palette : Palette) {status : Bytes}
    (h : (displayAscii status).length ≤ 176) :
    Within 0 kLogicalWidth (drawStatus palette status) := by
  rw [drawStatus]
  split
  · exact within_nil
  · have hsmall := textWidth_le_of_length_le 1 (by decide) h
    have hfits : textWidth (displayAscii status)
        (fitTextScale status (kLogicalWidth - 220) 2 1) ≤ kLogicalWidth - 220 :=
      textWidth_fitTextScale (by simp only [kLogicalWidth]; push_cast at hsmall; omega)
    refine within_drawCenteredText _ (by decide) (by decide) ?_
    simp only [kLogicalWidth] at hfits ⊢
    omega

theorem within_credits (palette : Palette) (games : List GameEntry) (activeSystem : Bytes)
    (gamePosition : ℕ) :
    Within 0 kLogicalWidth
      (drawCenteredText (menuLayout games activeSystem gamePosition).creditsButton (ascii "(c)") 2
        palette.footer.pixel) := by
  have hbutton : (menuLayout games activeSystem gamePosition).creditsButton =
      ⟨12, 412, 56, 56⟩ := rfl
  rw [hbutton]
  exact within_drawCenteredText_of_width _ (by decide) (by decide) (by decide)

/-! ### The indicators -/

/-- The row of indicators starts twelve columns further left with every game. -/
theorem indicators_start {count : ℕ} (hpos : 0 < count) :
    (kLogicalWidth - rowWidth 16 8 count).tdiv 2 = 644 - 12 * count := by
  have hrow : kLogicalWidth - rowWidth 16 8 count = 2 * (644 - 12 * count) := by
    simp only [kLogicalWidth, rowWidth]
    omega
  rw [hrow]
  exact Int.mul_tdiv_cancel_left _ (by decide)

/-- **The row of indicators is drawn soundly up to 53 games.**  With one game more, the left edge
of the first indicator ends left of the canvas. -/
theorem indicators_sound_iff (palette : Palette) (games : List GameEntry) (activeSystem : Bytes)
    (gamePosition : ℕ) :
    (∀ fill ∈ drawIndicators palette gamePosition (menuLayout games activeSystem gamePosition),
        fill.rect.Sound) ↔
      (gameIndicesOf games activeSystem).length ≤ 53 := by
  generalize hcount : (gameIndicesOf games activeSystem).length = count
  have hlayout : (menuLayout games activeSystem gamePosition).gamePositionIndicators =
      centredRow 438 16 8 8 count := by
    rw [← hcount]
    rfl
  constructor
  · intro hsound
    by_contra hmany
    obtain ⟨rest, hrest⟩ : ∃ rest, count = rest + 1 := ⟨count - 1, by omega⟩
    have hstart := indicators_start (show 0 < count by omega)
    -- the left edge of the first indicator
    have hbad := hsound
      ⟨⟨644 - 12 * count, 438, 2, 8⟩,
        if 0 = gamePosition % (menuLayout games activeSystem gamePosition).gameIndices.length then
          palette.footer.pixel else palette.controlBorder.pixel⟩ (by
        rw [drawIndicators, hlayout, centredRow, hstart]
        subst hrest
        rw [rectRow, List.zipIdx_cons, List.flatMap_cons]
        refine List.mem_append_left _ ?_
        simp [strokeRect])
    rw [Rect.sound_iff] at hbad
    simp only [kLogicalHeight, kLogicalWidth] at hbad
    omega
  · intro hfew
    refine Within.sound (within_flatMap ?_)
    intro entry hentry
    obtain ⟨bounds, indicator⟩ := entry
    rw [hlayout] at hentry
    obtain ⟨k, hk, hbounds⟩ := mem_rectRow (List.fst_mem_of_mem_zipIdx hentry)
    rw [indicators_start (by omega)] at hbounds
    dsimp only at hbounds
    refine within_strokeRect _ ?_ ?_ (by decide) ?_
    · rw [hbounds]
      dsimp only
      omega
    · rw [hbounds]
      simp only [kLogicalWidth]
      omega
    · rw [hbounds]
      dsimp only
      omega

/-! ### The lines of status -/

/-- The lines of status without a parameter. -/
def fixedStatuses : List Bytes :=
  [[], ascii "TOUCHSCREEN RECONNECTED", ascii "WAITING FOR TOUCHSCREEN",
   ascii "PRESS A OR TAP AGAIN TO REBOOT", ascii "GAME VOLUME MUTED",
   ascii "VOLUME SAVED; CONFIRMATION TONE FAILED", ascii "VOLUME STATE ERROR",
   ascii "BRIGHTNESS ERROR - CHECK LOG", ascii "TERMINAL KEYS: CZECH",
   ascii "TERMINAL KEYS: US ANSI", ascii "KEYMAP STATE ERROR", ascii "WIFI EDITOR CLOSED",
   ascii "REBOOTING", ascii "REBOOT ERROR - CHECK LOG", ascii "GAME ERROR - CHECK LOG",
   ascii "REBOOT DID NOT START", ascii "GAME DID NOT START", ascii "REBOOT CANCELLED",
   ascii "REBOOT COMMAND EXITED", ascii "REBOOT STOPPED"]

/-- What stands before and after a number in a line of status. -/
def numberStatuses : List (Bytes × Bytes) :=
  [(ascii "GAME VOLUME ", ascii "%"), (ascii "BRIGHTNESS ", ascii "%"),
   (ascii "REBOOT FAILED (STATUS ", ascii ")"), (ascii "REBOOT STOPPED (SIGNAL ", ascii ")")]

/-- What stands before and after the title of a program in a line of status. -/
def programStatuses : List (Bytes × Bytes) :=
  [(ascii "STARTING ", []), (ascii "RETURNED FROM ", []), ([], ascii " ERROR - CHECK LOG"),
   ([], ascii " DID NOT START"), ([], ascii " EXITED"), ([], ascii " STOPPED")]

/-- What stands between the title of a program and the number of its end. -/
def endStatuses : List Bytes := [ascii " EXITED (STATUS ", ascii " STOPPED (SIGNAL "]

/-- The titles that are shown for a program: that of its entry, or that of its terminal. -/
def ProgramTitle (games : List GameEntry) (title : Bytes) : Prop :=
  (∃ game ∈ games, game.title = title) ∨ ∃ mode, terminalProgramTitle mode = title

/-- The lines of status that the program shows on the menu.  The numbers are `unsigned int` or
exit statuses. -/
inductive StatusText (games : List GameEntry) : Bytes → Prop where
  | fixed {text : Bytes} (h : text ∈ fixedStatuses) : StatusText games text
  | number {before after : Bytes} {n : ℕ} (h : (before, after) ∈ numberStatuses)
      (hn : n < 2 ^ 32) : StatusText games (before ++ decimal n ++ after)
  | program {before after title : Bytes} (h : (before, after) ∈ programStatuses)
      (htitle : ProgramTitle games title) : StatusText games (before ++ title ++ after)
  | ended {between title : Bytes} {n : ℕ} (h : between ∈ endStatuses) (hn : n < 2 ^ 32)
      (htitle : ProgramTitle games title) :
      StatusText games (title ++ between ++ decimal n ++ ascii ")")

/-- The titles of a dashboard are shown with at most 64 characters. -/
theorem length_programTitle {files : Bytes → File} {catalog : List GameEntry}
    (hcatalog : IsCatalog files catalog) {terminal chiptuneDirectory : Bytes}
    {covers : GameEntry → Option CoverImage} {title : Bytes}
    (h : ProgramTitle (applicationGames catalog terminal chiptuneDirectory covers) title) :
    (displayAscii title).length ≤ 64 := by
  rcases h with ⟨game, hmem, rfl⟩ | ⟨mode, rfl⟩
  · obtain ⟨entry, hentry, rfl⟩ := List.mem_map.1 hmem
    rcases List.mem_append.1 hentry with hentry | hentry
    · exact length_displayAscii_of_validUtf8Text (hcatalog.good entry hentry).title
    · refine Nat.le_trans (length_displayAscii_le _) ?_
      have htitle := List.mem_map_of_mem (f := fun game : GameEntry => game.title) hentry
      rw [map_title_builtInEntries] at htitle
      have hall : ∀ title ∈ [ascii "LUA REPL", ascii "LISP REPL", ascii "PYTHON REPL",
          ascii "SCHEME REPL", ascii "CHIPTUNES", ascii "TERMINAL", ascii "REBOOT"],
          title.length ≤ 64 := by decide
      exact hall _ htitle
  · refine Nat.le_trans (length_displayAscii_le _) ?_
    rw [terminalProgramTitle]
    split
    · decide
    split
    · decide
    split
    · decide
    split
    · decide
    · decide

/-- **No line of status is longer than the footer.** -/
theorem length_statusText {files : Bytes → File} {catalog : List GameEntry}
    (hcatalog : IsCatalog files catalog) {terminal chiptuneDirectory : Bytes}
    {covers : GameEntry → Option CoverImage} {status : Bytes}
    (h : StatusText (applicationGames catalog terminal chiptuneDirectory covers) status) :
    (displayAscii status).length ≤ 176 := by
  cases h with
  | fixed h =>
      have hall : ∀ text ∈ fixedStatuses, text.length ≤ 176 := by decide
      exact Nat.le_trans (length_displayAscii_le _) (hall _ h)
  | @number before after n h hn =>
      have hall : ∀ pair ∈ numberStatuses, pair.1.length + pair.2.length ≤ 32 := by decide
      have hpair := hall _ h
      have hdigits := length_decimal hn
      refine Nat.le_trans (length_displayAscii_le _) ?_
      rw [List.length_append, List.length_append]
      dsimp only at hpair
      omega
  | @program before after title h htitle =>
      have hall : ∀ pair ∈ programStatuses, (pair.1.all fun character => character < 0x80) = true ∧
          pair.1.length + pair.2.length ≤ 32 := by decide
      obtain ⟨hascii, hpair⟩ := hall _ h
      rw [List.all_iff_forall_prop] at hascii
      have hlength := length_programTitle hcatalog htitle
      have happend := length_displayAscii_append_le title after
      dsimp only at hascii hpair
      rw [List.append_assoc, displayAscii_append_of_ascii hascii, List.length_append]
      omega
  | @ended between title n h hn htitle =>
      have hall : ∀ text ∈ endStatuses, text.length ≤ 32 := by decide
      have hbetween := hall _ h
      have hdigits := length_decimal hn
      have hlength := length_programTitle hcatalog htitle
      have happend := length_displayAscii_append_le title (between ++ (decimal n ++ ascii ")"))
      have hclose : (ascii ")").length = 1 := by decide
      rw [List.append_assoc, List.append_assoc]
      rw [List.length_append, List.length_append, hclose] at happend
      omega

/-! ### The screen -/

theorem length_gameIndicesOf (games : List GameEntry) (system : Bytes) :
    (gameIndicesOf games system).length =
      (games.filter fun game => game.system = system).length := by
  rw [gameIndicesOf]
  induction games with
  | nil => rfl
  | cons game games ih =>
      rw [List.length_cons, List.range_succ_eq_map, List.filter_cons, List.filter_map,
        List.filter_cons]
      simp only [List.getElem?_cons_zero, Option.any_some, Function.comp_def, Nat.succ_eq_add_one,
        List.getElem?_cons_succ]
      split
      · rw [List.length_cons, List.length_map, ih, List.length_cons]
      · rw [List.length_map, ih]

/-- The screen of any list of games, with a line of status that fits. -/
theorem renderMenu_sound_iff_of_length (palette : Palette) (games : List GameEntry)
    (activeSystem : Bytes) (gamePosition : ℕ) {status : Bytes}
    (hstatus : (displayAscii status).length ≤ 176) :
    (∀ fill ∈ (renderMenu palette games activeSystem gamePosition status).2, fill.rect.Sound) ↔
      (games.filter fun game => game.system = activeSystem).length ≤ 53 := by
  rw [← length_gameIndicesOf, ← indicators_sound_iff palette games activeSystem gamePosition]
  simp only [renderMenu, List.mem_append]
  constructor
  · intro hall fill hmem
    exact hall fill (Or.inl (Or.inr hmem))
  · rintro hindicators fill
      (((((hcredits | htabs) | hcards) | harrows) | hindicator) | hstatusFill)
    · exact (within_credits palette games activeSystem gamePosition).sound fill hcredits
    · exact (within_tabs palette activeSystem games).sound fill htabs
    · exact (within_drawCards palette games activeSystem gamePosition).sound fill hcards
    · exact (within_drawArrows palette games activeSystem gamePosition).sound fill harrows
    · exact hindicators fill hindicator
    · exact (within_drawStatus palette hstatus).sound fill hstatusFill

/-- **The screen of a loaded catalog**, extended by the entries of the menu, is drawn soundly
exactly if at most 53 of the games are on the active system. -/
theorem renderMenu_sound_iff {files : Bytes → File} {path : Bytes} {catalog : List GameEntry}
    (hload : loadManifest files path = .ok catalog) (palette : Palette)
    (terminal chiptuneDirectory : Bytes) (covers : GameEntry → Option CoverImage)
    (activeSystem : Bytes) (gamePosition : ℕ) {status : Bytes}
    (hstatus : StatusText (applicationGames catalog terminal chiptuneDirectory covers) status) :
    (∀ fill ∈ (renderMenu palette (applicationGames catalog terminal chiptuneDirectory covers)
        activeSystem gamePosition status).2, fill.rect.Sound) ↔
      ((applicationGames catalog terminal chiptuneDirectory covers).filter
        fun game => game.system = activeSystem).length ≤ 53 :=
  renderMenu_sound_iff_of_length palette _ activeSystem gamePosition
    (length_statusText (loadManifest_isCatalog hload).1 hstatus)

/-- The colours that the program starts with. -/
def defaultPalette : Palette :=
  ⟨⟨0x00, 0x00, 0x00⟩, ⟨0xbc, 0xbc, 0xbc⟩, ⟨0xee, 0xee, 0xee⟩, ⟨0x6c, 0x6c, 0x6c⟩,
    ⟨0xfe, 0x6c, 0x27⟩, ⟨0x50, 0x33, 0x11⟩⟩

/-- A catalog of one deck game, shown with the seven entries of the menu. -/
theorem renderMenu_sound_one :
    (∀ fill ∈ (renderMenu defaultPalette
        (applicationGames ((deckManifest 1).map CatalogEntry.game) (ascii "/t") (ascii "/c")
          fun _ => none) (ascii "deck") 0 []).2, fill.rect.Sound) ↔
      ((applicationGames ((deckManifest 1).map CatalogEntry.game) (ascii "/t") (ascii "/c")
          fun _ => none).filter fun game => game.system = ascii "deck").length ≤ 53 :=
  renderMenu_sound_iff (loadManifest_deckManifest (by decide) (by decide)) defaultPalette _ _ _ _ _
    (.fixed (by decide))

/-- **A screen that is not drawn soundly.**  The menu loads a catalog of 47 deck games, and with
its own seven entries there are 54 on the tab. -/
theorem renderMenu_unsound_crowded :
    loadManifest (fun _ => File.ofContent (encodeCatalog (deckManifest 47))) (ascii "/games.tsv") =
        .ok ((deckManifest 47).map CatalogEntry.game) ∧
      ¬ ∀ fill ∈ (renderMenu defaultPalette
        (applicationGames ((deckManifest 47).map CatalogEntry.game) (ascii "/t") (ascii "/c")
          fun _ => none) (ascii "deck") 0 []).2, fill.rect.Sound := by
  refine ⟨loadManifest_deckManifest (by decide) (by decide), ?_⟩
  rw [renderMenu_sound_iff_of_length defaultPalette _ _ _ (by simp)]
  decide

end NesDeck.RenderMenu
