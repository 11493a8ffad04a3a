/-
**The carousel of the dashboard.**

The dashboard shows up to three cards, one for each of a few consecutive games of the active system.
Which game a finger launches is worked out from the point alone: `target_at` looks for a rectangle
of the layout and returns the catalog index that the layout keeps beside it.

Main definitions:

* `NesDeck.Carousel.shownCards` — the cards, each with the catalog index of its game;
* `NesDeck.Carousel.nextPosition`, `NesDeck.Carousel.previousPosition` — the steps of the carousel.

Main results:

* `NesDeck.Carousel.visible_spec` — the visible games are consecutive and include the selected one;
* `NesDeck.Carousel.targetAt_of_mem_shownCards`, `NesDeck.Carousel.targetAt_of_outside` — **a point
  of a card leads to the game of the card, and no other point leads to a game**;
* `NesDeck.Carousel.iterate_nextPosition` — the steps run through all positions;
* `NesDeck.Carousel.carousel_consistent` — all of this for every list of games.
-/

import Mathlib.Logic.Function.Iterate
import NesDeck.MenuLoop

set_option relaxedAutoImplicit false
set_option autoImplicit false

namespace NesDeck.Carousel

open HostFile (Bytes ascii)
open MenuUi (Rect kLogicalWidth)
open RenderMenu MenuLoop

/-! ### The visible games -/

/-- The window starts inside the list, ends inside it and contains the selected position. -/
theorem firstPosition_spec {count selected : ℕ} (h : selected < count) :
    firstPosition count selected ≤ selected ∧
      selected < firstPosition count selected + min 3 count ∧
      firstPosition count selected + min 3 count ≤ count := by
  simp only [firstPosition]
  split
  · split
    · omega
    · split
      · omega
      · omega
  · omega

/-- The games of a system, in the order of the catalog. -/
theorem gameIndicesOf_spec (games : List GameEntry) (system : Bytes) :
    (gameIndicesOf games system).Pairwise (· < ·) ∧
      ∀ index, index ∈ gameIndicesOf games system ↔
        ∃ game, games[index]? = some game ∧ game.system = system := by
  refine ⟨(List.pairwise_lt_range).filter _, ?_⟩
  intro index
  rw [gameIndicesOf, List.mem_filter, List.mem_range]
  constructor
  · rintro ⟨hindex, hsystem⟩
    rw [List.getElem?_eq_getElem hindex] at hsystem ⊢
    exact ⟨games[index], rfl, by simpa using hsystem⟩
  · rintro ⟨game, hgame, hsystem⟩
    refine ⟨(List.getElem?_eq_some_iff.1 hgame).1, ?_⟩
    rw [hgame]
    simpa using hsystem

section Layout

variable (games : List GameEntry) (activeSystem : Bytes) (gamePosition : ℕ)

/-- The number of games of the active system. -/
abbrev gameCount : ℕ := (gameIndicesOf games activeSystem).length

/-- The cards that are drawn, each with the catalog index of its game. -/
def shownCards : List (Rect × ℕ) :=
  let layout := menuLayout games activeSystem gamePosition
  layout.gameButtons.zip layout.visibleGameIndices

theorem shownCards_def : shownCards games activeSystem gamePosition =
    (menuLayout games activeSystem gamePosition).gameButtons.zip
      (menuLayout games activeSystem gamePosition).visibleGameIndices := rfl

variable {games activeSystem}

/-- **The visible games** are as many as fit, follow one another in the order of the catalog and
include the selected one. -/
theorem visible_spec (h : 0 < gameCount games activeSystem) :
    let layout := menuLayout games activeSystem gamePosition
    layout.visibleGameIndices.length = min 3 (gameCount games activeSystem) ∧
      layout.visibleGameIndices <:+: gameIndicesOf games activeSystem ∧
      (gameIndicesOf games activeSystem)[gamePosition % gameCount games activeSystem]? =
        some layout.shownGameIndex ∧
      layout.shownGameIndex ∈ layout.visibleGameIndices := by
  have hselected : gamePosition % gameCount games activeSystem < gameCount games activeSystem :=
    Nat.mod_lt _ h
  obtain ⟨hlow, hhigh, hend⟩ := firstPosition_spec hselected
  have hshown : (menuLayout games activeSystem gamePosition).shownGameIndex =
      (gameIndicesOf games activeSystem)[gamePosition % gameCount games activeSystem] :=
    List.getD_eq_getElem _ _ hselected
  have hvisible : (menuLayout games activeSystem gamePosition).visibleGameIndices =
      ((gameIndicesOf games activeSystem).drop
        (firstPosition (gameCount games activeSystem)
          (gamePosition % gameCount games activeSystem))).take
          (min 3 (gameCount games activeSystem)) := rfl
  dsimp only
  rw [hvisible, hshown]
  refine ⟨?_, ?_, List.getElem?_eq_getElem hselected, ?_⟩
  · have hlength : (gameIndicesOf games activeSystem).length = gameCount games activeSystem := rfl
    rw [List.length_take, List.length_drop]
    omega
  · exact (List.take_prefix _ _).isInfix.trans (List.drop_suffix _ _).isInfix
  · rw [List.mem_iff_getElem?]
    refine ⟨gamePosition % gameCount games activeSystem -
      firstPosition (gameCount games activeSystem) (gamePosition % gameCount games activeSystem),
      ?_⟩
    rw [List.getElem?_take_of_lt (by omega), List.getElem?_drop, Nat.add_sub_cancel' hlow]
    exact List.getElem?_eq_getElem hselected

end Layout

/-! ### The cards -/

theorem getElem?_rectRow (y width height gap : ℤ) {count k : ℕ} (h : k < count) (x : ℤ) :
    (rectRow y width height gap count x)[k]? = some ⟨x + k * (width + gap), y, width, height⟩ := by
  induction k generalizing count x with
  | zero =>
      cases count with
      | zero => omega
      | succ count => simp [rectRow]
  | succ k ih =>
      cases count with
      | zero => omega
      | succ count =>
          rw [rectRow, List.getElem?_cons_succ, ih (by omega), Option.some_inj, Rect.mk.injEq]
          refine ⟨?_, rfl, rfl, rfl⟩
          push_cast
          rw [Int.add_mul, Int.one_mul]
          omega

theorem length_rectRow (y width height gap : ℤ) (count : ℕ) (x : ℤ) :
    (rectRow y width height gap count x).length = count := by
  induction count generalizing x with
  | zero => rfl
  | succ count ih => rw [rectRow, List.length_cons, ih]

/-- The column of the first card of a row. -/
def cardStart (count : ℕ) : ℤ := (kLogicalWidth - rowWidth 216 36 count).tdiv 2

theorem cardStart_eq {count : ℕ} (hpos : 0 < count) (hthree : count ≤ 3) :
    cardStart count = 658 - 126 * count := by
  have hdiv : cardStart count = (kLogicalWidth - rowWidth 216 36 count) / 2 :=
    Int.tdiv_eq_ediv_of_nonneg (by simp only [kLogicalWidth, rowWidth]; omega)
  rw [hdiv]
  simp only [kLogicalWidth, rowWidth]
  omega

/-- The card at a place of the row, and the games that it may show. -/
theorem mem_shownCards {games : List GameEntry} {activeSystem : Bytes} {gamePosition : ℕ}
    {card : Rect} {index : ℕ} (h : (card, index) ∈ shownCards games activeSystem gamePosition) :
    ∃ k < min 3 (gameCount games activeSystem),
      card = ⟨cardStart (min 3 (gameCount games activeSystem)) + k * 252, 154, 216, 264⟩ ∧
      (shownCards games activeSystem gamePosition)[k]? = some (card, index) ∧
      index < games.length := by
  obtain ⟨k, hk⟩ := List.mem_iff_getElem?.1 h
  obtain ⟨hcard, hindex⟩ := List.getElem?_zip_eq_some.1 hk
  have hcount : k < min 3 (gameCount games activeSystem) := by
    have hbound := (List.getElem?_eq_some_iff.1 hcard).1
    rwa [show (menuLayout games activeSystem gamePosition).gameButtons.length = _ from
      length_rectRow ..] at hbound
  have hrect :=
    getElem?_rectRow 154 216 264 36 hcount (cardStart (min 3 (gameCount games activeSystem)))
  refine ⟨k, hcount, ?_, hk, ?_⟩
  · exact Option.some.inj (hcard.symm.trans hrect)
  · have hmem : index ∈ gameIndicesOf games activeSystem :=
      List.mem_of_mem_drop (List.mem_of_mem_take (List.mem_of_getElem? hindex))
    exact List.mem_range.1 (List.mem_filter.1 hmem).1

/-- Two cards that share a point are the same card, with the same game. -/
theorem card_unique {games : List GameEntry} {activeSystem : Bytes} {gamePosition : ℕ}
    {first second : Rect × ℕ} (hfirst : first ∈ shownCards games activeSystem gamePosition)
    (hsecond : second ∈ shownCards games activeSystem gamePosition) {x y : ℤ}
    (hx : first.1.contains x y = true) (hy : second.1.contains x y = true) : first = second := by
  obtain ⟨card, index⟩ := first
  obtain ⟨card', index'⟩ := second
  obtain ⟨k, -, hcard, hk, -⟩ := mem_shownCards hfirst
  obtain ⟨k', -, hcard', hk', -⟩ := mem_shownCards hsecond
  rw [hcard, Rect.contains, decide_eq_true_eq] at hx
  rw [hcard', Rect.contains, decide_eq_true_eq] at hy
  have hsame : k = k' := by
    dsimp only at hx hy
    omega
  subst hsame
  exact Option.some.inj (hk.symm.trans hk')

/-- Where a card is: below the tabs, above the buttons at the bottom and between the arrows. -/
theorem card_bounds {games : List GameEntry} {activeSystem : Bytes} {gamePosition : ℕ}
    {card : Rect × ℕ} (h : card ∈ shownCards games activeSystem gamePosition) {x y : ℤ}
    (hcontains : card.1.contains x y = true) : 280 ≤ x ∧ x < 1000 ∧ 154 ≤ y ∧ y < 418 := by
  obtain ⟨card, index⟩ := card
  obtain ⟨k, hk, hcard, -, -⟩ := mem_shownCards h
  have hstart := cardStart_eq (Nat.lt_of_le_of_lt (Nat.zero_le k) hk) (Nat.min_le_left _ _)
  rw [hcard, Rect.contains, decide_eq_true_eq] at hcontains
  dsimp only at hcontains
  omega

/-! ### The target under a finger -/

/-- The tabs lie above the cards. -/
theorem tab_row {count : ℕ} {tab : Rect × ℕ} (h : tab ∈ (systemTabs count).zipIdx) {x y : ℤ}
    (hcontains : tab.1.contains x y = true) : y < 128 := by
  obtain ⟨rect, index⟩ := tab
  have hmem : rect ∈ systemTabs count := List.fst_mem_of_mem_zipIdx h
  obtain ⟨k, -, rfl⟩ := List.mem_map.1 hmem
  rw [Rect.contains, decide_eq_true_eq] at hcontains
  dsimp only at hcontains
  omega

/-- A rectangle that ends before a point or begins after it does not contain it. -/
theorem not_contains {rect : Rect} {x y : ℤ}
    (h : x < rect.x ∨ rect.x + rect.width ≤ x ∨ y < rect.y ∨ rect.y + rect.height ≤ y) :
    ¬ rect.contains x y = true := by
  rw [Rect.contains, decide_eq_true_eq]
  omega

section Targets

variable {games : List GameEntry} {activeSystem : Bytes} {gamePosition : ℕ}

/-- The cards that `target_at` tries are all of them. -/
theorem filter_shownCards (h : games.length ≤ intMax) :
    (shownCards games activeSystem gamePosition).filter (fun card : Rect × ℕ => card.2 < intMax) =
      shownCards games activeSystem gamePosition := by
  refine List.filter_eq_self.2 ?_
  intro card hcard
  obtain ⟨k, -, -, -, hindex⟩ := mem_shownCards hcard
  exact decide_eq_true (Nat.lt_of_lt_of_le hindex h)

/-- **A point of a card leads to the game of the card.** -/
theorem targetAt_of_mem_shownCards (h : games.length ≤ intMax) {card : Rect × ℕ}
    (hcard : card ∈ shownCards games activeSystem gamePosition) {x y : ℤ}
    (hcontains : card.1.contains x y = true) :
    targetAt (menuLayout games activeSystem gamePosition) x y = card.2 := by
  obtain ⟨hleft, hright, htop, hbottom⟩ := card_bounds hcard hcontains
  have hcredits : ¬ (menuLayout games activeSystem gamePosition).creditsButton.contains
      x y = true :=
    not_contains (Or.inr (Or.inl (show (12 : ℤ) + 56 ≤ x by omega)))
  have hsettings : ¬ (menuLayout games activeSystem gamePosition).settingsButton.contains
      x y = true :=
    not_contains (Or.inl (show x < 1212 by omega))
  have hprevious :
      ¬ (menuLayout games activeSystem gamePosition).gamePreviousButton.contains x y = true := by
    refine not_contains (Or.inr (Or.inl ?_))
    simp only [menuLayout]
    split <;> dsimp only <;> omega
  have hnext : ¬ (menuLayout games activeSystem gamePosition).gameNextButton.contains x
      y = true := by
    refine not_contains ?_
    simp only [menuLayout]
    split <;> dsimp only <;> omega
  have htabs : hit (menuLayout games activeSystem gamePosition).systemButtons.zipIdx x
      y = none := by
    refine hit_eq_none ?_
    intro tab htab
    rw [← Bool.not_eq_true]
    intro hpoint
    have hrow := tab_row htab hpoint
    omega
  have hhit : hit (shownCards games activeSystem gamePosition) x y = some card.2 :=
    hit_eq_some hcard hcontains fun other hother hpoint => card_unique hother hcard hpoint hcontains
  rw [targetAt, if_neg hcredits, if_neg hsettings, if_neg hprevious, if_neg hnext, htabs]
  dsimp only
  rw [← shownCards_def, filter_shownCards h, hhit]

/-- **No other point leads to a game**: it leads to a tab or to one of the other targets, which are
negative. -/
theorem targetAt_of_outside {x y : ℤ}
    (h : ∀ card ∈ shownCards games activeSystem gamePosition, card.1.contains x y = false) :
    targetAt (menuLayout games activeSystem gamePosition) x y < 0 ∨
      menuTargetSystemBase ≤ targetAt (menuLayout games activeSystem gamePosition) x y ∧
        targetAt (menuLayout games activeSystem gamePosition) x y - menuTargetSystemBase <
          (menuLayout games activeSystem gamePosition).systems.length := by
  rw [targetAt]
  split
  · exact Or.inl (by decide)
  · split
    · exact Or.inl (by decide)
    · split
      · exact Or.inl (by decide)
      · split
        · exact Or.inl (by decide)
        · cases htab : hit (menuLayout games activeSystem gamePosition).systemButtons.zipIdx x y
            with
          | some index =>
              obtain ⟨tab, hfound, rfl⟩ := Option.map_eq_some_iff.1 htab
              have hbound := List.snd_lt_of_mem_zipIdx (List.mem_of_find?_eq_some hfound)
              have hlength : (menuLayout games activeSystem gamePosition).systemButtons.length =
                  (menuLayout games activeSystem gamePosition).systems.length := by
                simp [menuLayout, systemTabs]
              dsimp only
              refine Or.inr ⟨by omega, ?_⟩
              omega
          | none =>
              have hnone : hit ((shownCards games activeSystem gamePosition).filter
                  fun card : Rect × ℕ => card.2 < intMax) x y = none :=
                hit_eq_none fun card hcard => h card (List.mem_filter.1 hcard).1
              dsimp only
              rw [← shownCards_def, hnone]
              exact Or.inl (by decide)

end Targets

/-! ### The steps -/

def nextPosition (count position : ℕ) : ℕ := (position + 1) % count

def previousPosition (count position : ℕ) : ℕ := if position = 0 then count - 1 else position - 1

/-- The buttons and the arrows make these steps. -/
theorem gamePosition_stepPosition {W : Type} {games : List GameEntry} {s : MenuState W}
    (h : 0 < gameCount games s.activeSystem) (previous : Bool) :
    (s.stepPosition games previous).gamePosition =
      if previous = true then previousPosition (gameCount games s.activeSystem) s.gamePosition
      else nextPosition (gameCount games s.activeSystem) s.gamePosition := by
  have hcount : ¬ (s.layout games).gameIndices.length = 0 := Nat.pos_iff_ne_zero.1 h
  simp only [MenuState.stepPosition, if_neg hcount]
  cases previous <;> rfl

theorem nextPosition_lt {count : ℕ} (h : 0 < count) (position : ℕ) :
    nextPosition count position < count := Nat.mod_lt _ h

theorem previousPosition_lt {count position : ℕ} (h : position < count) :
    previousPosition count position < count := by
  rw [previousPosition]
  split <;> omega

theorem nextPosition_of_lt {count position : ℕ} (h : position < count) :
    nextPosition count position = if position + 1 = count then 0 else position + 1 := by
  rw [nextPosition]
  split
  · next hlast => rw [hlast, Nat.mod_self]
  · next hlast => exact Nat.mod_eq_of_lt (by omega)

theorem previousPosition_nextPosition {count position : ℕ} (h : position < count) :
    previousPosition count (nextPosition count position) = position := by
  rw [nextPosition_of_lt h, previousPosition]
  by_cases hlast : position + 1 = count
  · rw [if_pos hlast, if_pos rfl]
    omega
  · rw [if_neg hlast, if_neg (Nat.succ_ne_zero position), Nat.add_sub_cancel]

theorem nextPosition_previousPosition {count position : ℕ} (h : position < count) :
    nextPosition count (previousPosition count position) = position := by
  rw [nextPosition_of_lt (previousPosition_lt h), previousPosition]
  by_cases hfirst : position = 0
  · rw [if_pos hfirst, if_pos (Nat.sub_add_cancel (Nat.lt_of_le_of_lt (Nat.zero_le _) h)), hfirst]
  · rw [if_neg hfirst, Nat.sub_add_cancel (Nat.pos_of_ne_zero hfirst), if_neg (Nat.ne_of_lt h)]

/-- **The steps run through all positions**: `k` of them lead `k` places on, in a circle. -/
theorem iterate_nextPosition {count position : ℕ} (h : position < count) (k : ℕ) :
    (nextPosition count)^[k] position = (position + k) % count := by
  induction k with
  | zero => exact (Nat.mod_eq_of_lt h).symm
  | succ k ih =>
      rw [Function.iterate_succ_apply', ih, nextPosition, Nat.mod_add_mod, Nat.add_assoc]

/-! ### The carousel -/

/-- **The carousel is consistent**, for every list of games that an `int` can number; the catalog
has at most 64. The visible games are consecutive and include the selected one; a point of a card
leads to the game of the card; any other point leads to a tab or to a negative target, and so to no
game; and the two steps, which the buttons and the arrows make, are inverse to each other and run
through all positions. -/
theorem carousel_consistent {games : List GameEntry} {activeSystem : Bytes} (gamePosition : ℕ)
    (hgames : 0 < gameCount games activeSystem) (hsize : games.length ≤ intMax) :
    let layout := menuLayout games activeSystem gamePosition
    let count := gameCount games activeSystem
    (layout.visibleGameIndices.length = min 3 count ∧ layout.gameButtons.length = min 3 count ∧
        layout.visibleGameIndices <:+: gameIndicesOf games activeSystem ∧
        (gameIndicesOf games activeSystem)[gamePosition % count]? = some layout.shownGameIndex ∧
        layout.shownGameIndex ∈ layout.visibleGameIndices) ∧
      (∀ x y, (∀ card ∈ shownCards games activeSystem gamePosition, card.1.contains x y = true →
          targetAt layout x y = card.2) ∧
        ((∀ card ∈ shownCards games activeSystem gamePosition, card.1.contains x y = false) →
          targetAt layout x y < 0 ∨ menuTargetSystemBase ≤ targetAt layout x y ∧
            targetAt layout x y - menuTargetSystemBase < layout.systems.length)) ∧
      (∀ {W : Type} (s : MenuState W), s.activeSystem = activeSystem →
        (s.stepPosition games false).gamePosition = nextPosition count s.gamePosition ∧
          (s.stepPosition games true).gamePosition = previousPosition count s.gamePosition) ∧
      ∀ position < count, nextPosition count position < count ∧
        previousPosition count position < count ∧
        previousPosition count (nextPosition count position) = position ∧
        nextPosition count (previousPosition count position) = position ∧
        ∀ k, (nextPosition count)^[k] position = (position + k) % count := by
  intro layout count
  obtain ⟨hlength, hinfix, hselected, hmem⟩ := visible_spec gamePosition hgames
  refine ⟨⟨hlength, length_rectRow .., hinfix, hselected, hmem⟩, fun x y => ⟨?_, ?_⟩, ?_, ?_⟩
  · intro card hcard hcontains
    exact targetAt_of_mem_shownCards hsize hcard hcontains
  · intro houtside
    exact targetAt_of_outside houtside
  · rintro W s rfl
    exact ⟨gamePosition_stepPosition hgames false, gamePosition_stepPosition hgames true⟩
  · intro position hposition
    exact ⟨nextPosition_lt hgames position, previousPosition_lt hposition,
      previousPosition_nextPosition hposition, nextPosition_previousPosition hposition,
      iterate_nextPosition hposition⟩

/-- A catalog with one Game Boy game and four games for the NES. -/
def sampleGames : List GameEntry :=
  [⟨ascii "tetris", ascii "Tetris", ascii "gb", ascii "/roms/tetris.gb", ⟨0, 0, 0⟩, .none⟩,
    ⟨ascii "alter", ascii "Alter Ego", ascii "nes", ascii "/roms/alter.nes", ⟨0, 0, 0⟩, .none⟩,
    ⟨ascii "blade", ascii "Blade Buster", ascii "nes", ascii "/roms/blade.nes", ⟨0, 0, 0⟩, .none⟩,
    ⟨ascii "nova", ascii "Nova", ascii "nes", ascii "/roms/nova.nes", ⟨0, 0, 0⟩, .none⟩,
    ⟨ascii "zap", ascii "Zap Ruder", ascii "nes", ascii "/roms/zap.nes", ⟨0, 0, 0⟩, .none⟩]

/-- With the last game selected the first card shows the second game of the four. -/
theorem carousel_consistent_sample :
    (menuLayout sampleGames (ascii "nes") 3).visibleGameIndices.length = 3 ∧
      targetAt (menuLayout sampleGames (ascii "nes") 3) 300 200 = 2 ∧
      nextPosition 4 3 = 0 ∧ previousPosition 4 0 = 3 := by
  have h := @carousel_consistent sampleGames (ascii "nes") 3 (by decide) (by decide)
  have hcount : gameCount sampleGames (ascii "nes") = 4 := by decide
  have hcard : ((⟨280, 154, 216, 264⟩, 2) : Rect × ℕ) ∈ shownCards sampleGames (ascii "nes") 3 := by
    decide
  rw [hcount] at h
  obtain ⟨⟨hlength, -⟩, hpoints, -, -⟩ := h
  exact ⟨hlength, (hpoints 300 200).1 _ hcard (by decide), by decide, by decide⟩

end NesDeck.Carousel
