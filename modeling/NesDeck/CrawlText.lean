/-
**The lines of the credits.**

The credits crawl over the screen in lines of at most 1040 pixels (`wrap_crawl_text` in
`menu_credits.cpp`). The spaces before a line are dropped. A text that is too wide is cut at the
last space that leaves a line which fits, and otherwise after as many characters as fit.

Main definitions:

* `NesDeck.CrawlText.wrapCrawlText` — the lines of a text;
* `NesDeck.CrawlText.LineFits` — the width of a line.

Main results:

* `NesDeck.CrawlText.crawlSplit_spec` — where a text is cut;
* `NesDeck.CrawlText.lays_wrapCrawlText` — the text is laid out in its lines;
* `NesDeck.CrawlText.wrapCrawlText_spec` — **the lines fit and start with a letter, no letter is
  lost, and a word that fits is not broken**.
-/

import NesDeck.Lib.Wrapping
import NesDeck.MenuUi

set_option relaxedAutoImplicit false
set_option autoImplicit false

namespace NesDeck.CrawlText

open HostFile (Bytes)
open MenuText (displayAscii)
open MenuUi (kBitmapGlyphAdvance textWidth textWidth_eq)
open Wrapping

def kCrawlMaximumLineWidth : ℕ := 1040

def kCreditsCrawlTextScale : ℕ := 4

/-! ### The loop -/

def isBlank (character : UInt8) : Bool := character = 0x20

/-- `std::string::rfind`: the last place of a character, from a position on backwards. -/
def rfind (text : Bytes) (character : UInt8) : ℕ → Option ℕ
  | 0 => if text[0]? = some character then some 0 else none
  | position + 1 =>
      if text[position + 1]? = some character then some (position + 1)
        else rfind text character position

def maximumCharacters : ℕ :=
  (kCrawlMaximumLineWidth + kCreditsCrawlTextScale) / (kBitmapGlyphAdvance * kCreditsCrawlTextScale)

/-- Where a text is cut that is too wide. -/
def crawlSplit (remaining : Bytes) : ℕ :=
  match rfind remaining 0x20 maximumCharacters with
  | none => maximumCharacters
  | some 0 => maximumCharacters
  | some (split + 1) => split + 1

theorem crawlSplit_pos (remaining : Bytes) : 0 < crawlSplit remaining := by
  rw [crawlSplit]
  split <;> simp [maximumCharacters, kCrawlMaximumLineWidth, kCreditsCrawlTextScale,
    kBitmapGlyphAdvance]

/-- The loop ends since a cut is never made before the first character. -/
def wrapLoop (remaining : Bytes) : List Bytes :=
  if remaining = [] then []
  else
    let trimmed := remaining.dropWhile isBlank
    if trimmed = [] then []
    else if textWidth trimmed kCreditsCrawlTextScale ≤ kCrawlMaximumLineWidth then [trimmed]
    else trimmed.take (crawlSplit trimmed) :: wrapLoop (trimmed.drop (crawlSplit trimmed))
termination_by remaining.length
decreasing_by
  rename_i hne _ _
  have hpos := crawlSplit_pos (remaining.dropWhile isBlank)
  have hle : (remaining.dropWhile isBlank).length ≤ remaining.length :=
    (List.dropWhile_sublist isBlank).length_le
  have hlength := List.length_pos_of_ne_nil hne
  rw [List.length_drop]
  omega

def wrapCrawlText (input : Bytes) : List Bytes := wrapLoop (displayAscii input)

/-! ### Cuts -/

/-- A line is at most 1040 pixels wide. -/
def LineFits (line : Bytes) : Prop := textWidth line kCreditsCrawlTextScale ≤ kCrawlMaximumLineWidth

/-- 43 characters fit. -/
theorem lineFits_iff (line : Bytes) : LineFits line ↔ line.length ≤ maximumCharacters := by
  have hmaximum : maximumCharacters = 43 := rfl
  rw [LineFits, hmaximum]
  by_cases hnil : line = []
  · simp [hnil, textWidth]
  · rw [textWidth_eq _ hnil]
    simp only [kCreditsCrawlTextScale, kCrawlMaximumLineWidth]
    omega

theorem rfind_eq_some {text : Bytes} {character : UInt8} {position place : ℕ}
    (h : rfind text character position = some place) :
    place ≤ position ∧ text[place]? = some character := by
  induction position with
  | zero =>
      rw [rfind] at h
      split at h
      next hfound =>
        cases h
        exact ⟨le_rfl, hfound⟩
      · cases h
  | succ position ih =>
      rw [rfind] at h
      split at h
      next hfound =>
        cases h
        exact ⟨le_rfl, hfound⟩
      · exact ⟨Nat.le_succ_of_le (ih h).1, (ih h).2⟩

theorem rfind_eq_none {text : Bytes} {character : UInt8} {position place : ℕ}
    (h : rfind text character position = none) (hplace : place ≤ position) :
    text[place]? ≠ some character := by
  induction position with
  | zero =>
      rw [rfind] at h
      obtain rfl := Nat.le_zero.1 hplace
      intro hfound
      simp [hfound] at h
  | succ position ih =>
      rw [rfind] at h
      split at h
      · cases h
      next hother =>
        rcases hplace.eq_or_lt with rfl | hlt
        · exact hother
        · exact ih h (Nat.le_of_lt_succ hlt)

/-- **Where a text is cut that is too wide**: not before its first character, so that the line fits,
and inside a word only if the word fills more than the line. -/
theorem crawlSplit_spec {remaining : Bytes} (hhead : remaining.head? ≠ some 0x20)
    (hwide : ¬LineFits remaining) :
    crawlSplit remaining ≤ maximumCharacters ∧
      Cut isBlank LineFits (remaining.take (crawlSplit remaining))
        (remaining.drop (crawlSplit remaining)) := by
  rw [lineFits_iff, Nat.not_le] at hwide
  rw [crawlSplit]
  split
  next hnone =>
    have hletter : ∀ place ≤ maximumCharacters, ∀ c, remaining[place]? = some c →
        isBlank c = false := by
      intro place hplace c hc
      have hother := rfind_eq_none hnone hplace
      rw [hc] at hother
      simpa [isBlank] using hother
    refine ⟨le_rfl, Or.inr ⟨?_, ?_⟩⟩
    · intro c hc
      obtain ⟨place, hplace⟩ := List.mem_iff_getElem?.1 hc
      have hlt : place < maximumCharacters := by
        have hlength := (List.getElem?_eq_some_iff.1 hplace).1
        rw [List.length_take] at hlength
        omega
      rw [List.getElem?_take_of_lt hlt] at hplace
      exact hletter place hlt.le c hplace
    · -- the character behind the line belongs to its word
      have hnext := List.drop_eq_getElem_cons hwide
      have hblank := hletter _ le_rfl _ (List.getElem?_eq_getElem hwide)
      rw [lineFits_iff, hnext, List.takeWhile_cons_of_pos (by simp [hblank]), List.length_append,
        List.length_take, List.length_cons]
      omega
  next hzero =>
    have hfound := (rfind_eq_some hzero).2
    rw [← List.head?_eq_getElem?] at hfound
    exact absurd hfound hhead
  next split hsplit =>
    obtain ⟨hle, hblank⟩ := rfind_eq_some hsplit
    refine ⟨hle, Or.inl ?_⟩
    rw [List.head?_drop, hblank]
    simp [isBlank]

/-! ### Lines -/

/-- The text behind the spaces starts with a letter. -/
theorem isBlank_head (text : Bytes) : ∀ c, (text.dropWhile isBlank).head? = some c →
    isBlank c = false := by
  intro c hc
  have hhead := List.head?_dropWhile_not isBlank text
  rwa [hc] at hhead

/-- The spaces before a line are a gap. -/
theorem lays_of_dropWhile {text line rest : Bytes} {lines : List Bytes}
    (htext : text.dropWhile isBlank = line ++ rest) (hne : line ≠ []) (hfits : LineFits line)
    (hcut : Cut isBlank LineFits line rest) (hrest : Lays isBlank LineFits rest lines) :
    Lays isBlank LineFits text (line :: lines) := by
  have hhead : ∀ c, line.head? = some c → isBlank c = false := by
    intro c hc
    refine isBlank_head text c ?_
    rw [htext, List.head?_append, hc, Option.some_or]
  rw [← List.takeWhile_append_dropWhile (p := isBlank) (l := text), htext]
  exact .cons (fun c hc => List.mem_takeWhile_imp hc) hne hhead hfits hcut hrest

/-- **The loop lays out its text in lines.** -/
theorem lays_wrapLoop (remaining : Bytes) :
    Lays isBlank LineFits remaining (wrapLoop remaining) := by
  induction remaining using wrapLoop.induct with
  | case1 =>
      rw [wrapLoop, if_pos rfl]
      exact .nil (by simp)
  | case2 remaining hne trimmed htrimmed =>
      rw [wrapLoop, if_neg hne, if_pos htrimmed]
      exact .nil (List.dropWhile_eq_nil_iff.1 htrimmed)
  | case3 remaining hne trimmed htrimmed hfits =>
      rw [wrapLoop, if_neg hne, if_neg htrimmed, if_pos hfits]
      exact lays_of_dropWhile (List.append_nil _).symm htrimmed hfits (Or.inl (by simp))
        (.nil (by simp))
  | case4 remaining hne trimmed htrimmed hwide ih =>
      have hhead : trimmed.head? ≠ some 0x20 := by
        intro hblank
        simpa [isBlank] using isBlank_head remaining _ hblank
      obtain ⟨hle, hcut⟩ := crawlSplit_spec hhead hwide
      have hne' : trimmed.take (crawlSplit trimmed) ≠ [] := by
        have hpos := crawlSplit_pos trimmed
        rw [Ne, List.take_eq_nil_iff, not_or]
        exact ⟨by omega, htrimmed⟩
      have hfits : LineFits (trimmed.take (crawlSplit trimmed)) := by
        rw [lineFits_iff, List.length_take]
        omega
      rw [wrapLoop, if_neg hne, if_neg htrimmed, if_neg hwide]
      exact lays_of_dropWhile (List.take_append_drop _ _).symm hne' hfits hcut ih

theorem lays_wrapCrawlText (input : Bytes) :
    Lays isBlank LineFits (displayAscii input) (wrapCrawlText input) :=
  lays_wrapLoop (displayAscii input)

/-- **The lines of a text**: there are no more of them than letters. Every line is at most 1040
pixels wide and starts with a letter; the lines have the letters of the text, in order; and a word
that is at most 1040 pixels wide stands as a word on one of the lines, with the same letters before
and behind it. -/
theorem wrapCrawlText_spec (input : Bytes) :
    (wrapCrawlText input).length ≤ (letters isBlank (displayAscii input)).length ∧
      (∀ line ∈ wrapCrawlText input, line ≠ [] ∧ line.head? ≠ some 0x20 ∧
        textWidth line kCreditsCrawlTextScale ≤ kCrawlMaximumLineWidth) ∧
      letters isBlank (wrapCrawlText input).flatten = letters isBlank (displayAscii input) ∧
      ∀ before word after, displayAscii input = before ++ (word ++ after) →
        IsWord isBlank before word after →
        textWidth word kCreditsCrawlTextScale ≤ kCrawlMaximumLineWidth →
        ∃ above left right below, wrapCrawlText input =
          above ++ (left ++ (word ++ right)) :: below ∧
          IsWord isBlank left word right ∧
          letters isBlank (above.flatten ++ left) = letters isBlank before ∧
          letters isBlank (right ++ below.flatten) = letters isBlank after := by
  have hlays := lays_wrapCrawlText input
  refine ⟨hlays.length_le, ?_, hlays.letters, fun before word after htext hword hfits =>
    hlays.whole htext hword hfits⟩
  intro line hmem
  obtain ⟨hne, hhead, hfits⟩ := hlays.line line hmem
  refine ⟨hne, ?_, hfits⟩
  intro hblank
  simpa [isBlank] using hhead _ hblank

end NesDeck.CrawlText
