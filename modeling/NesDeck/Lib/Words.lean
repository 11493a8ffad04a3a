/-
**Words between white space and comments.**

A text is read word by word. What stands between the words is white space and comments: a comment
starts with a mark and extends up to the end of its line. A word ends at the next white space or
mark.

Main definitions:

* `Words.Spacing` — what white space and comments are;
* `Words.Spacing.Gap` — what may stand between two words;
* `Words.Spacing.next` — the next word, and what follows it.

Main results:

* `Words.Spacing.next_of_gap` — **a word behind a gap is found**;
* `Words.Spacing.exists_gap_of_next` — **what is found stands behind a gap**.
-/

import Mathlib.Data.List.TakeWhile

set_option relaxedAutoImplicit false
set_option autoImplicit false

namespace Words

/-- What white space and comments are.  The end of a line is white space, and no mark is. -/
structure Spacing (α : Type*) where
  isSpace : α → Bool
  /-- The mark a comment starts with. -/
  mark : α
  /-- The end of a line. -/
  stop : α
  isSpace_stop : isSpace stop = true
  isSpace_mark : isSpace mark = false

namespace Spacing

variable {α : Type*} [DecidableEq α] (spacing : Spacing α)

def isLetter (c : α) : Bool := !spacing.isSpace c && decide (c ≠ spacing.mark)

/-- What is left behind the white space and the comments. -/
def skip : List α → List α
  | [] => []
  | c :: rest =>
      if spacing.isSpace c = true then skip rest
      else if c = spacing.mark then skip (rest.dropWhile (· ≠ spacing.stop))
      else c :: rest
termination_by input => input.length
decreasing_by
  · simp
  · have hle := (List.dropWhile_sublist (l := rest) (· ≠ spacing.stop)).length_le
    simp only [List.length_cons]
    omega

/-- The next word, which is empty at the end of the text, and what follows it. -/
def next (input : List α) : List α × List α :=
  ((spacing.skip input).takeWhile spacing.isLetter, (spacing.skip input).dropWhile spacing.isLetter)

/-- What may stand between two words. -/
inductive Gap : List α → Prop where
  | nil : Gap []
  | space {c : α} {gap : List α} (hspace : spacing.isSpace c = true)
    (hgap : Gap gap) : Gap (c :: gap)
  | comment {text gap : List α} (htext : spacing.stop ∉ text) (hgap : Gap gap) :
      Gap (spacing.mark :: (text ++ spacing.stop :: gap))

/-- A word cannot be continued by what follows it. -/
def Ends (rest : List α) : Prop := ∀ c, rest.head? = some c → spacing.isLetter c = false

variable {spacing} {gap word rest input : List α}

theorem isLetter_eq_true {c : α} :
    spacing.isLetter c = true ↔ spacing.isSpace c = false ∧ c ≠ spacing.mark := by
  rw [isLetter, Bool.and_eq_true, Bool.not_eq_true', decide_eq_true_eq]

/-- A gap that is not empty ends a word. -/
theorem Gap.ends (h : spacing.Gap gap) (hne : gap ≠ []) (rest : List α) :
    spacing.Ends (gap ++ rest) := by
  intro c hc
  cases h with
  | nil => exact absurd rfl hne
  | space hspace hgap =>
      obtain rfl : _ = c := Option.some.inj hc
      simp [isLetter, hspace]
  | comment htext hgap =>
      obtain rfl : _ = c := Option.some.inj hc
      simp [isLetter]

theorem skip_letter {c : α} (h : spacing.isLetter c = true) (rest : List α) :
    spacing.skip (c :: rest) = c :: rest := by
  obtain ⟨hspace, hmark⟩ := isLetter_eq_true.1 h
  rw [skip, if_neg (by simp [hspace]), if_neg hmark]

/-- A comment extends up to the end of its line. -/
theorem dropWhile_line {a : α} {text : List α} (h : a ∉ text) (rest : List α) :
    (text ++ a :: rest).dropWhile (· ≠ a) = a :: rest := by
  have hpos : ∀ c ∈ text, decide (c ≠ a) = true :=
    fun c hc => decide_eq_true fun heq => h (heq ▸ hc)
  rw [List.dropWhile_append_of_pos hpos]
  exact List.dropWhile_cons_of_neg (by simp)

/-- Where a line ends, if it does. -/
theorem exists_line {a : α} (input : List α) (hne : input.dropWhile (· ≠ a) ≠ []) :
    ∃ text rest, a ∉ text ∧ input.dropWhile (· ≠ a) = a :: rest ∧ input = text ++ a :: rest := by
  cases hdrop : input.dropWhile (· ≠ a) with
  | nil => exact absurd hdrop hne
  | cons first rest =>
      have hfirst := List.head_dropWhile_not _ hne
      simp only [hdrop, List.head_cons, decide_eq_false_iff_not, not_not] at hfirst
      subst hfirst
      refine ⟨input.takeWhile (· ≠ first), rest, ?_, rfl, ?_⟩
      · intro hmem
        simpa using List.mem_takeWhile_imp hmem
      · rw [← hdrop, List.takeWhile_append_dropWhile]

/-- A gap is skipped. -/
theorem skip_gap (h : spacing.Gap gap) (rest : List α) :
    spacing.skip (gap ++ rest) = spacing.skip rest := by
  induction h with
  | nil => rfl
  | space hspace hgap ih => rw [List.cons_append, skip, if_pos hspace, ih]
  | comment htext hgap ih =>
      rw [List.cons_append, skip, if_neg (by simp [spacing.isSpace_mark]), if_pos rfl,
        List.append_assoc,
        List.cons_append, dropWhile_line htext, skip, if_pos spacing.isSpace_stop, ih]

/-- What is skipped is a gap, unless nothing follows. -/
theorem exists_gap_skip (input : List α) (hne : spacing.skip input ≠ []) :
    ∃ gap c rest, spacing.Gap gap ∧ spacing.isLetter c = true ∧ spacing.skip input = c :: rest ∧
      input = gap ++ c :: rest := by
  fun_induction skip spacing input with
  | case1 => exact absurd rfl hne
  | case2 first input hspace ih =>
      obtain ⟨gap, c, rest, hgap, hletter, hskip, rfl⟩ := ih hne
      exact ⟨first :: gap, c, rest, .space hspace hgap, hletter, hskip, rfl⟩
  | case3 input hspace ih =>
      have hline : input.dropWhile (· ≠ spacing.stop) ≠ [] := by
        intro hnil
        rw [hnil, skip] at hne
        exact hne rfl
      obtain ⟨text, after, htext, hdrop, hinput⟩ := exists_line input hline
      obtain ⟨gap, c, rest, hgap, hletter, hskip, hafter⟩ := ih hne
      rw [hdrop] at hafter
      -- the end of the line is the first element of the gap
      cases hgap with
      | nil =>
          obtain rfl : spacing.stop = c := (List.cons.inj hafter).1
          exact absurd spacing.isSpace_stop (by simp [(isLetter_eq_true.1 hletter).1])
      | @space first gap hspace' hgap =>
          obtain ⟨rfl, rfl⟩ := List.cons.inj hafter
          exact ⟨_, c, rest, .comment htext hgap, hletter, hskip, by simp [hinput]⟩
      | comment _ _ =>
          have hmark := spacing.isSpace_mark
          rw [← (List.cons.inj hafter).1, spacing.isSpace_stop] at hmark
          cases hmark
  | case4 first input hspace hmark =>
      exact ⟨[], first, input, .nil,
        isLetter_eq_true.2 ⟨Bool.not_eq_true _ ▸ hspace, hmark⟩, rfl, rfl⟩

/-- **A word behind a gap is found.** -/
theorem next_of_gap (hgap : spacing.Gap gap) (hne : word ≠ [])
    (hword : ∀ c ∈ word, spacing.isLetter c = true) (hrest : spacing.Ends rest) :
    spacing.next (gap ++ (word ++ rest)) = (word, rest) := by
  have hskip : spacing.skip (gap ++ (word ++ rest)) = word ++ rest := by
    rw [skip_gap hgap]
    cases word with
    | nil => exact absurd rfl hne
    | cons c word => exact skip_letter (hword c List.mem_cons_self) (word ++ rest)
  have htake : rest.takeWhile spacing.isLetter = [] ∧ rest.dropWhile spacing.isLetter = rest := by
    cases rest with
    | nil => exact ⟨rfl, rfl⟩
    | cons c rest => simp [hrest c rfl]
  rw [next, hskip, List.takeWhile_append_of_pos hword, List.dropWhile_append_of_pos hword,
    htake.1, htake.2,
    List.append_nil]

/-- Two words do not stand together. -/
theorem gap_ne_nil (h : spacing.Ends (gap ++ (word ++ rest))) (hne : word ≠ [])
    (hword : ∀ c ∈ word, spacing.isLetter c = true) : gap ≠ [] := by
  rintro rfl
  cases word with
  | nil => exact hne rfl
  | cons c word =>
      have hletter := hword c List.mem_cons_self
      rw [h c rfl] at hletter
      cases hletter

/-- **What is found stands behind a gap.** -/
theorem exists_gap_of_next (h : spacing.next input = (word, rest)) (hne : word ≠ []) :
    ∃ gap, spacing.Gap gap ∧ input = gap ++ (word ++ rest) ∧
      (∀ c ∈ word, spacing.isLetter c = true) ∧ spacing.Ends rest := by
  obtain ⟨rfl, rfl⟩ := Prod.mk.inj h
  have hskip : spacing.skip input ≠ [] := by
    intro hnil
    rw [hnil] at hne
    exact hne rfl
  obtain ⟨gap, c, after, hgap, -, hafter, hinput⟩ := exists_gap_skip input hskip
  refine ⟨gap, hgap, ?_, fun c hc => List.mem_takeWhile_imp hc, ?_⟩
  · rw [List.takeWhile_append_dropWhile, hafter]
    exact hinput
  · intro c hc
    have hdrop : (spacing.skip input).dropWhile spacing.isLetter ≠ [] := by
      intro hnil
      rw [hnil] at hc
      cases hc
    rw [List.head?_eq_some_head hdrop] at hc
    rw [← Option.some.inj hc]
    exact List.head_dropWhile_not _ hdrop

end Spacing

end Words
