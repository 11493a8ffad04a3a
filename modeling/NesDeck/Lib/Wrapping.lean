/-
**Breaking a text into lines.**

A text is laid out in lines by dropping the spaces before each line and cutting it behind. A cut is
made at a space, or inside a word that fills the line and does not fit on it. Which lines fit is a
parameter.

Main definitions:

* `Wrapping.IsWord` — a word of a text, with what is before and behind it;
* `Wrapping.Cut` — where a line may end;
* `Wrapping.Lays` — a text is laid out in lines.

Main results:

* `Wrapping.Lays.line` — every line fits, and starts with a letter;
* `Wrapping.Lays.length_le` — there are no more lines than letters;
* `Wrapping.Lays.letters` — no letter is lost, added or moved;
* `Wrapping.Lays.whole` — **a word that fits is not broken**.
-/

import Mathlib.Data.List.TakeDrop
import Mathlib.Data.List.TakeWhile

set_option relaxedAutoImplicit false
set_option autoImplicit false

namespace Wrapping

variable {α : Type*}

section

variable (space : α → Bool) (fits : List α → Prop)

/-- The letters of a text are what is not a space. -/
def letters (text : List α) : List α := text.filter fun c => !space c

/-- A word, and what is before and behind it. -/
structure IsWord (before word after : List α) : Prop where
  ne_nil : word ≠ []
  letter : ∀ c ∈ word, space c = false
  before : ∀ c, before.getLast? = some c → space c = true
  after : ∀ c, after.head? = some c → space c = true

/-- A line may end before a space, and where it has no space and the word that it starts does not
fit. -/
def Cut (line rest : List α) : Prop :=
  (∀ c, rest.head? = some c → space c = true) ∨
    (∀ c ∈ line, space c = false) ∧ ¬fits (line ++ rest.takeWhile fun c => !space c)

/-- A text is laid out in lines. -/
inductive Lays : List α → List (List α) → Prop where
  | nil {gap : List α} (hgap : ∀ c ∈ gap, space c = true) : Lays gap []
  | cons {gap line rest : List α} {lines : List (List α)} (hgap : ∀ c ∈ gap, space c = true)
      (hne : line ≠ []) (hhead : ∀ c, line.head? = some c → space c = false) (hfits : fits line)
      (hcut : Cut space fits line rest) (hrest : Lays rest lines) :
      Lays (gap ++ (line ++ rest)) (line :: lines)

end

variable {space : α → Bool} {fits : List α → Prop}

@[simp] theorem letters_append (first second : List α) :
    letters space (first ++ second) = letters space first ++ letters space second :=
  List.filter_append _ _

theorem letters_eq_nil {gap : List α} (h : ∀ c ∈ gap, space c = true) : letters space gap = [] := by
  simpa [letters] using h

/-- Where a word starts, the spaces before the line are over. -/
theorem IsWord.exists_eq_append {before word after gap text : List α}
    (h : IsWord space before word after)
    (hgap : ∀ c ∈ gap, space c = true) (heq : gap ++ text = before ++ (word ++ after)) :
    ∃ before', before = gap ++ before' ∧ text = before' ++ (word ++ after) := by
  rcases List.append_eq_append_iff.1 heq with ⟨before', hbefore, htext⟩ | ⟨gap', hspace, hword⟩
  · exact ⟨before', hbefore, htext⟩
  · cases gap' with
    | nil =>
        rw [List.append_nil] at hspace
        exact ⟨[], by simp [hspace], by simpa using hword.symm⟩
    | cons c gap' =>
        -- a space in the place of the first letter
        cases word with
        | nil => exact absurd rfl h.ne_nil
        | cons d word =>
            obtain ⟨rfl, -⟩ := List.cons.inj hword
            have hletter := h.letter d List.mem_cons_self
            rw [hgap d (by simp [hspace])] at hletter
            cases hletter

/-- What is before a word may be cut short in front. -/
theorem IsWord.of_append {gap before word after : List α}
    (h : IsWord space (gap ++ before) word after) :
    IsWord space before word after where
  ne_nil := h.ne_nil
  letter := h.letter
  before := by
    intro c hc
    refine h.before c ?_
    rw [List.getLast?_append, hc, Option.some_or]
  after := h.after

/-- What is behind a word may be cut short behind. -/
theorem IsWord.of_append_after {before word right rest : List α}
    (h : IsWord space before word (right ++ rest)) : IsWord space before word right where
  ne_nil := h.ne_nil
  letter := h.letter
  before := h.before
  after := by
    intro c hc
    refine h.after c ?_
    rw [List.head?_append, hc, Option.some_or]

/-- **Only a word that does not fit is cut inside.** -/
theorem IsWord.not_fits_of_cut {before after first second : List α}
    (h : IsWord space before (first ++ second) after)
    (hcut : Cut space fits (before ++ first) (second ++ after)) (hsecond : second ≠ []) :
    ¬fits (first ++ second) := by
  rcases hcut with hspace | ⟨hletters, hlong⟩
  · cases second with
    | nil => exact absurd rfl hsecond
    | cons c second =>
        have hletter := h.letter c (by simp)
        rw [hspace c rfl] at hletter
        cases hletter
  · have hbefore : before = [] := by
      rw [← List.getLast?_eq_none_iff]
      cases hlast : before.getLast? with
      | none => rfl
      | some c =>
          have hletter := hletters c (List.mem_append_left _ (List.mem_of_getLast? hlast))
          rw [h.before c hlast] at hletter
          cases hletter
    have hafter : after.takeWhile (fun c => !space c) = [] := by
      cases after with
      | nil => rfl
      | cons c after => simp [h.after c rfl]
    have hrest : (second ++ after).takeWhile (fun c => !space c) = second := by
      rw [List.takeWhile_append_of_pos, hafter, List.append_nil]
      intro c hc
      simp [h.letter c (List.mem_append_right _ hc)]
    rwa [hrest, hbefore, List.nil_append] at hlong

namespace Lays

variable {text : List α} {lines : List (List α)}

/-- Every line fits, and starts with a letter. -/
theorem line (h : Lays space fits text lines) :
    ∀ line ∈ lines, line ≠ [] ∧ (∀ c, line.head? = some c → space c = false) ∧ fits line := by
  induction h with
  | nil => simp
  | cons hgap hne hhead hfits hcut hrest ih =>
      exact List.forall_mem_cons.2 ⟨⟨hne, hhead, hfits⟩, ih⟩

/-- No letter is lost, added or moved. -/
theorem letters (h : Lays space fits text lines) :
    Wrapping.letters space lines.flatten = Wrapping.letters space text := by
  induction h with
  | nil hgap => rw [letters_eq_nil hgap]; rfl
  | cons hgap hne hhead hfits hcut hrest ih =>
      rw [List.flatten_cons, letters_append, letters_append, letters_append, ih,
        letters_eq_nil hgap,
        List.nil_append]

/-- Every line has a letter. -/
theorem length_le (h : Lays space fits text lines) :
    lines.length ≤ (Wrapping.letters space text).length := by
  induction h with
  | nil => exact Nat.zero_le _
  | @cons gap line rest lines hgap hne hhead hfits hcut hrest ih =>
      have hletter : 0 < (Wrapping.letters space line).length := by
        cases line with
        | nil => exact absurd rfl hne
        | cons c line => simp [Wrapping.letters, hhead c rfl]
      rw [letters_append, letters_append, List.length_append, List.length_append, List.length_cons]
      omega

/-- **A word that fits is not broken**: it is a word of some line, with the same letters before and
behind it. -/
theorem whole (h : Lays space fits text lines) {before word after : List α}
    (htext : text = before ++ (word ++ after)) (hword : IsWord space before word after)
    (hfits : fits word) :
    ∃ above left right below, lines = above ++ (left ++ (word ++ right)) :: below ∧
      IsWord space left word right ∧
      Wrapping.letters space (above.flatten ++ left) = Wrapping.letters space before ∧
      Wrapping.letters space (right ++ below.flatten) = Wrapping.letters space after := by
  induction h generalizing before with
  | nil hgap =>
      obtain ⟨before', -, hnil⟩ :=
        hword.exists_eq_append hgap (show _ ++ [] = _ by rw [List.append_nil, htext])
      exact absurd (List.append_eq_nil_iff.1 (List.append_eq_nil_iff.1 hnil.symm).2).1 hword.ne_nil
  | @cons gap line rest lines hgap hne hhead hline hcut hrest ih =>
      obtain ⟨before', rfl, hrun⟩ := hword.exists_eq_append hgap htext
      rw [letters_append, letters_eq_nil hgap, List.nil_append]
      rcases List.append_eq_append_iff.1 hrun with ⟨before'', rfl, hlater⟩ | ⟨tail, rfl, hsplit⟩
      · -- the word is behind the line
        obtain ⟨above, left, right, below, rfl, hleft, hbefore, hafter⟩ :=
          ih hlater (by rw [← List.append_assoc] at hword; exact hword.of_append)
        refine ⟨line :: above, left, right, below, rfl, hleft, ?_, hafter⟩
        rw [List.flatten_cons, List.append_assoc, letters_append, hbefore, letters_append]
      · -- the word starts in the line
        rcases List.append_eq_append_iff.1 hsplit with ⟨right, rfl, rfl⟩ | ⟨second, rfl, rfl⟩
        · refine ⟨[], before', right, lines, rfl, hword.of_append.of_append_after, ?_, ?_⟩
          · simp
          · rw [letters_append, letters_append, hrest.letters]
        · -- the line cannot end inside the word, but may end with it
          cases second with
          | nil =>
              simp only [List.append_nil] at hword ⊢
              refine ⟨[], before', [], lines, by simp, ?_, ?_, ?_⟩
              · exact (show IsWord space before' tail ([] ++ after)
                  from hword.of_append).of_append_after
              · simp
              · exact hrest.letters
          | cons c second =>
              exact absurd hfits (hword.of_append.not_fits_of_cut hcut (List.cons_ne_nil c second))

end Lays

end Wrapping
