/-
**Texts laid out as tokens.**

A text of a small language is a sequence of tokens with blanks between them: marks, which are single
characters that stand for themselves, and words, which are runs of the other characters.  Two words
must not touch, since they would be one; anything else may.  A tokenizer maps a text to its tokens,
and many texts have the same tokens: the relation is what two tokenizers are compared by.

Main definitions:

* `Layout.IsWord` — the characters of words;
* `Layout.Ends` — what may come after a word;
* `Layout` — a text is a layout of tokens.

Main results:

* `Layout.takeWhile_eq`, `Layout.dropWhile_eq` — where the word at the front of a text ends;
* `Layout.cons_takeWhile` — the longest word at the front of a text is a token;
* `Layout.map` — **a layout remains one when its characters are translated**;
* `Layout.forall_mem` — the characters of a text are blanks and characters of tokens.
-/

import Mathlib.Data.List.TakeWhile

set_option relaxedAutoImplicit false
set_option autoImplicit false

variable {α β : Type} {blank mark : α → Bool} {blank' mark' : β → Bool}

/-- The characters of words. -/
def Layout.IsWord (blank mark : α → Bool) (c : α) : Bool := !blank c && !mark c

/-- A word ends before these texts. -/
def Layout.Ends (blank mark : α → Bool) (text : List α) : Prop :=
  ∀ c ∈ text.head?, Layout.IsWord blank mark c = false

/-- The text is a layout of the tokens. -/
inductive Layout (blank mark : α → Bool) : List (List α) → List α → Prop
  | nil : Layout blank mark [] []
  | blank {tokens : List (List α)} {text : List α} {c : α} (hblank : blank c = true)
      (h : Layout blank mark tokens text) : Layout blank mark tokens (c :: text)
  | mark {tokens : List (List α)} {text : List α} {c : α} (hmark : mark c = true)
      (h : Layout blank mark tokens text) : Layout blank mark ([c] :: tokens) (c :: text)
  | word {tokens : List (List α)} {text word : List α} (hne : word ≠ [])
      (hword : ∀ c ∈ word, Layout.IsWord blank mark c = true) (hends : Layout.Ends blank mark text)
      (h : Layout blank mark tokens text) : Layout blank mark (word :: tokens) (word ++ text)

namespace Layout

theorem isWord_iff {c : α} : IsWord blank mark c = true ↔ blank c = false ∧ mark c = false := by
  simp [IsWord]

theorem isWord_eq_false_iff {c : α} :
    IsWord blank mark c = false ↔ blank c = true ∨ mark c = true := by
  rw [IsWord, Bool.and_eq_false_iff, Bool.not_eq_false', Bool.not_eq_false']

@[simp] theorem ends_nil : Ends blank mark [] := by simp [Ends]

@[simp] theorem ends_cons {c : α} {text : List α} :
    Ends blank mark (c :: text) ↔ IsWord blank mark c = false := by simp [Ends]

/-! ### Words at the front of a text -/

/-- A word that ends is taken off as a whole. -/
theorem takeWhile_eq {word text : List α} (hword : ∀ c ∈ word, IsWord blank mark c = true)
    (hends : Ends blank mark text) : (word ++ text).takeWhile (IsWord blank mark) = word := by
  rw [List.takeWhile_append_of_pos hword]
  cases text with
  | nil => rw [List.takeWhile_nil, List.append_nil]
  | cons c text =>
      rw [List.takeWhile_cons_of_neg (by rw [ends_cons.1 hends]; decide), List.append_nil]

theorem dropWhile_eq {word text : List α} (hword : ∀ c ∈ word, IsWord blank mark c = true)
    (hends : Ends blank mark text) : (word ++ text).dropWhile (IsWord blank mark) = text := by
  rw [List.dropWhile_append_of_pos hword]
  cases text with
  | nil => rfl
  | cons c text => rw [List.dropWhile_cons_of_neg (by rw [ends_cons.1 hends]; decide)]

/-- Behind the longest word, a word ends. -/
theorem ends_dropWhile (text : List α) : Ends blank mark (text.dropWhile (IsWord blank mark)) := by
  intro c hc
  have hhead := List.head?_dropWhile_not (IsWord blank mark) text
  rw [Option.mem_def.1 hc] at hhead
  exact hhead

/-- The longest word at the front of a text is a token. -/
theorem cons_takeWhile {tokens : List (List α)} {c : α} {text : List α}
    (hc : IsWord blank mark c = true)
    (h : Layout blank mark tokens (text.dropWhile (IsWord blank mark))) :
    Layout blank mark ((c :: text).takeWhile (IsWord blank mark) :: tokens) (c :: text) := by
  have hsplit := List.takeWhile_append_dropWhile (p := IsWord blank mark) (l := c :: text)
  have hrest : (c :: text).dropWhile (IsWord blank mark) = text.dropWhile (IsWord blank mark) :=
    List.dropWhile_cons_of_pos hc
  have hword := @word α blank mark _ _ ((c :: text).takeWhile (IsWord blank mark))
    (by rw [List.takeWhile_cons_of_pos hc]; exact List.cons_ne_nil _ _)
    (fun _ hmem => List.mem_takeWhile_imp hmem) (ends_dropWhile text) h
  rwa [← hrest, hsplit] at hword

/-! ### Composition and translation -/

/-- An empty text has no tokens. -/
theorem tokens_eq_nil {tokens : List (List α)} {text : List α} (h : Layout blank mark tokens text)
    (htext : text = []) : tokens = [] := by
  cases h with
  | nil => rfl
  | blank => cases htext
  | mark => cases htext
  | word hne => exact absurd (List.append_eq_nil_iff.1 htext).1 hne

/-- Blanks in front of a text. -/
theorem blanks {tokens : List (List α)} {gap text : List α} (hgap : ∀ c ∈ gap, blank c = true)
    (h : Layout blank mark tokens text) : Layout blank mark tokens (gap ++ text) := by
  induction gap with
  | nil => exact h
  | cons c gap ih =>
      exact .blank (hgap c List.mem_cons_self) (ih fun d hd => hgap d (List.mem_cons_of_mem c hd))

/-- **A layout remains one when its characters are translated**, as long as the blanks become
blanks, the marks marks, and the characters of its words characters of words. -/
theorem map {tokens : List (List α)} {text : List α} (h : Layout blank mark tokens text) {f : α → β}
    (hblank : ∀ c, blank c = true → blank' (f c) = true)
    (hmark : ∀ c, mark c = true → mark' (f c) = true)
    (hword : ∀ token ∈ tokens, ∀ c ∈ token, IsWord blank mark c = true →
      IsWord blank' mark' (f c) = true) :
    Layout blank' mark' (tokens.map (List.map f)) (text.map f) := by
  induction h with
  | nil => exact .nil
  | blank hc _ ih =>
      rw [List.map_cons]
      exact .blank (hblank _ hc) (ih hword)
  | mark hc _ ih =>
      rw [List.map_cons, List.map_cons]
      exact .mark (hmark _ hc) (ih fun token hmem => hword token (List.mem_cons_of_mem _ hmem))
  | @word tokens text word hne hall hends _ ih =>
      rw [List.map_cons, List.map_append]
      refine .word (List.map_eq_nil_iff.not.2 hne) ?_ ?_
        (ih fun token hmem => hword token (List.mem_cons_of_mem _ hmem))
      · intro d hd
        obtain ⟨c, hc, rfl⟩ := List.mem_map.1 hd
        exact hword word List.mem_cons_self c hc (hall c hc)
      · cases text with
        | nil => exact ends_nil
        | cons c text =>
            rw [List.map_cons, ends_cons, isWord_eq_false_iff]
            exact (isWord_eq_false_iff.1 (ends_cons.1 hends)).imp (hblank c) (hmark c)

/-- The characters of a text are blanks and characters of tokens. -/
theorem forall_mem {tokens : List (List α)} {text : List α} (h : Layout blank mark tokens text)
    {P : α → Prop} (hblank : ∀ c, blank c = true → P c)
    (htokens : ∀ token ∈ tokens, ∀ c ∈ token, P c) : ∀ c ∈ text, P c := by
  induction h with
  | nil => exact fun _ hc => absurd hc List.not_mem_nil
  | blank hc _ ih => exact List.forall_mem_cons.2 ⟨hblank _ hc, ih htokens⟩
  | mark _ _ ih =>
      rw [List.forall_mem_cons] at htokens
      exact List.forall_mem_cons.2 ⟨htokens.1 _ List.mem_cons_self, ih htokens.2⟩
  | word _ _ _ _ ih =>
      rw [List.forall_mem_cons] at htokens
      exact List.forall_mem_append.2 ⟨htokens.1, ih htokens.2⟩

end Layout
