/-
**Paths with dots, resolved without looking at any file.**

A path is read component by component: an empty component and a single dot lead nowhere, two dots
lead back to the parent, and anything else is the name of what is entered. A program that has to
keep paths below a root often does not resolve them but looks for a few forbidden pieces. What such
a test leaves open is decided by the last component, and the paths that pass it and still do not
lead below the root are of four kinds.

Main definitions:

* `LexicalPath.resolve` — the names that a path leads through;
* `LexicalPath.Below` — a path leads to something strictly below a root;
* `LexicalPath.IsNormalized` — a path without the pieces `//`, `/./` and `/../`;
* `LexicalPath.Dotted` — nothing, dots, or one name and two dots.

Main results:

* `LexicalPath.resolve_append` — a path below another one starts where that one leads;
* `LexicalPath.isName_of_isNormalized` — all components of such a path but the last are names;
* `LexicalPath.below_iff` — **such a path leads strictly below the root unless its rest is dotted**.
-/

import Mathlib.Data.List.Infix

set_option relaxedAutoImplicit false
set_option autoImplicit false

namespace LexicalPath

variable {α : Type*} [DecidableEq α] (slash dot : α)

/-- One component. -/
def enter (names : List (List α)) (component : List α) : List (List α) :=
  if component = [] ∨ component = [dot] then names
  else if component = [dot, dot] then names.dropLast
  else names ++ [component]

/-- The names that a path leads through, from the top. -/
def resolve (path : List α) : List (List α) := (path.splitOn slash).foldl (enter dot) []

/-- The path leads to something strictly below the root. -/
def Below (root path : List α) : Prop :=
  ∃ names, names ≠ [] ∧ resolve slash dot path = resolve slash dot root ++ names

/-- A component that is a name. -/
structure IsName (component : List α) : Prop where
  nonempty : component ≠ []
  not_dot : component ≠ [dot]
  not_dots : component ≠ [dot, dot]

/-- A path without the pieces that a resolved path cannot have inside. -/
structure IsNormalized (path : List α) : Prop where
  empty : ¬[slash, slash] <:+: path
  self : ¬[slash, dot, slash] <:+: path
  parent : ¬[slash, dot, dot, slash] <:+: path

/-- Nothing, one or two dots, or one name and two dots. -/
def Dotted (rest : List α) : Prop :=
  rest = [] ∨ rest = [dot] ∨ rest = [dot, dot] ∨ ∃ name, slash ∉ name ∧
    rest = name ++ [slash, dot, dot]

variable {slash dot} {names : List (List α)} {component root rest : List α}

/-! ### Components -/

theorem enter_eq_self (h : component = [] ∨ component = [dot]) :
    enter dot names component = names :=
  if_pos h

theorem enter_dots : enter dot names [dot, dot] = names.dropLast := by
  rw [enter, if_neg (by simp), if_pos rfl]

theorem IsName.enter_eq (h : IsName dot component) :
    enter dot names component = names ++ [component] := by
  rw [enter, if_neg (not_or.2 ⟨h.nonempty, h.not_dot⟩), if_neg h.not_dots]

/-- Names are entered one after the other. -/
theorem foldl_enter_of_isName {components : List (List α)}
    (h : ∀ component ∈ components, IsName dot component) :
    components.foldl (enter dot) names = names ++ components := by
  induction components generalizing names with
  | nil => rw [List.foldl_nil, List.append_nil]
  | cons first components ih =>
      obtain ⟨hfirst, hrest⟩ := List.forall_mem_cons.1 h
      rw [List.foldl_cons, hfirst.enter_eq, ih hrest, List.append_assoc, List.singleton_append]

/-- **A path below another one** starts where that one leads. -/
theorem resolve_append (root rest : List α) :
    resolve slash dot (root ++ slash :: rest) =
      (rest.splitOn slash).foldl (enter dot) (resolve slash dot root) := by
  rw [resolve, List.splitOn_append_cons_self, List.foldl_append, ← resolve]

theorem resolve_append_slash (root : List α) :
    resolve slash dot (root ++ [slash]) = resolve slash dot root := by
  rw [resolve_append, List.splitOn_nil, List.foldl_cons, List.foldl_nil, enter_eq_self (Or.inl rfl)]

omit [DecidableEq α] in
/-- Every component but the last stands between two slashes. -/
theorem between_of_mem_dropLast {components : List (List α)} (h : component ∈ components.dropLast) :
    slash :: (component ++ [slash]) <:+: slash :: [slash].intercalate components := by
  induction components with
  | nil => cases h
  | cons first components ih =>
      by_cases hlast : components = []
      · subst hlast
        cases h
      · rw [List.dropLast_cons_of_ne_nil hlast] at h
        rw [List.intercalate_cons_of_ne_nil hlast]
        rcases List.mem_cons.1 h with rfl | hmem
        · exact ⟨[], [slash].intercalate components, by simp⟩
        · obtain ⟨before, after, heq⟩ := ih hmem
          refine ⟨slash :: (first ++ before), after, ?_⟩
          have hsum := congrArg (fun tail => slash :: (first ++ tail)) heq
          simpa using hsum

/-- **All components of a normalized path but the last are names.** -/
theorem isName_of_isNormalized (h : IsNormalized slash dot (slash :: rest)) :
    ∀ component ∈ (rest.splitOn slash).dropLast, IsName dot component := by
  intro component hmem
  have hbetween := @between_of_mem_dropLast α slash _ _ hmem
  rw [List.intercalate_splitOn] at hbetween
  refine ⟨?_, ?_, ?_⟩
  · rintro rfl
    exact h.empty hbetween
  · rintro rfl
    exact h.self hbetween
  · rintro rfl
    exact h.parent hbetween

/-! ### Dotted paths -/

/-- A dotted path by its components. -/
theorem dotted_iff (hne : slash ≠ dot) {init : List (List α)} {last : List α}
    (h : rest.splitOn slash = init ++ [last]) :
    Dotted slash dot rest ↔
      init = [] ∧ (last = [] ∨ last = [dot] ∨ last = [dot, dot]) ∨
        ∃ name, init = [name] ∧ last = [dot, dot] := by
  have hends : ∀ before final, rest.splitOn slash = before ++ [final] →
      init = before ∧ last = final :=
    fun before final heq => List.append_singleton_inj.1 (h.symm.trans heq)
  constructor
  · rintro (rfl | rfl | rfl | ⟨name, hname, rfl⟩)
    · obtain ⟨rfl, rfl⟩ := hends [] [] (List.splitOn_nil slash)
      exact Or.inl ⟨rfl, Or.inl rfl⟩
    · obtain ⟨rfl, rfl⟩ := hends [] [dot] (List.splitOn_eq_singleton (by simpa using hne))
      exact Or.inl ⟨rfl, Or.inr (Or.inl rfl)⟩
    · obtain ⟨rfl, rfl⟩ := hends [] [dot, dot] (List.splitOn_eq_singleton (by simpa using hne))
      exact Or.inl ⟨rfl, Or.inr (Or.inr rfl)⟩
    · obtain ⟨rfl, rfl⟩ := hends [name] [dot, dot] (by
        rw [List.splitOn_append_cons_self_of_not_mem hname,
          List.splitOn_eq_singleton (by simpa using hne)]
        rfl)
      exact Or.inr ⟨name, rfl, rfl⟩
  · have hjoined := @List.intercalate_splitOn _ rest _ _ slash
    rw [h] at hjoined
    rintro (⟨rfl, hlast⟩ | ⟨name, rfl, rfl⟩)
    · rw [List.nil_append, List.intercalate_singleton] at hjoined
      subst hjoined
      rcases hlast with hlast | hlast | hlast
      · exact Or.inl hlast
      · exact Or.inr (Or.inl hlast)
      · exact Or.inr (Or.inr (Or.inl hlast))
    · have hrest : rest = name ++ [slash, dot, dot] := by
        rw [← hjoined]
        simp [List.intercalate]
      refine Or.inr (Or.inr (Or.inr ⟨name, ?_, hrest⟩))
      intro hslash
      -- A slash in the name would make a third component.
      obtain ⟨before, after, rfl⟩ := List.append_of_mem hslash
      have hthree := congrArg List.length h
      rw [hrest, List.append_assoc, List.cons_append, List.splitOn_append_cons_self,
        List.splitOn_append_cons_self, List.length_append, List.length_append] at hthree
      have hbefore := List.length_pos_iff.2 (List.splitOn_ne_nil slash before)
      have hafter := List.length_pos_iff.2 (List.splitOn_ne_nil slash after)
      have hdots := List.length_pos_iff.2 (List.splitOn_ne_nil slash [dot, dot])
      rw [List.length_append, List.length_singleton, List.length_singleton] at hthree
      omega

omit [DecidableEq α] in
/-- The parent of what stands below a base is below it only from the second component on. -/
theorem exists_dropLast_append_iff {base init : List (List α)} :
    (∃ names, names ≠ [] ∧ (base ++ init).dropLast = base ++ names) ↔ 2 ≤ init.length := by
  cases init using List.reverseRecOn with
  | nil =>
      refine iff_of_false ?_ (by rw [List.length_nil]; omega)
      rintro ⟨names, hpositive, heq⟩
      have hlength := congrArg List.length heq
      rw [List.append_nil, List.length_dropLast, List.length_append] at hlength
      have hnames := List.length_pos_iff.2 hpositive
      omega
  | append_singleton init final =>
      rw [← List.append_assoc, List.dropLast_concat, List.length_append, List.length_singleton]
      constructor
      · rintro ⟨names, hpositive, heq⟩
        have hnames := List.length_pos_iff.2 hpositive
        rw [List.append_cancel_left heq]
        omega
      · intro htwo
        exact ⟨init, List.ne_nil_of_length_pos (by omega), rfl⟩

/-- **A normalized path leads strictly below the root unless its rest is dotted.** -/
theorem below_iff (hne : slash ≠ dot) (h : IsNormalized slash dot (slash :: rest)) :
    Below slash dot (root ++ [slash]) (root ++ slash :: rest) ↔ ¬Dotted slash dot rest := by
  have hnames := isName_of_isNormalized h
  obtain ⟨init, last, hsplit⟩ : ∃ init last, rest.splitOn slash = init ++ [last] :=
    ⟨_, _, (List.dropLast_append_getLast (List.splitOn_ne_nil slash rest)).symm⟩
  rw [hsplit, List.dropLast_concat] at hnames
  rw [dotted_iff hne hsplit, Below, resolve_append_slash, resolve_append, hsplit, List.foldl_append,
    foldl_enter_of_isName hnames, List.foldl_cons, List.foldl_nil]
  generalize resolve slash dot root = base
  by_cases hself : last = [] ∨ last = [dot]
  · -- The path leads to what stands before its last component.
    rw [enter_eq_self hself]
    have hdotted : (init = [] ∧ (last = [] ∨ last = [dot] ∨ last = [dot, dot]) ∨
        ∃ name, init = [name] ∧ last = [dot, dot]) ↔ init = [] := by
      constructor
      · rintro (⟨hnil, -⟩ | ⟨name, -, hlast⟩)
        · exact hnil
        · rw [hlast] at hself
          simp at hself
      · intro hnil
        exact Or.inl ⟨hnil, hself.elim Or.inl fun h => Or.inr (Or.inl h)⟩
    rw [hdotted]
    exact ⟨fun ⟨names, hpositive, heq⟩ => List.append_cancel_left heq ▸ hpositive,
      fun hpositive => ⟨init, hpositive, rfl⟩⟩
  by_cases hparent : last = [dot, dot]
  · subst hparent
    have hdotted : (init = [] ∧ ([dot, dot] = [] ∨ [dot, dot] = [dot] ∨ [dot, dot] = [dot, dot]) ∨
        ∃ name, init = [name] ∧ [dot, dot] = [dot, dot]) ↔ ¬2 ≤ init.length := by
      simp only [or_true, and_true, ← List.length_eq_zero_iff, ← List.length_eq_one_iff]
      omega
    rw [enter_dots, hdotted, not_not]
    exact exists_dropLast_append_iff
  · have hlast : IsName dot last := ⟨mt Or.inl hself, mt Or.inr hself, hparent⟩
    rw [hlast.enter_eq, List.append_assoc]
    refine iff_of_true ⟨_, by simp, rfl⟩ ?_
    rintro (⟨-, h | h | h⟩ | ⟨name, -, h⟩)
    · exact hlast.nonempty h
    · exact hlast.not_dot h
    · exact hlast.not_dots h
    · exact hlast.not_dots h

end LexicalPath
