/-
**Who comes first in an order of preference.**

In a list that may name an entry more than once, one entry is ahead of another when it occurs before
the first occurrence of the other.  Two orders without repetitions agree as far as the shorter one
goes exactly when nobody is ahead in the longer one who is not ahead in the shorter one.

Main definitions:

* `Precedence.Ahead` — one entry is ahead of another.

Main results:

* `Precedence.ahead_append`, `Precedence.ahead_filter`, `Precedence.ahead_filterMap_iff`,
  `Precedence.ahead_eraseDups` — who is ahead in a list that is made of others;
* `Precedence.Ahead.asymm`, `Precedence.ahead_or_ahead` — of two entries one is ahead;
* `Precedence.prefix_iff` — **one order begins with the other exactly when it puts nobody ahead of
  an entry of the other whom the other does not**.
-/

import NesDeck.Lib.Recent

set_option relaxedAutoImplicit false
set_option autoImplicit false

namespace Precedence

variable {α β : Type*}

/-- `x` occurs before all occurrences of `y`. -/
def Ahead : List α → α → α → Prop
  | [], _, _ => False
  | z :: zs, x, y => z ≠ y ∧ (z = x ∨ Ahead zs x y)

theorem ahead_cons (z : α) (zs : List α) (x y : α) :
    Ahead (z :: zs) x y ↔ z ≠ y ∧ (z = x ∨ Ahead zs x y) := Iff.rfl

theorem Ahead.mem {xs : List α} {x y : α} (h : Ahead xs x y) : x ∈ xs := by
  induction xs with
  | nil => exact h.elim
  | cons z zs ih =>
      rcases h.2 with rfl | hrest
      · exact List.mem_cons_self
      · exact List.mem_cons_of_mem _ (ih hrest)

theorem Ahead.ne {xs : List α} {x y : α} (h : Ahead xs x y) : x ≠ y := by
  induction xs with
  | nil => exact h.elim
  | cons z zs ih =>
      rcases h.2 with rfl | hrest
      · exact h.1
      · exact ih hrest

/-- Two entries are not ahead of each other. -/
theorem Ahead.asymm {xs : List α} {x y : α} (h : Ahead xs x y) : ¬Ahead xs y x := by
  induction xs with
  | nil => exact h.elim
  | cons z zs ih =>
      rintro ⟨hne, hback⟩
      rcases h.2 with rfl | hrest
      · exact hne rfl
      · rcases hback with rfl | hback
        · exact h.1 rfl
        · exact ih hrest hback

/-- Of two entries one is ahead. -/
theorem ahead_or_ahead {xs : List α} {x y : α} (hne : x ≠ y) (hx : x ∈ xs) :
    Ahead xs x y ∨ Ahead xs y x := by
  induction xs with
  | nil => exact absurd hx List.not_mem_nil
  | cons z zs ih =>
      by_cases hzx : z = x
      · exact Or.inl ⟨hzx ▸ hne, Or.inl hzx⟩
      · by_cases hzy : z = y
        · exact Or.inr ⟨hzx, Or.inl hzy⟩
        · have hrest : x ∈ zs := (List.mem_cons.1 hx).resolve_left (Ne.symm hzx)
          rcases ih hrest with hahead | hahead
          · exact Or.inl ⟨hzy, Or.inr hahead⟩
          · exact Or.inr ⟨hzx, Or.inr hahead⟩

/-- Who is ahead in the first part is ahead; the second part counts for what the first part does not
name. -/
theorem ahead_append (xs ys : List α) (x y : α) :
    Ahead (xs ++ ys) x y ↔ Ahead xs x y ∨ (y ∉ xs ∧ Ahead ys x y) := by
  induction xs with
  | nil => simp [Ahead]
  | cons z zs ih =>
      rw [List.cons_append, ahead_cons, ahead_cons, ih, List.mem_cons, not_or]
      constructor
      · rintro ⟨hne, heq | hfirst | ⟨hnot, hsecond⟩⟩
        · exact Or.inl ⟨hne, Or.inl heq⟩
        · exact Or.inl ⟨hne, Or.inr hfirst⟩
        · exact Or.inr ⟨⟨Ne.symm hne, hnot⟩, hsecond⟩
      · rintro (⟨hne, heq | hfirst⟩ | ⟨⟨hne, hnot⟩, hsecond⟩)
        · exact ⟨hne, Or.inl heq⟩
        · exact ⟨hne, Or.inr (Or.inl hfirst)⟩
        · exact ⟨Ne.symm hne, Or.inr (Or.inr ⟨hnot, hsecond⟩)⟩

/-- A test that the second of two entries passes does not change whether the first is ahead, unless
it fails. -/
theorem ahead_filter {p : α → Bool} (xs : List α) (x : α) {y : α} (hy : p y = true) :
    Ahead (xs.filter p) x y ↔ Ahead xs x y ∧ p x = true := by
  induction xs with
  | nil => simp [Ahead]
  | cons z zs ih =>
      by_cases hz : p z = true
      · rw [List.filter_cons_of_pos hz, ahead_cons, ahead_cons, ih]
        constructor
        · rintro ⟨hne, rfl | ⟨hahead, hx⟩⟩
          · exact ⟨⟨hne, Or.inl rfl⟩, hz⟩
          · exact ⟨⟨hne, Or.inr hahead⟩, hx⟩
        · rintro ⟨⟨hne, heq | hahead⟩, hx⟩
          · exact ⟨hne, Or.inl heq⟩
          · exact ⟨hne, Or.inr ⟨hahead, hx⟩⟩
      · rw [List.filter_cons_of_neg hz, ahead_cons, ih]
        have hne : z ≠ y := by
          rintro rfl
          exact hz hy
        constructor
        · rintro ⟨hahead, hx⟩
          exact ⟨⟨hne, Or.inr hahead⟩, hx⟩
        · rintro ⟨⟨-, rfl | hahead⟩, hx⟩
          · exact absurd hx hz
          · exact ⟨hahead, hx⟩

/-- Repetitions do not count. -/
theorem ahead_eraseDups [BEq α] [LawfulBEq α] [DecidableEq α] (xs : List α) (x y : α) :
    Ahead xs.eraseDups x y ↔ Ahead xs x y := by
  -- The entries equal to the head are left out behind it, where they are not ahead of anything new.
  induction xs with
  | nil => exact Iff.rfl
  | cons z zs ih =>
      rw [Recent.eraseDups_cons, ahead_cons, ahead_cons]
      refine and_congr_right ?_
      intro hne
      have hy : decide (y ≠ z) = true := by simpa using Ne.symm hne
      rw [ahead_filter _ x hy, ih]
      by_cases hzx : z = x
      · exact iff_of_true (Or.inl hzx) (Or.inl hzx)
      · simp [hzx, Ne.symm hzx]

/-- Who is ahead among the results of a function: a result that no earlier entry shares. -/
theorem ahead_filterMap_iff {f : α → Option β} {xs : List α} {x y : β} :
    Ahead (xs.filterMap f) x y ↔ x ≠ y ∧ ∃ before z after, xs = before ++ z :: after ∧
      f z = some x ∧ y ∉ before.filterMap f := by
  constructor
  · intro h
    refine ⟨h.ne, ?_⟩
    induction xs with
    | nil => exact h.elim
    | cons z zs ih =>
        have hlater : Ahead (zs.filterMap f) x y → f z ≠ some y →
            ∃ before z' after, z :: zs = before ++ z' :: after ∧ f z' = some x ∧
              y ∉ before.filterMap f := by
          intro hahead hne
          obtain ⟨before, z', after, rfl, hx, hy⟩ := ih hahead
          refine ⟨z :: before, z', after, rfl, hx, ?_⟩
          intro hmem
          obtain ⟨w, hw, hwy⟩ := List.mem_filterMap.1 hmem
          rcases List.mem_cons.1 hw with rfl | hbefore
          · exact hne hwy
          · exact hy (List.mem_filterMap.2 ⟨w, hbefore, hwy⟩)
        cases hz : f z with
        | none =>
            rw [List.filterMap_cons_none hz] at h
            exact hlater h (by simp [hz])
        | some w =>
            rw [List.filterMap_cons_some hz] at h
            rcases h.2 with rfl | hrest
            · exact ⟨[], z, zs, rfl, hz, List.not_mem_nil⟩
            · exact hlater hrest (by simpa [hz] using h.1)
  · rintro ⟨hne, before, z, after, rfl, hx, hy⟩
    rw [List.filterMap_append, ahead_append]
    refine Or.inr ⟨hy, ?_⟩
    rw [List.filterMap_cons_some hx]
    exact ⟨hne, Or.inl rfl⟩

/-- **One order begins with the other exactly when it puts nobody ahead of an entry of the other
whom the other does not.** -/
theorem prefix_iff {xs ys : List α} (hxs : xs.Nodup) (hys : ys.Nodup) (hsub : xs ⊆ ys) :
    xs <+: ys ↔ ∀ v ∈ xs, ∀ u, Ahead ys u v → Ahead xs u v := by
  constructor
  · rintro ⟨rest, rfl⟩ v hv u h
    rcases (ahead_append xs rest u v).1 h with hahead | ⟨hnot, -⟩
    · exact hahead
    · exact absurd hv hnot
  · intro h
    induction xs generalizing ys with
    | nil => exact List.nil_prefix
    | cons x xs ih =>
        rw [List.nodup_cons] at hxs
        cases ys with
        | nil => exact absurd (hsub List.mem_cons_self) List.not_mem_nil
        | cons y ys =>
            rw [List.nodup_cons] at hys
            by_cases hhead : y = x
            · subst hhead
              refine List.cons_prefix_cons.2 ⟨rfl, ih hxs.2 hys.2 ?_ ?_⟩
              · intro z hz
                refine (List.mem_cons.1 (hsub (List.mem_cons_of_mem _ hz))).resolve_left ?_
                rintro rfl
                exact hxs.1 hz
              · intro v hv u hahead
                -- The common head is ahead of everything else in both lists.
                have hne : y ≠ v := by
                  rintro rfl
                  exact hxs.1 hv
                rcases (h v (List.mem_cons_of_mem _ hv) u ⟨hne, Or.inr hahead⟩).2 with rfl | hrest
                · exact absurd hahead.mem hys.1
                · exact hrest
            · -- The first entry of the longer list would be ahead of the one of the other.
              exact absurd rfl (h x List.mem_cons_self y ⟨hhead, Or.inl rfl⟩).1

end Precedence
