/-
**Lists of recent entries, and orders of preference with repetitions.**

An order of preference is often written down with repetitions: what is said first counts.
`List.eraseDups` keeps the first of every group of equal entries.  A list of recent entries with a
limit is the special case in which one new entry is put in front.

Main definitions:

* `Recent.touch` — an entry is put in front of a list of recent ones.

Main results:

* `Recent.nodup_eraseDups`, `Recent.eraseDups_filter`, `Recent.eraseDups_append` — the first of
  equal entries;
* `Recent.nodup_touch`, `Recent.mem_touch_of_le` — **a touched list has no entry twice, and no entry
  is lost unless the limit is exceeded**;
* `Recent.take_filter_eq_iff` — a filter is invisible in the first entries exactly when these pass
  it.
-/

import Mathlib.Data.List.Nodup

set_option relaxedAutoImplicit false
set_option autoImplicit false

namespace Recent

variable {α : Type*}

/-- An entry is put in front of a list of recent ones, which has a limit. -/
def touch [DecidableEq α] (limit : ℕ) (x : α) (xs : List α) : List α :=
  (x :: xs.filter (· ≠ x)).take limit

/-! ### The first of equal entries -/

section EraseDups

variable [BEq α] [LawfulBEq α]

/-- A test may be made before or after. -/
theorem eraseDups_filter (p : α → Bool) (xs : List α) :
    (xs.filter p).eraseDups = xs.eraseDups.filter p := by
  -- The tail loses entries before it is looked at, so the induction is on the length.
  induction hn : xs.length using Nat.strongRecOn generalizing xs with
  | ind n ih =>
      cases xs with
      | nil => rfl
      | cons x xs =>
          have hlength : (xs.filter fun y => !y == x).length < n := by
            rw [← hn, List.length_cons]
            exact Nat.lt_succ_of_le (List.length_filter_le _ xs)
          have htail := ih _ hlength (xs.filter fun y => !y == x) rfl
          by_cases hx : p x = true
          · rw [List.filter_cons_of_pos hx, List.eraseDups_cons, List.eraseDups_cons,
              List.filter_cons_of_pos hx, ← htail, List.filter_filter, List.filter_filter]
            simp only [Bool.and_comm]
          · rw [List.filter_cons_of_neg hx, List.eraseDups_cons,
              List.filter_cons_of_neg hx, ← htail,
              List.filter_filter]
            -- An entry that passes the test is not the one that failed it.
            refine congrArg _ (List.filter_congr ?_)
            intro y _
            by_cases hy : p y = true
            · have hne : y ≠ x := by
                rintro rfl
                exact hx hy
              simp [hy, hne]
            · simp [hy]

/-- What comes first hides what comes later. -/
theorem eraseDups_append (xs ys : List α) :
    (xs ++ ys).eraseDups = xs.eraseDups ++ ys.eraseDups.filter (· ∉ xs) := by
  rw [List.eraseDups_append, ← eraseDups_filter]
  refine congrArg _ (congrArg _ (List.filter_congr ?_))
  intro y _
  by_cases h : y ∈ xs <;> simp [h]

variable [DecidableEq α]

theorem eraseDups_cons (x : α) (xs : List α) :
    (x :: xs).eraseDups = x :: xs.eraseDups.filter (· ≠ x) := by
  rw [List.eraseDups_cons, eraseDups_filter]
  refine congrArg _ (List.filter_congr ?_)
  intro y _
  by_cases h : y = x <;> simp [h]

/-- **An entry stays once.** -/
theorem nodup_eraseDups (xs : List α) : xs.eraseDups.Nodup := by
  induction xs with
  | nil => exact List.nodup_nil
  | cons x xs ih =>
      rw [eraseDups_cons, List.nodup_cons]
      refine ⟨?_, ih.filter _⟩
      intro h
      simpa using (List.mem_filter.1 h).2

/-- A list without repetitions stays as it is. -/
theorem eraseDups_of_nodup {xs : List α} (h : xs.Nodup) : xs.eraseDups = xs := by
  induction xs with
  | nil => rfl
  | cons x xs ih =>
      rw [List.nodup_cons] at h
      rw [eraseDups_cons, ih h.2]
      refine congrArg _ (List.filter_eq_self.2 ?_)
      intro y hy
      have hne : y ≠ x := by
        rintro rfl
        exact h.1 hy
      simpa using hne

/-- One more entry is put at the end, unless it is there. -/
theorem eraseDups_append_singleton (xs : List α) (x : α) :
    (xs ++ [x]).eraseDups = if x ∈ xs then xs.eraseDups else xs.eraseDups ++ [x] := by
  rw [eraseDups_append, eraseDups_of_nodup (List.nodup_singleton x)]
  by_cases h : x ∈ xs <;> simp [h]

/-- Repetitions in the second part may be dropped before. -/
theorem eraseDups_append_eraseDups (xs ys : List α) :
    (xs ++ ys.eraseDups).eraseDups = (xs ++ ys).eraseDups := by
  rw [eraseDups_append, eraseDups_append, eraseDups_of_nodup (nodup_eraseDups ys)]

/-- In a list without repetitions at most one entry is equal to a given one. -/
theorem filter_eq_of_nodup {xs : List α} (h : xs.Nodup) (x : α) :
    xs.filter (· = x) = [x].filter (· ∈ xs) := by
  induction xs with
  | nil => simp
  | cons y xs ih =>
      rw [List.nodup_cons] at h
      by_cases hx : y = x
      · subst hx
        rw [List.filter_cons_of_pos (by simp), ih h.2]
        simp [h.1]
      · rw [List.filter_cons_of_neg (by simpa using hx), ih h.2]
        refine List.filter_congr ?_
        intro z hz
        rw [List.mem_singleton] at hz
        simp [hz, Ne.symm hx]

end EraseDups

/-! ### Recent entries -/

variable [DecidableEq α]

/-- A touched list has no entry twice. -/
theorem nodup_touch {limit : ℕ} {x : α} {xs : List α} (h : xs.Nodup) :
    (touch limit x xs).Nodup := by
  refine List.Nodup.sublist (List.take_sublist _ _) ?_
  rw [List.nodup_cons]
  refine ⟨?_, h.filter _⟩
  intro hx
  simpa using (List.mem_filter.1 hx).2

/-- **No entry is lost unless the limit is exceeded.** -/
theorem mem_touch_of_le {limit : ℕ} {x y : α} {xs : List α}
    (hlimit : (x :: xs.filter (· ≠ x)).length ≤ limit) (hy : y ∈ xs) (hne : y ≠ x) :
    y ∈ touch limit x xs := by
  unfold touch
  rw [List.take_of_length_le hlimit]
  exact List.mem_cons_of_mem _ (List.mem_filter.2 ⟨hy, by simpa using hne⟩)

/-- The entry in front may be touched without changing anything. -/
theorem touch_head {limit : ℕ} {x : α} {xs : List α} (h : (x :: xs).Nodup)
    (hlimit : (x :: xs).length ≤ limit) : touch limit x (x :: xs) = x :: xs := by
  rw [List.nodup_cons] at h
  have hrest : (x :: xs).filter (· ≠ x) = xs := by
    rw [List.filter_cons_of_neg (by simp)]
    refine List.filter_eq_self.2 ?_
    intro y hy
    have hne : y ≠ x := by
      rintro rfl
      exact h.1 hy
    simpa using hne
  rw [touch, hrest, List.take_of_length_le hlimit]

omit [DecidableEq α] in
/-- What is among the first entries and passes a filter is among the first that pass it. -/
theorem mem_take_filter {p : α → Bool} {n : ℕ} {xs : List α} {x : α} (h : x ∈ xs.take n)
    (hx : p x = true) : x ∈ (xs.filter p).take n := by
  have hinitial : (xs.take n).filter p <+: xs.filter p := (List.take_prefix n xs).filter p
  have hlength : ((xs.take n).filter p).length ≤ n :=
    Nat.le_trans (List.length_filter_le p _) (List.length_take_le n xs)
  exact (List.prefix_take_iff.2 ⟨hinitial, hlength⟩).subset (List.mem_filter.2 ⟨h, hx⟩)

omit [DecidableEq α] in
/-- **A filter is invisible in the first entries exactly when these pass it.** -/
theorem take_filter_eq_iff (p : α → Bool) (n : ℕ) (xs : List α) :
    (xs.filter p).take n = xs.take n ↔ ∀ x ∈ xs.take n, p x = true := by
  constructor
  · intro h x hx
    rw [← h] at hx
    exact (List.mem_filter.1 (List.mem_of_mem_take hx)).2
  · intro h
    have hfront : (xs.take n).filter p = xs.take n := List.filter_eq_self.2 h
    rcases Nat.le_total xs.length n with hle | hle
    · rw [List.take_of_length_le hle] at hfront ⊢
      rw [hfront, List.take_of_length_le hle]
    · -- There are `n` entries in front, and the filter does not touch them.
      have hsplit : xs.filter p = xs.take n ++ (xs.drop n).filter p := by
        rw [← hfront, ← List.filter_append, List.take_append_drop]
      have hlength : (xs.take n).length = n := List.length_take_of_le hle
      rw [hsplit, List.take_append_of_le_length (Nat.le_of_eq hlength.symm),
        List.take_of_length_le (Nat.le_of_eq hlength)]

end Recent
