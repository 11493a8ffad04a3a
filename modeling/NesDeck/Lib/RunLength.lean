/-
**Runs of a list.**

A list is cut, from the left, into maximal runs of one value, each at most `limit` long.  This is
the decomposition a run-length coder scans its input with.

Main definitions:

* `RunLength.leading` — how often a value stands at the front of a list, counting at most `k`;
* `RunLength.runs` — the runs of a list, as pairs of a value and a length.

Main results:

* `RunLength.flatMap_runs` — **the runs of a list expand to the list**;
* `RunLength.mem_runs` — every run is between one and `limit` long.
-/

import Mathlib.Data.List.Basic
import Mathlib.Tactic.Common

set_option relaxedAutoImplicit false
set_option autoImplicit false

namespace RunLength

variable {α : Type*} [DecidableEq α]

/-! ### The front run -/

/-- How often `a` stands at the front of the list, counting at most `k` entries. -/
def leading (a : α) : ℕ → List α → ℕ
  | 0, _ => 0
  | _ + 1, [] => 0
  | k + 1, b :: l => if b = a then leading a k l + 1 else 0

theorem leading_le (a : α) (k : ℕ) (l : List α) : leading a k l ≤ k := by
  induction k generalizing l with
  | zero => simp [leading]
  | succ k ih =>
      cases l with
      | nil => simp [leading]
      | cons b l =>
          have := ih l
          simp only [leading]
          split <;> omega

/-- The front run and what is behind it make up the list. -/
theorem replicate_leading_append_drop (a : α) (k : ℕ) (l : List α) :
    List.replicate (leading a k l) a ++ l.drop (leading a k l) = l := by
  induction k generalizing l with
  | zero => simp [leading]
  | succ k ih =>
      cases l with
      | nil => simp [leading]
      | cons b l =>
          simp only [leading]
          by_cases h : b = a
          · rw [if_pos h, List.replicate_succ, List.drop_succ_cons, List.cons_append, ih l, h]
          · rw [if_neg h]
            simp

@[simp] theorem leading_replicate (a : α) (k n : ℕ) :
    leading a k (List.replicate n a) = min k n := by
  induction k generalizing n with
  | zero => simp [leading]
  | succ k ih =>
      cases n with
      | zero => simp [leading]
      | succ n =>
          rw [List.replicate_succ, leading, if_pos rfl, ih]
          omega

/-! ### The runs -/

/-- The runs of a list, none longer than `limit`. -/
def runs (limit : ℕ) : List α → List (α × ℕ)
  | [] => []
  | a :: l =>
      (a, 1 + leading a (limit - 1) l) :: runs limit (l.drop (leading a (limit - 1) l))
termination_by l => l.length
decreasing_by simp only [List.length_drop, List.length_cons]; omega

@[simp] theorem runs_nil (limit : ℕ) : runs limit ([] : List α) = [] := by rw [runs]

theorem runs_cons (limit : ℕ) (a : α) (l : List α) :
    runs limit (a :: l) =
      (a, 1 + leading a (limit - 1) l) :: runs limit (l.drop (leading a (limit - 1) l)) := by
  rw [runs]

/-- A constant list that is not longer than the limit is one run. -/
theorem runs_replicate {limit n : ℕ} (a : α) (hn : 0 < n) (h : n ≤ limit) :
    runs limit (List.replicate n a) = [(a, n)] := by
  obtain ⟨m, rfl⟩ : ∃ m, n = m + 1 := ⟨n - 1, by omega⟩
  have hmin : min (limit - 1) m = m := by omega
  rw [List.replicate_succ, runs_cons, leading_replicate, hmin, List.drop_replicate, Nat.sub_self,
    List.replicate_zero, runs_nil, Nat.add_comm]

/-- The runs of a list expand to the list. -/
theorem flatMap_runs (limit : ℕ) (l : List α) :
    (runs limit l).flatMap (fun r => List.replicate r.2 r.1) = l := by
  fun_induction runs limit l with
  | case1 => rfl
  | case2 a l ih =>
      rw [List.flatMap_cons, ih, Nat.add_comm 1, List.replicate_succ, List.cons_append,
        replicate_leading_append_drop]

/-- Every run is between one and `limit` long. -/
theorem mem_runs {limit : ℕ} (hlimit : 0 < limit) {l : List α} {r : α × ℕ}
    (h : r ∈ runs limit l) : 0 < r.2 ∧ r.2 ≤ limit := by
  fun_induction runs limit l with
  | case1 => simp at h
  | case2 a l ih =>
      rcases List.mem_cons.1 h with rfl | h
      · have := leading_le a (limit - 1) l
        dsimp only
        omega
      · exact ih h

end RunLength
