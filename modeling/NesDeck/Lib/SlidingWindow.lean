/-
**Events in a sliding window.**

A guard that admits at most a number of events in every stretch of a given width keeps the times of
the recent ones. Times are integers that do not decrease. Before an event is admitted, the times
that have left the window are dropped from the front of the list; the length of the rest then
decides.

Main definitions:

* `SlidingWindow.count` — the events in a half-open window;
* `SlidingWindow.expire` — the times that are still in the window that ends now.

Main results:

* `SlidingWindow.expire_split` — what is dropped has left the window, and what is kept has not;
* `SlidingWindow.count_concat_le` — **an event after fewer than the limit leaves every window within
  the limit**;
* `SlidingWindow.count_concat_of_recent` — the window that ends now holds the recent events and the
  new one.
-/

import Mathlib.Data.Int.Notation
import Mathlib.Tactic.Common

set_option relaxedAutoImplicit false
set_option autoImplicit false

namespace SlidingWindow

/-- The events with times in `[start, start + width)`. -/
def count (width start : ℤ) (times : List ℤ) : ℕ :=
  times.countP fun time => start ≤ time ∧ time < start + width

/-- The times that are still in the window that ends now. -/
def expire (width now : ℤ) (times : List ℤ) : List ℤ :=
  times.dropWhile fun time => width ≤ now - time

variable {width now start : ℤ} {times old recent : List ℤ} {limit : ℕ}

/-- What is dropped has left the window, and what is kept has not. -/
theorem expire_split (width now : ℤ) (h : times.Pairwise (· ≤ ·)) :
    ∃ old, times = old ++ expire width now times ∧ (∀ time ∈ old, time + width ≤ now) ∧
      ∀ time ∈ expire width now times, now < time + width := by
  induction times with
  | nil => exact ⟨[], rfl, by simp, by simp [expire]⟩
  | cons first times ih =>
      obtain ⟨hfirst, htimes⟩ := List.pairwise_cons.1 h
      by_cases hold : width ≤ now - first
      · obtain ⟨old, hsplit, hdropped, hkept⟩ := ih htimes
        have hexpire : expire width now (first :: times) = expire width now times := by
          simp [expire, hold]
        rw [hexpire]
        refine ⟨first :: old, by rw [List.cons_append, ← hsplit], ?_, hkept⟩
        rw [List.forall_mem_cons]
        exact ⟨by omega, hdropped⟩
      · have hexpire : expire width now (first :: times) = first :: times := by
          simp [expire, hold]
        rw [hexpire]
        refine ⟨[], rfl, by simp, ?_⟩
        rw [List.forall_mem_cons]
        refine ⟨by omega, ?_⟩
        intro time hmem
        have hle := hfirst time hmem
        omega

/-- **An event after fewer than the limit leaves every window within the limit.** -/
theorem count_concat_le (hcount : ∀ start, count width start (old ++ recent) ≤ limit)
    (hold : ∀ time ∈ old, time + width ≤ now) (hrecent : recent.length < limit) (start : ℤ) :
    count width start (old ++ recent ++ [now]) ≤ limit := by
  by_cases hwindow : start ≤ now ∧ now < start + width
  · -- a window with the new event has none of the old ones
    have hnone : count width start old = 0 := by
      rw [count, List.countP_eq_zero]
      intro time hmem
      have hle := hold time hmem
      simp only [decide_eq_true_eq]
      omega
    have hlength : count width start recent ≤ recent.length := List.countP_le_length
    rw [count, List.countP_append, List.countP_append, List.countP_singleton,
      if_pos (by simpa using hwindow)]
    rw [count] at hnone hlength
    omega
  · have h := hcount start
    rw [count, List.countP_append, List.countP_singleton, if_neg (by simpa using hwindow)]
    exact h

/-- The window that ends now holds the recent events and the new one. -/
theorem count_concat_of_recent (hwidth : 0 < width) (hrecent : ∀ time ∈ recent, now < time + width)
    (hnow : ∀ time ∈ recent, time ≤ now) :
    recent.length + 1 ≤ count width (now - width + 1) (old ++ recent ++ [now]) := by
  have hall : recent.countP (fun time => now - width + 1 ≤ time ∧ time < now - width + 1 + width) =
      recent.length := by
    rw [List.countP_eq_length]
    intro time hmem
    have hlow := hrecent time hmem
    have hhigh := hnow time hmem
    simp only [decide_eq_true_eq]
    omega
  rw [count, List.countP_append, List.countP_append, hall, List.countP_singleton,
    if_pos (by simp only [decide_eq_true_eq]; omega)]
  omega

end SlidingWindow
