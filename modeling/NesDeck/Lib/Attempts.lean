/-
**Trying candidates one after the other.**

A program that can do with any of several things tries them in turn and is content with the first
that works. An attempt may leave traces even when it fails, so that the next one starts from another
state. Two facts carry the reasoning about such a loop: its result is the result of the last
attempt, and where the success of an attempt depends on the candidate alone, the loop ends with the
first candidate that works.

Main definitions:

* `Attempts.tryAll` — the loop;
* `Attempts.trace` — its attempts, with the states in which they are made.

Main results:

* `Attempts.tryAll_eq_of_getLast?` — **the result is that of the last attempt**;
* `Attempts.trace_inOrder` — the candidates are tried in their order, none of them twice;
* `Attempts.tryAll_of_pattern` — **the first candidate that works**;
* `Attempts.tryAll_invariant` — what every attempt keeps.
-/

import Mathlib.Data.List.Infix

set_option relaxedAutoImplicit false
set_option autoImplicit false

namespace Attempts

variable {σ α : Type*} (attempt : σ → α → σ × Bool)

/-- The first success, or the failure of the last candidate. -/
def tryAll (s : σ) : List α → σ × Bool
  | [] => (s, false)
  | a :: as =>
      match attempt s a with
      | (s, true) => (s, true)
      | (s, false) => tryAll s as

/-- The attempts that are made. -/
def trace (s : σ) : List α → List (σ × α)
  | [] => []
  | a :: as =>
      (s, a) ::
        match attempt s a with
        | (_, true) => []
        | (s, false) => trace s as

variable {attempt} {s : σ} {a : α} {as : List α}

/-! ### One attempt -/

theorem tryAll_cons_of_success (h : (attempt s a).2 = true) :
    tryAll attempt s (a :: as) = attempt s a := by
  rw [tryAll]
  split
  · next heq => exact heq.symm
  · next heq =>
      rw [heq] at h
      cases h

theorem tryAll_cons_of_failure (h : (attempt s a).2 = false) :
    tryAll attempt s (a :: as) = tryAll attempt (attempt s a).1 as := by
  rw [tryAll]
  split
  · next heq =>
      rw [heq] at h
      cases h
  · next heq => rw [heq]

theorem trace_cons_of_success (h : (attempt s a).2 = true) :
    trace attempt s (a :: as) = [(s, a)] := by
  rw [trace]
  split
  · rfl
  · next heq =>
      rw [heq] at h
      cases h

theorem trace_cons_of_failure (h : (attempt s a).2 = false) :
    trace attempt s (a :: as) = (s, a) :: trace attempt (attempt s a).1 as := by
  rw [trace]
  split
  · next heq =>
      rw [heq] at h
      cases h
  · next heq => rw [heq]

/-! ### All attempts -/

theorem trace_eq_nil_iff : trace attempt s as = [] ↔ as = [] := by
  cases as with
  | nil => exact iff_of_true rfl rfl
  | cons a as => exact iff_of_false (List.cons_ne_nil _ _) (List.cons_ne_nil _ _)

/-- **The result is that of the last attempt.** -/
theorem tryAll_eq_of_getLast? {last : σ × α} (h : (trace attempt s as).getLast? = some last) :
    tryAll attempt s as = attempt last.1 last.2 := by
  induction as generalizing s with
  | nil => cases h
  | cons a as ih =>
      cases hsuccess : (attempt s a).2 with
      | true =>
          rw [trace_cons_of_success hsuccess] at h
          cases h
          exact tryAll_cons_of_success hsuccess
      | false =>
          rw [trace_cons_of_failure hsuccess] at h
          rw [tryAll_cons_of_failure hsuccess]
          by_cases hlast : as = []
          · subst hlast
            cases h
            exact Prod.ext rfl hsuccess.symm
          · refine ih ?_
            rwa [List.getLast?_cons_of_ne_nil (mt trace_eq_nil_iff.1 hlast)] at h

/-- The candidates are tried in their order. -/
theorem trace_inOrder : (trace attempt s as).map Prod.snd <+: as := by
  induction as generalizing s with
  | nil => exact List.prefix_refl []
  | cons a as ih =>
      cases hsuccess : (attempt s a).2 with
      | true =>
          rw [trace_cons_of_success hsuccess]
          exact List.cons_prefix_cons.2 ⟨rfl, List.nil_prefix⟩
      | false =>
          rw [trace_cons_of_failure hsuccess, List.map_cons]
          exact List.cons_prefix_cons.2 ⟨rfl, ih⟩

/-- What every attempt keeps, the loop keeps. -/
theorem tryAll_invariant {I : σ → Prop} (hstep : ∀ s, I s → ∀ a ∈ as, I (attempt s a).1) (h : I s) :
    I (tryAll attempt s as).1 := by
  induction as generalizing s with
  | nil => exact h
  | cons a as ih =>
      obtain hfirst := hstep s h a List.mem_cons_self
      cases hsuccess : (attempt s a).2 with
      | true => rwa [tryAll_cons_of_success hsuccess]
      | false =>
          rw [tryAll_cons_of_failure hsuccess]
          exact ih (fun s hs b hb => hstep s hs b (List.mem_cons_of_mem _ hb)) hfirst

/-- **The first candidate that works**, where every attempt answers for its candidate alone: without
one the loop fails, and otherwise its result is an attempt at that candidate. -/
theorem tryAll_of_pattern {works : α → Bool}
    (h : ∀ made ∈ trace attempt s as, (attempt made.1 made.2).2 = works made.2) :
    (as.find? works = none → (tryAll attempt s as).2 = false) ∧
      ∀ a, as.find? works = some a →
        ∃ s', tryAll attempt s as = attempt s' a ∧ (attempt s' a).2 = true := by
  induction as generalizing s with
  | nil => exact ⟨fun _ => rfl, fun a ha => by cases ha⟩
  | cons b as ih =>
      cases hsuccess : (attempt s b).2 with
      | true =>
          rw [trace_cons_of_success hsuccess] at h
          have hworks : works b = true := (h _ List.mem_cons_self).symm.trans hsuccess
          rw [List.find?_cons_of_pos hworks, tryAll_cons_of_success hsuccess]
          refine ⟨fun hnone => absurd hnone (Option.some_ne_none b), ?_⟩
          intro a ha
          cases ha
          exact ⟨s, rfl, hsuccess⟩
      | false =>
          rw [trace_cons_of_failure hsuccess] at h
          obtain ⟨hfirst, hrest⟩ := List.forall_mem_cons.1 h
          have hworks : works b = false := hfirst.symm.trans hsuccess
          rw [List.find?_cons_of_neg (ne_true_of_eq_false hworks), tryAll_cons_of_failure hsuccess]
          exact ih hrest

end Attempts
