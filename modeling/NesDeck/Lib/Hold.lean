/-
**How long something has held.**

A trace has samples of a condition, each with its time, the last one first. The condition has held
since the first of the samples that make it true up to now.

Main definitions:

* `Hold.since` — the time since which the condition has held, if it does.

Main results:

* `Hold.since_eq_some_iff` — **what a time says**: every sample from it on makes the condition true,
  and the one before it, if there is one, does not;
* `Hold.since_cons` — how a new sample changes it.
-/

import Mathlib.Data.Int.Order.Basic

set_option relaxedAutoImplicit false
set_option autoImplicit false

namespace Hold

/-- The time since which the condition has held; the last sample is the first of the list. -/
def since (trace : List (ℤ × Bool)) : Option ℤ :=
  ((trace.takeWhile Prod.snd).getLast?).map Prod.fst

@[simp] theorem since_nil : since [] = none := rfl

/-- **A new sample**: the condition goes on to hold, begins to hold, or does not hold. -/
theorem since_cons (time : ℤ) (holds : Bool) (trace : List (ℤ × Bool)) :
    since ((time, holds) :: trace) = if holds = true then some ((since trace).getD time)
      else none := by
  cases holds with
  | false => rfl
  | true =>
      rw [since, List.takeWhile_cons_of_pos rfl, if_pos rfl, since]
      cases hrecent : trace.takeWhile Prod.snd with
      | nil => rfl
      | cons first rest =>
          rw [List.getLast?_cons_cons, List.getLast?_eq_some_getLast (List.cons_ne_nil first rest)]
          rfl

/-- It does not hold when the last sample says so, or there is none. -/
theorem since_eq_none_iff {trace : List (ℤ × Bool)} :
    since trace = none ↔ ∀ sample, trace.head? = some sample → sample.2 = false := by
  cases trace with
  | nil => simp
  | cons first trace =>
      obtain ⟨time, holds⟩ := first
      rw [since_cons]
      cases holds with
      | false => simp
      | true => simp

/-- **What the time says.** -/
theorem since_eq_some_iff {trace : List (ℤ × Bool)} {time : ℤ} :
    since trace = some time ↔
      ∃ recent before, trace = recent ++ (time, true) :: before ∧
        (∀ sample ∈ recent, sample.2 = true) ∧
          ∀ sample, before.head? = some sample → sample.2 = false := by
  induction trace with
  | nil => simp
  | cons first trace ih =>
      obtain ⟨start, holds⟩ := first
      constructor
      · intro h
        rw [since_cons] at h
        split at h
        next hholds =>
          have h := Option.some.inj h
          subst hholds
          cases hsince : since trace with
          | none =>
              rw [hsince, Option.getD_none] at h
              subst h
              exact ⟨[], trace, rfl, List.forall_mem_nil _, since_eq_none_iff.1 hsince⟩
          | some earlier =>
              rw [hsince, Option.getD_some] at h
              subst h
              obtain ⟨recent, before, rfl, hrecent, hbefore⟩ := ih.1 hsince
              exact ⟨(start, true) :: recent, before, rfl,
                List.forall_mem_cons.2 ⟨rfl, hrecent⟩, hbefore⟩
        · cases h
      · rintro ⟨recent, before, heq, hrecent, hbefore⟩
        cases recent with
        | nil =>
            obtain ⟨hfirst, rfl⟩ := List.cons.inj heq
            obtain ⟨rfl, rfl⟩ := Prod.mk.inj hfirst
            rw [since_cons, if_pos rfl, since_eq_none_iff.2 hbefore, Option.getD_none]
        | cons sample recent =>
            obtain ⟨hfirst, hrest⟩ := List.cons.inj heq
            obtain ⟨hsample, hothers⟩ := List.forall_mem_cons.1 hrecent
            subst hfirst
            rw [since_cons, if_pos hsample, ih.2 ⟨recent, before, hrest, hothers, hbefore⟩,
              Option.getD_some]

end Hold
