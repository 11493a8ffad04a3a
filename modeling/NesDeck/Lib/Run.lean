/-
**Runs of a deterministic machine, event by event.**

A machine takes one step for each event of a list.  Two readings of a run are used: a property of
states that holds in *every state of the run*, and a condition that *every step of the run* meets
in the state it is taken from.  Where one step keeps the property exactly under the condition,
the two readings agree for whole runs, and that is how the exact condition of a defect is carried
from one step to all runs.

Main definitions:

* `Run.Always` — a property of every state of a run;
* `Run.Each` — a condition on every step of a run.

Main results:

* `Run.always_iff` — `Always` speaks of the states after every initial part of the run;
* `Run.each_iff` — `Each` speaks of every event with what came before it;
* `Run.invariant` — what one step keeps, a run keeps;
* `Run.always_iff_each` — **what one step keeps exactly under a condition, a run keeps exactly when
  all its steps meet the condition**;
* `Run.each_mono`, `Run.each_congr` — a condition on the steps of a run entails another, and two
  agree.
-/

import Mathlib.Data.List.Infix

set_option relaxedAutoImplicit false
set_option autoImplicit false

namespace Run

variable {σ ε : Type*} (step : σ → ε → σ)

/-! ### Properties of whole runs -/

/-- The property `I` holds in every state of the run from `s`, the first and the last included. -/
def Always (I : σ → Prop) (s : σ) : List ε → Prop
  | [] => I s
  | e :: es => I s ∧ Always I (step s e) es

/-- Every step of the run from `s` meets the condition `C` in the state it is taken from. -/
def Each (C : σ → ε → Prop) (s : σ) : List ε → Prop
  | [] => True
  | e :: es => C s e ∧ Each C (step s e) es

variable {step} {I J : σ → Prop} {C : σ → ε → Prop} {s : σ}

@[simp] theorem always_nil : Always step I s [] ↔ I s := Iff.rfl

@[simp] theorem always_cons (e : ε) (es : List ε) :
    Always step I s (e :: es) ↔ I s ∧ Always step I (step s e) es := Iff.rfl

@[simp] theorem each_nil : Each step C s [] := trivial

@[simp] theorem each_cons (e : ε) (es : List ε) :
    Each step C s (e :: es) ↔ C s e ∧ Each step C (step s e) es := Iff.rfl

theorem Always.head {es : List ε} (h : Always step I s es) : I s := by
  cases es with
  | nil => exact h
  | cons e es => exact h.1

theorem Always.last {es : List ε} (h : Always step I s es) : I (es.foldl step s) := by
  induction es generalizing s with
  | nil => exact h
  | cons e es ih => exact ih h.2

/-- `Always` speaks of the states after every initial part of the run. -/
theorem always_iff {es : List ε} :
    Always step I s es ↔ ∀ done, done <+: es → I (done.foldl step s) := by
  induction es generalizing s with
  | nil =>
      constructor
      · intro h done hdone
        rw [List.prefix_nil.1 hdone]
        exact h
      · intro h
        exact h [] (List.prefix_refl [])
  | cons e es ih =>
      rw [always_cons, ih]
      constructor
      · rintro ⟨h₀, h⟩ done hdone
        cases done with
        | nil => exact h₀
        | cons d done =>
            obtain ⟨rfl, hrest⟩ := List.cons_prefix_cons.1 hdone
            exact h done hrest
      · intro h
        refine ⟨h [] (List.nil_prefix), ?_⟩
        intro done hdone
        exact h (e :: done) (List.cons_prefix_cons.2 ⟨rfl, hdone⟩)

/-- `Each` speaks of every event with what came before it. -/
theorem each_iff {es : List ε} :
    Each step C s es ↔ ∀ done e, done ++ [e] <+: es → C (done.foldl step s) e := by
  induction es generalizing s with
  | nil => simp
  | cons e es ih =>
      rw [each_cons, ih]
      constructor
      · rintro ⟨h₀, h⟩ done e' hdone
        cases done with
        | nil =>
            obtain ⟨rfl, -⟩ := List.cons_prefix_cons.1 hdone
            exact h₀
        | cons d done =>
            obtain ⟨rfl, hrest⟩ := List.cons_prefix_cons.1 hdone
            exact h done e' hrest
      · intro h
        refine ⟨h [] e (by simp), ?_⟩
        intro done e' hdone
        exact h (e :: done) e' (List.cons_prefix_cons.2 ⟨rfl, hdone⟩)

/-! ### From one step to a run -/

/-- **What one step keeps, a run keeps.** -/
theorem invariant (hstep : ∀ s e, I s → I (step s e)) (hs : I s) (es : List ε) :
    I (es.foldl step s) := by
  induction es generalizing s with
  | nil => exact hs
  | cons e es ih => exact ih (hstep s e hs)

/-- **What one step keeps exactly under a condition, a run keeps exactly when all its steps meet the
condition.**  The invariant `J` holds along every run and may be used for the step. -/
theorem always_iff_each (hJ : ∀ s e, J s → J (step s e))
    (hI : ∀ s e, J s → I s → (I (step s e) ↔ C s e)) (hJs : J s) (hIs : I s) (es : List ε) :
    Always step I s es ↔ Each step C s es := by
  induction es generalizing s with
  | nil => simp [hIs]
  | cons e es ih =>
      rw [always_cons, each_cons]
      constructor
      · rintro ⟨-, h⟩
        have hC : C s e := (hI s e hJs hIs).1 h.head
        exact ⟨hC, (ih (hJ s e hJs) h.head).1 h⟩
      · rintro ⟨hC, h⟩
        have hnext : I (step s e) := (hI s e hJs hIs).2 hC
        exact ⟨hIs, (ih (hJ s e hJs) hnext).2 h⟩

/-- **A condition entails another along a run** where it does for one step and keeps what is needed
for the next. -/
theorem each_mono {D : σ → ε → Prop} (hCD : ∀ s e, J s → C s e → D s e)
    (hJ : ∀ s e, J s → C s e → J (step s e)) (hJs : J s) (es : List ε) (h : Each step C s es) :
    Each step D s es := by
  induction es generalizing s with
  | nil => exact each_nil
  | cons e es ih => exact ⟨hCD s e hJs h.1, ih (hJ s e hJs h.1) h.2⟩

/-- **Two conditions agree along a run** where they agree for one step and the second keeps what is
needed for the next. -/
theorem each_congr {D : σ → ε → Prop} (hCD : ∀ s e, J s → (D s e ↔ C s e))
    (hJ : ∀ s e, J s → C s e → J (step s e)) (hJs : J s) (es : List ε) :
    Each step D s es ↔ Each step C s es :=
  ⟨each_mono (fun s e hs => (hCD s e hs).1) (fun s e hs hD => hJ s e hs ((hCD s e hs).1 hD)) hJs es,
    each_mono (fun s e hs => (hCD s e hs).2) hJ hJs es⟩

/-- A run is checked step by step. -/
instance decidableEach [∀ s e, Decidable (C s e)] : ∀ s es, Decidable (Each step C s es)
  | _, [] => inferInstanceAs (Decidable True)
  | s, e :: es => @instDecidableAnd _ _ _ (decidableEach (step s e) es)

end Run
