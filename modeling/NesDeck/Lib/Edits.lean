/-
**Edits of named options.**

A configuration gives values to names. An edit gives one name a value, and a list of edits is
applied in its order, so that the last edit of a name counts.

Main definitions:

* `Edits.apply` — the values after some edits.

Main results:

* `Edits.apply_of_not_mem` — **an edit changes the name it is for and no other one**;
* `Edits.apply_absorb` — edits of names that are edited again leave no trace.
-/

import Mathlib.Logic.Function.Basic

set_option relaxedAutoImplicit false
set_option autoImplicit false

namespace Edits

variable {K V : Type} [DecidableEq K]

/-- The values after some edits. -/
def apply (values : K → Option V) : List (K × V) → K → Option V
  | [] => values
  | edit :: edits => apply (Function.update values edit.1 (some edit.2)) edits

@[simp] theorem apply_cons (values : K → Option V) (edit : K × V) (edits : List (K × V)) :
    apply values (edit :: edits) = apply (Function.update values edit.1 (some edit.2)) edits := rfl

theorem apply_append (values : K → Option V) (edits edits' : List (K × V)) :
    apply values (edits ++ edits') = apply (apply values edits) edits' := by
  induction edits generalizing values with
  | nil => rfl
  | cons edit edits ih => exact ih _

/-- **An edit changes the name it is for and no other one.** -/
theorem apply_of_not_mem {values : K → Option V} {edits : List (K × V)} {name : K}
    (h : name ∉ edits.map Prod.fst) : apply values edits name = values name := by
  induction edits generalizing values with
  | nil => rfl
  | cons edit edits ih =>
      rw [List.map_cons, List.mem_cons, not_or] at h
      rw [apply_cons, ih h.2, Function.update_of_ne h.1]

/-- The value of an edited name does not depend on what it was before. -/
theorem apply_of_mem {values values' : K → Option V} {edits : List (K × V)} {name : K}
    (h : name ∈ edits.map Prod.fst) : apply values edits name = apply values' edits name := by
  induction edits generalizing values values' with
  | nil => simp at h
  | cons edit edits ih =>
      rw [apply_cons, apply_cons]
      by_cases hlater : name ∈ edits.map Prod.fst
      · exact ih hlater
      · -- This is the last edit of the name.
        rw [List.map_cons, List.mem_cons] at h
        rw [apply_of_not_mem hlater, apply_of_not_mem hlater, h.resolve_right hlater,
          Function.update_self, Function.update_self]

/-- **Edits of names that are edited again leave no trace.** -/
theorem apply_absorb (values : K → Option V) {before edits : List (K × V)}
    (h : ∀ name ∈ before.map Prod.fst, name ∈ edits.map Prod.fst) :
    apply values (before ++ edits) = apply values edits := by
  rw [apply_append]
  funext name
  by_cases hmem : name ∈ edits.map Prod.fst
  · exact apply_of_mem hmem
  · rw [apply_of_not_mem hmem, apply_of_not_mem hmem, apply_of_not_mem fun hb => hmem (h name hb)]

end Edits
