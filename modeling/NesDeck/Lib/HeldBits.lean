/-
**The buttons of the keys that are held.**

Several keys may stand for the same bits.  The state of all of them is the union of the bits of
the keys that are down.  A driver may keep that union up to date by setting the bits of a key that
goes down and clearing the bits of a key that comes up; this module says when that is right.

Main definitions:

* `HeldBits.union` — the bits of the keys of a list that are held.

Main results:

* `HeldBits.union_press` — setting the bits of a key is always right;
* `HeldBits.union_release_iff` — **clearing them is right exactly when no key that stays down has
  any of them**.
-/

import Mathlib.Data.List.Basic
import Mathlib.Logic.Function.Basic

set_option relaxedAutoImplicit false
set_option autoImplicit false

namespace HeldBits

variable {κ : Type*} {w : ℕ} (bits : κ → BitVec w)

/-- The bits of the keys among `keys` that are held. -/
def union (held : κ → Bool) : List κ → BitVec w
  | [] => 0
  | k :: keys => (if held k then bits k else 0) ||| union held keys

variable {bits}

@[simp] theorem union_nil (held : κ → Bool) : union bits held [] = 0 := rfl

theorem union_cons (held : κ → Bool) (k : κ) (keys : List κ) :
    union bits held (k :: keys) = (if held k then bits k else 0) ||| union bits held keys := rfl

/-- A loop that collects the bits of the held keys. -/
theorem foldl_eq_union (state : BitVec w) (held : κ → Bool) (keys : List κ) :
    keys.foldl (fun state k => if held k = true then state ||| bits k else state) state =
      state ||| union bits held keys := by
  induction keys generalizing state with
  | nil => simp
  | cons k keys ih =>
      rw [List.foldl_cons, ih, union_cons]
      by_cases hk : held k = true
      · rw [if_pos hk, if_pos hk, BitVec.or_assoc]
      · rw [if_neg hk, if_neg hk]
        simp

/-- A bit of the union is a bit of a held key. -/
theorem getLsbD_union (held : κ → Bool) (keys : List κ) (i : ℕ) :
    (union bits held keys).getLsbD i = true ↔
      ∃ k ∈ keys, held k = true ∧ (bits k).getLsbD i = true := by
  induction keys with
  | nil => simp
  | cons k keys ih =>
      rw [union_cons, BitVec.getLsbD_or, Bool.or_eq_true, ih, List.exists_mem_cons_iff]
      refine or_congr_left ?_
      by_cases hk : held k = true
      · simp [hk]
      · simp [hk]

theorem union_eq_zero {held : κ → Bool} (h : ∀ k, held k = false) (keys : List κ) :
    union bits held keys = 0 := by
  induction keys with
  | nil => rfl
  | cons k keys ih => simp [union_cons, h, ih]

variable [DecidableEq κ]

/-- **Pressing**: the bits of the key join the union. -/
theorem union_press (held : κ → Bool) {keys : List κ} {k : κ} (hk : k ∈ keys) :
    union bits (Function.update held k true) keys = union bits held keys ||| bits k := by
  refine BitVec.eq_of_getLsbD_eq ?_
  intro i _
  rw [Bool.eq_iff_iff, BitVec.getLsbD_or, Bool.or_eq_true, getLsbD_union, getLsbD_union]
  constructor
  · rintro ⟨k', hmem, hheld, hbit⟩
    by_cases hkk : k' = k
    · subst hkk
      exact Or.inr hbit
    · rw [Function.update_of_ne hkk] at hheld
      exact Or.inl ⟨k', hmem, hheld, hbit⟩
  · rintro (⟨k', hmem, hheld, hbit⟩ | hbit)
    · refine ⟨k', hmem, ?_, hbit⟩
      by_cases hkk : k' = k
      · simp [hkk]
      · rw [Function.update_of_ne hkk]
        exact hheld
    · exact ⟨k, hk, by simp, hbit⟩

/-- What is left after a key came up has no bits beyond those of the union and of the key. -/
theorem union_release_le (held : κ → Bool) (keys : List κ) (k : κ) (i : ℕ) :
    (union bits held keys).getLsbD i = true →
      (union bits (Function.update held k false) keys).getLsbD i = true ∨
        (bits k).getLsbD i = true := by
  rw [getLsbD_union, getLsbD_union]
  rintro ⟨k', hmem, hheld, hbit⟩
  by_cases hkk : k' = k
  · subst hkk
    exact Or.inr hbit
  · exact Or.inl ⟨k', hmem, by rw [Function.update_of_ne hkk]; exact hheld, hbit⟩

theorem union_release_ge (held : κ → Bool) (keys : List κ) (k : κ) (i : ℕ) :
    (union bits (Function.update held k false) keys).getLsbD i = true →
      (union bits held keys).getLsbD i = true := by
  rw [getLsbD_union, getLsbD_union]
  rintro ⟨k', hmem, hheld, hbit⟩
  refine ⟨k', hmem, ?_, hbit⟩
  by_cases hkk : k' = k
  · subst hkk
    simp at hheld
  · rwa [Function.update_of_ne hkk] at hheld

/-- **Releasing**: clearing the bits of the key gives the union of the others exactly when no key
that stays down has any of them. -/
theorem union_release_iff (held : κ → Bool) (keys : List κ) (k : κ) :
    union bits held keys &&& ~~~bits k = union bits (Function.update held k false) keys ↔
      ∀ k' ∈ keys, k' ≠ k → held k' = true → bits k' &&& bits k = 0 := by
  constructor
  · intro h k' hmem hkk hheld
    refine BitVec.eq_of_getLsbD_eq ?_
    intro i _
    -- A shared bit would be cleared although `k'` stays down.
    by_contra hbit
    have hboth : (bits k').getLsbD i = true ∧ (bits k).getLsbD i = true := by
      simpa using hbit
    have hleft : (union bits (Function.update held k false) keys).getLsbD i = true :=
      (getLsbD_union _ _ _).2
        ⟨k', hmem, by rw [Function.update_of_ne hkk]; exact hheld, hboth.1⟩
    rw [← h, BitVec.getLsbD_and, Bool.and_eq_true] at hleft
    simp [hboth.2] at hleft
  · intro h
    refine BitVec.eq_of_getLsbD_eq ?_
    intro i hi
    rw [Bool.eq_iff_iff, BitVec.getLsbD_and, Bool.and_eq_true]
    constructor
    · rintro ⟨hunion, hclear⟩
      rcases union_release_le held keys k i hunion with hrest | hbit
      · exact hrest
      · simp [hbit] at hclear
    · intro hrest
      refine ⟨union_release_ge held keys k i hrest, ?_⟩
      obtain ⟨k', hmem, hheld, hbit⟩ := (getLsbD_union _ _ _).1 hrest
      have hkk : k' ≠ k := by
        rintro rfl
        simp at hheld
      rw [Function.update_of_ne hkk] at hheld
      have hzero : (bits k' &&& bits k).getLsbD i = false := by
        rw [h k' hmem hkk hheld]
        simp
      simp only [BitVec.getLsbD_and, hbit, Bool.true_and] at hzero
      rw [BitVec.getLsbD_not, hzero]
      simp [hi]

end HeldBits
