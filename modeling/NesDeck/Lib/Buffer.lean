/-
**Fixed buffers and sequential stores.**

A buffer is a list of cells whose length never changes.  The one operation on it is the loop
`buffer[offset++] = datum`, which every copy, fill and run expansion of a C program comes down
to.  A store past the end writes nothing, so that the length is an invariant of the operation
itself; the lemmas that describe the result assume that the data fits.

Main definitions:

* `Buffer.store` — overwriting the cells from an offset on with the entries of a list.

Main results:

* `Buffer.store_append` — storing a concatenation is storing one part after the other;
* `Buffer.store_eq` — what the buffer holds after a store that fits;
* `Buffer.store_zero_eq_self_iff` — a store at the start leaves the buffer alone exactly when the
  data is a prefix of it;
* `Buffer.foldl_range'_getD`, `Buffer.foldl_range_getD` — a loop over the indices of a part of the
  buffer is a fold over that part.
-/

import Mathlib.Data.List.GetD
import Mathlib.Tactic.Common

set_option relaxedAutoImplicit false
set_option autoImplicit false

namespace Buffer

variable {α : Type*}

/-! ### Storing -/

/-- Overwriting the cells `offset, offset + 1, …` with the entries of a list, in order. -/
def store (buffer : List α) (offset : ℕ) : List α → List α
  | [] => buffer
  | a :: data => store (buffer.set offset a) (offset + 1) data

@[simp] theorem store_nil (buffer : List α) (offset : ℕ) : store buffer offset [] = buffer := rfl

theorem store_cons (buffer : List α) (offset : ℕ) (a : α) (data : List α) :
    store buffer offset (a :: data) = store (buffer.set offset a) (offset + 1) data := rfl

@[simp] theorem length_store (buffer : List α) (offset : ℕ) (data : List α) :
    (store buffer offset data).length = buffer.length := by
  induction data generalizing buffer offset with
  | nil => rfl
  | cons a data ih => rw [store_cons, ih, List.length_set]

/-- Storing a concatenation is storing the first part and then the second one behind it. -/
theorem store_append (buffer : List α) (offset : ℕ) (data data' : List α) :
    store buffer offset (data ++ data') =
      store (store buffer offset data) (offset + data.length) data' := by
  induction data generalizing buffer offset with
  | nil => rfl
  | cons a data ih =>
      have h : offset + (a :: data).length = offset + 1 + data.length := by
        simp only [List.length_cons]; omega
      rw [List.cons_append, store_cons, ih, store_cons, h]

/-- The buffer after a store that fits: the cells before and after the data are unchanged. -/
theorem store_eq {buffer : List α} {offset : ℕ} {data : List α}
    (h : offset + data.length ≤ buffer.length) :
    store buffer offset data =
      buffer.take offset ++ data ++ buffer.drop (offset + data.length) := by
  induction data generalizing buffer offset with
  | nil => simp
  | cons a data ih =>
      simp only [List.length_cons] at h
      have hlt : offset < buffer.length := by omega
      rw [store_cons, ih (by rw [List.length_set]; omega)]
      have htake : (buffer.set offset a).take (offset + 1) = buffer.take offset ++ [a] := by
        rw [List.take_add_one, List.take_set_of_le (Nat.le_refl _)]
        simp [hlt]
      have hdrop : (buffer.set offset a).drop (offset + 1 + data.length)
          = buffer.drop (offset + (data.length + 1)) := by
        rw [List.drop_set_of_lt (by omega)]
        congr 1
        omega
      rw [htake, hdrop]
      simp

/-- Overwriting the whole buffer. -/
theorem store_zero_of_length_eq {buffer data : List α} (h : data.length = buffer.length) :
    store buffer 0 data = data := by
  rw [store_eq (by omega)]
  simp [h]

/-- A store at the start changes nothing exactly when the data is there already. -/
theorem store_zero_eq_self_iff {buffer data : List α} (h : data.length ≤ buffer.length) :
    store buffer 0 data = buffer ↔ data <+: buffer := by
  rw [store_eq (by omega), Nat.zero_add, List.take_zero, List.nil_append]
  constructor
  · intro heq
    exact ⟨buffer.drop data.length, heq⟩
  · rintro ⟨rest, rfl⟩
    simp

/-- The cells a store writes. -/
theorem getElem?_store_of_mem {buffer : List α} {offset : ℕ} {data : List α}
    (h : offset + data.length ≤ buffer.length) {i : ℕ} (hi : i < data.length) :
    (store buffer offset data)[offset + i]? = data[i]? := by
  rw [store_eq h, List.append_assoc,
    List.getElem?_append_right (by rw [List.length_take]; omega)]
  have hoff : offset + i - (buffer.take offset).length = i := by
    rw [List.length_take]; omega
  rw [hoff, List.getElem?_append_left hi]

/-- The cells before the ones a store writes. -/
theorem getElem?_store_of_lt {buffer : List α} {offset : ℕ} {data : List α} {i : ℕ}
    (hi : i < offset) : (store buffer offset data)[i]? = buffer[i]? := by
  induction data generalizing buffer offset with
  | nil => rfl
  | cons a data ih =>
      rw [store_cons, ih (by omega), List.getElem?_set_ne (by omega)]

/-- The cells after the ones a store writes. -/
theorem getElem?_store_of_ge {buffer : List α} {offset : ℕ} {data : List α} {i : ℕ}
    (hi : offset + data.length ≤ i) : (store buffer offset data)[i]? = buffer[i]? := by
  induction data generalizing buffer offset with
  | nil => rfl
  | cons a data ih =>
      simp only [List.length_cons] at hi
      rw [store_cons, ih (by omega), List.getElem?_set_ne (by omega)]

/-! ### Loops over the indices of a part -/

/-- The entries at the indices `offset, …, offset + n - 1`. -/
theorem take_drop_eq_map_getD (l : List α) (d : α) {offset n : ℕ} (h : offset + n ≤ l.length) :
    (l.drop offset).take n = (List.range n).map fun i => l.getD (offset + i) d := by
  refine List.ext_getElem (by simp; omega) ?_
  intro i h₁ h₂
  have hi : i < n := by simpa using h₂
  rw [List.getElem_take, List.getElem_drop, List.getElem_map, List.getElem_range,
    List.getD_eq_getElem _ _ (by omega)]

/-- An entry of a part. -/
theorem getD_take_drop (l : List α) (d : α) (offset : ℕ) {n i : ℕ} (h : i < n) :
    ((l.drop offset).take n).getD i d = l.getD (offset + i) d := by
  simp [List.getD_eq_getElem?_getD, h]

/-- A part of a part. -/
theorem take_drop_take_drop (l : List α) (offset : ℕ) {offset' n m : ℕ} (h : offset' + m ≤ n) :
    ((((l.drop offset).take n).drop offset').take m) = (l.drop (offset + offset')).take m := by
  rw [List.drop_take, List.take_take, List.drop_drop]
  congr 1
  omega

/-- A loop that reads the entries from an offset on. -/
theorem foldl_range_getD {β : Type*} (f : β → α → β) (b : β) (l : List α) (d : α) {offset n : ℕ}
    (h : offset + n ≤ l.length) :
    (List.range n).foldl (fun acc i => f acc (l.getD (offset + i) d)) b =
      ((l.drop offset).take n).foldl f b := by
  rw [take_drop_eq_map_getD l d h, List.foldl_map]

/-- A loop over the indices from `offset` on. -/
theorem foldl_range'_getD {β : Type*} (f : β → α → β) (b : β) (l : List α) (d : α) {offset n : ℕ}
    (h : offset + n ≤ l.length) :
    (List.range' offset n).foldl (fun acc i => f acc (l.getD i d)) b =
      ((l.drop offset).take n).foldl f b := by
  rw [List.range'_eq_map_range, List.foldl_map]
  exact foldl_range_getD f b l d h

end Buffer
