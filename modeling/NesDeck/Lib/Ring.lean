/-
**Ring buffers.**

A ring buffer keeps a queue in a list of slots: the queued entries start at the slot `head` and
continue, past the last slot, at the first one.  The entries in order are the front part of the
rotated list of slots.  Copying entries out or in takes two block copies, one up to the last slot
and one from the first.

Main definitions:

* `Ring.contents` — the queued entries, the oldest first;
* `Ring.read` — the two copies out of the ring;
* `Ring.write` — the two copies into the ring.

Main results:

* `Ring.read_eq_contents` — what the two copies obtain;
* `Ring.contents_advance` — advancing the head drops the oldest entries;
* `Ring.contents_write` — **a write behind the queue appends to it**.
-/

import NesDeck.Lib.Buffer
import Mathlib.Data.List.Rotate

set_option relaxedAutoImplicit false
set_option autoImplicit false

namespace Ring

variable {α : Type*}

/-! ### The queue in the slots -/

/-- The `size` entries from the slot `head` on. -/
def contents (slots : List α) (head size : ℕ) : List α := (slots.rotate head).take size

theorem length_contents {slots : List α} {size : ℕ} (head : ℕ) (h : size ≤ slots.length) :
    (contents slots head size).length = size := by
  rw [contents, List.length_take, List.length_rotate]
  omega

theorem getElem?_contents {slots : List α} {size i : ℕ} (head : ℕ) (h : size ≤ slots.length)
    (hi : i < size) : (contents slots head size)[i]? = slots[(head + i) % slots.length]? := by
  rw [contents, List.getElem?_take_of_lt hi, List.getElem?_rotate (by omega), Nat.add_comm]

/-- Only the slot that the head points at matters. -/
theorem contents_mod (slots : List α) (head size : ℕ) :
    contents slots (head % slots.length) size = contents slots head size := by
  rw [contents, List.rotate_mod, contents]

/-- The front of the queue. -/
theorem take_contents (slots : List α) (head : ℕ) {count size : ℕ} (h : count ≤ size) :
    (contents slots head size).take count = contents slots head count := by
  rw [contents, List.take_take, Nat.min_eq_left h, contents]

/-- Advancing the head drops the oldest entries. -/
theorem contents_advance {slots : List α} {count size : ℕ} (head : ℕ) (hcount : count ≤ size)
    (hsize : size ≤ slots.length) :
    contents slots ((head + count) % slots.length) (size - count) =
      (contents slots head size).drop count := by
  refine List.ext_getElem? ?_
  intro i
  rw [contents_mod, List.getElem?_drop]
  by_cases hi : i < size - count
  · rw [getElem?_contents _ (by omega) hi, getElem?_contents _ hsize (by omega), Nat.add_assoc]
  · rw [List.getElem?_eq_none, List.getElem?_eq_none]
    · rw [length_contents _ hsize]
      omega
    · rw [length_contents _ (by omega)]
      omega

/-! ### Copying out -/

/-- Two block copies out of the ring: up to the last slot, and from the first one on. -/
def read (slots : List α) (head count : ℕ) : List α :=
  let first := min count (slots.length - head)
  (slots.drop head).take first ++ slots.take (count - first)

/-- The copies obtain the oldest entries. -/
theorem read_eq_contents {slots : List α} {head count : ℕ} (hhead : head ≤ slots.length)
    (hcount : count ≤ slots.length) : read slots head count = contents slots head count := by
  rw [read, contents, List.rotate_eq_drop_append_take hhead, List.take_append, List.length_drop,
    List.take_take]
  congr 1
  · rcases Nat.le_total count (slots.length - head) with hle | hle
    · rw [Nat.min_eq_left hle]
    · rw [Nat.min_eq_right hle, List.take_of_length_le (by rw [List.length_drop]),
        List.take_of_length_le (by rw [List.length_drop]; exact hle)]
  · congr 1
    omega

/-! ### Copying in -/

/-- Two block copies into the ring: up to the last slot, and from the first one on. -/
def write (slots : List α) (tail : ℕ) (data : List α) : List α :=
  let first := min data.length (slots.length - tail)
  Buffer.store (Buffer.store slots tail (data.take first)) 0 (data.drop first)

@[simp] theorem length_write (slots : List α) (tail : ℕ) (data : List α) :
    (write slots tail data).length = slots.length := by
  rw [write, Buffer.length_store, Buffer.length_store]

/-- The slots that a write fills. -/
theorem getElem?_write_of_lt {slots data : List α} {tail i : ℕ} (htail : tail < slots.length)
    (hdata : data.length ≤ slots.length) (hi : i < data.length) :
    (write slots tail data)[(tail + i) % slots.length]? = data[i]? := by
  rw [write]
  set first := min data.length (slots.length - tail) with hfirst
  have htake : (data.take first).length = first := by
    rw [List.length_take]
    omega
  have hdrop : (data.drop first).length = data.length - first := List.length_drop
  by_cases hlt : i < first
  · -- the slot is filled by the first copy, and the second one ends before it
    rw [Nat.mod_eq_of_lt (by omega), Buffer.getElem?_store_of_ge (by omega),
      Buffer.getElem?_store_of_mem (by omega) (by omega), List.getElem?_take_of_lt hlt]
  · -- the first copy has reached the last slot
    have hmod : (tail + i) % slots.length = 0 + (i - first) := by
      have hsplit : tail + i = slots.length + (i - first) := by omega
      rw [hsplit, Nat.add_mod_left, Nat.mod_eq_of_lt (by omega), Nat.zero_add]
    rw [hmod, Buffer.getElem?_store_of_mem (by rw [Buffer.length_store]; omega) (by omega),
      List.getElem?_drop]
    congr 1
    omega

/-- The slots that a write leaves alone. -/
theorem getElem?_write_of_ge {slots data : List α} {tail i : ℕ} (htail : tail < slots.length)
    (hi : data.length ≤ i) (hlt : i < slots.length) :
    (write slots tail data)[(tail + i) % slots.length]? = slots[(tail + i) % slots.length]? := by
  rw [write]
  set first := min data.length (slots.length - tail) with hfirst
  have htake : (data.take first).length = first := by
    rw [List.length_take]
    omega
  have hdrop : (data.drop first).length = data.length - first := List.length_drop
  by_cases hwrap : tail + i < slots.length
  · rw [Nat.mod_eq_of_lt hwrap, Buffer.getElem?_store_of_ge (by omega),
      Buffer.getElem?_store_of_ge (by omega)]
  · have hmod : (tail + i) % slots.length = tail + i - slots.length := by
      rw [Nat.mod_eq_sub_mod (by omega), Nat.mod_eq_of_lt (by omega)]
    rw [hmod, Buffer.getElem?_store_of_ge (by omega), Buffer.getElem?_store_of_lt (by omega)]

/-- **A write behind the queue appends to it**, as long as there is room. -/
theorem contents_write {slots data : List α} {head size : ℕ} (hpos : 0 < slots.length)
    (hroom : size + data.length ≤ slots.length) :
    contents (write slots ((head + size) % slots.length) data) head (size + data.length) =
      contents slots head size ++ data := by
  have htail : (head + size) % slots.length < slots.length := Nat.mod_lt _ hpos
  have hlength : (contents slots head size).length = size := length_contents head (by omega)
  refine List.ext_getElem? ?_
  intro i
  by_cases hi : i < size + data.length
  · rw [getElem?_contents _ (by rw [length_write]; exact hroom) hi, length_write]
    by_cases hqueued : i < size
    · -- a queued entry: counted from the tail, its slot lies behind the data
      have hslot : (head + i) % slots.length =
          ((head + size) % slots.length + (slots.length - size + i)) % slots.length := by
        have hsum : head + size + (slots.length - size + i) = head + i + slots.length := by omega
        rw [Nat.mod_add_mod, hsum, Nat.add_mod_right]
      rw [hslot, getElem?_write_of_ge htail (by omega) (by omega), ← hslot,
        List.getElem?_append_left (by omega), getElem?_contents head (by omega) hqueued]
    · have hslot : (head + i) % slots.length =
          ((head + size) % slots.length + (i - size)) % slots.length := by
        have hsum : head + size + (i - size) = head + i := by omega
        rw [Nat.mod_add_mod, hsum]
      rw [hslot, getElem?_write_of_lt htail (by omega) (by omega),
        List.getElem?_append_right (by omega), hlength]
  · rw [List.getElem?_eq_none, List.getElem?_eq_none]
    · rw [List.length_append, hlength]
      omega
    · rw [length_contents _ (by rw [length_write]; exact hroom)]
      omega

end Ring
