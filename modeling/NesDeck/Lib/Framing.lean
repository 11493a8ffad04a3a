/-
**Streams that come in frames.**

Some streams are read in pieces of any size, but mean something only at certain entries, which end a
frame.  What has come since the last end is the beginning of a frame and is kept for the next piece.

Main definitions:

* `Framing.frames` — the frames that a piece completes, each with the entry that ends it;
* `Framing.leftover` — the beginning of a frame that a piece leaves.

Main results:

* `Framing.frames_append`, `Framing.leftover_append` — **pieces are put together as the stream is**.
-/

import Mathlib.Tactic.Common

set_option relaxedAutoImplicit false
set_option autoImplicit false

namespace Framing

variable {α : Type*} (isEnd : α → Bool)

/-- The frames that a piece completes, the first of which has begun with `current`. -/
def frames (current : List α) : List α → List (List α × α)
  | [] => []
  | entry :: piece =>
      if isEnd entry = true then (current, entry) :: frames [] piece
      else frames (current ++ [entry]) piece

/-- The beginning of a frame after a piece. -/
def leftover (current : List α) : List α → List α
  | [] => current
  | entry :: piece =>
      if isEnd entry = true then leftover [] piece else leftover (current ++ [entry]) piece

variable {isEnd}

theorem frames_cons_of_end {entry : α} (h : isEnd entry = true) (current piece : List α) :
    frames isEnd current (entry :: piece) = (current, entry) :: frames isEnd [] piece := by
  rw [frames, if_pos h]

theorem frames_cons_of_not_end {entry : α} (h : isEnd entry = false) (current piece : List α) :
    frames isEnd current (entry :: piece) = frames isEnd (current ++ [entry]) piece := by
  rw [frames, if_neg (by simp [h])]

theorem leftover_cons_of_end {entry : α} (h : isEnd entry = true) (current piece : List α) :
    leftover isEnd current (entry :: piece) = leftover isEnd [] piece := by
  rw [leftover, if_pos h]

theorem leftover_cons_of_not_end {entry : α} (h : isEnd entry = false) (current piece : List α) :
    leftover isEnd current (entry :: piece) = leftover isEnd (current ++ [entry]) piece := by
  rw [leftover, if_neg (by simp [h])]

/-- **Pieces are put together as the stream is.** -/
theorem frames_append (current first second : List α) :
    frames isEnd current (first ++ second) =
      frames isEnd current first ++ frames isEnd (leftover isEnd current first) second := by
  induction first generalizing current with
  | nil => rfl
  | cons entry first ih =>
      cases hend : isEnd entry with
      | true =>
          rw [List.cons_append, frames_cons_of_end hend, frames_cons_of_end hend,
            leftover_cons_of_end hend, ih, List.cons_append]
      | false =>
          rw [List.cons_append, frames_cons_of_not_end hend, frames_cons_of_not_end hend,
            leftover_cons_of_not_end hend, ih]

theorem leftover_append (current first second : List α) :
    leftover isEnd current (first ++ second) =
      leftover isEnd (leftover isEnd current first) second := by
  induction first generalizing current with
  | nil => rfl
  | cons entry first ih =>
      cases hend : isEnd entry with
      | true => rw [List.cons_append, leftover_cons_of_end hend, leftover_cons_of_end hend, ih]
      | false =>
          rw [List.cons_append, leftover_cons_of_not_end hend, leftover_cons_of_not_end hend, ih]

end Framing
