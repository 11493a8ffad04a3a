/-
**A file that is read item by item.**

A file is a list with a position in it. A read of `count` items of a size takes the complete items
that are left, at most as many as were asked for. A seek goes to a place that is given from the
start, from the position or from the end; where the file has no such place, it fails.

Main definitions:

* `SeekFile` — a file, with its position;
* `SeekFile.read`, `SeekFile.seek` — the operations.

Main results:

* `SeekFile.read_of_items_eq_zero` — a read of nothing leaves the file as it is;
* `SeekFile.seek_eq_some`, `SeekFile.seek_eq_none` — when a seek succeeds, and where it goes.
-/

import Mathlib.Algebra.Order.Ring.Int
import Mathlib.Data.List.Basic

set_option relaxedAutoImplicit false
set_option autoImplicit false

/-- A file, and a position that is not beyond its end. -/
structure SeekFile (α : Type*) where
  content : List α
  position : ℕ
  within : position ≤ content.length

namespace SeekFile

variable {α : Type*}

/-- A file that has just been opened. -/
def opened (content : List α) : SeekFile α := ⟨content, 0, Nat.zero_le _⟩

variable (file : SeekFile α)

def remaining : ℕ := file.content.length - file.position

/-- The complete items that a read of `count` items returns. -/
def items (size count : ℕ) : ℕ := min (size * count) file.remaining / size

theorem items_mul_le (size count : ℕ) : file.items size count * size ≤ file.remaining :=
  Nat.le_trans (Nat.div_mul_le_self _ _) (Nat.min_le_right _ _)

/-- What a read returns, and the file after it. -/
def read (size count : ℕ) : List α × SeekFile α :=
  ((file.content.drop file.position).take (file.items size count * size),
    ⟨file.content, file.position + file.items size count * size, by
      have hle := file.items_mul_le size count
      have hwithin := file.within
      rw [remaining] at hle
      omega⟩)

/-- A read of nothing leaves the file as it is. -/
theorem read_of_items_eq_zero {size count : ℕ} (h : file.items size count = 0) :
    file.read size count = ([], file) := by
  simp [read, h]

inductive Whence where
  | start
  | current
  | finish

def origin : Whence → ℕ
  | .start => 0
  | .current => file.position
  | .finish => file.content.length

def target (whence : Whence) (offset : ℤ) : ℤ := file.origin whence + offset

def seek (whence : Whence) (offset : ℤ) : Option (SeekFile α) :=
  if h : 0 ≤ file.target whence offset ∧ file.target whence offset ≤ file.content.length then
    some ⟨file.content, (file.target whence offset).toNat, by omega⟩
  else none

theorem origin_le (whence : Whence) : file.origin whence ≤ file.content.length := by
  cases whence with
  | start => exact Nat.zero_le _
  | current => exact file.within
  | finish => exact Nat.le_refl _

variable {file} {whence : Whence} {offset : ℤ}

/-- **A seek to a place of the file** goes there. -/
theorem seek_eq_some
    (h : 0 ≤ file.target whence offset ∧ file.target whence offset ≤ file.content.length) :
    ∃ file', file.seek whence offset = some file' ∧ file'.content = file.content ∧
      (file'.position : ℤ) = file.target whence offset :=
  ⟨_, dif_pos h, rfl, Int.toNat_of_nonneg h.1⟩

/-- **A seek to any other place** fails. -/
theorem seek_eq_none
    (h : ¬ (0 ≤ file.target whence offset ∧ file.target whence offset ≤ file.content.length)) :
    file.seek whence offset = none :=
  dif_neg h

end SeekFile
