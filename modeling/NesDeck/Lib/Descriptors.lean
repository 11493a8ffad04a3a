/-
**The descriptors of a process.**

A process opens and closes descriptors, and takes a device for itself alone and gives it back. The
table lists the descriptors that are open, each with whether its device is grabbed. The kernel may
give any number to a descriptor that it opens, but for those that are in use.

A part of a program owns a part of the table. What it does is described by what it owned before and
what it owns afterwards; the rest of the table may be anything, and stays as it is.

Main definitions:

* `Descriptors.Use`, `Descriptors.Table` — the calls, and the table;
* `Descriptors.Use.Fresh`, `Descriptors.Use.Legal` — what the kernel does, and what the program may
  do;
* `Descriptors.Moves` — calls that turn what is owned before into what is owned afterwards.

Main results:

* `Descriptors.Moves.append`, `Descriptors.Moves.frame`, `Descriptors.Moves.flatMap` — how calls
  compose;
* `Descriptors.moves_opened` and its siblings — what a call does;
* `Descriptors.Moves.run` — **a program that moves nothing but its own makes legal calls only**.
-/

import Mathlib.Algebra.BigOperators.Group.List.Basic
import Mathlib.Algebra.Order.Group.Multiset
import Mathlib.Data.Multiset.Filter

set_option relaxedAutoImplicit false
set_option autoImplicit false

namespace Descriptors

variable {Fd : Type} [DecidableEq Fd]

/-- What is done with a descriptor; `asked` stands for calls that read from it. -/
inductive Use (Fd : Type) where
  | opened (fd : Fd)
  | asked (fd : Fd)
  | grabbed (fd : Fd)
  | released (fd : Fd)
  | closed (fd : Fd)

/-- The descriptors that are open, and whether the device of each is grabbed. -/
abbrev Table (Fd : Type) : Type := Multiset (Fd × Bool)

/-- A call; whoever closes a descriptor gives up what was grabbed with it. -/
def Use.after (table : Table Fd) : Use Fd → Table Fd
  | .opened fd => (fd, false) ::ₘ table
  | .asked _ => table
  | .grabbed fd => (fd, true) ::ₘ table.erase (fd, false)
  | .released fd => (fd, false) ::ₘ table.erase (fd, true)
  | .closed fd => table.filter fun entry => entry.1 ≠ fd

def after (table : Table Fd) (uses : List (Use Fd)) : Table Fd := uses.foldl Use.after table

/-- The kernel opens none that is open. -/
def Use.Fresh (table : Table Fd) : Use Fd → Prop
  | .opened fd => fd ∉ table.map Prod.fst
  | _ => True

/-- The program uses what is open, grabs what is not grabbed, and gives back what is. -/
def Use.Legal (table : Table Fd) : Use Fd → Prop
  | .opened _ => True
  | .asked fd | .closed fd => fd ∈ table.map Prod.fst
  | .grabbed fd => (fd, false) ∈ table
  | .released fd => (fd, true) ∈ table

/-- A property of every call, with the table that it finds. -/
def Along (P : Table Fd → Use Fd → Prop) : Table Fd → List (Use Fd) → Prop
  | _, [] => True
  | table, use :: uses => P table use ∧ Along P (use.after table) uses

theorem after_append (table : Table Fd) (uses uses' : List (Use Fd)) :
    after table (uses ++ uses') = after (after table uses) uses' := List.foldl_append

theorem along_append {P : Table Fd → Use Fd → Prop} {table : Table Fd}
    {uses uses' : List (Use Fd)} :
    Along P table (uses ++ uses') ↔ Along P table uses ∧ Along P (after table uses) uses' := by
  induction uses generalizing table with
  | nil => exact ⟨fun h => ⟨trivial, h⟩, fun h => h.2⟩
  | cons use uses ih =>
      rw [List.cons_append, Along, Along, ih, and_assoc]
      rfl

/-- No descriptor is in the table twice. -/
def Sound (table : Table Fd) : Prop := (table.map Prod.fst).Nodup

/-- The calls turn `own` into `own'`, whatever else is in the table. -/
def Moves (uses : List (Use Fd)) (own own' : Table Fd) : Prop :=
  ∀ rest : Table Fd, Sound (own + rest) → Along Use.Fresh (own + rest) uses →
    Along Use.Legal (own + rest) uses ∧ after (own + rest) uses = own' + rest ∧ Sound (own' + rest)

variable {uses uses' : List (Use Fd)} {own own' own'' : Table Fd}

/-! ### How calls compose -/

theorem Moves.nil (own : Table Fd) : Moves [] own own := fun _ hsound _ => ⟨trivial, rfl, hsound⟩

theorem Moves.append (h : Moves uses own own') (h' : Moves uses' own' own'') :
    Moves (uses ++ uses') own own'' := by
  intro rest hsound hfresh
  obtain ⟨hfirst, hthen⟩ := along_append.1 hfresh
  obtain ⟨hlegal, hafter, hsound'⟩ := h rest hsound hfirst
  rw [hafter] at hthen
  obtain ⟨hlegal', hafter', hsound''⟩ := h' rest hsound' hthen
  refine ⟨along_append.2 ⟨hlegal, ?_⟩, ?_, hsound''⟩
  · rw [hafter]
    exact hlegal'
  · rw [after_append, hafter]
    exact hafter'

/-- **What is not owned stays as it is.** -/
theorem Moves.frame (h : Moves uses own own') (other : Table Fd) :
    Moves uses (own + other) (own' + other) := by
  intro rest hsound hfresh
  rw [add_assoc] at hsound hfresh ⊢
  rw [add_assoc]
  exact h (other + rest) hsound hfresh

theorem Moves.frame_left (h : Moves uses own own') (other : Table Fd) :
    Moves uses (other + own) (other + own') := by
  rw [add_comm other own, add_comm other own']
  exact h.frame other

/-- The calls of a loop, each round with its own part. -/
theorem Moves.flatMap {α : Type} {items : List α} {calls : α → List (Use Fd)}
    {first last : α → Table Fd} (h : ∀ item ∈ items, Moves (calls item) (first item) (last item)) :
    Moves (items.flatMap calls) (items.map first).sum (items.map last).sum := by
  induction items with
  | nil => exact Moves.nil 0
  | cons item items ih =>
      rw [List.forall_mem_cons] at h
      rw [List.flatMap_cons, List.map_cons, List.map_cons, List.sum_cons, List.sum_cons]
      exact (h.1.frame _).append ((ih h.2).frame_left _)

/-! ### The calls -/

theorem moves_opened (fd : Fd) : Moves [.opened fd] 0 {(fd, false)} := by
  intro rest hsound hfresh
  rw [zero_add] at hsound hfresh ⊢
  rw [Multiset.singleton_add]
  refine ⟨⟨trivial, trivial⟩, rfl, ?_⟩
  rw [Sound, Multiset.map_cons]
  exact Multiset.nodup_cons.2 ⟨hfresh.1, hsound⟩

omit [DecidableEq Fd] in
theorem mem_singleton_add (fd : Fd) (flag : Bool) (rest : Table Fd) :
    (fd, flag) ∈ {(fd, flag)} + rest :=
  Multiset.mem_add.2 (Or.inl (Multiset.mem_singleton_self _))

theorem moves_asked (fd : Fd) (flag : Bool) : Moves [.asked fd] {(fd, flag)} {(fd, flag)} := by
  intro rest hsound _
  exact ⟨⟨Multiset.mem_map_of_mem Prod.fst (mem_singleton_add fd flag rest), trivial⟩, rfl, hsound⟩

omit [DecidableEq Fd] in
/-- A flag that changes. -/
theorem Sound.congr {fd : Fd} {flag other : Bool} {rest : Table Fd}
    (h : Sound ({(fd, flag)} + rest)) :
    Sound ({(fd, other)} + rest) := by
  rw [Sound, Multiset.map_add, Multiset.map_singleton] at h ⊢
  exact h

theorem moves_grabbed (fd : Fd) : Moves [.grabbed fd] {(fd, false)} {(fd, true)} := by
  intro rest hsound _
  refine ⟨⟨mem_singleton_add fd false rest, trivial⟩, ?_, hsound.congr⟩
  rw [Multiset.singleton_add, Multiset.singleton_add]
  exact congrArg _ (Multiset.erase_cons_head _ _)

theorem moves_released (fd : Fd) : Moves [.released fd] {(fd, true)} {(fd, false)} := by
  intro rest hsound _
  refine ⟨⟨mem_singleton_add fd true rest, trivial⟩, ?_, hsound.congr⟩
  rw [Multiset.singleton_add, Multiset.singleton_add]
  exact congrArg _ (Multiset.erase_cons_head _ _)

theorem moves_closed (fd : Fd) (flag : Bool) : Moves [.closed fd] {(fd, flag)} 0 := by
  intro rest hsound _
  have hsound' := hsound
  rw [Sound, Multiset.singleton_add, Multiset.map_cons, Multiset.nodup_cons] at hsound'
  refine ⟨⟨Multiset.mem_map_of_mem Prod.fst (mem_singleton_add fd flag rest), trivial⟩, ?_, ?_⟩
  · rw [Multiset.singleton_add, zero_add]
    refine (Multiset.filter_cons_of_neg _ (by simp)).trans (Multiset.filter_eq_self.2 ?_)
    rintro entry hentry rfl
    have hmem : entry.1 ∈ rest.map Prod.fst := Multiset.mem_map_of_mem Prod.fst hentry
    exact hsound'.1 hmem
  · rw [zero_add]
    exact hsound'.2

/-- **A program that moves nothing but its own makes legal calls only.** -/
theorem Moves.run (h : Moves uses 0 own) (hfresh : Along Use.Fresh 0 uses) :
    Along Use.Legal 0 uses ∧ after 0 uses = own ∧ Sound own := by
  have hrun := h 0 (by simp [Sound]) (by rwa [add_zero])
  rwa [add_zero, add_zero] at hrun

end Descriptors
