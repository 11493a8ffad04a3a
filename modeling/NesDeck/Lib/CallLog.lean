/-
**Commands that make calls.**

A command makes one call after the other, and the world answers each of them with yes or no, as it
likes; the state of the command is the log of the calls and answers so far.  What a command does is
told by what it adds to the log, together with its status, and a composed command is described from
the descriptions of its parts.

Main definitions:

* `CallLog.Log`, `CallLog.World`, `CallLog.call` — a log, a world, and one call;
* `CallLog.Adds` — what a command adds to every log, and its status;
* `CallLog.Cut` — calls of which the last one fails; `CallLog.Missed` — looks of which none finds
  what is expected.

Main results:

* `CallLog.Adds.cons`, `CallLog.Adds.branch` — **the rules of a chain and of a condition**;
* `CallLog.adds_calls`, `CallLog.adds_expect` — calls that must succeed, and calls whose answers are
  expected;
* `CallLog.adds_waitFor` — a loop that looks until it finds what is expected, or gives up.
-/

import NesDeck.Lib.Script

set_option relaxedAutoImplicit false
set_option autoImplicit false

namespace CallLog

open Script (Command chain orTrue branch negate skip exit)

variable {α : Type}

/-- The calls so far, with their answers. -/
abbrev Log (α : Type) : Type := List (α × Bool)

/-- The answer to a call, after a log. -/
abbrev World (α : Type) : Type := Log α → α → Bool

def call (world : World α) (c : α) : Command (Log α) := fun log =>
  (log ++ [(c, world log c)], world log c)

/-- What a command adds to the log, whatever it finds there. -/
def Adds (command : Command (Log α)) (T : Log α → Bool → Prop) : Prop :=
  ∀ log, ∃ made status, command log = (log ++ made, status) ∧ T made status

/-! ### Rules -/

section Rules

variable {world : World α} {c c' c'' : Command (Log α)} {cs : List (Command (Log α))}
  {T U V : Log α → Bool → Prop}

theorem Adds.mono (h : Adds c T) (hTU : ∀ made status, T made status → U made status) :
    Adds c U := by
  intro log
  obtain ⟨made, status, heq, hT⟩ := h log
  exact ⟨made, status, heq, hTU made status hT⟩

theorem adds_call (world : World α) (a : α) : Adds (call world a) fun made status =>
    made = [(a, status)] :=
  fun _ => ⟨_, _, rfl, rfl⟩

theorem adds_skip : Adds skip fun (made : Log α) status => made = [] ∧ status = true :=
  fun log => ⟨[], true, by rw [List.append_nil]; rfl, rfl, rfl⟩

theorem adds_exit : Adds exit fun (made : Log α) status => made = [] ∧ status = false :=
  fun log => ⟨[], false, by rw [List.append_nil]; rfl, rfl, rfl⟩

/-- A status that is not looked at. -/
theorem Adds.orTrue (h : Adds c T) : Adds (orTrue c) fun made status =>
    status = true ∧ ∃ answer, T made answer := by
  intro log
  obtain ⟨made, status, heq, hT⟩ := h log
  refine ⟨made, true, ?_, rfl, status, hT⟩
  rw [Script.orTrue, heq]

theorem Adds.negate (h : Adds c T) : Adds (negate c) fun made status => T made (!status) := by
  intro log
  obtain ⟨made, status, heq, hT⟩ := h log
  refine ⟨made, !status, ?_, ?_⟩
  · rw [Script.negate, heq]
  · dsimp only
    rwa [Bool.not_not]

theorem adds_nil : Adds (chain []) fun (made : Log α) status => made = [] ∧ status = true :=
  adds_skip

/-- **The rule of a chain**: it ends with the first command that fails. -/
theorem Adds.cons (h : Adds c T) (hcs : Adds (chain cs) U) : Adds (chain (c :: cs))
    fun made status => status = false ∧ T made false ∨
      ∃ first rest, made = first ++ rest ∧ T first true ∧ U rest status := by
  intro log
  obtain ⟨first, status, heq, hT⟩ := h log
  cases status with
  | false =>
      refine ⟨first, false, ?_, Or.inl ⟨rfl, hT⟩⟩
      rw [chain, heq]
      rfl
  | true =>
      obtain ⟨rest, status, heq', hU⟩ := hcs (log ++ first)
      refine ⟨first ++ rest, status, ?_, Or.inr ⟨first, rest, rfl, hT, hU⟩⟩
      rw [chain, heq, if_pos rfl, heq', List.append_assoc]

/-- **The rule of a condition.** -/
theorem Adds.branch (h : Adds c T) (hbody : Adds c' U) (hother : Adds c'' V) :
    Adds (branch c c' c'') fun made status => ∃ first rest, made = first ++ rest ∧
      (T first true ∧ U rest status ∨ T first false ∧ V rest status) := by
  intro log
  obtain ⟨first, found, heq, hT⟩ := h log
  rw [Script.branch, heq]
  cases found with
  | true =>
      obtain ⟨rest, status, heq', hU⟩ := hbody (log ++ first)
      refine ⟨first ++ rest, status, ?_, first, rest, rfl, Or.inl ⟨hT, hU⟩⟩
      rw [if_pos rfl, heq', List.append_assoc]
  | false =>
      obtain ⟨rest, status, heq', hV⟩ := hother (log ++ first)
      refine ⟨first ++ rest, status, ?_, first, rest, rfl, Or.inr ⟨hT, hV⟩⟩
      rw [if_neg Bool.false_ne_true, heq', List.append_assoc]

end Rules

/-! ### Calls in a row -/

/-- Calls that all succeeded. -/
def all (cs : List α) : Log α := cs.map fun c => (c, true)

/-- Some of the calls, up to one that failed. -/
def Cut (cs : List α) (made : Log α) : Prop :=
  ∃ done c rest, cs = done ++ c :: rest ∧ made = all done ++ [(c, false)]

theorem Cut.cons {cs : List α} {made : Log α} (h : Cut cs made) (c : α) :
    Cut (c :: cs) ((c, true) :: made) := by
  obtain ⟨done, last, rest, rfl, rfl⟩ := h
  exact ⟨c :: done, last, rest, rfl, rfl⟩

theorem cut_cons_iff {c : α} {cs : List α} {made : Log α} :
    Cut (c :: cs) made ↔ made = [(c, false)] ∨ ∃ rest, made = (c, true) :: rest ∧ Cut cs rest := by
  constructor
  · rintro ⟨done, last, rest, heq, rfl⟩
    cases done with
    | nil =>
        obtain ⟨rfl, -⟩ := List.cons.inj heq
        exact Or.inl rfl
    | cons first done =>
        obtain ⟨rfl, hcs⟩ := List.cons.inj heq
        exact Or.inr ⟨_, rfl, done, last, rest, hcs, rfl⟩
  · rintro (rfl | ⟨rest, rfl, hcut⟩)
    · exact ⟨[], c, cs, rfl, rfl⟩
    · exact hcut.cons c

/-- **Calls that must succeed**: all are made, or they end with one that fails. -/
theorem adds_calls (world : World α) (cs : List α) :
    Adds (chain (cs.map (call world))) fun made status =>
      status = true ∧ made = all cs ∨ status = false ∧ Cut cs made := by
  induction cs with
  | nil => exact adds_nil.mono fun made status h => Or.inl ⟨h.2, h.1⟩
  | cons c cs ih =>
      refine ((adds_call world c).cons ih).mono ?_
      rintro made status (⟨hstatus, rfl⟩ | ⟨first, rest, rfl, rfl, hrest⟩)
      · exact Or.inr ⟨hstatus, cut_cons_iff.2 (Or.inl rfl)⟩
      · rcases hrest with ⟨hstatus, rfl⟩ | ⟨hstatus, hcut⟩
        · exact Or.inl ⟨hstatus, rfl⟩
        · exact Or.inr ⟨hstatus, hcut.cons c⟩

/-- Calls that must succeed, and commands after them. -/
theorem adds_calls_append {world : World α} (cs : List α) {ds : List (Command (Log α))}
    {U : Log α → Bool → Prop} (hds : Adds (chain ds) U) :
    Adds (chain (cs.map (call world) ++ ds)) fun made status =>
      status = false ∧ Cut cs made ∨ ∃ rest, made = all cs ++ rest ∧ U rest status := by
  rw [← Script.chain_chain]
  refine ((adds_calls world cs).cons hds).mono ?_
  rintro made status (⟨rfl, hcalls⟩ | ⟨first, rest, rfl, hcalls, hrest⟩)
  · exact Or.inl ⟨rfl, (hcalls.resolve_left fun h => Bool.noConfusion h.1).2⟩
  · obtain ⟨-, rfl⟩ := hcalls.resolve_right fun h => Bool.noConfusion h.1
    exact Or.inr ⟨rest, rfl, hrest⟩

/-- A call whose answer is not looked at, and commands after it. -/
theorem adds_ignored_cons (world : World α) (c : α) {ds : List (Command (Log α))}
    {U : Log α → Bool → Prop} (hds : Adds (chain ds) U) :
    Adds (chain (orTrue (call world c) :: ds)) fun made status =>
      ∃ answer rest, made = (c, answer) :: rest ∧ U rest status := by
  refine ((adds_call world c).orTrue.cons hds).mono ?_
  rintro made status (⟨-, hfalse, -⟩ | ⟨first, rest, rfl, ⟨-, answer, rfl⟩, hrest⟩)
  · cases hfalse
  · exact ⟨answer, rest, rfl, hrest⟩

/-! ### Looks -/

/-- A call whose answer is expected. -/
def expect (world : World α) (expected : α × Bool) : Command (Log α) :=
  if expected.2 = true then call world expected.1 else negate (call world expected.1)

/-- Some of the expected answers, up to one that is another. -/
def Miss (expected : Log α) (made : Log α) : Prop :=
  ∃ done c answer rest, expected = done ++ (c, answer) :: rest ∧ made = done ++ [(c, !answer)]

/-- So many looks that miss, with a pause after each of them. -/
inductive Missed (pause : α) (expected : Log α) : ℕ → Log α → Prop where
  | zero : Missed pause expected 0 []
  | succ {tries : ℕ} {round looks : Log α} (h : Miss expected round) (answer : Bool)
      (rest : Missed pause expected tries looks) :
      Missed pause expected (tries + 1) (round ++ (pause, answer) :: looks)

/-- The calls of looks are pauses and calls of which an answer is expected. -/
theorem Missed.calls {pause : α} {expected : Log α} {tries : ℕ} {looks : Log α}
    (h : Missed pause expected tries looks) :
    ∀ entry ∈ looks, entry.1 = pause ∨ entry.1 ∈ expected.map Prod.fst := by
  induction h with
  | zero => exact List.forall_mem_nil _
  | succ hmiss answer _ ih =>
      obtain ⟨done, c, expectation, rest, rfl, rfl⟩ := hmiss
      intro entry hentry
      simp only [List.mem_append, List.mem_cons, List.not_mem_nil, or_false] at hentry
      rcases hentry with (hdone | rfl) | rfl | hlooks
      · exact Or.inr (List.mem_map_of_mem (List.mem_append_left _ hdone))
      · exact Or.inr (by simp)
      · exact Or.inl rfl
      · exact ih entry hlooks

theorem adds_one (world : World α) (c : α) (answer : Bool) :
    Adds (expect world (c, answer)) fun made status =>
      status = true ∧ made = [(c, answer)] ∨ status = false ∧ made = [(c, !answer)] := by
  cases answer with
  | true =>
      refine (adds_call world c).mono ?_
      rintro made status rfl
      cases status with
      | true => exact Or.inl ⟨rfl, rfl⟩
      | false => exact Or.inr ⟨rfl, rfl⟩
  | false =>
      refine (adds_call world c).negate.mono ?_
      rintro made status rfl
      cases status with
      | true => exact Or.inl ⟨rfl, rfl⟩
      | false => exact Or.inr ⟨rfl, rfl⟩

/-- **Calls whose answers are expected.** -/
theorem adds_expect (world : World α) (expected : Log α) :
    Adds (chain (expected.map (expect world))) fun made status =>
      status = true ∧ made = expected ∨ status = false ∧ Miss expected made := by
  induction expected with
  | nil => exact adds_nil.mono fun made status h => Or.inl ⟨h.2, h.1⟩
  | cons first expected ih =>
      obtain ⟨c, answer⟩ := first
      refine ((adds_one world c answer).cons ih).mono ?_
      rintro made status (⟨rfl, hfirst⟩ | ⟨first, rest, rfl, hfirst, hrest⟩)
      · obtain ⟨-, rfl⟩ := hfirst.resolve_left fun h => Bool.noConfusion h.1
        exact Or.inr ⟨rfl, [], c, answer, expected, rfl, rfl⟩
      · obtain ⟨-, rfl⟩ := hfirst.resolve_right fun h => Bool.noConfusion h.1
        rcases hrest with ⟨rfl, rfl⟩ | ⟨rfl, done, c', answer', rest', rfl, rfl⟩
        · exact Or.inl ⟨rfl, rfl⟩
        · exact Or.inr ⟨rfl, (c, answer) :: done, c', answer', rest', rfl, rfl⟩

/-- A loop that looks a number of times, with a pause after each look. -/
def waitFor (world : World α) (pause : α) (look : Command (Log α)) : ℕ → Command (Log α)
  | 0 => exit
  | tries + 1 => branch look skip fun log =>
      waitFor world pause look tries (call world pause log).1

/-- **A loop finds what is expected after some looks, or gives up after all of them.** -/
theorem adds_waitFor (world : World α) (pause : α) {look : Command (Log α)} {expected : Log α}
    (hlook : Adds look fun made status =>
      status = true ∧ made = expected ∨ status = false ∧ Miss expected made) (tries : ℕ) :
    Adds (waitFor world pause look tries) fun made status =>
      (status = true ∧ ∃ looked < tries, ∃ looks, Missed pause expected looked looks ∧
        made = looks ++ expected) ∨ status = false ∧ Missed pause expected tries made := by
  induction tries with
  | zero =>
      refine adds_exit.mono ?_
      rintro made status ⟨rfl, rfl⟩
      exact Or.inr ⟨rfl, .zero⟩
  | succ tries ih =>
      have hother : Adds (fun log => waitFor world pause look tries (call world pause log).1)
          fun made status => ∃ answer rest, made = (pause, answer) :: rest ∧
            ((status = true ∧ ∃ looked < tries, ∃ looks, Missed pause expected looked looks ∧
              rest = looks ++ expected) ∨ status = false ∧ Missed pause expected tries rest) := by
        intro log
        obtain ⟨rest, status, heq, hrest⟩ := ih (call world pause log).1
        refine ⟨(pause, world log pause) :: rest, status, ?_, _, rest, rfl, hrest⟩
        have hsplit : log ++ (pause, world log pause) :: rest =
            (call world pause log).1 ++ rest := by
          rw [call, List.append_assoc]
          rfl
        rw [hsplit]
        exact heq
      refine (hlook.branch adds_skip hother).mono ?_
      rintro made status ⟨first, rest, rfl, ⟨hfirst, rfl, rfl⟩ | ⟨hfirst, answer, rest, rfl, hrest⟩⟩
      · obtain ⟨-, rfl⟩ := hfirst.resolve_right fun h => Bool.noConfusion h.1
        exact Or.inl ⟨rfl, 0, Nat.succ_pos tries, [], .zero, List.append_nil _⟩
      · obtain ⟨-, hmiss⟩ := hfirst.resolve_left fun h => Bool.noConfusion h.1
        rcases hrest with ⟨rfl, looked, hlt, looks, hmissed, rfl⟩ | ⟨rfl, hmissed⟩
        · refine Or.inl ⟨rfl, looked + 1, Nat.succ_lt_succ hlt, _, .succ hmiss answer hmissed, ?_⟩
          rw [List.append_assoc]
          rfl
        · exact Or.inr ⟨rfl, .succ hmiss answer hmissed⟩

end CallLog
