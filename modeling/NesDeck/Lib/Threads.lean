/-
**Threads that share a state.**

A pool has a shared state and the threads that are running, each with what it has left to do.  A new
thread starts, or any thread takes one section: it sees the shared state, gets an answer from the
outside, and leaves another shared state and what it has to do next, or is done.  Sections are
atomic; in which order the threads take theirs is left open.

Main definitions:

* `Threads.Pool`, `Threads.react` — a pool, and one section of one thread;
* `Threads.Exclusive` — the threads that hold a gate are as many as the gate says, at most one;
* `Threads.Guarded` — what a section does to the gate;
* `Threads.Kept` — a rule that every entry of a log keeps with what came before it.

Main results:

* `Threads.react_spec` — what one event does, whatever the order in which threads are listed;
* `Threads.invariant` — **what every start and every section keep holds in every run**;
* `Threads.Exclusive.rest` — while a thread holds the gate, no other one does;
* `Threads.gated_invariant` — **a property of the shared state and one of every thread**, which the
  sections of the others do not disturb.
-/

import Mathlib.Data.List.Perm.Basic
import NesDeck.Lib.Run

set_option relaxedAutoImplicit false
set_option autoImplicit false

namespace Threads

variable {σ τ ρ α : Type}

/-- The shared state, and the threads that are running. -/
structure Pool (σ τ : Type) where
  shared : σ
  threads : List τ

/-- A new thread, or the next section of the thread with some index. -/
inductive Event (ρ α : Type) where
  | spawn (request : ρ)
  | advance (index : ℕ) (answer : α)

/-- What the threads do: where a new one starts, and what a section leaves. -/
structure Program (σ τ ρ α : Type) where
  start : ρ → τ
  run : σ → τ → α → σ × Option τ

/-- One event; a thread that does not exist does nothing. -/
def react (program : Program σ τ ρ α) (pool : Pool σ τ) : Event ρ α → Pool σ τ
  | .spawn request => { pool with threads := program.start request :: pool.threads }
  | .advance index answer =>
      match pool.threads[index]? with
      | none => pool
      | some thread =>
          let (shared, next) := program.run pool.shared thread answer
          ⟨shared, next.toList ++ pool.threads.eraseIdx index⟩

/-- A thread that starts, a section of one of the threads, or nothing at all. -/
theorem react_spec (program : Program σ τ ρ α) (pool : Pool σ τ) (event : Event ρ α) :
    (∃ request, react program pool event = ⟨pool.shared, program.start request :: pool.threads⟩) ∨
      (∃ thread rest answer, pool.threads.Perm (thread :: rest) ∧
        react program pool event =
          ⟨(program.run pool.shared thread answer).1,
            (program.run pool.shared thread answer).2.toList ++ rest⟩) ∨
      react program pool event = pool := by
  cases event with
  | spawn request => exact Or.inl ⟨request, rfl⟩
  | advance index answer =>
      cases hthread : pool.threads[index]? with
      | none =>
          refine Or.inr (Or.inr ?_)
          rw [react, hthread]
      | some thread =>
          obtain ⟨hlt, hget⟩ := List.getElem?_eq_some_iff.1 hthread
          refine Or.inr (Or.inl ⟨thread, pool.threads.eraseIdx index, answer, ?_, ?_⟩)
          · rw [← hget]
            exact (List.getElem_cons_eraseIdx_perm hlt).symm
          · rw [react, hthread]

/-! ### Invariants -/

section Invariants

variable {program : Program σ τ ρ α}

/-- **What every start and every section keep holds in every run**, where it does not depend on the
order of the threads. -/
theorem invariant {I : σ → List τ → Prop}
    (hperm : ∀ shared threads threads', threads.Perm threads' → I shared threads →
      I shared threads')
    (hspawn : ∀ shared threads request, I shared threads →
      I shared (program.start request :: threads))
    (hrun : ∀ shared thread rest answer, I shared (thread :: rest) →
      I (program.run shared thread answer).1 ((program.run shared thread answer).2.toList ++ rest))
    {pool : Pool σ τ} (h : I pool.shared pool.threads) (events : List (Event ρ α)) :
    I (events.foldl (react program) pool).shared (events.foldl (react program) pool).threads := by
  refine Run.invariant (I := fun pool : Pool σ τ => I pool.shared pool.threads) ?_ h events
  intro pool event hpool
  rcases react_spec program pool event with
    ⟨request, hreact⟩ | ⟨thread, rest, answer, hthreads, hreact⟩ | hreact
  · rw [hreact]
    exact hspawn _ _ request hpool
  · rw [hreact]
    exact hrun _ thread rest answer (hperm _ _ _ hthreads hpool)
  · rw [hreact]
    exact hpool

end Invariants

/-! ### A gate for one thread -/

section Gate

variable {holds : τ → Bool} {threads : List τ}

section Count

variable {taken : Bool}

/-- A gate is taken by one thread, or it is free. -/
def Exclusive (holds : τ → Bool) (taken : Bool) (threads : List τ) : Prop :=
  threads.countP holds = if taken = true then 1 else 0

theorem Exclusive.perm {threads' : List τ} (hperm : threads.Perm threads')
    (h : Exclusive holds taken threads) : Exclusive holds taken threads' := by
  rw [Exclusive, ← hperm.countP_eq]
  exact h

/-- A thread that has nothing to do with the gate may come or go. -/
theorem exclusive_cons {thread : τ} (h : holds thread = false) :
    Exclusive holds taken (thread :: threads) ↔ Exclusive holds taken threads := by
  rw [Exclusive, Exclusive, List.countP_cons_of_neg (by simp [h])]

/-- **While a thread holds the gate, no other one does**, and the gate is taken. -/
theorem Exclusive.rest {thread : τ} (h : Exclusive holds taken (thread :: threads))
    (hthread : holds thread = true) :
    taken = true ∧ ∀ other ∈ threads, holds other = false := by
  rw [Exclusive, List.countP_cons_of_pos hthread] at h
  cases taken with
  | false => simp at h
  | true =>
      refine ⟨rfl, ?_⟩
      have hnone : threads.countP holds = 0 := by simpa using h
      intro other hother
      simpa using List.countP_eq_zero.1 hnone other hother

/-- A free gate is held by no thread. -/
theorem Exclusive.free (h : Exclusive holds false threads) :
    ∀ other ∈ threads, holds other = false := by
  intro other hother
  simpa using List.countP_eq_zero.1 h other hother

/-- The gate is taken, and given back. -/
theorem exclusive_of_rest {thread : τ} (hthread : holds thread = true)
    (hrest : ∀ other ∈ threads, holds other = false) :
    Exclusive holds true (thread :: threads) ∧ Exclusive holds false threads := by
  have hnone : threads.countP holds = 0 := by
    rw [List.countP_eq_zero]
    intro other hother
    simp [hrest other hother]
  refine ⟨?_, hnone⟩
  rw [Exclusive, List.countP_cons_of_pos hthread, hnone]
  rfl

end Count

/-- A section takes the gate only when it is free, and only the thread that has it gives it back. -/
def Guarded (holds : τ → Bool) (taken : σ → Bool) (shared : σ) (thread : τ)
    (result : σ × Option τ) : Prop :=
  if holds thread = true then taken shared = true → taken result.1 = result.2.any holds
  else if result.2.any holds = true then taken shared = false ∧ taken result.1 = true
  else taken result.1 = taken shared

variable {program : Program σ τ ρ α} {taken : σ → Bool}

/-- The next section of a thread keeps the gate for one thread. -/
theorem exclusive_run {shared : σ} {thread : τ} {answer : α} {rest : List τ}
    (hguard : Guarded holds taken shared thread (program.run shared thread answer))
    (h : Exclusive holds (taken shared) (thread :: rest)) :
    Exclusive holds (taken (program.run shared thread answer).1)
      ((program.run shared thread answer).2.toList ++ rest) := by
  have hnext : ∀ {gate : Bool}, (program.run shared thread answer).2.any holds = false →
      (Exclusive holds gate ((program.run shared thread answer).2.toList ++ rest) ↔
        Exclusive holds gate rest) := by
    intro gate hany
    cases hrun : (program.run shared thread answer).2 with
    | none => rfl
    | some next =>
        rw [hrun, Option.any_some] at hany
        exact exclusive_cons hany
  cases hholds : holds thread with
  | true =>
      obtain ⟨htaken, hrest⟩ := h.rest hholds
      rw [Guarded, if_pos hholds] at hguard
      have hgate := hguard htaken
      obtain ⟨-, hfree⟩ := exclusive_of_rest hholds hrest
      cases hany : (program.run shared thread answer).2.any holds with
      | false =>
          rw [hgate, hany, hnext hany]
          exact hfree
      | true =>
          obtain ⟨next, hrun, hself⟩ := (Option.any_eq_true _ _).1 hany
          rw [hgate, hany, hrun]
          exact (exclusive_of_rest hself hrest).1
  | false =>
      rw [Guarded, if_neg (by simp [hholds])] at hguard
      have hrest := (exclusive_cons hholds).1 h
      cases hany : (program.run shared thread answer).2.any holds with
      | false =>
          rw [if_neg (by simp [hany])] at hguard
          rw [hguard, hnext hany]
          exact hrest
      | true =>
          rw [if_pos hany] at hguard
          obtain ⟨next, hrun, hself⟩ := (Option.any_eq_true _ _).1 hany
          rw [hguard.2, hrun]
          rw [hguard.1] at hrest
          exact (exclusive_of_rest hself hrest.free).1

/-- **A property of the shared state, and one of every thread**, hold in every run where the
sections of a thread keep both and do not disturb the other threads; of two threads one at least is
outside of the gate. -/
theorem gated_invariant {J : σ → Prop} {K : σ → τ → Prop}
    (hspawn : ∀ shared request, J shared →
      holds (program.start request) = false ∧ K shared (program.start request))
    (hguard : ∀ shared thread answer, J shared → K shared thread →
      Guarded holds taken shared thread (program.run shared thread answer))
    (hrun : ∀ shared thread answer, J shared → K shared thread →
      J (program.run shared thread answer).1 ∧
        ∀ next, (program.run shared thread answer).2 = some next →
          K (program.run shared thread answer).1 next)
    (hstable : ∀ shared thread answer other, (holds thread = true → holds other = false) →
      J shared → K shared thread → K shared other → K (program.run shared thread answer).1 other)
    {pool : Pool σ τ} (hgate : Exclusive holds (taken pool.shared) pool.threads)
    (hshared : J pool.shared) (hthreads : ∀ thread ∈ pool.threads, K pool.shared thread)
    (events : List (Event ρ α)) :
    Exclusive holds (taken (events.foldl (react program) pool).shared)
        (events.foldl (react program) pool).threads ∧
      J (events.foldl (react program) pool).shared ∧
        ∀ thread ∈ (events.foldl (react program) pool).threads,
          K (events.foldl (react program) pool).shared thread := by
  refine invariant (I := fun shared threads => Exclusive holds (taken shared) threads ∧ J shared ∧
    ∀ thread ∈ threads, K shared thread) ?_ ?_ ?_ ⟨hgate, hshared, hthreads⟩ events
  · rintro shared threads threads' hperm ⟨hgate, hshared, hthreads⟩
    exact ⟨hgate.perm hperm, hshared, fun thread hthread =>
      hthreads thread (hperm.mem_iff.2 hthread)⟩
  · rintro shared threads request ⟨hgate, hshared, hthreads⟩
    obtain ⟨hholds, hthread⟩ := hspawn shared request hshared
    exact ⟨(exclusive_cons hholds).2 hgate, hshared, List.forall_mem_cons.2 ⟨hthread, hthreads⟩⟩
  · rintro shared thread rest answer ⟨hgate, hshared, hthreads⟩
    obtain ⟨hthread, hrest⟩ := List.forall_mem_cons.1 hthreads
    obtain ⟨hnext, hself⟩ := hrun shared thread answer hshared hthread
    refine ⟨exclusive_run (hguard shared thread answer hshared hthread) hgate, hnext, ?_⟩
    intro other hother
    rcases List.mem_append.1 hother with hsame | hother
    · exact hself other (Option.mem_toList.1 hsame)
    · refine hstable shared thread answer other ?_ hshared hthread (hrest other hother)
      intro hholds
      exact (hgate.rest hholds).2 other hother

end Gate

/-! ### Logs -/

section Logs

variable {ε : Type} {rule : List ε → ε → Prop}

/-- Every entry keeps the rule, with what came before it; the last entry is the first of the log. -/
def Kept (rule : List ε → ε → Prop) : List ε → Prop
  | [] => True
  | entry :: log => rule log entry ∧ Kept rule log

/-- **`Kept` speaks of every entry with what came before it.** -/
theorem keeps_iff {log : List ε} :
    Kept rule log ↔ ∀ later entry earlier, log = later ++ entry :: earlier →
      rule earlier entry := by
  induction log with
  | nil => simp [Kept]
  | cons first log ih =>
      rw [Kept, ih]
      constructor
      · rintro ⟨hfirst, h⟩ later entry earlier heq
        cases later with
        | nil =>
            obtain ⟨rfl, rfl⟩ := List.cons.inj heq
            exact hfirst
        | cons _ later => exact h later entry earlier (List.cons.inj heq).2
      · intro h
        refine ⟨h [] first log rfl, ?_⟩
        intro later entry earlier heq
        exact h (first :: later) entry earlier (by rw [heq]; rfl)

end Logs

end Threads
