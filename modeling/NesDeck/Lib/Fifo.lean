/-
**Queues that drop their oldest entries.**

A bounded queue under a producer that never waits: an entry that finds the queue full pushes the
oldest one out.  `Fifo.Log` keeps, next to the queued entries, everything that was ever pushed and
the fate of every entry that is no longer queued, so that "nothing is lost, duplicated or
reordered" is one equation between lists, and it holds along every run.

Main definitions:

* `Fifo.Fate` — how an entry leaves the queue;
* `Fifo.Log` — a queue with its history;
* `Fifo.Log.step` — one push or one take;
* `Fifo.Log.Valid` — **the history is the departed entries followed by the queued ones**.

Main results:

* `Fifo.Log.valid_step`, `Fifo.Log.valid_run` — the invariant of a step and of a run;
* `Fifo.Log.Valid.length_pushed` — every entry is queued, taken or dropped.
-/

import Mathlib.Tactic.Common

set_option relaxedAutoImplicit false
set_option autoImplicit false

namespace Fifo

variable {α : Type*}

/-! ### Queues with a history -/

/-- How an entry leaves the queue. -/
inductive Fate where
  | taken
  | dropped
  deriving DecidableEq

/-- A queue with everything that ever happened to it. -/
structure Log (α : Type*) where
  /-- Everything that was pushed, in order. -/
  pushed : List α
  /-- What left the queue, in the order in which it left, with the way it went. -/
  departed : List (Fate × α)
  /-- What is still queued, the oldest first. -/
  pending : List α

/-- What a producer and a consumer do. -/
inductive Event (α : Type*) where
  | push (entries : List α)
  | take (count : ℕ)

namespace Log

/-- The queue before its first event. -/
def empty : Log α := ⟨[], [], []⟩

/-- The entries that left the queue in one way. -/
def having (log : Log α) (fate : Fate) : List α :=
  (log.departed.filter fun entry => entry.1 = fate).map Prod.snd

/-- The oldest entries leave the queue. -/
def depart (log : Log α) (fate : Fate) (count : ℕ) : Log α where
  pushed := log.pushed
  departed := log.departed ++ (log.pending.take count).map (fate, ·)
  pending := log.pending.drop count

/-- New entries arrive. -/
def append (log : Log α) (entries : List α) : Log α :=
  { log with pushed := log.pushed ++ entries, pending := log.pending ++ entries }

/-- One event on a queue with room for `capacity` entries: a push drops what is too much. -/
def step (capacity : ℕ) (log : Log α) : Event α → Log α
  | .push entries =>
      (log.append entries).depart .dropped ((log.pending ++ entries).length - capacity)
  | .take count => log.depart .taken count

/-- A run from the empty queue. -/
def run (capacity : ℕ) (events : List (Event α)) : Log α := events.foldl (step capacity) empty

/-! ### The invariant -/

/-- The history is the departed entries followed by the queued ones, of which there are at most
`capacity`. -/
structure Valid (capacity : ℕ) (log : Log α) : Prop where
  history : log.pushed = log.departed.map Prod.snd ++ log.pending
  bounded : log.pending.length ≤ capacity

theorem valid_empty (capacity : ℕ) : Valid capacity (empty : Log α) where
  history := rfl
  bounded := Nat.zero_le _

theorem history_append {log : Log α} (h : log.pushed = log.departed.map Prod.snd ++ log.pending)
    (entries : List α) :
    (log.append entries).pushed =
      (log.append entries).departed.map Prod.snd ++ (log.append entries).pending := by
  simp only [append, h, List.append_assoc]

theorem history_depart {log : Log α} (h : log.pushed = log.departed.map Prod.snd ++ log.pending)
    (fate : Fate) (count : ℕ) :
    (log.depart fate count).pushed =
      (log.depart fate count).departed.map Prod.snd ++ (log.depart fate count).pending := by
  have hsnd : ((log.pending.take count).map (fate, ·)).map Prod.snd = log.pending.take count := by
    rw [List.map_map]
    exact List.map_id _
  simp only [depart, List.map_append, hsnd, List.append_assoc, List.take_append_drop, h]

/-- **One event keeps the invariant.** -/
theorem valid_step {capacity : ℕ} {log : Log α} (h : log.Valid capacity) (event : Event α) :
    (log.step capacity event).Valid capacity := by
  cases event with
  | push entries =>
      refine ⟨history_depart (history_append h.history entries) _ _, ?_⟩
      simp only [step, depart, append, List.length_drop]
      omega
  | take count =>
      refine ⟨history_depart h.history _ _, ?_⟩
      have := h.bounded
      simp only [step, depart, List.length_drop]
      omega

/-- **Every run keeps the invariant.** -/
theorem valid_run (capacity : ℕ) (events : List (Event α)) :
    (run capacity events).Valid capacity := by
  rw [run]
  suffices h : ∀ log : Log α, log.Valid capacity →
      (events.foldl (step capacity) log).Valid capacity from h empty (valid_empty capacity)
  intro log hlog
  induction events generalizing log with
  | nil => exact hlog
  | cons event events ih => exact ih _ (valid_step hlog event)

/-! ### Counting -/

theorem having_depart (log : Log α) (fate : Fate) (count : ℕ) :
    (log.depart fate count).having fate = log.having fate ++ log.pending.take count := by
  have hall : ((log.pending.take count).map (fate, ·)).filter (fun entry => entry.1 = fate) =
      (log.pending.take count).map (fate, ·) := by
    rw [List.filter_eq_self]
    intro entry hentry
    obtain ⟨a, -, rfl⟩ := List.mem_map.1 hentry
    exact decide_eq_true rfl
  rw [having, having, depart, List.filter_append, hall, List.map_append, List.map_map]
  exact congrArg _ (List.map_id _)

theorem having_depart_of_ne (log : Log α) {fate fate' : Fate} (h : fate' ≠ fate) (count : ℕ) :
    (log.depart fate' count).having fate = log.having fate := by
  have hnone : ((log.pending.take count).map (fate', ·)).filter (fun entry => entry.1 = fate) =
      [] := by
    rw [List.filter_eq_nil_iff]
    intro entry hentry
    obtain ⟨a, -, rfl⟩ := List.mem_map.1 hentry
    simp [h]
  rw [having, having, depart, List.filter_append, hnone, List.append_nil]

@[simp] theorem having_append (log : Log α) (entries : List α) (fate : Fate) :
    (log.append entries).having fate = log.having fate := rfl

/-- An entry leaves the queue in one of the two ways. -/
theorem length_departed (log : Log α) :
    log.departed.length = (log.having .taken).length + (log.having .dropped).length := by
  rw [having, having, List.length_map, List.length_map]
  induction log.departed with
  | nil => rfl
  | cons entry departed ih =>
      rcases entry with ⟨fate, a⟩
      cases fate with
      | taken =>
          simp only [List.length_cons, List.filter_cons, decide_true, reduceCtorEq, decide_false,
            if_true, Bool.false_eq_true, if_false, ih]
          omega
      | dropped =>
          simp only [List.length_cons, List.filter_cons, decide_true, reduceCtorEq, decide_false,
            if_true, Bool.false_eq_true, if_false, ih]
          omega

/-- **Every entry is taken, queued or dropped**, and none in two ways. -/
theorem Valid.length_pushed {capacity : ℕ} {log : Log α} (h : log.Valid capacity) :
    log.pushed.length =
      (log.having .taken).length + log.pending.length + (log.having .dropped).length := by
  rw [h.history, List.length_append, List.length_map, length_departed]
  omega

end Log

end Fifo
