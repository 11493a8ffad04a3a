/-
**The guard against bursts of controller input.**

A faulty game controller can report presses without end.  The menu admits at most twelve edges of
controller input in a second; the thirteenth suspends the controllers until no edge has come for a
second.  The times are those of a monotonic clock in milliseconds.

Main definitions:

* `NesDeck.ControllerGuard.MenuControllerInputGuard` — the guard, with `acceptEdge` and
  `recoverIfQuiet`;
* `NesDeck.ControllerGuard.Call` — a call on the guard;
* `NesDeck.ControllerGuard.run`, `NesDeck.ControllerGuard.accepted` — a sequence of calls, and the
  edges that it admits.

Main results:

* `NesDeck.ControllerGuard.inv_run` — what the guard remembers of a sequence of calls;
* `NesDeck.ControllerGuard.recovers_of_suspended` — a suspension ends with a quiet second;
* `NesDeck.ControllerGuard.guard_law` — **no second has more than twelve edges, a suspension lasts
  until a quiet second, and nothing else is refused**.
-/

import Mathlib.Data.List.Induction
import NesDeck.Lib.SlidingWindow

set_option relaxedAutoImplicit false
set_option autoImplicit false

namespace NesDeck.ControllerGuard

open SlidingWindow (count expire)

def kMenuControllerBurstLimit : ℕ := 12

def kMenuControllerBurstWindowMs : ℤ := 1000

def kMenuControllerQuietResetMs : ℤ := 1000

/-! ### The guard -/

structure MenuControllerInputGuard where
  edgeTimes : List ℤ
  suspended : Bool
  lastEdgeAt : ℤ

namespace MenuControllerInputGuard

def start : MenuControllerInputGuard := ⟨[], false, -1⟩

def acceptEdge (self : MenuControllerInputGuard) (now : ℤ) : MenuControllerInputGuard × Bool :=
  if self.suspended = true then ({ self with lastEdgeAt := now }, false)
  else
    let edgeTimes := expire kMenuControllerBurstWindowMs now self.edgeTimes ++ [now]
    if edgeTimes.length ≤ kMenuControllerBurstLimit then (⟨edgeTimes, self.suspended, now⟩, true)
    else (⟨edgeTimes, true, now⟩, false)

def recoverIfQuiet (self : MenuControllerInputGuard) (now : ℤ) : MenuControllerInputGuard × Bool :=
  if self.suspended = false ∨ self.lastEdgeAt < 0 ∨
      now - self.lastEdgeAt < kMenuControllerQuietResetMs then (self, false)
  else ({ self with edgeTimes := [], suspended := false, lastEdgeAt := -1 }, true)

/-- The three ways in which an edge is answered. -/
theorem acceptEdge_cases (self : MenuControllerInputGuard) (now : ℤ) :
    (self.suspended = true ∧ acceptEdge self now = (⟨self.edgeTimes, true, now⟩, false)) ∨
      self.suspended = false ∧
        (((expire kMenuControllerBurstWindowMs now self.edgeTimes).length <
          kMenuControllerBurstLimit ∧
            acceptEdge self now =
              (⟨expire kMenuControllerBurstWindowMs now self.edgeTimes ++ [now], false, now⟩,
                true)) ∨
          kMenuControllerBurstLimit ≤
              (expire kMenuControllerBurstWindowMs now self.edgeTimes).length ∧
            acceptEdge self now =
              (⟨expire kMenuControllerBurstWindowMs now self.edgeTimes ++ [now], true, now⟩,
                false)) := by
  obtain ⟨edgeTimes, suspended, lastEdgeAt⟩ := self
  rw [acceptEdge]
  cases suspended with
  | true => exact Or.inl ⟨rfl, rfl⟩
  | false =>
      refine Or.inr ⟨rfl, ?_⟩
      dsimp only
      rw [if_neg Bool.false_ne_true, List.length_append, List.length_singleton]
      by_cases hroom : (expire kMenuControllerBurstWindowMs now edgeTimes).length + 1 ≤
          kMenuControllerBurstLimit
      · rw [if_pos hroom]
        exact Or.inl ⟨hroom, rfl⟩
      · rw [if_neg hroom]
        exact Or.inr ⟨by omega, rfl⟩

/-- The two ways in which a question for a recovery is answered. -/
theorem recoverIfQuiet_cases (self : MenuControllerInputGuard) (now : ℤ) :
    recoverIfQuiet self now = (self, false) ∨
      self.suspended = true ∧ self.lastEdgeAt + kMenuControllerQuietResetMs ≤ now ∧
        recoverIfQuiet self now = (start, true) := by
  rw [recoverIfQuiet]
  split
  · exact Or.inl rfl
  · next h =>
      rw [not_or, not_or, Bool.not_eq_false] at h
      exact Or.inr ⟨h.1, by omega, rfl⟩

end MenuControllerInputGuard

open MenuControllerInputGuard (acceptEdge acceptEdge_cases recoverIfQuiet recoverIfQuiet_cases)

/-! ### Sequences of calls -/

inductive Call where
  | acceptEdge (now : ℤ)
  | recoverIfQuiet (now : ℤ)

def Call.now : Call → ℤ
  | acceptEdge now => now
  | recoverIfQuiet now => now

/-- The time of an edge. -/
def Call.edge : Call → Option ℤ
  | acceptEdge now => some now
  | recoverIfQuiet _ => none

/-- The guard after a call, and the answer of the call. -/
def answer (self : MenuControllerInputGuard) : Call → MenuControllerInputGuard × Bool
  | .acceptEdge now => acceptEdge self now
  | .recoverIfQuiet now => recoverIfQuiet self now

/-- The guard after a sequence of calls. -/
def run (calls : List Call) : MenuControllerInputGuard :=
  calls.foldl (fun self call => (answer self call).1) .start

/-- The times of the edges that are admitted from a state on. -/
def acceptedFrom : MenuControllerInputGuard → List Call → List ℤ
  | _, [] => []
  | self, call :: calls =>
      (if (answer self call).2 = true then call.edge.toList else []) ++
        acceptedFrom (answer self call).1 calls

/-- The times of the edges that a new guard admits. -/
def accepted (calls : List Call) : List ℤ := acceptedFrom .start calls

/-- The times of all edges. -/
def edges (calls : List Call) : List ℤ := calls.filterMap Call.edge

/-- The times do not decrease. -/
def Monotonic (calls : List Call) : Prop := (calls.map Call.now).Pairwise (· ≤ ·)

instance (calls : List Call) : Decidable (Monotonic calls) :=
  inferInstanceAs (Decidable (List.Pairwise (· ≤ ·) _))

theorem run_concat (calls : List Call) (call : Call) :
    run (calls ++ [call]) = (answer (run calls) call).1 := by
  rw [run, List.foldl_append]
  rfl

theorem acceptedFrom_append (self : MenuControllerInputGuard) (calls later : List Call) :
    acceptedFrom self (calls ++ later) = acceptedFrom self calls ++
      acceptedFrom (calls.foldl (fun self call => (answer self call).1) self) later := by
  induction calls generalizing self with
  | nil => rfl
  | cons call calls ih =>
      rw [List.cons_append, acceptedFrom, acceptedFrom, ih, List.append_assoc]; rfl

theorem accepted_concat (calls : List Call) (call : Call) :
    accepted (calls ++ [call]) =
      accepted calls ++ if (answer (run calls) call).2 = true then call.edge.toList else [] := by
  rw [accepted, acceptedFrom_append, acceptedFrom, acceptedFrom, List.append_nil]
  rfl

theorem edges_concat (calls : List Call) (call : Call) :
    edges (calls ++ [call]) = edges calls ++ call.edge.toList := by
  rw [edges, List.filterMap_append]
  cases call <;> rfl

/-- Only edges are admitted. -/
theorem accepted_sublist_edges (calls : List Call) : (accepted calls).Sublist (edges calls) := by
  induction calls using List.reverseRecOn with
  | nil => exact List.Sublist.refl []
  | append_singleton calls call ih =>
      rw [accepted_concat, edges_concat]
      refine ih.append ?_
      split
      · exact List.Sublist.refl _
      · exact List.nil_sublist _

theorem edges_sublist_times (calls : List Call) : (edges calls).Sublist (calls.map Call.now) := by
  induction calls with
  | nil => exact List.Sublist.refl []
  | cons call calls ih =>
      cases call with
      | acceptEdge now => exact ih.cons_cons now
      | recoverIfQuiet now => exact ih.cons now

/-! ### What the guard remembers -/

/-- The edges that are admitted are within the limit; while the guard is not suspended it remembers
the ones that may still count; while it is, it knows the last edge. -/
structure Inv (calls : List Call) : Prop where
  bounded : ∀ start, count kMenuControllerBurstWindowMs start (accepted calls) ≤
    kMenuControllerBurstLimit
  remembers : (run calls).suspended = false → ∃ old, accepted calls = old ++ (run calls).edgeTimes ∧
    ∀ now, (∀ call ∈ calls, call.now ≤ now) → ∀ time ∈ old,
      time + kMenuControllerBurstWindowMs ≤ now
  lastEdge : (run calls).suspended = true → ∀ edge ∈ edges calls, edge ≤ (run calls).lastEdgeAt

theorem inv_nil : Inv [] := by
  refine ⟨fun start => Nat.zero_le _, fun _ => ⟨[], rfl, by simp⟩, ?_⟩
  intro h
  cases h

/-- What comes before a call is not later. -/
theorem Monotonic.le_last {calls : List Call} {call : Call} (h : Monotonic (calls ++ [call])) :
    Monotonic calls ∧ ∀ earlier ∈ calls, earlier.now ≤ call.now := by
  rw [Monotonic, List.map_append, List.pairwise_append] at h
  refine ⟨h.1, ?_⟩
  intro earlier hmem
  exact h.2.2 earlier.now (List.mem_map_of_mem hmem) call.now (by simp)

theorem le_of_mem_edges {calls : List Call} {now edge : ℤ} (h : ∀ call ∈ calls, call.now ≤ now)
    (hedge : edge ∈ edges calls) : edge ≤ now := by
  obtain ⟨call, hcall, rfl⟩ := List.mem_map.1 ((edges_sublist_times calls).subset hedge)
  exact h call hcall

/-- What the guard remembers is in order. -/
theorem pairwise_edgeTimes {calls : List Call} (hmonotonic : Monotonic calls) {old : List ℤ}
    (h : accepted calls = old ++ (run calls).edgeTimes) :
    (run calls).edgeTimes.Pairwise (· ≤ ·) := by
  have hsublist := (accepted_sublist_edges calls).trans (edges_sublist_times calls)
  rw [h] at hsublist
  exact hmonotonic.sublist ((List.sublist_append_right old _).trans hsublist)

/-- Where an edge is refused, the guard is suspended and knows the edge. -/
theorem inv_of_refused {calls : List Call} (h : Inv calls) {now : ℤ}
    (hle : ∀ call ∈ calls, call.now ≤ now) {edgeTimes : List ℤ}
    (hanswer : answer (run calls) (.acceptEdge now) = (⟨edgeTimes, true, now⟩, false)) :
    Inv (calls ++ [.acceptEdge now]) := by
  have hrun := run_concat calls (.acceptEdge now)
  have haccepted := accepted_concat calls (.acceptEdge now)
  rw [hanswer] at hrun haccepted
  rw [if_neg Bool.false_ne_true, List.append_nil] at haccepted
  refine ⟨haccepted ▸ h.bounded, ?_, ?_⟩
  · intro hactive
    rw [hrun] at hactive
    cases hactive
  · intro _
    rw [hrun, edges_concat, List.forall_mem_append]
    exact ⟨fun edge hedge => le_of_mem_edges hle hedge, by simp [Call.edge]⟩

/-- Where an edge is admitted, the times before the window are forgotten. -/
theorem inv_of_admitted {calls : List Call} (h : Inv calls) (hmonotonic : Monotonic calls) {now : ℤ}
    (hle : ∀ call ∈ calls, call.now ≤ now) (hactive : (run calls).suspended = false)
    (hroom : (expire kMenuControllerBurstWindowMs now (run calls).edgeTimes).length <
      kMenuControllerBurstLimit)
    (hanswer : answer (run calls) (.acceptEdge now) =
      (⟨expire kMenuControllerBurstWindowMs now (run calls).edgeTimes ++ [now], false, now⟩,
        true)) :
    Inv (calls ++ [.acceptEdge now]) := by
  have hrun := run_concat calls (.acceptEdge now)
  have haccepted := accepted_concat calls (.acceptEdge now)
  rw [hanswer] at hrun haccepted
  rw [if_pos rfl] at haccepted
  obtain ⟨old, hold, hexpired⟩ := h.remembers hactive
  obtain ⟨dropped, hsplit, hdropped, -⟩ :=
    SlidingWindow.expire_split kMenuControllerBurstWindowMs now (pairwise_edgeTimes hmonotonic hold)
  have hgone : ∀ time ∈ old ++ dropped, time + kMenuControllerBurstWindowMs ≤ now := by
    rw [List.forall_mem_append]
    exact ⟨hexpired now hle, hdropped⟩
  have hkeeps : accepted calls = old ++ dropped ++
      expire kMenuControllerBurstWindowMs now (run calls).edgeTimes := by
    rw [hold, List.append_assoc, ← hsplit]
  refine ⟨?_, fun _ => ⟨old ++ dropped, ?_, ?_⟩, ?_⟩
  · intro start
    have hbounded := h.bounded
    rw [hkeeps] at hbounded
    rw [haccepted, hkeeps]
    exact SlidingWindow.count_concat_le hbounded hgone hroom start
  · rw [haccepted, hkeeps, hrun, List.append_assoc]
    rfl
  · intro later hlater time htime
    have hnow := hlater (.acceptEdge now) (by simp)
    exact Int.le_trans (hgone time htime) hnow
  · intro hsuspended
    rw [hrun] at hsuspended
    cases hsuspended

/-- A recovery starts with an empty window. -/
theorem inv_of_recoverIfQuiet {calls : List Call} (h : Inv calls) (now : ℤ) :
    Inv (calls ++ [.recoverIfQuiet now]) := by
  have hrun := run_concat calls (.recoverIfQuiet now)
  have hnone : accepted (calls ++ [.recoverIfQuiet now]) = accepted calls := by
    rw [accepted_concat]
    simp [Call.edge]
  have hsame : edges (calls ++ [.recoverIfQuiet now]) = edges calls := by
    rw [edges_concat]
    simp [Call.edge]
  rw [answer] at hrun
  rcases recoverIfQuiet_cases (run calls) now with hanswer | ⟨hsuspended, hquiet, hanswer⟩
  · rw [hanswer] at hrun
    refine ⟨hnone ▸ h.bounded, ?_, ?_⟩
    · intro hactive
      rw [hrun] at hactive
      obtain ⟨old, hold, hexpired⟩ := h.remembers hactive
      refine ⟨old, by rw [hnone, hrun, hold], ?_⟩
      intro later hlater
      exact hexpired later fun earlier hmem => hlater earlier (List.mem_append_left _ hmem)
    · intro hsuspended
      rw [hrun] at hsuspended ⊢
      rw [hsame]
      exact h.lastEdge hsuspended
  · rw [hanswer] at hrun
    refine ⟨hnone ▸ h.bounded, fun _ => ⟨accepted calls, ?_, ?_⟩, ?_⟩
    · rw [hnone, hrun]
      exact (List.append_nil _).symm
    · -- every edge is a second before the recovery
      intro later hlater time htime
      have hedge := h.lastEdge hsuspended time ((accepted_sublist_edges calls).subset htime)
      have hnow : now ≤ later := hlater (.recoverIfQuiet now) (by simp)
      rw [kMenuControllerQuietResetMs] at hquiet
      rw [kMenuControllerBurstWindowMs]
      omega
    · intro hcontra
      rw [hrun] at hcontra
      cases hcontra

/-- One call. -/
theorem inv_concat {calls : List Call} (h : Inv calls) {call : Call}
    (hmonotonic : Monotonic (calls ++ [call])) : Inv (calls ++ [call]) := by
  obtain ⟨hbefore, hle⟩ := hmonotonic.le_last
  cases call with
  | acceptEdge now =>
      rcases acceptEdge_cases (run calls) now with
        ⟨-, hanswer⟩ | ⟨hactive, ⟨hroom, hanswer⟩ | ⟨-, hanswer⟩⟩
      · exact inv_of_refused h hle hanswer
      · exact inv_of_admitted h hbefore hle hactive hroom hanswer
      · exact inv_of_refused h hle hanswer
  | recoverIfQuiet now => exact inv_of_recoverIfQuiet h now

/-- **What the guard remembers of a sequence of calls.** -/
theorem inv_run {calls : List Call} (h : Monotonic calls) : Inv calls := by
  induction calls using List.reverseRecOn with
  | nil => exact inv_nil
  | append_singleton calls call ih => exact inv_concat (ih h.le_last.1) h

/-! ### The law -/

/-- **A suspension ends with a quiet second**: between a state in which the guard is suspended and
an edge that is admitted, a recovery comes a second after the last edge. -/
theorem recovers_of_suspended {before between : List Call}
    (hmonotonic : Monotonic (before ++ between))
    (hsuspended : (run before).suspended = true) {later : ℤ}
    (haccepted : (acceptEdge (run (before ++ between)) later).2 = true) :
    ∃ first quiet second, between = first ++ .recoverIfQuiet quiet :: second ∧
      ∀ edge ∈ edges (before ++ first), edge + kMenuControllerQuietResetMs ≤ quiet := by
  induction between generalizing before with
  | nil =>
      rw [List.append_nil, acceptEdge] at haccepted
      simp [hsuspended] at haccepted
  | cons call between ih =>
      have hassoc : before ++ call :: between = before ++ [call] ++ between := by simp
      rw [hassoc] at hmonotonic haccepted
      have hfirst : Monotonic (before ++ [call]) := by
        rw [Monotonic, List.map_append] at hmonotonic
        exact (List.pairwise_append.1 hmonotonic).1
      cases hstill : (run (before ++ [call])).suspended with
      | true =>
          obtain ⟨first, quiet, second, rfl, hquiet⟩ := ih hmonotonic hstill haccepted
          refine ⟨call :: first, quiet, second, rfl, ?_⟩
          rw [List.append_assoc] at hquiet
          exact hquiet
      | false =>
          -- only a recovery ends the suspension
          rw [run_concat] at hstill
          cases call with
          | acceptEdge now =>
              rw [answer, acceptEdge] at hstill
              simp [hsuspended] at hstill
          | recoverIfQuiet now =>
              rcases recoverIfQuiet_cases (run before) now with hanswer | ⟨-, hquiet, -⟩
              · rw [answer, hanswer, hsuspended] at hstill
                cases hstill
              · refine ⟨[], now, between, rfl, ?_⟩
                intro edge hedge
                rw [List.append_nil] at hedge
                have hlast := (inv_run hfirst.le_last.1).lastEdge hsuspended edge hedge
                omega

/-- An edge that is refused by a guard that is not suspended would be the thirteenth of a window. -/
theorem count_of_refused {calls : List Call} {now : ℤ}
    (hmonotonic : Monotonic (calls ++ [.acceptEdge now]))
    (hactive : (run calls).suspended = false) (hrefused : (acceptEdge (run calls) now).2 = false) :
    ∃ start, kMenuControllerBurstLimit <
      count kMenuControllerBurstWindowMs start (accepted calls ++ [now]) := by
  obtain ⟨hbefore, hle⟩ := hmonotonic.le_last
  obtain ⟨old, hold, -⟩ := (inv_run hbefore).remembers hactive
  obtain ⟨dropped, hsplit, -, hkept⟩ :=
    SlidingWindow.expire_split kMenuControllerBurstWindowMs now (pairwise_edgeTimes hbefore hold)
  have hkeeps : accepted calls = old ++ dropped ++
      expire kMenuControllerBurstWindowMs now (run calls).edgeTimes := by
    rw [hold, List.append_assoc, ← hsplit]
  have hnow : ∀ time ∈ expire kMenuControllerBurstWindowMs now (run calls).edgeTimes,
      time ≤ now := by
    intro time htime
    refine le_of_mem_edges hle ((accepted_sublist_edges calls).subset ?_)
    rw [hkeeps]
    exact List.mem_append_right _ htime
  rcases acceptEdge_cases (run calls) now with ⟨hsuspended, -⟩ | ⟨-, ⟨-, hanswer⟩ | ⟨hfull, -⟩⟩
  · rw [hactive] at hsuspended
    cases hsuspended
  · rw [hanswer] at hrefused
    cases hrefused
  · refine ⟨now - kMenuControllerBurstWindowMs + 1, ?_⟩
    rw [hkeeps]
    exact Nat.lt_of_lt_of_le (Nat.lt_succ_of_le hfull)
      (SlidingWindow.count_concat_of_recent (by decide) hkept hnow)

/-- **No second has more than twelve edges, a suspension lasts until a quiet second, and nothing
else is refused.** -/
theorem guard_law {calls : List Call} (h : Monotonic calls) :
    (∀ start, count kMenuControllerBurstWindowMs start (accepted calls) ≤
      kMenuControllerBurstLimit) ∧
    (∀ before refused between later after,
      calls = before ++ .acceptEdge refused :: (between ++ .acceptEdge later :: after) →
        (acceptEdge (run before) refused).2 = false →
          (acceptEdge (run (before ++ .acceptEdge refused :: between)) later).2 = true →
            ∃ first quiet second, between = first ++ .recoverIfQuiet quiet :: second ∧
              ∀ edge ∈ edges (before ++ .acceptEdge refused :: first),
                edge + kMenuControllerQuietResetMs ≤ quiet) ∧
    ∀ before now after, calls = before ++ .acceptEdge now :: after →
      (run before).suspended = false →
        (∀ start, count kMenuControllerBurstWindowMs start (accepted before ++ [now]) ≤
          kMenuControllerBurstLimit) → (acceptEdge (run before) now).2 = true := by
  refine ⟨(inv_run h).bounded, ?_, ?_⟩
  · intro before refused between later after hcalls hrefused haccepted
    have hfirst : before ++ .acceptEdge refused :: between =
        before ++ [.acceptEdge refused] ++ between := by
      simp
    have hmonotonic : Monotonic (before ++ [.acceptEdge refused] ++ between) := by
      refine h.sublist (List.Sublist.map _ ?_)
      rw [hcalls, ← hfirst]
      simp
    have hsuspended : (run (before ++ [.acceptEdge refused])).suspended = true := by
      rw [run_concat, answer]
      rcases acceptEdge_cases (run before) refused with
        ⟨-, hanswer⟩ | ⟨-, ⟨-, hanswer⟩ | ⟨-, hanswer⟩⟩
      · rw [hanswer]
      · rw [hanswer] at hrefused
        cases hrefused
      · rw [hanswer]
    rw [hfirst] at haccepted
    obtain ⟨first, quiet, second, rfl, hquiet⟩ :=
      recovers_of_suspended hmonotonic hsuspended haccepted
    refine ⟨first, quiet, second, rfl, ?_⟩
    rwa [List.append_assoc, List.singleton_append] at hquiet
  · intro before now after hcalls hactive hbounded
    have hmonotonic : Monotonic (before ++ [.acceptEdge now]) := by
      refine h.sublist (List.Sublist.map _ ?_)
      rw [hcalls]
      simp
    rw [← Bool.not_eq_false]
    intro hrefused
    obtain ⟨start, hcount⟩ := count_of_refused hmonotonic hactive hrefused
    exact absurd (hbounded start) (Nat.not_le.2 hcount)

/-- Thirteen edges in 600 milliseconds, a question for a recovery a second later, and one more
edge. -/
def burst : List Call :=
  (List.range 12).map (fun edge : ℕ => .acceptEdge ((edge : ℤ) * 50)) ++
    [.acceptEdge 600, .recoverIfQuiet 1600, .acceptEdge 1601]

/-- The burst is cut off at twelve edges, and the edge after the quiet second is admitted. -/
theorem guard_law_burst :
    (∀ start, count kMenuControllerBurstWindowMs start (accepted burst) ≤
      kMenuControllerBurstLimit) ∧
      accepted burst = (List.range 12).map (fun edge : ℕ => (edge : ℤ) * 50) ++ [1601] :=
  ⟨(guard_law (show Monotonic burst by decide)).1, by decide⟩

end NesDeck.ControllerGuard
