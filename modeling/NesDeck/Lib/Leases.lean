/-
**Leases: a bounded set of grants that run out.**

Something is granted to one holder after the other.  A grant ends when it is revoked, when its
lifetime is over, or, because only so many may be held at once, when it is the oldest and another
one is asked for.  Nothing here says how a program keeps them.

The time of a grant or of a look is read before it takes effect, so that it may be behind the time
at which it does, and behind that of others that took effect earlier.  The grants are therefore not
kept in the order of their times.

Main definitions:

* `Lease`, `Leases.live` — a grant, and those that did not run out;
* `Leases.withoutOldest` — the grants that are younger than another one;
* `Leases.step` — one grant, look or revocation;
* `Leases.Ended` — the three ways in which a grant ends.

Main results:

* `Leases.length_step_le` — the bound is kept;
* `Leases.ended_of_lost` — **a grant ends in one of the three ways**, at the time at which the event
  takes effect, whatever time it has read.
-/

import Mathlib.Data.List.Basic
import Mathlib.Data.List.Nodup

set_option relaxedAutoImplicit false
set_option autoImplicit false

/-- A grant to a holder, and the time it was made. -/
structure Lease (ι : Type) where
  id : ι
  since : ℕ

namespace Leases

variable {ι : Type} (capacity lifetime : ℕ)

/-- What happens to the grants, with the time that was read for it. -/
inductive Event (ι : Type) where
  | grant (id : ι) (now : ℕ)
  | look (id : ι) (now : ℕ)
  | revoke (id : ι)

/-- The time that was read for an event. -/
def Event.reading : Event ι → ℕ
  | .grant _ now => now
  | .look _ now => now
  | .revoke _ => 0

/-- The leases that have not run out. -/
def live (now : ℕ) (leases : List (Lease ι)) : List (Lease ι) :=
  leases.filter (now < ·.since + lifetime)

/-- The leases that are younger than another one. -/
def withoutOldest (leases : List (Lease ι)) : List (Lease ι) :=
  leases.filter fun lease => leases.any (·.since < lease.since)

/-- What a grant keeps of the leases: the oldest makes room when all places are taken. -/
def room (now : ℕ) (leases : List (Lease ι)) : List (Lease ι) :=
  if capacity ≤ (live lifetime now leases).length then withoutOldest (live lifetime now leases)
  else live lifetime now leases

/-- One event.  A look takes away a lease that is found to be over. -/
def step [DecidableEq ι] (leases : List (Lease ι)) : Event ι → List (Lease ι)
  | .grant id now => room capacity lifetime now leases ++ [⟨id, now⟩]
  | .look id now => leases.filter fun lease => lease.id ≠ id ∨ now < lease.since + lifetime
  | .revoke id => leases.filter (·.id ≠ id)

/-- The ways in which an event ends a lease, at the time at which it takes effect. -/
inductive Ended (time : ℕ) (leases : List (Lease ι)) (lease : Lease ι) : Event ι → Prop where
  /-- It was revoked. -/
  | revoked : Ended time leases lease (.revoke lease.id)
  /-- Its lifetime is over. -/
  | expired (event : Event ι) (h : lease.since + lifetime ≤ time) : Ended time leases lease event
  /-- All places are taken, and it is the oldest that has not run out. -/
  | evicted (id : ι) (now : ℕ) (hfull : (live lifetime time leases).length = capacity)
      (holdest : ∀ other ∈ live lifetime time leases, lease.since ≤ other.since) :
      Ended time leases lease (.grant id now)

variable {capacity lifetime}

theorem mem_live {now : ℕ} {leases : List (Lease ι)} {lease : Lease ι} :
    lease ∈ live lifetime now leases ↔ lease ∈ leases ∧ now < lease.since + lifetime := by
  rw [live, List.mem_filter, decide_eq_true_eq]

theorem length_live_le (lifetime now : ℕ) (leases : List (Lease ι)) :
    (live lifetime now leases).length ≤ leases.length := List.length_filter_le _ _

/-- What is live later is live before. -/
theorem live_live {now time : ℕ} (h : now ≤ time) (leases : List (Lease ι)) :
    live lifetime time (live lifetime now leases) = live lifetime time leases := by
  rw [live, live, live, List.filter_filter]
  refine List.filter_congr ?_
  intro lease _
  simp only [Bool.and_eq_left_iff_imp, decide_eq_true_eq]
  omega

theorem live_eq_self {now : ℕ} {leases : List (Lease ι)}
    (h : ∀ lease ∈ leases, now < lease.since + lifetime) : live lifetime now leases = leases :=
  List.filter_eq_self.2 fun lease hlease => decide_eq_true (h lease hlease)

/-! ### The oldest -/

theorem mem_withoutOldest {leases : List (Lease ι)} {lease : Lease ι} :
    lease ∈ withoutOldest leases ↔ lease ∈ leases ∧ ∃ other ∈ leases,
      other.since < lease.since := by
  simp [withoutOldest]

/-- There is an oldest lease where there is any. -/
theorem exists_oldest {leases : List (Lease ι)} (h : leases ≠ []) :
    ∃ oldest ∈ leases, ∀ lease ∈ leases, oldest.since ≤ lease.since := by
  induction leases with
  | nil => exact absurd rfl h
  | cons lease rest ih =>
      cases hrest : rest with
      | nil => exact ⟨lease, List.mem_cons_self, by simp⟩
      | cons next more =>
          obtain ⟨oldest, hmem, hle⟩ := ih (by rw [hrest]; exact List.cons_ne_nil _ _)
          rw [← hrest]
          by_cases hless : lease.since ≤ oldest.since
          · refine ⟨lease, List.mem_cons_self, ?_⟩
            intro other hother
            rcases List.mem_cons.1 hother with rfl | hother
            · exact Nat.le_refl _
            · exact Nat.le_trans hless (hle other hother)
          · refine ⟨oldest, List.mem_cons_of_mem _ hmem, ?_⟩
            intro other hother
            rcases List.mem_cons.1 hother with rfl | hother
            · omega
            · exact hle other hother

theorem length_withoutOldest_lt {leases : List (Lease ι)} (h : leases ≠ []) :
    (withoutOldest leases).length < leases.length := by
  obtain ⟨oldest, hmem, hle⟩ := exists_oldest h
  refine List.length_filter_lt_length_iff_exists.2 ⟨oldest, hmem, ?_⟩
  simp only [List.any_eq_true, decide_eq_true_eq, not_exists, not_and, Nat.not_lt]
  exact hle

/-- Where no two leases have one time, the oldest is the only one that goes. -/
theorem withoutOldest_eq [DecidableEq ι] {leases : List (Lease ι)} {oldest : Lease ι}
    (hmem : oldest ∈ leases) (hle : ∀ lease ∈ leases, oldest.since ≤ lease.since)
    (htimes : (leases.map Lease.since).Nodup) (hids : (leases.map Lease.id).Nodup) :
    withoutOldest leases = leases.filter (·.id ≠ oldest.id) := by
  refine List.filter_congr ?_
  intro lease hlease
  rw [Bool.eq_iff_iff]
  simp only [List.any_eq_true, decide_eq_true_eq]
  constructor
  · rintro ⟨other, hother, hless⟩ hid
    have heq : lease = oldest := List.inj_on_of_nodup_map hids hlease hmem hid
    rw [heq] at hless
    exact Nat.not_le.2 hless (hle other hother)
  · intro hid
    refine ⟨oldest, hmem, Nat.lt_of_le_of_ne (hle lease hlease) ?_⟩
    intro hsince
    exact hid (congrArg Lease.id (List.inj_on_of_nodup_map htimes hmem hlease hsince).symm)

/-! ### One event -/

theorem room_sublist (capacity lifetime now : ℕ) (leases : List (Lease ι)) :
    (room capacity lifetime now leases).Sublist leases := by
  rw [room]
  split
  · exact List.filter_sublist.trans List.filter_sublist
  · exact List.filter_sublist

/-- What a grant keeps leaves a place. -/
theorem length_room_lt (lifetime : ℕ) {leases : List (Lease ι)} (hpos : 0 < capacity)
    (h : leases.length ≤ capacity) (now : ℕ) :
    (room capacity lifetime now leases).length < capacity := by
  have hlive := length_live_le lifetime now leases
  rw [room]
  split
  · next hfull =>
      have hne : live lifetime now leases ≠ [] := by
        intro hnil
        rw [hnil, List.length_nil] at hfull
        omega
      have hless := length_withoutOldest_lt hne
      omega
  · next hfull => omega

variable [DecidableEq ι]

/-- **The bound is kept.** -/
theorem length_step_le {leases : List (Lease ι)} (hpos : 0 < capacity)
    (h : leases.length ≤ capacity) (event : Event ι) :
    (step capacity lifetime leases event).length ≤ capacity := by
  cases event with
  | grant id now =>
      have hroom := length_room_lt lifetime hpos h now
      simp only [step, List.length_append, List.length_singleton]
      omega
  | look id now => exact Nat.le_trans (List.length_filter_le _ _) h
  | revoke id => exact Nat.le_trans (List.length_filter_le _ _) h

/-- **A grant ends in one of the three ways**, at the time at which the event takes effect. -/
theorem ended_of_lost {time : ℕ} {leases : List (Lease ι)} (hlen : leases.length ≤ capacity)
    {lease : Lease ι} (hmem : lease ∈ leases) {event : Event ι} (hread : event.reading ≤ time)
    (hlost : lease ∉ step capacity lifetime leases event) :
    Ended capacity lifetime time leases lease event := by
  by_cases hover : lease.since + lifetime ≤ time
  · exact .expired event hover
  have hnow : event.reading < lease.since + lifetime := by omega
  cases event with
  | revoke id =>
      have hid : lease.id = id := by
        by_contra hne
        exact hlost (List.mem_filter.2 ⟨hmem, by simpa using hne⟩)
      rw [← hid]
      exact .revoked
  | look id now =>
      -- A look takes no lease away that is live.
      exact absurd (List.mem_filter.2 ⟨hmem, decide_eq_true (Or.inr hnow)⟩) hlost
  | grant id now =>
      -- A lease that is lost while it is live made room, and those that are not older are live too.
      have hmemlive : lease ∈ live lifetime now leases := mem_live.2 ⟨hmem, hnow⟩
      have hlivelen := Nat.le_trans (length_live_le lifetime now leases) hlen
      simp only [step, room, List.mem_append, not_or] at hlost
      split at hlost
      · next hfull =>
          have holdest : ∀ other ∈ live lifetime now leases, lease.since ≤ other.since := by
            intro other hother
            by_contra hless
            exact hlost.1 (mem_withoutOldest.2 ⟨hmemlive, other, hother, Nat.not_le.1 hless⟩)
          have hsame : live lifetime time leases = live lifetime now leases := by
            rw [← live_live hread leases]
            refine live_eq_self ?_
            intro other hother
            have hle := holdest other hother
            omega
          refine .evicted id now ?_ ?_
          · rw [hsame]
            omega
          · rw [hsame]
            exact holdest
      · exact absurd hmemlive hlost.1

end Leases
