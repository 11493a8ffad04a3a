/-
**The menu watches over the program it has launched.**

Until the program ends, the menu goes round a loop. It asks whether the program has ended, reads the
touchscreen, and stops the program when it was told to shut down itself, or when the screen has been
held for two seconds: first politely, and four seconds later by force.

Main definitions:

* `NesDeck.ChildRound` — what one round of the loop meets;
* `NesDeck.Supervision` — the variables of the loop, with the signals that were sent;
* `NesDeck.runManagedChild` — the loop, from the launch to the end of the program;
* `NesDeck.samples` — whether the screen was held, as far as the loop has seen.

Main results:

* `NesDeck.supervised_rounds` — why and when the program is stopped, after any rounds;
* `NesDeck.runManagedChild_spec` — **one polite signal at most, one by force at most, and that only
  after four seconds**; the program was stopped for a touch exactly when the screen was held for two
  seconds without a break, and no shutdown came before;
* `NesDeck.holdDue_spec` — what it means that the screen was held.
-/

import NesDeck.Lib.Hold
import NesDeck.MenuCatalog

set_option relaxedAutoImplicit false
set_option autoImplicit false

namespace NesDeck

open HostFile (Bytes ascii)

def kExitHoldWidth : ℤ := 1280

def kExitHoldHeight : ℤ := 480

def kExitHoldMs : ℤ := 2000

def kChildTermGraceMs : ℤ := 4000

/-! ### What the loop meets -/

/-- A touch, with the time that the loop reads when it takes note of it. -/
structure TimedTouch where
  down : Bool
  x : ℤ
  y : ℤ
  time : ℤ

/-- What `waitpid` says. -/
inductive Waited where
  | running
  | interrupted
  | ended (status : ℤ)
  /-- It fails, and waits after the kill. -/
  | failed (status : ℤ)

/-- Where touches come from: the compositor, a device, or nowhere. `run_game` gives a program of the
Deck none of them unless the compositor shows the menu. -/
inductive TouchSource where
  | wayland
  | device
  | nowhere
  deriving DecidableEq

/-- One round: the answer of `waitpid`, the flag of a shutdown, the reports of the touchscreen and
whether reading them failed, the touch of a device that reports nothing, and the times that are
read. -/
structure ChildRound where
  waited : Waited
  now : ℤ
  shutdown : Bool
  readFailed : Bool
  reports : List TimedTouch
  contact : Option TimedTouch
  checked : ℤ
  stopped : ℤ
  late : ℤ

inductive ChildSignal where
  | term
  | kill
  deriving DecidableEq

/-- The variables of the loop, and the signals with their times, the last one first. -/
structure Supervision where
  termSent : Bool
  killSent : Bool
  termSentAt : ℤ
  cornerHold : Bool
  cornerHoldStarted : ℤ
  exitedForTouch : Bool
  signals : List (ChildSignal × ℤ)

/-! ### The loop -/

namespace Supervision

def start : Supervision := ⟨false, false, 0, false, 0, false, []⟩

/-- The program is asked to stop. -/
def sendTerm (s : Supervision) (time : ℤ) : Supervision :=
  { s with termSent := true, termSentAt := time, signals := (.term, time) :: s.signals }

/-- The touch is on the screen. -/
def inside (touch : TimedTouch) : Bool :=
  touch.down && 0 ≤ touch.x && touch.x < kExitHoldWidth && 0 ≤ touch.y && touch.y < kExitHoldHeight

/-- `update_corner_hold`. -/
def updateCornerHold (s : Supervision) (touch : TimedTouch) : Supervision :=
  if inside touch = false then { s with cornerHold := false }
  else if s.cornerHold = false then
    { s with cornerHold := true, cornerHoldStarted := touch.time }
  else s

end Supervision

/-- The touches of a round. A device that failed is closed; one that reports nothing has its
touch. -/
def touchesOf (source : TouchSource) (round : ChildRound) : List TimedTouch :=
  match source with
  | .nowhere => []
  | .wayland => round.reports
  | .device =>
      if round.reports = [] ∧ round.readFailed = false then round.contact.toList else round.reports

/-- The touchscreen could not be read. -/
def readFails (source : TouchSource) (round : ChildRound) : Bool :=
  source ≠ .nowhere && round.readFailed

namespace Supervision

/-- A shutdown of the menu stops the program. -/
def obeyShutdown (s : Supervision) (round : ChildRound) : Supervision :=
  if round.shutdown = true ∧ s.termSent = false then s.sendTerm round.now else s

/-- The touches of the round. -/
def readTouches (source : TouchSource) (s : Supervision) (round : ChildRound) : Supervision :=
  let s := if readFails source round = true then { s with cornerHold := false } else s
  (touchesOf source round).foldl updateCornerHold s

/-- A screen that is held stops the program. -/
def obeyHold (s : Supervision) (round : ChildRound) : Supervision :=
  if s.cornerHold = true ∧ s.termSent = false ∧ kExitHoldMs ≤
    round.checked - s.cornerHoldStarted then
    { s.sendTerm round.stopped with exitedForTouch := true }
  else s

/-- A program that does not stop is killed. -/
def forceEnd (s : Supervision) (round : ChildRound) : Supervision :=
  if s.termSent = true ∧ s.killSent = false ∧ kChildTermGraceMs ≤ round.late - s.termSentAt then
    { s with killSent := true, signals := (.kill, round.late) :: s.signals }
  else s

/-- One round in which the program has not ended. -/
def round (source : TouchSource) (s : Supervision) (r : ChildRound) : Supervision :=
  (((s.obeyShutdown r).readTouches source r).obeyHold r).forceEnd r

end Supervision

/-- How the loop ends. -/
inductive ChildEnd where
  | ended (status : ℤ)
  | lost (status : ℤ)
  deriving DecidableEq

/-- The loop; a program that cannot be waited for is killed. -/
def supervise (source : TouchSource) (s : Supervision) :
    List ChildRound → Supervision × Option ChildEnd
  | [] => (s, none)
  | r :: rounds =>
      match r.waited with
      | .ended status => (s, some (.ended status))
      | .failed status =>
          ({ s with signals := (.kill, r.now) :: s.signals }, some (.lost status))
      | .running | .interrupted => supervise source (s.round source r) rounds

/-- What comes through the pipe: nothing when the program was started, an error number, another
amount, or an error of `read`. -/
inductive ExecReport where
  | closed
  | error
  | short
  | unreadable
  deriving DecidableEq

structure ChildResult where
  started : Bool
  exitedForTouch : Bool
  status : ℤ
  failed : Bool
  deriving DecidableEq

/-- `run_managed_child`, once the program was forked, as far as its rounds go. -/
def runManagedChild (source : TouchSource) (exec : ExecReport) (rounds : List ChildRound) :
    Option (ChildResult × List (ChildSignal × ℤ)) :=
  match supervise source .start rounds with
  | (_, none) => none
  | (s, some (.ended status)) =>
      some (⟨exec = .closed, s.exitedForTouch, status, exec ≠ .closed⟩, s.signals)
  | (s, some (.lost status)) => some (⟨exec = .closed, s.exitedForTouch, status, true⟩, s.signals)

/-! ### What the loop has seen -/

/-- A touch, or its end. -/
def sampleOf (touch : TimedTouch) : ℤ × Bool := (touch.time, Supervision.inside touch)

/-- What a round says of the screen; what cannot be read is no touch. -/
def roundSamples (source : TouchSource) (r : ChildRound) : List (ℤ × Bool) :=
  (touchesOf source r).reverse.map sampleOf ++
    if readFails source r = true then [(r.now, false)] else []

/-- Whether the screen was held, as far as the loop has seen, the last sample first. -/
def samples (source : TouchSource) (rounds : List ChildRound) : List (ℤ × Bool) :=
  rounds.foldl (fun trace r => roundSamples source r ++ trace) []

theorem samples_concat (source : TouchSource) (rounds : List ChildRound) (r : ChildRound) :
    samples source (rounds ++ [r]) = roundSamples source r ++ samples source rounds := by
  rw [samples, List.foldl_append]
  rfl

/-- The screen was held for two seconds without a break. -/
def HoldDue (source : TouchSource) (done : List ChildRound) (r : ChildRound) : Prop :=
  ∃ time, Hold.since (samples source (done ++ [r])) = some time ∧ kExitHoldMs ≤ r.checked - time

/-- Some round of the list, with those before it. -/
def SomeRound (p : List ChildRound → ChildRound → Prop) (rounds : List ChildRound) : Prop :=
  ∃ done r rest, rounds = done ++ r :: rest ∧ p done r

theorem someRound_nil (p : List ChildRound → ChildRound → Prop) : ¬SomeRound p [] := by
  rintro ⟨done, r, rest, heq, -⟩
  simp at heq

theorem someRound_concat {p : List ChildRound → ChildRound → Prop} {rounds : List ChildRound}
    {r : ChildRound} : SomeRound p (rounds ++ [r]) ↔ SomeRound p rounds ∨ p rounds r := by
  constructor
  · rintro ⟨done, r', rest, heq, hp⟩
    rcases List.eq_nil_or_concat rest with rfl | ⟨rest', last, rfl⟩
    · obtain ⟨rfl, hlast⟩ := List.append_inj' heq rfl
      obtain rfl := (List.cons.inj hlast).1
      exact Or.inr hp
    · refine Or.inl ⟨done, r', rest', ?_, hp⟩
      have heq' : rounds ++ [r] = (done ++ r' :: rest') ++ [last] := by simpa using heq
      exact (List.append_inj' heq' rfl).1
  · rintro (⟨done, r', rest, rfl, hp⟩ | hp)
    · exact ⟨done, r', rest ++ [r], by simp, hp⟩
    · exact ⟨rounds, r, [], rfl, hp⟩

theorem SomeRound.append {p : List ChildRound → ChildRound → Prop} {rounds : List ChildRound}
    (h : SomeRound p rounds) (more : List ChildRound) : SomeRound p (rounds ++ more) := by
  obtain ⟨done, r, rest, rfl, hp⟩ := h
  exact ⟨done, r, rest ++ more, by simp, hp⟩

namespace Supervision

variable {source : TouchSource} {s : Supervision} {r : ChildRound}

/-- The time since which the screen is held. -/
def heldSince (s : Supervision) : Option ℤ :=
  if s.cornerHold = true then some s.cornerHoldStarted else none

/-- Everything but the touch is the same. -/
structure SameStops (s s' : Supervision) : Prop where
  termSent : s'.termSent = s.termSent
  killSent : s'.killSent = s.killSent
  termSentAt : s'.termSentAt = s.termSentAt
  exitedForTouch : s'.exitedForTouch = s.exitedForTouch
  signals : s'.signals = s.signals

theorem SameStops.trans {s' s'' : Supervision} (h : SameStops s s') (h' : SameStops s' s'') :
    SameStops s s'' :=
  ⟨h'.termSent.trans h.termSent, h'.killSent.trans h.killSent, h'.termSentAt.trans h.termSentAt,
    h'.exitedForTouch.trans h.exitedForTouch, h'.signals.trans h.signals⟩

theorem updateCornerHold_spec (s : Supervision) (touch : TimedTouch) :
    SameStops s (s.updateCornerHold touch) ∧
      (s.updateCornerHold touch).heldSince =
        if inside touch = true then some (s.heldSince.getD touch.time) else none := by
  rw [updateCornerHold]
  split
  next houtside =>
    rw [houtside]
    exact ⟨⟨rfl, rfl, rfl, rfl, rfl⟩, rfl⟩
  next hinside =>
    have hinside := eq_true_of_ne_false hinside
    rw [if_pos hinside]
    split
    next hfree => exact ⟨⟨rfl, rfl, rfl, rfl, rfl⟩, by rw [heldSince, heldSince, hfree]; rfl⟩
    next hheld =>
      have hheld := eq_true_of_ne_false hheld
      exact ⟨⟨rfl, rfl, rfl, rfl, rfl⟩, by rw [heldSince, if_pos hheld]; rfl⟩

theorem updateCornerHolds_same (touches : List TimedTouch) (s : Supervision) :
    SameStops s (touches.foldl updateCornerHold s) := by
  induction touches generalizing s with
  | nil => exact ⟨rfl, rfl, rfl, rfl, rfl⟩
  | cons touch touches ih => exact (s.updateCornerHold_spec touch).1.trans (ih _)

/-- The touches of a round are followed one by one. -/
theorem updateCornerHolds_since (touches : List TimedTouch) {trace : List (ℤ × Bool)}
    (h : s.heldSince = Hold.since trace) :
    (touches.foldl updateCornerHold s).heldSince =
      Hold.since (touches.reverse.map sampleOf ++ trace) := by
  induction touches generalizing s trace with
  | nil => exact h
  | cons touch touches ih =>
      have hnext : (s.updateCornerHold touch).heldSince = Hold.since (sampleOf touch :: trace) := by
        rw [(s.updateCornerHold_spec touch).2, h, sampleOf, Hold.since_cons]
      rw [List.foldl_cons, ih hnext, List.reverse_cons, List.map_append, List.append_assoc]
      rfl

theorem readTouches_same (s : Supervision) (source : TouchSource) (r : ChildRound) :
    SameStops s (s.readTouches source r) := by
  rw [readTouches]
  split
  · have hlost : SameStops s { s with cornerHold := false } := ⟨rfl, rfl, rfl, rfl, rfl⟩
    exact hlost.trans (updateCornerHolds_same _ _)
  · exact updateCornerHolds_same _ _

/-- **The loop knows since when the screen is held.** -/
theorem heldSince_readTouches {rounds : List ChildRound}
    (h : s.heldSince = Hold.since (samples source rounds)) :
    (s.readTouches source r).heldSince = Hold.since (samples source (rounds ++ [r])) := by
  rw [readTouches, samples_concat, roundSamples]
  split
  next hfails =>
    have hlost : ({ s with cornerHold := false } : Supervision).heldSince =
        Hold.since ((r.now, false) :: samples source rounds) := by
      rw [Hold.since_cons]
      rfl
    rw [updateCornerHolds_since (touchesOf source r) hlost, List.append_assoc]
    rfl
  · rw [updateCornerHolds_since (touchesOf source r) h, List.append_nil]

end Supervision

/-! ### Why and when the program is stopped -/

/-- A round in which the program has to stop. -/
def Reason (source : TouchSource) (done : List ChildRound) (r : ChildRound) : Prop :=
  r.shutdown = true ∨ HoldDue source done r

/-- The screen was held long enough, and no shutdown came before. -/
def TouchReason (source : TouchSource) (done : List ChildRound) (r : ChildRound) : Prop :=
  HoldDue source done r ∧ ∀ other ∈ done ++ [r], other.shutdown = false

/-- A round that ends four seconds after the program was asked to stop. -/
def Overdue (source : TouchSource) (asked : ℤ) (done : List ChildRound) (r : ChildRound) : Prop :=
  SomeRound (Reason source) (done ++ [r]) ∧ kChildTermGraceMs ≤ r.late - asked

/-- The signals that a program has got. -/
def Polite (s : Supervision) : Prop :=
  s.signals = [] ∧ s.termSent = false ∧ s.killSent = false ∨
    s.signals = [(.term, s.termSentAt)] ∧ s.termSent = true ∧ s.killSent = false ∨
      ∃ time, s.signals = [(.kill, time), (.term, s.termSentAt)] ∧ s.termSent = true ∧
        s.killSent = true ∧ kChildTermGraceMs ≤ time - s.termSentAt

/-- What the loop has come to after some rounds. -/
structure Supervised (source : TouchSource) (rounds : List ChildRound)
    (s : Supervision) : Prop where
  held : s.heldSince = Hold.since (samples source rounds)
  term : s.termSent = true ↔ SomeRound (Reason source) rounds
  touch : s.exitedForTouch = true ↔ SomeRound (TouchReason source) rounds
  kill : s.killSent = true ↔ SomeRound (Overdue source s.termSentAt) rounds
  signals : Polite s

theorem supervised_start (source : TouchSource) : Supervised source [] .start where
  held := rfl
  term := by simp [Supervision.start, someRound_nil]
  touch := by simp [Supervision.start, someRound_nil]
  kill := by simp [Supervision.start, someRound_nil]
  signals := Or.inl ⟨rfl, rfl, rfl⟩

section Rounds

variable {source : TouchSource} {rounds : List ChildRound} {s : Supervision} {r : ChildRound}

/-- The loop stops the program for a touch when it has to, and has not stopped it yet. -/
theorem holdDue_iff (h : s.heldSince = Hold.since (samples source (rounds ++ [r]))) :
    HoldDue source rounds r ↔ s.cornerHold = true ∧
      kExitHoldMs ≤ r.checked - s.cornerHoldStarted := by
  rw [HoldDue, ← h, Supervision.heldSince]
  cases s.cornerHold with
  | false => simp
  | true => simp

/-- The touches of a round do not care for a signal. -/
theorem heldSince_obeyShutdown (s : Supervision) (r : ChildRound) :
    (s.obeyShutdown r).heldSince = s.heldSince := by
  rw [Supervision.obeyShutdown]
  split
  · rfl
  · rfl

theorem heldSince_obeyHold (s : Supervision) (r : ChildRound) :
    (s.obeyHold r).heldSince = s.heldSince := by
  rw [Supervision.obeyHold]
  split
  · rfl
  · rfl

theorem heldSince_forceEnd (s : Supervision) (r : ChildRound) :
    (s.forceEnd r).heldSince = s.heldSince := by
  rw [Supervision.forceEnd]
  split
  · rfl
  · rfl

/-- The state before the loop looks whether it has to kill. -/
def beforeForce (source : TouchSource) (s : Supervision) (r : ChildRound) : Supervision :=
  ((s.obeyShutdown r).readTouches source r).obeyHold r

theorem heldSince_beforeForce (h : s.heldSince = Hold.since (samples source rounds)) :
    (beforeForce source s r).heldSince = Hold.since (samples source (rounds ++ [r])) := by
  rw [beforeForce, heldSince_obeyHold]
  exact Supervision.heldSince_readTouches ((heldSince_obeyShutdown s r).trans h)

/-- A program that was asked to stop is not asked again. -/
theorem beforeForce_asked (hterm : s.termSent = true) :
    Supervision.SameStops s (beforeForce source s r) := by
  have hshutdown : s.obeyShutdown r = s := by
    rw [Supervision.obeyShutdown, if_neg (by simp [hterm])]
  have hsame := s.readTouches_same source r
  have hhold : (s.readTouches source r).obeyHold r = s.readTouches source r := by
    rw [Supervision.obeyHold, if_neg (by simp [hsame.termSent, hterm])]
  rw [beforeForce, hshutdown, hhold]
  exact hsame

/-- A program that was not asked to stop is asked when there is a reason. -/
theorem beforeForce_free (h : s.heldSince = Hold.since (samples source rounds))
    (hterm : s.termSent = false) :
    ((beforeForce source s r).termSent = true ↔ Reason source rounds r) ∧
      (beforeForce source s r).killSent = s.killSent ∧
        (beforeForce source s r).signals =
          (if (beforeForce source s r).termSent = true then
            [(.term, (beforeForce source s r).termSentAt)] else []) ++ s.signals ∧
          ((beforeForce source s r).exitedForTouch = true ↔
            s.exitedForTouch = true ∨ HoldDue source rounds r ∧ r.shutdown = false) := by
  rw [beforeForce, Reason]
  have hsame := (s.obeyShutdown r).readTouches_same source r
  have hdue := holdDue_iff (Supervision.heldSince_readTouches (r := r)
    ((heldSince_obeyShutdown s r).trans h))
  cases hshutdown : r.shutdown with
  | true =>
      have hobey : s.obeyShutdown r = s.sendTerm r.now := by
        rw [Supervision.obeyShutdown, if_pos ⟨hshutdown, hterm⟩]
      have hsent : ((s.obeyShutdown r).readTouches source r).termSent = true := by
        rw [hsame.termSent, hobey]
        rfl
      have hhold : ((s.obeyShutdown r).readTouches source r).obeyHold r =
          (s.obeyShutdown r).readTouches source r := by
        rw [Supervision.obeyHold, if_neg (by simp [hsent])]
      rw [hhold, hsame.termSent, hsame.killSent, hsame.signals, hsame.termSentAt,
        hsame.exitedForTouch,
        hobey]
      simp [Supervision.sendTerm]
  | false =>
      have hobey : s.obeyShutdown r = s := by
        rw [Supervision.obeyShutdown, if_neg (by simp [hshutdown])]
      rw [hobey] at hsame hdue ⊢
      rw [Supervision.obeyHold, hsame.termSent, hterm, hdue]
      by_cases hheld : (s.readTouches source r).cornerHold = true ∧
          kExitHoldMs ≤ r.checked - (s.readTouches source r).cornerHoldStarted
      · rw [if_pos ⟨hheld.1, rfl, hheld.2⟩]
        simp [Supervision.sendTerm, hheld, hsame.killSent, hsame.signals]
      · rw [if_neg (fun hall => hheld ⟨hall.1, hall.2.2⟩)]
        simp [hheld, hsame.killSent, hsame.signals, hsame.exitedForTouch, hsame.termSent, hterm]

/-- Before the program had to stop, there was no shutdown. -/
theorem shutdown_eq_false (h : ¬SomeRound (Reason source) rounds) :
    ∀ other ∈ rounds, other.shutdown = false := by
  intro other hother
  obtain ⟨done, rest, rfl⟩ := List.append_of_mem hother
  cases hshutdown : other.shutdown with
  | false => rfl
  | true => exact absurd ⟨done, other, rest, rfl, Or.inl hshutdown⟩ h

/-- A program that had to stop, and without a shutdown, had to stop for a touch. -/
theorem touchReason_of_reason (h : SomeRound (Reason source) rounds)
    (hquiet : ∀ other ∈ rounds, other.shutdown = false) :
    SomeRound (TouchReason source) rounds := by
  obtain ⟨done, r', rest, rfl, hreason⟩ := h
  rcases hreason with hshutdown | hdue
  · rw [hquiet r' (by simp)] at hshutdown
    cases hshutdown
  · refine ⟨done, r', rest, rfl, hdue, ?_⟩
    intro other hother
    refine hquiet other ?_
    rcases List.mem_append.1 hother with hdone | hlast
    · exact List.mem_append_left _ hdone
    · rw [List.mem_singleton.1 hlast]
      exact List.mem_append_right _ List.mem_cons_self

/-- A round, before the loop looks whether it has to kill. -/
theorem supervised_beforeForce (h : Supervised source rounds s) :
    ((beforeForce source s r).termSent = true ↔ SomeRound (Reason source) (rounds ++ [r])) ∧
      ((beforeForce source s r).exitedForTouch = true ↔
        SomeRound (TouchReason source) (rounds ++ [r])) ∧
        ((beforeForce source s r).killSent = true ↔
          SomeRound (Overdue source (beforeForce source s r).termSentAt) rounds) ∧
          Polite (beforeForce source s r) := by
  cases hterm : s.termSent with
  | true =>
      have hsame : s.SameStops (beforeForce source s r) := beforeForce_asked hterm
      have hreason := h.term.1 hterm
      rw [Polite, hsame.termSent, hsame.exitedForTouch, hsame.killSent, hsame.termSentAt,
        hsame.signals]
      refine ⟨iff_of_true hterm (hreason.append [r]), ?_, h.kill, h.signals⟩
      rw [h.touch, someRound_concat]
      refine (or_iff_left_of_imp ?_).symm
      rintro ⟨-, hquiet⟩
      exact touchReason_of_reason hreason fun other hother =>
        hquiet other (List.mem_append_left _ hother)
  | false =>
      obtain ⟨hasked, hkill, hsignals, htouch⟩ := beforeForce_free (r := r) h.held hterm
      have hnone : ¬SomeRound (Reason source) rounds := by
        rw [← h.term, hterm]
        exact Bool.false_ne_true
      have hquiet := shutdown_eq_false hnone
      obtain ⟨hempty, -, hfree⟩ : s.signals = [] ∧ s.termSent = false ∧ s.killSent = false := by
        rcases h.signals with hempty | ⟨-, hsent, -⟩ | ⟨-, -, hsent, -⟩
        · exact hempty
        · rw [hterm] at hsent
          cases hsent
        · rw [hterm] at hsent
          cases hsent
      refine ⟨?_, ?_, ?_, ?_⟩
      · rw [hasked, someRound_concat, or_iff_right hnone]
      · rw [htouch, h.touch, someRound_concat]
        refine or_congr_right (and_congr_right fun _ => ?_)
        rw [List.forall_mem_append, and_iff_right hquiet]
        simp
      · rw [hkill, hfree]
        refine iff_of_false Bool.false_ne_true ?_
        rintro ⟨done, r', rest, rfl, hreason, -⟩
        refine hnone ?_
        have happend := hreason.append rest
        rwa [List.append_assoc] at happend
      · rw [Polite, hsignals, hempty, hkill, hfree]
        cases (beforeForce source s r).termSent with
        | true => exact Or.inr (Or.inl ⟨rfl, rfl, rfl⟩)
        | false => exact Or.inl ⟨rfl, rfl, rfl⟩

/-- **One round.** -/
theorem supervised_round (h : Supervised source rounds s) :
    Supervised source (rounds ++ [r]) (s.round source r) := by
  obtain ⟨hterm, htouch, hkill, hpolite⟩ := supervised_beforeForce (r := r) h
  have hheld := heldSince_forceEnd (beforeForce source s r) r
  have hround : s.round source r = (beforeForce source s r).forceEnd r := rfl
  rw [heldSince_beforeForce h.held, ← hround] at hheld
  have hoverdue : ∀ asked, SomeRound (Overdue source asked) (rounds ++ [r]) ↔
      SomeRound (Overdue source asked) rounds ∨
        SomeRound (Reason source) (rounds ++ [r]) ∧ kChildTermGraceMs ≤ r.late - asked :=
    fun asked => someRound_concat
  rw [hround] at hheld ⊢
  generalize beforeForce source s r = t at hterm htouch hkill hpolite hheld ⊢
  rw [Supervision.forceEnd] at hheld ⊢
  split
  next hforce =>
    rw [if_pos hforce] at hheld
    refine ⟨hheld, hterm, htouch, ?_, ?_⟩
    · rw [hoverdue]
      exact iff_of_true rfl (Or.inr ⟨hterm.1 hforce.1, hforce.2.2⟩)
    · rcases hpolite with ⟨-, hfree, -⟩ | ⟨hsignals, hsent, -⟩ | ⟨-, -, -, hkilled, -⟩
      · rw [hforce.1] at hfree
        cases hfree
      · exact Or.inr (Or.inr ⟨r.late, by rw [hsignals], hsent, rfl, hforce.2.2⟩)
      · rw [hforce.2.1] at hkilled
        cases hkilled
  next hforce =>
    rw [if_neg hforce] at hheld
    refine ⟨hheld, hterm, htouch, ?_, hpolite⟩
    rw [hoverdue, ← hkill, ← hterm]
    refine (or_iff_left_of_imp ?_).symm
    rintro ⟨hsent, hlate⟩
    cases hkilled : t.killSent with
    | true => rfl
    | false => exact absurd ⟨hsent, hkilled, hlate⟩ hforce

/-- **What every run of the loop comes to.** -/
theorem supervised_rounds (source : TouchSource) (rounds : List ChildRound) :
    Supervised source rounds (rounds.foldl (Supervision.round source) .start) := by
  induction rounds using List.reverseRecOn with
  | nil => exact supervised_start source
  | append_singleton rounds r ih =>
      rw [List.foldl_append]
      exact supervised_round ih

/-! ### The end of the program -/

/-- The loop goes round until the program has ended. -/
theorem supervise_spec {s s' : Supervision} {rounds : List ChildRound} {ending : ChildEnd}
    (h : supervise source s rounds = (s', some ending)) :
    ∃ done last rest, rounds = done ++ last :: rest ∧
      (∀ r ∈ done, r.waited = .running ∨ r.waited = .interrupted) ∧
        ((∃ status, last.waited = .ended status ∧ ending = .ended status ∧
            s' = done.foldl (Supervision.round source) s) ∨
          ∃ status, last.waited = .failed status ∧ ending = .lost status ∧
            s' = { done.foldl (Supervision.round source) s with
              signals := (.kill, last.now) ::
                (done.foldl (Supervision.round source) s).signals }) := by
  induction rounds generalizing s with
  | nil => cases h
  | cons r rounds ih =>
      have hgo : r.waited = .running ∨ r.waited = .interrupted →
          supervise source (s.round source r) rounds = (s', some ending) →
            ∃ done last rest, r :: rounds = done ++ last :: rest ∧
              (∀ r ∈ done, r.waited = .running ∨ r.waited = .interrupted) ∧
                ((∃ status, last.waited = .ended status ∧ ending = .ended status ∧
                    s' = done.foldl (Supervision.round source) s) ∨
                  ∃ status, last.waited = .failed status ∧ ending = .lost status ∧
                    s' = { done.foldl (Supervision.round source) s with
                      signals :=
                        (.kill, last.now) ::
                        (done.foldl (Supervision.round source) s).signals }) := by
        intro hwaited hrest
        obtain ⟨done, last, rest, rfl, hdone, hend⟩ := ih hrest
        exact ⟨r :: done, last, rest, rfl, List.forall_mem_cons.2 ⟨hwaited, hdone⟩, hend⟩
      rw [supervise] at h
      split at h
      next status hwaited =>
        obtain ⟨rfl, hending⟩ := Prod.mk.inj h
        exact ⟨[], r, rounds, rfl, List.forall_mem_nil _,
          Or.inl ⟨status, hwaited, (Option.some.inj hending).symm, rfl⟩⟩
      next status hwaited =>
        obtain ⟨rfl, hending⟩ := Prod.mk.inj h
        exact ⟨[], r, rounds, rfl, List.forall_mem_nil _,
          Or.inr ⟨status, hwaited, (Option.some.inj hending).symm, rfl⟩⟩
      next hwaited => exact hgo (Or.inl hwaited) h
      next hwaited => exact hgo (Or.inr hwaited) h

/-- The signals of a program while it runs. -/
def SignalsOf (source : TouchSource) (done : List ChildRound)
    (sent : List (ChildSignal × ℤ)) : Prop :=
  sent = [] ∧ ¬SomeRound (Reason source) done ∨
    ∃ asked, SomeRound (Reason source) done ∧
      (sent = [(.term, asked)] ∧ ¬SomeRound (Overdue source asked) done ∨
        ∃ time, sent = [(.kill, time), (.term, asked)] ∧ SomeRound (Overdue source asked) done ∧
          kChildTermGraceMs ≤ time - asked)

theorem signalsOf_supervised (h : Supervised source rounds s) :
    SignalsOf source rounds s.signals := by
  rcases h.signals with ⟨hsignals, hterm, -⟩ | ⟨hsignals, hterm, hkill⟩ |
    ⟨time, hsignals, hterm, hkill, hgrace⟩
  · refine Or.inl ⟨hsignals, ?_⟩
    rw [← h.term, hterm]
    exact Bool.false_ne_true
  · refine Or.inr ⟨s.termSentAt, h.term.1 hterm, Or.inl ⟨hsignals, ?_⟩⟩
    rw [← h.kill, hkill]
    exact Bool.false_ne_true
  · exact Or.inr ⟨s.termSentAt, h.term.1 hterm, Or.inr ⟨time, hsignals, h.kill.1 hkill, hgrace⟩⟩

/-- **One polite signal at most, one by force at most**: the program is asked to stop in the first
round that has a reason, and killed in the first one that is four seconds late. It was stopped for a
touch exactly when the screen was held for two seconds, and no shutdown came before. -/
theorem runManagedChild_spec {source : TouchSource} {exec : ExecReport} {rounds : List ChildRound}
    {result : ChildResult} {signals : List (ChildSignal × ℤ)}
    (h : runManagedChild source exec rounds = some (result, signals)) :
    (result.started = true ↔ exec = .closed) ∧
      ∃ done last rest, rounds = done ++ last :: rest ∧
        (∀ r ∈ done, r.waited = .running ∨ r.waited = .interrupted) ∧
          (result.exitedForTouch = true ↔ SomeRound (TouchReason source) done) ∧
            ∃ sent, SignalsOf source done sent ∧
              (last.waited = .ended result.status ∧ signals = sent ∨
                last.waited = .failed result.status ∧ signals = (.kill, last.now) :: sent) := by
  rw [runManagedChild] at h
  split at h
  · cases h
  next s status hrun =>
    obtain ⟨rfl, rfl⟩ := Prod.mk.inj (Option.some.inj h)
    refine ⟨by simp, ?_⟩
    obtain ⟨done, last, rest, rfl, hdone, hend⟩ := supervise_spec hrun
    have hsupervised := supervised_rounds source done
    rcases hend with ⟨status', hlast, hending, rfl⟩ | ⟨status', -, hending, -⟩
    · obtain rfl := ChildEnd.ended.inj hending
      exact ⟨done, last, rest, rfl, hdone, hsupervised.touch, _, signalsOf_supervised hsupervised,
        Or.inl ⟨hlast, rfl⟩⟩
    · cases hending
  next s status hrun =>
    obtain ⟨rfl, rfl⟩ := Prod.mk.inj (Option.some.inj h)
    refine ⟨by simp, ?_⟩
    obtain ⟨done, last, rest, rfl, hdone, hend⟩ := supervise_spec hrun
    have hsupervised := supervised_rounds source done
    rcases hend with ⟨status', -, hending, -⟩ | ⟨status', hlast, hending, rfl⟩
    · cases hending
    · obtain rfl := ChildEnd.lost.inj hending
      exact ⟨done, last, rest, rfl, hdone, hsupervised.touch, _, signalsOf_supervised hsupervised,
        Or.inr ⟨hlast, rfl⟩⟩

/-- A screen that is held, and a program that does not stop. -/
def heldRounds : List ChildRound :=
  [⟨.running, 0, false, false, [⟨true, 640, 240, 10⟩], none, 20, 20, 20⟩,
    ⟨.interrupted, 2000, false, false, [], some ⟨true, 650, 240, 2005⟩, 2010, 2011, 2012⟩,
    ⟨.running, 6020, false, false, [⟨false, 650, 240, 6021⟩], none, 6030, 6030, 6030⟩,
    ⟨.ended 9, 6050, false, false, [], none, 6050, 6050, 6050⟩]

theorem runManagedChild_spec_held :
    let signals : List (ChildSignal × ℤ) := [(.kill, 6030), (.term, 2011)]
    ∃ done last rest, heldRounds = done ++ last :: rest ∧
      (∀ r ∈ done, r.waited = .running ∨ r.waited = .interrupted) ∧
        ((true : Bool) = true ↔ SomeRound (TouchReason .device) done) ∧
          ∃ sent, SignalsOf .device done sent ∧
            (last.waited = .ended 9 ∧ signals = sent ∨
              last.waited = .failed 9 ∧ signals = (.kill, last.now) :: sent) :=
  (@runManagedChild_spec .device .closed heldRounds ⟨true, true, 9, false⟩ _ (by decide)).2

/-- What it means that the screen was held. -/
theorem holdDue_spec {done : List ChildRound} :
    HoldDue source done r ↔
      ∃ recent time before, samples source (done ++ [r]) = recent ++ (time, true) :: before ∧
        (∀ sample ∈ recent, sample.2 = true) ∧
          (∀ sample, before.head? = some sample → sample.2 = false) ∧
            kExitHoldMs ≤ r.checked - time := by
  rw [HoldDue]
  constructor
  · rintro ⟨time, hsince, hdue⟩
    obtain ⟨recent, before, hsamples, hrecent, hbefore⟩ := Hold.since_eq_some_iff.1 hsince
    exact ⟨recent, time, before, hsamples, hrecent, hbefore, hdue⟩
  · rintro ⟨recent, time, before, hsamples, hrecent, hbefore, hdue⟩
    exact ⟨time, Hold.since_eq_some_iff.2 ⟨recent, before, hsamples, hrecent, hbefore⟩, hdue⟩

end Rounds

end NesDeck
