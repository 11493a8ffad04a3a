/-
**The lockout after failed logins.**

The upload service counts the failed password checks of every host; the fifth locks the host out for
five minutes.  The counts are kept in a table of at most 256 records: a failed check that finds it
full first removes the record that was seen least recently, whatever it says and whoever failed.

A login asks twice whether its host is locked out, before and after it has passed the gate that lets
one password check through at a time; the second question, the check and the record of its outcome
are one after the other for all hosts. The clock is read just before the lock of the table is taken.
Behind the gate nobody else is, so that the times of the second question and of the record are read
in the order in which their sections come, and here they are read in them; the first question
changes nothing, whatever time it has read.

Main definitions:

* `NesDeck.Uploader.Logins` — the table of attempts;
* `NesDeck.Uploader.Logins.loginBlocked`, `NesDeck.Uploader.Logins.recordLogin`,
  `NesDeck.Uploader.Logins.react` — the functions of `server.go`, and one login;
* `NesDeck.Uploader.Tally` — what the checks of a host amount to, whatever the table remembers;
* `NesDeck.Uploader.Lockout.Lawful` — no password is checked for a host that is locked out;
* `NesDeck.Uploader.Lockout.Clean` — a failed check removes no record that still counts.

Main results:

* `NesDeck.Uploader.Lockout.bounded_react` — the table has at most 256 records, always;
* `NesDeck.Uploader.Lockout.agrees_react` — a clean login keeps the table in step with the tally;
* `NesDeck.Uploader.Lockout.lawful_of_clean` — **in a run of clean logins no password is checked for
  a host that is locked out**.
-/

import Mathlib.Algebra.Group.Nat.Defs
import NesDeck.Lib.HostFile
import NesDeck.Lib.Run
import NesDeck.Lib.Table

set_option relaxedAutoImplicit false
set_option autoImplicit false

namespace NesDeck.Uploader

open HostFile (Bytes ascii)

def maximumLoginSources : ℕ := 256

/-- Five minutes, in nanoseconds. -/
def fiveMinutes : ℕ := 5 * 60 * 10 ^ 9

/-- `loginAttempt`; a time is a number of nanoseconds, and the zero time is 0. -/
structure LoginAttempt where
  failures : ℕ
  lockedUntil : ℕ
  lastSeen : ℕ
  deriving DecidableEq

/-- The record of a host that has none. -/
def LoginAttempt.zero : LoginAttempt := ⟨0, 0, 0⟩

/-- The part of `application` that logins use. -/
structure Logins where
  attempts : Table Bytes LoginAttempt
  /-- The last time that was read. -/
  clock : ℕ

namespace Logins

/-- The state of a service that was just started. -/
def started (clock : ℕ) : Logins := ⟨Table.empty, clock⟩

/-- The record of a host. -/
def attempt (app : Logins) (host : Bytes) : LoginAttempt := (app.attempts.get host).getD .zero

/-- `loginBlocked`, with the time that remains. -/
def loginBlocked (app : Logins) (host : Bytes) (now : ℕ) : Option ℕ :=
  if now < (app.attempt host).lockedUntil then some ((app.attempt host).lockedUntil - now) else none

/-- The host whose record goes when the table is full.  The records are visited in any order. -/
def oldestHost (app : Logins) (visit : Table.Visit Bytes LoginAttempt) : Bytes :=
  app.attempts.oldest visit [] (·.lastSeen)

/-- The first half of a failed `recordLogin`. -/
def makeRoom (app : Logins) (visit : Table.Visit Bytes LoginAttempt) : Logins :=
  if maximumLoginSources ≤ app.attempts.size then
    { app with attempts := app.attempts.erase (app.oldestHost visit) }
  else app

/-- The record after one more failure. -/
def failedAttempt (attempt : LoginAttempt) (now : ℕ) : LoginAttempt :=
  if 5 ≤ attempt.failures + 1 then ⟨0, now + fiveMinutes, now⟩
  else ⟨attempt.failures + 1, attempt.lockedUntil, now⟩

/-- `recordLogin`. -/
def recordLogin (app : Logins) (host : Bytes) (successful : Bool)
    (visit : Table.Visit Bytes LoginAttempt) (now : ℕ) : Logins :=
  if successful then { app with attempts := app.attempts.erase host }
  else
    -- Room is made before the record of this host is looked up, which may be the one that goes.
    let app := app.makeRoom visit
    { app with attempts := app.attempts.set host (failedAttempt (app.attempt host) now) }

/-- A login: it arrives and is turned away or waits for the gate, or it is let through the gate, and
its password is checked unless its host is locked out by now. -/
inductive Event where
  | arrive (host : Bytes) (wait : ℕ)
  | gate (host : Bytes) (wait : ℕ) (successful : Bool) (pause : ℕ)
      (visit : Table.Visit Bytes LoginAttempt)

/-- The clock moves on, and is read. -/
def tick (app : Logins) (wait : ℕ) : Logins := { app with clock := app.clock + wait }

/-- The part of `handleLogin` that has to do with attempts.  The check of a password takes a while:
its outcome is recorded `pause` after its host was found not to be locked out. -/
def react (app : Logins) : Event → Logins
  | .arrive _ wait => app.tick wait
  | .gate host wait successful pause visit =>
      let app := app.tick wait
      match app.loginBlocked host app.clock with
      | some _ => app
      | none =>
          let app := app.tick pause
          app.recordLogin host successful visit app.clock

end Logins

/-! ### What the checks of a host amount to -/

/-- The failed checks of a host since its last success or lockout, and the end of that lockout. -/
structure Tally where
  failures : ℕ
  lockEnd : ℕ

/-- One more check. -/
def Tally.check (tally : Tally) (successful : Bool) (now : ℕ) : Tally :=
  if successful then { tally with failures := 0 }
  else if tally.failures + 1 = 5 then ⟨0, now + fiveMinutes⟩
  else { tally with failures := tally.failures + 1 }

/-- A password that was checked. -/
structure PasswordCheck where
  host : Bytes
  successful : Bool
  time : ℕ

/-- What the checks of a host amount to. -/
def tally (checks : List PasswordCheck) (host : Bytes) : Tally :=
  (checks.filter (·.host = host)).foldl (fun t check => t.check check.successful check.time) ⟨0, 0⟩

/-- The service, with the password checks it has made. -/
structure Lockout where
  app : Logins
  checks : List PasswordCheck

namespace Lockout

def started (clock : ℕ) : Lockout := ⟨Logins.started clock, []⟩

/-- The password checks that a login makes. -/
def checksOf (app : Logins) : Logins.Event → List PasswordCheck
  | .arrive _ _ => []
  | .gate host wait successful pause _ =>
      if (app.loginBlocked host (app.clock + wait)).isNone then
        [⟨host, successful, app.clock + wait + pause⟩]
      else []

/-- One login. -/
def react (lockout : Lockout) (event : Logins.Event) : Lockout where
  app := lockout.app.react event
  checks := lockout.checks ++ checksOf lockout.app event

/-- No password is checked for a host during its lockout. -/
def Lawful (lockout : Lockout) (event : Logins.Event) : Prop :=
  match event with
  | .arrive _ _ => True
  | .gate host wait _ _ _ =>
      checksOf lockout.app event ≠ [] →
        (tally lockout.checks host).lockEnd ≤ lockout.app.clock + wait

/-- A record that says nothing any more: no failure is counted, and no lock is on. -/
def Idle (attempt : LoginAttempt) (now : ℕ) : Prop :=
  attempt.failures = 0 ∧ attempt.lockedUntil ≤ now

/-- A failed check finds room for its record, or the record that has to go is idle. -/
def Clean (lockout : Lockout) (event : Logins.Event) : Prop :=
  match event with
  | .arrive _ _ => True
  | .gate _ wait successful pause visit =>
      checksOf lockout.app event ≠ [] → successful = false →
        maximumLoginSources ≤ lockout.app.attempts.size →
          Idle (lockout.app.attempt (lockout.app.oldestHost visit))
            (lockout.app.clock + wait + pause)

/-- There are at most 256 records. -/
def Bounded (lockout : Lockout) : Prop := lockout.app.attempts.size ≤ maximumLoginSources

/-! ### The size of the table -/

theorem size_makeRoom_lt {app : Logins} (h : app.attempts.size ≤ maximumLoginSources)
    (visit : Table.Visit Bytes LoginAttempt) :
    (app.makeRoom visit).attempts.size < maximumLoginSources := by
  unfold Logins.makeRoom
  split
  · next hfull =>
      have hentries : app.attempts.entries ≠ [] := by
        intro hnil
        rw [Table.size, hnil] at hfull
        exact absurd hfull (by decide)
      obtain ⟨record, hmem⟩ := Table.oldest_mem hentries visit [] (·.lastSeen)
      have hsize := Table.size_erase hmem
      exact Nat.lt_of_lt_of_le (by simp only [Logins.oldestHost]; omega) h
  · next hroom => exact Nat.lt_of_not_le hroom

theorem size_recordLogin_le {app : Logins} (h : app.attempts.size ≤ maximumLoginSources)
    (host : Bytes) (successful : Bool) (visit : Table.Visit Bytes LoginAttempt) (now : ℕ) :
    (app.recordLogin host successful visit now).attempts.size ≤ maximumLoginSources := by
  unfold Logins.recordLogin
  split
  · exact Nat.le_trans (Table.size_erase_le _ _) h
  · exact Nat.le_trans (Table.size_set_le _ _ _) (size_makeRoom_lt h visit)

/-- **The table never grows beyond its bound.** -/
theorem bounded_react (lockout : Lockout) (event : Logins.Event) (h : lockout.Bounded) :
    (lockout.react event).Bounded := by
  unfold Bounded react Logins.react at *
  cases event with
  | arrive host wait => exact h
  | gate host wait successful pause visit =>
      simp only
      split
      · exact h
      · have hticked : ((lockout.app.tick wait).tick pause).attempts.size ≤ maximumLoginSources := h
        exact size_recordLogin_le hticked host successful visit _

theorem bounded_started (clock : ℕ) : (started clock).Bounded := Nat.zero_le _

/-! ### The table and the tallies -/

/-- A record says what the tally of its host says, as far as it matters at the time `now`. -/
def Agrees (attempt : LoginAttempt) (tally : Tally) (now : ℕ) : Prop :=
  attempt.failures = tally.failures ∧
    (attempt.lockedUntil = tally.lockEnd ∨ (attempt.lockedUntil ≤ now ∧ tally.lockEnd ≤ now))

/-- Every record agrees with its tally. -/
def AllAgree (lockout : Lockout) : Prop :=
  ∀ host, Agrees (lockout.app.attempt host) (tally lockout.checks host) lockout.app.clock

theorem Agrees.mono {attempt : LoginAttempt} {t : Tally} {now : ℕ} (h : Agrees attempt t now)
    {later : ℕ} (hle : now ≤ later) : Agrees attempt t later := by
  refine ⟨h.1, h.2.imp_right ?_⟩
  intro hover
  exact ⟨Nat.le_trans hover.1 hle, Nat.le_trans hover.2 hle⟩

/-- A host that is not locked out by its record is not locked out by its tally. -/
theorem Agrees.lockEnd_le {attempt : LoginAttempt} {t : Tally} {now : ℕ} (h : Agrees attempt t now)
    (hfree : attempt.lockedUntil ≤ now) : t.lockEnd ≤ now := by
  rcases h.2 with hsame | hover
  · rw [← hsame]
    exact hfree
  · exact hover.2

/-- An idle record may be forgotten. -/
theorem Agrees.forget {attempt : LoginAttempt} {t : Tally} {now : ℕ} (h : Agrees attempt t now)
    (hidle : Idle attempt now) : Agrees .zero t now :=
  ⟨by rw [← h.1, hidle.1]; rfl, Or.inr ⟨Nat.zero_le _, h.lockEnd_le hidle.2⟩⟩

/-- A failure counts alike in the record and in the tally. -/
theorem Agrees.failed {attempt : LoginAttempt} {t : Tally} {now : ℕ} (h : Agrees attempt t now)
    (hfew : t.failures < 5) :
    Agrees (Logins.failedAttempt attempt now) (t.check false now) now := by
  unfold Logins.failedAttempt Tally.check
  rw [h.1]
  by_cases hfifth : t.failures + 1 = 5
  · simp [hfifth, Agrees]
  · have hnot : ¬5 ≤ t.failures + 1 := by omega
    simp only [hfifth, hnot, if_false, Bool.false_eq_true]
    exact ⟨rfl, h.2⟩

/-- A success clears both. -/
theorem Agrees.succeeded {attempt : LoginAttempt} {t : Tally} {now : ℕ} (h : Agrees attempt t now)
    (hfree : attempt.lockedUntil ≤ now) : Agrees .zero (t.check true now) now :=
  ⟨rfl, Or.inr ⟨Nat.zero_le _, h.lockEnd_le hfree⟩⟩

/-- The checks of other hosts do not count. -/
theorem tally_append_of_ne (checks : List PasswordCheck) {host : Bytes} {check : PasswordCheck}
    (h : check.host ≠ host) : tally (checks ++ [check]) host = tally checks host := by
  simp [tally, List.filter_append, h]

theorem tally_append_self (checks : List PasswordCheck) (check : PasswordCheck) :
    tally (checks ++ [check]) check.host =
      (tally checks check.host).check check.successful check.time := by
  simp [tally, List.filter_append]

/-- A tally never counts to five. -/
theorem failures_tally_lt (checks : List PasswordCheck) (host : Bytes) :
    (tally checks host).failures < 5 := by
  refine Run.invariant (I := fun t : Tally => t.failures < 5) ?_ (by decide) _
  intro t check h
  unfold Tally.check
  split
  · simp
  · split
    · simp
    · simp only
      omega

theorem allAgree_started (clock : ℕ) : (started clock).AllAgree :=
  fun _ => ⟨rfl, Or.inl rfl⟩

@[simp] theorem clock_recordLogin (app : Logins) (host : Bytes) (successful : Bool)
    (visit : Table.Visit Bytes LoginAttempt) (now : ℕ) :
    (app.recordLogin host successful visit now).clock = app.clock := by
  unfold Logins.recordLogin Logins.makeRoom
  split
  · rfl
  · split
    · rfl
    · rfl

/-- The record of another host after a failure is the one it had, unless it had to go. -/
theorem agrees_makeRoom {app : Logins} {checks : List PasswordCheck}
    (h : ∀ host, Agrees (app.attempt host) (tally checks host) app.clock)
    {visit : Table.Visit Bytes LoginAttempt}
    (hclean : maximumLoginSources ≤ app.attempts.size →
      Idle (app.attempt (app.oldestHost visit)) app.clock) (host : Bytes) :
    Agrees ((app.makeRoom visit).attempt host) (tally checks host) app.clock := by
  unfold Logins.makeRoom
  split
  · next hfull =>
      by_cases hhost : host = app.oldestHost visit
      · -- The record that goes is idle.
        rw [Logins.attempt, hhost, Table.get_erase_self]
        exact (h (app.oldestHost visit)).forget (hclean hfull)
      · rw [Logins.attempt, Table.get_erase_of_ne _ hhost]
        exact h host
  · exact h host

/-- The records after a check agree with the tallies after it. -/
theorem agrees_recordLogin {app : Logins} {checks : List PasswordCheck}
    (h : ∀ host, Agrees (app.attempt host) (tally checks host) app.clock) {host : Bytes}
    (hfree : (app.attempt host).lockedUntil ≤ app.clock) {successful : Bool}
    {visit : Table.Visit Bytes LoginAttempt}
    (hclean : successful = false → maximumLoginSources ≤ app.attempts.size →
      Idle (app.attempt (app.oldestHost visit)) app.clock) (other : Bytes) :
    Agrees ((app.recordLogin host successful visit app.clock).attempt other)
      (tally (checks ++ [⟨host, successful, app.clock⟩]) other) app.clock := by
  -- The tally of the host that was checked has one more check, the others stay as they are.
  by_cases hother : other = host
  · subst hother
    rw [tally_append_self checks ⟨other, successful, app.clock⟩]
    unfold Logins.recordLogin
    cases successful with
    | true =>
        rw [if_pos rfl, Logins.attempt, Table.get_erase_self]
        exact (h other).succeeded hfree
    | false =>
        simp only [Bool.false_eq_true, if_false]
        rw [Logins.attempt, Table.get_set_self]
        exact (agrees_makeRoom h (hclean rfl) other).failed (failures_tally_lt checks other)
  · rw [tally_append_of_ne checks (Ne.symm hother)]
    unfold Logins.recordLogin
    cases successful with
    | true =>
        rw [if_pos rfl, Logins.attempt, Table.get_erase_of_ne _ hother]
        exact h other
    | false =>
        simp only [Bool.false_eq_true, if_false]
        rw [Logins.attempt, Table.get_set_of_ne _ _ hother]
        exact agrees_makeRoom h (hclean rfl) other

/-! ### The law of a run -/

/-- A login that is turned away changes no record, and one that is checked is recorded. -/
theorem react_gate (lockout : Lockout) (host : Bytes) (wait : ℕ) (successful : Bool) (pause : ℕ)
    (visit : Table.Visit Bytes LoginAttempt) :
    (checksOf lockout.app (.gate host wait successful pause visit) = [] ∧
        lockout.react (.gate host wait successful pause visit) =
          ⟨lockout.app.tick wait, lockout.checks⟩) ∨
      (checksOf lockout.app (.gate host wait successful pause visit) =
          [⟨host, successful, lockout.app.clock + wait + pause⟩] ∧
        (lockout.app.attempt host).lockedUntil ≤ lockout.app.clock + wait ∧
        lockout.react (.gate host wait successful pause visit) =
          ⟨((lockout.app.tick wait).tick pause).recordLogin host successful visit
              ((lockout.app.tick wait).tick pause).clock,
            lockout.checks ++ [⟨host, successful, lockout.app.clock + wait + pause⟩]⟩) := by
  unfold react Logins.react checksOf
  by_cases hlocked : lockout.app.clock + wait < (lockout.app.attempt host).lockedUntil
  · have hblocked : lockout.app.loginBlocked host (lockout.app.clock + wait) =
        some ((lockout.app.attempt host).lockedUntil - (lockout.app.clock + wait)) := if_pos hlocked
    have hticked : (lockout.app.tick wait).loginBlocked host (lockout.app.tick wait).clock =
        some ((lockout.app.attempt host).lockedUntil - (lockout.app.clock + wait)) := hblocked
    left
    simp [hblocked, hticked]
  · have hfree : lockout.app.loginBlocked host (lockout.app.clock + wait) = none := if_neg hlocked
    have hticked : (lockout.app.tick wait).loginBlocked host (lockout.app.tick wait).clock = none :=
      hfree
    right
    simp [hfree, hticked, Nat.not_lt.1 hlocked]

/-- While the records agree with the tallies, no password is checked that must not be. -/
theorem lawful_of_allAgree {lockout : Lockout} (h : lockout.AllAgree) (event : Logins.Event) :
    lockout.Lawful event := by
  cases event with
  | arrive host wait => trivial
  | gate host wait successful pause visit =>
      intro hchecked
      rcases react_gate lockout host wait successful pause visit with ⟨hnone, -⟩ | ⟨-, hfree, -⟩
      · exact absurd hnone hchecked
      · exact ((h host).mono (Nat.le_add_right _ wait)).lockEnd_le hfree

/-- **A clean login keeps the records in step with the tallies.** -/
theorem agrees_react {lockout : Lockout} (h : lockout.AllAgree) {event : Logins.Event}
    (hclean : lockout.Clean event) : (lockout.react event).AllAgree := by
  cases event with
  | arrive host wait =>
      intro other
      rw [react, checksOf, List.append_nil]
      exact (h other).mono (Nat.le_add_right _ wait)
  | gate host wait successful pause visit =>
      rcases react_gate lockout host wait successful pause visit with
        ⟨-, hsame⟩ | ⟨hchecked, hfree, hrecorded⟩
      · intro other
        rw [hsame]
        exact (h other).mono (Nat.le_add_right _ wait)
      · rw [hrecorded]
        have hlater : ∀ other, Agrees (((lockout.app.tick wait).tick pause).attempt other)
            (tally lockout.checks other) ((lockout.app.tick wait).tick pause).clock :=
          fun other => (h other).mono (by simp only [Logins.tick]; omega)
        have hroom : successful = false →
            maximumLoginSources ≤ ((lockout.app.tick wait).tick pause).attempts.size →
            Idle (((lockout.app.tick wait).tick pause).attempt
              (((lockout.app.tick wait).tick pause).oldestHost visit))
              ((lockout.app.tick wait).tick pause).clock := by
          intro hfailed hfull
          exact hclean (by rw [hchecked]; exact List.cons_ne_nil _ _) hfailed hfull
        intro other
        have hagrees := agrees_recordLogin hlater
          (Nat.le_trans hfree (Nat.le_add_right _ pause)) hroom other
        simp only [clock_recordLogin]
        exact hagrees

/-- In a run of clean logins every login is lawful, from any state in which records and tallies
agree. -/
theorem lawful_run {lockout : Lockout} (h : lockout.AllAgree) {events : List Logins.Event}
    (hclean : Run.Each react Clean lockout events) : Run.Each react Lawful lockout events := by
  induction events generalizing lockout with
  | nil => trivial
  | cons event events ih =>
      exact ⟨lawful_of_allAgree h event, ih (agrees_react h hclean.1) hclean.2⟩

/-- The law of a run: no password is checked for a host that is locked out, and the table stays
within its bound. -/
def LawfulRun (clock : ℕ) (events : List Logins.Event) : Prop :=
  Run.Each react Lawful (started clock) events ∧ Run.Always react Bounded (started clock) events

/-- The bound holds in every run. -/
theorem always_bounded (clock : ℕ) (events : List Logins.Event) :
    Run.Always react Bounded (started clock) events := by
  rw [Run.always_iff]
  intro done _
  exact Run.invariant bounded_react (bounded_started clock) done

/-- **In a run of clean logins no password is checked for a host that is locked out**, and the table
stays within its bound. -/
theorem lawful_of_clean (clock : ℕ) (events : List Logins.Event)
    (hclean : Run.Each react Clean (started clock) events) : LawfulRun clock events :=
  ⟨lawful_run (allAgree_started clock) hclean, always_bounded clock events⟩

/-! ### A crowd of hosts -/

/-- A host fails, one tick of the clock later. -/
def failure (host : Bytes) : Logins.Event := .gate host 1 false 0 .asKept

/-- One host fails three times: there is room for its record. -/
theorem lawful_of_clean_host : LawfulRun 0 (List.replicate 3 (failure (ascii "192.168.1.50"))) := by
  refine lawful_of_clean 0 _ ⟨?_, ?_, ?_, trivial⟩
  · intro _ _ hfull
    exact absurd hfull (by decide)
  · intro _ _ hfull
    exact absurd hfull (by decide)
  · intro _ _ hfull
    exact absurd hfull (by decide)

/-- A failure of a host that is not locked out, while there is room. -/
theorem react_failure {lockout : Lockout} {host : Bytes}
    (hfree : (lockout.app.attempt host).lockedUntil ≤ lockout.app.clock + 1)
    (hroom : lockout.app.attempts.size < maximumLoginSources) :
    lockout.react (failure host) =
      ⟨⟨lockout.app.attempts.set host
            (Logins.failedAttempt (lockout.app.attempt host) (lockout.app.clock + 1)),
          lockout.app.clock + 1⟩,
        lockout.checks ++ [⟨host, false, lockout.app.clock + 1⟩]⟩ := by
  have hnot : ¬maximumLoginSources ≤ lockout.app.attempts.size := Nat.not_le.2 hroom
  have hunlocked : ¬lockout.app.clock + 1 < (lockout.app.attempt host).lockedUntil :=
    Nat.not_lt.2 hfree
  rcases react_gate lockout host 1 false 0 .asKept with ⟨hnone, -⟩ | ⟨-, -, hrecorded⟩
  · simp [checksOf, Logins.loginBlocked, hunlocked] at hnone
  · rw [failure, hrecorded]
    simp only [Logins.recordLogin, Logins.makeRoom, Logins.tick, hnot, if_false, Bool.false_eq_true,
      Nat.add_zero]
    rfl

/-- A new host fails while there is room: it gets a record, and the others keep theirs. -/
theorem react_failure_new {lockout : Lockout} {host : Bytes}
    (hnone : lockout.app.attempts.get host = none)
    (hroom : lockout.app.attempts.size < maximumLoginSources) :
    let next := lockout.react (failure host)
    next.app.attempts.size = lockout.app.attempts.size + 1 ∧
      next.app.clock = lockout.app.clock + 1 ∧
      next.app.attempts.get host = some ⟨1, 0, lockout.app.clock + 1⟩ ∧
      ∀ other, other ≠ host → next.app.attempts.get other = lockout.app.attempts.get other ∧
        tally next.checks other = tally lockout.checks other := by
  intro next
  have hzero : lockout.app.attempt host = .zero := by rw [Logins.attempt, hnone]; rfl
  have hfree : (lockout.app.attempt host).lockedUntil ≤ lockout.app.clock + 1 := by
    rw [hzero]
    exact Nat.zero_le _
  have hstep : next = _ := react_failure hfree hroom
  rw [hzero] at hstep
  rw [hstep]
  refine ⟨Table.size_set_of_get_eq_none hnone _, rfl, ?_, ?_⟩
  · rw [Table.get_set_self]
    rfl
  · intro other hne
    exact ⟨Table.get_set_of_ne _ _ hne, tally_append_of_ne _ (Ne.symm hne)⟩

/-- New hosts fail once each: the others keep their records and their tallies, and are seen before
all of them. -/
theorem run_crowd {others : List Bytes} (hnodup : others.Nodup) {lockout : Lockout}
    (hnew : ∀ host ∈ others, lockout.app.attempts.get host = none)
    (hroom : lockout.app.attempts.size + others.length ≤ maximumLoginSources) :
    let final := (others.map failure).foldl react lockout
    final.app.attempts.size = lockout.app.attempts.size + others.length ∧
      final.app.clock = lockout.app.clock + others.length ∧
      (∀ host ∉ others, final.app.attempts.get host = lockout.app.attempts.get host ∧
        tally final.checks host = tally lockout.checks host) ∧
      ∀ host ∈ others, ∀ attempt, final.app.attempts.get host = some attempt →
        lockout.app.clock < attempt.lastSeen := by
  induction others generalizing lockout with
  | nil => simp
  | cons host others ih =>
      intro final
      obtain ⟨hnot, hrest⟩ := List.nodup_cons.1 hnodup
      rw [List.length_cons] at hroom
      obtain ⟨hsize, hclock, hown, hkept⟩ :=
        react_failure_new (hnew host List.mem_cons_self) (by omega)
      have hfinal : final = (others.map failure).foldl react (lockout.react (failure host)) := rfl
      obtain ⟨hsizes, hclocks, hothers, hseen⟩ := ih hrest (fun other hother => by
        rw [(hkept other fun heq => hnot (heq ▸ hother)).1]
        exact hnew other (List.mem_cons_of_mem _ hother)) (by omega)
      rw [← hfinal] at hsizes hclocks hothers hseen
      -- The first of the hosts has its record, and the others follow.
      refine ⟨by rw [hsizes, hsize, List.length_cons]; omega,
        by rw [hclocks, hclock, List.length_cons]; omega, ?_, ?_⟩
      · intro other hother
        obtain ⟨hne, hnotin⟩ := not_or.1 (fun h => hother (List.mem_cons.2 h))
        rw [(hothers other hnotin).1, (hothers other hnotin).2]
        exact hkept other hne
      · intro other hother attempt hattempt
        rcases List.mem_cons.1 hother with rfl | hin
        · -- The host that failed first keeps the record it got then.
          rw [(hothers other hnot).1, hown] at hattempt
          obtain rfl := Option.some.inj hattempt
          exact Nat.lt_succ_self _
        · have hlater := hseen other hin attempt hattempt
          omega

/-- A host that fails up to four times in a row has them all on its record. -/
theorem run_victim (victim : Bytes) {n : ℕ} (hn : n < 4) :
    let final := (List.replicate (n + 1) (failure victim)).foldl react (started 0)
    final.app.attempts.entries = [(victim, ⟨n + 1, 0, n + 1⟩)] ∧ final.app.clock = n + 1 ∧
      tally final.checks victim = ⟨n + 1, 0⟩ := by
  induction n with
  | zero =>
      intro final
      have hfinal : final = (started 0).react (failure victim) := rfl
      have hstep : (started 0).react (failure victim) = _ :=
        react_failure (Nat.zero_le _) (by decide)
      rw [hfinal, hstep]
      exact ⟨rfl, rfl, tally_append_self [] _⟩
  | succ n ih =>
      intro final
      obtain ⟨hentries, hclock, htally⟩ := ih (by omega)
      have hfinal : final =
          ((List.replicate (n + 1) (failure victim)).foldl react (started 0)).react
          (failure victim) := by
        simp only [final, List.replicate_succ' (n := n + 1), List.foldl_append, List.foldl_cons,
          List.foldl_nil]
      generalize (List.replicate (n + 1) (failure victim)).foldl react (started 0) = before at *
      -- The table holds one record, which has counted all failures so far.
      have hattempt : before.app.attempt victim = ⟨n + 1, 0, n + 1⟩ := by
        rw [Logins.attempt, (Table.get_eq_some _ _ _).2 (hentries ▸ List.mem_singleton_self _)]
        rfl
      have hfree : (before.app.attempt victim).lockedUntil ≤ before.app.clock + 1 := by
        rw [hattempt]
        exact Nat.zero_le _
      have hroom : before.app.attempts.size < maximumLoginSources := by
        rw [Table.size, hentries]
        exact (by decide : 1 < maximumLoginSources)
      have hfew : ¬5 ≤ n + 1 + 1 := by omega
      rw [hfinal, react_failure hfree hroom, hattempt, hclock]
      refine ⟨?_, rfl, ?_⟩
      · simp [Table.set, Table.erase, Table.filter, hentries, Logins.failedAttempt, hfew]
      · rw [tally_append_self before.checks ⟨victim, false, n + 1 + 1⟩, htally]
        simp only [Tally.check, Bool.false_eq_true, if_false]
        rw [if_neg (by omega)]

/-- The record that was seen before all others is the one that goes. -/
theorem oldestHost_eq {app : Logins} {host : Bytes} {record : LoginAttempt}
    (hget : app.attempts.get host = some record)
    (hlater : ∀ other attempt, app.attempts.get other = some attempt →
      other ≠ [] ∧ (other = host ∨ record.lastSeen < attempt.lastSeen))
    (visit : Table.Visit Bytes LoginAttempt) : app.oldestHost visit = host := by
  have hmem := (Table.get_eq_some _ _ _).1 hget
  -- The loop finds some record, and that one was seen no later than ours.
  obtain ⟨found, hfound⟩ := Table.oldest_mem (List.ne_nil_of_mem hmem) visit [] (·.lastSeen)
  have hkeys : ∀ entry ∈ app.attempts.entries, entry.1 ≠ [] := by
    rintro ⟨other, attempt⟩ hentry
    exact (hlater other attempt ((Table.get_eq_some _ _ _).2 hentry)).1
  have hle : found.lastSeen ≤ record.lastSeen := Table.oldest_le hkeys hfound _ hmem
  rcases (hlater _ found ((Table.get_eq_some _ _ _).2 hfound)).2 with hsame | hlt
  · exact hsame
  · exact absurd hlt (Nat.not_lt.2 hle)

/-- A failure of a host that is not locked out, while the table is full and its own record is the
one that goes: its failures are counted afresh. -/
theorem react_failure_forgotten {lockout : Lockout} {host : Bytes}
    (hfree : (lockout.app.attempt host).lockedUntil ≤ lockout.app.clock + 1)
    (hfull : maximumLoginSources ≤ lockout.app.attempts.size)
    (holdest : lockout.app.oldestHost .asKept = host) :
    lockout.react (failure host) =
      ⟨⟨(lockout.app.attempts.erase host).set host ⟨1, 0, lockout.app.clock + 1⟩,
          lockout.app.clock + 1⟩,
        lockout.checks ++ [⟨host, false, lockout.app.clock + 1⟩]⟩ := by
  have hunlocked : ¬lockout.app.clock + 1 < (lockout.app.attempt host).lockedUntil :=
    Nat.not_lt.2 hfree
  have hmade : ((lockout.app.tick 1).tick 0).makeRoom .asKept =
      ⟨lockout.app.attempts.erase host, lockout.app.clock + 1⟩ := by
    have hsame : ((lockout.app.tick 1).tick 0).oldestHost .asKept = host := holdest
    have hnoroom : maximumLoginSources ≤ ((lockout.app.tick 1).tick 0).attempts.size := hfull
    rw [Logins.makeRoom, if_pos hnoroom, hsame]
    rfl
  rcases react_gate lockout host 1 false 0 .asKept with ⟨hnone, -⟩ | ⟨-, -, hrecorded⟩
  · simp [checksOf, Logins.loginBlocked, hunlocked] at hnone
  · have hzero : (⟨lockout.app.attempts.erase host, lockout.app.clock + 1⟩ : Logins).attempt host =
        .zero := by
      rw [Logins.attempt, Table.get_erase_self]
      rfl
    rw [failure, hrecorded]
    simp only [Logins.recordLogin, hmade, hzero, Bool.false_eq_true, if_false]
    rfl

/-- The password of a host that is not locked out is checked. -/
theorem checksOf_failure_ne {app : Logins} {host : Bytes}
    (hfree : (app.attempt host).lockedUntil ≤ app.clock + 1) :
    checksOf app (failure host) ≠ [] := by
  have hunlocked : app.loginBlocked host (app.clock + 1) = none := if_neg (Nat.not_lt.2 hfree)
  rw [failure, checksOf, hunlocked]
  exact List.cons_ne_nil _ _

/-- After a crowd the record of the host that failed before it is the oldest of a full table, and
its four failures are still counted. -/
theorem run_victim_crowd {victim : Bytes} {others : List Bytes} (hnodup : (victim :: others).Nodup)
    (hlen : others.length = 255) (hblank : ∀ host ∈ victim :: others, host ≠ []) :
    let crowded := (List.replicate 4 (failure victim) ++ others.map failure).foldl react (started 0)
    crowded.app.attempts.size = maximumLoginSources ∧ crowded.app.clock = 259 ∧
      crowded.app.attempt victim = ⟨4, 0, 4⟩ ∧ crowded.app.oldestHost .asKept = victim ∧
      tally crowded.checks victim = ⟨4, 0⟩ := by
  intro crowded
  obtain ⟨hnot, hothers⟩ := List.nodup_cons.1 hnodup
  obtain ⟨hentries, hclock, htally⟩ := run_victim victim (n := 3) (by decide)
  have hcrowded : crowded = (others.map failure).foldl react
      ((List.replicate (3 + 1) (failure victim)).foldl react (started 0)) := List.foldl_append
  generalize (List.replicate (3 + 1) (failure victim)).foldl react (started 0) = before
    at hentries hclock htally hcrowded
  have hvictim : before.app.attempts.get victim = some ⟨4, 0, 4⟩ :=
    (Table.get_eq_some _ _ _).2 (hentries ▸ List.mem_singleton_self _)
  have hnone : ∀ host, host ≠ victim → before.app.attempts.get host = none := by
    intro host hne
    rw [Table.get_eq_none, hentries]
    simp [hne]
  have hsize : before.app.attempts.size = 1 := by rw [Table.size, hentries]; rfl
  obtain ⟨hfull, htime, hkept, hseen⟩ := run_crowd hothers
    (fun host hhost => hnone host fun heq => hnot (heq ▸ hhost))
    (by rw [hsize, hlen]; decide)
  rw [← hcrowded, hsize, hlen] at hfull
  rw [← hcrowded, hclock, hlen] at htime
  simp only [← hcrowded] at hkept hseen
  obtain ⟨hrecord, hfour⟩ := hkept victim hnot
  rw [hvictim] at hrecord
  refine ⟨hfull, htime, by rw [Logins.attempt, hrecord]; rfl, ?_, by rw [hfour, htally]⟩
  refine oldestHost_eq hrecord ?_ .asKept
  intro host attempt hget
  by_cases hin : host ∈ others
  · have hlater := hseen host hin attempt hget
    exact ⟨hblank _ (List.mem_cons_of_mem _ hin), Or.inr (by simp only; omega)⟩
  · have hsame : host = victim := by
      by_contra hne
      rw [(hkept host hin).1, hnone host hne] at hget
      cases hget
    exact ⟨hsame ▸ hblank _ List.mem_cons_self, Or.inl hsame⟩

/-- **A crowd makes the service forget a failure.**  A host fails four times, 255 other hosts once
each, and it fails a fifth time and tries again at once: that password is checked. -/
theorem not_lawful_crowd {victim : Bytes} {others : List Bytes} (hnodup : (victim :: others).Nodup)
    (hlen : others.length = 255) (hblank : ∀ host ∈ victim :: others, host ≠ []) :
    ¬Run.Each react Lawful (started 0)
      (List.replicate 4 (failure victim) ++ others.map failure ++
        [failure victim, failure victim]) := by
  intro hlawful
  obtain ⟨hfull, hclock, hattempt, holdest, htally⟩ := run_victim_crowd hnodup hlen hblank
  have hlast := Run.each_iff.1 hlawful
    (List.replicate 4 (failure victim) ++ others.map failure ++ [failure victim]) (failure victim)
    (by simp)
  rw [List.foldl_append, List.foldl_cons, List.foldl_nil] at hlast
  generalize (List.replicate 4 (failure victim) ++ others.map failure).foldl react (started 0) =
    crowded at hfull hclock hattempt holdest htally hlast
  have hfree : (crowded.app.attempt victim).lockedUntil ≤ crowded.app.clock + 1 := by
    rw [hattempt]
    exact Nat.zero_le _
  rw [react_failure_forgotten hfree hfull.ge holdest, hclock] at hlast
  -- The fifth failure is the first one of the new record, which has no lock.
  have hchecked := hlast (checksOf_failure_ne (by simp [Logins.attempt]))
  rw [tally_append_self crowded.checks ⟨victim, false, 259 + 1⟩, htally] at hchecked
  have hover : 260 + fiveMinutes ≤ 261 := hchecked
  exact absurd hover (by decide)

/-- The address `10.A.B.C`, where A, B and C are the digits of a number below 1000. -/
def addressOf (n : ℕ) : Bytes :=
  [49, 48, 46, .ofNat (48 + n / 100), 46, .ofNat (48 + n / 10 % 10), 46, .ofNat (48 + n % 10)]

theorem addressOf_injOn {n k : ℕ} (hn : n < 255) (hk : k < 255) (h : addressOf n = addressOf k) :
    n = k := by
  simp only [addressOf, List.cons.injEq, and_true, true_and] at h
  obtain ⟨hundreds, htens, hones⟩ := h
  have hdigit : ∀ a b : ℕ, a < 10 → b < 10 → UInt8.ofNat (48 + a) =
      UInt8.ofNat (48 + b) → a = b := by
    intro a b ha hb hab
    have hnat := congrArg UInt8.toNat hab
    rw [UInt8.toNat_ofNat', UInt8.toNat_ofNat'] at hnat
    omega
  have hhundreds := hdigit _ _ (by omega) (by omega) hundreds
  have htens' := hdigit _ _ (by omega) (by omega) htens
  have hones' := hdigit _ _ (by omega) (by omega) hones
  omega

/-- The browser at `192.168.1.50` fails four times, 255 other addresses once each, and it goes
on. -/
theorem not_lawful_addresses :
    ¬LawfulRun 0 (List.replicate 4 (failure (ascii "192.168.1.50")) ++
      ((List.range 255).map addressOf).map failure ++
        [failure (ascii "192.168.1.50"), failure (ascii "192.168.1.50")]) := by
  rintro ⟨hlawful, -⟩
  refine not_lawful_crowd ?_ (by rw [List.length_map, List.length_range]) ?_ hlawful
  · refine List.nodup_cons.2 ⟨?_, ?_⟩
    · intro hmem
      obtain ⟨n, -, hn⟩ := List.mem_map.1 hmem
      -- The second characters differ.
      have hsecond : some (48 : UInt8) = some 57 := congrArg (fun bytes : Bytes => bytes[1]?) hn
      exact absurd hsecond (by decide)
    · refine List.nodup_range.map_on ?_
      intro n hn k hk h
      exact addressOf_injOn (List.mem_range.1 hn) (List.mem_range.1 hk) h
  · intro host hhost
    rcases List.mem_cons.1 hhost with rfl | hmem
    · decide
    · obtain ⟨n, -, rfl⟩ := List.mem_map.1 hmem
      exact List.cons_ne_nil _ _

end Lockout

end NesDeck.Uploader
