/-
**The frame queue of the audio output.**

`DeckAudio` (`deck_runtime.cpp`) hands frames from the emulator to a worker thread.  `enqueue`
puts them into a ring of 16384 slots and drops the oldest frames when there are too many; the
worker takes up to 2048 frames at a time and writes them to the device outside the lock.  Both
sections run under one mutex, so that a run is a sequence of sections, in any order.

The runs are compared with the queue of `Fifo.Log`, which has no ring, no head and no wrapping:
it appends to a list and drops from its front.

Main definitions:

* `NesDeck.DeckAudio` — the state behind the mutex;
* `NesDeck.DeckAudio.enqueue`, `NesDeck.DeckAudio.takeChunk` — the two sections;
* `NesDeck.DeckAudio.Healthy` — the invariant of the ring;
* `NesDeck.DeckAudio.Session` — a run, with the frames that went in and out;
* `NesDeck.DeckAudio.Session.Refines` — the agreement with the abstract queue.

Main results:

* `NesDeck.DeckAudio.enqueue_contents` — what one call does to the queue;
* `NesDeck.DeckAudio.Session.refines_step`, `NesDeck.DeckAudio.Session.refines_run` — every run
  follows the abstract queue;
* `NesDeck.DeckAudio.run_frames` — **no frame is lost, duplicated or reordered, and only the oldest
  are dropped**.
-/

import NesDeck.Lib.Fifo
import NesDeck.Lib.Ring

set_option relaxedAutoImplicit false
set_option autoImplicit false

namespace NesDeck

/-- The number of slots.  It is never unfolded below: the proofs hold for any ring. -/
@[irreducible] def kAudioQueueFrames : ℕ := 16384

theorem kAudioQueueFrames_pos : 0 < kAudioQueueFrames := by
  rw [kAudioQueueFrames]
  decide

def kAudioWriteChunkFrames : ℕ := 2048

/-- What the mutex of the queue protects. -/
structure DeckAudio where
  queue : List Int16
  queueHead : ℕ
  queueSize : ℕ
  droppedFrames : UInt64
  threadStarted : Bool
  stopping : Bool
  workerFailed : Bool

namespace DeckAudio

/-- The queue after `open_device`. -/
def opened : DeckAudio where
  queue := List.replicate kAudioQueueFrames 0
  queueHead := 0
  queueSize := 0
  droppedFrames := 0
  threadStarted := true
  stopping := false
  workerFailed := false

/-! ### Enqueueing -/

/-- The frames that do not even fit into an empty ring are skipped. -/
def skipExcess (audio : DeckAudio) (samples : List Int16) : DeckAudio × List Int16 :=
  if audio.queue.length < samples.length then
    let skipped := samples.length - audio.queue.length
    ({ audio with droppedFrames := audio.droppedFrames + .ofNat skipped }, samples.drop skipped)
  else (audio, samples)

/-- The oldest frames make room for `count` new ones. -/
def discardOldest (audio : DeckAudio) (count : ℕ) : DeckAudio :=
  if audio.queue.length - audio.queueSize < count then
    let discarded := count - (audio.queue.length - audio.queueSize)
    { audio with
      queueHead := (audio.queueHead + discarded) % audio.queue.length
      queueSize := audio.queueSize - discarded
      droppedFrames := audio.droppedFrames + .ofNat discarded }
  else audio

/-- The frames are copied behind the queued ones. -/
def copyIn (audio : DeckAudio) (samples : List Int16) : DeckAudio :=
  let tail := (audio.queueHead + audio.queueSize) % audio.queue.length
  { audio with
    queue := Ring.write audio.queue tail samples
    queueSize := audio.queueSize + samples.length }

/-- `DeckAudio::enqueue`, whose samples may be a null pointer. -/
def enqueue (audio : DeckAudio) : Option (List Int16) → DeckAudio × Bool
  | none => (audio, false)
  | some samples =>
      if samples = [] then (audio, false)
      else if audio.threadStarted = false ∨ audio.stopping = true ∨ audio.workerFailed = true ∨
          audio.queue = [] then
        (audio, false)
      else
        let (audio, samples) := audio.skipExcess samples
        ((audio.discardOldest samples.length).copyIn samples, true)

/-! ### Taking frames -/

/-- The section of `audio_thread_main` that takes frames out of the ring.  It returns none where
the worker exits or waits for the next signal. -/
def takeChunk (audio : DeckAudio) : Option (DeckAudio × List Int16) :=
  if audio.stopping = true ∨ audio.queueSize = 0 then none
  else
    let count := min audio.queueSize kAudioWriteChunkFrames
    some ({ audio with
            queueHead := (audio.queueHead + count) % audio.queue.length
            queueSize := audio.queueSize - count },
      Ring.read audio.queue audio.queueHead count)

/-! ### The invariant -/

/-- A ring that is open, with the head and the size in range and a healthy worker. -/
structure Healthy (audio : DeckAudio) : Prop where
  slots : audio.queue.length = kAudioQueueFrames
  head : audio.queueHead < kAudioQueueFrames
  size : audio.queueSize ≤ kAudioQueueFrames
  started : audio.threadStarted = true
  running : audio.stopping = false
  working : audio.workerFailed = false

theorem healthy_opened : opened.Healthy where
  slots := List.length_replicate
  head := kAudioQueueFrames_pos
  size := Nat.zero_le _
  started := rfl
  running := rfl
  working := rfl

/-- The queued frames, the oldest first. -/
def contents (audio : DeckAudio) : List Int16 :=
  Ring.contents audio.queue audio.queueHead audio.queueSize

theorem Healthy.length_contents {audio : DeckAudio} (h : audio.Healthy) :
    audio.contents.length = audio.queueSize :=
  Ring.length_contents _ (by rw [h.slots]; exact h.size)

/-! ### The parts of `enqueue` -/

theorem healthy_skipExcess {audio : DeckAudio} (h : audio.Healthy) (samples : List Int16) :
    (audio.skipExcess samples).1.Healthy := by
  rw [skipExcess]
  split
  · exact ⟨h.slots, h.head, h.size, h.started, h.running, h.working⟩
  · exact h

@[simp] theorem contents_skipExcess (audio : DeckAudio) (samples : List Int16) :
    (audio.skipExcess samples).1.contents = audio.contents := by
  rw [skipExcess]
  split <;> rfl

@[simp] theorem queueSize_skipExcess (audio : DeckAudio) (samples : List Int16) :
    (audio.skipExcess samples).1.queueSize = audio.queueSize := by
  rw [skipExcess]
  split <;> rfl

theorem skipExcess_samples {audio : DeckAudio} (h : audio.Healthy) (samples : List Int16) :
    (audio.skipExcess samples).2 = samples.drop (samples.length - kAudioQueueFrames) := by
  rw [skipExcess, h.slots]
  split
  · rfl
  · rename_i hfits
    have hzero : samples.length - kAudioQueueFrames = 0 := by omega
    rw [hzero, List.drop_zero]

theorem skipExcess_droppedFrames {audio : DeckAudio} (h : audio.Healthy) (samples : List Int16) :
    (audio.skipExcess samples).1.droppedFrames =
      audio.droppedFrames + .ofNat (samples.length - kAudioQueueFrames) := by
  rw [skipExcess, h.slots]
  split
  · rfl
  · rename_i hfits
    have hzero : samples.length - kAudioQueueFrames = 0 := by omega
    rw [hzero]
    exact (UInt64.add_zero _).symm

theorem healthy_discardOldest {audio : DeckAudio} (h : audio.Healthy) (count : ℕ) :
    (audio.discardOldest count).Healthy := by
  rw [discardOldest]
  split
  · refine ⟨h.slots, ?_, ?_, h.started, h.running, h.working⟩
    · rw [← h.slots]
      refine Nat.mod_lt _ ?_
      rw [h.slots]
      exact Nat.zero_lt_of_lt h.head
    · exact Nat.le_trans (Nat.sub_le _ _) h.size
  · exact h

/-- What is discarded is what exceeds the queue, and may be nothing. -/
theorem discardOldest_eq {audio : DeckAudio} (h : audio.Healthy) (count : ℕ) :
    audio.discardOldest count =
      { audio with
        queueHead := (audio.queueHead + (audio.queueSize + count - kAudioQueueFrames)) %
          kAudioQueueFrames
        queueSize := audio.queueSize - (audio.queueSize + count - kAudioQueueFrames)
        droppedFrames := audio.droppedFrames + .ofNat
          (audio.queueSize + count - kAudioQueueFrames) } := by
  have hsize := h.size
  rw [discardOldest, h.slots]
  split
  · have hover : count - (kAudioQueueFrames - audio.queueSize) =
        audio.queueSize + count - kAudioQueueFrames := by omega
    rw [hover]
  · have hover : audio.queueSize + count - kAudioQueueFrames = 0 := by omega
    have hdropped : audio.droppedFrames + .ofNat 0 = audio.droppedFrames := UInt64.add_zero _
    rw [hover, Nat.add_zero, Nat.mod_eq_of_lt h.head, Nat.sub_zero, hdropped]

theorem queueSize_discardOldest {audio : DeckAudio} (h : audio.Healthy) (count : ℕ) :
    (audio.discardOldest count).queueSize =
      audio.queueSize - (audio.queueSize + count - kAudioQueueFrames) := by
  rw [discardOldest_eq h]

theorem contents_discardOldest {audio : DeckAudio} (h : audio.Healthy) {count : ℕ}
    (hcount : count ≤ kAudioQueueFrames) :
    (audio.discardOldest count).contents =
      audio.contents.drop (audio.queueSize + count - kAudioQueueFrames) := by
  have hsize := h.size
  have hslots := h.slots
  have hadvance : Ring.contents audio.queue
      ((audio.queueHead + (audio.queueSize + count - kAudioQueueFrames)) % audio.queue.length)
      (audio.queueSize - (audio.queueSize + count - kAudioQueueFrames)) =
        audio.contents.drop (audio.queueSize + count - kAudioQueueFrames) :=
    Ring.contents_advance audio.queueHead (by omega) (by omega)
  rw [hslots] at hadvance
  rw [discardOldest_eq h]
  exact hadvance

theorem discardOldest_droppedFrames {audio : DeckAudio} (h : audio.Healthy) (count : ℕ) :
    (audio.discardOldest count).droppedFrames =
      audio.droppedFrames + .ofNat (audio.queueSize + count - kAudioQueueFrames) := by
  rw [discardOldest_eq h]

theorem healthy_copyIn {audio : DeckAudio} (h : audio.Healthy) {samples : List Int16}
    (hroom : audio.queueSize + samples.length ≤ kAudioQueueFrames) :
    (audio.copyIn samples).Healthy := by
  refine ⟨?_, h.head, hroom, h.started, h.running, h.working⟩
  rw [copyIn, Ring.length_write, h.slots]

theorem contents_copyIn {audio : DeckAudio} (h : audio.Healthy) {samples : List Int16}
    (hroom : audio.queueSize + samples.length ≤ kAudioQueueFrames) :
    (audio.copyIn samples).contents = audio.contents ++ samples := by
  refine Ring.contents_write ?_ (by rw [h.slots]; exact hroom)
  rw [h.slots]
  exact Nat.zero_lt_of_lt h.head

/-! ### One call -/

/-- A call with frames on an open queue goes through all its parts. -/
theorem enqueue_of_healthy {audio : DeckAudio} (h : audio.Healthy) {samples : List Int16}
    (hsamples : samples ≠ []) :
    audio.enqueue (some samples) =
      (((audio.skipExcess samples).1.discardOldest (audio.skipExcess samples).2.length).copyIn
        (audio.skipExcess samples).2, true) := by
  have hqueue : audio.queue ≠ [] := by
    intro hnil
    have hslots := h.slots
    have hhead := h.head
    rw [hnil, List.length_nil] at hslots
    omega
  have hopen : ¬ (audio.threadStarted = false ∨ audio.stopping = true ∨
      audio.workerFailed = true ∨ audio.queue = []) := by
    rw [h.started, h.running, h.working]
    simp [hqueue]
  rw [enqueue, if_neg hsamples, if_neg hopen]

/-- What one call does to the queue.  The frames in excess are the oldest of the queued frames
and the new ones together. -/
theorem enqueue_contents {audio : DeckAudio} (h : audio.Healthy) (samples : List Int16) :
    (audio.enqueue (some samples)).1.Healthy ∧
    (audio.enqueue (some samples)).1.contents =
      (audio.contents ++ samples).drop
        (audio.queueSize + samples.length - kAudioQueueFrames) ∧
    (audio.enqueue (some samples)).1.droppedFrames =
      audio.droppedFrames + .ofNat (audio.queueSize + samples.length - kAudioQueueFrames) := by
  have hsize := h.size
  by_cases hsamples : samples = []
  · subst hsamples
    have hover : audio.queueSize + ([] : List Int16).length - kAudioQueueFrames = 0 := by
      rw [List.length_nil]
      omega
    rw [enqueue, if_pos rfl, hover, List.append_nil, List.drop_zero]
    exact ⟨h, rfl, (UInt64.add_zero _).symm⟩
  · rw [enqueue_of_healthy h hsamples]
    dsimp only
    have hskip := healthy_skipExcess h samples
    have hrest := skipExcess_samples h samples
    have hlength : (audio.skipExcess samples).2.length =
        samples.length - (samples.length - kAudioQueueFrames) := by
      rw [hrest, List.length_drop]
    have hcount : (audio.skipExcess samples).2.length ≤ kAudioQueueFrames := by omega
    have hdiscard := healthy_discardOldest hskip (audio.skipExcess samples).2.length
    have hroom : ((audio.skipExcess samples).1.discardOldest
          (audio.skipExcess samples).2.length).queueSize +
        (audio.skipExcess samples).2.length ≤ kAudioQueueFrames := by
      rw [queueSize_discardOldest hskip, queueSize_skipExcess]
      omega
    refine ⟨healthy_copyIn hdiscard hroom, ?_, ?_⟩
    · rw [contents_copyIn hdiscard hroom, contents_discardOldest hskip hcount,
        contents_skipExcess, queueSize_skipExcess, hlength, hrest, List.drop_append,
        h.length_contents]
      by_cases hfits : samples.length ≤ kAudioQueueFrames
      · -- all new frames fit into the ring, so only queued ones go
        congr 2 <;> omega
      · -- the call alone fills the ring, so all queued frames go
        have hall : ∀ n, audio.queueSize ≤ n → audio.contents.drop n = [] := fun n hn =>
          List.drop_of_length_le (by rw [h.length_contents]; exact hn)
        rw [hall _ (by omega), hall _ (by omega)]
        congr 2
        omega
    · change ((audio.skipExcess samples).1.discardOldest _).droppedFrames = _
      rw [discardOldest_droppedFrames hskip, skipExcess_droppedFrames h, queueSize_skipExcess,
        hlength, UInt64.add_assoc, ← UInt64.ofNat_add]
      congr 2
      omega

/-- What the worker takes. -/
theorem takeChunk_contents {audio : DeckAudio} (h : audio.Healthy) :
    match audio.takeChunk with
    | none => audio.queueSize = 0
    | some (audio', output) =>
        audio'.Healthy ∧ output = audio.contents.take kAudioWriteChunkFrames ∧
          audio'.contents = audio.contents.drop kAudioWriteChunkFrames ∧
          audio'.droppedFrames = audio.droppedFrames := by
  have hsize := h.size
  have hslots := h.slots
  have hhead := h.head
  by_cases hempty : audio.queueSize = 0
  · rw [takeChunk, if_pos (Or.inr hempty)]
    exact hempty
  · rw [takeChunk, if_neg (by simp [h.running, hempty])]
    dsimp only
    refine ⟨⟨hslots, ?_, ?_, h.started, h.running, h.working⟩, ?_, ?_, rfl⟩
    · rw [hslots]
      exact Nat.mod_lt _ (Nat.zero_lt_of_lt hhead)
    · dsimp only
      omega
    · rw [Ring.read_eq_contents (by omega) (by omega), contents,
        ← Ring.take_contents _ _ (Nat.min_le_left _ _), ← contents]
      rcases Nat.le_total audio.queueSize kAudioWriteChunkFrames with hle | hle
      · rw [Nat.min_eq_left hle, List.take_of_length_le (by rw [h.length_contents]),
          List.take_of_length_le (by rw [h.length_contents]; exact hle)]
      · rw [Nat.min_eq_right hle]
    · have hadvance : Ring.contents audio.queue
          ((audio.queueHead + min audio.queueSize kAudioWriteChunkFrames) % audio.queue.length)
          (audio.queueSize - min audio.queueSize kAudioWriteChunkFrames) =
            audio.contents.drop (min audio.queueSize kAudioWriteChunkFrames) :=
        Ring.contents_advance audio.queueHead (Nat.min_le_left _ _) (by omega)
      refine hadvance.trans ?_
      rcases Nat.le_total audio.queueSize kAudioWriteChunkFrames with hle | hle
      · rw [Nat.min_eq_left hle, List.drop_of_length_le (by rw [h.length_contents]),
          List.drop_of_length_le (by rw [h.length_contents]; exact hle)]
      · rw [Nat.min_eq_right hle]

/-! ### Runs -/

/-- The sections that run under the mutex. -/
inductive Action where
  | enqueue (samples : Option (List Int16))
  | dequeue

/-- A run so far: the queue, the frames of the calls that succeeded, and the frames that the
worker took. -/
structure Session where
  audio : DeckAudio
  enqueued : List Int16
  taken : List Int16

namespace Session

def opened : Session := ⟨DeckAudio.opened, [], []⟩

/-- One section. -/
def step (session : Session) : Action → Session
  | .enqueue samples =>
      let (audio, accepted) := session.audio.enqueue samples
      { session with
        audio
        enqueued := if accepted then session.enqueued ++ samples.getD [] else session.enqueued }
  | .dequeue =>
      match session.audio.takeChunk with
      | none => session
      | some (audio, output) => { session with audio, taken := session.taken ++ output }

/-- The sections in any order, from the opening of the device on. -/
def run (actions : List Action) : Session := actions.foldl step opened

/-- The event of the abstract queue. -/
def event : Action → Fifo.Event Int16
  | .enqueue samples => .push (samples.getD [])
  | .dequeue => .take kAudioWriteChunkFrames

/-- The run agrees with the abstract queue. -/
structure Refines (session : Session) (log : Fifo.Log Int16) : Prop where
  healthy : session.audio.Healthy
  pending : session.audio.contents = log.pending
  enqueued : session.enqueued = log.pushed
  taken : session.taken = log.having .taken
  dropped : session.audio.droppedFrames = .ofNat (log.having .dropped).length

theorem refines_opened : opened.Refines Fifo.Log.empty where
  healthy := healthy_opened
  pending := rfl
  enqueued := rfl
  taken := rfl
  dropped := rfl

/-- A call that hands over frames. -/
theorem refines_enqueue {session : Session} {log : Fifo.Log Int16} (h : session.Refines log)
    (samples : List Int16) :
    (session.step (.enqueue (some samples))).Refines
      (log.step kAudioQueueFrames (.push samples)) := by
  obtain ⟨hhealthy, hcontents, hdropped⟩ := enqueue_contents h.healthy samples
  have hover : session.audio.queueSize + samples.length - kAudioQueueFrames =
      (log.pending ++ samples).length - kAudioQueueFrames := by
    rw [List.length_append, ← h.pending, h.healthy.length_contents]
  rw [hover, h.pending] at hcontents
  refine ⟨hhealthy, hcontents, ?_, ?_, ?_⟩
  · change (if (session.audio.enqueue (some samples)).2 = true then _ else _) = _
    by_cases hsamples : samples = []
    · subst hsamples
      simp [Fifo.Log.step, Fifo.Log.depart, Fifo.Log.append, h.enqueued]
    · rw [enqueue_of_healthy h.healthy hsamples]
      simp [Fifo.Log.step, Fifo.Log.depart, Fifo.Log.append, h.enqueued]
  · rw [Fifo.Log.step, Fifo.Log.having_depart_of_ne _ (by decide), Fifo.Log.having_append,
      ← h.taken]
    rfl
  · rw [Fifo.Log.step, Fifo.Log.having_depart, Fifo.Log.having_append, List.length_append,
      UInt64.ofNat_add, ← h.dropped, List.length_take]
    have hpending : (log.append samples).pending = log.pending ++ samples := rfl
    rw [hpending, Nat.min_eq_left (Nat.sub_le _ _), ← hover]
    exact hdropped

/-- **One section follows the abstract queue.** -/
theorem refines_step {session : Session} {log : Fifo.Log Int16} (h : session.Refines log)
    (action : Action) :
    (session.step action).Refines (log.step kAudioQueueFrames (event action)) := by
  cases action with
  | enqueue samples =>
      cases samples with
      | none =>
          -- a null pointer is refused, like a call without frames
          have hnil := refines_enqueue h []
          have heq : session.step (.enqueue none) = session.step (.enqueue (some [])) := by
            simp [step, DeckAudio.enqueue]
          rw [heq]
          exact hnil
      | some samples => exact refines_enqueue h samples
  | dequeue =>
      have hchunk := takeChunk_contents h.healthy
      rw [step, event]
      cases htake : session.audio.takeChunk with
      | none =>
          rw [htake] at hchunk
          have hnil : log.pending = [] := by
            rw [← h.pending, ← List.length_eq_zero_iff, h.healthy.length_contents]
            exact hchunk
          refine ⟨h.healthy, ?_, h.enqueued, ?_, ?_⟩
          · rw [h.pending, Fifo.Log.step, Fifo.Log.depart, hnil]
            rfl
          · rw [Fifo.Log.step, Fifo.Log.having_depart, hnil, List.take_nil, List.append_nil]
            exact h.taken
          · rw [Fifo.Log.step, Fifo.Log.having_depart_of_ne _ (by decide)]
            exact h.dropped
      | some chunk =>
          rw [htake] at hchunk
          obtain ⟨audio, output⟩ := chunk
          obtain ⟨hhealthy, houtput, hcontents, hdropped⟩ := hchunk
          refine ⟨hhealthy, ?_, h.enqueued, ?_, ?_⟩
          · exact hcontents.trans (by rw [h.pending]; rfl)
          · rw [Fifo.Log.step, Fifo.Log.having_depart, ← h.taken, ← h.pending, ← houtput]
          · rw [Fifo.Log.step, Fifo.Log.having_depart_of_ne _ (by decide), ← h.dropped]
            exact hdropped

/-- **Every run follows the abstract queue.** -/
theorem refines_run (actions : List Action) :
    (run actions).Refines (Fifo.Log.run kAudioQueueFrames (actions.map event)) := by
  rw [run, Fifo.Log.run]
  suffices h : ∀ session log, Refines session log →
      (actions.foldl step session).Refines
        ((actions.map event).foldl (Fifo.Log.step kAudioQueueFrames) log) from
    h _ _ refines_opened
  intro session log hrefines
  induction actions generalizing session log with
  | nil => exact hrefines
  | cons action actions ih => exact ih _ _ (refines_step hrefines action)

end Session

/-- **The frames of a run.**  Whatever the order of the sections, the frames that went in are the
ones that left, in the order in which they left, followed by the queued ones; the worker took
those that left as taken, and the counter counts the others.  A call drops a frame only when
there would be more than 16384 of them, and then the oldest. -/
theorem run_frames (actions : List Action) :
    ∃ departed : List (Fifo.Fate × Int16),
      (Session.run actions).enqueued =
        departed.map Prod.snd ++ (Session.run actions).audio.contents ∧
      (Session.run actions).taken =
        (departed.filter fun entry => entry.1 = .taken).map Prod.snd ∧
      (Session.run actions).audio.droppedFrames =
        .ofNat (departed.filter fun entry => entry.1 = .dropped).length ∧
      (Session.run actions).enqueued.length =
        (Session.run actions).taken.length + (Session.run actions).audio.queueSize +
          (departed.filter fun entry => entry.1 = .dropped).length ∧
      (Session.run actions).audio.contents.length = (Session.run actions).audio.queueSize ∧
      (Session.run actions).audio.queueHead < kAudioQueueFrames ∧
      (Session.run actions).audio.queueSize ≤ kAudioQueueFrames ∧
      ∀ samples : List Int16,
        ((Session.run actions).audio.enqueue (some samples)).1.contents =
          ((Session.run actions).audio.contents ++ samples).drop
            ((Session.run actions).audio.queueSize + samples.length - kAudioQueueFrames) ∧
        ((Session.run actions).audio.enqueue (some samples)).1.droppedFrames =
          (Session.run actions).audio.droppedFrames +
            .ofNat ((Session.run actions).audio.queueSize + samples.length -
              kAudioQueueFrames) := by
  have hrefines := Session.refines_run actions
  have hvalid := Fifo.Log.valid_run kAudioQueueFrames (actions.map Session.event)
  generalize Fifo.Log.run kAudioQueueFrames (actions.map Session.event) = log at hrefines hvalid
  have hlength := hrefines.healthy.length_contents
  refine ⟨log.departed, ?_, hrefines.taken, ?_, ?_, hlength, hrefines.healthy.head,
    hrefines.healthy.size, fun samples => (enqueue_contents hrefines.healthy samples).2⟩
  · rw [hrefines.enqueued, hrefines.pending]
    exact hvalid.history
  · rw [hrefines.dropped, Fifo.Log.having, List.length_map]
  · rw [hrefines.enqueued, hvalid.length_pushed, hrefines.taken, ← hlength, hrefines.pending,
      Fifo.Log.having, Fifo.Log.having, List.length_map, List.length_map]

end DeckAudio

end NesDeck
