/-
**Playback of chiptunes.**

The player of `chiptune_deck.cpp` opens music files and makes one tick of sound after the other.  An
audio loop asks it for a tick sixty times a second, in a thread of its own; the commands of the user
change files, tracks, the mode and the pause under the same mutex, so that a run is a sequence of
ticks and commands.

The libraries that decode the files are not part of the repository: a `Decoder` gives their answers,
which may be anything.  The samples and the titles are left out.

Main definitions:

* `NesDeck.Decoder` — the answers of the libraries, by the number of the call;
* `NesDeck.ChiptunePlayer` — the player, with `openFile`, `changeFile`, `changeTrack`,
  `changeRandomFile`, `advanceAfterEnd` and `generate`;
* `NesDeck.ChiptuneAudioLoop` — the audio loop with its two flags, and its runs;
* `NesDeck.ChiptuneAudioLoop.Playing` — the player is ready and not paused, and nobody stops it.

Main results:

* `NesDeck.ChiptuneAudioLoop.failed_react` — a failure is never forgotten;
* `NesDeck.ChiptuneAudioLoop.ticks_lawful_iff` — **every tick of a run that finds the player playing
  makes sound exactly when none of them comes after a tick that failed**.
-/

import NesDeck.Lib.HostFile
import NesDeck.Lib.Run

set_option relaxedAutoImplicit false
set_option autoImplicit false

namespace NesDeck

open HostFile (Bytes ascii)

def kFramesPerTick : ℕ := 735

/-- What is known about an open Ogg Vorbis stream. -/
structure VorbisInfo where
  rate : ℕ
  channels : ℕ
  durationMs : Option ℕ

/-- An answer of `ov_read`: at least one frame, the end of the stream, or damage. -/
inductive VorbisRead where
  | decoded (more : ℕ)
  | ended
  | damaged

/-- The answers of the file system and of the decoding libraries, by the number of the call. -/
structure Decoder where
  readChiptune : ℕ → Bytes → Option String
  gmeOpen : ℕ → Except String ℤ
  gmeStartTrack : ℕ → ℕ → Option String
  gmeTrackInfo : ℕ → ℕ → Option ℤ
  gmePlay : ℕ → Option String
  gmeTrackEnded : ℕ → Bool
  ovOpen : ℕ → Option VorbisInfo
  ovRead : ℕ → VorbisRead
  ovSeek : ℕ → Bool

inductive PlayerBackend where
  | none
  | gme
  | vorbis
  deriving DecidableEq

inductive PlaybackMode where
  | loopAll
  | loopOne
  | shuffle
  deriving DecidableEq

structure ChiptunePlayer where
  files : List Bytes
  fileIndex : ℕ
  backend : PlayerBackend
  /-- There is an emulator. -/
  emulator : Bool
  vorbisOpen : Bool
  vorbisChannels : ℕ
  trackIndex : ℕ
  trackCount : ℕ
  paused : Bool
  lengthMs : ℤ
  playbackMode : PlaybackMode
  randomState : BitVec 32
  /-- The number of calls that were answered so far. -/
  calls : ℕ

namespace ChiptunePlayer

/-- What a function leaves: the player, whether it succeeded, and the text of the error, which is
only written when there is one to report. -/
abbrev Outcome : Type := ChiptunePlayer × Bool × String

/-- The player before its first file. -/
def initial (files : List Bytes) (seed : BitVec 32) : ChiptunePlayer where
  files := files
  fileIndex := 0
  backend := .none
  emulator := false
  vorbisOpen := false
  vorbisChannels := 0
  trackIndex := 0
  trackCount := 0
  paused := false
  lengthMs := -1
  playbackMode := .loopAll
  randomState := seed
  calls := 0

/-- One more call was answered. -/
def answered (player : ChiptunePlayer) : ChiptunePlayer := { player with calls := player.calls + 1 }

def ready (player : ChiptunePlayer) : Bool := player.backend ≠ .none

def togglePause (player : ChiptunePlayer) : ChiptunePlayer :=
  { player with paused := !player.paused }

def cyclePlaybackMode (player : ChiptunePlayer) : ChiptunePlayer :=
  { player with
    playbackMode :=
      match player.playbackMode with
      | .loopAll => .loopOne
      | .loopOne => .shuffle
      | .shuffle => .loopAll }

/-- `close_track`. -/
def closeTrack (player : ChiptunePlayer) : ChiptunePlayer :=
  { player with
    backend := .none
    emulator := false
    vorbisOpen := false
    vorbisChannels := 0
    trackIndex := 0
    trackCount := 0
    lengthMs := -1 }

/-- `lower_extension`: the last point of a path and what follows it, in small letters. -/
def lowerExtension (path : Bytes) : Bytes :=
  if 46 ∈ path then
    46 :: ((path.reverse.takeWhile (· ≠ 46)).reverse.map fun c => if 65 ≤ c ∧ c ≤ 90
      then c + 32 else c)
  else []

/-- `next_random`. -/
def nextRandom (player : ChiptunePlayer) : ChiptunePlayer × BitVec 32 :=
  let x := if player.randomState = 0 then 0x6d2b79f5 else player.randomState
  let x := x ^^^ (x <<< 13)
  let x := x ^^^ (x >>> 17)
  let x := x ^^^ (x <<< 5)
  ({ player with randomState := x }, x)

section Decoding

variable (decoder : Decoder)

/-- `start_track`. -/
def startTrack (player : ChiptunePlayer) (track : ℕ) (error : String) : Outcome :=
  if !player.emulator || decide (player.trackCount ≤ track) then (player, false, error)
  else
    match decoder.gmeStartTrack player.calls track with
    | some message => (player.answered, false, message)
    | none =>
        let player := player.answered
        ({ player.answered with
            trackIndex := track
            lengthMs := (decoder.gmeTrackInfo player.calls track).getD (-1)
            paused := false }, true, error)

/-- `open_vorbis`. -/
def openVorbis (player : ChiptunePlayer) (index : ℕ) (error : String) : Outcome :=
  match decoder.readChiptune player.calls (player.files.getD index []) with
  | some message => (player.answered, false, message)
  | none =>
      let player := player.answered
      match decoder.ovOpen player.calls with
      | none => (player.answered, false, "cannot decode Ogg Vorbis file")
      | some info =>
          if info.rate ≠ 44100 ∨ (info.channels ≠ 1 ∧ info.channels ≠ 2) then
            (player.answered, false, "Ogg Vorbis file must be 44.1 kHz mono or stereo")
          else
            ({ player.answered with
                backend := .vorbis
                vorbisOpen := true
                vorbisChannels := info.channels
                fileIndex := index
                trackIndex := 0
                trackCount := 1
                lengthMs := info.durationMs.elim (-1) Int.ofNat
                paused := false }, true, error)

/-- `open_file`. -/
def openFile (player : ChiptunePlayer) (index track : ℕ) (error : String) : Outcome :=
  let player := player.closeTrack
  if player.files.length ≤ index then (player, false, error)
  else if lowerExtension (player.files.getD index []) = ascii ".ogg" then
    player.openVorbis decoder index error
  else
    match decoder.readChiptune player.calls (player.files.getD index []) with
    | some message => (player.answered, false, message)
    | none =>
        let player := player.answered
        match decoder.gmeOpen player.calls with
        | .error message => (player.answered, false, message)
        | .ok tracks =>
            let count := (max 1 tracks).toNat
            startTrack decoder
              { player.answered with
                emulator := true
                backend := .gme
                fileIndex := index
                trackCount := count }
              (min (count - 1) track) error

/-- The first of some files that can be opened. -/
def openAny (player : ChiptunePlayer) : (candidates : List ℕ) → (error : String) → Outcome
  | [], error => (player, false, error)
  | candidate :: candidates, error =>
      match player.openFile decoder candidate 0 error with
      | (player, true, error) => (player, true, error)
      | (player, false, error) => player.openAny candidates error

/-- The loop of `open_first`. -/
def openFirstLoop (player : ChiptunePlayer) : (attempts : ℕ) → (error : String) → Outcome
  | 0, error => (player, false, error)
  | attempts + 1, error =>
      match player.openFile decoder player.fileIndex 0 error with
      | (player, true, error) => (player, true, error)
      | (player, false, error) =>
          openFirstLoop { player with fileIndex := (player.fileIndex + 1) % player.files.length }
            attempts error

/-- `open_first`: a file that cannot be opened is passed over. -/
def openFirst (player : ChiptunePlayer) (error : String) : Outcome :=
  player.openFirstLoop decoder player.files.length error

/-- `change_file`, to the file before or after the current one. -/
def changeFile (player : ChiptunePlayer) (back : Bool) (error : String) : Outcome :=
  let count := player.files.length
  player.openAny decoder
    ((List.range count).map fun attempt =>
      if back then (player.fileIndex + count - (attempt + 1) % count) % count
      else (player.fileIndex + (attempt + 1)) % count) error

/-- `change_track`. -/
def changeTrack (player : ChiptunePlayer) (back : Bool) (error : String) : Outcome :=
  if player.backend ≠ .gme ∨ player.emulator = false ∨ player.trackCount = 0 then
    (player, false, error)
  else
    player.startTrack decoder
      (if back then (player.trackIndex + player.trackCount - 1) % player.trackCount
       else (player.trackIndex + 1) % player.trackCount) error

/-- A random track of a file that was just opened. -/
def shuffleTrack (player : ChiptunePlayer) (error : String) : Outcome :=
  if player.backend = .gme ∧ 1 < player.trackCount then
    let (player, random) := player.nextRandom
    player.startTrack decoder (random.toNat % player.trackCount) error
  else (player, true, error)

/-- `change_random_file`: another file, or the current one again. -/
def changeRandomFile (player : ChiptunePlayer) (error : String) : Outcome :=
  if player.files = [] then (player, false, error)
  else
    let count := player.files.length
    let current := player.fileIndex
    let (player, offset) :=
      if 1 < count then
        let (player, random) := player.nextRandom
        (player, 1 + random.toNat % (count - 1))
      else (player, 0)
    let candidates :=
      ((List.range count).map fun attempt => (current + offset + attempt) % count).filter
      fun candidate => !(decide (1 < count) && candidate = current)
    match player.openAny decoder candidates error with
    | (player, true, error) => player.shuffleTrack decoder error
    | (player, false, error) =>
        match player.openFile decoder current 0 error with
        | (player, true, error) => player.shuffleTrack decoder error
        | (player, false, error) => (player, false, error)

/-- `advance_after_end`. -/
def advanceAfterEnd (player : ChiptunePlayer) (error : String) : Outcome :=
  match player.playbackMode with
  | .loopOne =>
      match player.backend with
      | .gme => player.startTrack decoder player.trackIndex error
      | .vorbis =>
          if decoder.ovSeek player.calls then (player.answered, true, error)
          else (player.answered, false, "cannot restart track")
      | .none => (player, false, "cannot restart track")
  | .shuffle => player.changeRandomFile decoder error
  | .loopAll =>
      if player.backend = .gme ∧ player.trackIndex + 1 < player.trackCount then
        player.startTrack decoder (player.trackIndex + 1) error
      else player.changeFile decoder false error

/-- The loop of `generate_vorbis`, with the frames that are missing. -/
def generateVorbis (player : ChiptunePlayer) (missing : ℕ) (rewound : Bool) (error : String) :
    Outcome :=
  if missing = 0 then (player, true, error)
  else
    match decoder.ovRead player.calls with
    | .decoded more => player.answered.generateVorbis (missing - (more + 1)) rewound error
    | .damaged => (player.answered, false, "Ogg Vorbis stream is damaged")
    | .ended =>
        let player := player.answered
        if player.playbackMode ≠ .loopOne then player.advanceAfterEnd decoder error
        else if rewound then (player, false, "Ogg Vorbis stream contains no audio")
        else if decoder.ovSeek player.calls then player.answered.generateVorbis missing true error
        else (player.answered, false, "Ogg Vorbis stream contains no audio")
  termination_by (missing, if rewound then 0 else 1)
  decreasing_by
    · exact Prod.Lex.left _ _ (by omega)
    · exact Prod.Lex.right _ (by simp [*])

/-- `generate`: one tick of sound. -/
def generate (player : ChiptunePlayer) (error : String) : Outcome :=
  if player.backend = .none ∨ player.paused = true then (player, true, error)
  else if player.backend = .vorbis then player.generateVorbis decoder kFramesPerTick false error
  else
    match decoder.gmePlay player.calls with
    | some message => (player.answered, false, message)
    | none =>
        let player := player.answered
        if decoder.gmeTrackEnded player.calls then player.answered.advanceAfterEnd decoder error
        else (player.answered, true, error)

end Decoding

end ChiptunePlayer

/-- The audio loop and what it shares with the user interface. -/
structure ChiptuneAudioLoop where
  player : ChiptunePlayer
  stopping : Bool
  failed : Bool
  playbackError : String

namespace ChiptuneAudioLoop

section Runs

variable (decoder : Decoder)

/-- The loop when it starts: the first file that can be opened is open. -/
def start (files : List Bytes) (seed : BitVec 32) : ChiptuneAudioLoop where
  player := ((ChiptunePlayer.initial files seed).openFirst decoder "").1
  stopping := false
  failed := false
  playbackError := ""

/-- The section of `run` that makes one tick.  The second component says whether it called
`generate`. -/
def tick (loop : ChiptuneAudioLoop) : ChiptuneAudioLoop × Bool :=
  if loop.stopping then (loop, false)
  else if loop.failed then (loop, false)
  else
    match loop.player.generate decoder "" with
    | (player, true, _) => ({ loop with player := player }, true)
    | (player, false, error) =>
        ({ loop with player := player, playbackError := error, failed := true }, true)

/-- What happens under the mutex: ticks, the commands of the user, the report of an error, and the
end. -/
inductive Event where
  | tick
  | changeFile (back : Bool)
  | changeTrack (back : Bool)
  | togglePause
  | cyclePlaybackMode
  | changeVolume
  | takeError
  | stop
  deriving DecidableEq

/-- One event. A command that fails leaves the player as its function left it; the volume belongs to
the audio device. -/
def react (loop : ChiptuneAudioLoop) : Event → ChiptuneAudioLoop
  | .tick => (loop.tick decoder).1
  | .changeFile back => { loop with player := (loop.player.changeFile decoder back "").1 }
  | .changeTrack back => { loop with player := (loop.player.changeTrack decoder back "").1 }
  | .togglePause => { loop with player := loop.player.togglePause }
  | .cyclePlaybackMode => { loop with player := loop.player.cyclePlaybackMode }
  | .changeVolume => loop
  | .takeError => { loop with playbackError := "" }
  | .stop => { loop with stopping := true }

/-- The player is ready and not paused, and the loop is not stopping. -/
def Playing (loop : ChiptuneAudioLoop) : Prop :=
  loop.player.ready = true ∧ loop.player.paused = false ∧ loop.stopping = false

/-- A tick that finds the player playing calls `generate`. -/
def Lawful (loop : ChiptuneAudioLoop) (event : Event) : Prop :=
  event = .tick → loop.Playing → (loop.tick decoder).2 = true

/-- A tick would find the player idle. -/
def IdleTick (loop : ChiptuneAudioLoop) (event : Event) : Prop := event = .tick → ¬loop.Playing

/-- The next tick calls `generate`, and that fails. -/
def TickFails (loop : ChiptuneAudioLoop) : Prop :=
  loop.stopping = false ∧ loop.failed = false ∧ (loop.player.generate decoder "").2.1 = false

variable {decoder} {loop : ChiptuneAudioLoop}

/-! ### Failures are kept -/

theorem tick_snd : (loop.tick decoder).2 = (!loop.stopping && !loop.failed) := by
  unfold tick
  cases hstopping : loop.stopping with
  | true => simp
  | false =>
      cases hfailed : loop.failed with
      | true => simp
      | false =>
          simp only [Bool.false_eq_true, if_false]
          split
          · rfl
          · rfl

/-- A tick fails when `generate` does. -/
theorem failed_tick (h : loop.failed = false) :
    (loop.tick decoder).1.failed = true ↔ loop.TickFails decoder := by
  unfold tick TickFails
  cases hstopping : loop.stopping with
  | true => simp [h]
  | false =>
      simp only [h, Bool.false_eq_true, if_false, true_and]
      split
      · next player error heq => simp [heq]
      · next player error heq => simp [heq]

/-- **A failure is never forgotten**, whatever the user does. -/
theorem failed_react (h : loop.failed = true) (event : Event) :
    (loop.react decoder event).failed = true := by
  cases event with
  | tick =>
      unfold react tick
      simp only [h, if_true]
      split
      · exact h
      · exact h
  | changeFile back => exact h
  | changeTrack back => exact h
  | togglePause => exact h
  | cyclePlaybackMode => exact h
  | changeVolume => exact h
  | takeError => exact h
  | stop => exact h

/-- Nothing but a tick fails. -/
theorem failed_react_of_ne {event : Event} (h : event ≠ .tick) :
    (loop.react decoder event).failed = loop.failed := by
  cases event with
  | tick => exact absurd rfl h
  | changeFile back => rfl
  | changeTrack back => rfl
  | togglePause => rfl
  | cyclePlaybackMode => rfl
  | changeVolume => rfl
  | takeError => rfl
  | stop => rfl

/-- After a failure `generate` is not called any more, so that no further tick fails. -/
theorem not_tickFails_foldl (h : loop.failed = true) (events : List Event) :
    ¬(events.foldl (react decoder) loop).TickFails decoder := by
  have hstill : (events.foldl (react decoder) loop).failed = true :=
    Run.invariant (I := fun loop : ChiptuneAudioLoop => loop.failed = true)
      (fun _ event h => failed_react h event) h events
  rintro ⟨-, hnot, -⟩
  rw [hstill] at hnot
  cases hnot

/-- An event that is no failing tick keeps a loop going that goes. -/
theorem not_failed_react (h : loop.failed = false) {event : Event}
    (hgood : ¬(event = .tick ∧ loop.TickFails decoder)) :
    (loop.react decoder event).failed = false := by
  by_cases htick : event = .tick
  · subst htick
    have hnot : ¬(loop.tick decoder).1.failed = true := by
      rw [failed_tick h]
      exact fun hfail => hgood ⟨rfl, hfail⟩
    exact Bool.eq_false_iff.2 hnot
  · rw [failed_react_of_ne htick, h]

/-- Before the first failure every tick is lawful. -/
theorem lawful_of_not_failed (h : loop.failed = false) (event : Event) :
    loop.Lawful decoder event := by
  rintro - ⟨-, -, hstopping⟩
  rw [tick_snd, hstopping, h]
  rfl

/-- After a failure a tick is lawful only when it finds the player idle. -/
theorem lawful_iff_idle (h : loop.failed = true) (event : Event) :
    loop.Lawful decoder event ↔ loop.IdleTick event := by
  refine forall_congr' ?_
  intro _
  rw [tick_snd, h]
  simp

/-! ### The law of a run -/

/-- After a failure a run is lawful only when all its ticks find the player idle. -/
theorem run_failed (h : loop.failed = true) (events : List Event) :
    Run.Each (react decoder) (Lawful decoder) loop events ↔
      Run.Each (react decoder) IdleTick loop events :=
  Run.each_congr (J := fun loop => loop.failed = true) (fun _ event h => lawful_iff_idle h event)
    (fun _ event h _ => failed_react h event) h events

/-- **Every tick of a run that finds the player playing makes sound exactly when none of them comes
after a tick that failed**, from any state without a failure. -/
theorem run_not_failed (h : loop.failed = false) (events : List Event) :
    Run.Each (react decoder) (Lawful decoder) loop events ↔
      ∀ done rest, events = done ++ .tick :: rest →
        (done.foldl (react decoder) loop).TickFails decoder →
          Run.Each (react decoder) IdleTick
            ((done ++ [.tick]).foldl (react decoder) loop) rest := by
  induction events generalizing loop with
  | nil =>
      refine iff_of_true trivial ?_
      intro done rest hsplit
      simp at hsplit
  | cons event events ih =>
      rw [Run.each_cons, and_iff_right (lawful_of_not_failed h event)]
      -- Up to the first tick that fails there is nothing to check.
      by_cases hfails : event = .tick ∧ loop.TickFails decoder
      · -- This tick is the first that fails.
        obtain ⟨rfl, hfails⟩ := hfails
        have hfailed : (loop.react decoder .tick).failed = true := (failed_tick h).2 hfails
        rw [run_failed hfailed]
        constructor
        · intro hidle done rest hsplit hagain
          cases done with
          | nil =>
              obtain ⟨-, rfl⟩ := List.cons.inj hsplit
              exact hidle
          | cons first done =>
              obtain ⟨rfl, -⟩ := List.cons.inj hsplit
              exact absurd hagain (not_tickFails_foldl hfailed done)
        · intro hall
          exact hall [] events rfl hfails
      · rw [ih (not_failed_react h hfails)]
        constructor
        · intro hall done rest hsplit hfail
          cases done with
          | nil =>
              obtain ⟨rfl, -⟩ := List.cons.inj hsplit
              exact absurd ⟨rfl, hfail⟩ hfails
          | cons first done =>
              obtain ⟨rfl, hrest⟩ := List.cons.inj hsplit
              exact hall done rest hrest hfail
        · intro hall done rest hsplit hfail
          exact hall (event :: done) rest (by rw [hsplit]; rfl) hfail

/-- **Every tick of a run that finds the player playing makes sound exactly when none of them comes
after a tick that failed.** -/
theorem ticks_lawful_iff (decoder : Decoder) (files : List Bytes) (seed : BitVec 32)
    (events : List Event) :
    Run.Each (react decoder) (Lawful decoder) (start decoder files seed) events ↔
      ∀ done rest, events = done ++ .tick :: rest →
        (done.foldl (react decoder) (start decoder files seed)).TickFails decoder →
          Run.Each (react decoder) IdleTick
            ((done ++ [.tick]).foldl (react decoder) (start decoder files seed)) rest :=
  run_not_failed rfl events

/-- Two files of one track each, the first of which cannot be played. -/
def damagedFirst : Decoder where
  readChiptune := fun _ _ => none
  gmeOpen := fun _ => .ok 1
  gmeStartTrack := fun _ _ => none
  gmeTrackInfo := fun _ _ => none
  gmePlay := fun call => if call = 4 then some "damaged" else none
  gmeTrackEnded := fun _ => false
  ovOpen := fun _ => none
  ovRead := fun _ => .damaged
  ovSeek := fun _ => false

/-- The user goes on to the second file, which opens, and stays silent. -/
theorem not_lawful_damagedFirst :
    ¬Run.Each (react damagedFirst) (Lawful damagedFirst)
      (start damagedFirst [ascii "/a.nsf", ascii "/b.nsf"] 1)
      [.tick, .changeFile false, .tick] := by
  rintro ⟨-, -, hlast, -⟩
  exact absurd (hlast rfl ⟨by decide, by decide, by decide⟩) (by decide)

end Runs

end ChiptuneAudioLoop

end NesDeck
