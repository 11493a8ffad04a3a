/-
**Opening the audio device, and changing the volume.**

`DeckAudio::open_device` (`deck_runtime.cpp`) first closes what is open, and then goes through the
steps of the OSS interface: the device is opened, its format, channels and speed are agreed on, its
ring is filled with silence, and a worker thread starts. Every one of them may fail. The chiptune
player (`chiptune_deck.cpp`) changes its volume by opening the device again, and goes on showing the
old volume when that fails.

The answers of the system are given; its calls whose result is ignored are left out.

Main definitions:

* `NesDeck.AudioDevice` — the device and the queue of its worker;
* `NesDeck.OssAnswers` — the answers of the system to one attempt;
* `NesDeck.AudioDevice.openDevice`, `NesDeck.AudioDevice.closeDevice` — the two functions;
* `NesDeck.VolumeControl`, `NesDeck.VolumeControl.changeVolume` — the command of the player;
* `NesDeck.AudioDevice.PlaysAt` — audio runs at a volume, or is silent;
* `NesDeck.OssAnswers.Refuses` — one of the steps fails.

Main results:

* `NesDeck.AudioDevice.openDevice_spec` — **how an attempt to open the device ends**;
* `NesDeck.VolumeControl.kept_iff` — **a change of the volume leaves the audio as it should exactly
  when none of the steps fails, or there was nothing to lose**.
-/

import NesDeck.DeckAudio
import NesDeck.Lib.HostFile

set_option relaxedAutoImplicit false
set_option autoImplicit false

namespace NesDeck

open HostFile (Bytes Errno ascii)

/-! ### The device -/

/-- A `DeckAudio`, apart from its scratch buffers. -/
structure AudioDevice where
  /-- The device is open. -/
  fd : Bool
  sourceRate : ℕ
  outputRate : ℕ
  volumePercent : ℕ
  rateRemainder : ℕ
  squarePhase : ℕ
  triggerPending : Bool
  /-- What the worker shares. -/
  queue : DeckAudio

/-- An answer of `write`: at least one byte, an interruption, or anything else. -/
inductive WriteAnswer where
  | wrote (more : ℕ)
  | interrupted
  | failed

/-- The answers of the system to one attempt to open the device, in the order of the calls. -/
structure OssAnswers where
  openDsp : Option Errno
  setFmt : Option ℤ
  setChannels : Option ℤ
  setSpeed : ℤ → Option ℤ
  /-- The last error before the device is given up. -/
  errno : Errno
  triggerHeld : Bool
  outputSpace : Option ℤ
  writes : List WriteAnswer
  createThread : Option Errno

/-- The reasons for which the device is not opened. -/
inductive OpenDeviceError where
  | invalid
  | cannotOpen (errno : Errno)
  | cannotConfigure (errno : Errno)
  | cannotPrefill
  | cannotStartWriter (errno : Errno)
  deriving DecidableEq

/-- The text of the error. -/
def OpenDeviceError.message (strerror : Errno → Bytes) : OpenDeviceError → Bytes
  | invalid => ascii "invalid audio rate, volume, or buffer size"
  | cannotOpen errno => ascii "cannot open /dev/dsp: " ++ strerror errno
  | cannotConfigure errno => ascii "cannot configure /dev/dsp: " ++ strerror errno
  | cannotPrefill => ascii "cannot prefill /dev/dsp"
  | cannotStartWriter errno => ascii "cannot start audio writer: " ++ strerror errno

/-- `write_all`, for so many bytes; there is no result as long as it is still writing. -/
def writeAll : (writes : List WriteAnswer) → (remaining : ℕ) → Option Bool
  | _, 0 => some true
  | [], _ + 1 => none
  | .wrote more :: writes, remaining + 1 => writeAll writes (remaining - more)
  | .interrupted :: writes, remaining + 1 => writeAll writes (remaining + 1)
  | .failed :: _, _ + 1 => some false

/-- The rate that `DeckAudioOutputRate` makes of the negotiated one. -/
def deckAudioOutputRate (_sourceRate negotiatedRate : ℕ) : ℕ := negotiatedRate

/-- The rate that is asked for. -/
def requestedRate (sourceRate : ℕ) : ℤ := if sourceRate = 32768 then 32000 else sourceRate

namespace OssAnswers

/-- The format, the channels and the speed: the negotiated rate. -/
def configure (answers : OssAnswers) (sourceRate : ℕ) : Option ℤ :=
  if answers.setFmt = some 0x10 ∧ answers.setChannels = some 1 then
    match answers.setSpeed (requestedRate sourceRate) with
    | some rate => if 0 < rate then some rate else none
    | none => none
  else none

/-- The ring is filled with silence, if its size makes sense. -/
def prefill (answers : OssAnswers) : Option Bool :=
  match answers.outputSpace with
  | some bytes =>
      if 0 < bytes ∧ bytes ≤ 1024 * 1024 ∧ bytes % 2 = 0 then writeAll answers.writes bytes.toNat
      else some true
  | none => some true

end OssAnswers

namespace AudioDevice

/-- A device that was never opened. -/
def closed : AudioDevice where
  fd := false
  sourceRate := 0
  outputRate := 0
  volumePercent := 0
  rateRemainder := 0
  squarePhase := 0
  triggerPending := false
  queue :=
    { queue := []
      queueHead := 0
      queueSize := 0
      droppedFrames := 0
      threadStarted := false
      stopping := false
      workerFailed := false }

/-- `close_device`: the worker ends, and nothing of the device is left. -/
def closeDevice (_device : AudioDevice) : AudioDevice := closed

/-- `open_device`.  The result is missing as long as the silence is being written. -/
def openDevice (answers : OssAnswers) (device : AudioDevice)
    (sourceRate volumePercent fragmentCount : ℕ) :
    Option (AudioDevice × Except OpenDeviceError Unit) :=
  let device := device.closeDevice
  if sourceRate = 0 ∨ 100 < volumePercent ∨ fragmentCount = 0 ∨ 64 < fragmentCount then
    some (device, .error .invalid)
  else if volumePercent = 0 then some (device, .ok ())
  else
    match answers.openDsp with
    | some errno => some (device, .error (.cannotOpen errno))
    | none =>
        let device := { device with fd := true }
        match answers.configure sourceRate with
        | none => some (device.closeDevice, .error (.cannotConfigure answers.errno))
        | some rate =>
            let device :=
              { device with
                sourceRate := sourceRate
                outputRate := deckAudioOutputRate sourceRate rate.toNat
                volumePercent := volumePercent
                triggerPending := answers.triggerHeld }
            match answers.prefill with
            | none => none
            | some false => some (device.closeDevice, .error .cannotPrefill)
            | some true =>
                let device :=
                  { device with queue := { DeckAudio.opened with threadStarted := false } }
                match answers.createThread with
                | some errno => some (device.closeDevice, .error (.cannotStartWriter errno))
                | none =>
                    some ({ device with queue := { device.queue with threadStarted := true } },
                      .ok ())

/-- `available`. -/
def available (device : AudioDevice) : Bool :=
  device.queue.threadStarted = true ∧ device.queue.workerFailed = false

/-- Audio runs at the volume, or is silent for none. -/
def PlaysAt (device : AudioDevice) (volume : ℕ) : Prop :=
  if volume = 0 then device.available = false
  else device.available = true ∧ device.fd = true ∧ device.volumePercent = volume

instance (device : AudioDevice) (volume : ℕ) : Decidable (device.PlaysAt volume) :=
  inferInstanceAs (Decidable (if volume = 0 then _ else _))

end AudioDevice

/-! ### How an attempt ends -/

/-- One of the steps fails, all of them before it being done. -/
inductive OssAnswers.Refuses (answers : OssAnswers) (sourceRate : ℕ) : Prop where
  | unopened : answers.openDsp ≠ none → Refuses answers sourceRate
  | unconfigured : answers.openDsp = none → answers.configure sourceRate = none →
      Refuses answers sourceRate
  | unfilled : answers.openDsp = none → answers.configure sourceRate ≠ none →
      answers.prefill = some false → Refuses answers sourceRate
  | unstarted : answers.openDsp = none → answers.configure sourceRate ≠ none →
      answers.prefill = some true → answers.createThread ≠ none → Refuses answers sourceRate

namespace AudioDevice

variable {answers : OssAnswers} {device : AudioDevice} {sourceRate volumePercent fragmentCount : ℕ}

/-- The arguments are in their ranges. -/
def ValidArguments (sourceRate volumePercent fragmentCount : ℕ) : Prop :=
  0 < sourceRate ∧ volumePercent ≤ 100 ∧ 0 < fragmentCount ∧ fragmentCount ≤ 64

theorem playsAt_closed (volume : ℕ) : closed.PlaysAt volume ↔ volume = 0 := by
  rw [PlaysAt]
  split
  · rename_i hzero
    exact iff_of_true rfl hzero
  · rename_i hpositive
    exact iff_of_false (fun h => absurd h.1 (by decide)) hpositive

/-- **How an attempt to open the device ends**, whatever was open before: it fails with nothing open
if a step fails, and otherwise audio runs, with an empty ring. -/
theorem openDevice_spec (h : ValidArguments sourceRate volumePercent fragmentCount)
    {next : AudioDevice} {result : Except OpenDeviceError Unit}
    (hopen : openDevice answers device sourceRate volumePercent fragmentCount =
      some (next, result)) :
    (volumePercent ≠ 0 ∧ answers.Refuses sourceRate ∧ next = closed ∧ result ≠ .ok ()) ∨
      ((volumePercent = 0 ∨ ¬answers.Refuses sourceRate) ∧ result = .ok () ∧
        next.PlaysAt volumePercent ∧ (volumePercent ≠ 0 → next.queue = DeckAudio.opened)) := by
  obtain ⟨hrate, hvolume, hfragments, hfew⟩ := h
  rw [openDevice, if_neg (by omega)] at hopen
  split at hopen
  · -- Nothing is needed for silence.
    rename_i hzero
    cases hopen
    exact Or.inr ⟨Or.inl hzero, rfl, (playsAt_closed _).2 hzero, fun hne => absurd hzero hne⟩
  rename_i hpositive
  split at hopen
  · rename_i errno hdsp
    cases hopen
    exact Or.inl ⟨hpositive, .unopened (by rw [hdsp]; exact Option.some_ne_none _), rfl, by simp⟩
  rename_i hdsp
  dsimp only at hopen
  split at hopen
  · rename_i hconfigure
    cases hopen
    exact Or.inl ⟨hpositive, .unconfigured hdsp hconfigure, rfl, by simp⟩
  rename_i rate hconfigure
  have hconfigured : answers.configure sourceRate ≠ none := by
    rw [hconfigure]
    exact Option.some_ne_none _
  split at hopen
  · cases hopen
  · rename_i hprefill
    cases hopen
    exact Or.inl ⟨hpositive, .unfilled hdsp hconfigured hprefill, rfl, by simp⟩
  · rename_i hprefill
    split at hopen
    · rename_i errno hthread
      cases hopen
      refine Or.inl ⟨hpositive, .unstarted hdsp hconfigured hprefill ?_, rfl, by simp⟩
      rw [hthread]
      exact Option.some_ne_none _
    · rename_i hthread
      cases hopen
      refine Or.inr ⟨Or.inr ?_, rfl, ?_, fun _ => rfl⟩
      · intro hrefuses
        cases hrefuses with
        | unopened h => exact h hdsp
        | unconfigured _ h => exact hconfigured h
        | unfilled _ _ h =>
            rw [hprefill] at h
            cases h
        | unstarted _ _ _ h => exact h hthread
      · rw [PlaysAt, if_neg hpositive]
        exact ⟨rfl, rfl, rfl⟩

/-- A step that fails ends the attempt. -/
theorem openDevice_of_refuses (h : ValidArguments sourceRate volumePercent fragmentCount)
    (hpositive : volumePercent ≠ 0) (hrefuses : answers.Refuses sourceRate) :
    ∃ error, openDevice answers device sourceRate volumePercent fragmentCount =
      some (closed, .error error) := by
  obtain ⟨hrate, hvolume, hfragments, hfew⟩ := h
  rw [openDevice, if_neg (by omega), if_neg hpositive]
  cases hrefuses with
  | unopened hdsp =>
      obtain ⟨errno, hdsp⟩ := Option.ne_none_iff_exists'.1 hdsp
      rw [hdsp]
      exact ⟨_, rfl⟩
  | unconfigured hdsp hconfigure =>
      rw [hdsp, hconfigure]
      exact ⟨_, rfl⟩
  | unfilled hdsp hconfigure hprefill =>
      obtain ⟨rate, hconfigure⟩ := Option.ne_none_iff_exists'.1 hconfigure
      rw [hdsp, hconfigure, hprefill]
      exact ⟨_, rfl⟩
  | unstarted hdsp hconfigure hprefill hthread =>
      obtain ⟨rate, hconfigure⟩ := Option.ne_none_iff_exists'.1 hconfigure
      obtain ⟨errno, hthread⟩ := Option.ne_none_iff_exists'.1 hthread
      rw [hdsp, hconfigure, hprefill, hthread]
      exact ⟨_, rfl⟩

end AudioDevice

/-! ### The command of the player -/

def kSampleRate : ℕ := 44100

def kAudioFragments : ℕ := 4

/-- The audio of the player, and the volume that its screen shows. -/
structure VolumeControl where
  audio : AudioDevice
  volumePercent : ℕ
  percent : volumePercent ≤ 100

namespace VolumeControl

/-- The volume that a command asks for. -/
def requested (control : VolumeControl) (up : Bool) : ℕ :=
  if up then min 100 (control.volumePercent + 5)
  else if 5 ≤ control.volumePercent then control.volumePercent - 5 else 0

theorem requested_le (control : VolumeControl) (up : Bool) : control.requested up ≤ 100 := by
  have := control.percent
  rw [requested]
  split_ifs <;> omega

/-- The command: whether the device was opened again, if that was attempted at all. -/
def changeVolume (answers : OssAnswers) (control : VolumeControl) (up : Bool) :
    Option (VolumeControl × Option Bool) :=
  if control.requested up = control.volumePercent then some (control, none)
  else
    match control.audio.openDevice answers kSampleRate (control.requested up) kAudioFragments with
    | none => none
    | some (audio, .ok ()) =>
        some (⟨audio, control.requested up, requested_le control up⟩, some true)
    | some (audio, .error _) => some ({ control with audio := audio }, some false)

/-- After a success audio runs at the requested volume and the screen shows it, and after a failure
both are as before. -/
def Kept (answers : OssAnswers) (control : VolumeControl) (up : Bool) : Prop :=
  ∀ next reopened, control.changeVolume answers up = some (next, some reopened) →
    next.audio.PlaysAt next.volumePercent ∧
      next.volumePercent = if reopened = true then control.requested up else control.volumePercent

/-- The arguments of the player are in their ranges. -/
theorem validArguments_requested (control : VolumeControl) (up : Bool) :
    AudioDevice.ValidArguments kSampleRate (control.requested up) kAudioFragments :=
  ⟨by decide, requested_le control up, by decide, by decide⟩

/-- **A change of the volume leaves the audio as it should exactly when none of the steps fails, or
there was nothing to lose**: no volume in force, or none other requested. -/
theorem kept_iff (answers : OssAnswers) (control : VolumeControl) (up : Bool) :
    Kept answers control up ↔
      control.requested up = control.volumePercent ∨ control.volumePercent = 0 ∨
        control.requested up = 0 ∨ ¬answers.Refuses kSampleRate := by
  have hvalid := validArguments_requested control up
  constructor
  · intro hkept
    by_contra hcondition
    simp only [not_or, not_not] at hcondition
    obtain ⟨hother, hshown, hpositive, hrefuses⟩ := hcondition
    obtain ⟨error, hopen⟩ :=
      @AudioDevice.openDevice_of_refuses answers control.audio _ _ _ hvalid hpositive hrefuses
    have hchange : control.changeVolume answers up =
        some ({ control with audio := .closed }, some false) := by
      rw [changeVolume, if_neg hother, hopen]
    have hplays := (hkept _ _ hchange).1
    exact hshown ((AudioDevice.playsAt_closed _).1 hplays)
  · intro hcondition next reopened hchange
    rw [changeVolume] at hchange
    split at hchange
    · cases hchange
    rename_i hother
    split at hchange
    · cases hchange
    · -- The device was opened.
      rename_i audio hopen
      cases hchange
      rcases AudioDevice.openDevice_spec hvalid hopen with ⟨-, -, -, hresult⟩ | ⟨-, -, hplays, -⟩
      · exact absurd rfl hresult
      · exact ⟨hplays, rfl⟩
    · rename_i audio error hopen
      cases hchange
      rcases AudioDevice.openDevice_spec hvalid hopen
        with ⟨hpositive, hrefuses, rfl, -⟩ | ⟨-, hok, -⟩
      · have hshown : control.volumePercent = 0 := by
          rcases hcondition with h | h | h | h
          · exact absurd h hother
          · exact h
          · exact absurd h hpositive
          · exact absurd hrefuses h
        exact ⟨(AudioDevice.playsAt_closed _).2 hshown, rfl⟩
      · cases hok

/-! ### A busy device -/

section Sample

/-- Audio runs at half of the volume. -/
def half : VolumeControl where
  audio :=
    { AudioDevice.closed with
      fd := true
      sourceRate := 44100
      outputRate := 44100
      volumePercent := 50
      queue := .opened }
  volumePercent := 50
  percent := by decide

/-- Another program has the device when the player opens it again. -/
def busy : OssAnswers where
  openDsp := some ⟨16⟩
  setFmt := some 0x10
  setChannels := some 1
  setSpeed := some
  errno := ⟨16⟩
  triggerHeld := true
  outputSpace := none
  writes := []
  createThread := none

/-- The change to 55 fails, and audio does not run at 50 any more. -/
theorem not_kept_busy : half.audio.PlaysAt 50 ∧ ¬Kept busy half true := by
  refine ⟨⟨rfl, rfl, rfl⟩, ?_⟩
  intro hkept
  have hchange : half.changeVolume busy true = some ({ half with audio := .closed }, some false) :=
    rfl
  exact absurd (hkept _ _ hchange).1 (by decide)

end Sample

end VolumeControl

end NesDeck
