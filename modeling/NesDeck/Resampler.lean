/-
**The resampler of the audio device.**

`DeckAudio::write_mono` (`deck_runtime.cpp`) converts the samples of one call from the rate of the
emulator to the rate of the device. What it cannot hand on as a whole frame it remembers in
`rate_remainder_`; between two samples it interpolates, by a 64-bit position in the input of which
the upper half is an index and the next sixteen bits are a phase.

`size_t` has `word` bits (32 on the Deck), and memory is not exhausted. An `int` wraps around, as it
does on the machine. A read beyond the samples has no result.

Main definitions:

* `NesDeck.AudioDevice.interpolated`, `NesDeck.AudioDevice.sampleAt`,
  `NesDeck.AudioDevice.resampleFrom` — the loop of the resampler;
* `NesDeck.AudioDevice.writeMono` — the function;
* `NesDeck.AudioDevice.writeCalls` — calls after one another, and how many frames they hand on;
* `NesDeck.AudioDevice.Sound` — the outputs of a call lie between the samples around them;
* `NesDeck.AudioDevice.Gentle` — no jump between two samples is too large for the phase at which it
  is met.

Main results:

* `NesDeck.AudioDevice.writeMono_spec` — **every call reads within its samples, and hands on as many
  frames as are due**;
* `NesDeck.AudioDevice.writeCalls_length` — **how the input is cut does not change how many frames
  are handed on**;
* `NesDeck.AudioDevice.sound_iff_gentle` — **the outputs are interpolated without an overflow
  exactly when all jumps are gentle**;
* `NesDeck.AudioDevice.toInt_interpolated` — where the product overflows, the sample is right all
  the same on a machine that wraps around.
-/

import NesDeck.AudioDevice
import NesDeck.Lib.RateConversion
import Mathlib.Algebra.BigOperators.Ring.List
import Mathlib.Algebra.Group.Nat.Defs
import Mathlib.Algebra.Order.BigOperators.Group.List
import Mathlib.Logic.Function.Iterate

set_option relaxedAutoImplicit false
set_option autoImplicit false

namespace NesDeck

namespace AudioDevice

/-! ### The function -/

/-- The frames that the input is worth, in units of the source rate. -/
def scaled (device : AudioDevice) (frames : ℕ) : ℕ :=
  (frames * device.outputRate + device.rateRemainder) % 2 ^ 64

/-- `output_frames`. -/
def outputFrames (word : ℕ) (device : AudioDevice) (frames : ℕ) : ℕ :=
  device.scaled frames / device.sourceRate % 2 ^ word

/-- The distance in the input from one output to the next. -/
def step (word : ℕ) (device : AudioDevice) (frames : ℕ) : ℕ :=
  (frames - 1) <<< 32 % 2 ^ 64 / (device.outputFrames word frames - 1)

/-- The position after a step. -/
def advance (step position : ℕ) : ℕ := (position + step) % 2 ^ 64

/-- The index of the sample before a position. -/
def first (position : ℕ) : ℕ := position >>> 32

/-- The phase of a position between two samples. -/
def fraction (position : ℕ) : ℕ := (position >>> 16) &&& 0xffff

/-- The interpolated value, as an `int`. -/
def interpolated (before after : Int16) (fraction : ℕ) : ℤ :=
  before.toInt + (((after.toInt - before.toInt) * fraction).bmod (2 ^ 32)) >>> (16 : ℕ)

/-- The output at a position. -/
def sampleAt (samples : List Int16) (position : ℕ) : Option Int16 :=
  if samples.length - 1 ≤ first position then samples[samples.length - 1]?
  else
    match samples[first position]?, samples[first position + 1]? with
    | some before, some after => some (Int16.ofInt (interpolated before after (fraction position)))
    | _, _ => none

/-- The outputs from a position on. -/
def resampleFrom (samples : List Int16) (step : ℕ) : (count position : ℕ) → Option (List Int16)
  | 0, _ => some []
  | count + 1, position =>
      match sampleAt samples position, resampleFrom samples step count (advance step position) with
      | some output, some outputs => some (output :: outputs)
      | _, _ => none

/-- All outputs of a call that hands on so many frames. -/
def resample (word : ℕ) (device : AudioDevice) (samples : List Int16) : Option (List Int16) :=
  let count := device.outputFrames word samples.length
  if count = 0 then some []
  else if samples.length = 1 ∨ count = 1 then samples[0]?.map (List.replicate count)
  else resampleFrom samples (device.step word samples.length) count 0

/-- What a call leads to. -/
structure Written where
  /-- The device after it. -/
  device : AudioDevice
  /-- The frames that it hands to `enqueue`. -/
  handed : List Int16
  accepted : Bool

/-- The call of `enqueue`. -/
def handOn (device : AudioDevice) (samples : List Int16) : Written :=
  let (queue, accepted) := device.queue.enqueue (some samples)
  ⟨{ device with queue := queue }, samples, accepted⟩

/-- `write_mono`. -/
def writeMono (word : ℕ) (device : AudioDevice) : Option (List Int16) → Option Written
  | none => some ⟨device, [], false⟩
  | some samples =>
      if samples = [] then some ⟨device, [], false⟩
      else if device.sourceRate = device.outputRate then some (device.handOn samples)
      else
        let outputs := device.resample word samples
        let device :=
          { device with rateRemainder := device.scaled samples.length % device.sourceRate }
        match outputs with
        | none => none
        | some [] => some ⟨device, [], true⟩
        | some (output :: outputs) => some (device.handOn (output :: outputs))

/-- Calls after one another, and how many frames they hand on. -/
def writeCalls (word : ℕ) : AudioDevice → List (List Int16) → Option (AudioDevice × ℕ)
  | device, [] => some (device, 0)
  | device, samples :: calls =>
      match device.writeMono word (some samples) with
      | none => none
      | some written =>
          match writeCalls word written.device calls with
          | none => none
          | some (last, count) => some (last, written.handed.length + count)

/-! ### The reads -/

variable {word : ℕ} {device : AudioDevice} {samples : List Int16}

/-- There is an output at every position: no read is beyond the samples. -/
theorem exists_sampleAt (hne : samples ≠ []) (position : ℕ) :
    ∃ output, sampleAt samples position = some output := by
  have hpositive := List.length_pos_iff.2 hne
  rw [sampleAt]
  split_ifs with hend
  · exact ⟨_, List.getElem?_eq_getElem (Nat.sub_one_lt_of_lt hpositive)⟩
  · rw [List.getElem?_eq_getElem (by omega), List.getElem?_eq_getElem (by omega)]
    exact ⟨_, rfl⟩

/-- **The loop reads within the samples**, and its outputs are those at its positions. -/
theorem resampleFrom_spec (hne : samples ≠ []) (step count position : ℕ) :
    ∃ outputs, resampleFrom samples step count position = some outputs ∧ outputs.length = count ∧
      ∀ i < count, outputs[i]? = sampleAt samples ((advance step)^[i] position) := by
  induction count generalizing position with
  | zero => exact ⟨[], rfl, rfl, fun i hi => absurd hi (Nat.not_lt_zero i)⟩
  | succ count ih =>
      obtain ⟨output, houtput⟩ := exists_sampleAt hne position
      obtain ⟨outputs, hrest, hlength, hget⟩ := ih (advance step position)
      refine ⟨output :: outputs, ?_, congrArg (· + 1) hlength, ?_⟩
      · rw [resampleFrom, houtput, hrest]
      · intro i hi
        cases i with
        | zero => exact houtput.symm
        | succ i =>
            rw [List.getElem?_cons_succ, Function.iterate_succ_apply]
            exact hget i (Nat.lt_of_succ_lt_succ hi)

/-- A call resamples all that is due. -/
theorem resample_spec (hne : samples ≠ []) :
    ∃ outputs, device.resample word samples = some outputs ∧
      outputs.length = device.outputFrames word samples.length := by
  rw [resample]
  split_ifs with hnone hone
  · exact ⟨[], rfl, hnone.symm⟩
  · rw [List.getElem?_eq_getElem (List.length_pos_iff.2 hne)]
    exact ⟨_, rfl, List.length_replicate⟩
  · obtain ⟨outputs, hloop, hlength, -⟩ :=
      resampleFrom_spec hne (device.step word samples.length)
        (device.outputFrames word samples.length) 0
    exact ⟨outputs, hloop, hlength⟩

/-! ### What a call hands on -/

/-- A call that converts leaves the remainder of what is due, and hands on the rest. -/
theorem writeMono_of_ne (hne : samples ≠ []) (hrates : device.sourceRate ≠ device.outputRate) :
    ∃ outputs written, device.resample word samples = some outputs ∧
      outputs.length = device.outputFrames word samples.length ∧
      device.writeMono word (some samples) = some written ∧ written.handed = outputs ∧
      written.device.sourceRate = device.sourceRate ∧
      written.device.outputRate = device.outputRate ∧
      written.device.rateRemainder = device.scaled samples.length % device.sourceRate := by
  obtain ⟨outputs, houtputs, hlength⟩ := @resample_spec word device samples hne
  rw [writeMono]
  simp only [if_neg hne, if_neg hrates]
  cases outputs with
  | nil =>
      rw [houtputs]
      exact ⟨[], _, rfl, hlength, rfl, rfl, rfl, rfl, rfl⟩
  | cons output outputs =>
      rw [houtputs]
      exact ⟨output :: outputs, _, rfl, hlength, rfl, rfl, rfl, rfl, rfl⟩

/-- The input is worth less than the 64 bits of its product with the rate. -/
theorem scaled_of_lt {frames : ℕ} (houtput : device.outputRate < 2 ^ 32)
    (hremainder : device.rateRemainder < 2 ^ 32) (hframes : frames < 2 ^ 32) :
    device.scaled frames = frames * device.outputRate + device.rateRemainder := by
  have hproduct : frames * device.outputRate ≤ (2 ^ 32 - 1) * (2 ^ 32 - 1) :=
    Nat.mul_le_mul (by omega) (by omega)
  exact Nat.mod_eq_of_lt (by omega)

/-- **Every call reads within its samples, and hands on as many frames as are due**, if they can be
counted. -/
theorem writeMono_spec (hsource : device.sourceRate < 2 ^ 32) (houtput : device.outputRate < 2 ^ 32)
    (hremainder : device.rateRemainder < device.sourceRate) (hframes : samples.length < 2 ^ 32)
    (hdue : (samples.length * device.outputRate + device.rateRemainder) /
      device.sourceRate < 2 ^ word) :
    ∃ written, device.writeMono word (some samples) = some written ∧
      written.handed.length =
        (samples.length * device.outputRate + device.rateRemainder) / device.sourceRate ∧
      written.device.sourceRate = device.sourceRate ∧
      written.device.outputRate = device.outputRate ∧
      written.device.rateRemainder =
        (samples.length * device.outputRate + device.rateRemainder) % device.sourceRate := by
  have hpositive := Nat.zero_lt_of_lt hremainder
  by_cases hne : samples = []
  · -- A call without samples is refused.
    subst hne
    rw [List.length_nil, Nat.zero_mul, Nat.zero_add, Nat.div_eq_of_lt hremainder,
      Nat.mod_eq_of_lt hremainder]
    exact ⟨⟨device, [], false⟩, rfl, rfl, rfl, rfl, rfl⟩
  by_cases hrates : device.sourceRate = device.outputRate
  · rw [← hrates, Nat.mul_comm, Nat.mul_add_div hpositive, Nat.mul_add_mod,
      Nat.div_eq_of_lt hremainder, Nat.mod_eq_of_lt hremainder, Nat.add_zero]
    refine ⟨device.handOn samples, ?_, rfl, rfl, hrates.symm, rfl⟩
    rw [writeMono]
    simp only [if_neg hne, if_pos hrates]
  · obtain ⟨outputs, written, -, hlength, hwrite, rfl, hsame, hother, hleft⟩ :=
      @writeMono_of_ne word device samples hne hrates
    have hscaled := @scaled_of_lt device _ houtput (by omega) hframes
    refine ⟨written, hwrite, ?_, hsame, hother, hleft.trans (by rw [hscaled])⟩
    rw [hlength, outputFrames, hscaled, Nat.mod_eq_of_lt hdue]

/-! ### Calls after one another -/

/-- What the calls are due, call by call, and what is left. -/
def converted (device : AudioDevice) (calls : List (List Int16)) : List ℕ × ℕ :=
  RateConversion.carried device.sourceRate device.rateRemainder
    (calls.map fun samples => samples.length * device.outputRate)

/-- The frames that the calls are due. -/
def due (device : AudioDevice) (calls : List (List Int16)) : List ℕ := (converted device calls).1

/-- What all calls together are worth. -/
theorem sum_worth (rate : ℕ) (calls : List (List Int16)) :
    (calls.map fun samples => samples.length * rate).sum = calls.flatten.length * rate := by
  rw [List.length_flatten, ← List.sum_map_mul_right]

/-- What is due, and what is left, after a call. -/
theorem converted_cons {next : AudioDevice} (hsame : next.sourceRate = device.sourceRate)
    (hother : next.outputRate = device.outputRate)
    (hleft : next.rateRemainder =
      (samples.length * device.outputRate + device.rateRemainder) % device.sourceRate)
    (calls : List (List Int16)) :
    converted device (samples :: calls) =
      ((samples.length * device.outputRate + device.rateRemainder) / device.sourceRate ::
        (converted next calls).1, (converted next calls).2) := by
  rw [converted, List.map_cons, RateConversion.carried, converted, hsame, hother, hleft]

/-- **The calls hand on what they are due**, and leave what is left. -/
theorem writeCalls_spec {calls : List (List Int16)} (hsource : device.sourceRate < 2 ^ 32)
    (houtput : device.outputRate < 2 ^ 32) (hremainder : device.rateRemainder < device.sourceRate)
    (htotal : calls.flatten.length < 2 ^ 32)
    (hdue : ∀ frames ∈ due device calls, frames < 2 ^ word) :
    ∃ last, writeCalls word device calls = some (last, (due device calls).sum) ∧
      last.rateRemainder = (converted device calls).2 := by
  induction calls generalizing device with
  | nil => exact ⟨device, rfl, rfl⟩
  | cons samples calls ih =>
      rw [List.flatten_cons, List.length_append] at htotal
      have hhead := hdue _ List.mem_cons_self
      obtain ⟨written, hwrite, hlength, hsame, hother, hleft⟩ :=
        writeMono_spec hsource houtput hremainder (by omega) hhead
      have hrest := converted_cons hsame hother hleft calls
      have htail : due device (samples :: calls) =
          written.handed.length :: due written.device calls := by
        rw [due, hrest, hlength, due]
      have hless : written.device.rateRemainder < written.device.sourceRate := by
        rw [hleft, hsame]
        exact Nat.mod_lt _ (Nat.zero_lt_of_lt hremainder)
      obtain ⟨last, hcalls, hend⟩ := @ih written.device (hsame ▸ hsource) (hother ▸ houtput) hless
        (by omega) (fun frames hframes => hdue frames (htail ▸ List.mem_cons_of_mem _ hframes))
      refine ⟨last, ?_, hend.trans (by rw [hrest])⟩
      rw [writeCalls, hwrite]
      dsimp only
      rw [hcalls, htail, List.sum_cons]

/-- The frames of each call can be counted with 64 bits. -/
theorem due_lt {calls : List (List Int16)} (houtput : device.outputRate < 2 ^ 32)
    (hremainder : device.rateRemainder < device.sourceRate) (hsource : device.sourceRate < 2 ^ 32)
    (htotal : calls.flatten.length < 2 ^ 32) : ∀ frames ∈ due device calls, frames < 2 ^ 64 := by
  intro frames hframes
  have hsum := RateConversion.sum_carried hremainder
    (calls.map fun samples => samples.length * device.outputRate)
  have hle : frames ≤ (due device calls).sum := List.le_sum_of_mem hframes
  have hproduct : calls.flatten.length * device.outputRate ≤ (2 ^ 32 - 1) * (2 ^ 32 - 1) :=
    Nat.mul_le_mul (by omega) (by omega)
  rw [due, converted, hsum, sum_worth] at hle
  have hdiv := Nat.div_le_self (calls.flatten.length * device.outputRate + device.rateRemainder)
    device.sourceRate
  omega

/-- The first calls are due what they are due without the later ones. -/
theorem mem_due_of_isPrefix {done calls : List (List Int16)} (h : done <+: calls) {frames : ℕ}
    (hframes : frames ∈ due device done) : frames ∈ due device calls := by
  obtain ⟨later, rfl⟩ := h
  rw [due, converted, List.map_append, RateConversion.fst_carried_append]
  exact List.mem_append_left _ hframes

/-- **How the input is cut does not change how many frames are handed on**: at every moment these
are as many as the whole input so far is worth, all reads being within the samples. -/
theorem writeCalls_length {calls : List (List Int16)} (hpositive : 0 < device.sourceRate)
    (hsource : device.sourceRate < 2 ^ 32) (houtput : device.outputRate < 2 ^ 32)
    (hopened : device.rateRemainder = 0) (htotal : calls.flatten.length < 2 ^ 32)
    (hword : 64 ≤ word ∨ ∀ frames ∈ due device calls, frames < 2 ^ word) :
    ∀ done, done <+: calls →
      ∃ last, writeCalls word device done =
          some (last, done.flatten.length * device.outputRate / device.sourceRate) ∧
        last.rateRemainder < device.sourceRate := by
  intro done hdone
  have hremainder : device.rateRemainder < device.sourceRate := hopened ▸ hpositive
  have hshort : done.flatten.length < 2 ^ 32 := by
    obtain ⟨later, rfl⟩ := hdone
    rw [List.flatten_append, List.length_append] at htotal
    omega
  have hdue : ∀ frames ∈ due device done, frames < 2 ^ word := by
    intro frames hframes
    rcases hword with hwide | hfew
    · exact Nat.lt_of_lt_of_le (due_lt houtput hremainder hsource hshort frames hframes)
        (Nat.pow_le_pow_right (by decide) hwide)
    · exact hfew frames (mem_due_of_isPrefix hdone hframes)
  obtain ⟨last, hcalls, hleft⟩ := writeCalls_spec hsource houtput hremainder hshort hdue
  refine ⟨last, ?_, hleft ▸ RateConversion.snd_carried_lt hremainder _⟩
  rw [hcalls, due, converted, RateConversion.sum_carried hremainder, sum_worth, hopened,
    Nat.add_zero]

/-! ### Between two samples -/

variable {before after : Int16} {phase : ℕ}

/-- Two samples are less than 2¹⁶ apart. -/
theorem abs_sub_toInt_lt (before after : Int16) : |after.toInt - before.toInt| < (2 ^ 16 : ℕ) := by
  have hbefore := And.intro before.le_toInt before.toInt_lt
  have hafter := And.intro after.le_toInt after.toInt_lt
  rw [abs_lt]
  omega

/-- The value is that of an interpolation on a wheel of 2³² numbers. -/
theorem interpolated_eq (before after : Int16) (phase : ℕ) :
    interpolated before after phase =
      before.toInt + RateConversion.share (2 ^ 16) (after.toInt - before.toInt) phase := by
  rw [interpolated, RateConversion.share, Int.shiftRight_eq_div_pow]
  rfl

/-- **Where the product overflows, the sample is right all the same** on a machine that wraps
around: what it is off by is a multiple of 2¹⁶. -/
theorem toInt_interpolated (hphase : phase < 2 ^ 16) :
    (Int16.ofInt (interpolated before after phase)).toInt =
      before.toInt + (after.toInt - before.toInt) * phase / (2 ^ 16 : ℕ) := by
  have hmod := @RateConversion.share_modEq (2 ^ 16) (after.toInt - before.toInt) phase (by decide)
  obtain ⟨hlower, hupper⟩ :=
    @RateConversion.part_between (2 ^ 16) (after.toInt - before.toInt) phase
    (by decide) ⟨by omega, by omega⟩
  have hbefore := And.intro before.le_toInt before.toInt_lt
  have hafter := And.intro after.le_toInt after.toInt_lt
  have hsize : Int16.size = 2 ^ 16 := rfl
  rw [Int16.toInt_ofInt, interpolated_eq, hsize, ← Int.emod_bmod, hmod.add_left before.toInt,
    Int.emod_bmod]
  exact Int.bmod_eq_of_le (by omega) (by omega)

/-- An output between two samples, and how it was computed. -/
structure Between (before after : Int16) (phase : ℕ) (output : Int16) : Prop where
  /-- The product is an `int`. -/
  product : -2 ^ 31 ≤ (after.toInt - before.toInt) * phase ∧
    (after.toInt - before.toInt) * phase < 2 ^ 31
  /-- The value is a sample. -/
  fits : output.toInt = interpolated before after phase
  lower : min before.toInt after.toInt ≤ interpolated before after phase
  upper : interpolated before after phase ≤ max before.toInt after.toInt

/-- **The value lies between two samples exactly when their difference is not too large for the
phase.** -/
theorem between_iff (hphase : phase < 2 ^ 16) :
    Between before after phase (Int16.ofInt (interpolated before after phase)) ↔
      |after.toInt - before.toInt| * phase < 2 ^ 31 := by
  have hwide := abs_sub_toInt_lt before after
  have hrange : 0 ≤ (phase : ℤ) ∧ (phase : ℤ) < (2 ^ 16 : ℕ) := ⟨by omega, by omega⟩
  have hfits : RateConversion.Fits (2 ^ 16) (after.toInt - before.toInt) phase ↔
      |after.toInt - before.toInt| * phase < 2 ^ 31 :=
    RateConversion.fits_iff (by decide) hwide hrange
  have hbetween := @RateConversion.between_iff (2 ^ 16) before.toInt _ _ hwide hrange
  rw [← interpolated_eq, add_sub_cancel] at hbetween
  rw [← hfits]
  constructor
  · intro h
    exact hbetween.1 ⟨h.lower, h.upper⟩
  · intro h
    obtain ⟨hlower, hupper⟩ := hbetween.2 h
    have hvalue : RateConversion.share (2 ^ 16) (after.toInt - before.toInt) phase =
        (after.toInt - before.toInt) * phase / (2 ^ 16 : ℕ) :=
      congrArg (· / ((2 ^ 16 : ℕ) : ℤ)) h
    refine ⟨?_, ?_, hlower, hupper⟩
    · have hproduct : |(after.toInt - before.toInt) * phase| < 2 ^ 31 := by
        rw [abs_mul, abs_of_nonneg hrange.1]
        exact hfits.1 h
      obtain ⟨hlow, hhigh⟩ := abs_lt.1 hproduct
      exact ⟨hlow.le, hhigh⟩
    · rw [toInt_interpolated hphase, interpolated_eq, hvalue]

/-! ### The outputs of a call -/

/-- The call interpolates: the rates differ, and there is more than one frame on either side. -/
def Interpolates (word : ℕ) (device : AudioDevice) (frames : ℕ) : Prop :=
  device.sourceRate ≠ device.outputRate ∧ frames ≠ 1 ∧ device.outputFrames word frames ≠ 1

/-- The position of the loop before an output. -/
def position (word : ℕ) (device : AudioDevice) (frames i : ℕ) : ℕ :=
  (advance (device.step word frames))^[i] 0

/-- **Every output that is interpolated lies between the samples around it.** -/
def Sound (word : ℕ) (device : AudioDevice) (samples : List Int16) : Prop :=
  ∀ written, device.writeMono word (some samples) = some written →
    device.Interpolates word samples.length →
      ∀ i output, written.handed[i]? = some output →
        ∀ before after,
          samples[first (device.position word samples.length i)]? = some before →
          samples[first (device.position word samples.length i) + 1]? = some after →
            Between before after (fraction (device.position word samples.length i)) output

/-- **No jump is too large for its phase**: where an output falls between two samples, the
difference of these, times the phase, is below 2³¹. -/
def Gentle (word : ℕ) (device : AudioDevice) (samples : List Int16) : Prop :=
  device.Interpolates word samples.length →
    ∀ i < device.outputFrames word samples.length, ∀ before after,
      samples[i * device.step word samples.length / 2 ^ 32]? = some before →
      samples[i * device.step word samples.length / 2 ^ 32 + 1]? = some after →
        |after.toInt - before.toInt| *
          ((i * device.step word samples.length / 2 ^ 16 % 2 ^ 16 : ℕ) : ℤ) <
          2 ^ 31

theorem iterate_advance (step i : ℕ) : (advance step)^[i] 0 = i * step % 2 ^ 64 := by
  induction i with
  | zero => rw [Nat.zero_mul]; rfl
  | succ i ih => rw [Function.iterate_succ_apply', ih, advance, Nat.mod_add_mod, Nat.succ_mul]

/-- The position does not wrap around within a call. -/
theorem position_eq {frames i : ℕ} (h : i < device.outputFrames word frames) :
    device.position word frames i = i * device.step word frames := by
  have hsteps : i * device.step word frames ≤ (frames - 1) <<< 32 % 2 ^ 64 :=
    Nat.le_trans (Nat.mul_le_mul_right _ (Nat.le_sub_one_of_lt h)) (Nat.mul_div_le _ _)
  have hlt := Nat.mod_lt ((frames - 1) <<< 32) (Nat.two_pow_pos 64)
  rw [position, iterate_advance, Nat.mod_eq_of_lt (by omega)]

theorem first_eq (position : ℕ) : first position = position / 2 ^ 32 := Nat.shiftRight_eq_div_pow ..

theorem fraction_eq (position : ℕ) : fraction position = position / 2 ^ 16 % 2 ^ 16 := by
  have hmask : 0xffff = 2 ^ 16 - 1 := rfl
  rw [fraction, hmask, Nat.and_two_pow_sub_one_eq_mod, Nat.shiftRight_eq_div_pow]

theorem fraction_lt (position : ℕ) : fraction position < 2 ^ 16 := by
  rw [fraction_eq]
  exact Nat.mod_lt _ (by decide)

/-- An output between two samples is interpolated from them. -/
theorem sampleAt_of_getElem? {position : ℕ} (hbefore : samples[first position]? = some before)
    (hafter : samples[first position + 1]? = some after) :
    sampleAt samples position =
      some (Int16.ofInt (interpolated before after (fraction position))) := by
  have hlt : first position + 1 < samples.length := (List.getElem?_eq_some_iff.1 hafter).1
  rw [sampleAt, if_neg (by omega), hbefore, hafter]

/-- A call that interpolates hands on the outputs at its positions. -/
theorem handed_of_interpolates (hne : samples ≠ [])
    (h : device.Interpolates word samples.length) :
    ∃ written, device.writeMono word (some samples) = some written ∧
      written.handed.length = device.outputFrames word samples.length ∧
      ∀ i < device.outputFrames word samples.length,
        written.handed[i]? = sampleAt samples (device.position word samples.length i) := by
  obtain ⟨hrates, hmany, hcount⟩ := h
  obtain ⟨outputs, written, houtputs, hlength, hwrite, rfl, -⟩ :=
    @writeMono_of_ne word device samples hne hrates
  refine ⟨written, hwrite, hlength, ?_⟩
  intro i hi
  obtain ⟨looped, hloop, -, hget⟩ := resampleFrom_spec hne (device.step word samples.length)
    (device.outputFrames word samples.length) 0
  rw [resample] at houtputs
  simp only [if_neg (Nat.ne_zero_of_lt hi), if_neg (not_or.2 ⟨hmany, hcount⟩)] at houtputs
  rw [hloop] at houtputs
  cases houtputs
  exact hget i hi

/-- **The outputs are interpolated without an overflow exactly when all jumps are gentle.** -/
theorem sound_iff_gentle (word : ℕ) (device : AudioDevice) (samples : List Int16) :
    device.Sound word samples ↔ device.Gentle word samples := by
  constructor
  · intro hsound hinterpolates i hi before after hbefore hafter
    have hne : samples ≠ [] := by
      rintro rfl
      cases hbefore
    obtain ⟨written, hwrite, hlength, hget⟩ := handed_of_interpolates hne hinterpolates
    have hposition := position_eq hi
    rw [← first_eq, ← hposition] at hbefore hafter
    have houtput := (hget i hi).trans (sampleAt_of_getElem? hbefore hafter)
    have hbetween := hsound written hwrite hinterpolates i _ houtput before after hbefore hafter
    rw [← fraction_eq, ← hposition]
    exact (between_iff (fraction_lt _)).1 hbetween
  · intro hgentle written hwrite hinterpolates i output houtput before after hbefore hafter
    have hne : samples ≠ [] := by
      rintro rfl
      cases hbefore
    obtain ⟨same, hsame, hlength, hget⟩ := handed_of_interpolates hne hinterpolates
    obtain rfl : same = written := Option.some.inj (hsame.symm.trans hwrite)
    have hi : i < device.outputFrames word samples.length :=
      hlength ▸ (List.getElem?_eq_some_iff.1 houtput).1
    have hposition := position_eq hi
    rw [hget i hi, sampleAt_of_getElem? hbefore hafter] at houtput
    cases houtput
    rw [between_iff (fraction_lt _), hposition, fraction_eq]
    rw [hposition, first_eq] at hbefore hafter
    exact hgentle hinterpolates i hi before after hbefore hafter

/-- Jumps of at most half of the range are gentle at every phase. -/
theorem gentle_of_jumps
    (h : ∀ i before after, samples[i]? = some before → samples[i + 1]? = some after →
      |after.toInt - before.toInt| ≤ 2 ^ 15) :
    device.Gentle word samples := by
  intro hinterpolates i hi before after hbefore hafter
  have hjump := h _ before after hbefore hafter
  have hphase := Nat.mod_lt (i * device.step word samples.length / 2 ^ 16) (Nat.two_pow_pos 16)
  generalize i * device.step word samples.length / 2 ^ 16 % 2 ^ 16 = phase at hphase ⊢
  have hproduct := Int.mul_le_mul_of_nonneg_right hjump (Int.natCast_nonneg phase)
  omega

/-! ### A steep jump, and a rate of a gigahertz -/

section Sample

/-- A device that was opened for the rates. -/
def ofRates (source output : ℕ) : AudioDevice :=
  { closed with sourceRate := source, outputRate := output }

/-- Four frames are due 2³² + 4, of which four are handed on. -/
theorem writeCalls_gigahertz :
    (List.flatten [List.replicate 4 (0 : Int16)]).length < 2 ^ 32 ∧
      ¬∃ last, writeCalls 32 (ofRates 1 (2 ^ 30 + 1)) [List.replicate 4 0] =
        some (last, (List.flatten [List.replicate 4 (0 : Int16)]).length * (2 ^ 30 + 1) / 1) := by
  refine ⟨by decide, ?_⟩
  rintro ⟨last, hcalls⟩
  have hcount : (writeCalls 32 (ofRates 1 (2 ^ 30 + 1)) [List.replicate 4 0]).map Prod.snd =
      some 4 := by
    decide +kernel
  rw [hcalls] at hcount
  have hfour : 4 * (2 ^ 30 + 1) = 4 := Option.some.inj hcount
  exact absurd hfour (by decide)

/-- Two calls of the game boy core. -/
theorem writeCalls_length_gameBoy :
    ∃ last, writeCalls 32 (ofRates 32768 32000) [List.replicate 5 0, List.replicate 3 0] =
        some (last, 8 * 32000 / 32768) ∧
      last.rateRemainder < 32768 :=
  @writeCalls_length 32 (ofRates 32768 32000) [List.replicate 5 0, List.replicate 3 0] (by decide)
    (by decide) (by decide) rfl (by decide) (Or.inr (by decide)) _ (List.prefix_refl _)

/-- The device of the game boy core, and a jump over the whole range. -/
def steep : List Int16 := [0, 0, -32768, 32767, 0]

/-- The third output is two thirds of the way up the jump, and the product is 65535 · 43690. -/
theorem not_sound_steep : ¬(ofRates 32768 32000).Sound 32 steep := by
  intro hsound
  have hinterpolates : (ofRates 32768 32000).Interpolates 32 steep.length := by
    exact ⟨by decide, by decide, by decide⟩
  have hthird : 2 < (ofRates 32768 32000).outputFrames 32 steep.length := by decide
  obtain ⟨written, hwrite, -, hget⟩ := @handed_of_interpolates 32 _ steep (by decide) hinterpolates
  have hplace : (ofRates 32768 32000).position 32 steep.length 2 = 11453246122 :=
    (position_eq hthird).trans (by decide)
  have hbefore : steep[first ((ofRates 32768 32000).position 32 steep.length 2)]? =
      some (-32768) := by
    rw [hplace]
    decide
  have hafter : steep[first ((ofRates 32768 32000).position 32 steep.length 2) + 1]? =
      some 32767 := by
    rw [hplace]
    decide
  have hbetween := hsound written hwrite hinterpolates 2 _
    ((hget 2 hthird).trans (sampleAt_of_getElem? hbefore hafter)) _ _ hbefore hafter
  rw [hplace] at hbetween
  exact absurd hbetween.product.2 (by decide)

end Sample

end AudioDevice

end NesDeck
