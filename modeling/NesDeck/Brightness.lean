/-
**The brightness of the panel.**

The brightness lives in two places: the backlight device, which shows it, and a state file, which
keeps it. `set_brightness_percent` writes the device and then saves the state, and takes nothing
back. The device is an attribute of sysfs on the deck, which takes the bytes of one `write` call as
its new value and ignores a truncation, and an ordinary file in the tests. Device and state are
independent of each other: a call on one leaves the other as it is.

The results of `fstat` are dropped where it fails, and so is the error of a truncation that the
device does not support. The error strings are empty before a call.

Main definitions:

* `NesDeck.Brightness.Device`, `NesDeck.Brightness.WriteCalls`, `NesDeck.Brightness.ReadCalls` — the
  device, and how the calls on it end;
* `NesDeck.Brightness.writeDeviceInteger`, `NesDeck.Brightness.readDeviceInteger` — writing and
  reading;
* `NesDeck.Brightness.setBrightnessPercent`, `NesDeck.Brightness.loadBrightness` — the setting;
* `NesDeck.Brightness.applyBrightnessTarget` — a press of one of the two buttons;
* `NesDeck.Brightness.SafeToSet` — the calls after which device and state agree.

Main results:

* `NesDeck.Brightness.settings_saved` — **a setting is saved completely or not at all, and a saved
  one is loaded again**;
* `NesDeck.Brightness.setBrightnessPercent_agrees_iff` — **device and state agree after a request
  exactly if its calls are safe**;
* `NesDeck.Brightness.always_describes_iff` — the menu describes the panel throughout a run exactly
  if the calls of every press are safe.
-/

import NesDeck.Lib.Run
import NesDeck.MenuLoop
import NesDeck.StateFiles

set_option relaxedAutoImplicit false
set_option autoImplicit false

namespace NesDeck.Brightness

open FileStore HostFile
open MenuText (isAbsolutePath trimAsciiSpace)
open StateFiles

/-! ### The device -/

/-- What the path of the device leads to. -/
inductive DeviceKind where
  | file
  | sysfs
  deriving DecidableEq

structure Device where
  kind : DeviceKind
  content : Bytes
  deriving DecidableEq

/-- The size that `fstat` reports; that of an attribute is the size of a page. -/
def Device.size (device : Device) : ℕ :=
  match device.kind with
  | .file => device.content.length
  | .sysfs => 4096

/-- The device after a truncation that succeeds. -/
def Device.truncated (device : Device) : Device :=
  match device.kind with
  | .file => { device with content := [] }
  | .sysfs => device

/-- The loop of `write` calls on an attribute, which takes the bytes of a call as its new value. -/
def writeAttribute : List WriteOutcome → Bytes → Bytes → Bytes × Option Errno
  | [], _, bytes => (bytes, none)
  | .interrupted :: script, content, bytes => writeAttribute script content bytes
  | .failed errno :: _, content, _ => (content, some errno)
  | .transferred _ :: _, _, bytes => (bytes, none)

/-- `write_all` on the opened device. -/
def Device.writeAll (device : Device) (script : List WriteOutcome) (bytes : Bytes) :
    Device × Option Errno :=
  let written :=
    match device.kind with
    | .file => writeFile script device.content 0 bytes
    | .sysfs => writeAttribute script device.content bytes
  ({ device with content := written.1 }, written.2)

def einval : Errno := ⟨22⟩

def eperm : Errno := ⟨1⟩

/-- How the calls of `write_device_integer` end. -/
structure WriteCalls where
  opens : Option Errno
  statFails : Bool
  truncate : Option Errno
  writes : List WriteOutcome
  closeFails : Bool
  /-- What `errno` holds when `write_all` succeeds. -/
  lastErrno : Errno

/-- How the calls of `read_device_integer` end. -/
structure ReadCalls where
  opens : Option Errno
  reads : List ReadOutcome
  /-- What `errno` holds after a failing `read`. -/
  readErrno : Errno

/-- The reasons for which the device is not read or not written. -/
inductive DeviceError where
  | notAbsolute
  | cannotOpen (errno : Errno)
  | cannotTruncate (errno : Errno)
  | cannotWrite (errno : Errno)
  | cannotRead (errno : Errno)
  | empty
  | notUnsigned
  | tooLarge
  deriving DecidableEq

/-- The text of the error. -/
def DeviceError.message (strerror : Errno → Bytes) (role path : Bytes) : DeviceError → Bytes
  | notAbsolute => role ++ ascii " path must be absolute"
  | cannotOpen errno =>
      errnoMessage strerror (ascii "cannot open " ++ role ++ ascii " " ++ path) errno
  | cannotTruncate errno =>
      errnoMessage strerror (ascii "cannot truncate " ++ role ++ ascii " " ++ path) errno
  | cannotWrite errno =>
      errnoMessage strerror (ascii "cannot write " ++ role ++ ascii " " ++ path) errno
  | cannotRead errno =>
      errnoMessage strerror (ascii "cannot read " ++ role ++ ascii " " ++ path) errno
  | empty => role ++ ascii " is empty"
  | notUnsigned => role ++ ascii " must contain an unsigned integer"
  | tooLarge => role ++ ascii " is too large"

/-- The device is truncated where `fstat` finds something in it. -/
def WriteCalls.Truncates (calls : WriteCalls) (device : Device) : Prop :=
  calls.statFails = false ∧ 0 < device.size

instance (calls : WriteCalls) (device : Device) : Decidable (calls.Truncates device) :=
  inferInstanceAs (Decidable (_ ∧ _))

/-- The error of a truncation that is not ignored. -/
def WriteCalls.truncateError (calls : WriteCalls) (device : Device) : Option Errno :=
  if calls.Truncates device then calls.truncate.filter fun errno => errno ≠ einval ∧ errno ≠ eperm
  else none

/-- The device when the writing begins. -/
def WriteCalls.started (calls : WriteCalls) (device : Device) : Device :=
  if calls.Truncates device ∧ calls.truncate = none then device.truncated else device

/-- A number as the device shows it. -/
def numberLine (value : ℕ) : Bytes := decimal value ++ ascii "\n"

def writeDeviceInteger (device : Device) (path : Bytes) (value : ℕ) (calls : WriteCalls) :
    Device × Except DeviceError Unit :=
  if isAbsolutePath path = false then (device, .error .notAbsolute)
  else
    match calls.opens with
    | some errno => (device, .error (.cannotOpen errno))
    | none =>
        match calls.truncateError device with
        | some errno => (device, .error (.cannotTruncate errno))
        | none =>
            let written := (calls.started device).writeAll calls.writes (numberLine value)
            match written.2 with
            | some errno => (written.1, .error (.cannotWrite errno))
            | none =>
                if calls.closeFails = true then (written.1, .error (.cannotWrite calls.lastErrno))
                else (written.1, .ok ())

/-- The largest value of an `unsigned int`. -/
def uintMax : ℕ := 2 ^ 32 - 1

/-- The loop over the digits. -/
def unsignedLoop : Bytes → ℕ → Except DeviceError ℕ
  | [], parsed => .ok parsed
  | character :: rest, parsed =>
      if character < 0x30 ∨ 0x39 < character then .error .notUnsigned
      else if uintMax < parsed * 10 + (character.toNat - 0x30) then .error .tooLarge
      else unsignedLoop rest (parsed * 10 + (character.toNat - 0x30))

def readDeviceInteger (content path : Bytes) (calls : ReadCalls) : Except DeviceError ℕ :=
  if isAbsolutePath path = false then .error .notAbsolute
  else
    match calls.opens with
    | some errno => .error (.cannotOpen errno)
    | none =>
        match readAll calls.reads content 63 with
        | none => .error (.cannotRead calls.readErrno)
        | some bytes =>
            if trimAsciiSpace bytes = [] then .error .empty
            else unsignedLoop (trimAsciiSpace bytes) 0

/-! ### The setting -/

def kBrightnessStep : ℕ := 10

def kMinimumBrightness : ℕ := 10

def brightnessRawValue (percent maximum : ℕ) : ℕ :=
  if maximum = 0 then 0
  else max 1 (min maximum (((percent * maximum + 50) / 100) % 2 ^ 32))

/-- The paths of the setting. -/
structure Paths where
  brightness : Bytes
  maximum : Bytes
  state : Bytes

/-- The two places of the brightness. -/
structure Stores where
  device : Device
  files : Files

/-- The reasons for which the brightness is not set or not loaded. -/
inductive BrightnessError where
  | step
  | maximum (error : DeviceError)
  | brightness (error : DeviceError)
  | range
  | state (error : StateError)
  | form
  deriving DecidableEq

/-- The text of the error. -/
def BrightnessError.message (strerror : Errno → Bytes) (paths : Paths) : BrightnessError → Bytes
  | step => ascii "brightness must be a 10-point step from 10 through 100"
  | maximum error => error.message strerror (ascii "maximum brightness") paths.maximum
  | brightness error => error.message strerror (ascii "brightness") paths.brightness
  | range => ascii "brightness is outside the backlight range"
  | state error => error.message strerror (ascii "brightness") paths.state
  | form => ascii
      "brightness state must contain a 10-point step from 10 through 100 followed by a newline"

/-- A percentage that may be set on a device with the given maximum. -/
def Settable (maximum percent : ℕ) : Prop :=
  maximum ≠ 0 ∧ kMinimumBrightness ≤ percent ∧ percent ≤ 100 ∧ percent % kBrightnessStep = 0

instance (maximum percent : ℕ) : Decidable (Settable maximum percent) :=
  inferInstanceAs (Decidable (_ ∧ _))

def setBrightnessPercent (stores : Stores) (paths : Paths) (maximum percent : ℕ)
    (calls : WriteCalls) (save : SaveCalls) : Stores × Except BrightnessError Unit :=
  if ¬ Settable maximum percent then (stores, .error .step)
  else
    let written :=
      writeDeviceInteger stores.device paths.brightness (brightnessRawValue percent maximum)
      calls
    match written.2 with
    | .error error => ({ stores with device := written.1 }, .error (.brightness error))
    | .ok () =>
        let saved := saveStateValue stores.files paths.state (decimal percent) save
        (⟨written.1, saved.1⟩, saved.2.mapError .state)

/-- The calls of `load_brightness`. -/
structure StartCalls where
  maximum : ReadCalls
  brightness : ReadCalls
  state : LoadCalls
  write : WriteCalls
  save : SaveCalls

/-- The percentage that describes the device best. -/
def observedPercent (current maximum : ℕ) : ℕ :=
  let observed := (current * 100 + maximum / 2) / maximum
  max kMinimumBrightness
    (min 100 ((observed + kBrightnessStep / 2) / kBrightnessStep * kBrightnessStep))

/-- The maximum and the percentage, if they are loaded; both places are set anew. -/
def loadBrightness (stores : Stores) (maximumContent : Bytes) (paths : Paths) (calls : StartCalls) :
    Stores × Except BrightnessError (ℕ × ℕ) :=
  let adopt maximum percent :=
    let set := setBrightnessPercent stores paths maximum percent calls.write calls.save
    (set.1, set.2.map fun _ => (maximum, percent))
  match readDeviceInteger maximumContent paths.maximum calls.maximum with
  | .error error => (stores, .error (.maximum error))
  | .ok maximum =>
      if maximum = 0 then (stores, .error .range)
      else
        match readDeviceInteger stores.device.content paths.brightness calls.brightness with
        | .error error => (stores, .error (.brightness error))
        | .ok current =>
            if maximum < current then (stores, .error .range)
            else
              match loadStateValue stores.files paths.state calls.state with
              | .error error => (stores, .error (.state error))
              | .ok none => adopt maximum (observedPercent current maximum)
              | .ok (some bytes) =>
                  match linePercent bytes with
                  | none => (stores, .error .form)
                  | some percent =>
                      if percent < kMinimumBrightness ∨ percent % kBrightnessStep ≠ 0 then
                        (stores, .error .form)
                      else adopt maximum percent

/-! ### The menu -/

def brightnessAfterSettingsTarget (target : ℤ) (brightness : ℕ) : ℕ :=
  if target = MenuLoop.settingsTargetBrightnessUp then min 100 (brightness + kBrightnessStep)
  else if target = MenuLoop.settingsTargetBrightnessDown then
    if kMinimumBrightness < brightness then max kMinimumBrightness (brightness - kBrightnessStep)
    else kMinimumBrightness
  else brightness

/-- What `apply_brightness_target` reads and changes: the two places, the percentage that the menu
shows, its status line and the errors in its log. -/
structure Panel where
  stores : Stores
  brightness : ℕ
  status : Bytes
  log : List BrightnessError

/-- A target that is activated, and how the calls of the request end. -/
structure Press where
  target : ℤ
  write : WriteCalls
  save : SaveCalls

def applyBrightnessTarget (paths : Paths) (maximum : ℕ) (panel : Panel) (press : Press) : Panel :=
  let requested := brightnessAfterSettingsTarget press.target panel.brightness
  let result := setBrightnessPercent panel.stores paths maximum requested press.write press.save
  match result.2 with
  | .ok () =>
      ⟨result.1, requested, ascii "BRIGHTNESS " ++ decimal requested ++ ascii "%", panel.log⟩
  | .error error =>
      ⟨result.1, panel.brightness, ascii "BRIGHTNESS ERROR - CHECK LOG", panel.log ++ [error]⟩

/-! ### The number on the device -/

theorem unsignedLoop_append (first second : Bytes) (parsed : ℕ) :
    unsignedLoop (first ++ second) parsed =
      (unsignedLoop first parsed).bind (unsignedLoop second) := by
  fun_induction unsignedLoop first parsed with
  | case1 => rfl
  | case2 character rest parsed hdigit =>
      rw [List.cons_append, unsignedLoop, if_pos hdigit]
      rfl
  | case3 character rest parsed hdigit hlarge =>
      rw [List.cons_append, unsignedLoop, if_neg hdigit, if_pos hlarge]
      rfl
  | case4 character rest parsed hdigit hlarge ih =>
      rw [List.cons_append, unsignedLoop, if_neg hdigit, if_neg hlarge, ih]

/-- A number is read as it is written. -/
theorem unsignedLoop_decimal (n : ℕ) : n ≤ uintMax → unsignedLoop (decimal n) 0 = .ok n := by
  refine decimal_induction (P := fun n text => n ≤ uintMax → unsignedLoop text 0 = .ok n) ?_ ?_ n
  · intro value digit hdigit hle
    rw [unsignedLoop, if_neg (by simp [UInt8.not_lt, hdigit.low, hdigit.high]), hdigit.toNat,
      Nat.zero_mul,
      Nat.zero_add, if_neg (Nat.not_lt.2 hle), unsignedLoop]
  · intro n text value digit ih hdigit hle
    rw [unsignedLoop_append, ih (by omega)]
    show unsignedLoop [digit] n = .ok (n * 10 + value)
    rw [unsignedLoop, if_neg (by simp [UInt8.not_lt, hdigit.low, hdigit.high]), hdigit.toNat,
      if_neg (Nat.not_lt.2 hle), unsignedLoop]

/-- **The number on the device is read**, where no call fails. -/
theorem readDeviceInteger_numberLine {value : ℕ} {path : Bytes} {calls : ReadCalls}
    (hpath : isAbsolutePath path = true) (hopens : calls.opens = none)
    (hreads : ReadOutcome.failed ∉ calls.reads) (hvalue : value ≤ uintMax) :
    readDeviceInteger (numberLine value) path calls = .ok value := by
  have hspace : ∀ byte : UInt8, 0x30 ≤ byte → MenuText.isSpace byte = false :=
    forall_byte (by decide +kernel)
  have hdigits : ∀ character ∈ decimal value, MenuText.isSpace character = false :=
    fun character hmem => hspace character (digits_decimal value character hmem).1
  have hnewline : numberLine value = decimal value ++ [0x0a] := rfl
  have hne := decimal_ne_nil value
  have hlength := length_decimal (show value < 2 ^ 32 by rw [uintMax] at hvalue; omega)
  have htrim : trimAsciiSpace (numberLine value) = decimal value := by
    cases hdecimal : decimal value with
    | nil => exact absurd hdecimal hne
    | cons first rest =>
        have hfirst : MenuText.isSpace first = false :=
          hdigits first (by rw [hdecimal]; exact List.mem_cons_self)
        rw [trimAsciiSpace, hnewline, hdecimal, List.cons_append,
          List.dropWhile_cons_of_neg (by simp [hfirst]), ← List.cons_append,
          List.rdropWhile_concat_pos _ _ _ (by decide), List.rdropWhile_eq_self_iff, ← hdecimal]
        intro hne
        simpa using hdigits _ (List.getLast_mem hne)
  rw [readDeviceInteger, if_neg (by simp [hpath]), hopens]
  dsimp only
  rw [readAll_of_notMem hreads, List.take_of_length_le]
  · dsimp only
    rw [htrim, if_neg hne]
    exact unsignedLoop_decimal value hvalue
  · rw [hnewline, List.length_append, List.length_singleton]
    omega

/-! ### What a request leaves behind -/

/-- The bytes that the `write` calls take, and the error that stops them. -/
def taken (kind : DeviceKind) (script : List WriteOutcome) (bytes : Bytes) : Bytes × Option Errno :=
  match kind with
  | .file => accepted script bytes
  | .sysfs => writeAttribute script [] bytes

/-- The device with these bytes written from its start. -/
def Device.put (device : Device) (bytes : Bytes) : Device :=
  match device.kind with
  | .file => { device with content := overwrite device.content 0 bytes }
  | .sysfs => { device with content := if bytes = [] then device.content else bytes }

theorem writeAttribute_eq (script : List WriteOutcome) {content bytes : Bytes} (h : bytes ≠ []) :
    writeAttribute script content bytes =
      (if (writeAttribute script [] bytes).1 = [] then content
        else (writeAttribute script [] bytes).1,
        (writeAttribute script [] bytes).2) := by
  fun_induction writeAttribute script content bytes with
  | case1 => simp [writeAttribute, h]
  | case2 content bytes script ih => exact ih h
  | case3 => simp [writeAttribute]
  | case4 => simp [writeAttribute, h]

/-- The loop of `write` calls puts what they take. -/
theorem Device.writeAll_eq (device : Device) (script : List WriteOutcome) {bytes : Bytes}
    (h : bytes ≠ []) :
    device.writeAll script bytes =
      (device.put (taken device.kind script bytes).1, (taken device.kind script bytes).2) := by
  obtain ⟨kind, content⟩ := device
  cases kind with
  | file =>
      have hwritten := writeFile_eq script (Nat.zero_le content.length) bytes
      exact congrArg (fun written : Bytes × Option Errno =>
        (Device.mk .file written.1, written.2)) hwritten
  | sysfs =>
      have hwritten := @writeAttribute_eq script content bytes h
      exact congrArg (fun written : Bytes × Option Errno =>
        (Device.mk .sysfs written.1, written.2)) hwritten

/-- Everything is taken exactly if no call fails. -/
theorem taken_eq_iff (kind : DeviceKind) (script : List WriteOutcome) {bytes : Bytes}
    (h : bytes ≠ []) :
    (taken kind script bytes).2 = none ↔ (taken kind script bytes).1 = bytes := by
  cases kind with
  | file => exact (accepted_eq script bytes).2
  | sysfs =>
      simp only [taken]
      induction script with
      | nil => exact iff_of_true rfl rfl
      | cons outcome script ih =>
          cases outcome with
          | interrupted => exact ih
          | failed errno => exact iff_of_false (Option.some_ne_none errno) (Ne.symm h)
          | transferred limit => exact iff_of_true rfl rfl

/-- The writing of the device begins. -/
structure Begins (stores : Stores) (paths : Paths) (maximum percent : ℕ) (calls : WriteCalls) :
    Prop where
  settable : Settable maximum percent
  absolute : isAbsolutePath paths.brightness = true
  opens : calls.opens = none
  truncate : calls.truncateError stores.device = none

/-- The line that is written to the device. -/
def requestedLine (maximum percent : ℕ) : Bytes := numberLine (brightnessRawValue percent maximum)

/-- From then on no call fails. -/
structure Finishes (stores : Stores) (paths : Paths) (maximum percent : ℕ) (calls : WriteCalls)
    (save : SaveCalls) : Prop where
  writes : (taken stores.device.kind calls.writes (requestedLine maximum percent)).2 = none
  close : calls.closeFails = false
  save : save.Succeeds stores.files paths.state (decimal percent)

theorem numberLine_ne_nil (value : ℕ) : numberLine value ≠ [] :=
  List.append_ne_nil_of_right_ne_nil _ (by decide)

theorem requestedLine_ne_nil (maximum percent : ℕ) : requestedLine maximum percent ≠ [] :=
  numberLine_ne_nil _

@[simp] theorem started_kind (calls : WriteCalls) (device : Device) :
    (calls.started device).kind = device.kind := by
  rw [WriteCalls.started]
  split
  · obtain ⟨kind, content⟩ := device
    cases kind <;> rfl
  · rfl

/-- **The three ways in which a write to the device ends**: nothing is done; the whole line is
written; or a part of it is, and the write is reported as failed. -/
theorem writeDeviceInteger_cases (device : Device) (path : Bytes) (value : ℕ) (calls : WriteCalls) :
    ¬ (isAbsolutePath path = true ∧ calls.opens = none ∧ calls.truncateError device = none) ∧
        (∃ error, writeDeviceInteger device path value calls = (device, .error error)) ∨
      (isAbsolutePath path = true ∧ calls.opens = none ∧ calls.truncateError device = none) ∧
        (((taken device.kind calls.writes (numberLine value)).2 = none ∧ calls.closeFails = false) ∧
            writeDeviceInteger device path value calls =
              ((calls.started device).put (numberLine value), .ok ()) ∨
          ¬ ((taken device.kind calls.writes (numberLine value)).2 = none ∧
            calls.closeFails = false) ∧
            ∃ error, writeDeviceInteger device path value calls =
              ((calls.started device).put (taken device.kind calls.writes (numberLine value)).1,
                .error error)) := by
  rw [writeDeviceInteger]
  cases hpath : isAbsolutePath path with
  | false => exact Or.inl ⟨fun h => Bool.false_ne_true h.1, _, rfl⟩
  | true =>
      rw [if_neg (by decide)]
      cases hopens : calls.opens with
      | some errno => exact Or.inl ⟨fun h => Option.some_ne_none errno h.2.1, _, rfl⟩
      | none =>
          dsimp only
          cases htruncate : calls.truncateError device with
          | some errno => exact Or.inl ⟨fun h => Option.some_ne_none errno h.2.2, _, rfl⟩
          | none =>
              refine Or.inr ⟨⟨rfl, rfl, rfl⟩, ?_⟩
              dsimp only
              rw [Device.writeAll_eq _ _ (numberLine_ne_nil value), started_kind]
              cases hwrites : (taken device.kind calls.writes (numberLine value)).2 with
              | some errno => exact Or.inr ⟨fun h => Option.some_ne_none errno h.1, _, rfl⟩
              | none =>
                  rw [(taken_eq_iff device.kind calls.writes (numberLine_ne_nil value)).1 hwrites]
                  dsimp only
                  cases hclose : calls.closeFails with
                  | true => exact Or.inr ⟨fun h => Bool.false_ne_true h.2.symm, _, rfl⟩
                  | false => exact Or.inl ⟨⟨rfl, rfl⟩, if_neg Bool.false_ne_true⟩

section Requests

variable {stores : Stores} {paths : Paths} {maximum percent : ℕ} {calls : WriteCalls}
    {save : SaveCalls}

/-- **The three ways in which a request ends**: nothing is done; the device is written and the state
is saved; or something is written to the device, and the state is what it was. -/
theorem setBrightnessPercent_cases (stores : Stores) (paths : Paths) (maximum percent : ℕ)
    (calls : WriteCalls) (save : SaveCalls) :
    ¬ Begins stores paths maximum percent calls ∧
        (∃ error, setBrightnessPercent stores paths maximum percent calls save =
          (stores, .error error)) ∨
      Begins stores paths maximum percent calls ∧
        (Finishes stores paths maximum percent calls save ∧
            setBrightnessPercent stores paths maximum percent calls save =
              (⟨(calls.started stores.device).put (requestedLine maximum percent),
                write stores.files paths.state ⟨true, decimal percent ++ ascii "\n"⟩⟩, .ok ()) ∨
          ¬ Finishes stores paths maximum percent calls save ∧
            ∃ files' error, setBrightnessPercent stores paths maximum percent calls save =
              (⟨(calls.started stores.device).put
                (taken stores.device.kind calls.writes (requestedLine maximum percent)).1, files'⟩,
                .error error) ∧
              files' paths.state = stores.files paths.state) := by
  rw [setBrightnessPercent]
  by_cases hsettable : Settable maximum percent
  · rw [if_neg (not_not.2 hsettable)]
    dsimp only
    rcases writeDeviceInteger_cases stores.device paths.brightness
      (brightnessRawValue percent maximum)
      calls with ⟨hrefused, error, hwritten⟩ | ⟨⟨hpath, hopens, htruncate⟩, hwritten⟩
    · rw [hwritten]
      exact Or.inl ⟨fun h => hrefused ⟨h.absolute, h.opens, h.truncate⟩, _, rfl⟩
    refine Or.inr ⟨⟨hsettable, hpath, hopens, htruncate⟩, ?_⟩
    rcases hwritten with ⟨⟨hwrites, hclose⟩, hwritten⟩ | ⟨hfails, error, hwritten⟩
    · rw [hwritten]
      dsimp only
      rcases saveStateValue_spec stores.files paths.state (decimal percent) save with
        ⟨hsucceeds, hsaved⟩ | ⟨hfails, files', error, hsaved, hkept⟩
      · rw [hsaved]
        exact Or.inl ⟨⟨hwrites, hclose, hsucceeds⟩, rfl⟩
      · rw [hsaved, requestedLine,
          (taken_eq_iff stores.device.kind calls.writes (numberLine_ne_nil _)).1 hwrites]
        exact Or.inr ⟨fun h => hfails h.save, files', _, rfl, hkept⟩
    · rw [hwritten]
      exact Or.inr ⟨fun h => hfails ⟨h.writes, h.close⟩, _, _, rfl, rfl⟩
  · rw [if_pos hsettable]
    exact Or.inl ⟨fun h => hsettable h.settable, _, rfl⟩

end Requests

/-! ### When device and state agree -/

/-- What a request should leave behind: both places as they were if it fails, and both with the
requested percentage if it succeeds. -/
structure Agrees (stores : Stores) (paths : Paths) (maximum percent : ℕ)
    (result : Stores × Except BrightnessError Unit) : Prop where
  failed : result.2 ≠ .ok () → result.1.device = stores.device ∧
    result.1.files paths.state = stores.files paths.state
  done : result.2 = .ok () → result.1.device.content = requestedLine maximum percent ∧
    result.1.files paths.state = some ⟨true, decimal percent ++ ascii "\n"⟩

/-- The device was emptied before the writing. -/
def WriteCalls.Empties (calls : WriteCalls) (device : Device) : Prop :=
  device.kind = .file ∧ calls.Truncates device ∧ calls.truncate = none

instance (calls : WriteCalls) (device : Device) : Decidable (calls.Empties device) :=
  inferInstanceAs (Decidable (_ ∧ _))

/-- The line covers what the device held. -/
def Covers (stores : Stores) (maximum percent : ℕ) (calls : WriteCalls) : Prop :=
  stores.device.kind = .sysfs ∨ calls.Empties stores.device ∨
    stores.device.content.length ≤ (requestedLine maximum percent).length

/-- What was written is what the device held. -/
def Harmless (stores : Stores) (maximum percent : ℕ) (calls : WriteCalls) : Prop :=
  let written := (taken stores.device.kind calls.writes (requestedLine maximum percent)).1
  if stores.device.kind = .sysfs then written = [] ∨ written = stores.device.content
  else if calls.Empties stores.device then written = stores.device.content
  else written <+: stores.device.content

/-- The calls after which device and state agree: the line covers what was there, if all of them
succeed, and only what was there has been written, if a later one fails. -/
structure SafeToSet (stores : Stores) (paths : Paths) (maximum percent : ℕ) (calls : WriteCalls)
    (save : SaveCalls) : Prop where
  finished : Begins stores paths maximum percent calls →
    Finishes stores paths maximum percent calls save → Covers stores maximum percent calls
  interrupted : Begins stores paths maximum percent calls →
    ¬ Finishes stores paths maximum percent calls save → Harmless stores maximum percent calls

theorem started_content (calls : WriteCalls) (device : Device) :
    (calls.started device).content = if calls.Empties device then [] else device.content := by
  obtain ⟨kind, content⟩ := device
  rw [WriteCalls.started]
  cases kind with
  | file =>
      by_cases h : calls.Truncates ⟨.file, content⟩ ∧ calls.truncate = none
      · rw [if_pos h, if_pos ⟨rfl, h⟩]
        rfl
      · rw [if_neg h, if_neg fun hempties => h hempties.2]
  | sysfs =>
      rw [if_neg (fun hempties : WriteCalls.Empties _ _ => by cases hempties.1)]
      split <;> rfl

/-- The device after the writing. -/
theorem started_put (calls : WriteCalls) (device : Device) (bytes : Bytes) :
    (calls.started device).put bytes =
      ⟨device.kind,
        if device.kind = .sysfs then if bytes = [] then device.content else bytes
        else overwrite (if calls.Empties device then [] else device.content) 0 bytes⟩ := by
  have hcontent := started_content calls device
  have hkind := started_kind calls device
  cases hdevice : device.kind with
  | file =>
      rw [hdevice] at hkind
      rw [Device.put, hkind, hcontent, if_neg (show ¬ DeviceKind.file = .sysfs by decide)]
  | sysfs =>
      rw [hdevice] at hkind
      have hempties : ¬ calls.Empties device := by
        intro h
        rw [h.1] at hdevice
        cases hdevice
      rw [Device.put, hkind, hcontent, if_pos rfl, if_neg hempties]

/-- What is written leaves the device alone exactly if it was there. -/
theorem started_put_eq_iff (calls : WriteCalls) (device : Device) (bytes : Bytes) :
    (calls.started device).put bytes = device ↔
      if device.kind = .sysfs then bytes = [] ∨ bytes = device.content
      else if calls.Empties device then bytes = device.content
      else bytes <+: device.content := by
  have heta : ∀ content, Device.mk device.kind content = device ↔ content = device.content := by
    intro content
    obtain ⟨kind, held⟩ := device
    simp
  rw [started_put, heta]
  by_cases hkind : device.kind = .sysfs
  · rw [if_pos hkind, if_pos hkind]
    by_cases hbytes : bytes = []
    · simp [hbytes]
    · simp [hbytes]
  · rw [if_neg hkind, if_neg hkind]
    by_cases hempties : calls.Empties device
    · rw [if_pos hempties, if_pos hempties, overwrite_empty]
    · rw [if_neg hempties, if_neg hempties, overwrite_zero_eq_self_iff]

/-- The device holds the whole line exactly if the line covers what was there. -/
theorem started_put_content_iff (stores : Stores) (maximum percent : ℕ) (calls : WriteCalls) :
    ((calls.started stores.device).put (requestedLine maximum percent)).content =
        requestedLine maximum percent ↔ Covers stores maximum percent calls := by
  rw [started_put, Covers]
  dsimp only
  by_cases hkind : stores.device.kind = .sysfs
  · rw [if_pos hkind, if_neg (requestedLine_ne_nil maximum percent)]
    exact iff_of_true rfl (Or.inl hkind)
  · rw [if_neg hkind]
    by_cases hempties : calls.Empties stores.device
    · rw [if_pos hempties, overwrite_empty]
      exact iff_of_true rfl (Or.inr (Or.inl hempties))
    · rw [if_neg hempties, overwrite_zero_eq_bytes_iff]
      simp [hkind, hempties]

/-- Device and state agree after a request exactly if its calls are safe. -/
theorem agrees_iff_safeToSet (stores : Stores) (paths : Paths) (maximum percent : ℕ)
    (calls : WriteCalls) (save : SaveCalls) :
    Agrees stores paths maximum percent
        (setBrightnessPercent stores paths maximum percent calls save) ↔
      SafeToSet stores paths maximum percent calls save := by
  rcases setBrightnessPercent_cases stores paths maximum percent calls save with
    ⟨hrefused, error, hresult⟩ | ⟨hbegins, ⟨hfinishes, hresult⟩ |
      ⟨hfails, files', error, hresult, hkept⟩⟩
  · rw [hresult]
    refine iff_of_true ⟨fun _ => ⟨rfl, rfl⟩, ?_⟩
      ⟨fun h => absurd h hrefused, fun h => absurd h hrefused⟩
    intro h
    cases h
  · rw [hresult]
    constructor
    · intro hagrees
      refine ⟨?_, fun _ h => absurd hfinishes h⟩
      intro _ _
      exact (started_put_content_iff stores maximum percent calls).1 (hagrees.done rfl).1
    · intro hsafe
      refine ⟨fun h => absurd rfl h, fun _ => ⟨?_, write_same ..⟩⟩
      exact (started_put_content_iff stores maximum percent calls).2
        (hsafe.finished hbegins hfinishes)
  · rw [hresult]
    constructor
    · intro hagrees
      refine ⟨fun _ h => absurd h hfails, ?_⟩
      intro _ _
      exact (started_put_eq_iff calls stores.device _).1 (hagrees.failed (by simp)).1
    · intro hsafe
      refine ⟨fun _ => ⟨?_, hkept⟩, ?_⟩
      · exact (started_put_eq_iff calls stores.device _).2 (hsafe.interrupted hbegins hfails)
      · intro h
        cases h

/-- The percentage that the menu shows is the one on the device and in the state file. -/
structure Describes (paths : Paths) (maximum : ℕ) (panel : Panel) : Prop where
  device : panel.stores.device.content = requestedLine maximum panel.brightness
  state : panel.stores.files paths.state = some ⟨true, decimal panel.brightness ++ ascii "\n"⟩

/-- The calls of a press are safe in the state in which it comes. -/
def SafePress (paths : Paths) (maximum : ℕ) (panel : Panel) (press : Press) : Prop :=
  SafeToSet panel.stores paths maximum (brightnessAfterSettingsTarget press.target panel.brightness)
    press.write press.save

/-- The device stays of its kind. -/
theorem setBrightnessPercent_kind (stores : Stores) (paths : Paths) (maximum percent : ℕ)
    (calls : WriteCalls) (save : SaveCalls) :
    (setBrightnessPercent stores paths maximum percent calls save).1.device.kind =
      stores.device.kind := by
  rcases setBrightnessPercent_cases stores paths maximum percent calls save with
    ⟨-, error, hresult⟩ | ⟨-, ⟨-, hresult⟩ | ⟨-, files', error, hresult, -⟩⟩
  · rw [hresult]
  · rw [hresult, started_put]
  · rw [hresult, started_put]

/-- The percentage of the menu goes on to describe the panel exactly if the calls of the press are
safe. -/
theorem describes_iff_safePress {paths : Paths} {maximum : ℕ} {panel : Panel} (press : Press)
    (h : Describes paths maximum panel) :
    Describes paths maximum (applyBrightnessTarget paths maximum panel press) ↔
      SafePress paths maximum panel press := by
  have hkind := setBrightnessPercent_kind panel.stores paths maximum
    (brightnessAfterSettingsTarget press.target panel.brightness) press.write press.save
  rw [SafePress, ← agrees_iff_safeToSet, applyBrightnessTarget]
  generalize setBrightnessPercent panel.stores paths maximum
    (brightnessAfterSettingsTarget press.target panel.brightness) press.write press.save =
      result at hkind ⊢
  obtain ⟨after, outcome⟩ := result
  cases outcome with
  | ok done =>
      constructor
      · intro hdescribes
        exact ⟨fun hfailed => absurd rfl hfailed, fun _ => ⟨hdescribes.device, hdescribes.state⟩⟩
      · intro hagrees
        exact ⟨(hagrees.done rfl).1, (hagrees.done rfl).2⟩
  | error error =>
      constructor
      · intro hdescribes
        refine ⟨fun _ => ⟨?_, hdescribes.state.trans h.state.symm⟩, ?_⟩
        · have hcontent := hdescribes.device.trans h.device.symm
          obtain ⟨⟨kind, content⟩, files⟩ := after
          dsimp only at hkind hcontent ⊢
          rw [hkind, hcontent]
        · intro hdone
          cases hdone
      · intro hagrees
        obtain ⟨hdevice, hfiles⟩ := hagrees.failed (by simp)
        refine ⟨?_, hfiles.trans h.state⟩
        dsimp only at hdevice ⊢
        rw [hdevice]
        exact h.device

/-- **Device and state agree after a request exactly if its calls are safe**, and only then does the
percentage of the menu go on to describe the panel. -/
theorem setBrightnessPercent_agrees_iff (paths : Paths) (maximum : ℕ) :
    (∀ stores percent calls save,
      Agrees stores paths maximum percent
          (setBrightnessPercent stores paths maximum percent calls save) ↔
        SafeToSet stores paths maximum percent calls save) ∧
    ∀ panel press, Describes paths maximum panel →
      (Describes paths maximum (applyBrightnessTarget paths maximum panel press) ↔
        SafePress paths maximum panel press) :=
  ⟨fun stores percent calls save => agrees_iff_safeToSet stores paths maximum percent calls save,
    fun _ press h => describes_iff_safePress press h⟩

/-- **The menu describes the panel throughout a run exactly if the calls of every press are
safe.** -/
theorem always_describes_iff {paths : Paths} {maximum : ℕ} {panel : Panel}
    (h : Describes paths maximum panel) (presses : List Press) :
    Run.Always (applyBrightnessTarget paths maximum) (Describes paths maximum) panel presses ↔
      Run.Each (applyBrightnessTarget paths maximum) (SafePress paths maximum) panel presses :=
  Run.always_iff_each (J := fun _ => True) (fun _ _ _ => trivial)
    (fun _ press _ hdescribes => describes_iff_safePress press hdescribes) trivial h presses

/-! ### Loading what was saved -/

/-- No call of `write_device_integer` fails. -/
structure WriteCalls.Clean (calls : WriteCalls) : Prop where
  opens : calls.opens = none
  truncate : calls.truncate = none
  writes : ∀ errno, WriteOutcome.failed errno ∉ calls.writes
  close : calls.closeFails = false

theorem taken_of_notMem (kind : DeviceKind) {script : List WriteOutcome}
    (h : ∀ errno, WriteOutcome.failed errno ∉ script) (bytes : Bytes) :
    (taken kind script bytes).2 = none := by
  cases kind with
  | file => exact accepted_of_notMem h bytes
  | sysfs =>
      rw [taken]
      induction script with
      | nil => rfl
      | cons outcome script ih =>
          cases outcome with
          | interrupted => exact ih fun errno hmem => h errno (List.mem_cons_of_mem _ hmem)
          | failed errno => exact absurd List.mem_cons_self (h errno)
          | transferred limit => rfl

/-- A request that meets no failure succeeds. -/
theorem setBrightnessPercent_of_clean {stores : Stores} {paths : Paths} {maximum percent : ℕ}
    {calls : WriteCalls} {save : SaveCalls} (hsettable : Settable maximum percent)
    (hpath : isAbsolutePath paths.brightness = true) (hclean : calls.Clean)
    (hsave : save.Succeeds stores.files paths.state (decimal percent)) :
    (setBrightnessPercent stores paths maximum percent calls save).2 = .ok () := by
  have htruncate : calls.truncateError stores.device = none := by
    rw [WriteCalls.truncateError, hclean.truncate]
    exact ite_self none
  have hwrites := taken_of_notMem stores.device.kind hclean.writes (requestedLine maximum percent)
  rcases setBrightnessPercent_cases stores paths maximum percent calls save with
    ⟨hrefused, -⟩ | ⟨-, ⟨-, hresult⟩ | ⟨hfails, -⟩⟩
  · exact absurd ⟨hsettable, hpath, hclean.opens, htruncate⟩ hrefused
  · rw [hresult]
  · exact absurd ⟨hwrites, hclean.close, hsave⟩ hfails

/-- The backlight that a start finds: its maximum is read, and so is a value up to the maximum. -/
structure StartCalls.Reads (calls : StartCalls) (device : Device) (maximumContent : Bytes)
    (paths : Paths) (maximum : ℕ) : Prop where
  reads : readDeviceInteger maximumContent paths.maximum calls.maximum = .ok maximum
  ne_zero : maximum ≠ 0
  current : ∃ current ≤ maximum,
    readDeviceInteger device.content paths.brightness calls.brightness = .ok current

/-- The loader gives back a percentage, whatever the backlight is: what it returns is the
percentage, and it returns it where no call fails. -/
structure ReloadsBrightness (files : Files) (paths : Paths) (percent : ℕ) : Prop where
  exact : ∀ device maximumContent calls, ∀ loaded,
    (loadBrightness ⟨device, files⟩ maximumContent paths calls).2 = .ok loaded → loaded.2 = percent
  returns : ∀ device maximumContent (calls : StartCalls) maximum,
    calls.Reads device maximumContent paths maximum → isAbsolutePath paths.brightness = true →
      calls.state.Clean → calls.write.Clean →
        calls.save.Succeeds files paths.state (decimal percent) →
          (loadBrightness ⟨device, files⟩ maximumContent paths calls).2 = .ok (maximum, percent)

theorem eq_of_map_eq_ok {ε α : Type} {result : Except ε Unit} {a b : α}
    (h : result.map (fun _ => a) = .ok b) : b = a := by
  cases result with
  | error error => cases h
  | ok done =>
      cases h
      rfl

/-- A line in the state file that holds a percentage is loaded as the brightness. -/
theorem loadBrightness_of_line {files : Files} {paths : Paths} {percent : ℕ}
    (hpath : isAbsolutePath paths.state = true)
    (hfile : files paths.state = some ⟨true, decimal percent ++ ascii "\n"⟩)
    (hlow : kMinimumBrightness ≤ percent) (hhigh : percent ≤ 100)
    (hstep : percent % kBrightnessStep = 0) : ReloadsBrightness files paths percent := by
  obtain ⟨hline, -, -, hlength⟩ := linePercent_decimal hhigh
  have hform : ¬ (percent < kMinimumBrightness ∨ percent % kBrightnessStep ≠ 0) := by
    rintro (h | h)
    · exact absurd h (Nat.not_lt.2 hlow)
    · exact h hstep
  constructor
  · intro device maximumContent calls loaded hok
    rw [loadBrightness] at hok
    dsimp only at hok
    split at hok
    · cases hok
    · next maximum hmaximum =>
        split at hok
        · cases hok
        · split at hok
          · cases hok
          · split at hok
            · cases hok
            · rcases (@loadStateValue_of_saved _ _ _ calls.state hfile hpath hlength).1 with
                hload | ⟨error, hload⟩
              · rw [hload] at hok
                dsimp only at hok
                rw [hline] at hok
                dsimp only at hok
                rw [if_neg hform] at hok
                rw [eq_of_map_eq_ok hok]
              · rw [hload] at hok
                cases hok
  · intro device maximumContent calls maximum hreads hdevice hstate hwrite hsave
    obtain ⟨current, hcurrent, hread⟩ := hreads.current
    have hload := (loadStateValue_of_saved hfile hpath hlength).2 hstate
    have hset := @setBrightnessPercent_of_clean ⟨device, files⟩ _ _ _ _ _
      ⟨hreads.ne_zero, hlow, hhigh, hstep⟩ hdevice hwrite hsave
    rw [loadBrightness, hreads.reads]
    dsimp only
    rw [if_neg hreads.ne_zero, hread]
    dsimp only
    rw [if_neg (Nat.not_lt.2 hcurrent), hload]
    dsimp only
    rw [hline]
    dsimp only
    rw [if_neg hform, hset]
    rfl

/-- After a request whose line covers what was there, the device is in the range of the
backlight. -/
theorem reads_of_agrees {stores : Stores} {paths : Paths} {maximum percent : ℕ}
    {result : Stores × Except BrightnessError Unit}
    (hagrees : Agrees stores paths maximum percent result)
    (hok : result.2 = .ok ()) (hmaximum : maximum ≠ 0) (hbound : maximum ≤ uintMax)
    (hpaths : isAbsolutePath paths.maximum = true ∧ isAbsolutePath paths.brightness = true)
    {calls : StartCalls} (hopens : calls.maximum.opens = none ∧ calls.brightness.opens = none)
    (hreads : ReadOutcome.failed ∉ calls.maximum.reads ∧
      ReadOutcome.failed ∉ calls.brightness.reads) :
    calls.Reads result.1.device (numberLine maximum) paths maximum := by
  have hraw : brightnessRawValue percent maximum ≤ maximum := by
    rw [brightnessRawValue, if_neg hmaximum]
    omega
  refine ⟨readDeviceInteger_numberLine hpaths.1 hopens.1 hreads.1 hbound, hmaximum, _, hraw, ?_⟩
  rw [(hagrees.done hok).1]
  exact readDeviceInteger_numberLine hpaths.2 hopens.2 hreads.2 (Nat.le_trans hraw hbound)

/-- **The brightness that was saved is loaded.** -/
theorem loadBrightness_of_saved {stores : Stores} {paths : Paths} {maximum percent : ℕ}
    {calls : WriteCalls} {save : SaveCalls}
    (h : (setBrightnessPercent stores paths maximum percent calls save).2 = .ok ()) :
    ReloadsBrightness (setBrightnessPercent stores paths maximum percent calls save).1.files paths
      percent := by
  rcases setBrightnessPercent_cases stores paths maximum percent calls save with
    ⟨-, error, hresult⟩ | ⟨hbegins, ⟨hfinishes, hresult⟩ | ⟨-, files', error, hresult, -⟩⟩
  · rw [hresult] at h
    cases h
  · rw [hresult]
    obtain ⟨-, hlow, hhigh, hstep⟩ := hbegins.settable
    exact loadBrightness_of_line hfinishes.save.absolute (write_same ..) hlow hhigh hstep
  · rw [hresult] at h
    cases h

/-! ### All settings -/

/-- **A setting is saved completely or not at all, and a saved one is loaded again.** Whichever
calls fail, the file holds the new line after a success and what it held before after a failure; and
the loaders of the three settings return what was saved. -/
theorem settings_saved :
    (∀ (files : Files) (path value : Bytes) (calls : SaveCalls),
      ((saveStateValue files path value calls).2 = .ok () →
          (saveStateValue files path value calls).1 path = some ⟨true, value ++ ascii "\n"⟩) ∧
        ((saveStateValue files path value calls).2 ≠ .ok () →
          (saveStateValue files path value calls).1 path = files path)) ∧
    (∀ files path volume calls, (saveVolumeState files path volume calls).2 = .ok () →
      ∀ defaultVolume ≤ 100,
        Reloads (loadVolumeState (saveVolumeState files path volume calls).1 path defaultVolume)
          (saveVolumeState files path volume calls).1 volume) ∧
    (∀ files path keymap calls, (saveKeymapState files path keymap calls).2 = .ok () →
      Reloads (loadKeymapState (saveKeymapState files path keymap calls).1 path)
        (saveKeymapState files path keymap calls).1 keymap) ∧
    ∀ stores paths maximum percent calls save,
      (setBrightnessPercent stores paths maximum percent calls save).2 = .ok () →
        ReloadsBrightness (setBrightnessPercent stores paths maximum percent calls save).1.files
          paths
          percent := by
  refine ⟨saveStateValue_kept, ?_, ?_, ?_⟩
  · intro files path volume calls h defaultVolume hdefault
    exact loadVolumeState_of_saved h hdefault
  · intro files path keymap calls h
    exact loadKeymapState_of_saved h
  · intro stores paths maximum percent calls save h
    exact loadBrightness_of_saved h

/-! ### A run -/

/-- Calls that do not fail. -/
def plainSave : SaveCalls := ⟨1, fun _ => none, [], none, none, none, none⟩

def plainLoad : LoadCalls := ⟨none, by decide, none, [], ⟨0⟩⟩

def plainWrite : WriteCalls := ⟨none, false, none, [], false, ⟨0⟩⟩

def plainRead : ReadCalls := ⟨none, [], ⟨0⟩⟩

def plainStart : StartCalls := ⟨plainRead, plainRead, plainLoad, plainWrite, plainSave⟩

def samplePaths : Paths := ⟨ascii "/b", ascii "/m", ascii "/s"⟩

/-- A backlight with 20 levels at 60 percent. -/
def sampleStores : Stores :=
  ⟨⟨.sysfs, ascii "12\n"⟩, fun path => if path = ascii "/s"
    then some ⟨true, ascii "60\n"⟩ else none⟩

/-- The volume, the key map and the brightness of a deck are saved and loaded. -/
theorem settings_saved_sample :
    (loadVolumeState (saveVolumeState sampleStores.files (ascii "/v") 42 plainSave).1 (ascii "/v") 0
        plainLoad plainSave).2 = .ok 42 ∧
      (loadKeymapState (saveKeymapState sampleStores.files (ascii "/k") (ascii "cz") plainSave).1
        (ascii "/k") plainLoad plainSave).2 = .ok (ascii "cz") ∧
      (loadBrightness (setBrightnessPercent sampleStores samplePaths 20 70 plainWrite plainSave).1
        (numberLine 20) samplePaths plainStart).2 = .ok (20, 70) := by
  obtain ⟨-, hvolume, hkeymap, hbrightness⟩ := settings_saved
  have hload : plainLoad.Clean := ⟨rfl, rfl, List.not_mem_nil⟩
  have hwrite : plainWrite.Clean := ⟨rfl, rfl, fun _ => List.not_mem_nil, rfl⟩
  have hset : (setBrightnessPercent sampleStores samplePaths 20 70 plainWrite plainSave).2 =
      .ok () := by
    rfl
  refine ⟨?_, ?_, ?_⟩
  · have hreloads := hvolume sampleStores.files (ascii "/v") 42 plainSave (by rfl) 0 (Nat.zero_le _)
    rw [hreloads.returns plainLoad plainSave hload]
  · have hreloads := hkeymap sampleStores.files (ascii "/k") (ascii "cz") plainSave (by rfl)
    rw [hreloads.returns plainLoad plainSave hload]
  · refine (hbrightness sampleStores samplePaths 20 70 plainWrite plainSave hset).returns
      _ (numberLine 20) plainStart 20 ?_ (by decide) hload hwrite ?_
    · refine ⟨by rfl, by decide, 14, by decide, by rfl⟩
    · exact ⟨by decide, ⟨_, by rfl⟩, by rfl, rfl, rfl, rfl⟩

/-- A press on a deck whose menu describes the panel. -/
theorem setBrightnessPercent_agrees_sample :
    Describes samplePaths 20 ⟨sampleStores, 60, [], []⟩ ∧
      (Describes samplePaths 20 (applyBrightnessTarget samplePaths 20 ⟨sampleStores, 60, [], []⟩
          ⟨MenuLoop.settingsTargetBrightnessUp, plainWrite, plainSave⟩) ↔
        SafePress samplePaths 20 ⟨sampleStores, 60, [], []⟩
          ⟨MenuLoop.settingsTargetBrightnessUp, plainWrite, plainSave⟩) := by
  have hdescribes : Describes samplePaths 20 ⟨sampleStores, 60, [], []⟩ := ⟨by rfl, by rfl⟩
  exact ⟨hdescribes, (setBrightnessPercent_agrees_iff samplePaths 20).2 _ _ hdescribes⟩

/-- The temporary file cannot be created, as on a full disk. -/
def fullDisk : SaveCalls := { plainSave with creates := fun _ => some ⟨28⟩ }

/-- **A request that changes the panel and fails**: the device shows 70 percent, and the state and
the menu keep 60. -/
theorem setBrightnessPercent_not_agrees :
    ¬ Agrees sampleStores samplePaths 20 70
      (setBrightnessPercent sampleStores samplePaths 20 70 plainWrite fullDisk) := by
  intro hagrees
  have hdevice : (setBrightnessPercent sampleStores samplePaths 20 70 plainWrite
    fullDisk).1.device =
      ⟨.sysfs, ascii "14\n"⟩ := by rfl
  have hfailed : (setBrightnessPercent sampleStores samplePaths 20 70 plainWrite fullDisk).2 =
      .error (.state (.cannotCreate ⟨28⟩)) := by rfl
  have hkept := (hagrees.failed (by simp [hfailed])).1
  rw [hdevice] at hkept
  exact absurd hkept (by decide)

end NesDeck.Brightness
