/-
**The input devices of the menu.**

`MenuGamepads` and `MenuKeyboards` look through `/dev/input` once a second, and open the first two
controllers and the first four keyboards. A scan opens every device of the kind anew and closes what
it does not keep, which is everything as long as nothing was plugged or unplugged. A keyboard is
grabbed, so that its keys reach no other program; before the menu starts a program it closes all of
them.

The two classes share their code but for a few places, which are the fields of a `Kind`. The
descriptors are numbered by the kernel, which is free to use a number again. The descriptor of the
directory itself is left out, and so are the lines on the console.

Main definitions:

* `NesDeck.MenuDevices.Kind`, with `menuGamepads` and `menuKeyboards` — the two classes;
* `NesDeck.MenuDevices.Kind.scan`, `scanIfDue`, `readReady`, `closeForChild` — their functions;
* `NesDeck.MenuDevices.Session` — the two pools in the loop of the menu, with all calls on
  descriptors;
* `NesDeck.MenuDevices.Present` — the devices that a directory has;
* `NesDeck.MenuDevices.Waits` — what a pool waits for after a call of `scanIfDue`.

Main results:

* `NesDeck.MenuDevices.moves_scan` and its siblings — what a function does with the descriptors;
* `NesDeck.MenuDevices.descriptors_spec` — **no descriptor is lost, closed twice or used after it
  was closed, and a program that is started finds no keyboard grabbed**;
* `NesDeck.MenuDevices.devices_spec` — **the menu waits for the devices that are there**.
-/

import Mathlib.Data.List.Induction
import Mathlib.Data.List.Sort
import NesDeck.Lib.Descriptors
import NesDeck.Lib.HostFile
import NesDeck.Lib.Run
import NesDeck.MenuKeyboards

set_option relaxedAutoImplicit false
set_option autoImplicit false

namespace NesDeck.MenuDevices

open Descriptors (Use Table Moves after Along Sound)
open HostFile (Bytes ascii)
open MenuGamepads (KernelState GamepadRead Commands MenuGamepadDevice Poll)
open MenuKeyboards (MenuKeyboardDevice)

/-! ### Devices -/

/-- A file of the directory: its descriptor, if it can be opened, and its answers to the
questions. -/
structure InputFile (Answers : Type) where
  name : Bytes
  fd : Option ℕ
  answers : Answers

/-- What a scan finds: the files, whether a descriptor can be grabbed, and the state of its
device. -/
structure Listing (Answers : Type) where
  files : List (InputFile Answers)
  grab : ℕ → Bool
  kernel : ℕ → Option KernelState

/-- A device, with what the two classes have each for itself. -/
structure Device (Extra : Type) where
  fd : Option ℕ
  path : Bytes
  grabbed : Bool
  extra : Extra

/-- What distinguishes the two classes. -/
structure Kind (Answers Extra : Type) where
  maximum : ℕ
  grabs : Bool
  probe : InputFile Answers → Option Extra
  before : Device Extra → Device Extra → Bool
  same : Device Extra → Device Extra → Bool
  resynchronize : Extra → Option KernelState → Extra
  drain : Extra → Commands → List GamepadRead → Extra × Commands × Bool
  forget : Extra → Extra

def isEventFile (name : Bytes) : Bool :=
  5 < name.length ∧ name.take 5 = ascii "event" ∧
    (name.drop 5).all fun character => 0x30 ≤ character ∧ character ≤ 0x39

def devicePath (name : Bytes) : Bytes := ascii "/dev/input/" ++ name

/-! ### Controllers -/

def kTheGamepadVendor : ℕ := 0x1c59
def kTheGamepadProduct : ℕ := 0x0026
def kMaximumMenuGamepads : ℕ := 2

structure PadAnswers where
  identity : Option (ℕ × ℕ)
  x : Option MenuGamepads.AbsInfo
  y : Option MenuGamepads.AbsInfo
  physicalPath : Option Bytes

/-- A controller, with the name of its port. -/
structure Pad where
  physicalPath : Bytes
  gamepad : MenuGamepadDevice

def probePad (file : InputFile PadAnswers) : Option Pad :=
  match file.answers.identity, file.answers.x, file.answers.y with
  | some (vendor, product), some x, some y =>
      if vendor = kTheGamepadVendor ∧ product = kTheGamepadProduct then
        let physicalPath := file.answers.physicalPath.getD []
        some ⟨if physicalPath = [] then devicePath file.name else physicalPath,
          ⟨x, y, 0, 0, 0, 0, false⟩⟩
      else none
  | _, _, _ => none

/-- `MenuGamepads`. -/
def menuGamepads : Kind PadAnswers Pad where
  maximum := kMaximumMenuGamepads
  grabs := false
  probe := probePad
  before left right :=
    if left.extra.physicalPath ≠ right.extra.physicalPath then
      decide (left.extra.physicalPath < right.extra.physicalPath)
    else decide (left.path < right.path)
  same left right := left.path = right.path ∧ left.extra.physicalPath = right.extra.physicalPath
  resynchronize pad kernel :=
    { pad with gamepad := (MenuGamepads.resynchronize pad.gamepad kernel).getD pad.gamepad }
  drain pad pressed reads :=
    let drain := MenuGamepads.drainDevice pad.gamepad pressed reads
    ({ pad with gamepad := drain.gamepad }, drain.pressed, drain.alive)
  forget pad := { pad with gamepad := { pad.gamepad with state := 0, rawButtons := 0 } }

/-! ### Keyboards -/

def kMaximumMenuKeyboards : ℕ := 4

structure KeyboardAnswers where
  keys : Option (ℕ → Bool)
  name : Option Bytes

/-- A keyboard, with its name. -/
structure Keyboard where
  name : Bytes
  keyboard : MenuKeyboardDevice

def probeKeyboard (file : InputFile KeyboardAnswers) : Option Keyboard :=
  match file.answers.keys with
  | none => none
  | some keys =>
      if MenuKeyboards.menuKeyboardCapabilities keys = true then
        let name := file.answers.name.getD []
        some ⟨if name = [] then file.name else name, ⟨false, false, false⟩⟩
      else none

/-- `MenuKeyboards`. -/
def menuKeyboards : Kind KeyboardAnswers Keyboard where
  maximum := kMaximumMenuKeyboards
  grabs := true
  probe := probeKeyboard
  before left right := decide (left.path < right.path)
  same left right := left.path = right.path
  resynchronize keyboard kernel :=
    { keyboard with keyboard := (MenuKeyboards.resynchronize kernel).getD keyboard.keyboard }
  drain keyboard pressed reads :=
    let drain := MenuKeyboards.drainDevice keyboard.keyboard pressed reads
    ({ keyboard with keyboard := drain.keyboard }, drain.pressed, drain.alive)
  forget keyboard := { keyboard with keyboard := ⟨false, false, false⟩ }

/-! ### A pool -/

/-- The calls that close a device. -/
def Device.closing {Extra : Type} (device : Device Extra) : List (Use ℕ) :=
  match device.fd with
  | none => []
  | some fd => (if device.grabbed = true then [.released fd] else []) ++ [.closed fd]

/-- The devices of a class, and the time of the last scan. -/
structure Pool (Extra : Type) where
  devices : List (Device Extra)
  lastScan : ℤ

namespace Kind

variable {Answers Extra : Type} (kind : Kind Answers Extra)

/-- A file that is a device of the kind. -/
def candidate (file : InputFile Answers) : Option (Device Extra) :=
  if isEventFile file.name = true then
    file.fd.bind fun fd => (kind.probe file).map fun extra =>
      ⟨some fd, devicePath file.name, false, extra⟩
  else none

/-- The calls on a file. -/
def calls (file : InputFile Answers) : List (Use ℕ) :=
  if isEventFile file.name = true then
    match file.fd with
    | none => []
    | some fd =>
        [.opened fd, .asked fd] ++ if (kind.probe file).isSome = true then [] else [.closed fd]
  else []

/-- The candidates, after `std::sort`. -/
def candidates (files : List (InputFile Answers)) : List (Device Extra) :=
  (files.filterMap kind.candidate).insertionSort fun left right => kind.before right left = false

/-- A candidate that becomes a device. -/
def adopt (listing : Listing Answers) (device : Device Extra) : Device Extra :=
  match device.fd with
  | none => device
  | some fd =>
      { device with
        grabbed := kind.grabs && listing.grab fd
        extra := kind.resynchronize device.extra (listing.kernel fd) }

def adopting (listing : Listing Answers) (device : Device Extra) : List (Use ℕ) :=
  match device.fd with
  | none => []
  | some fd => (if (kind.grabs && listing.grab fd) = true then [.grabbed fd] else []) ++ [.asked fd]

/-- The devices are the candidates, and none has failed. -/
def unchanged (candidates devices : List (Device Extra)) : Bool :=
  candidates.length = devices.length ∧
    (candidates.zip devices).all fun (candidate, device) =>
      kind.same candidate device && device.fd.isSome

/-- `scan`: the devices, the calls, and whether the directory could be read. -/
def scan (devices : List (Device Extra)) (listing : Option (Listing Answers)) :
    List (Device Extra) × List (Use ℕ) × Bool :=
  match listing with
  | none => (devices, [], false)
  | some listing =>
      let candidates := (kind.candidates listing.files).take kind.maximum
      let surplus := (kind.candidates listing.files).drop kind.maximum
      let uses := listing.files.flatMap kind.calls ++ surplus.reverse.flatMap Device.closing
      if kind.unchanged candidates devices = true then
        (devices, uses ++ candidates.flatMap Device.closing, true)
      else
        (candidates.map (kind.adopt listing),
          uses ++ devices.flatMap Device.closing ++
            candidates.flatMap (kind.adopting listing), true)

/-- A scan is due. -/
def Due (pool : Pool Extra) (force : Bool) (now : ℤ) : Prop :=
  ¬ (force = false ∧ 0 < pool.lastScan ∧ now - pool.lastScan < 1000)

instance (pool : Pool Extra) (force : Bool) (now : ℤ) : Decidable (Due pool force now) :=
  inferInstanceAs (Decidable (¬ _))

/-- `scan_if_due`. -/
def scanIfDue (pool : Pool Extra) (force : Bool) (now : ℤ) (listing : Option (Listing Answers)) :
    Pool Extra × List (Use ℕ) × Bool :=
  if Due pool force now then
    let scanned := kind.scan pool.devices listing
    (⟨scanned.1, now⟩, scanned.2.1, scanned.2.2)
  else (pool, [], true)

/-- A device that is closed, as `close_device` leaves it. -/
def closed (device : Device Extra) : Device Extra :=
  { device with fd := none, grabbed := false, extra := kind.forget device.extra }

/-- A device and what `poll` says of it; `poll` passes over a descriptor that is not there. -/
def readDevice (device : Device Extra) (pressed : Commands) (poll : Poll) :
    Device Extra × Commands × List (Use ℕ) :=
  match device.fd with
  | none => (device, pressed, [])
  | some fd =>
      if poll.readable = false ∧ poll.broken = false then (device, pressed, [])
      else if poll.readable = true then
        let (extra, pressed, alive) := kind.drain device.extra pressed poll.reads
        let device := { device with extra := extra }
        if alive = true then (device, pressed, [.asked fd])
        else (kind.closed device, pressed, .asked fd :: device.closing)
      else (kind.closed device, pressed, device.closing)

/-- The loop of `read_ready`. -/
def readDevices (pressed : Commands) :
    List (Device Extra) → List Poll → List (Device Extra) × Commands × List (Use ℕ)
  | device :: devices, poll :: polls =>
      let (device, pressed, uses) := kind.readDevice device pressed poll
      let (devices, pressed, others) := readDevices pressed devices polls
      (device :: devices, pressed, uses ++ others)
  | devices, _ => (devices, pressed, [])

/-- `read_ready`; a device that has failed makes the next scan due. -/
def readReady (pool : Pool Extra) (polls : List Poll) : Pool Extra × Commands × List (Use ℕ) :=
  let (devices, pressed, uses) := kind.readDevices 0 pool.devices polls
  (⟨devices, if (pool.devices.zip devices).any fun (before, after) =>
    before.fd.isSome && !after.fd.isSome
    then 0 else pool.lastScan⟩, pressed, uses)

end Kind

/-- `close_for_child`. -/
def Pool.closeForChild {Extra : Type} (pool : Pool Extra) : Pool Extra × List (Use ℕ) :=
  (⟨[], 0⟩, pool.devices.flatMap Device.closing)

/-! ### The loop -/

/-- The two scans of an iteration. -/
structure Look where
  padsNow : ℤ
  pads : Option (Listing PadAnswers)
  keyboardsNow : ℤ
  keyboards : Option (Listing KeyboardAnswers)

inductive Polled where
  | failed
  | interrupted
  | quiet
  | ready (pads keyboards : List Poll)

/-- A program that is started: the menu is told to stop while it runs, or scans again afterwards,
and then can show itself or not. -/
inductive Child where
  | shutdown
  | returned (look : Look) (shown : Bool)

/-- An iteration of the loop, with the program that it starts. -/
structure Pass where
  shutdown : Bool
  look : Look
  polled : Polled
  child : Option Child

/-- The menu, the calls so far, and the calls before each program that was started. -/
structure Session where
  pads : Pool Pad
  keyboards : Pool Keyboard
  log : List (Use ℕ)
  started : List (List (Use ℕ))
  ended : Bool

namespace Session

def initial : Session := ⟨⟨[], 0⟩, ⟨[], 0⟩, [], [], false⟩

def scan (session : Session) (force : Bool) (look : Look) : Session :=
  let pads := menuGamepads.scanIfDue session.pads force look.padsNow look.pads
  let keyboards := menuKeyboards.scanIfDue session.keyboards force look.keyboardsNow look.keyboards
  { session with
    pads := pads.1
    keyboards := keyboards.1
    log := session.log ++ pads.2.1 ++ keyboards.2.1 }

def read (session : Session) (pads keyboards : List Poll) : Session :=
  let pads := menuGamepads.readReady session.pads pads
  let keyboards := menuKeyboards.readReady session.keyboards keyboards
  { session with
    pads := pads.1
    keyboards := keyboards.1
    log := session.log ++ pads.2.2 ++ keyboards.2.2 }

def closeForChild (session : Session) : Session :=
  let pads := session.pads.closeForChild
  let keyboards := session.keyboards.closeForChild
  { session with
    pads := pads.1
    keyboards := keyboards.1
    log := session.log ++ pads.2 ++ keyboards.2 }

/-- The end of `application_main`; the destructors close what is open, the keyboards first. -/
def finish (session : Session) : Session :=
  { session with
    pads := ⟨[], session.pads.lastScan⟩
    keyboards := ⟨[], session.keyboards.lastScan⟩
    log := session.log ++ session.keyboards.devices.flatMap Device.closing ++
      session.pads.devices.flatMap Device.closing
    ended := true }

/-- The program runs while all devices are closed. -/
def launch (session : Session) (child : Child) : Session :=
  let session := session.closeForChild
  let session := { session with started := session.started ++ [session.log] }
  match child with
  | .shutdown => session.finish
  | .returned look shown =>
      let session := session.scan true look
      if shown = true then session else session.finish

/-- What comes before the loop. -/
def start (look : Look) (shown : Bool) : Session :=
  let session := initial.scan true look
  if shown = true then session else session.finish

def step (session : Session) (pass : Pass) : Session :=
  if session.ended = true then session
  else if pass.shutdown = true then session.finish
  else
    let session := session.scan false pass.look
    match pass.polled with
    | .failed => session.finish
    | .interrupted | .quiet => session
    | .ready pads keyboards =>
        let session := session.read pads keyboards
        match pass.child with
        | none => session
        | some child => session.launch child

end Session

/-! ### What is done with the descriptors -/

/-- The descriptor of a device. -/
def Device.own {Extra : Type} (device : Device Extra) : Table ℕ :=
  match device.fd with
  | none => 0
  | some fd => {(fd, device.grabbed)}

/-- The descriptors of a pool. -/
def owned {Extra : Type} (devices : List (Device Extra)) : Table ℕ := (devices.map Device.own).sum

theorem moves_closing {Extra : Type} (device : Device Extra) :
    Moves device.closing device.own 0 := by
  rw [Device.closing, Device.own]
  cases device.fd with
  | none => exact Moves.nil 0
  | some fd =>
      dsimp only
      cases device.grabbed with
      | false => exact Descriptors.moves_closed fd false
      | true =>
          rw [if_pos rfl]
          exact (Descriptors.moves_released fd).append (Descriptors.moves_closed fd false)

/-- A loop that closes devices. -/
theorem moves_closings {Extra : Type} (devices : List (Device Extra)) :
    Moves (devices.flatMap Device.closing) (owned devices) 0 := by
  have hzero : (devices.map fun _ => (0 : Table ℕ)).sum = 0 := by simp
  have hall := Moves.flatMap fun device (_ : device ∈ devices) => moves_closing device
  rwa [hzero] at hall

theorem owned_append {Extra : Type} (first second : List (Device Extra)) :
    owned (first ++ second) = owned first + owned second := by
  rw [owned, List.map_append, List.sum_append]
  rfl

theorem owned_perm {Extra : Type} {first second : List (Device Extra)} (h : first.Perm second) :
    owned first = owned second := (h.map Device.own).sum_eq

section Pools

variable {Answers Extra : Type} (kind : Kind Answers Extra)

theorem candidate_cases {file : InputFile Answers} {device : Device Extra}
    (h : kind.candidate file = some device) :
    ∃ fd extra, isEventFile file.name = true ∧ file.fd = some fd ∧ kind.probe file = some extra ∧
      device = ⟨some fd, devicePath file.name, false, extra⟩ := by
  rw [Kind.candidate] at h
  split at h
  · next hname =>
      obtain ⟨fd, hfd, hdevice⟩ := Option.bind_eq_some_iff.1 h
      obtain ⟨extra, hextra, rfl⟩ := Option.map_eq_some_iff.1 hdevice
      exact ⟨fd, extra, hname, hfd, hextra, rfl⟩
  · cases h

/-- What a file adds. -/
theorem moves_calls (file : InputFile Answers) :
    Moves (kind.calls file) 0 (((kind.candidate file).map Device.own).getD 0) := by
  rw [Kind.calls, Kind.candidate]
  split
  · cases file.fd with
    | none => exact Moves.nil 0
    | some fd =>
        have hasked : Moves [.opened fd, .asked fd] 0 {(fd, false)} :=
          (Descriptors.moves_opened fd).append (Descriptors.moves_asked fd false)
        cases kind.probe file with
        | none => exact hasked.append (Descriptors.moves_closed fd false)
        | some extra => exact hasked
  · exact Moves.nil 0

theorem sum_filterMap (files : List (InputFile Answers)) :
    (files.map fun file => ((kind.candidate file).map Device.own).getD 0).sum =
      owned (files.filterMap kind.candidate) := by
  induction files with
  | nil => rfl
  | cons file files ih =>
      rw [List.map_cons, List.sum_cons, ih]
      cases hcandidate : kind.candidate file with
      | none => rw [List.filterMap_cons_none hcandidate]; exact zero_add _
      | some device =>
          rw [List.filterMap_cons_some hcandidate]
          exact (List.sum_cons).symm

/-- The loop over the directory opens the candidates. -/
theorem moves_files (files : List (InputFile Answers)) :
    Moves (files.flatMap kind.calls) 0 (owned (kind.candidates files)) := by
  have hzero : (files.map fun _ => (0 : Table ℕ)).sum = 0 := by simp
  have hall := Moves.flatMap fun file (_ : file ∈ files) => moves_calls kind file
  rw [hzero, sum_filterMap] at hall
  rwa [Kind.candidates, owned_perm (List.perm_insertionSort _ _)]

/-- A candidate is open, and not grabbed. -/
theorem fresh_candidates {files : List (InputFile Answers)} {device : Device Extra}
    (h : device ∈ kind.candidates files) : device.fd.isSome = true ∧ device.grabbed = false := by
  obtain ⟨file, -, hcandidate⟩ := List.mem_filterMap.1 ((List.mem_insertionSort _).1 h)
  obtain ⟨fd, extra, -, -, -, rfl⟩ := candidate_cases kind hcandidate
  exact ⟨rfl, rfl⟩

theorem moves_adopting (listing : Listing Answers) {device : Device Extra}
    (h : device.grabbed = false) :
    Moves (kind.adopting listing device) device.own (kind.adopt listing device).own := by
  rw [Kind.adopting, Kind.adopt, Device.own]
  cases hfd : device.fd with
  | none =>
      rw [Device.own, hfd]
      exact Moves.nil 0
  | some fd =>
      rw [Device.own, h]
      dsimp only
      cases hgrab : kind.grabs && listing.grab fd with
      | false => exact Descriptors.moves_asked fd false
      | true => exact (Descriptors.moves_grabbed fd).append (Descriptors.moves_asked fd true)

/-- **A scan** closes all that it opens, but for the devices that it leaves. -/
theorem moves_scan (devices : List (Device Extra)) (listing : Option (Listing Answers)) :
    Moves (kind.scan devices listing).2.1 (owned devices)
      (owned (kind.scan devices listing).1) := by
  cases listing with
  | none => exact Moves.nil _
  | some listing =>
      have hsplit : owned (kind.candidates listing.files) =
          owned ((kind.candidates listing.files).take kind.maximum) +
            owned ((kind.candidates listing.files).drop kind.maximum) := by
        rw [← owned_append, List.take_append_drop]
      have hfresh : ∀ device ∈ (kind.candidates listing.files).take kind.maximum,
          device.grabbed = false :=
        fun device hdevice => (fresh_candidates kind (List.mem_of_mem_take hdevice)).2
      have hopened := moves_files kind listing.files
      rw [hsplit] at hopened
      have hsurplus := (moves_closings ((kind.candidates listing.files).drop kind.maximum).reverse)
      rw [owned_perm (List.reverse_perm _)] at hsurplus
      -- The candidates that are kept, beside the devices that were there before.
      have hkept : Moves (listing.files.flatMap kind.calls ++
          ((kind.candidates listing.files).drop kind.maximum).reverse.flatMap Device.closing)
            (owned devices)
            (owned devices + owned ((kind.candidates listing.files).take kind.maximum)) := by
        have hboth := hopened.append (hsurplus.frame_left _)
        rw [add_zero] at hboth
        have hframed := hboth.frame_left (owned devices)
        rwa [add_zero] at hframed
      rw [Kind.scan]
      split
      · have hclosed := (moves_closings
          ((kind.candidates listing.files).take kind.maximum)).frame_left (owned devices)
        rw [add_zero] at hclosed
        exact hkept.append hclosed
      · have hclosed := (moves_closings devices).frame
          (owned ((kind.candidates listing.files).take kind.maximum))
        rw [zero_add] at hclosed
        refine (hkept.append hclosed).append ?_
        rw [owned, owned, List.map_map]
        exact Moves.flatMap fun device hdevice =>
          moves_adopting kind listing (hfresh device hdevice)

theorem moves_scanIfDue (pool : Pool Extra) (force : Bool) (now : ℤ)
    (listing : Option (Listing Answers)) :
    Moves (kind.scanIfDue pool force now listing).2.1 (owned pool.devices)
      (owned (kind.scanIfDue pool force now listing).1.devices) := by
  rw [Kind.scanIfDue]
  split
  · exact moves_scan kind pool.devices listing
  · exact Moves.nil _

theorem moves_readDevice (device : Device Extra) (pressed : Commands) (poll : Poll) :
    Moves (kind.readDevice device pressed poll).2.2 device.own
      (kind.readDevice device pressed poll).1.own := by
  rw [Kind.readDevice]
  split
  · exact Moves.nil _
  next fd hfd =>
  split
  · exact Moves.nil _
  split
  · generalize kind.drain device.extra pressed poll.reads = drained
    obtain ⟨extra, pressed', alive⟩ := drained
    have hown : ({ device with extra := extra } : Device Extra).own = device.own := rfl
    have hclosing : ({ device with extra := extra } : Device Extra).closing = device.closing := rfl
    have hasked : Moves [.asked fd] device.own device.own := by
      rw [Device.own, hfd]
      exact Descriptors.moves_asked fd _
    cases alive with
    | true => exact hasked
    | false => exact hasked.append (moves_closing device)
  · exact moves_closing device

theorem moves_readDevices (pressed : Commands) (devices : List (Device Extra)) (polls : List Poll) :
    Moves (kind.readDevices pressed devices polls).2.2 (owned devices)
      (owned (kind.readDevices pressed devices polls).1) := by
  induction devices generalizing pressed polls with
  | nil =>
      cases polls with
      | nil => exact Moves.nil _
      | cons poll polls => exact Moves.nil _
  | cons device devices ih =>
      cases polls with
      | nil => exact Moves.nil _
      | cons poll polls =>
          have hfirst := moves_readDevice kind device pressed poll
          have hrest := ih (kind.readDevice device pressed poll).2.1 polls
          exact (hfirst.frame (owned devices)).append (hrest.frame_left _)

theorem moves_readReady (pool : Pool Extra) (polls : List Poll) :
    Moves (kind.readReady pool polls).2.2 (owned pool.devices)
      (owned (kind.readReady pool polls).1.devices) :=
  moves_readDevices kind 0 pool.devices polls

theorem moves_closeForChild (pool : Pool Extra) :
    Moves pool.closeForChild.2 (owned pool.devices) (owned pool.closeForChild.1.devices) :=
  moves_closings pool.devices

end Pools

/-! ### How many devices there are -/

section Lengths

variable {Answers Extra : Type} (kind : Kind Answers Extra)

theorem length_scan {devices : List (Device Extra)} (h : devices.length ≤ kind.maximum)
    (listing : Option (Listing Answers)) : (kind.scan devices listing).1.length ≤ kind.maximum := by
  cases listing with
  | none => exact h
  | some listing =>
      rw [Kind.scan]
      split
      · exact h
      · rw [List.length_map]
        exact List.length_take_le _ _

theorem length_scanIfDue {pool : Pool Extra} (h : pool.devices.length ≤ kind.maximum) (force : Bool)
    (now : ℤ) (listing : Option (Listing Answers)) :
    (kind.scanIfDue pool force now listing).1.devices.length ≤ kind.maximum := by
  rw [Kind.scanIfDue]
  split
  · exact length_scan kind h listing
  · exact h

theorem length_readDevices (pressed : Commands) (devices : List (Device Extra))
    (polls : List Poll) :
    (kind.readDevices pressed devices polls).1.length = devices.length := by
  induction devices generalizing pressed polls with
  | nil =>
      cases polls with
      | nil => rfl
      | cons poll polls => rfl
  | cons device devices ih =>
      cases polls with
      | nil => rfl
      | cons poll polls =>
          exact congrArg Nat.succ (ih (kind.readDevice device pressed poll).2.1 polls)

end Lengths

/-! ### The descriptors of a session -/

/-- What has been done with the descriptors; a program that is started, and the end, find none
open. -/
structure Accounted (session : Session) : Prop where
  moves : Moves session.log 0 (owned session.pads.devices + owned session.keyboards.devices)
  started : ∀ log ∈ session.started, log <+: session.log ∧ Moves log 0 0
  ended : session.ended = true → session.pads.devices = [] ∧ session.keyboards.devices = []
  pads : session.pads.devices.length ≤ kMaximumMenuGamepads
  keyboards : session.keyboards.devices.length ≤ kMaximumMenuKeyboards

namespace Accounted

variable {session : Session}

/-- The two pools, one after the other. -/
theorem both (h : Accounted session) (hlive : session.ended = false) {pads : Pool Pad}
    {keyboards : Pool Keyboard} {uses others : List (Use ℕ)}
    (hpads : Moves uses (owned session.pads.devices) (owned pads.devices))
    (hkeyboards : Moves others (owned session.keyboards.devices) (owned keyboards.devices))
    (hfewPads : pads.devices.length ≤ kMaximumMenuGamepads)
    (hfewKeyboards : keyboards.devices.length ≤ kMaximumMenuKeyboards) :
    Accounted { session with
      pads := pads
      keyboards := keyboards
      log := session.log ++ uses ++ others } where
  moves := (h.moves.append (hpads.frame _)).append (hkeyboards.frame_left _)
  started := by
    intro log hlog
    obtain ⟨hstart, hmoves⟩ := h.started log hlog
    refine ⟨hstart.trans ?_, hmoves⟩
    rw [List.append_assoc]
    exact List.prefix_append _ _
  ended := fun hended => by
    dsimp only at hended
    rw [hlive] at hended
    cases hended
  pads := hfewPads
  keyboards := hfewKeyboards

theorem initial : Accounted Session.initial where
  moves := Moves.nil 0
  started := List.forall_mem_nil _
  ended := fun hended => by cases hended
  pads := Nat.zero_le _
  keyboards := Nat.zero_le _

theorem scan (h : Accounted session) (hlive : session.ended = false) (force : Bool) (look : Look) :
    Accounted (session.scan force look) :=
  h.both hlive (moves_scanIfDue menuGamepads session.pads force _ _)
    (moves_scanIfDue menuKeyboards session.keyboards force _ _)
    (length_scanIfDue menuGamepads h.pads force _ _)
    (length_scanIfDue menuKeyboards h.keyboards force _ _)

theorem read (h : Accounted session) (hlive : session.ended = false) (pads keyboards : List Poll) :
    Accounted (session.read pads keyboards) :=
  h.both hlive (moves_readReady menuGamepads session.pads pads)
    (moves_readReady menuKeyboards session.keyboards keyboards)
    ((length_readDevices menuGamepads 0 session.pads.devices pads).trans_le h.pads)
    ((length_readDevices menuKeyboards 0 session.keyboards.devices keyboards).trans_le h.keyboards)

theorem closeForChild (h : Accounted session) (hlive : session.ended = false) :
    Accounted session.closeForChild :=
  h.both hlive (moves_closeForChild session.pads) (moves_closeForChild session.keyboards)
    (Nat.zero_le _) (Nat.zero_le _)

theorem finish (h : Accounted session) : Accounted session.finish where
  moves := by
    have hkeyboards := (moves_closings session.keyboards.devices).frame_left
      (owned session.pads.devices)
    rw [add_zero] at hkeyboards
    exact (h.moves.append hkeyboards).append (moves_closings session.pads.devices)
  started := by
    intro log hlog
    obtain ⟨hstart, hmoves⟩ := h.started log hlog
    refine ⟨hstart.trans ?_, hmoves⟩
    rw [Session.finish, List.append_assoc]
    exact List.prefix_append _ _
  ended := fun _ => ⟨rfl, rfl⟩
  pads := Nat.zero_le _
  keyboards := Nat.zero_le _

/-- **A program that is started** finds no descriptor of the pools open. -/
theorem launch (h : Accounted session) (hlive : session.ended = false) (child : Child) :
    Accounted (session.launch child) := by
  have hclosed := h.closeForChild hlive
  have hstarted : Accounted { session.closeForChild with
      started := session.closeForChild.started ++ [session.closeForChild.log] } := by
    refine ⟨hclosed.moves, ?_, hclosed.ended, hclosed.pads, hclosed.keyboards⟩
    rw [List.forall_mem_append, List.forall_mem_singleton]
    exact ⟨hclosed.started, List.prefix_refl _, hclosed.moves⟩
  cases child with
  | shutdown => exact hstarted.finish
  | returned look shown =>
      have hscanned := hstarted.scan hlive true look
      cases shown with
      | true => exact hscanned
      | false => exact hscanned.finish

theorem start (look : Look) (shown : Bool) : Accounted (Session.start look shown) := by
  have hscanned := initial.scan rfl true look
  cases shown with
  | true => exact hscanned
  | false => exact hscanned.finish

theorem step (h : Accounted session) (pass : Pass) : Accounted (session.step pass) := by
  rw [Session.step]
  split
  · exact h
  next hlive =>
  have hlive : session.ended = false := Bool.eq_false_iff.2 hlive
  split
  · exact h.finish
  have hscanned := h.scan hlive false pass.look
  dsimp only
  split
  · exact hscanned.finish
  · exact hscanned
  · exact hscanned
  next pads keyboards _ =>
    have hread := hscanned.read hlive pads keyboards
    split
    · exact hread
    · exact hread.launch hlive _

end Accounted

theorem accounted_run (look : Look) (shown : Bool) (passes : List Pass) :
    Accounted (passes.foldl Session.step (Session.start look shown)) :=
  Run.invariant (I := Accounted) (fun _ pass h => h.step pass) (Accounted.start look shown) passes

/-- **No descriptor is lost**: whatever the calls answer, the menu uses only descriptors that it has
opened and not closed, the ones that are open are those of its devices, and when it starts a program
or ends none is open or grabbed. -/
theorem descriptors_spec (look : Look) (shown : Bool) (passes : List Pass)
    (hfresh : Along Use.Fresh 0 (passes.foldl Session.step (Session.start look shown)).log) :
    let session := passes.foldl Session.step (Session.start look shown)
    Along Use.Legal 0 session.log ∧
      after 0 session.log = owned session.pads.devices + owned session.keyboards.devices ∧
        Sound (after 0 session.log) ∧ session.pads.devices.length ≤ kMaximumMenuGamepads ∧
          session.keyboards.devices.length ≤ kMaximumMenuKeyboards ∧
            (∀ log ∈ session.started, log <+: session.log ∧ after 0 log = 0) ∧
              (session.ended = true → after 0 session.log = 0) := by
  intro session
  have h : Accounted session := accounted_run look shown passes
  obtain ⟨hlegal, hafter, hsound⟩ := h.moves.run hfresh
  refine ⟨hlegal, hafter, hafter ▸ hsound, h.pads, h.keyboards, ?_, ?_⟩
  · intro log hlog
    obtain ⟨⟨later, hlater⟩, hmoves⟩ := h.started log hlog
    refine ⟨⟨later, hlater⟩, (hmoves.run ?_).2.1⟩
    have hsplit : Along Use.Fresh 0 (log ++ later) := hlater ▸ hfresh
    exact (Descriptors.along_append.1 hsplit).1
  · intro hended
    obtain ⟨hpads, hkeyboards⟩ := h.ended hended
    rw [hafter, hpads, hkeyboards]
    rfl

/-- A directory without devices. -/
def emptyListing {Answers : Type} : Listing Answers := ⟨[], fun _ => false, fun _ => none⟩

/-- A directory with one keyboard, whose descriptor can be grabbed. -/
def oneKeyboard (fd : ℕ) : Listing KeyboardAnswers :=
  ⟨[⟨ascii "event3", some fd, ⟨some fun _ => true, none⟩⟩], fun _ => true, fun _ => none⟩

/-- A look with one keyboard. -/
def sampleLook (now : ℤ) (fd : ℕ) : Look := ⟨now, some emptyListing, now, some (oneKeyboard fd)⟩

/-- A program is started, and the keyboard gets the same descriptor again. -/
def samplePass : Pass :=
  ⟨false, sampleLook 2000 8, .ready [] [⟨false, false, []⟩],
    some (.returned (sampleLook 9000 7) true)⟩

/-- The keyboard is there, and looked at again, closed for the program, and opened once more. -/
theorem descriptors_spec_again :
    let session := [samplePass].foldl Session.step (Session.start (sampleLook 1000 7) true)
    Along Use.Legal 0 session.log ∧
      after 0 session.log = owned session.pads.devices + owned session.keyboards.devices ∧
        Sound (after 0 session.log) ∧ session.pads.devices.length ≤ kMaximumMenuGamepads ∧
          session.keyboards.devices.length ≤ kMaximumMenuKeyboards ∧
            (∀ log ∈ session.started, log <+: session.log ∧ after 0 log = 0) ∧
              (session.ended = true → after 0 session.log = 0) := by
  refine descriptors_spec (sampleLook 1000 7) true [samplePass] ?_
  have hlog : ([samplePass].foldl Session.step (Session.start (sampleLook 1000 7) true)).log =
      [.opened 7, .asked 7, .grabbed 7, .asked 7, .opened 8, .asked 8, .closed 8,
        .released 7, .closed 7,
        .opened 7, .asked 7, .grabbed 7, .asked 7] := rfl
  rw [hlog]
  simp [Along, Use.Fresh, Use.after]

/-! ### The devices that are there -/

/-- The order of the candidates, and when a candidate is a device. -/
structure Kind.Ordered {Answers Extra : Type} (kind : Kind Answers Extra) : Prop where
  total : ∀ left right, kind.before left right = false ∨ kind.before right left = false
  trans : ∀ left middle right, kind.before middle left = false → kind.before right middle = false →
    kind.before right left = false
  congr : ∀ left right other, kind.same left right = true →
    kind.before other right = kind.before other left
  adopt : ∀ listing device, kind.same device (kind.adopt listing device) = true

/-- The order by port and path. -/
theorem ordered_menuKeyboards : menuKeyboards.Ordered where
  total left right := by
    simp only [menuKeyboards, decide_eq_false_iff_not, List.not_lt]
    exact List.le_total right.path left.path
  trans left middle right h h' := by
    simp only [menuKeyboards, decide_eq_false_iff_not, List.not_lt] at h h' ⊢
    exact List.le_trans h h'
  congr left right other h := by
    simp only [menuKeyboards, decide_eq_true_eq] at h ⊢
    rw [h]
  adopt listing device := by
    rw [Kind.adopt]
    split
    · exact decide_eq_true rfl
    · exact decide_eq_true rfl

theorem menuGamepads_before_eq_false (left right : Device Pad) :
    menuGamepads.before right left = false ↔
      left.extra.physicalPath < right.extra.physicalPath ∨
        left.extra.physicalPath = right.extra.physicalPath ∧ left.path ≤ right.path := by
  simp only [menuGamepads]
  split
  next hne =>
    rw [decide_eq_false_iff_not, List.not_lt, List.le_iff_lt_or_eq]
    exact or_congr_right ⟨fun heq => absurd heq.symm hne, fun heq => absurd heq.1.symm hne⟩
  next heq =>
    rw [not_not] at heq
    rw [decide_eq_false_iff_not, List.not_lt, heq]
    exact ⟨fun hle => Or.inr ⟨rfl, hle⟩, fun h => (h.resolve_left (List.lt_irrefl _)).2⟩

theorem ordered_menuGamepads : menuGamepads.Ordered where
  total left right := by
    rw [menuGamepads_before_eq_false, menuGamepads_before_eq_false]
    rcases List.le_total right.extra.physicalPath left.extra.physicalPath with h | h
    · rcases List.le_iff_lt_or_eq.1 h with hlt | heq
      · exact Or.inl (Or.inl hlt)
      · exact (List.le_total right.path left.path).imp (fun hle => Or.inr ⟨heq, hle⟩)
          fun hle => Or.inr ⟨heq.symm, hle⟩
    · rcases List.le_iff_lt_or_eq.1 h with hlt | heq
      · exact Or.inr (Or.inl hlt)
      · exact (List.le_total right.path left.path).imp (fun hle => Or.inr ⟨heq.symm, hle⟩)
          fun hle => Or.inr ⟨heq, hle⟩
  trans left middle right h h' := by
    rw [menuGamepads_before_eq_false] at h h' ⊢
    rcases h with hlt | ⟨heq, hle⟩
    · rcases h' with hlt' | ⟨heq', -⟩
      · exact Or.inl (List.lt_trans hlt hlt')
      · exact Or.inl (heq' ▸ hlt)
    · rcases h' with hlt' | ⟨heq', hle'⟩
      · exact Or.inl (heq.symm ▸ hlt')
      · exact Or.inr ⟨heq.trans heq', List.le_trans hle hle'⟩
  congr left right other h := by
    simp only [menuGamepads, decide_eq_true_eq] at h ⊢
    rw [h.1, h.2]
  adopt listing device := by
    rw [Kind.adopt]
    split
    · exact decide_eq_true ⟨rfl, rfl⟩
    · exact decide_eq_true ⟨rfl, rfl⟩

/-- The devices that a directory has: all that fit, and those that come first where there are
more. -/
structure Present {Answers Extra : Type} (kind : Kind Answers Extra)
    (files : List (InputFile Answers)) (devices : List (Device Extra)) : Prop where
  opened : ∀ device ∈ devices, device.fd.isSome = true
  there : ∀ device ∈ devices, ∃ file ∈ files, ∃ candidate, kind.candidate file = some candidate ∧
    kind.same candidate device = true
  first : ∀ file ∈ files, ∀ candidate, kind.candidate file = some candidate →
    (∃ device ∈ devices, kind.same candidate device = true) ∨
      devices.length = kind.maximum ∧ ∀ device ∈ devices, kind.before candidate device = false

section Presence

variable {Answers Extra : Type} {kind : Kind Answers Extra}

theorem mem_candidates {files : List (InputFile Answers)} {candidate : Device Extra} :
    candidate ∈ kind.candidates files ↔ ∃ file ∈ files, kind.candidate file = some candidate := by
  rw [Kind.candidates, List.mem_insertionSort, List.mem_filterMap]

theorem pairwise_candidates (hkind : kind.Ordered) (files : List (InputFile Answers)) :
    (kind.candidates files).Pairwise fun left right => kind.before right left = false := by
  have htotal : Std.Total fun left right : Device Extra => kind.before right left = false :=
    ⟨fun left right => hkind.total right left⟩
  have htrans : IsTrans (Device Extra) fun left right => kind.before right left = false :=
    ⟨hkind.trans⟩
  exact List.pairwise_insertionSort (fun left right => kind.before right left = false) _

/-- Every device of a list that agrees with another one has its partner there. -/
theorem exists_left {R : Device Extra → Device Extra → Prop}
    {candidates devices : List (Device Extra)} (h : List.Forall₂ R candidates devices) :
    ∀ device ∈ devices, ∃ candidate ∈ candidates, R candidate device := by
  induction h with
  | nil => exact List.forall_mem_nil _
  | cons hfirst _ ih =>
      rw [List.forall_mem_cons]
      refine ⟨⟨_, List.mem_cons_self, hfirst⟩, ?_⟩
      intro device hdevice
      obtain ⟨candidate, hcandidate, hagrees⟩ := ih device hdevice
      exact ⟨candidate, List.mem_cons_of_mem _ hcandidate, hagrees⟩

/-- Devices that agree with the first candidates, one by one. -/
def Match (kind : Kind Answers Extra) (candidates devices : List (Device Extra)) : Prop :=
  List.Forall₂ (fun candidate device => kind.same candidate device = true ∧ device.fd.isSome = true)
    candidates devices

theorem present_of_match (hkind : kind.Ordered) {files : List (InputFile Answers)}
    {devices : List (Device Extra)}
    (h : Match kind ((kind.candidates files).take kind.maximum) devices) :
    Present kind files devices where
  opened := by
    intro device hdevice
    obtain ⟨candidate, -, hsame⟩ := exists_left h device hdevice
    exact hsame.2
  there := by
    intro device hdevice
    obtain ⟨candidate, hcandidate, hsame⟩ := exists_left h device hdevice
    obtain ⟨file, hfile, hfound⟩ := mem_candidates.1 (List.mem_of_mem_take hcandidate)
    exact ⟨file, hfile, candidate, hfound, hsame.1⟩
  first := by
    intro file hfile candidate hfound
    have hmem : candidate ∈ kind.candidates files := mem_candidates.2 ⟨file, hfile, hfound⟩
    have hsorted := pairwise_candidates hkind files
    rw [← List.take_append_drop kind.maximum (kind.candidates files)] at hmem hsorted
    rcases List.mem_append.1 hmem with htaken | hdropped
    · obtain ⟨device, hdevice, hsame⟩ := exists_left (List.Forall₂.flip h) candidate htaken
      exact Or.inl ⟨device, hdevice, hsame.1⟩
    · refine Or.inr ⟨?_, ?_⟩
      · -- A candidate is left over, so that all places are taken.
        have hlong := List.length_pos_of_mem hdropped
        rw [List.length_drop] at hlong
        rw [← List.Forall₂.length_eq h, List.length_take]
        omega
      · intro device hdevice
        obtain ⟨chosen, hchosen, hsame⟩ := exists_left h device hdevice
        rw [hkind.congr chosen device candidate hsame.1]
        exact (List.pairwise_append.1 hsorted).2.2 chosen hchosen candidate hdropped

theorem match_of_unchanged {candidates devices : List (Device Extra)}
    (h : kind.unchanged candidates devices = true) : Match kind candidates devices := by
  rw [Kind.unchanged, decide_eq_true_eq] at h
  refine List.forall₂_iff_zip.2 ⟨h.1, ?_⟩
  intro candidate device hzip
  exact Bool.and_eq_true_iff.1 (List.all_eq_true.1 h.2 _ hzip)

theorem match_adopt (hkind : kind.Ordered) (listing : Listing Answers)
    {candidates : List (Device Extra)}
    (hopened : ∀ candidate ∈ candidates, candidate.fd.isSome = true) :
    Match kind candidates (candidates.map (kind.adopt listing)) := by
  refine List.forall₂_map_right_iff.2 (List.forall₂_same.2 ?_)
  intro candidate hcandidate
  refine ⟨hkind.adopt listing candidate, ?_⟩
  have hsome := hopened candidate hcandidate
  rw [Kind.adopt]
  split
  · exact hsome
  · exact hsome

/-- **A scan leaves the devices that are there.** -/
theorem present_scan (hkind : kind.Ordered) (devices : List (Device Extra))
    (listing : Listing Answers) :
    Present kind listing.files (kind.scan devices (some listing)).1 := by
  refine present_of_match hkind ?_
  rw [Kind.scan]
  split
  next hsame => exact match_of_unchanged hsame
  · refine match_adopt hkind listing ?_
    intro candidate hcandidate
    exact (fresh_candidates kind (List.mem_of_mem_take hcandidate)).1

/-- The next scan is due, or no device has failed. -/
def Ready (pool : Pool Extra) : Prop :=
  pool.lastScan ≤ 0 ∨ ∀ device ∈ pool.devices, device.fd.isSome = true

/-- What a pool waits for: devices that have not failed, namely those of the directory if a look was
due, and the ones it had if not. -/
structure Waits (kind : Kind Answers Extra) (before : Pool Extra) (force : Bool) (now : ℤ)
    (listing : Option (Listing Answers)) (waiting : Pool Extra) : Prop where
  opened : ∀ device ∈ waiting.devices, device.fd.isSome = true
  looked : Kind.Due before force now →
    ∀ found, listing = some found → Present kind found.files waiting.devices
  kept : ¬Kind.Due before force now → waiting.devices = before.devices

theorem waits_scanIfDue (hkind : kind.Ordered) {pool : Pool Extra} (h : Ready pool) (force : Bool)
    (now : ℤ) {listing : Option (Listing Answers)} (hlisting : listing.isSome = true) :
    Waits kind pool force now listing (kind.scanIfDue pool force now listing).1 := by
  obtain ⟨found, rfl⟩ := Option.isSome_iff_exists.1 hlisting
  rw [Kind.scanIfDue]
  split
  next hdue =>
    have hpresent := present_scan hkind pool.devices found
    refine ⟨hpresent.opened, ?_, fun hnot => absurd hdue hnot⟩
    rintro - other heq
    obtain rfl := Option.some.inj heq
    exact hpresent
  next hnot =>
    refine ⟨?_, fun hdue => absurd hdue hnot, fun _ => rfl⟩
    rw [Kind.Due, not_not] at hnot
    exact h.resolve_left (not_le.2 hnot.2.1)

theorem ready_readReady {pool : Pool Extra} (h : Ready pool) (polls : List Poll) :
    Ready (kind.readReady pool polls).1 := by
  have heq : (kind.readReady pool polls).1 =
      ⟨(kind.readDevices 0 pool.devices polls).1,
        if (pool.devices.zip (kind.readDevices 0 pool.devices polls).1).any fun (before, after) =>
          before.fd.isSome && !after.fd.isSome then 0 else pool.lastScan⟩ := rfl
  rw [heq, Ready]
  dsimp only
  split
  · exact Or.inl (Int.le_refl 0)
  next hnone =>
    refine h.imp id ?_
    intro hopened
    -- No device was open before and is closed now.
    have hkept : List.Forall₂ (fun before after : Device Extra =>
        before.fd.isSome = true → after.fd.isSome = true)
          pool.devices (kind.readDevices 0 pool.devices polls).1 := by
      refine List.forall₂_iff_zip.2 ⟨(length_readDevices kind 0 pool.devices polls).symm, ?_⟩
      intro before after hzip hbefore
      by_contra hafter
      refine hnone (List.any_eq_true.2 ⟨(before, after), hzip, ?_⟩)
      rw [hbefore, Bool.true_and, Bool.eq_false_iff.2 hafter]
      rfl
    intro device hdevice
    obtain ⟨before, hbefore, himp⟩ := exists_left hkept device hdevice
    exact himp (hopened before hbefore)

end Presence

/-- Both directories can be read. -/
def Look.Readable (look : Look) : Prop := look.pads.isSome = true ∧ look.keyboards.isSome = true

def Pass.Readable (pass : Pass) : Prop :=
  pass.look.Readable ∧ ∀ look shown, pass.child = some (.returned look shown) → look.Readable

/-- The session is over, or both pools are ready. -/
def Session.Ready (session : Session) : Prop :=
  session.ended = false → MenuDevices.Ready session.pads ∧ MenuDevices.Ready session.keyboards

namespace Session

variable {session : Session}

/-- **After its scans the menu has the devices that are there.** -/
theorem waits_scan (hpads : MenuDevices.Ready session.pads)
    (hkeyboards : MenuDevices.Ready session.keyboards) (force : Bool) {look : Look}
    (h : look.Readable) :
    Waits menuGamepads session.pads force look.padsNow look.pads (session.scan force look).pads ∧
      Waits menuKeyboards session.keyboards force look.keyboardsNow look.keyboards
        (session.scan force look).keyboards :=
  ⟨waits_scanIfDue ordered_menuGamepads hpads force look.padsNow h.1,
    waits_scanIfDue ordered_menuKeyboards hkeyboards force look.keyboardsNow h.2⟩

theorem ready_scan (hpads : MenuDevices.Ready session.pads)
    (hkeyboards : MenuDevices.Ready session.keyboards) (force : Bool) {look : Look}
    (h : look.Readable) : (session.scan force look).Ready := by
  obtain ⟨hfirst, hsecond⟩ := waits_scan hpads hkeyboards force h
  exact fun _ => ⟨Or.inr hfirst.opened, Or.inr hsecond.opened⟩

/-- The menu has the devices that a look has found. -/
def Has (session : Session) (look : Look) : Prop :=
  (∀ found, look.pads = some found → Present menuGamepads found.files session.pads.devices) ∧
    ∀ found, look.keyboards = some found →
      Present menuKeyboards found.files session.keyboards.devices

/-- A look that is forced is due. -/
theorem due_force {Extra : Type} (pool : Pool Extra) (now : ℤ) : Kind.Due pool true now :=
  fun h => Bool.noConfusion h.1

/-- **After a program the menu has the devices that are there.** -/
theorem has_launch {look : Look} (h : look.Readable) :
    (session.launch (.returned look true)).Has look := by
  have hready : ∀ {Extra : Type} (pool : Pool Extra), MenuDevices.Ready pool.closeForChild.1 :=
    fun _ => Or.inl (Int.le_refl 0)
  obtain ⟨hpads, hkeyboards⟩ := @waits_scan
    { session.closeForChild with
      started := session.closeForChild.started ++ [session.closeForChild.log] }
    (hready session.pads) (hready session.keyboards) true look h
  exact ⟨hpads.looked (due_force _ _), hkeyboards.looked (due_force _ _)⟩

theorem ready_finish : session.finish.Ready := fun hended => by cases hended

theorem ready_launch {child : Child}
    (h : ∀ look shown, child = .returned look shown → look.Readable) :
    (session.launch child).Ready := by
  cases child with
  | shutdown => exact ready_finish
  | returned look shown =>
      cases shown with
      | false => exact ready_finish
      | true =>
          exact ready_scan (Or.inl (Int.le_refl 0)) (Or.inl (Int.le_refl 0)) true (h look true rfl)

theorem ready_start {look : Look} (h : look.Readable) (shown : Bool) :
    (start look shown).Ready := by
  cases shown with
  | false => exact ready_finish
  | true => exact ready_scan (Or.inl (Int.le_refl 0)) (Or.inl (Int.le_refl 0)) true h

theorem ready_step (h : session.Ready) {pass : Pass} (hpass : pass.Readable) :
    (session.step pass).Ready := by
  rw [step]
  split
  · exact h
  next hlive =>
  obtain ⟨hpads, hkeyboards⟩ := h (Bool.eq_false_iff.2 hlive)
  split
  · exact ready_finish
  have hscanned := ready_scan hpads hkeyboards false hpass.1
  dsimp only
  split
  · exact ready_finish
  · exact hscanned
  · exact hscanned
  next pads keyboards _ =>
    obtain ⟨hfirst, hsecond⟩ := waits_scan hpads hkeyboards false hpass.1
    split
    · exact fun _ => ⟨ready_readReady (Or.inr hfirst.opened) pads,
        ready_readReady (Or.inr hsecond.opened) keyboards⟩
    next child hchild =>
        exact ready_launch fun look shown hlook => hpass.2 look shown (hlook ▸ hchild)

theorem ready_run {look : Look} (hlook : look.Readable) (shown : Bool) {passes : List Pass}
    (hpasses : ∀ pass ∈ passes, pass.Readable) : (passes.foldl step (start look shown)).Ready := by
  induction passes using List.reverseRecOn with
  | nil => exact ready_start hlook shown
  | append_singleton passes pass ih =>
      rw [List.forall_mem_append, List.forall_mem_singleton] at hpasses
      rw [List.foldl_append]
      exact ready_step (ih hpasses.1) hpasses.2

end Session

/-- A program is started in this iteration and returns, with a look for devices at its end. -/
def Pass.Returns (pass : Pass) (look : Look) : Prop :=
  pass.shutdown = false ∧ (∃ pads keyboards, pass.polled = .ready pads keyboards) ∧
    pass.child = some (.returned look true)

theorem Session.has_step {session : Session} (hlive : session.ended = false) {pass : Pass}
    (hpass : pass.Readable) {look : Look} (h : pass.Returns look) :
    (session.step pass).Has look := by
  obtain ⟨hshutdown, ⟨pads, keyboards, hpolled⟩, hchild⟩ := h
  rw [step, if_neg (Bool.eq_false_iff.1 hlive), if_neg (Bool.eq_false_iff.1 hshutdown)]
  simp only [hpolled, hchild]
  exact has_launch (hpass.2 look true hchild)

/-- **The menu waits for the devices that are there**: in every iteration none of its devices has
failed; they are the controllers and keyboards that the directory has, or the first two and four of
them, if its last look is a second ago or one of its devices has failed, and otherwise those it had
before; and what it has after a program is what the directory has when the program returns. -/
theorem devices_spec {look : Look} (hlook : look.Readable) (shown : Bool) {passes : List Pass}
    (hpasses : ∀ pass ∈ passes, pass.Readable) {pass : Pass} (hpass : pass.Readable)
    (hlive : (passes.foldl Session.step (Session.start look shown)).ended = false) :
    let session := passes.foldl Session.step (Session.start look shown)
    let waiting := session.scan false pass.look
    Waits menuGamepads session.pads false pass.look.padsNow pass.look.pads waiting.pads ∧
      Waits menuKeyboards session.keyboards false pass.look.keyboardsNow pass.look.keyboards
          waiting.keyboards ∧
        ∀ back, pass.Returns back → (session.step pass).Has back := by
  intro session waiting
  obtain ⟨hpads, hkeyboards⟩ := Session.ready_run hlook shown hpasses hlive
  obtain ⟨hfirst, hsecond⟩ := Session.waits_scan hpads hkeyboards false hpass.1
  exact ⟨hfirst, hsecond, fun back hback => Session.has_step hlive hpass hback⟩

/-- The keyboard is looked for when the program has ended, and a second later. -/
theorem devices_spec_again :
    let session := [samplePass].foldl Session.step (Session.start (sampleLook 1000 7) true)
    let waiting := session.scan false (sampleLook 10000 8)
    Waits menuGamepads session.pads false 10000 (some emptyListing) waiting.pads ∧
      Waits menuKeyboards session.keyboards false 10000 (some (oneKeyboard 8)) waiting.keyboards ∧
        ∀ back, Pass.Returns { samplePass with look := sampleLook 10000 8 } back →
          (session.step { samplePass with look := sampleLook 10000 8 }).Has back := by
  have hreadable : ∀ now fd, (sampleLook now fd).Readable := fun _ _ => ⟨rfl, rfl⟩
  have hpass : ∀ now fd, Pass.Readable { samplePass with look := sampleLook now fd } :=
    fun now fd =>
      ⟨hreadable now fd, fun look shown hchild => by cases hchild; exact hreadable 9000 7⟩
  refine devices_spec (hreadable 1000 7) true ?_ (hpass 10000 8) rfl
  intro pass hsample
  rw [List.mem_singleton.1 hsample]
  exact hpass 2000 8

end NesDeck.MenuDevices
