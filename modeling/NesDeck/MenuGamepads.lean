/-
**The game controllers of the menu.**

A pad reports its buttons and axes as a stream of events; an event `SYN_REPORT` ends a frame. The
menu remembers the buttons and axes, works out at the end of each frame which commands are on, and
collects the commands that go on while it drains the pad. Several buttons and an axis may stand for
one command. After `SYN_DROPPED` the events up to the next report are incomplete; the menu then asks
the kernel for the state of the pad.

An event is modelled with the answers that the kernel gives if it is asked there. Differences of
axis values fit the integers of the program.

Main definitions:

* `NesDeck.MenuGamepads.MenuGamepadDevice`, `NesDeck.MenuGamepads.menuGamepadState` — a pad, and the
  commands that are on;
* `NesDeck.MenuGamepads.resynchronize`, `NesDeck.MenuGamepads.drainDevice`,
  `NesDeck.MenuGamepads.readReady` — the functions of the class;
* `NesDeck.MenuGamepads.Inputs`, `NesDeck.MenuGamepads.Sync`, `NesDeck.MenuGamepads.next` — what a
  stream means, frame by frame.

Main results:

* `NesDeck.MenuGamepads.menuGamepadState_eq` — the commands of a pad are those of its inputs;
* `NesDeck.MenuGamepads.drainDevice_eq` — a drain is its events, however they are read;
* `NesDeck.MenuGamepads.getLsbD_readReady` — the menu sees what one of the pads reports;
* `NesDeck.MenuGamepads.drain_law` — **a drain reports the commands that go on at the end of one of
  its frames, and no others**.
-/

import NesDeck.Lib.Framing
import NesDeck.Lib.HeldBits
import NesDeck.MenuLoop

set_option relaxedAutoImplicit false
set_option autoImplicit false

namespace NesDeck.MenuGamepads

open MenuLoop (kMenuPadConfirm kMenuPadBack kMenuPadUp kMenuPadDown kMenuPadLeft kMenuPadRight
  kMenuPadSystemPrevious kMenuPadSystemNext kMenuPadSettings)

/-! ### Events -/

def EV_SYN : ℕ := 0
def EV_KEY : ℕ := 1
def EV_ABS : ℕ := 3
def SYN_REPORT : ℕ := 0
def SYN_DROPPED : ℕ := 3
def ABS_X : ℕ := 0
def ABS_Y : ℕ := 1
def BTN_TRIGGER : ℕ := 0x120
def BTN_THUMB : ℕ := 0x121
def BTN_THUMB2 : ℕ := 0x122
def BTN_TOP : ℕ := 0x123
def BTN_TOP2 : ℕ := 0x124
def BTN_PINKIE : ℕ := 0x125
def BTN_BASE : ℕ := 0x126
def BTN_BASE2 : ℕ := 0x127

structure InputEvent where
  type : ℕ
  code : ℕ
  value : ℤ
  deriving DecidableEq

/-- The part of `input_absinfo` that the menu uses. -/
structure AbsInfo where
  value : ℤ
  minimum : ℤ
  maximum : ℤ
  deriving DecidableEq

/-- The answers of the kernel: the two axes, and which keys are down. -/
structure KernelState where
  x : AbsInfo
  y : AbsInfo
  keys : ℕ → Bool

/-- An event, and the answers of the kernel at this point, unless a question fails. -/
structure Arrival where
  event : InputEvent
  kernel : Option KernelState

/-! ### Commands -/

/-- A set of commands, as its bits. -/
abbrev Commands : Type := BitVec 32

def menuGamepadKeyToButton (code : ℕ) : Commands :=
  if code = BTN_THUMB2 ∨ code = BTN_TOP then BitVec.ofNat 32 kMenuPadConfirm
  else if code = BTN_THUMB ∨ code = BTN_TRIGGER then BitVec.ofNat 32 kMenuPadBack
  else if code = BTN_TOP2 then BitVec.ofNat 32 kMenuPadSystemPrevious
  else if code = BTN_PINKIE then BitVec.ofNat 32 kMenuPadSystemNext
  else if code = BTN_BASE then BitVec.ofNat 32 kMenuPadSettings
  else 0

def menuGamepadAxisToButton (value minimum maximum : ℤ) (negative positive : Commands) : Commands :=
  if maximum ≤ minimum then 0
  else
    let span := maximum - minimum
    let low := minimum + span / 3
    let high := maximum - span / 3
    if value ≤ low then negative
    else if high ≤ value then positive
    else 0

/-! ### A pad -/

/-- `MenuGamepadDevice` with an open descriptor; the paths are left out. -/
structure MenuGamepadDevice where
  xInfo : AbsInfo
  yInfo : AbsInfo
  xValue : ℤ
  yValue : ℤ
  rawButtons : BitVec 32
  state : Commands
  droppingEvents : Bool

/-- `1u << index`. -/
def buttonBit (index : ℕ) : BitVec 32 := 1 <<< index

def menuGamepadState (gamepad : MenuGamepadDevice) : Commands :=
  (List.range 8).foldl (fun state index =>
      if gamepad.rawButtons &&& buttonBit index ≠ 0 then
        state ||| menuGamepadKeyToButton (BTN_TRIGGER + index)
      else state) 0 |||
    menuGamepadAxisToButton gamepad.xValue gamepad.xInfo.minimum gamepad.xInfo.maximum
      (BitVec.ofNat 32 kMenuPadLeft) (BitVec.ofNat 32 kMenuPadRight) |||
    menuGamepadAxisToButton gamepad.yValue gamepad.yInfo.minimum gamepad.yInfo.maximum
      (BitVec.ofNat 32 kMenuPadUp) (BitVec.ofNat 32 kMenuPadDown)

/-- `resynchronize`, which is nothing where the kernel does not answer. -/
def resynchronize (gamepad : MenuGamepadDevice) (kernel : Option KernelState) :
    Option MenuGamepadDevice :=
  kernel.map fun kernel =>
    let gamepad := { gamepad with
      xInfo := kernel.x
      yInfo := kernel.y
      xValue := kernel.x.value
      yValue := kernel.y.value
      rawButtons := (List.range 8).foldl (fun buttons index =>
        if kernel.keys (BTN_TRIGGER + index) = true then buttons ||| buttonBit index
          else buttons) 0 }
    { gamepad with state := menuGamepadState gamepad, droppingEvents := false }

def InputEvent.isReport (event : InputEvent) : Bool := event.type = EV_SYN ∧ event.code = SYN_REPORT

def InputEvent.isDropped (event : InputEvent) : Bool :=
  event.type = EV_SYN ∧ event.code = SYN_DROPPED

/-- A pad that is not dropping events receives one. -/
def receive (gamepad : MenuGamepadDevice) (pressed : Commands) (event : InputEvent) :
    MenuGamepadDevice × Commands :=
  if event.isDropped = true then ({ gamepad with droppingEvents := true }, pressed)
  else if event.type = EV_KEY ∧ BTN_TRIGGER ≤ event.code ∧ event.code ≤ BTN_BASE2 then
    let bit := buttonBit (event.code - BTN_TRIGGER)
    ({ gamepad with
      rawButtons :=
        if event.value ≠ 0 then gamepad.rawButtons ||| bit else gamepad.rawButtons &&& ~~~bit },
          pressed)
  else if event.type = EV_ABS ∧ event.code = ABS_X
    then ({ gamepad with xValue := event.value }, pressed)
  else if event.type = EV_ABS ∧ event.code = ABS_Y
    then ({ gamepad with yValue := event.value }, pressed)
  else if event.isReport = true then
    let state := menuGamepadState gamepad
    ({ gamepad with state := state }, pressed ||| (state &&& ~~~gamepad.state))
  else (gamepad, pressed)

/-- A pad, the commands that are collected, and whether the drain goes on. -/
structure Drain where
  gamepad : MenuGamepadDevice
  pressed : Commands
  alive : Bool

/-- The loop over the events of a `read`. -/
def drainEvents (gamepad : MenuGamepadDevice) (pressed : Commands) : List Arrival → Drain
  | [] => ⟨gamepad, pressed, true⟩
  | arrival :: arrivals =>
      if gamepad.droppingEvents = true then
        if arrival.event.isReport = true then
          match resynchronize gamepad arrival.kernel with
          | none => ⟨gamepad, pressed, false⟩
          | some gamepad => drainEvents gamepad pressed arrivals
        else drainEvents gamepad pressed arrivals
      else
        let received := receive gamepad pressed arrival.event
        drainEvents received.1 received.2 arrivals

/-- The outcome of a `read` on a pad: events, an interruption by a signal, or an error, the end of
the file or a part of an event. -/
inductive GamepadRead where
  | events (first : Arrival) (rest : List Arrival)
  | interrupted
  | failed

/-- `drain_device`; after the last outcome a `read` would block. -/
def drainDevice (gamepad : MenuGamepadDevice) (pressed : Commands) : List GamepadRead → Drain
  | [] => ⟨gamepad, pressed, true⟩
  | .interrupted :: reads => drainDevice gamepad pressed reads
  | .failed :: _ => ⟨gamepad, pressed, false⟩
  | .events first rest :: reads =>
      let drain := drainEvents gamepad pressed (first :: rest)
      if drain.alive = true then drainDevice drain.gamepad drain.pressed reads else drain

/-- What `poll` says of a pad, and the reads that follow. -/
structure Poll where
  readable : Bool
  broken : Bool
  reads : List GamepadRead

/-- `read_ready` on the open pads and their descriptors; a pad that is closed is gone. -/
def readReady (pressed : Commands) : List (MenuGamepadDevice × Poll) →
    List (Option MenuGamepadDevice) × Commands
  | [] => ([], pressed)
  | (gamepad, poll) :: pads =>
      if poll.readable = false ∧ poll.broken = false then
        (some gamepad :: (readReady pressed pads).1, (readReady pressed pads).2)
      else if poll.readable = true then
        let drain := drainDevice gamepad pressed poll.reads
        let rest := readReady drain.pressed pads
        ((if drain.alive = true then some drain.gamepad else none) :: rest.1, rest.2)
      else (none :: (readReady pressed pads).1, (readReady pressed pads).2)

/-! ### What a stream means -/

/-- The buttons and axes of a pad. -/
structure Inputs where
  xInfo : AbsInfo
  yInfo : AbsInfo
  xValue : ℤ
  yValue : ℤ
  down : Fin 8 → Bool

/-- The inputs as the kernel knows them. -/
def Inputs.ofKernel (kernel : KernelState) : Inputs :=
  ⟨kernel.x, kernel.y, kernel.x.value, kernel.y.value, fun index =>
    kernel.keys (BTN_TRIGGER + index)⟩

/-- The inputs of a pad. -/
def MenuGamepadDevice.inputs (gamepad : MenuGamepadDevice) : Inputs :=
  ⟨gamepad.xInfo, gamepad.yInfo, gamepad.xValue, gamepad.yValue,
    fun index => gamepad.rawButtons.getLsbD index⟩

/-- The button that an event is about. -/
def InputEvent.button (event : InputEvent) : Option (Fin 8) :=
  if h : event.type = EV_KEY ∧ BTN_TRIGGER ≤ event.code ∧ event.code ≤ BTN_BASE2 then
    some ⟨event.code - BTN_TRIGGER, by simp only [BTN_TRIGGER, BTN_BASE2] at h ⊢; omega⟩
  else none

/-- What an event says of the inputs. -/
def Inputs.observe (inputs : Inputs) (event : InputEvent) : Inputs :=
  match event.button with
  | some index =>
      { inputs with down := Function.update inputs.down index (decide (event.value ≠ 0)) }
  | none =>
      if event.type = EV_ABS ∧ event.code = ABS_X then { inputs with xValue := event.value }
      else if event.type = EV_ABS ∧ event.code = ABS_Y then { inputs with yValue := event.value }
      else inputs

/-- The command of a button. -/
def buttonCommand (index : Fin 8) : Commands := menuGamepadKeyToButton (BTN_TRIGGER + index)

/-- The commands that are on: those of the buttons that are down and of the axes. -/
def Inputs.commands (inputs : Inputs) : Commands :=
  HeldBits.union buttonCommand inputs.down (List.finRange 8) |||
    menuGamepadAxisToButton inputs.xValue inputs.xInfo.minimum inputs.xInfo.maximum
      (BitVec.ofNat 32 kMenuPadLeft) (BitVec.ofNat 32 kMenuPadRight) |||
    menuGamepadAxisToButton inputs.yValue inputs.yInfo.minimum inputs.yInfo.maximum
      (BitVec.ofNat 32 kMenuPadUp) (BitVec.ofNat 32 kMenuPadDown)

/-- A frame: the events before a report, and the report. -/
abbrev Frame : Type := List Arrival × Arrival

/-- A frame that is incomplete because events were dropped. -/
def Frame.Dropped (events : List Arrival) : Prop :=
  ∃ arrival ∈ events, arrival.event.isDropped = true

instance (events : List Arrival) : Decidable (Frame.Dropped events) :=
  inferInstanceAs (Decidable (∃ arrival ∈ events, _))

/-- What is known at the end of a frame: the inputs, and the commands that are on. -/
structure Sync where
  inputs : Inputs
  commands : Commands

/-- The inputs after the events of a frame. -/
def observed (inputs : Inputs) (events : List Arrival) : Inputs :=
  events.foldl (fun inputs arrival => inputs.observe arrival.event) inputs

/-- A complete frame is believed; after an incomplete one the kernel is asked. -/
def next (sync : Sync) (frame : Frame) : Option Sync :=
  if Frame.Dropped frame.1 then
    frame.2.kernel.map fun kernel => ⟨Inputs.ofKernel kernel, (Inputs.ofKernel kernel).commands⟩
  else some ⟨observed sync.inputs frame.1, (observed sync.inputs frame.1).commands⟩

/-- What is known after a number of frames, unless the kernel does not answer. -/
def synced (sync : Sync) : List Frame → Option Sync
  | [] => some sync
  | frame :: frames => (next sync frame).bind fun sync => synced sync frames

/-- The commands that go on at the end of a frame. -/
def rises (sync : Sync) (frame : Frame) : Commands :=
  if Frame.Dropped frame.1 then 0
  else (observed sync.inputs frame.1).commands &&& ~~~sync.commands

/-! ### The inputs of a pad -/

theorem getLsbD_buttonBit {index other : ℕ} (h : index < 32) :
    (buttonBit index).getLsbD other = decide (index = other) := by
  have hpow : buttonBit index = BitVec.twoPow 32 index := rfl
  rw [hpow, BitVec.getLsbD_twoPow]
  simp [h]

theorem and_buttonBit_ne_zero_iff (buttons : BitVec 32) {index : ℕ} (h : index < 32) :
    buttons &&& buttonBit index ≠ 0 ↔ buttons.getLsbD index = true := by
  have hpow : buttonBit index = BitVec.twoPow 32 index := rfl
  have hne : BitVec.twoPow 32 index ≠ 0#32 := by
    intro hzero
    have hbit := congrArg (fun bits : BitVec 32 => bits.getLsbD index) hzero
    simp [h] at hbit
  rw [hpow, BitVec.and_twoPow]
  cases hbit : buttons.getLsbD index with
  | true => simpa using hne
  | false => simp

theorem range_eq_map_finRange : List.range 8 = (List.finRange 8).map Fin.val := by decide

/-- **The commands of a pad are those of its inputs.** -/
theorem menuGamepadState_eq (gamepad : MenuGamepadDevice) :
    menuGamepadState gamepad = gamepad.inputs.commands := by
  have hfold : (List.range 8).foldl (fun state index =>
      if gamepad.rawButtons &&& buttonBit index ≠ 0 then
        state ||| menuGamepadKeyToButton (BTN_TRIGGER + index)
      else state) 0 = HeldBits.union buttonCommand gamepad.inputs.down (List.finRange 8) := by
    rw [range_eq_map_finRange, List.foldl_map, ← BitVec.zero_or (x := HeldBits.union _ _ _),
      ← HeldBits.foldl_eq_union]
    congr 1
    funext state index
    exact if_congr (and_buttonBit_ne_zero_iff gamepad.rawButtons (by omega)) rfl rfl
  rw [menuGamepadState, hfold]
  rfl

/-- The bits of the keys that the kernel says are down. -/
theorem getLsbD_kernelButtons (keys : ℕ → Bool) (index : Fin 8) :
    ((List.range 8).foldl (fun buttons index =>
        if keys (BTN_TRIGGER + index) = true then buttons ||| buttonBit index
          else buttons) 0).getLsbD
      index = keys (BTN_TRIGGER + index) := by
  have hfold := @HeldBits.foldl_eq_union (Fin 8) 32 (fun index => buttonBit index) 0
    (fun index => keys (BTN_TRIGGER + index)) (List.finRange 8)
  have hunion := hfold.trans BitVec.zero_or
  rw [range_eq_map_finRange, List.foldl_map, hunion, Bool.eq_iff_iff, HeldBits.getLsbD_union]
  constructor
  · rintro ⟨other, -, hheld, hbit⟩
    rw [getLsbD_buttonBit (by omega), decide_eq_true_eq] at hbit
    rwa [Fin.ext hbit] at hheld
  · intro hheld
    refine ⟨index, List.mem_finRange index, hheld, ?_⟩
    rw [getLsbD_buttonBit (by omega), decide_eq_true_eq]

/-- **A command is on** exactly if one of its buttons is down or an axis asks for it. -/
theorem getLsbD_commands (inputs : Inputs) (i : ℕ) :
    inputs.commands.getLsbD i = true ↔
      (∃ index, inputs.down index = true ∧ (buttonCommand index).getLsbD i = true) ∨
        (menuGamepadAxisToButton inputs.xValue inputs.xInfo.minimum inputs.xInfo.maximum
          (BitVec.ofNat 32 kMenuPadLeft) (BitVec.ofNat 32 kMenuPadRight)).getLsbD i = true ∨
        (menuGamepadAxisToButton inputs.yValue inputs.yInfo.minimum inputs.yInfo.maximum
          (BitVec.ofNat 32 kMenuPadUp) (BitVec.ofNat 32 kMenuPadDown)).getLsbD i = true := by
  rw [Inputs.commands, BitVec.getLsbD_or, BitVec.getLsbD_or, Bool.or_eq_true, Bool.or_eq_true,
    HeldBits.getLsbD_union, or_assoc]
  simp

/-- The kernel is believed. -/
theorem resynchronize_eq {gamepad gamepad' : MenuGamepadDevice} {kernel : Option KernelState}
    (h : resynchronize gamepad kernel = some gamepad') :
    ∃ answers, kernel = some answers ∧ gamepad'.inputs = Inputs.ofKernel answers ∧
      gamepad'.state = (Inputs.ofKernel answers).commands ∧ gamepad'.droppingEvents = false := by
  cases kernel with
  | none => cases h
  | some answers =>
      have hinputs : gamepad'.inputs = Inputs.ofKernel answers := by
        cases h
        rw [MenuGamepadDevice.inputs, Inputs.ofKernel, Inputs.mk.injEq]
        refine ⟨rfl, rfl, rfl, rfl, funext ?_⟩
        intro index
        exact getLsbD_kernelButtons answers.keys index
      have hstate : gamepad'.state = menuGamepadState gamepad' := by
        cases h
        rfl
      refine ⟨answers, rfl, hinputs, ?_, ?_⟩
      · rw [hstate, menuGamepadState_eq, hinputs]
      · cases h
        rfl

theorem button_eq_some {event : InputEvent} {index : Fin 8} (h : event.button = some index) :
    event.type = EV_KEY ∧ BTN_TRIGGER ≤ event.code ∧ event.code ≤ BTN_BASE2 ∧
      event.code - BTN_TRIGGER = index := by
  rw [InputEvent.button] at h
  split at h
  · next hkey =>
      refine ⟨hkey.1, hkey.2.1, hkey.2.2, ?_⟩
      rw [← Option.some.inj h]
  · cases h

theorem button_eq_none {event : InputEvent} (h : event.button = none) :
    ¬ (event.type = EV_KEY ∧ BTN_TRIGGER ≤ event.code ∧ event.code ≤ BTN_BASE2) := by
  rw [InputEvent.button] at h
  split at h
  · cases h
  · next hkey => exact hkey

/-- An event inside a frame is observed, and nothing is collected. -/
theorem receive_of_not_report {gamepad : MenuGamepadDevice} {pressed : Commands}
    {event : InputEvent} (hdropped : event.isDropped = false) (hreport : event.isReport = false) :
    (receive gamepad pressed event).2 = pressed ∧
      (receive gamepad pressed event).1.inputs = gamepad.inputs.observe event ∧
      (receive gamepad pressed event).1.state = gamepad.state ∧
      (receive gamepad pressed event).1.droppingEvents = gamepad.droppingEvents := by
  rw [receive, if_neg (by simp [hdropped]), Inputs.observe]
  cases hbutton : event.button with
  | some index =>
      obtain ⟨htype, hlow, hhigh, hindex⟩ := button_eq_some hbutton
      rw [if_pos ⟨htype, hlow, hhigh⟩]
      refine ⟨rfl, ?_, rfl, rfl⟩
      rw [MenuGamepadDevice.inputs, MenuGamepadDevice.inputs, Inputs.mk.injEq]
      refine ⟨rfl, rfl, rfl, rfl, funext ?_⟩
      intro other
      have hbit : (buttonBit (event.code - BTN_TRIGGER)).getLsbD other =
          decide (index = other) := by
        rw [hindex, getLsbD_buttonBit (by omega)]
        simp [Fin.ext_iff]
      by_cases hsame : other = index
      · subst hsame
        rw [Function.update_self]
        split
        · next hvalue => simp [BitVec.getLsbD_or, hbit, hvalue]
        · next hvalue => simp [BitVec.getLsbD_and, BitVec.getLsbD_not, hbit, hvalue]
      · rw [Function.update_of_ne hsame]
        have hnot : decide (index = other) = false := decide_eq_false fun h => hsame h.symm
        rw [hnot] at hbit
        have hsize : (other : ℕ) < 32 := by omega
        split
        · simp [BitVec.getLsbD_or, hbit]
        · simp only [BitVec.getLsbD_and, BitVec.getLsbD_not, hbit, hsize, decide_true,
            Bool.not_false,
            Bool.and_true]
  | none =>
      rw [if_neg (button_eq_none hbutton)]
      dsimp only
      by_cases hx : event.type = EV_ABS ∧ event.code = ABS_X
      · rw [if_pos hx, if_pos hx]
        exact ⟨rfl, rfl, rfl, rfl⟩
      · rw [if_neg hx, if_neg hx]
        by_cases hy : event.type = EV_ABS ∧ event.code = ABS_Y
        · rw [if_pos hy, if_pos hy]
          exact ⟨rfl, rfl, rfl, rfl⟩
        · rw [if_neg hy, if_neg hy, if_neg (by simp [hreport])]
          exact ⟨rfl, rfl, rfl, rfl⟩

/-! ### A drain -/

/-- The test for the end of a frame. -/
def isEnd (arrival : Arrival) : Bool := arrival.event.isReport

theorem not_dropped_of_report {event : InputEvent} (h : event.isReport = true) :
    event.isDropped = false := by
  rw [InputEvent.isReport, decide_eq_true_eq] at h
  rw [InputEvent.isDropped, decide_eq_false_iff_not, h.2]
  rintro ⟨-, hcode⟩
  cases hcode

theorem receive_of_report {gamepad : MenuGamepadDevice} {pressed : Commands} {event : InputEvent}
    (h : event.isReport = true) :
    receive gamepad pressed event =
      ({ gamepad with state := menuGamepadState gamepad },
        pressed ||| (menuGamepadState gamepad &&& ~~~gamepad.state)) := by
  have htype : event.type = EV_SYN := by
    rw [InputEvent.isReport, decide_eq_true_eq] at h
    exact h.1
  rw [receive, if_neg (by simp [not_dropped_of_report h]), if_neg, if_neg, if_neg, if_pos h]
  all_goals
    rw [htype]
    rintro ⟨hcontra, -⟩
    cases hcontra

/-- A pad follows a stream: it knows what the frames so far say, and in a frame it has observed the
events, or knows that some were dropped. -/
structure Follows (gamepad : MenuGamepadDevice) (sync : Sync) (current : List Arrival) : Prop where
  state : gamepad.state = sync.commands
  dropping : gamepad.droppingEvents = true ↔ Frame.Dropped current
  inputs : ¬ Frame.Dropped current → gamepad.inputs = observed sync.inputs current

theorem dropped_concat {current : List Arrival} {arrival : Arrival} :
    Frame.Dropped (current ++ [arrival]) ↔
      Frame.Dropped current ∨ arrival.event.isDropped = true := by
  simp [Frame.Dropped, or_and_right, exists_or]

theorem observed_concat (inputs : Inputs) (current : List Arrival) (arrival : Arrival) :
    observed inputs (current ++ [arrival]) = (observed inputs current).observe arrival.event := by
  rw [observed, List.foldl_append]
  rfl

section Drains

variable {gamepad : MenuGamepadDevice} {sync : Sync} {current : List Arrival} {arrival : Arrival}

/-- An event inside a frame. -/
theorem follows_of_not_end (h : Follows gamepad sync current) (hend : isEnd arrival = false)
    (pressed : Commands) (arrivals : List Arrival) :
    ∃ gamepad', drainEvents gamepad pressed (arrival :: arrivals) =
      drainEvents gamepad' pressed arrivals ∧
      Follows gamepad' sync (current ++ [arrival]) := by
  rw [drainEvents]
  cases hdropping : gamepad.droppingEvents with
  | true =>
      rw [isEnd] at hend
      rw [if_pos rfl, if_neg (by simp [hend])]
      have hdropped : Frame.Dropped (current ++ [arrival]) :=
        dropped_concat.2 (Or.inl (h.dropping.1 hdropping))
      exact ⟨gamepad, rfl, h.state, iff_of_true hdropping hdropped, fun hnot =>
        absurd hdropped hnot⟩
  | false =>
      rw [if_neg Bool.false_ne_true]
      have hclean : ¬ Frame.Dropped current := by
        rw [← h.dropping, hdropping]
        exact Bool.false_ne_true
      cases hevent : arrival.event.isDropped with
      | true =>
          have hdropped : Frame.Dropped (current ++ [arrival]) := dropped_concat.2 (Or.inr hevent)
          rw [receive, if_pos hevent]
          exact ⟨_, rfl, h.state, iff_of_true rfl hdropped, fun hnot => absurd hdropped hnot⟩
      | false =>
          obtain ⟨hpressed, hinputs, hstate, hkept⟩ :=
            @receive_of_not_report gamepad pressed arrival.event hevent hend
          have hnot : ¬ Frame.Dropped (current ++ [arrival]) := by
            rw [dropped_concat, hevent]
            exact not_or.2 ⟨hclean, Bool.false_ne_true⟩
          dsimp only
          rw [hpressed]
          refine ⟨_, rfl, hstate.trans h.state, iff_of_false ?_ hnot, ?_⟩
          · rw [hkept, hdropping]
            exact Bool.false_ne_true
          · intro _
            rw [hinputs, h.inputs hclean, observed_concat]

/-- The end of a frame. -/
theorem follows_of_end (h : Follows gamepad sync current) (hend : isEnd arrival = true)
    (pressed : Commands) (arrivals : List Arrival) :
    (next sync (current, arrival) = none ∧
        drainEvents gamepad pressed (arrival :: arrivals) = ⟨gamepad, pressed, false⟩ ∧
          rises sync (current, arrival) = 0) ∨
      ∃ gamepad' sync', next sync (current, arrival) = some sync' ∧
        drainEvents gamepad pressed (arrival :: arrivals) =
          drainEvents gamepad' (pressed ||| rises sync (current, arrival)) arrivals ∧
        Follows gamepad' sync' [] := by
  have hnil : ¬ Frame.Dropped [] := by simp [Frame.Dropped]
  rw [drainEvents, next, rises]
  cases hdropping : gamepad.droppingEvents with
  | true =>
      have hdropped := h.dropping.1 hdropping
      rw [isEnd] at hend
      rw [if_pos rfl, if_pos hend, if_pos hdropped, if_pos hdropped]
      cases hresult : resynchronize gamepad arrival.kernel with
      | none =>
          refine Or.inl ⟨?_, rfl, rfl⟩
          rw [resynchronize, Option.map_eq_none_iff] at hresult
          rw [hresult]
          rfl
      | some gamepad' =>
          obtain ⟨answers, hkernel, hinputs, hstate, hlive⟩ := resynchronize_eq hresult
          refine Or.inr
            ⟨gamepad', ⟨Inputs.ofKernel answers, (Inputs.ofKernel answers).commands⟩, ?_, ?_, ?_⟩
          · rw [hkernel]
            rfl
          · simp
          · refine ⟨hstate, iff_of_false ?_ hnil, fun _ => hinputs⟩
            rw [hlive]
            exact Bool.false_ne_true
  | false =>
      have hclean : ¬ Frame.Dropped current := by
        rw [← h.dropping, hdropping]
        exact Bool.false_ne_true
      have hcommands : menuGamepadState gamepad = (observed sync.inputs current).commands := by
        rw [menuGamepadState_eq, h.inputs hclean]
      rw [if_neg Bool.false_ne_true, if_neg hclean, if_neg hclean, receive_of_report hend]
      refine Or.inr ⟨{ gamepad with state := menuGamepadState gamepad }, _, rfl, ?_, ?_⟩
      · dsimp only
        rw [hcommands, h.state]
      · refine ⟨hcommands, iff_of_false ?_ hnil, fun _ => h.inputs hclean⟩
        rw [hdropping]
        exact Bool.false_ne_true

end Drains

theorem synced_append (sync : Sync) (first second : List Frame) :
    synced sync (first ++ second) = (synced sync first).bind fun sync => synced sync second := by
  induction first generalizing sync with
  | nil => rfl
  | cons frame first ih =>
      rw [List.cons_append, synced, synced, Option.bind_assoc]
      exact congrArg _ (funext ih)

/-- The commands that go on at the end of one of the frames. -/
def collect (sync : Sync) : List Frame → Commands
  | [] => 0
  | frame :: frames =>
      rises sync frame ||| ((next sync frame).map fun sync => collect sync frames).getD 0

/-- A command is collected exactly if it goes on at the end of a frame. -/
theorem getLsbD_collect (sync : Sync) (frames : List Frame) (i : ℕ) :
    (collect sync frames).getLsbD i = true ↔
      ∃ before frame after sync', frames = before ++ frame :: after ∧
        synced sync before = some sync' ∧
        (rises sync' frame).getLsbD i = true := by
  induction frames generalizing sync with
  | nil => simp [collect]
  | cons first frames ih =>
      rw [collect, BitVec.getLsbD_or, Bool.or_eq_true]
      constructor
      · rintro (hfirst | hlater)
        · exact ⟨[], first, frames, sync, rfl, rfl, hfirst⟩
        · cases hnext : next sync first with
          | none => simp [hnext] at hlater
          | some sync' =>
              rw [hnext, Option.map_some, Option.getD_some, ih] at hlater
              obtain ⟨before, frame, after, sync'', rfl, hsynced, hrises⟩ := hlater
              refine ⟨first :: before, frame, after, sync'', rfl, ?_, hrises⟩
              rw [synced, hnext]
              exact hsynced
      · rintro ⟨before, frame, after, sync', hsplit, hsynced, hrises⟩
        cases before with
        | nil =>
            cases hsplit
            cases hsynced
            exact Or.inl hrises
        | cons head before =>
            cases hsplit
            obtain ⟨sync'', hnext, hsynced⟩ := Option.bind_eq_some_iff.1 hsynced
            refine Or.inr ?_
            rw [hnext, Option.map_some, Option.getD_some, ih]
            exact ⟨before, frame, after, sync', rfl, hsynced, hrises⟩

/-- **A drain follows its events**: it collects the commands that go on, and ends when the kernel
does not answer. -/
theorem drainEvents_spec {gamepad : MenuGamepadDevice} {sync : Sync} {current : List Arrival}
    (h : Follows gamepad sync current) (pressed : Commands) (arrivals : List Arrival) :
    (drainEvents gamepad pressed arrivals).pressed =
        pressed ||| collect sync (Framing.frames isEnd current arrivals) ∧
      ((drainEvents gamepad pressed arrivals).alive = true →
        ∃ sync', synced sync (Framing.frames isEnd current arrivals) = some sync' ∧
          Follows (drainEvents gamepad pressed arrivals).gamepad sync'
            (Framing.leftover isEnd current arrivals)) := by
  induction arrivals generalizing gamepad sync current pressed with
  | nil => exact ⟨BitVec.or_zero.symm, fun _ => ⟨sync, rfl, h⟩⟩
  | cons arrival arrivals ih =>
      cases hend : isEnd arrival with
      | false =>
          obtain ⟨gamepad', hdrain, hfollows⟩ := follows_of_not_end h hend pressed arrivals
          rw [hdrain, Framing.frames_cons_of_not_end hend, Framing.leftover_cons_of_not_end hend]
          exact ih hfollows pressed
      | true =>
          rw [Framing.frames_cons_of_end hend, Framing.leftover_cons_of_end hend, collect, synced]
          rcases follows_of_end h hend pressed arrivals with
            ⟨hnext, hdrain, hrises⟩ | ⟨gamepad', sync', hnext, hdrain, hfollows⟩
          · rw [hdrain, hnext, hrises]
            refine ⟨by simp, ?_⟩
            intro halive
            cases halive
          · obtain ⟨hpressed, halive⟩ := ih hfollows (pressed ||| rises sync (current, arrival))
            rw [hdrain, hnext]
            refine ⟨?_, halive⟩
            rw [hpressed, Option.map_some, Option.getD_some, BitVec.or_assoc]

/-! ### Reads -/

/-- The events that a drain reads, up to a failure. -/
def delivered : List GamepadRead → List Arrival
  | [] => []
  | .interrupted :: reads => delivered reads
  | .failed :: _ => []
  | .events first rest :: reads => first :: rest ++ delivered reads

/-- No read fails. -/
def readable : List GamepadRead → Bool
  | [] => true
  | .interrupted :: reads => readable reads
  | .failed :: _ => false
  | .events _ _ :: reads => readable reads

theorem drainEvents_append (gamepad : MenuGamepadDevice) (pressed : Commands)
    (first second : List Arrival) :
    drainEvents gamepad pressed (first ++ second) =
      if (drainEvents gamepad pressed first).alive = true then
        drainEvents (drainEvents gamepad pressed first).gamepad
          (drainEvents gamepad pressed first).pressed second
      else drainEvents gamepad pressed first := by
  induction first generalizing gamepad pressed with
  | nil => rfl
  | cons arrival first ih =>
      rw [List.cons_append, drainEvents, drainEvents]
      by_cases hdropping : gamepad.droppingEvents = true
      · simp only [if_pos hdropping]
        by_cases hreport : arrival.event.isReport = true
        · simp only [if_pos hreport]
          cases resynchronize gamepad arrival.kernel with
          | none => rfl
          | some gamepad' => exact ih gamepad' pressed
        · simp only [if_neg hreport]
          exact ih gamepad pressed
      · simp only [if_neg hdropping]
        exact ih _ _

/-- **A drain is its events, however they are read.** -/
theorem drainDevice_eq (gamepad : MenuGamepadDevice) (pressed : Commands)
    (reads : List GamepadRead) :
    drainDevice gamepad pressed reads =
      { drainEvents gamepad pressed (delivered reads) with
        alive := (drainEvents gamepad pressed (delivered reads)).alive && readable reads } := by
  induction reads generalizing gamepad pressed with
  | nil => rfl
  | cons read reads ih =>
      cases read with
      | interrupted => exact ih gamepad pressed
      | failed => rfl
      | events first rest =>
          rw [drainDevice, delivered, readable, drainEvents_append]
          dsimp only
          by_cases halive : (drainEvents gamepad pressed (first :: rest)).alive = true
          · rw [if_pos halive, if_pos halive]
            exact ih _ _
          · rw [if_neg halive, if_neg halive, Bool.eq_false_of_not_eq_true halive, Bool.false_and]
            rw [← Bool.eq_false_of_not_eq_true halive]

/-! ### All pads -/

theorem receive_pressed (gamepad : MenuGamepadDevice) (pressed : Commands) (event : InputEvent) :
    receive gamepad pressed event =
      ((receive gamepad 0 event).1, pressed ||| (receive gamepad 0 event).2) := by
  unfold receive
  split_ifs <;> simp

/-- What was collected before does not matter. -/
theorem drainEvents_pressed (gamepad : MenuGamepadDevice) (pressed : Commands)
    (arrivals : List Arrival) :
    drainEvents gamepad pressed arrivals =
      { drainEvents gamepad 0 arrivals with
        pressed := pressed ||| (drainEvents gamepad 0 arrivals).pressed } := by
  induction arrivals generalizing gamepad pressed with
  | nil => simp [drainEvents]
  | cons arrival arrivals ih =>
      rw [drainEvents, drainEvents]
      by_cases hdropping : gamepad.droppingEvents = true
      · simp only [if_pos hdropping]
        by_cases hreport : arrival.event.isReport = true
        · simp only [if_pos hreport]
          cases resynchronize gamepad arrival.kernel with
          | none => simp
          | some gamepad' => exact ih gamepad' pressed
        · simp only [if_neg hreport]
          exact ih gamepad pressed
      · simp only [if_neg hdropping]
        rw [receive_pressed gamepad pressed, ih, ih _ (receive gamepad 0 arrival.event).2]
        simp only [BitVec.or_assoc]

/-- **The menu sees the commands that one of the pads reports.** -/
theorem getLsbD_readReady (pressed : Commands) (pads : List (MenuGamepadDevice × Poll)) (i : ℕ) :
    (readReady pressed pads).2.getLsbD i = true ↔
      pressed.getLsbD i = true ∨ ∃ pad ∈ pads, pad.2.readable = true ∧
        (drainDevice pad.1 0 pad.2.reads).pressed.getLsbD i = true := by
  induction pads generalizing pressed with
  | nil => simp [readReady]
  | cons pad pads ih =>
      obtain ⟨gamepad, poll⟩ := pad
      rw [readReady, List.exists_mem_cons_iff]
      cases hreadable : poll.readable with
      | true =>
          have hdrain : (drainDevice gamepad pressed poll.reads).pressed =
              pressed ||| (drainDevice gamepad 0 poll.reads).pressed := by
            rw [drainDevice_eq, drainDevice_eq, drainEvents_pressed]
          rw [if_neg (fun h => Bool.false_ne_true h.1.symm), if_pos rfl]
          dsimp only
          rw [ih, hdrain, BitVec.getLsbD_or, Bool.or_eq_true, or_assoc]
          simp
      | false =>
          cases poll.broken with
          | true =>
              rw [if_neg (fun h => Bool.false_ne_true h.2.symm), if_neg Bool.false_ne_true]
              dsimp only
              rw [ih]
              simp
          | false =>
              rw [if_pos ⟨rfl, rfl⟩]
              dsimp only
              rw [ih]
              simp

/-! ### The law of a drain -/

/-- What is known of a pad that is not inside a frame. -/
def MenuGamepadDevice.sync (gamepad : MenuGamepadDevice) : Sync := ⟨gamepad.inputs, gamepad.state⟩

theorem follows_start {gamepad : MenuGamepadDevice} (h : gamepad.droppingEvents = false) :
    Follows gamepad gamepad.sync [] := by
  have hnil : ¬ Frame.Dropped [] := by simp [Frame.Dropped]
  refine ⟨rfl, iff_of_false ?_ hnil, fun _ => rfl⟩
  rw [h]
  exact Bool.false_ne_true

/-- The pad after drains that go well. -/
def drainAll (gamepad : MenuGamepadDevice) : List (List GamepadRead) → Option MenuGamepadDevice
  | [] => some gamepad
  | reads :: drains =>
      let drain := drainDevice gamepad 0 reads
      if drain.alive = true then drainAll drain.gamepad drains else none

/-- Drains that go well follow their events, one after the other. -/
theorem follows_drainAll {gamepad gamepad' : MenuGamepadDevice} {sync : Sync}
    {current : List Arrival} (h : Follows gamepad sync current) {drains : List (List GamepadRead)}
    (hdrains : drainAll gamepad drains = some gamepad') :
    ∃ sync', synced sync (Framing.frames isEnd current (drains.flatMap delivered)) = some sync' ∧
      Follows gamepad' sync' (Framing.leftover isEnd current (drains.flatMap delivered)) := by
  induction drains generalizing gamepad sync current with
  | nil =>
      cases hdrains
      exact ⟨sync, rfl, h⟩
  | cons reads drains ih =>
      rw [drainAll] at hdrains
      split at hdrains
      · next halive =>
          rw [drainDevice_eq, Bool.and_eq_true] at halive
          rw [drainDevice_eq] at hdrains
          obtain ⟨sync', hsynced, hfollows⟩ := (drainEvents_spec h 0 (delivered reads)).2 halive.1
          obtain ⟨sync'', hlater, hlast⟩ := ih hfollows hdrains
          rw [List.flatMap_cons, Framing.frames_append, Framing.leftover_append]
          refine ⟨sync'', ?_, hlast⟩
          rw [synced_append, hsynced]
          exact hlater
      · cases hdrains

theorem getLsbD_rises (sync : Sync) (frame : Frame) (i : ℕ) :
    (rises sync frame).getLsbD i = true ↔
      ¬ Frame.Dropped frame.1 ∧ sync.commands.getLsbD i = false ∧
        (observed sync.inputs frame.1).commands.getLsbD i = true := by
  rw [rises]
  by_cases hdropped : Frame.Dropped frame.1
  · simp [hdropped]
  · rw [if_neg hdropped, BitVec.getLsbD_and, BitVec.getLsbD_not]
    by_cases hi : i < 32
    · simp [hi, hdropped, and_comm]
    · simp [hi, BitVec.getLsbD_of_ge _ _ (Nat.not_lt.1 hi)]

/-- **A drain reports the commands that go on at the end of one of its frames, and no others**:
frames in which events were dropped report nothing, what went on is measured against the frame
before, and it does not matter how the events are read. -/
theorem drain_law {start gamepad : MenuGamepadDevice} (hstart : start.droppingEvents = false)
    {earlier : List (List GamepadRead)} (hearlier : drainAll start earlier = some gamepad)
    (reads : List GamepadRead) :
    (∀ i, (drainDevice gamepad 0 reads).pressed.getLsbD i = true ↔
      ∃ before frame after sync,
        Framing.frames isEnd [] (earlier.flatMap delivered ++ delivered reads) =
            before ++ frame :: after ∧
          (Framing.frames isEnd [] (earlier.flatMap delivered)).length ≤ before.length ∧
          synced start.sync before = some sync ∧ ¬ Frame.Dropped frame.1 ∧
          sync.commands.getLsbD i = false ∧
          (observed sync.inputs frame.1).commands.getLsbD i = true) ∧
    ∀ reads', delivered reads' = delivered reads →
      (drainDevice gamepad 0 reads').pressed = (drainDevice gamepad 0 reads).pressed := by
  obtain ⟨sync, hsynced, hfollows⟩ := follows_drainAll (follows_start hstart) hearlier
  constructor
  · intro i
    rw [drainDevice_eq, (drainEvents_spec hfollows 0 (delivered reads)).1, Framing.frames_append]
    rw [BitVec.ofNat_eq_ofNat, BitVec.zero_or, getLsbD_collect]
    constructor
    · rintro ⟨before, frame, after, sync', hsplit, hbefore, hrises⟩
      refine ⟨Framing.frames isEnd [] (earlier.flatMap delivered) ++ before, frame, after,
        sync', ?_, ?_,
        ?_, (getLsbD_rises sync' frame i).1 hrises⟩
      · rw [hsplit, List.append_assoc]
      · rw [List.length_append]
        exact Nat.le_add_right _ _
      · rw [synced_append, hsynced]
        exact hbefore
    · rintro ⟨before, frame, after, sync', hsplit, hlength, hbefore, hrises⟩
      obtain ⟨later, rfl⟩ : Framing.frames isEnd [] (earlier.flatMap delivered) <+: before :=
        List.prefix_of_prefix_length_le (hsplit ▸ List.prefix_append _ _)
          (List.prefix_append before _)
          hlength
      rw [List.append_assoc, List.append_cancel_left_eq] at hsplit
      rw [synced_append, hsynced] at hbefore
      exact ⟨later, frame, after, sync', hsplit, hbefore, (getLsbD_rises sync' frame i).2 hrises⟩
  · intro reads' hreads
    rw [drainDevice_eq, drainDevice_eq, hreads]

/-- A pad whose axes rest and whose buttons are up. -/
def restingPad : MenuGamepadDevice :=
  ⟨⟨127, 0, 255⟩, ⟨127, 0, 255⟩, 127, 127, 0, 0, false⟩

/-- A button goes down, the drain ends inside the frame, and the next drain reads its report. -/
theorem drain_law_press :
    ∃ before frame after sync,
      Framing.frames isEnd [] [⟨⟨EV_KEY, BTN_TOP, 1⟩, none⟩, ⟨⟨EV_SYN, SYN_REPORT, 0⟩, none⟩] =
          before ++ frame :: after ∧
        (Framing.frames isEnd [] [⟨⟨EV_KEY, BTN_TOP, 1⟩, none⟩]).length ≤ before.length ∧
        synced restingPad.sync before = some sync ∧ ¬ Frame.Dropped frame.1 ∧
        sync.commands.getLsbD 0 = false ∧
        (observed sync.inputs frame.1).commands.getLsbD 0 = true := by
  have hpressed : (drainDevice { restingPad with rawButtons := 8 } 0
      [.events ⟨⟨EV_SYN, SYN_REPORT, 0⟩, none⟩ []]).pressed.getLsbD 0 = true := by decide
  exact ((@drain_law restingPad { restingPad with rawButtons := 8 } rfl
    [[.events ⟨⟨EV_KEY, BTN_TOP, 1⟩, none⟩ []]] rfl
    [.events ⟨⟨EV_SYN, SYN_REPORT, 0⟩, none⟩ []]).1 0).1 hpressed

end NesDeck.MenuGamepads
