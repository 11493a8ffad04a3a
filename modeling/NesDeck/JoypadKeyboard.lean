/-
**The keyboard as a joypad.**

`joypad_input.cpp` reads a keyboard in raw mode: every byte is a key code with the high bit set
when the key came up.  `keyboard_key_state` remembers which keys are down, and `keyboard_state`
the buttons they stand for; the latter is not computed from the former but updated bit by bit.

Main definitions:

* `NesDeck.keycodeToPad` — the button of a key;
* `NesDeck.Joypad`, `NesDeck.Joypad.updateKeyboardKey` — the shared state, and one key;
* `NesDeck.Joypad.drainKeyboard`, `NesDeck.Joypad.closeKeyboard` — reading, and giving up;
* `NesDeck.Joypad.Coherent` — the buttons are those of the keys that are down;
* `NesDeck.Joypad.SharedRelease` — a key comes up while another key of its button stays down.

Main results:

* `NesDeck.Joypad.pollKeyboard_eq_run` — a poll is its bytes, one after the other;
* `NesDeck.Joypad.coherent_react_iff` — what one event does to the agreement;
* `NesDeck.Joypad.buttons_lawful_iff` — **the buttons are right along a run exactly when no key
  comes up while another key of its button is down**.
-/

import Mathlib.Data.List.FinRange
import NesDeck.Lib.HeldBits
import NesDeck.Lib.Run

set_option relaxedAutoImplicit false
set_option autoImplicit false

namespace NesDeck

/-! ### Buttons -/

def PAD_A : BitVec 32 := 1 <<< 0
def PAD_B : BitVec 32 := 1 <<< 1
def PAD_SELECT : BitVec 32 := 1 <<< 2
def PAD_START : BitVec 32 := 1 <<< 3
def PAD_UP : BitVec 32 := 1 <<< 4
def PAD_DOWN : BitVec 32 := 1 <<< 5
def PAD_LEFT : BitVec 32 := 1 <<< 6
def PAD_RIGHT : BitVec 32 := 1 <<< 7

/-- `keycode_to_pad`.  The build for the ZX Spectrum (`RETRO_DECK_ZX`) passes the keyboard through
and gives no key a button. -/
def keycodeToPad (zx : Bool) (keycode : Fin 128) : BitVec 32 :=
  if zx then 0
  else
    match keycode with
    | 0x67 => PAD_UP      -- Up arrow
    | 0x6c => PAD_DOWN    -- Down arrow
    | 0x69 => PAD_LEFT    -- Left arrow
    | 0x6a => PAD_RIGHT   -- Right arrow
    | 0x11 => PAD_UP      -- W
    | 0x1f => PAD_DOWN    -- S
    | 0x1e => PAD_LEFT    -- A
    | 0x20 => PAD_RIGHT   -- D
    | 0x39 => PAD_A       -- Space
    | 0x2c => PAD_A       -- Z
    | 0x24 => PAD_A       -- J
    | 0x2a => PAD_B       -- Left Shift
    | 0x36 => PAD_B       -- Right Shift
    | 0x2d => PAD_B       -- X
    | 0x25 => PAD_B       -- K
    | 0x1c => PAD_START   -- Enter
    | 0x1d => PAD_SELECT  -- Left Control
    | 0x61 => PAD_SELECT  -- Right Control
    | _ => 0

/-- The buttons a key can have. -/
def padButtons : List (BitVec 32) :=
  [PAD_A, PAD_B, PAD_SELECT, PAD_START, PAD_UP, PAD_DOWN, PAD_LEFT, PAD_RIGHT]

theorem keycodeToPad_mem (zx : Bool) (k : Fin 128) : keycodeToPad zx k ∈ 0 :: padButtons := by
  cases zx with
  | true => exact List.mem_cons_self
  | false =>
      unfold keycodeToPad
      rw [if_neg Bool.false_ne_true]
      split
      all_goals decide

/-- Two keys have no bit in common, or they stand for the same button. -/
theorem keycodeToPad_and_eq_zero_iff (zx : Bool) (k k' : Fin 128) :
    keycodeToPad zx k' &&& keycodeToPad zx k = 0 ↔
      keycodeToPad zx k = 0 ∨ keycodeToPad zx k' ≠ keycodeToPad zx k := by
  -- Buttons are single bits: it is enough to look at all pairs of them.
  have hpairs : ((0 :: padButtons).all fun b => (0 :: padButtons).all fun b' =>
      decide (b' &&& b = 0 ↔ b = 0 ∨ b' ≠ b)) = true := by decide
  have hrow := List.all_eq_true.1 hpairs _ (keycodeToPad_mem zx k)
  exact of_decide_eq_true (List.all_eq_true.1 hrow _ (keycodeToPad_mem zx k'))

/-! ### The shared state -/

/-- What `pad_mutex` protects, with the open keyboard.  `gamepads` holds the `state` of the two
game controllers, which other functions maintain. -/
structure Joypad where
  kbOpen : Bool
  keyboardState : BitVec 32
  keyboardKeyState : Fin 128 → Bool
  gamepads : Fin 2 → BitVec 32
  padState : Fin 2 → BitVec 32

namespace Joypad

/-- The state of a fresh process, once `initialize_keyboard` has opened a keyboard or not. -/
def initial (kbOpen : Bool) : Joypad where
  kbOpen := kbOpen
  keyboardState := 0
  keyboardKeyState := fun _ => false
  gamepads := fun _ => 0
  padState := fun _ => 0

/-- `publish_states`: the keyboard plays for the first player. -/
def publishStates (pad : Joypad) : Joypad :=
  { pad with
    padState := fun player =>
      if player = 0 then pad.keyboardState ||| pad.gamepads 0 else pad.gamepads player }

/-- `update_keyboard_key`. -/
def updateKeyboardKey (zx : Bool) (pad : Joypad) (keycode : Fin 128) (pressed : Bool) : Joypad :=
  let button := keycodeToPad zx keycode
  { pad with
    keyboardKeyState := Function.update pad.keyboardKeyState keycode pressed
    keyboardState :=
      if button = 0 then pad.keyboardState
      else if pressed then pad.keyboardState ||| button
      else pad.keyboardState &&& ~~~button }

/-- The low seven bits of a byte are its key. -/
def keycodeOf (byte : UInt8) : Fin 128 := ⟨byte.toNat % 128, Nat.mod_lt _ (by decide)⟩

/-- The high bit of a byte says that its key came up. -/
def releasedBy (byte : UInt8) : Bool := 128 ≤ byte.toNat

/-- The body of the inner loop of `drain_keyboard`. -/
def readByte (zx : Bool) (pad : Joypad) (byte : UInt8) : Joypad :=
  pad.updateKeyboardKey zx (keycodeOf byte) !releasedBy byte

/-- What one `read` of the keyboard gives. -/
inductive KeyboardRead where
  | bytes (data : List UInt8)
  | interrupted
  | failed
  | endOfFile

/-- The loop of `drain_keyboard`; when nothing is left to read, the next `read` would block. -/
def drainLoop (zx : Bool) (pad : Joypad) : List KeyboardRead → Joypad × Bool
  | [] => (pad, true)
  | .interrupted :: reads => drainLoop zx pad reads
  | .failed :: _ => (pad, false)
  | .endOfFile :: _ => (pad, false)
  | .bytes data :: reads => drainLoop zx (data.foldl (readByte zx) pad).publishStates reads

/-- `drain_keyboard`, which is false when the keyboard is gone. -/
def drainKeyboard (zx : Bool) (pad : Joypad) (reads : List KeyboardRead) : Joypad × Bool :=
  if pad.kbOpen then drainLoop zx pad reads else (pad, false)

/-- `close_keyboard`; the terminal settings it restores are left out. -/
def closeKeyboard (pad : Joypad) : Joypad :=
  publishStates
    { pad with kbOpen := false, keyboardState := 0, keyboardKeyState := fun _ => false }

/-- What the input thread does when the keyboard has something to say. -/
def pollKeyboard (zx : Bool) (pad : Joypad) (reads : List KeyboardRead) : Joypad :=
  match pad.drainKeyboard zx reads with
  | (pad, true) => pad
  | (pad, false) => pad.closeKeyboard

/-! ### Runs -/

/-- What happens to the shared state, one critical section at a time. -/
inductive KeyboardEvent where
  | byte (byte : UInt8)
  | publish
  | gamepad (player : Fin 2) (state : BitVec 32)
  | close

/-- One event; a keyboard that is closed is not read. -/
def react (zx : Bool) (pad : Joypad) : KeyboardEvent → Joypad
  | .byte byte => if pad.kbOpen then pad.readByte zx byte else pad
  | .publish => pad.publishStates
  | .gamepad player state => { pad with gamepads := Function.update pad.gamepads player state }
  | .close => pad.closeKeyboard

@[simp] theorem react_byte (zx : Bool) (pad : Joypad) (byte : UInt8) :
    pad.react zx (.byte byte) = if pad.kbOpen then pad.readByte zx byte else pad := rfl

/-- The events of a drain. -/
def eventsOf : List KeyboardRead → List KeyboardEvent
  | [] => []
  | .interrupted :: reads => eventsOf reads
  | .failed :: _ => [.close]
  | .endOfFile :: _ => [.close]
  | .bytes data :: reads => data.map .byte ++ .publish :: eventsOf reads

@[simp] theorem readByte_kbOpen (zx : Bool) (pad : Joypad) (byte : UInt8) :
    (pad.readByte zx byte).kbOpen = pad.kbOpen := rfl

@[simp] theorem publishStates_kbOpen (pad : Joypad) : pad.publishStates.kbOpen = pad.kbOpen := rfl

theorem foldl_readByte_kbOpen (zx : Bool) (pad : Joypad) (data : List UInt8) :
    (data.foldl (readByte zx) pad).kbOpen = pad.kbOpen := by
  induction data generalizing pad with
  | nil => rfl
  | cons byte data ih => rw [List.foldl_cons, ih, readByte_kbOpen]

theorem foldl_react_bytes (zx : Bool) {pad : Joypad} (h : pad.kbOpen = true) (data : List UInt8) :
    (data.map KeyboardEvent.byte).foldl (react zx) pad = data.foldl (readByte zx) pad := by
  induction data generalizing pad with
  | nil => rfl
  | cons byte data ih =>
      rw [List.map_cons, List.foldl_cons, List.foldl_cons, ← ih (by rw [readByte_kbOpen, h])]
      simp [react, h]

/-- **A poll is its bytes, one after the other**, and the close that follows a failed read. -/
theorem pollKeyboard_eq_run (zx : Bool) {pad : Joypad} (h : pad.kbOpen = true)
    (reads : List KeyboardRead) :
    pad.pollKeyboard zx reads = (eventsOf reads).foldl (react zx) pad := by
  unfold pollKeyboard drainKeyboard
  rw [if_pos h]
  induction reads generalizing pad with
  | nil => rfl
  | cons read reads ih =>
      cases read with
      | bytes data =>
          have hopen : (data.foldl (readByte zx) pad).publishStates.kbOpen = true := by
            rw [publishStates_kbOpen, foldl_readByte_kbOpen, h]
          rw [drainLoop, eventsOf, List.foldl_append, List.foldl_cons, foldl_react_bytes zx h]
          exact ih hopen
      | interrupted => exact ih h
      | failed => rfl
      | endOfFile => rfl

/-! ### The buttons of the keys that are down -/

/-- The union of the buttons of the keys that are down. -/
def heldButtons (zx : Bool) (pad : Joypad) : BitVec 32 :=
  HeldBits.union (keycodeToPad zx) pad.keyboardKeyState (List.finRange 128)

/-- The state of the buttons is that of the keys. -/
def Coherent (zx : Bool) (pad : Joypad) : Prop := pad.keyboardState = pad.heldButtons zx

/-- A key comes up while another key of its button stays down. -/
def SharedRelease (zx : Bool) (pad : Joypad) : KeyboardEvent → Prop
  | .byte byte =>
      releasedBy byte = true ∧ keycodeToPad zx (keycodeOf byte) ≠ 0 ∧
        ∃ other, other ≠ keycodeOf byte ∧ pad.keyboardKeyState other = true ∧
          keycodeToPad zx other = keycodeToPad zx (keycodeOf byte)
  | _ => False

/-- A closed keyboard has no key down. -/
def ClosedIdle (pad : Joypad) : Prop :=
  pad.kbOpen = false → ∀ k, pad.keyboardKeyState k = false

theorem closedIdle_initial (kbOpen : Bool) : (initial kbOpen).ClosedIdle := fun _ _ => rfl

theorem coherent_initial (zx kbOpen : Bool) : (initial kbOpen).Coherent zx :=
  (HeldBits.union_eq_zero (fun _ => rfl) _).symm

theorem closedIdle_react (zx : Bool) (pad : Joypad) (e : KeyboardEvent) (h : pad.ClosedIdle) :
    (pad.react zx e).ClosedIdle := by
  cases e with
  | byte byte =>
      rw [react_byte]
      split
      · next hopen =>
          intro hclosed
          rw [readByte_kbOpen, hopen] at hclosed
          exact absurd hclosed (by decide)
      · exact h
  | publish => exact h
  | gamepad player state => exact h
  | close => exact fun _ _ => rfl

/-- A key that goes down keeps the agreement. -/
theorem coherent_press {zx : Bool} {pad : Joypad} (h : pad.Coherent zx) (k : Fin 128) :
    (pad.updateKeyboardKey zx k true).Coherent zx := by
  unfold Coherent heldButtons at *
  simp only [updateKeyboardKey, if_true]
  rw [HeldBits.union_press _ (List.mem_finRange k), ← h]
  split
  · next hzero => simp [hzero]
  · rfl

/-- A key that comes up keeps it exactly when no key of its button stays down. -/
theorem coherent_release_iff {zx : Bool} {pad : Joypad} (h : pad.Coherent zx) (k : Fin 128) :
    (pad.updateKeyboardKey zx k false).Coherent zx ↔
      ¬(keycodeToPad zx k ≠ 0 ∧ ∃ other, other ≠ k ∧ pad.keyboardKeyState other = true ∧
        keycodeToPad zx other = keycodeToPad zx k) := by
  -- A key without a button clears no bit, which is the same formula.
  have hstate : (pad.updateKeyboardKey zx k false).keyboardState =
      pad.keyboardState &&& ~~~keycodeToPad zx k := by
    simp only [updateKeyboardKey]
    split
    · next hzero =>
        rw [hzero]
        exact BitVec.and_allOnes.symm
    · simp
  unfold Coherent heldButtons at *
  rw [hstate, h]
  refine (HeldBits.union_release_iff _ _ _).trans ?_
  constructor
  · rintro hall ⟨hk, other, hne, hheld, hsame⟩
    rcases (keycodeToPad_and_eq_zero_iff zx k other).1
      (hall other (List.mem_finRange other) hne hheld) with hzero | hdiff
    · exact hk hzero
    · exact hdiff hsame
  · intro hnone other _ hne hheld
    refine (keycodeToPad_and_eq_zero_iff zx k other).2 ?_
    by_contra hboth
    rw [not_or, not_not] at hboth
    exact hnone ⟨hboth.1, other, hne, hheld, hboth.2⟩

theorem coherent_close (zx : Bool) (pad : Joypad) : pad.closeKeyboard.Coherent zx :=
  (HeldBits.union_eq_zero (fun _ => rfl) _).symm

/-- **One event keeps the agreement exactly when it is no release of a shared button.** -/
theorem coherent_react_iff {zx : Bool} (pad : Joypad) (e : KeyboardEvent) (hidle : pad.ClosedIdle)
    (h : pad.Coherent zx) : (pad.react zx e).Coherent zx ↔ ¬SharedRelease zx pad e := by
  cases e with
  | byte byte =>
      rw [react_byte, SharedRelease]
      by_cases hopen : pad.kbOpen = true
      · rw [if_pos hopen, readByte]
        cases hup : releasedBy byte with
        | false => simpa using coherent_press h (keycodeOf byte)
        | true => simpa using coherent_release_iff h (keycodeOf byte)
      · -- Nothing is read from a closed keyboard, and none of its keys is down.
        rw [if_neg hopen]
        refine iff_of_true h ?_
        rintro ⟨-, -, other, -, hheld, -⟩
        simp [hidle (by simpa using hopen) other] at hheld
  | publish => exact iff_of_true h (by simp [SharedRelease])
  | gamepad player state => exact iff_of_true h (by simp [SharedRelease])
  | close => exact iff_of_true (coherent_close zx pad) (by simp [SharedRelease])

/-! ### The law of a run -/

/-- The law of a run: after each of its events the buttons are those of the keys that are down, and
there are none after a close. -/
def Lawful (zx kbOpen : Bool) (events : List KeyboardEvent) : Prop :=
  ∀ done, done <+: events →
    ((done.foldl (react zx) (initial kbOpen)).Coherent zx ∧
      (done.getLast? = some .close → (done.foldl (react zx) (initial kbOpen)).keyboardState = 0))

/-- After a close there are no buttons, whatever came before. -/
theorem keyboardState_of_close (zx : Bool) (pad : Joypad) {done : List KeyboardEvent}
    (h : done.getLast? = some .close) : (done.foldl (react zx) pad).keyboardState = 0 := by
  obtain ⟨before, rfl⟩ := List.getLast?_eq_some_iff.1 h
  rw [List.foldl_append]
  rfl

/-- **The buttons are right along a run exactly when no key comes up while another key of its button
is down.** -/
theorem buttons_lawful_iff (zx kbOpen : Bool) (events : List KeyboardEvent) :
    Lawful zx kbOpen events ↔
      Run.Each (react zx) (fun pad e => ¬SharedRelease zx pad e) (initial kbOpen) events := by
  rw [← Run.always_iff_each (closedIdle_react zx) (@coherent_react_iff zx)
    (closedIdle_initial kbOpen) (coherent_initial zx kbOpen), Run.always_iff]
  constructor
  · intro h done hdone
    exact (h done hdone).1
  · intro h done hdone
    exact ⟨h done hdone, fun hlast => keyboardState_of_close zx _ hlast⟩

/-- W and the arrow up are pressed, and W comes up: the arrow is down and the button is not. -/
theorem not_lawful_shared : ¬Lawful false true [.byte 0x11, .byte 0x67, .byte 0x91] := by
  intro h
  have hstate := (h _ (List.prefix_refl _)).1
  have hup : (heldButtons false ([.byte 0x11, .byte 0x67, .byte 0x91].foldl (react false)
      (initial true))).getLsbD 4 = true :=
    (HeldBits.getLsbD_union _ _ _).2 ⟨0x67, List.mem_finRange _, by decide, by decide⟩
  rw [← hstate] at hup
  exact absurd hup (by decide)

end Joypad

end NesDeck
