/-
**The keyboards of the menu.**

A keyboard reports its keys as a stream of events. The menu acts on a key at once, when it goes
down, and on the arrows also while they repeat; a tab goes to the next system, or with a shift key
to the previous one, so that the menu remembers both shift keys. After `SYN_DROPPED` the events up
to the next report are incomplete; the menu then asks the kernel for the keys that are down.

The events, the answers of the kernel and the reads are those of the game controllers.

Main definitions:

* `NesDeck.MenuKeyboards.MenuKeyboardDevice` — a keyboard;
* `NesDeck.MenuKeyboards.resynchronize`, `NesDeck.MenuKeyboards.drainDevice` — the functions of the
  class;
* `NesDeck.MenuKeyboards.Track`, `NesDeck.MenuKeyboards.Track.after` — what the kernel has said of
  all keys.

Main results:

* `NesDeck.MenuKeyboards.drainDevice_eq` — a drain is its events, however they are read;
* `NesDeck.MenuKeyboards.follows_drainAll` — the two flags follow the keys that are down;
* `NesDeck.MenuKeyboards.presses_law` — **a drain reports the keys that go down and the arrows that
  repeat, a tab with the shift keys that are down then, and nothing else**.
-/

import NesDeck.MenuGamepads

set_option relaxedAutoImplicit false
set_option autoImplicit false

namespace NesDeck.MenuKeyboards

open MenuLoop (kMenuPadConfirm kMenuPadBack kMenuPadUp kMenuPadDown kMenuPadLeft kMenuPadRight
  kMenuPadSystemPrevious kMenuPadSystemNext)
open MenuGamepads
  (InputEvent KernelState Arrival GamepadRead Commands EV_SYN EV_KEY SYN_REPORT delivered
  readable)

/-! ### Keys -/

def KEY_ESC : ℕ := 1
def KEY_TAB : ℕ := 15
def KEY_ENTER : ℕ := 28
def KEY_LEFTSHIFT : ℕ := 42
def KEY_RIGHTSHIFT : ℕ := 54
def KEY_KPENTER : ℕ := 96
def KEY_UP : ℕ := 103
def KEY_LEFT : ℕ := 105
def KEY_RIGHT : ℕ := 106
def KEY_DOWN : ℕ := 108

def menuKeyboardKeyToButton (code : ℕ) (shift : Bool) : Commands :=
  if code = KEY_ENTER ∨ code = KEY_KPENTER then BitVec.ofNat 32 kMenuPadConfirm
  else if code = KEY_ESC then BitVec.ofNat 32 kMenuPadBack
  else if code = KEY_UP then BitVec.ofNat 32 kMenuPadUp
  else if code = KEY_DOWN then BitVec.ofNat 32 kMenuPadDown
  else if code = KEY_LEFT then BitVec.ofNat 32 kMenuPadLeft
  else if code = KEY_RIGHT then BitVec.ofNat 32 kMenuPadRight
  else if code = KEY_TAB then
    BitVec.ofNat 32 (if shift = true then kMenuPadSystemPrevious else kMenuPadSystemNext)
  else 0

def menuKeyboardKeyRepeats (code : ℕ) : Bool :=
  code = KEY_UP ∨ code = KEY_DOWN ∨ code = KEY_LEFT ∨ code = KEY_RIGHT

/-- A key goes down, or it is one that repeats. -/
def acts (code : ℕ) (value : ℤ) : Bool := value = 1 ∨ value = 2 ∧ menuKeyboardKeyRepeats code = true

/-- `menu_keyboard_event_to_button`: the commands, and the two flags. -/
def menuKeyboardEventToButton (code : ℕ) (value : ℤ) (leftShift rightShift : Bool) :
    Commands × Bool × Bool :=
  if code = KEY_LEFTSHIFT then (0, decide (value ≠ 0), rightShift)
  else if code = KEY_RIGHTSHIFT then (0, leftShift, decide (value ≠ 0))
  else if acts code value = true then
    (menuKeyboardKeyToButton code (leftShift || rightShift), leftShift, rightShift)
  else (0, leftShift, rightShift)

/-- `menu_keyboard_capabilities`. -/
def menuKeyboardCapabilities (keys : ℕ → Bool) : Bool :=
  keys KEY_ENTER && keys KEY_ESC && keys KEY_TAB && keys KEY_UP && keys KEY_DOWN && keys KEY_LEFT &&
    keys KEY_RIGHT && (keys KEY_LEFTSHIFT || keys KEY_RIGHTSHIFT)

/-! ### A keyboard -/

/-- `MenuKeyboardDevice`, as far as its events need it. -/
structure MenuKeyboardDevice where
  leftShift : Bool
  rightShift : Bool
  droppingEvents : Bool
  deriving DecidableEq

/-- `resynchronize`, which is nothing where the kernel does not answer. -/
def resynchronize (kernel : Option KernelState) : Option MenuKeyboardDevice :=
  kernel.map fun kernel => ⟨kernel.keys KEY_LEFTSHIFT, kernel.keys KEY_RIGHTSHIFT, false⟩

/-- A keyboard that is not dropping events receives one. -/
def receive (keyboard : MenuKeyboardDevice) (pressed : Commands) (event : InputEvent) :
    MenuKeyboardDevice × Commands :=
  if event.isDropped = true then ({ keyboard with droppingEvents := true }, pressed)
  else if event.type ≠ EV_KEY then (keyboard, pressed)
  else
    let button :=
      menuKeyboardEventToButton event.code event.value keyboard.leftShift keyboard.rightShift
    ({ keyboard with leftShift := button.2.1, rightShift := button.2.2 }, pressed ||| button.1)

/-- A keyboard, the commands that are collected, and whether the drain goes on. -/
structure Drain where
  keyboard : MenuKeyboardDevice
  pressed : Commands
  alive : Bool

/-- The loop over the events of a `read`. -/
def drainEvents (keyboard : MenuKeyboardDevice) (pressed : Commands) : List Arrival → Drain
  | [] => ⟨keyboard, pressed, true⟩
  | arrival :: arrivals =>
      if keyboard.droppingEvents = true then
        if arrival.event.isReport = true then
          match resynchronize arrival.kernel with
          | none => ⟨keyboard, pressed, false⟩
          | some keyboard => drainEvents keyboard pressed arrivals
        else drainEvents keyboard pressed arrivals
      else
        let received := receive keyboard pressed arrival.event
        drainEvents received.1 received.2 arrivals

/-- `drain_device`; after the last outcome a `read` would block. -/
def drainDevice (keyboard : MenuKeyboardDevice) (pressed : Commands) : List GamepadRead → Drain
  | [] => ⟨keyboard, pressed, true⟩
  | .interrupted :: reads => drainDevice keyboard pressed reads
  | .failed :: _ => ⟨keyboard, pressed, false⟩
  | .events first rest :: reads =>
      let drain := drainEvents keyboard pressed (first :: rest)
      if drain.alive = true then drainDevice drain.keyboard drain.pressed reads else drain

/-- The keyboard after drains that go well. -/
def drainAll (keyboard : MenuKeyboardDevice) : List (List GamepadRead) → Option MenuKeyboardDevice
  | [] => some keyboard
  | reads :: drains =>
      let drain := drainDevice keyboard 0 reads
      if drain.alive = true then drainAll drain.keyboard drains else none

/-! ### What a stream means -/

/-- The keys that are down, unless events are missing. -/
inductive Track where
  | lost
  | known (keys : ℕ → Bool)

namespace Track

/-- One event; where events are missing the next report brings the answer of the kernel, if it has
one. -/
def next (track : Track) (arrival : Arrival) : Option Track :=
  match track with
  | lost =>
      if arrival.event.isReport = true then arrival.kernel.map fun kernel => known kernel.keys
      else some lost
  | known keys =>
      if arrival.event.isDropped = true then some lost
      else if arrival.event.type = EV_KEY then
        some (known (Function.update keys arrival.event.code (decide (arrival.event.value ≠ 0))))
      else some (known keys)

/-- The commands of an event. -/
def presses (track : Track) (event : InputEvent) : Commands :=
  match track with
  | lost => 0
  | known keys =>
      if event.type = EV_KEY ∧ acts event.code event.value = true then
        menuKeyboardKeyToButton event.code (keys KEY_LEFTSHIFT || keys KEY_RIGHTSHIFT)
      else 0

/-- What is known after a number of events, unless the kernel does not answer. -/
def after (track : Track) : List Arrival → Option Track
  | [] => some track
  | arrival :: arrivals => (track.next arrival).bind fun track => track.after arrivals

/-- The commands of a number of events. -/
def collect (track : Track) : List Arrival → Commands
  | [] => 0
  | arrival :: arrivals =>
      track.presses arrival.event |||
        ((track.next arrival).map fun track => track.collect arrivals).getD 0

theorem after_append (track : Track) (first second : List Arrival) :
    track.after (first ++ second) = (track.after first).bind fun track => track.after second := by
  induction first generalizing track with
  | nil => rfl
  | cons arrival first ih =>
      rw [List.cons_append, after, after, Option.bind_assoc]
      exact congrArg _ (funext ih)

/-- A command is collected exactly if one of the events stands for it. -/
theorem getLsbD_collect (track : Track) (arrivals : List Arrival) (i : ℕ) :
    (track.collect arrivals).getLsbD i = true ↔
      ∃ before arrival later track', arrivals = before ++ arrival :: later ∧
        track.after before = some track' ∧ (track'.presses arrival.event).getLsbD i = true := by
  induction arrivals generalizing track with
  | nil => simp [collect]
  | cons first arrivals ih =>
      rw [collect, BitVec.getLsbD_or, Bool.or_eq_true]
      constructor
      · rintro (hfirst | hlater)
        · exact ⟨[], first, arrivals, track, rfl, rfl, hfirst⟩
        · cases hnext : track.next first with
          | none => simp [hnext] at hlater
          | some track' =>
              rw [hnext, Option.map_some, Option.getD_some, ih] at hlater
              obtain ⟨before, arrival, later, track'', rfl, hafter, hpresses⟩ := hlater
              refine ⟨first :: before, arrival, later, track'', rfl, ?_, hpresses⟩
              rw [after, hnext]
              exact hafter
      · rintro ⟨before, arrival, later, track', hsplit, hafter, hpresses⟩
        cases before with
        | nil =>
            cases hsplit
            cases hafter
            exact Or.inl hpresses
        | cons head before =>
            cases hsplit
            obtain ⟨track'', hnext, hafter⟩ := Option.bind_eq_some_iff.1 hafter
            refine Or.inr ?_
            rw [hnext, Option.map_some, Option.getD_some, ih]
            exact ⟨before, arrival, later, track', rfl, hafter, hpresses⟩

end Track

/-! ### A drain -/

/-- The flags of a keyboard say what is known. -/
def Follows (keyboard : MenuKeyboardDevice) : Track → Prop
  | .lost => keyboard.droppingEvents = true
  | .known keys => keyboard = ⟨keys KEY_LEFTSHIFT, keys KEY_RIGHTSHIFT, false⟩

/-- The kernel is believed. -/
theorem follows_resynchronize {kernel : Option KernelState} {keyboard : MenuKeyboardDevice}
    (h : resynchronize kernel = some keyboard) :
    ∃ answers, kernel = some answers ∧ Follows keyboard (.known answers.keys) := by
  obtain ⟨answers, hkernel, rfl⟩ := Option.map_eq_some_iff.1 h
  exact ⟨answers, hkernel, rfl⟩

/-- No shift key stands for a command. -/
theorem menuKeyboardKeyToButton_shift (shift : Bool) :
    menuKeyboardKeyToButton KEY_LEFTSHIFT shift = 0 ∧
      menuKeyboardKeyToButton KEY_RIGHTSHIFT shift = 0 :=
  ⟨rfl, rfl⟩

/-- A key: the command it stands for, and the two flags. -/
theorem menuKeyboardEventToButton_eq (keys : ℕ → Bool) (code : ℕ) (value : ℤ) :
    menuKeyboardEventToButton code value (keys KEY_LEFTSHIFT) (keys KEY_RIGHTSHIFT) =
      (if acts code value = true then
          menuKeyboardKeyToButton code (keys KEY_LEFTSHIFT || keys KEY_RIGHTSHIFT) else 0,
        Function.update keys code (decide (value ≠ 0)) KEY_LEFTSHIFT,
        Function.update keys code (decide (value ≠ 0)) KEY_RIGHTSHIFT) := by
  rw [menuKeyboardEventToButton]
  by_cases hleft : code = KEY_LEFTSHIFT
  · subst hleft
    rw [if_pos rfl, (menuKeyboardKeyToButton_shift _).1, ite_self, Function.update_self,
      Function.update_of_ne (by decide)]
  rw [if_neg hleft]
  by_cases hright : code = KEY_RIGHTSHIFT
  · subst hright
    rw [if_pos rfl, (menuKeyboardKeyToButton_shift _).2, ite_self, Function.update_self,
      Function.update_of_ne (by decide)]
  rw [if_neg hright, Function.update_of_ne (Ne.symm hleft), Function.update_of_ne (Ne.symm hright)]
  split
  · rfl
  · rfl

/-- An event that is heard. -/
theorem receive_eq {keyboard : MenuKeyboardDevice} {keys : ℕ → Bool}
    (h : Follows keyboard (.known keys)) (pressed : Commands) (arrival : Arrival) :
    (receive keyboard pressed arrival.event).2 =
        pressed ||| (Track.known keys).presses arrival.event ∧
      ∃ track', (Track.known keys).next arrival = some track' ∧
        Follows (receive keyboard pressed arrival.event).1 track' := by
  obtain rfl : keyboard = _ := h
  rw [receive, Track.next, Track.presses]
  cases hdropped : arrival.event.isDropped with
  | true =>
      -- The event is of the type `EV_SYN`, so that it stands for no command.
      have htype : ¬ (arrival.event.type = EV_KEY ∧
          acts arrival.event.code arrival.event.value = true) := by
        rw [InputEvent.isDropped, decide_eq_true_eq] at hdropped
        rw [hdropped.1]
        rintro ⟨hkey, -⟩
        cases hkey
      rw [if_pos rfl, if_pos rfl, if_neg htype]
      exact ⟨BitVec.or_zero.symm, _, rfl, rfl⟩
  | false =>
      rw [if_neg Bool.false_ne_true, if_neg Bool.false_ne_true]
      by_cases htype : arrival.event.type = EV_KEY
      · simp only [htype, ne_eq, not_true_eq_false, if_false, if_true, true_and,
          menuKeyboardEventToButton_eq]
        exact ⟨_, rfl, rfl⟩
      · simp only [htype, ne_eq, not_false_eq_true, if_true, if_false, false_and]
        exact ⟨BitVec.or_zero.symm, _, rfl, rfl⟩

/-- **A drain follows its events**, and ends when the kernel does not answer. -/
theorem drainEvents_spec {keyboard : MenuKeyboardDevice} {track : Track}
    (h : Follows keyboard track) (pressed : Commands) (arrivals : List Arrival) :
    (drainEvents keyboard pressed arrivals).pressed = pressed ||| track.collect arrivals ∧
      ((drainEvents keyboard pressed arrivals).alive = true →
        ∃ track', track.after arrivals = some track' ∧
          Follows (drainEvents keyboard pressed arrivals).keyboard track') := by
  induction arrivals generalizing keyboard track pressed with
  | nil => exact ⟨BitVec.or_zero.symm, fun _ => ⟨track, rfl, h⟩⟩
  | cons arrival arrivals ih =>
      rw [drainEvents, Track.collect, Track.after]
      cases track with
      | lost =>
          have hdropping : keyboard.droppingEvents = true := h
          rw [if_pos hdropping, Track.next, Track.presses]
          split
          · next hreport =>
              cases hresult : resynchronize arrival.kernel with
              | none =>
                  rw [resynchronize, Option.map_eq_none_iff] at hresult
                  rw [hresult]
                  refine ⟨?_, fun halive => by cases halive⟩
                  simp
              | some keyboard' =>
                  obtain ⟨answers, hkernel, hfollows⟩ := follows_resynchronize hresult
                  obtain ⟨hpressed, halive⟩ := ih hfollows pressed
                  rw [hkernel]
                  refine ⟨?_, halive⟩
                  rw [hpressed]
                  simp
          · obtain ⟨hpressed, halive⟩ := ih h pressed
            refine ⟨?_, halive⟩
            rw [hpressed]
            simp
      | known keys =>
          have hdropping : keyboard.droppingEvents = false := by
            obtain rfl : keyboard = _ := h
            rfl
          obtain ⟨hreceived, track', hnext, hfollows⟩ := receive_eq h pressed arrival
          rw [if_neg (by rw [hdropping]; exact Bool.false_ne_true), hnext]
          obtain ⟨hpressed, halive⟩ := ih hfollows (receive keyboard pressed arrival.event).2
          refine ⟨?_, halive⟩
          rw [hpressed, hreceived, Option.map_some, Option.getD_some, BitVec.or_assoc]

theorem drainEvents_append (keyboard : MenuKeyboardDevice) (pressed : Commands)
    (first second : List Arrival) :
    drainEvents keyboard pressed (first ++ second) =
      if (drainEvents keyboard pressed first).alive = true then
        drainEvents (drainEvents keyboard pressed first).keyboard
          (drainEvents keyboard pressed first).pressed second
      else drainEvents keyboard pressed first := by
  induction first generalizing keyboard pressed with
  | nil => rfl
  | cons arrival first ih =>
      rw [List.cons_append, drainEvents, drainEvents]
      by_cases hdropping : keyboard.droppingEvents = true
      · simp only [if_pos hdropping]
        by_cases hreport : arrival.event.isReport = true
        · simp only [if_pos hreport]
          cases resynchronize arrival.kernel with
          | none => rfl
          | some keyboard' => exact ih keyboard' pressed
        · simp only [if_neg hreport]
          exact ih keyboard pressed
      · simp only [if_neg hdropping]
        exact ih _ _

/-- **A drain is its events, however they are read.** -/
theorem drainDevice_eq (keyboard : MenuKeyboardDevice) (pressed : Commands)
    (reads : List GamepadRead) :
    drainDevice keyboard pressed reads =
      { drainEvents keyboard pressed (delivered reads) with
        alive := (drainEvents keyboard pressed (delivered reads)).alive && readable reads } := by
  induction reads generalizing keyboard pressed with
  | nil => rfl
  | cons read reads ih =>
      cases read with
      | interrupted => exact ih keyboard pressed
      | failed => rfl
      | events first rest =>
          rw [drainDevice, delivered, readable, drainEvents_append]
          dsimp only
          by_cases halive : (drainEvents keyboard pressed (first :: rest)).alive = true
          · rw [if_pos halive, if_pos halive]
            exact ih _ _
          · rw [if_neg halive, if_neg halive, Bool.eq_false_of_not_eq_true halive, Bool.false_and]
            rw [← Bool.eq_false_of_not_eq_true halive]

/-- Drains that go well follow their events, one after the other. -/
theorem follows_drainAll {start keyboard : MenuKeyboardDevice} {track : Track}
    (h : Follows start track)
    {drains : List (List GamepadRead)} (hdrains : drainAll start drains = some keyboard) :
    ∃ track', track.after (drains.flatMap delivered) = some track' ∧ Follows keyboard track' := by
  induction drains generalizing start track with
  | nil =>
      cases hdrains
      exact ⟨track, rfl, h⟩
  | cons reads drains ih =>
      rw [drainAll] at hdrains
      split at hdrains
      · next halive =>
          rw [drainDevice_eq, Bool.and_eq_true] at halive
          rw [drainDevice_eq] at hdrains
          obtain ⟨track', hafter, hfollows⟩ := (drainEvents_spec h 0 (delivered reads)).2 halive.1
          obtain ⟨track'', hlater, hlast⟩ := ih hfollows hdrains
          rw [List.flatMap_cons]
          refine ⟨track'', ?_, hlast⟩
          rw [Track.after_append, hafter]
          exact hlater
      · cases hdrains

/-- **A drain reports the keys that go down and the arrows that repeat**, a tab with the shift keys
that are down at that time, and nothing else: also where events were lost before, and however the
events are read. -/
theorem presses_law {start keyboard : MenuKeyboardDevice} {keys : ℕ → Bool}
    (hstart : Follows start (.known keys)) {earlier : List (List GamepadRead)}
    (hearlier : drainAll start earlier = some keyboard) (reads : List GamepadRead) (i : ℕ) :
    (drainDevice keyboard 0 reads).pressed.getLsbD i = true ↔
      ∃ before arrival later down, delivered reads = before ++ arrival :: later ∧
        (Track.known keys).after (earlier.flatMap delivered ++ before) = some (.known down) ∧
          arrival.event.type = EV_KEY ∧ acts arrival.event.code arrival.event.value = true ∧
            (menuKeyboardKeyToButton arrival.event.code
              (down KEY_LEFTSHIFT || down KEY_RIGHTSHIFT)).getLsbD i = true := by
  obtain ⟨track, hafter, hfollows⟩ := follows_drainAll hstart hearlier
  rw [drainDevice_eq, (drainEvents_spec hfollows 0 (delivered reads)).1, BitVec.ofNat_eq_ofNat,
    BitVec.zero_or, Track.getLsbD_collect]
  constructor
  · rintro ⟨before, arrival, later, track', hsplit, hbefore, hpresses⟩
    cases track' with
    | lost => simp [Track.presses] at hpresses
    | known down =>
        rw [Track.presses] at hpresses
        split at hpresses
        · next hacts =>
            refine ⟨before, arrival, later, down, hsplit, ?_, hacts.1, hacts.2, hpresses⟩
            rw [Track.after_append, hafter]
            exact hbefore
        · simp at hpresses
  · rintro ⟨before, arrival, later, down, hsplit, hbefore, htype, hacts, hbutton⟩
    rw [Track.after_append, hafter] at hbefore
    refine ⟨before, arrival, later, .known down, hsplit, hbefore, ?_⟩
    rw [Track.presses, if_pos ⟨htype, hacts⟩]
    exact hbutton

/-- The kernel says that the left shift key is down. -/
def shiftDown : KernelState := ⟨⟨0, 0, 0⟩, ⟨0, 0, 0⟩, fun code => code = KEY_LEFTSHIFT⟩

/-- Events are lost in one drain, and a tab comes in the next one. -/
theorem presses_law_tab :
    ∃ before arrival later down,
      [⟨⟨EV_KEY, KEY_TAB, 1⟩, none⟩] = before ++ arrival :: later ∧
        (Track.known fun _ => false).after
            ([⟨⟨EV_SYN, MenuGamepads.SYN_DROPPED, 0⟩, none⟩,
              ⟨⟨EV_SYN, SYN_REPORT, 0⟩, some shiftDown⟩] ++ before) = some (.known down) ∧
          arrival.event.type = EV_KEY ∧ acts arrival.event.code arrival.event.value = true ∧
            (menuKeyboardKeyToButton arrival.event.code
              (down KEY_LEFTSHIFT || down KEY_RIGHTSHIFT)).getLsbD 6 = true := by
  have hpressed : (drainDevice ⟨true, false, false⟩ 0
      [.events ⟨⟨EV_KEY, KEY_TAB, 1⟩, none⟩ []]).pressed.getLsbD 6 = true := by decide
  exact (@presses_law ⟨false, false, false⟩ ⟨true, false, false⟩ (fun _ => false) rfl
    [[.events ⟨⟨EV_SYN, MenuGamepads.SYN_DROPPED, 0⟩, none⟩
      [⟨⟨EV_SYN, SYN_REPORT, 0⟩, some shiftDown⟩]]] rfl
    [.events ⟨⟨EV_KEY, KEY_TAB, 1⟩, none⟩ []] 6).1 hpressed

end NesDeck.MenuKeyboards
