/-
**Three readers of one touch screen.**

The menu, the ten-seconds game and the chiptune player read the same touch screen with three loops
of their own. All of them go without the events of a window that `SYN_DROPPED` opens. The first two
then ask the kernel for the state of the device; `drain_touch` of `chiptune_deck.cpp` goes on with
the contact and the place that it had before the window, and takes the contact for reported. (The
controllers of the same program are asked again.) Here the readers run side by side on one stream,
and their presses are compared after every event.

Main definitions:

* `NesDeck.TenSecondsTouch.handleEvent`, `NesDeck.ChiptuneTouch.handleEvent` — the loops of
  `read_presses` and `drain_touch`;
* `NesDeck.TouchReaders`, `NesDeck.TouchReaders.Agree` — the three readers, with equal presses;
* `NesDeck.TouchReaders.Undeceived` — the condition on an event.

Main results:

* `NesDeck.TouchReaders.aligned_react` — what the three always have in common;
* `NesDeck.TouchReaders.agree_react_iff` — one event keeps the presses equal exactly under the
  condition;
* `NesDeck.TouchReaders.presses_agree_iff` — **the presses agree all along a stream exactly if all
  its events meet the condition**;
* `NesDeck.TouchReaders.calls_agree` — the calls of the three functions return the same presses
  then, and `drain_touch` the commands of these presses.
-/

import NesDeck.TouchReader

set_option relaxedAutoImplicit false
set_option autoImplicit false

namespace NesDeck

/-- `TouchPress`: the place of a fresh press. -/
structure TouchPress where
  x : ℤ
  y : ℤ
  deriving DecidableEq

/-- The fresh presses among the reports of the menu. -/
def freshPresses (reports : List TouchReport) : List TouchPress :=
  (reports.filter TouchReport.pressed).map fun report => ⟨report.x, report.y⟩

/-! ### The ten-seconds game -/

/-- `TouchDevice` of the ten-seconds game. -/
structure TenSecondsTouch where
  x : ℤ
  y : ℤ
  down : Bool
  reportedDown : Bool
  dropping : Bool

namespace TenSecondsTouch

/-- `discover`, once the device is found; the place is not clamped. -/
def discover (opening : Opening) : TenSecondsTouch where
  x := opening.x
  y := opening.y
  down := opening.down.getD false
  reportedDown := opening.down.getD false
  dropping := false

def resynchronize (self : TenSecondsTouch) (answer : TouchAnswer) : TenSecondsTouch :=
  { self with
    x := (answer.x.map clampX).getD self.x
    y := (answer.y.map clampY).getD self.y
    down := answer.down.getD self.down }

/-- The press that is pushed at the end of a frame. -/
def press (self : TenSecondsTouch) : List TouchPress :=
  if self.down = true ∧ self.reportedDown = false then [⟨self.x, self.y⟩] else []

/-- The body of the inner loop of `read_presses`. -/
def handleEvent (state : TenSecondsTouch × List TouchPress) (event : InputEvent) :
    TenSecondsTouch × List TouchPress :=
  let (self, presses) := state
  if event.Is EV_SYN SYN_DROPPED then ({ self with dropping := true }, presses)
  else if self.dropping = true then
    if event.Is EV_SYN SYN_REPORT then
      let self := self.resynchronize event.answer
      ({ self with reportedDown := self.down, dropping := false }, presses ++ self.press)
    else state
  else if event.Is EV_ABS ABS_X then ({ self with x := clampX event.value }, presses)
  else if event.Is EV_ABS ABS_Y then ({ self with y := clampY event.value }, presses)
  else if event.Is EV_KEY BTN_TOUCH then
    ({ self with down := decide (event.value ≠ 0) }, presses)
  else if event.Is EV_SYN SYN_REPORT then
    ({ self with reportedDown := self.down }, presses ++ self.press)
  else state

/-- The message of `read_presses`, unless it succeeds. -/
def message : Ending → Option String
  | .wouldBlock => none
  | .failed reason => some ("touchscreen read failed: " ++ reason)
  | .disconnected => some "touchscreen disconnected or returned a partial event"
  | .partialEvent => some "touchscreen disconnected or returned a partial event"

/-- `read_presses`: the device, the presses, and the error. -/
def readPresses (self : TenSecondsTouch) (reads : List ReadResult) :
    TenSecondsTouch × List TouchPress × Option String :=
  let (state, ending) := drain handleEvent (self, []) reads
  (state.1, state.2, message ending)

end TenSecondsTouch

/-! ### The chiptune player -/

def controlNone : ℕ := 0
def controlBack : ℕ := 1
def controlPreviousFile : ℕ := 2
def controlNextFile : ℕ := 4
def controlTogglePause : ℕ := 8
def controlCyclePlaybackMode : ℕ := 256

/-- The buttons, in the order in which they are tried: the left and the upper edge, the width and
the height. -/
def chiptuneButtons : List ((ℤ × ℤ × ℤ × ℤ) × ℕ) :=
  [((554, 3, 62, 34), controlBack),
   ((215, 177, 92, 34), controlPreviousFile),
   ((317, 177, 92, 34), controlTogglePause),
   ((419, 177, 92, 34), controlNextFile),
   ((113, 177, 92, 34), controlCyclePlaybackMode)]

/-- `touch_command`. -/
def touchCommand (place : TouchPress) : ℕ :=
  let x := (place.x - 16).tdiv 2
  let y := (place.y - 16).tdiv 2
  let button := chiptuneButtons.find? fun ((left, top, width, height), _) =>
    left ≤ x ∧ x < left + width ∧ top ≤ y ∧ y < top + height
  (button.map Prod.snd).getD controlNone

/-- The touch screen of the chiptune player. -/
structure ChiptuneTouch where
  x : ℤ
  y : ℤ
  down : Bool
  reported : Bool
  dropping : Bool

namespace ChiptuneTouch

/-- `discover`, once the device is found; whether it is touched is not asked. -/
def discover (opening : Opening) : ChiptuneTouch where
  x := opening.x
  y := opening.y
  down := false
  reported := false
  dropping := false

/-- The press at the end of a frame. -/
def press (self : ChiptuneTouch) : List TouchPress :=
  if self.down = true ∧ self.reported = false then [⟨self.x, self.y⟩] else []

/-- The body of the inner loop of `drain_touch`. -/
def handleEvent (state : ChiptuneTouch × List TouchPress) (event : InputEvent) :
    ChiptuneTouch × List TouchPress :=
  let (self, presses) := state
  if event.Is EV_SYN SYN_DROPPED then ({ self with dropping := true }, presses)
  else if self.dropping = true then
    if event.Is EV_SYN SYN_REPORT then
      ({ self with dropping := false, reported := self.down }, presses)
    else state
  else if event.Is EV_ABS ABS_X then ({ self with x := clampX event.value }, presses)
  else if event.Is EV_ABS ABS_Y then ({ self with y := clampY event.value }, presses)
  else if event.Is EV_KEY BTN_TOUCH then
    ({ self with down := decide (event.value ≠ 0) }, presses)
  else if event.Is EV_SYN SYN_REPORT then
    ({ self with reported := self.down }, presses ++ self.press)
  else state

/-- The commands of some presses come to those that were given before. -/
def commandsOf (commands : ℕ) (presses : List TouchPress) : ℕ :=
  presses.foldl (fun commands place => commands ||| touchCommand place) commands

/-- `drain_touch`: the device, and the commands with those of the presses. -/
def drainTouch (self : ChiptuneTouch) (commands : ℕ) (reads : List ReadResult) :
    ChiptuneTouch × ℕ :=
  let (state, _) := drain handleEvent (self, []) reads
  (state.1, commandsOf commands state.2)

end ChiptuneTouch

/-! ### Side by side -/

/-- The three readers, with what they have recognised so far. -/
structure TouchReaders where
  menu : TouchDevice × List TouchReport
  tenSeconds : TenSecondsTouch × List TouchPress
  chiptune : ChiptuneTouch × List TouchPress

namespace TouchReaders

def discover (opening : Opening) : TouchReaders where
  menu := (TouchDevice.discover opening, [])
  tenSeconds := (TenSecondsTouch.discover opening, [])
  chiptune := (ChiptuneTouch.discover opening, [])

def react (self : TouchReaders) (event : InputEvent) : TouchReaders where
  menu := TouchDevice.handleEvent self.menu event
  tenSeconds := TenSecondsTouch.handleEvent self.tenSeconds event
  chiptune := ChiptuneTouch.handleEvent self.chiptune event

/-- All have recognised the same presses. -/
def Agree (self : TouchReaders) : Prop :=
  self.tenSeconds.2 = freshPresses self.menu.2 ∧ self.chiptune.2 = freshPresses self.menu.2

instance (self : TouchReaders) : Decidable self.Agree := inferInstanceAs (Decidable (_ ∧ _))

/-- All take the finger to be at the same place. -/
def SamePlace (self : TouchReaders) : Prop :=
  (self.tenSeconds.1.x = self.menu.1.x ∧ self.tenSeconds.1.y = self.menu.1.y) ∧
    self.chiptune.1.x = self.menu.1.x ∧ self.chiptune.1.y = self.menu.1.y

/-- The condition on an event. A window does not close with a finger on the screen that was reported
up before it. Where a frame ends with the finger down, and the events outside windows say so too,
these events also had the finger right at the report before; if it was up there, they name the
place. -/
def Undeceived (self : TouchReaders) (event : InputEvent) : Prop :=
  event.Is EV_SYN SYN_REPORT →
    if self.menu.1.droppingEvents = true then
      ¬(event.answer.down.getD self.menu.1.currentDown = true ∧ self.menu.1.reportedDown = false)
    else
      self.menu.1.currentDown = true → self.chiptune.1.down = true →
        self.chiptune.1.reported = self.menu.1.reportedDown ∧
          (self.menu.1.reportedDown = false → self.SamePlace)

/-- What the three always have in common.  Between two reports the chiptune player knows the contact
as soon as an event tells it. -/
structure Aligned (readers : TouchReaders) : Prop where
  tenDropping : readers.tenSeconds.1.dropping = readers.menu.1.droppingEvents
  tenDown : readers.tenSeconds.1.down = readers.menu.1.currentDown
  tenReported : readers.tenSeconds.1.reportedDown = readers.menu.1.reportedDown
  dropping : readers.chiptune.1.dropping = readers.menu.1.droppingEvents
  contact : readers.chiptune.1.down = readers.menu.1.currentDown ∨
    (readers.menu.1.currentDown = readers.menu.1.reportedDown ∧
      readers.chiptune.1.down = readers.chiptune.1.reported)

/-- A press is compared by its place. -/
def pressOf (fresh : Bool) (x y : ℤ) : List TouchPress := if fresh = true then [⟨x, y⟩] else []

/-- The fresh press that the menu reports for an event. -/
def menuPress (self : TouchDevice) (event : InputEvent) : List TouchPress :=
  if event.Is EV_SYN SYN_REPORT then
    let self := if self.droppingEvents = true then self.resynchronize event.answer else self
    pressOf self.report.pressed self.x self.y
  else []

def tenSecondsPress (self : TenSecondsTouch) (event : InputEvent) : List TouchPress :=
  if event.Is EV_SYN SYN_REPORT then
    if self.dropping = true then (self.resynchronize event.answer).press else self.press
  else []

def chiptunePress (self : ChiptuneTouch) (event : InputEvent) : List TouchPress :=
  if event.Is EV_SYN SYN_REPORT ∧ self.dropping = false then self.press else []

theorem freshPresses_append (reports : List TouchReport) (report : TouchReport) :
    freshPresses (reports ++ [report]) =
      freshPresses reports ++ pressOf report.pressed report.x report.y := by
  rw [freshPresses, freshPresses, List.filter_append, List.map_append, pressOf]
  cases hpressed : report.pressed with
  | true => rw [List.filter_cons_of_pos hpressed]; rfl
  | false => rw [List.filter_cons_of_neg (by simp [hpressed])]; rfl

/-- The presses of the menu after an event. -/
theorem menu_presses (self : TouchDevice) (reports : List TouchReport) (event : InputEvent) :
    freshPresses (TouchDevice.handleEvent (self, reports) event).2 =
      freshPresses reports ++ menuPress self event := by
  by_cases hreport : event.Is EV_SYN SYN_REPORT
  · have hpress : menuPress self event = _ := if_pos hreport
    obtain ⟨hlost, hx, hy, htouch⟩ := hreport.only_report
    rw [hpress, TouchDevice.handleEvent]
    dsimp only
    cases hdropping : self.droppingEvents with
    | true =>
        rw [if_pos rfl, if_pos rfl, if_pos hreport]
        exact freshPresses_append reports _
    | false =>
        rw [if_neg Bool.false_ne_true, if_neg Bool.false_ne_true,
          if_neg hlost, if_neg hx, if_neg hy, if_neg htouch, if_pos hreport]
        exact freshPresses_append reports _
  · have hpress : menuPress self event = [] := if_neg hreport
    rw [hpress, List.append_nil, TouchDevice.handleEvent]
    dsimp only
    rw [if_neg hreport, if_neg hreport]
    split
    · rfl
    split
    · rfl
    split
    · rfl
    split
    · rfl
    split
    · rfl
    · rfl

theorem tenSeconds_presses (self : TenSecondsTouch) (presses : List TouchPress)
    (event : InputEvent) :
    (TenSecondsTouch.handleEvent (self, presses) event).2 =
      presses ++ tenSecondsPress self event := by
  by_cases hreport : event.Is EV_SYN SYN_REPORT
  · have hpress : tenSecondsPress self event = _ := if_pos hreport
    obtain ⟨hlost, hx, hy, htouch⟩ := hreport.only_report
    rw [hpress, TenSecondsTouch.handleEvent]
    dsimp only
    rw [if_neg hlost]
    cases hdropping : self.dropping with
    | true => rw [if_pos rfl, if_pos rfl, if_pos hreport]
    | false =>
        rw [if_neg Bool.false_ne_true, if_neg Bool.false_ne_true,
          if_neg hx, if_neg hy, if_neg htouch, if_pos hreport]
  · have hpress : tenSecondsPress self event = [] := if_neg hreport
    rw [hpress, List.append_nil, TenSecondsTouch.handleEvent]
    dsimp only
    rw [if_neg hreport, if_neg hreport]
    split
    · rfl
    split
    · rfl
    split
    · rfl
    split
    · rfl
    split
    · rfl
    · rfl

theorem chiptune_presses (self : ChiptuneTouch) (presses : List TouchPress) (event : InputEvent) :
    (ChiptuneTouch.handleEvent (self, presses) event).2 = presses ++ chiptunePress self event := by
  by_cases hreport : event.Is EV_SYN SYN_REPORT
  · obtain ⟨hlost, hx, hy, htouch⟩ := hreport.only_report
    rw [chiptunePress, ChiptuneTouch.handleEvent]
    rw [if_neg hlost]
    cases hdropping : self.dropping with
    | true =>
        rw [if_pos rfl, if_pos hreport, if_neg (fun h => absurd h.2 (by decide)), List.append_nil]
    | false =>
        rw [if_neg Bool.false_ne_true, if_neg hx, if_neg hy, if_neg htouch, if_pos hreport,
          if_pos ⟨hreport, rfl⟩]
  · have hpress : chiptunePress self event = [] := if_neg fun h => hreport h.1
    rw [hpress, List.append_nil, ChiptuneTouch.handleEvent]
    rw [if_neg hreport, if_neg hreport]
    split
    · rfl
    split
    · rfl
    split
    · rfl
    split
    · rfl
    split
    · rfl
    · rfl

/-- The presses stay equal if the new ones are. -/
theorem agree_react {self : TouchReaders} (h : self.Agree) (event : InputEvent) :
    (self.react event).Agree ↔
      tenSecondsPress self.tenSeconds.1 event = menuPress self.menu.1 event ∧
        chiptunePress self.chiptune.1 event = menuPress self.menu.1 event := by
  obtain ⟨⟨menu, reports⟩, ⟨ten, tenPresses⟩, ⟨chiptune, chiptunePresses⟩⟩ := self
  obtain ⟨hten, hchiptune⟩ := h
  dsimp only at hten hchiptune
  rw [Agree, react]
  dsimp only
  rw [menu_presses, tenSeconds_presses, chiptune_presses, hten, hchiptune,
    List.append_cancel_left_eq,
    List.append_cancel_left_eq]

/-! ### One event -/

/-- **What the three have in common stays so.** -/
theorem aligned_react {self : TouchReaders} (h : Aligned self) (event : InputEvent) :
    Aligned (self.react event) := by
  obtain ⟨⟨menu, reports⟩, ⟨ten, tenPresses⟩, ⟨chiptune, chiptunePresses⟩⟩ := self
  obtain ⟨htenDropping, htenDown, htenReported, hdropping, hcontact⟩ := h
  dsimp only at htenDropping htenDown htenReported hdropping hcontact
  rw [react, TouchDevice.handleEvent, TenSecondsTouch.handleEvent, ChiptuneTouch.handleEvent]
  dsimp only
  rw [htenDropping, hdropping]
  by_cases hreport : event.Is EV_SYN SYN_REPORT
  · -- After a report every reader has reported the contact it knows.
    obtain ⟨hlost, hx, hy, htouch⟩ := hreport.only_report
    simp only [hreport, hlost, hx, hy, htouch, if_true, if_false]
    cases menu.droppingEvents with
    | true =>
        refine ⟨rfl, ?_, ?_, rfl, Or.inr ⟨rfl, rfl⟩⟩
        · simp only [if_true, TenSecondsTouch.resynchronize, TouchDevice.resynchronize, htenDown]
        · simp only [if_true, TenSecondsTouch.resynchronize, TouchDevice.resynchronize, htenDown]
    | false => exact ⟨rfl, htenDown, htenDown, rfl, Or.inr ⟨rfl, rfl⟩⟩
  · simp only [hreport, if_false]
    by_cases hdropped : event.Is EV_SYN SYN_DROPPED
    · simp only [hdropped, if_true]
      cases hwindow : menu.droppingEvents with
      | true => exact ⟨hwindow.symm, htenDown, htenReported, hwindow.symm, hcontact⟩
      | false => exact ⟨rfl, htenDown, htenReported, rfl, hcontact⟩
    simp only [hdropped, if_false]
    cases hwindow : menu.droppingEvents with
    | true =>
        exact ⟨htenDropping, htenDown, htenReported, hdropping, hcontact⟩
    | false =>
        simp only [Bool.false_eq_true, if_false]
        by_cases hx : event.Is EV_ABS ABS_X
        · simp only [hx, if_true]
          exact ⟨rfl, htenDown, htenReported, rfl, hcontact⟩
        by_cases hy : event.Is EV_ABS ABS_Y
        · simp only [hx, hy, if_true, if_false]
          exact ⟨rfl, htenDown, htenReported, rfl, hcontact⟩
        by_cases htouch : event.Is EV_KEY BTN_TOUCH
        · simp only [hx, hy, htouch, if_true, if_false]
          exact ⟨rfl, rfl, htenReported, rfl, Or.inl rfl⟩
        · simp only [hx, hy, htouch, if_false]
          exact ⟨htenDropping, htenDown, htenReported, hdropping, hcontact⟩

section

variable {readers : TouchReaders} {event : InputEvent}

/-- At the end of a window the chiptune player recognises nothing. -/
theorem presses_window_iff (h : Aligned readers) (hwindow : readers.menu.1.droppingEvents = true)
    (hreport : event.Is EV_SYN SYN_REPORT) :
    (tenSecondsPress readers.tenSeconds.1 event = menuPress readers.menu.1 event ∧
        chiptunePress readers.chiptune.1 event = menuPress readers.menu.1 event) ↔
      ¬(event.answer.down.getD readers.menu.1.currentDown = true ∧
        readers.menu.1.reportedDown = false) := by
  have hmenu : menuPress readers.menu.1 event =
      pressOf (readers.menu.1.resynchronize event.answer).report.pressed
        (readers.menu.1.resynchronize event.answer).x
        (readers.menu.1.resynchronize event.answer).y := by
    rw [menuPress, if_pos hreport, if_pos hwindow]
  have hten : tenSecondsPress readers.tenSeconds.1 event =
      (readers.tenSeconds.1.resynchronize event.answer).press := by
    rw [tenSecondsPress, if_pos hreport, if_pos (h.tenDropping.trans hwindow)]
  have hchiptune : chiptunePress readers.chiptune.1 event = [] := by
    rw [chiptunePress, if_neg]
    rintro ⟨-, hnot⟩
    rw [h.dropping, hwindow] at hnot
    cases hnot
  have hpressed : (readers.menu.1.resynchronize event.answer).report.pressed =
      (event.answer.down.getD readers.menu.1.currentDown && !readers.menu.1.reportedDown) := rfl
  rw [hmenu, hten, hchiptune, hpressed, TenSecondsTouch.press, TenSecondsTouch.resynchronize]
  dsimp only
  rw [h.tenDown, h.tenReported]
  cases event.answer.down.getD readers.menu.1.currentDown with
  | false => exact iff_of_true ⟨rfl, rfl⟩ fun hnot => Bool.false_ne_true hnot.1
  | true =>
      cases readers.menu.1.reportedDown with
      | true => exact iff_of_true ⟨rfl, rfl⟩ fun hnot => Bool.false_ne_true hnot.2.symm
      | false =>
          exact iff_of_false (fun hboth => List.cons_ne_nil _ _ hboth.2.symm) (not_not.2 ⟨rfl, rfl⟩)

/-- With the finger up the chiptune player presses nothing: the contact that it knows is then the
one it reported. -/
theorem Aligned.not_pressed (h : Aligned readers) (hup : readers.menu.1.currentDown = false) :
    ¬(readers.chiptune.1.down = true ∧ readers.chiptune.1.reported = false) := by
  rintro ⟨htouch, hfree⟩
  rcases h.contact with hsame | ⟨-, hown⟩
  · rw [htouch, hup] at hsame
    cases hsame
  · rw [htouch, hfree] at hown
    cases hown

/-- A finger that just went down is known to the chiptune player. -/
theorem Aligned.touched (h : Aligned readers) (hdown : readers.menu.1.currentDown = true)
    (hreported : readers.menu.1.reportedDown = false) : readers.chiptune.1.down = true := by
  rcases h.contact with hsame | ⟨hother, -⟩
  · exact hsame.trans hdown
  · rw [hdown, hreported] at hother
    cases hother

/-- At the end of a frame both presses are there, at the same place, or none. -/
theorem presses_frame_iff (h : Aligned readers) (hframe : ¬readers.menu.1.droppingEvents = true)
    (hreport : event.Is EV_SYN SYN_REPORT) :
    (tenSecondsPress readers.tenSeconds.1 event = menuPress readers.menu.1 event ∧
        chiptunePress readers.chiptune.1 event = menuPress readers.menu.1 event) ↔
      (readers.menu.1.currentDown = true → readers.chiptune.1.down = true →
        readers.chiptune.1.reported = readers.menu.1.reportedDown ∧
          (readers.menu.1.reportedDown = false → readers.SamePlace)) := by
  have hmenu : menuPress readers.menu.1 event =
      pressOf (readers.menu.1.currentDown && !readers.menu.1.reportedDown) readers.menu.1.x
        readers.menu.1.y := by
    rw [menuPress, if_pos hreport, if_neg hframe]
    rfl
  have hten : tenSecondsPress readers.tenSeconds.1 event = readers.tenSeconds.1.press := by
    rw [tenSecondsPress, if_pos hreport, if_neg (h.tenDropping ▸ hframe)]
  have hchiptune : chiptunePress readers.chiptune.1 event = readers.chiptune.1.press := by
    rw [chiptunePress, if_pos]
    refine ⟨hreport, ?_⟩
    rw [h.dropping]
    exact Bool.not_eq_true _ ▸ hframe
  rw [hmenu, hten, hchiptune, TenSecondsTouch.press, ChiptuneTouch.press, h.tenDown, h.tenReported]
  cases hdown : readers.menu.1.currentDown with
  | false =>
      rw [if_neg (h.not_pressed hdown)]
      exact iff_of_true ⟨rfl, rfl⟩ fun hnot => absurd hnot Bool.false_ne_true
  | true =>
      cases hreported : readers.menu.1.reportedDown with
      | true =>
          rw [if_neg fun hboth => absurd hboth.2 (by decide)]
          refine (and_iff_right rfl).trans ⟨fun hnone _ htouch => ⟨?_, ?_⟩, ?_⟩
          · by_contra hfree
            rw [Bool.not_eq_true] at hfree
            rw [if_pos ⟨htouch, hfree⟩] at hnone
            exact List.cons_ne_nil _ _ hnone
          · intro hnot
            cases hnot
          · intro hall
            refine if_neg ?_
            intro hpress
            have hown := (hall rfl hpress.1).1
            rw [hpress.2] at hown
            cases hown
      | false =>
          rw [if_pos ⟨rfl, rfl⟩, h.touched hdown hreported, SamePlace]
          cases hown : readers.chiptune.1.reported with
          | true =>
              rw [if_neg fun hboth => absurd hboth.2 (by decide)]
              refine iff_of_false (fun hboth => List.cons_ne_nil _ _ hboth.2.symm) ?_
              intro hall
              cases (hall rfl rfl).1
          | false =>
              have hpress : pressOf (true && !false) readers.menu.1.x readers.menu.1.y =
                  [⟨readers.menu.1.x, readers.menu.1.y⟩] := rfl
              rw [if_pos ⟨rfl, rfl⟩, hpress]
              simp only [List.cons.injEq, TouchPress.mk.injEq, and_true, true_and, forall_const]

/-- **One event keeps the presses equal exactly under the condition.** -/
theorem agree_react_iff (h : Aligned readers) (hagree : readers.Agree) (event : InputEvent) :
    (readers.react event).Agree ↔ readers.Undeceived event := by
  rw [agree_react hagree, Undeceived]
  by_cases hreport : event.Is EV_SYN SYN_REPORT
  · rw [imp_iff_right hreport]
    split
    · next hwindow => exact presses_window_iff h hwindow hreport
    · next hframe => exact presses_frame_iff h hframe hreport
  · -- Nothing is recognised between the reports.
    have hmenu : menuPress readers.menu.1 event = [] := if_neg hreport
    have hten : tenSecondsPress readers.tenSeconds.1 event = [] := if_neg hreport
    have hchiptune : chiptunePress readers.chiptune.1 event = [] :=
      if_neg fun hboth => hreport hboth.1
    rw [hmenu, hten, hchiptune]
    exact iff_of_true ⟨rfl, rfl⟩ fun hnot => absurd hnot hreport

end

theorem aligned_discover (opening : Opening) : Aligned (discover opening) where
  tenDropping := rfl
  tenDown := rfl
  tenReported := rfl
  dropping := rfl
  contact := Or.inr ⟨rfl, rfl⟩

theorem always_agree_iff {readers : TouchReaders} (h : Aligned readers) (hagree : readers.Agree)
    (events : List InputEvent) :
    Run.Always react Agree readers events ↔ Run.Each react Undeceived readers events :=
  Run.always_iff_each (J := Aligned) (fun _ event h => aligned_react h event)
    (fun _ event h hagree => agree_react_iff h hagree event) h hagree events

/-- **The presses agree all along a stream exactly if all its events meet the condition.** -/
theorem presses_agree_iff (opening : Opening) (events : List InputEvent) :
    Run.Always react Agree (discover opening) events ↔
      Run.Each react Undeceived (discover opening) events :=
  always_agree_iff (aligned_discover opening) ⟨rfl, rfl⟩ events

/-! ### Calls -/

/-- The presses of an event come behind the others. -/
theorem tenSeconds_append (self : TenSecondsTouch) (presses : List TouchPress)
    (event : InputEvent) :
    TenSecondsTouch.handleEvent (self, presses) event =
      ((TenSecondsTouch.handleEvent (self, []) event).1,
        presses ++ (TenSecondsTouch.handleEvent (self, []) event).2) := by
  refine Prod.ext ?_ ?_
  · simp only [TenSecondsTouch.handleEvent]
    split_ifs <;> rfl
  · rw [tenSeconds_presses, tenSeconds_presses, List.nil_append]

theorem chiptune_append (self : ChiptuneTouch) (presses : List TouchPress) (event : InputEvent) :
    ChiptuneTouch.handleEvent (self, presses) event =
      ((ChiptuneTouch.handleEvent (self, []) event).1,
        presses ++ (ChiptuneTouch.handleEvent (self, []) event).2) := by
  refine Prod.ext ?_ ?_
  · simp only [ChiptuneTouch.handleEvent]
    split_ifs <;> rfl
  · rw [chiptune_presses, chiptune_presses, List.nil_append]

theorem foldl_react (self : TouchReaders) (events : List InputEvent) :
    events.foldl react self =
      ⟨events.foldl TouchDevice.handleEvent self.menu,
        events.foldl TenSecondsTouch.handleEvent self.tenSeconds,
        events.foldl ChiptuneTouch.handleEvent self.chiptune⟩ := by
  induction events generalizing self with
  | nil => rfl
  | cons event events ih => exact ih (self.react event)

/-- What the three functions do in one call each, where the readers are before and after it. -/
structure Call (before after : TouchReaders) (reads : List ReadResult) : Prop where
  menu : (before.menu.1.readReports reads).1 = after.menu.1 ∧
    after.menu.2 = before.menu.2 ++ (before.menu.1.readReports reads).2.1
  tenSeconds : (before.tenSeconds.1.readPresses reads).1 = after.tenSeconds.1 ∧
    after.tenSeconds.2 = before.tenSeconds.2 ++ (before.tenSeconds.1.readPresses reads).2.1
  chiptune : ∃ presses, after.chiptune.2 = before.chiptune.2 ++ presses ∧
    ∀ commands, before.chiptune.1.drainTouch commands reads =
      (after.chiptune.1, ChiptuneTouch.commandsOf commands presses)

/-- **The functions see the stream, however it is cut into reads.** -/
theorem call_react (self : TouchReaders) (reads : List ReadResult) :
    Call self ((delivered reads).foldl react self) reads := by
  obtain ⟨⟨menu, reports⟩, ⟨ten, tenPresses⟩, ⟨chiptune, presses⟩⟩ := self
  rw [foldl_react]
  dsimp only
  rw [foldl_found TouchDevice.handleEvent_append, foldl_found tenSeconds_append,
    foldl_found chiptune_append, ← drain_eq, ← drain_eq, ← drain_eq]
  exact ⟨⟨rfl, rfl⟩, ⟨rfl, rfl⟩, _, rfl, fun _ => rfl⟩

theorem freshPresses_concat (reports reports' : List TouchReport) :
    freshPresses (reports ++ reports') = freshPresses reports ++ freshPresses reports' := by
  rw [freshPresses, List.filter_append, List.map_append]
  rfl

/-- **Where the events meet the condition, a call returns the same presses from all three readers**,
and from the chiptune player their commands. -/
theorem calls_agree (opening : Opening) (calls : List (List ReadResult)) (reads : List ReadResult)
    (h : Run.Each react Undeceived (discover opening)
      (calls.flatMap delivered ++ delivered reads)) (commands : ℕ) :
    let readers := (calls.flatMap delivered).foldl react (discover opening)
    let presses := freshPresses (readers.menu.1.readReports reads).2.1
    (readers.tenSeconds.1.readPresses reads).2.1 = presses ∧
      (readers.chiptune.1.drainTouch commands reads).2 =
        ChiptuneTouch.commandsOf commands presses := by
  intro readers presses
  have halways := (always_agree_iff (aligned_discover opening) ⟨rfl, rfl⟩ _).2 h
  have hbefore : readers.Agree := Run.always_iff.1 halways _ (List.prefix_append _ _)
  have hafter : ((delivered reads).foldl react readers).Agree := by
    have hlast := halways.last
    rwa [List.foldl_append] at hlast
  obtain ⟨⟨-, hmenu⟩, ⟨-, hten⟩, pressed, hchiptune, hcommands⟩ := call_react readers reads
  obtain ⟨htenAfter, hchiptuneAfter⟩ := hafter
  rw [hmenu, freshPresses_concat] at htenAfter hchiptuneAfter
  rw [hten, hbefore.1, List.append_cancel_left_eq] at htenAfter
  rw [hchiptune, hbefore.2, List.append_cancel_left_eq] at hchiptuneAfter
  refine ⟨htenAfter, ?_⟩
  rw [hcommands, hchiptuneAfter]

/-- An event at which the kernel is not asked. -/
def plainEvent (type code : ℕ) (value : ℤ) : InputEvent := ⟨type, code, value, none, none, none⟩

/-- The finger goes down, a window hides that it goes up, and it goes down again at the same
place. -/
def hiddenRelease : List InputEvent :=
  [plainEvent EV_ABS ABS_X 640, plainEvent EV_ABS ABS_Y 240, plainEvent EV_KEY BTN_TOUCH 1,
   plainEvent EV_SYN SYN_REPORT 0, plainEvent EV_SYN SYN_DROPPED 0,
   ⟨EV_SYN, SYN_REPORT, 0, some 640, some 240, some false⟩,
   plainEvent EV_KEY BTN_TOUCH 1, plainEvent EV_SYN SYN_REPORT 0]

/-- **The presses of the three readers can differ.** -/
theorem presses_differ :
    ¬∀ (opening : Opening) (events : List InputEvent),
      (events.foldl react (discover opening)).Agree := by
  intro h
  exact absurd (h ⟨0, 0, some false⟩ hiddenRelease) (by decide)

end TouchReaders

end NesDeck
