/-
**The touch screen as the menu reads it.**

The kernel delivers the touch screen as a stream of events that `SYN_REPORT` cuts into frames. When
events were lost it says `SYN_DROPPED`; what follows, up to the next `SYN_REPORT`, is not to be
trusted, and the reader then asks the kernel for the state of the device.
`TouchDevice::read_reports` of `deck_menu.cpp` reads whatever is there, in pieces that have nothing
to do with the frames, and returns one report for each frame and for each such window.

The reference cuts the whole stream into frames and windows first, and follows the finger from one
to the next; the reader keeps a few variables across events, reads and calls.

Main definitions:

* `NesDeck.InputEvent`, `NesDeck.ReadResult`, `NesDeck.drain` — events, and the loop that reads
  them;
* `NesDeck.TouchDevice.handleEvent`, `NesDeck.TouchDevice.readReports` — the reader of the menu;
* `NesDeck.Contact`, `NesDeck.Piece`, `NesDeck.pieces`, `NesDeck.reference` — the frame-wise
  reference.

Main results:

* `NesDeck.drain_eq` — it does not matter how the stream is cut into reads;
* `NesDeck.TouchDevice.handleEvents_eq` — the reader follows the reference, event by event;
* `NesDeck.TouchDevice.session_reports` — **the reports of all calls are those of the reference,
  inside the screen, with presses and releases in turn**.
-/

import NesDeck.WaylandTouch

set_option relaxedAutoImplicit false
set_option autoImplicit false

namespace NesDeck

/-! ### Events -/

def EV_SYN : ℕ := 0
def EV_KEY : ℕ := 1
def EV_ABS : ℕ := 3

def SYN_REPORT : ℕ := 0
def SYN_DROPPED : ℕ := 3

def ABS_X : ℕ := 0
def ABS_Y : ℕ := 1

def BTN_TOUCH : ℕ := 0x14a

/-- The state of the device as the kernel tells it; each of the calls may fail. -/
structure TouchAnswer where
  x : Option ℤ
  y : Option ℤ
  down : Option Bool

/-- `input_event`, with what the kernel answers if it is asked while the event is handled. -/
structure InputEvent where
  type : ℕ
  code : ℕ
  value : ℤ
  answer : TouchAnswer

/-- The event has this type and code. -/
def InputEvent.Is (event : InputEvent) (type code : ℕ) : Prop :=
  event.type = type ∧ event.code = code

instance (event : InputEvent) (type code : ℕ) : Decidable (event.Is type code) :=
  inferInstanceAs (Decidable (_ ∧ _))

/-- How a call of a reader ends. -/
inductive Ending where
  | wouldBlock
  | failed (reason : String)
  | disconnected
  | partialEvent

/-- What `read` returns; at most 32 events fit into the buffer. -/
inductive ReadResult where
  | interrupted
  | events (batch : List InputEvent)
  | ends (ending : Ending)

/-- The loop of the readers: events are handled as they come. -/
def drain {σ : Type} (step : σ → InputEvent → σ) (s : σ) : List ReadResult → σ × Ending
  | [] => (s, .wouldBlock)
  | .interrupted :: reads => drain step s reads
  | .events batch :: reads => drain step (batch.foldl step s) reads
  | .ends ending :: _ => (s, ending)

/-- The events that a call gets. -/
def delivered : List ReadResult → List InputEvent
  | [] => []
  | .interrupted :: reads => delivered reads
  | .events batch :: reads => batch ++ delivered reads
  | .ends _ :: _ => []

/-- **It does not matter how the stream is cut into reads.** -/
theorem drain_eq {σ : Type} (step : σ → InputEvent → σ) (s : σ) (reads : List ReadResult) :
    (drain step s reads).1 = (delivered reads).foldl step s := by
  induction reads generalizing s with
  | nil => rfl
  | cons result reads ih =>
      cases result with
      | interrupted => exact ih s
      | events batch =>
          rw [drain, ih, delivered, List.foldl_append]
      | ends ending => rfl

/-- A loop that only adds to what it has found adds the same to what was found before. -/
theorem foldl_found {σ α : Type} {step : σ × List α → InputEvent → σ × List α}
    (h : ∀ s found event,
      step (s, found) event = ((step (s, []) event).1, found ++ (step (s, []) event).2))
    (events : List InputEvent) (s : σ) (found : List α) :
    events.foldl step (s, found) =
      ((events.foldl step (s, [])).1, found ++ (events.foldl step (s, [])).2) := by
  induction events generalizing s found with
  | nil => rw [List.foldl_nil, List.foldl_nil, List.append_nil]
  | cons event events ih =>
      rw [List.foldl_cons, List.foldl_cons, h s found, ih, ih _ (step (s, []) event).2,
        List.append_assoc]

/-! ### The reader of the menu -/

def clampX (value : ℤ) : ℤ := max 0 (min 1279 value)

def clampY (value : ℤ) : ℤ := max 0 (min 479 value)

/-- What the kernel says about a touch screen that is opened. -/
structure Opening where
  x : ℤ
  y : ℤ
  down : Option Bool

/-- `TouchDevice` of the menu. -/
structure TouchDevice where
  x : ℤ
  y : ℤ
  currentDown : Bool
  reportedDown : Bool
  droppingEvents : Bool

namespace TouchDevice

/-- `discover`, once the device is found. -/
def discover (opening : Opening) : TouchDevice where
  x := clampX opening.x
  y := clampY opening.y
  currentDown := opening.down.getD false
  reportedDown := opening.down.getD false
  droppingEvents := false

def resynchronize (self : TouchDevice) (answer : TouchAnswer) : TouchDevice :=
  { self with
    x := (answer.x.map clampX).getD self.x
    y := (answer.y.map clampY).getD self.y
    currentDown := answer.down.getD self.currentDown }

def report (self : TouchDevice) : TouchReport where
  x := self.x
  y := self.y
  down := self.currentDown
  pressed := self.currentDown && !self.reportedDown
  released := !self.currentDown && self.reportedDown

/-- The body of the inner loop of `read_reports`. -/
def handleEvent (state : TouchDevice × List TouchReport) (event : InputEvent) :
    TouchDevice × List TouchReport :=
  let (self, reports) := state
  if self.droppingEvents = true then
    if event.Is EV_SYN SYN_REPORT then
      let self := self.resynchronize event.answer
      ({ self with reportedDown := self.currentDown, droppingEvents := false },
        reports ++ [self.report])
    else state
  else if event.Is EV_SYN SYN_DROPPED then ({ self with droppingEvents := true }, reports)
  else if event.Is EV_ABS ABS_X then ({ self with x := clampX event.value }, reports)
  else if event.Is EV_ABS ABS_Y then ({ self with y := clampY event.value }, reports)
  else if event.Is EV_KEY BTN_TOUCH then
    ({ self with currentDown := decide (event.value ≠ 0) }, reports)
  else if event.Is EV_SYN SYN_REPORT then
    ({ self with reportedDown := self.currentDown }, reports ++ [self.report])
  else state

/-- The message of `read_reports`, unless it succeeds. -/
def message : Ending → Option String
  | .wouldBlock => none
  | .failed reason => some ("touchscreen read failed: " ++ reason)
  | .disconnected => some "touchscreen disconnected"
  | .partialEvent => some "touchscreen returned a partial input_event"

/-- `read_reports`: the device, the reports, and the error. -/
def readReports (self : TouchDevice) (reads : List ReadResult) :
    TouchDevice × List TouchReport × Option String :=
  let (state, ending) := drain handleEvent (self, []) reads
  (state.1, state.2, message ending)

/-- The reports of several calls. -/
def session (self : TouchDevice) : List (List ReadResult) → List TouchReport
  | [] => []
  | reads :: calls => (self.readReports reads).2.1 ++ session (self.readReports reads).1 calls

end TouchDevice

/-! ### The reference -/

/-- The finger: where it was seen last, and whether it touches the screen. -/
structure Contact where
  x : ℤ
  y : ℤ
  down : Bool

/-- The stream is cut at every `SYN_REPORT`.  A window has the events that were handled before the
`SYN_DROPPED` that opens it. -/
inductive Piece where
  | frame (events : List InputEvent)
  | window (events : List InputEvent) (answer : TouchAnswer)

/-- The pieces of a stream; `pending` are the events of the piece that is not complete. -/
def pieces (pending : List InputEvent) (dropping : Bool) : List InputEvent → List Piece
  | [] => []
  | event :: events =>
      if dropping = true then
        if event.Is EV_SYN SYN_REPORT then
          .window pending event.answer :: pieces [] false events
        else pieces pending true events
      else if event.Is EV_SYN SYN_DROPPED then pieces pending true events
      else if event.Is EV_SYN SYN_REPORT then .frame pending :: pieces [] false events
      else pieces (pending ++ [event]) false events

/-- The last value of a kind among the events. -/
def lastValue (type code : ℕ) (events : List InputEvent) : Option ℤ :=
  (events.filter fun event => event.Is type code).getLast?.map InputEvent.value

namespace Contact

/-- The finger after some events. -/
def follow (contact : Contact) (events : List InputEvent) : Contact where
  x := ((lastValue EV_ABS ABS_X events).map clampX).getD contact.x
  y := ((lastValue EV_ABS ABS_Y events).map clampY).getD contact.y
  down := ((lastValue EV_KEY BTN_TOUCH events).map fun value => decide (value ≠ 0)).getD
    contact.down

/-- The finger as the kernel tells it. -/
def told (contact : Contact) (answer : TouchAnswer) : Contact where
  x := (answer.x.map clampX).getD contact.x
  y := (answer.y.map clampY).getD contact.y
  down := answer.down.getD contact.down

/-- The finger at the end of a piece. -/
def after (contact : Contact) : Piece → Contact
  | .frame events => contact.follow events
  | .window events answer => (contact.follow events).told answer

/-- The finger at the end of every piece. -/
def contacts (contact : Contact) : List Piece → List Contact
  | [] => []
  | piece :: pieces => contact.after piece :: contacts (contact.after piece) pieces

/-- What is reported of the finger, when it was reported down or up before. -/
def reports (before : Bool) : List Contact → List TouchReport
  | [] => []
  | contact :: rest =>
      { x := contact.x
        y := contact.y
        down := contact.down
        pressed := contact.down && !before
        released := !contact.down && before } :: reports contact.down rest

def opened (opening : Opening) : Contact where
  x := clampX opening.x
  y := clampY opening.y
  down := opening.down.getD false

end Contact

/-- One report for each frame and for each window. -/
def reference (opening : Opening) (events : List InputEvent) : List TouchReport :=
  Contact.reports (opening.down.getD false)
    ((Contact.opened opening).contacts (pieces [] false events))

/-! ### The reader follows the reference -/

theorem lastValue_append (type code : ℕ) (events : List InputEvent) (event : InputEvent) :
    lastValue type code (events ++ [event]) =
      if event.Is type code then some event.value else lastValue type code events := by
  rw [lastValue, lastValue, List.filter_append]
  by_cases hevent : event.Is type code
  · rw [if_pos hevent, List.filter_cons_of_pos (by simpa using hevent), List.filter_nil,
      List.getLast?_concat]
    rfl
  · rw [if_neg hevent, List.filter_cons_of_neg (by simpa using hevent), List.filter_nil,
      List.append_nil]

/-- Events of different kinds. -/
theorem InputEvent.Is.not_is {event : InputEvent} {type code type' code' : ℕ}
    (h : event.Is type code) (hne : ¬(type = type' ∧ code = code')) : ¬event.Is type' code' :=
  fun h' => hne ⟨h.1.symm.trans h'.1, h.2.symm.trans h'.2⟩

/-- A report is none of the events that the readers ask for before it. -/
theorem InputEvent.Is.only_report {event : InputEvent} (h : event.Is EV_SYN SYN_REPORT) :
    ¬event.Is EV_SYN SYN_DROPPED ∧ ¬event.Is EV_ABS ABS_X ∧ ¬event.Is EV_ABS ABS_Y ∧
      ¬event.Is EV_KEY BTN_TOUCH :=
  ⟨h.not_is (by decide), h.not_is (by decide), h.not_is (by decide), h.not_is (by decide)⟩

/-- The finger after one more event. -/
def Contact.moved (contact : Contact) (event : InputEvent) : Contact where
  x := if event.Is EV_ABS ABS_X then clampX event.value else contact.x
  y := if event.Is EV_ABS ABS_Y then clampY event.value else contact.y
  down := if event.Is EV_KEY BTN_TOUCH then decide (event.value ≠ 0) else contact.down

theorem Contact.follow_append (contact : Contact) (events : List InputEvent) (event : InputEvent) :
    contact.follow (events ++ [event]) = (contact.follow events).moved event := by
  rw [follow, moved, lastValue_append, lastValue_append, lastValue_append, follow]
  congr 1
  · split
    · rfl
    · rfl
  · split
    · rfl
    · rfl
  · split
    · rfl
    · rfl

@[simp] theorem Contact.follow_nil (contact : Contact) : contact.follow [] = contact := rfl

namespace TouchDevice

/-- The device that sees the finger there. -/
def seeing (contact : Contact) (before dropping : Bool) : TouchDevice where
  x := contact.x
  y := contact.y
  currentDown := contact.down
  reportedDown := before
  droppingEvents := dropping

theorem seeing_dropping (contact : Contact) (before dropping : Bool) :
    (seeing contact before dropping).droppingEvents = dropping := rfl

/-- The report of a finger. -/
def reportOf (contact : Contact) (before : Bool) : TouchReport where
  x := contact.x
  y := contact.y
  down := contact.down
  pressed := contact.down && !before
  released := !contact.down && before

section

variable (contact : Contact) (before : Bool) (reports : List TouchReport) {event : InputEvent}

theorem handleEvent_window (h : event.Is EV_SYN SYN_REPORT) :
    handleEvent (seeing contact before true, reports) event =
      (seeing (contact.told event.answer) (contact.told event.answer).down false,
        reports ++ [reportOf (contact.told event.answer) before]) := by
  rw [handleEvent]
  dsimp only
  rw [seeing_dropping, if_pos rfl, if_pos h]
  rfl

theorem handleEvent_lost (h : ¬event.Is EV_SYN SYN_REPORT) :
    handleEvent (seeing contact before true, reports) event =
      (seeing contact before true, reports) := by
  rw [handleEvent]
  dsimp only
  rw [seeing_dropping, if_pos rfl, if_neg h]

theorem handleEvent_dropped (h : event.Is EV_SYN SYN_DROPPED) :
    handleEvent (seeing contact before false, reports) event =
      (seeing contact before true, reports) := by
  rw [handleEvent]
  dsimp only
  rw [seeing_dropping, if_neg Bool.false_ne_true, if_pos h]
  rfl

theorem handleEvent_frame (h : event.Is EV_SYN SYN_REPORT) :
    handleEvent (seeing contact before false, reports) event =
      (seeing contact contact.down false, reports ++ [reportOf contact before]) := by
  obtain ⟨hlost, hx, hy, htouch⟩ := h.only_report
  rw [handleEvent]
  dsimp only
  rw [seeing_dropping, if_neg Bool.false_ne_true, if_neg hlost, if_neg hx, if_neg hy, if_neg htouch,
    if_pos h]
  rfl

theorem handleEvent_moved (hdropped : ¬event.Is EV_SYN SYN_DROPPED)
    (hreport : ¬event.Is EV_SYN SYN_REPORT) :
    handleEvent (seeing contact before false, reports) event =
      (seeing (contact.moved event) before false, reports) := by
  rw [handleEvent, Contact.moved]
  dsimp only
  rw [seeing_dropping, if_neg Bool.false_ne_true, if_neg hdropped]
  by_cases hx : event.Is EV_ABS ABS_X
  · rw [if_pos hx, if_pos hx, if_neg (hx.not_is (by decide)), if_neg (hx.not_is (by decide))]
    rfl
  by_cases hy : event.Is EV_ABS ABS_Y
  · rw [if_neg hx, if_pos hy, if_neg hx, if_pos hy, if_neg (hy.not_is (by decide))]
    rfl
  by_cases htouch : event.Is EV_KEY BTN_TOUCH
  · rw [if_neg hx, if_neg hy, if_pos htouch, if_neg hx, if_neg hy, if_pos htouch]
    rfl
  · rw [if_neg hx, if_neg hy, if_neg htouch, if_neg hreport, if_neg hx, if_neg hy, if_neg htouch]

end

/-- **The reader follows the reference**, from the middle of a piece on. -/
theorem handleEvents_eq (events pending : List InputEvent) (contact : Contact)
    (before dropping : Bool) (reports : List TouchReport) :
    (events.foldl handleEvent (seeing (contact.follow pending) before dropping, reports)).2 =
      reports ++ Contact.reports before (contact.contacts (pieces pending dropping events)) := by
  induction events generalizing pending contact before dropping reports with
  | nil => rw [pieces, Contact.contacts, Contact.reports, List.append_nil, List.foldl_nil]
  | cons event events ih =>
      rw [List.foldl_cons, pieces]
      cases dropping with
      | true =>
          rw [if_pos rfl]
          by_cases hreport : event.Is EV_SYN SYN_REPORT
          · -- The kernel is asked, and the next piece begins.
            rw [if_pos hreport, handleEvent_window _ _ _ hreport, Contact.contacts, Contact.reports]
            have hnext := ih [] ((contact.follow pending).told event.answer)
              ((contact.follow pending).told event.answer).down false
              (reports ++ [reportOf ((contact.follow pending).told event.answer) before])
            rw [Contact.follow_nil] at hnext
            rw [hnext, List.append_assoc]
            rfl
          · rw [if_neg hreport, handleEvent_lost _ _ _ hreport]
            exact ih pending contact before true reports
      | false =>
          rw [if_neg Bool.false_ne_true]
          by_cases hdropped : event.Is EV_SYN SYN_DROPPED
          · rw [if_pos hdropped, handleEvent_dropped _ _ _ hdropped]
            exact ih pending contact before true reports
          rw [if_neg hdropped]
          by_cases hreport : event.Is EV_SYN SYN_REPORT
          · rw [if_pos hreport, handleEvent_frame _ _ _ hreport, Contact.contacts, Contact.reports]
            have hnext := ih [] (contact.follow pending) (contact.follow pending).down false
              (reports ++ [reportOf (contact.follow pending) before])
            rw [Contact.follow_nil] at hnext
            rw [hnext, List.append_assoc]
            rfl
          · rw [if_neg hreport, handleEvent_moved _ _ _ hdropped hreport, ← Contact.follow_append]
            exact ih (pending ++ [event]) contact before false reports

/-! ### Calls -/

/-- The reports of an event come behind the others. -/
theorem handleEvent_append (self : TouchDevice) (reports : List TouchReport) (event : InputEvent) :
    handleEvent (self, reports) event =
      ((handleEvent (self, []) event).1, reports ++ (handleEvent (self, []) event).2) := by
  rw [handleEvent, handleEvent]
  dsimp only
  split
  · split
    · rfl
    · rw [List.append_nil]
  split
  · rw [List.append_nil]
  split
  · rw [List.append_nil]
  split
  · rw [List.append_nil]
  split
  · rw [List.append_nil]
  split
  · rfl
  · rw [List.append_nil]

/-- **It does not matter how the stream is cut into calls.** -/
theorem session_eq (self : TouchDevice) (calls : List (List ReadResult)) :
    self.session calls = ((calls.flatMap delivered).foldl handleEvent (self, [])).2 := by
  induction calls generalizing self with
  | nil => rfl
  | cons reads calls ih =>
      have hcall : (drain handleEvent (self, []) reads).1 =
          (delivered reads).foldl handleEvent (self, []) := drain_eq handleEvent (self, []) reads
      rw [session, readReports]
      dsimp only
      rw [ih, hcall, List.flatMap_cons, List.foldl_append]
      exact (congrArg Prod.snd (foldl_found handleEvent_append _ _ _)).symm

/-! ### What the reference promises -/

end TouchDevice

namespace Contact

/-- The finger is on the screen. -/
def Inside (contact : Contact) : Prop :=
  (0 ≤ contact.x ∧ contact.x < 1280) ∧ 0 ≤ contact.y ∧ contact.y < 480

theorem clampX_inside (value : ℤ) : 0 ≤ clampX value ∧ clampX value < 1280 := by
  unfold clampX
  omega

theorem clampY_inside (value : ℤ) : 0 ≤ clampY value ∧ clampY value < 480 := by
  unfold clampY
  omega

/-- A coordinate that is clamped, or was inside before. -/
theorem getD_inside {clamp : ℤ → ℤ} {size : ℤ}
    (hclamp : ∀ value, 0 ≤ clamp value ∧ clamp value < size)
    (value : Option ℤ) {old : ℤ} (hold : 0 ≤ old ∧ old < size) :
    0 ≤ (value.map clamp).getD old ∧ (value.map clamp).getD old < size := by
  cases value with
  | none => exact hold
  | some value => exact hclamp value

theorem Inside.after {contact : Contact} (h : contact.Inside) (piece : Piece) :
    (contact.after piece).Inside := by
  have hfollow : ∀ events, (contact.follow events).Inside := fun events =>
    ⟨getD_inside clampX_inside _ h.1, getD_inside clampY_inside _ h.2⟩
  cases piece with
  | frame events => exact hfollow events
  | window events answer =>
      exact ⟨getD_inside clampX_inside answer.x (hfollow events).1,
        getD_inside clampY_inside answer.y (hfollow events).2⟩

theorem Inside.contacts {contact : Contact} (h : contact.Inside) (pieces : List Piece) :
    ∀ one ∈ contact.contacts pieces, one.Inside := by
  induction pieces generalizing contact with
  | nil => exact fun one hmem => absurd hmem List.not_mem_nil
  | cons piece pieces ih =>
      intro one hmem
      rcases List.mem_cons.1 hmem with rfl | hmem
      · exact h.after piece
      · exact ih (h.after piece) one hmem

/-- A report is where its finger is. -/
theorem mem_reports {before : Bool} {contacts : List Contact} {one : TouchReport}
    (h : one ∈ reports before contacts) : ∃ contact ∈ contacts, one.x = contact.x ∧
      one.y = contact.y := by
  induction contacts generalizing before with
  | nil => exact absurd h List.not_mem_nil
  | cons contact contacts ih =>
      rcases List.mem_cons.1 h with rfl | h
      · exact ⟨contact, List.mem_cons_self, rfl, rfl⟩
      · obtain ⟨other, hmem, hplace⟩ := ih h
        exact ⟨other, List.mem_cons_of_mem contact hmem, hplace⟩

/-- **Presses and releases take turns**, and the first changes what was reported before. -/
theorem marks_reports (before : Bool) (contacts : List Contact) :
    (WaylandTouch.marks (reports before contacts)).IsChain (· ≠ ·) ∧
      (WaylandTouch.marks (reports before contacts)).head? ≠ some before := by
  induction contacts generalizing before with
  | nil => exact ⟨List.IsChain.nil, by simp [reports, WaylandTouch.marks]⟩
  | cons contact contacts ih =>
      obtain ⟨hchain, hhead⟩ := ih contact.down
      have hmarks : WaylandTouch.marks (reports before (contact :: contacts)) =
          (if contact.down = before then [] else [contact.down]) ++
            WaylandTouch.marks (reports contact.down contacts) := by
        rw [reports, WaylandTouch.marks, List.flatMap_cons, WaylandTouch.marksOf]
        cases contact.down with
        | true =>
            cases before with
            | true => rfl
            | false => rfl
        | false =>
            cases before with
            | true => rfl
            | false => rfl
      rw [hmarks]
      by_cases hsame : contact.down = before
      · rw [if_pos hsame, List.nil_append]
        exact ⟨hchain, hsame ▸ hhead⟩
      · rw [if_neg hsame, List.singleton_append]
        refine ⟨List.isChain_cons.2 ⟨?_, hchain⟩, ?_⟩
        · intro mark hmark heq
          exact hhead (heq ▸ hmark)
        · intro heq
          exact hsame (Option.some.inj heq)

end Contact

/-- **The reports of all calls are those of the reference**: one for each frame and for each window,
inside the screen, with presses and releases in turn. -/
theorem TouchDevice.session_reports (opening : Opening) (calls : List (List ReadResult)) :
    (discover opening).session calls = reference opening (calls.flatMap delivered) ∧
      (∀ report ∈ (discover opening).session calls,
        (0 ≤ report.x ∧ report.x < 1280) ∧ 0 ≤ report.y ∧ report.y < 480) ∧
      (WaylandTouch.marks ((discover opening).session calls)).IsChain (· ≠ ·) ∧
      (WaylandTouch.marks ((discover opening).session calls)).head? ≠
        some (opening.down.getD false) := by
  have hreports : (discover opening).session calls =
      reference opening (calls.flatMap delivered) := by
    rw [session_eq, reference]
    have hfollows := handleEvents_eq (calls.flatMap delivered) [] (Contact.opened opening)
      (opening.down.getD false) false []
    rw [Contact.follow_nil, List.nil_append] at hfollows
    exact hfollows
  rw [hreports]
  refine ⟨rfl, ?_, Contact.marks_reports _ _⟩
  intro report hmem
  obtain ⟨contact, hcontact, hx, hy⟩ := Contact.mem_reports hmem
  have hopened : (Contact.opened opening).Inside :=
    ⟨Contact.clampX_inside opening.x, Contact.clampY_inside opening.y⟩
  rw [hx, hy]
  exact hopened.contacts _ contact hcontact

end NesDeck
