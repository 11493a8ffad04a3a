/-
**Touch reports of the Wayland client.**

`deck_wayland.cpp` turns the events of a touch screen into reports for the menu.  It keeps one flag
for all fingers, `touch_down`, and sets or clears it in four handlers: the finger goes down, comes
up, the compositor takes the touch over, or the seat loses its touch screen.

A client that follows the reports reads a press as "the screen is held" and a release as "it is
free".  That reading is right when presses and releases alternate and the flag never falls without
a release.

Main definitions:

* `NesDeck.TouchReport`, `NesDeck.WaylandTouch` — a report, and the state of the client;
* `NesDeck.WaylandTouch.react` — the handlers;
* `NesDeck.WaylandTouch.Alternating` — presses and releases alternate, a press first;
* `NesDeck.WaylandTouch.LawfulStep` — what a client may expect of every event;
* `NesDeck.WaylandTouch.CleanStep` — no finger follows another, and no touch screen goes while held.

Main results:

* `NesDeck.WaylandTouch.lawfulStep_iff` — one event is lawful exactly when it is clean;
* `NesDeck.WaylandTouch.reports_lawful_iff` — **a run of events is lawful exactly when each of them
  is clean**.
-/

import Mathlib.Data.List.Chain
import NesDeck.Lib.Run

set_option relaxedAutoImplicit false
set_option autoImplicit false

namespace NesDeck

/-- `DeckWaylandTouchReport`. -/
structure TouchReport where
  x : ℤ
  y : ℤ
  down : Bool
  pressed : Bool
  released : Bool
  deriving DecidableEq

/-- The part of `DeckWaylandPresentation::Impl` that the touch handlers use. -/
structure WaylandTouch where
  /-- There is a touch object. -/
  touch : Bool
  width : BitVec 32
  height : BitVec 32
  touchX : ℤ
  touchY : ℤ
  touchDown : Bool
  touchReports : List TouchReport
  /-- The reports the client has taken so far. -/
  taken : List TouchReport

namespace WaylandTouch

/-- The state before the first event. -/
def initial : WaylandTouch where
  touch := false
  width := 0
  height := 0
  touchX := 0
  touchY := 0
  touchDown := false
  touchReports := []
  taken := []

/-! ### The handlers -/

/-- What reaches the client.  A position is a fixed-point number with eight bits behind the point;
the handlers do not look at the number of the finger. -/
inductive TouchEvent where
  | capabilities (haveTouch : Bool)
  | down (finger : ℤ) (ownSurface : Bool) (x y : ℤ)
  | up (finger : ℤ)
  | motion (finger : ℤ) (x y : ℤ)
  | cancel
  | configure (width height : BitVec 32)
  | take

/-- `wl_fixed_to_int`, which rounds towards zero. -/
def wlFixedToInt (position : ℤ) : ℤ := position.tdiv 256

/-- The report of `push_touch`: the position is kept within the surface. -/
def touchReport (self : WaylandTouch) (pressed released : Bool) : TouchReport where
  x := max 0 (min (self.width.toInt - 1) self.touchX)
  y := max 0 (min (self.height.toInt - 1) self.touchY)
  down := self.touchDown
  pressed := pressed
  released := released

/-- `push_touch`. -/
def pushTouch (self : WaylandTouch) (pressed released : Bool) : WaylandTouch :=
  { self with touchReports := self.touchReports ++ [self.touchReport pressed released] }

/-- `seat_capabilities`. -/
def seatCapabilities (self : WaylandTouch) (haveTouch : Bool) : WaylandTouch :=
  if haveTouch && !self.touch then { self with touch := true }
  else if !haveTouch && self.touch then { self with touch := false, touchDown := false }
  else self

/-- `touch_down_event`. -/
def touchDownEvent (self : WaylandTouch) (ownSurface : Bool) (x y : ℤ) : WaylandTouch :=
  if !ownSurface then self
  else
    pushTouch { self with touchX := wlFixedToInt x, touchY := wlFixedToInt y, touchDown := true }
      true false

/-- `touch_up_event`. -/
def touchUpEvent (self : WaylandTouch) : WaylandTouch :=
  if !self.touchDown then self else pushTouch { self with touchDown := false } false true

/-- `touch_motion_event`. -/
def touchMotionEvent (self : WaylandTouch) (x y : ℤ) : WaylandTouch :=
  if !self.touchDown then self
  else pushTouch { self with touchX := wlFixedToInt x, touchY := wlFixedToInt y } false false

/-- The report of a touch that was taken over. -/
def cancelReport : TouchReport where
  x := -1
  y := -1
  down := false
  pressed := false
  released := true

/-- `touch_cancel_event`. -/
def touchCancelEvent (self : WaylandTouch) : WaylandTouch :=
  if self.touchDown then
    { self with touchDown := false, touchReports := self.touchReports ++ [cancelReport] }
  else self

/-- `take_touch_reports`. -/
def takeTouchReports (self : WaylandTouch) : WaylandTouch :=
  { self with touchReports := [], taken := self.taken ++ self.touchReports }

/-- One event.  Events of a touch object arrive only while there is one. -/
def react (self : WaylandTouch) : TouchEvent → WaylandTouch
  | .capabilities haveTouch => self.seatCapabilities haveTouch
  | .down _ ownSurface x y => if self.touch then self.touchDownEvent ownSurface x y else self
  | .up _ => if self.touch then self.touchUpEvent else self
  | .motion _ x y => if self.touch then self.touchMotionEvent x y else self
  | .cancel => if self.touch then self.touchCancelEvent else self
  | .configure width height => { self with width := width, height := height }
  | .take => self.takeTouchReports

/-! ### What the reports say -/

/-- All reports that were queued so far. -/
def stream (self : WaylandTouch) : List TouchReport := self.taken ++ self.touchReports

/-- The presses (true) and releases (false) of a report. -/
def marksOf (report : TouchReport) : List Bool :=
  (if report.pressed then [true] else []) ++ (if report.released then [false] else [])

/-- The presses and releases of the reports, in order. -/
def marks (reports : List TouchReport) : List Bool := reports.flatMap marksOf

/-- Presses and releases alternate, and the first of them is a press. -/
def Alternating (reports : List TouchReport) : Prop :=
  (marks reports).IsChain (· ≠ ·) ∧ (marks reports).head? ≠ some false

/-- What a client may expect of an event: the reports alternate after it, and if it ends a touch, it
queues a release. -/
def LawfulStep (self : WaylandTouch) (event : TouchEvent) : Prop :=
  Alternating (self.react event).stream ∧
    (self.touchDown = true → (self.react event).touchDown = false →
      ∃ report, (self.react event).stream = self.stream ++ [report] ∧ report.released = true)

/-- No finger goes down while another one holds the surface, and no touch screen goes away while the
surface is held. -/
def CleanStep (self : WaylandTouch) : TouchEvent → Prop
  | .down _ ownSurface _ _ => self.touch = true → ownSurface = true → self.touchDown = false
  | .capabilities haveTouch => self.touch = true → haveTouch = false → self.touchDown = false
  | _ => True

/-! ### Adding a report -/

theorem marks_append (reports more : List TouchReport) :
    marks (reports ++ more) = marks reports ++ marks more := List.flatMap_append

theorem marks_singleton (report : TouchReport) : marks [report] = marksOf report := by
  simp [marks]

/-- The surface is held when the last mark is a press. -/
def Held (reports : List TouchReport) : Prop := (marks reports).getLast? = some true

/-- A report without a mark changes nothing. -/
theorem alternating_append_plain {reports : List TouchReport} {report : TouchReport}
    (h : marksOf report = []) :
    (Alternating (reports ++ [report]) ↔ Alternating reports) ∧
      (Held (reports ++ [report]) ↔ Held reports) := by
  unfold Alternating Held
  rw [marks_append, marks_singleton, h, List.append_nil]
  exact ⟨Iff.rfl, Iff.rfl⟩

/-- After alternating reports a press may follow exactly when the surface is free. -/
theorem alternating_append_press {reports : List TouchReport} {report : TouchReport}
    (h : marksOf report = [true]) (halt : Alternating reports) :
    (Alternating (reports ++ [report]) ↔ ¬Held reports) ∧ Held (reports ++ [report]) := by
  unfold Alternating Held
  rw [marks_append, marks_singleton, h, List.isChain_append]
  refine ⟨?_, by simp⟩
  constructor
  · rintro ⟨⟨-, -, hlast⟩, -⟩ hheld
    exact hlast true hheld true rfl rfl
  · intro hfree
    refine ⟨⟨halt.1, List.isChain_singleton _, ?_⟩, ?_⟩
    -- The last mark is no press, since the surface is free.
    · intro last hlast next hnext
      obtain rfl : true = next := by simpa using hnext
      rintro rfl
      exact hfree hlast
    · cases hmarks : marks reports with
      | nil => simp
      | cons mark rest =>
          have hhead := halt.2
          rw [hmarks] at hhead
          simpa using hhead

/-- After alternating reports of a held surface a release may follow. -/
theorem alternating_append_release {reports : List TouchReport} {report : TouchReport}
    (h : marksOf report = [false]) (halt : Alternating reports) (hheld : Held reports) :
    Alternating (reports ++ [report]) ∧ ¬Held (reports ++ [report]) := by
  unfold Alternating Held at *
  rw [marks_append, marks_singleton, h, List.isChain_append]
  refine ⟨⟨⟨halt.1, List.isChain_singleton _, ?_⟩, ?_⟩, by simp⟩
  · intro last hlast next hnext
    rw [hheld] at hlast
    obtain rfl : true = last := by simpa using hlast
    obtain rfl : false = next := by simpa using hnext
    decide
  · cases hmarks : marks reports with
    | nil => simp [hmarks] at hheld
    | cons mark rest =>
        have hhead := halt.2
        rw [hmarks] at hhead
        simpa using hhead

/-! ### The law of a run -/

/-- The reports alternate, and they say whether the surface is held. -/
structure Coherent (client : WaylandTouch) : Prop where
  alternating : Alternating client.stream
  held : client.touchDown = true ↔ Held client.stream

theorem coherent_initial : Coherent initial where
  alternating := by simp [Alternating, stream, initial, marks]
  held := by simp [Held, stream, initial, marks]

theorem stream_pushTouch (self : WaylandTouch) (pressed released : Bool) :
    (self.pushTouch pressed released).stream =
      self.stream ++ [self.touchReport pressed released] := by
  simp [stream, pushTouch]

/-- What an event can do to the reports and to the flag. -/
inductive Effect (self next : WaylandTouch) (clean : Prop) : Prop where
  /-- Nothing is queued and the flag stays. -/
  | quiet (hstream : next.stream = self.stream) (hdown : next.touchDown = self.touchDown)
      (hclean : clean)
  /-- A report without a mark is queued. -/
  | plain (report : TouchReport) (hmarks : marksOf report = [])
      (hstream : next.stream = self.stream ++ [report]) (hdown : next.touchDown = self.touchDown)
      (hclean : clean)
  /-- A press is queued, which is clean when the surface was free. -/
  | press (report : TouchReport) (hmarks : marksOf report = [true])
      (hstream : next.stream = self.stream ++ [report]) (hdown : next.touchDown = true)
      (hclean : clean ↔ self.touchDown = false)
  /-- A release is queued, and the surface was held. -/
  | release (report : TouchReport) (hmarks : marksOf report = [false])
      (hreleased : report.released = true) (hstream : next.stream = self.stream ++ [report])
      (hheld : self.touchDown = true) (hdown : next.touchDown = false) (hclean : clean)
  /-- The flag falls and nothing is queued, which is clean when the surface was free. -/
  | lost (hstream : next.stream = self.stream) (hdown : next.touchDown = false)
      (hclean : clean ↔ self.touchDown = false)

theorem effect_seatCapabilities (self : WaylandTouch) (haveTouch : Bool) :
    Effect self (self.seatCapabilities haveTouch) (self.CleanStep (.capabilities haveTouch)) := by
  unfold seatCapabilities CleanStep
  cases haveTouch with
  | true =>
      cases htouch : self.touch with
      | true => exact .quiet rfl rfl (by simp)
      | false => exact .quiet rfl rfl (by simp)
  | false =>
      cases htouch : self.touch with
      | true => exact .lost rfl rfl (by simp)
      | false => exact .quiet rfl rfl (by simp)

theorem effect_touchDownEvent (self : WaylandTouch) (htouch : self.touch = true) (finger : ℤ)
    (ownSurface : Bool) (x y : ℤ) :
    Effect self (self.touchDownEvent ownSurface x y)
      (self.CleanStep (.down finger ownSurface x y)) := by
  unfold touchDownEvent CleanStep
  cases ownSurface with
  | true => exact .press _ rfl (stream_pushTouch _ true false) rfl (by simp [htouch])
  | false => exact .quiet rfl rfl (by simp)

theorem effect_touchUpEvent (self : WaylandTouch) : Effect self self.touchUpEvent True := by
  unfold touchUpEvent
  cases hdown : self.touchDown with
  | true => exact .release _ rfl rfl (stream_pushTouch _ false true) hdown rfl trivial
  | false => exact .quiet rfl rfl trivial

theorem effect_touchMotionEvent (self : WaylandTouch) (x y : ℤ) :
    Effect self (self.touchMotionEvent x y) True := by
  unfold touchMotionEvent
  cases hdown : self.touchDown with
  | true => exact .plain _ rfl (stream_pushTouch _ false false) hdown.symm trivial
  | false => exact .quiet rfl rfl trivial

theorem effect_touchCancelEvent (self : WaylandTouch) : Effect self self.touchCancelEvent True := by
  unfold touchCancelEvent
  cases hdown : self.touchDown with
  | true => exact .release cancelReport rfl rfl (by simp [stream]) hdown rfl trivial
  | false => exact .quiet rfl rfl trivial

/-- **What one event can do.** -/
theorem effect_react (self : WaylandTouch) (event : TouchEvent) :
    Effect self (self.react event) (self.CleanStep event) := by
  cases event with
  | capabilities haveTouch => exact effect_seatCapabilities self haveTouch
  | configure width height => exact .quiet rfl rfl trivial
  | take => exact .quiet (by simp [stream, react, takeTouchReports]) rfl trivial
  | down finger ownSurface x y =>
      simp only [react]
      split
      · next htouch => exact effect_touchDownEvent self htouch finger ownSurface x y
      · next htouch => exact .quiet rfl rfl (fun h => absurd h htouch)
  | up finger =>
      simp only [react]
      split
      · exact effect_touchUpEvent self
      · exact .quiet rfl rfl trivial
  | motion finger x y =>
      simp only [react]
      split
      · exact effect_touchMotionEvent self x y
      · exact .quiet rfl rfl trivial
  | cancel =>
      simp only [react]
      split
      · exact effect_touchCancelEvent self
      · exact .quiet rfl rfl trivial

/-- **One event is lawful exactly when it is clean.** -/
theorem lawfulStep_iff {self : WaylandTouch} (h : self.Coherent) (event : TouchEvent) :
    self.LawfulStep event ↔ self.CleanStep event := by
  unfold LawfulStep
  -- A press and a falling flag may be wrong; every other effect is lawful and clean.
  cases effect_react self event with
  | quiet hstream hdown hclean =>
      rw [hstream, hdown]
      refine iff_of_true ⟨h.alternating, ?_⟩ hclean
      intro hheld hfree
      rw [hheld] at hfree
      exact absurd hfree (by decide)
  | plain report hmarks hstream hdown hclean =>
      rw [hstream, hdown]
      refine iff_of_true ⟨(alternating_append_plain hmarks).1.2 h.alternating, ?_⟩ hclean
      intro hheld hfree
      rw [hheld] at hfree
      exact absurd hfree (by decide)
  | press report hmarks hstream hdown hclean =>
      rw [hstream, hdown, hclean, (alternating_append_press hmarks h.alternating).1, ← h.held]
      simp
  | release report hmarks hreleased hstream hheld hdown hclean =>
      rw [hstream]
      have hnext := alternating_append_release hmarks h.alternating (h.held.1 hheld)
      exact iff_of_true ⟨hnext.1, fun _ _ => ⟨report, rfl, hreleased⟩⟩ hclean
  | lost hstream hdown hclean =>
      rw [hstream, hdown, hclean]
      constructor
      · rintro ⟨-, hreport⟩
        -- No report was queued, so that the flag cannot have been up.
        by_contra hheld
        obtain ⟨report, hadded, -⟩ := hreport (by simpa using hheld) rfl
        simp at hadded
      · intro hfree
        refine ⟨h.alternating, ?_⟩
        intro hheld
        rw [hfree] at hheld
        exact absurd hheld (by decide)

/-- A clean event leaves the reports in step with the flag. -/
theorem coherent_react {self : WaylandTouch} (h : self.Coherent) (event : TouchEvent)
    (hstep : self.CleanStep event) : (self.react event).Coherent := by
  have halt : Alternating (self.react event).stream := ((lawfulStep_iff h event).2 hstep).1
  refine ⟨halt, ?_⟩
  -- Only a clean event is looked at, so that a falling flag means a free surface.
  cases effect_react self event with
  | quiet hstream hdown hclean => rw [hstream, hdown, h.held]
  | plain report hmarks hstream hdown hclean =>
      rw [hstream, hdown, h.held, (alternating_append_plain hmarks).2]
  | press report hmarks hstream hdown hclean =>
      rw [hstream, hdown]
      exact iff_of_true rfl (alternating_append_press hmarks h.alternating).2
  | release report hmarks hreleased hstream hheld hdown hclean =>
      rw [hstream, hdown]
      exact iff_of_false (by decide)
        (alternating_append_release hmarks h.alternating (h.held.1 hheld)).2
  | lost hstream hdown hclean => rw [hstream, hdown, ← hclean.1 hstep, h.held]

/-- **A run of events is lawful exactly when each of them is clean.** -/
theorem reports_lawful_iff (events : List TouchEvent) :
    Run.Each react LawfulStep initial events ↔ Run.Each react CleanStep initial events :=
  Run.each_congr (J := Coherent) (fun _ event h => lawfulStep_iff h event)
    (fun _ event h hstep => coherent_react h event hstep) coherent_initial events

/-- Two fingers go down, one after the other: the second press follows the first. -/
theorem not_lawful_two_fingers :
    ¬Run.Each react LawfulStep initial
      [.capabilities true, .configure 1280 480, .down 0 true 2560 2560,
        .down 1 true 5120 5120] := by
  rintro ⟨-, -, -, ⟨⟨hchain, -⟩, -⟩, -⟩
  revert hchain
  decide

/-- The touch screen goes away under a finger: the flag falls without a release. -/
theorem not_lawful_lost_touch :
    ¬Run.Each react LawfulStep initial
      [.capabilities true, .configure 1280 480, .down 0 true 2560 2560, .capabilities false] := by
  rintro ⟨-, -, -, ⟨-, hrelease⟩, -⟩
  obtain ⟨report, hadded, -⟩ := hrelease rfl rfl
  simp [stream, react, seatCapabilities, touchDownEvent, pushTouch, initial] at hadded

end WaylandTouch

end NesDeck
