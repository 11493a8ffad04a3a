/-
**What a finger fires in the menu.**

The views of the menu number what lies on them independently: the same integer is a game, a control
of the settings or a place in the Wi-Fi editor.  The loop remembers one integer, the target on which
the finger went down, and compares it with the target on which the finger goes up.  The history of a
run lists the reports that were handled, newest first, with the view that each was handled in; it
also has an entry wherever the loop let go of the input that it had: for a command of the buttons,
for a touch screen that failed, for a sound, and for a program that was started.

A finger that goes up anywhere but on the reboot entry also takes an armed reboot back. That needs
no target, and is not an action here.

Main definitions:

* `NesDeck.MenuTouch.WifiState`, `NesDeck.MenuTouch.wifiEditor` — the Wi-Fi editor;
* `NesDeck.MenuTouch.Action`, `NesDeck.MenuTouch.action` — what a finger that goes up fires;
* `NesDeck.MenuTouch.Moment`, `NesDeck.MenuTouch.Session` — the history of a run;
* `NesDeck.MenuTouch.Undisturbed`, `NesDeck.MenuTouch.Matched` — an action that the most recent
  press asked for.

Main results:

* `NesDeck.MenuTouch.release_eq` — nothing but an action changes the menu when a finger goes up;
* `NesDeck.MenuTouch.pressed_of_action` — an action needs a remembered target;
* `NesDeck.MenuTouch.Session.pending_step` — what is remembered was pressed in the view that is
  shown;
* `NesDeck.MenuTouch.actions_matched` — **in every run, an action fires only for the most recent
  press, in the view in which it was made**.
-/

import NesDeck.MenuLoop
import NesDeck.WifiProfile

set_option relaxedAutoImplicit false
set_option autoImplicit false

namespace NesDeck.MenuTouch

open HostFile (Bytes ascii)
open MenuUi (Rect)
open RenderMenu
open MenuLoop

/-! ### The Wi-Fi editor -/

def wifiTargetNone : ℤ := -1
def wifiTargetSsid : ℤ := 101
def wifiTargetPassphrase : ℤ := 102
def wifiTargetSave : ℤ := 103
def wifiTargetMode : ℤ := 104
def wifiTargetShift : ℤ := 105
def wifiTargetSpace : ℤ := 106
def wifiTargetDelete : ℤ := 107
def wifiTargetKeyBase : ℤ := 200

inductive WifiField where
  | ssid
  | passphrase
  deriving DecidableEq

/-- `WifiState`, without the line of status. -/
structure WifiState where
  ssid : Bytes
  passphrase : Bytes
  field : WifiField
  uppercase : Bool
  symbols : Bool

def WifiState.initial : WifiState where
  ssid := []
  passphrase := []
  field := .ssid
  uppercase := false
  symbols := false

/-- `WifiKey`. -/
structure WifiKey where
  bounds : Rect
  value : UInt8

/-- `add_wifi_key_row`: the keys of a row. -/
def addWifiKeyRow (values : Bytes) (y : ℤ) (uppercase : Bool) : List WifiKey :=
  let gap : ℤ := 6
  let margin : ℤ := 16
  let count : ℤ := values.length
  let width := (MenuUi.kLogicalWidth - 2 * margin - gap * (count - 1)) / count
  let used := count * width + gap * (count - 1)
  let left := (MenuUi.kLogicalWidth - used) / 2
  values.zipIdx.map fun (value, index) =>
    { bounds := ⟨left + index * (width + gap), y, width, 62⟩
      value :=
        if uppercase = true ∧ 0x61 ≤ value ∧ value ≤ 0x7a then value - 0x61 + 0x41 else value }

/-- The keys that `render_wifi` lays out. -/
def wifiKeys (state : WifiState) : List WifiKey :=
  if state.symbols = true then
    addWifiKeyRow (ascii "1234567890") 86 false ++
      addWifiKeyRow (ascii "!@#$%^&*()") 154 false ++
      addWifiKeyRow (ascii "-_=+[]\x7b\x7d\\|") 222 false ++
      addWifiKeyRow (ascii "\x60~;:\x27\",./?<>") 290 false
  else
    addWifiKeyRow (ascii "qwertyuiop") 86 state.uppercase ++
      addWifiKeyRow (ascii "asdfghjkl") 154 state.uppercase ++
      addWifiKeyRow (ascii "zxcvbnm") 222 state.uppercase ++
      addWifiKeyRow (ascii "@._-") 290 false

/-- The buttons beside the back button, in the order in which they are tried. -/
def wifiButtons : List (Rect × ℤ) :=
  [(⟨330, 10, 310, 62⟩, wifiTargetSsid),
   (⟨650, 10, 330, 62⟩, wifiTargetPassphrase),
   (⟨990, 10, 274, 62⟩, wifiTargetSave),
   (⟨16, 364, 152, 66⟩, wifiTargetMode),
   (⟨176, 364, 168, 66⟩, wifiTargetShift),
   (⟨352, 364, 700, 66⟩, wifiTargetSpace),
   (⟨1060, 364, 204, 66⟩, wifiTargetDelete)]

/-- `wifi_target_at`, past the back button. -/
def wifiEditorTargetAt (state : WifiState) (x y : ℤ) : ℤ :=
  match hit wifiButtons x y with
  | some target => target
  | none =>
      match hit ((wifiKeys state).map WifiKey.bounds).zipIdx x y with
      | some index => wifiTargetKeyBase + (index : ℕ)
      | none => wifiTargetNone

/-- The text that is edited. -/
def WifiState.text (state : WifiState) : Bytes :=
  match state.field with
  | .ssid => state.ssid
  | .passphrase => state.passphrase

def WifiState.limit (state : WifiState) : ℕ :=
  match state.field with
  | .ssid => 32
  | .passphrase => 63

def WifiState.setText (state : WifiState) (text : Bytes) : WifiState :=
  match state.field with
  | .ssid => { state with ssid := text }
  | .passphrase => { state with passphrase := text }

def WifiState.pushBack (state : WifiState) (value : UInt8) : WifiState :=
  if state.text.length < state.limit then state.setText (state.text ++ [value]) else state

/-- `apply_wifi_target`; it may return false. -/
def applyWifiTarget (target : ℤ) (state : WifiState) : Option WifiState :=
  if target = wifiTargetSsid then some { state with field := .ssid }
  else if target = wifiTargetPassphrase then some { state with field := .passphrase }
  else if target = wifiTargetMode then some { state with symbols := !state.symbols }
  else if target = wifiTargetShift ∧ state.symbols = false then
    some { state with uppercase := !state.uppercase }
  else if target = wifiTargetDelete then some (state.setText state.text.dropLast)
  else if target = wifiTargetSpace then some (state.pushBack 0x20)
  else if wifiTargetKeyBase ≤ target then
    ((wifiKeys state)[(target - wifiTargetKeyBase).toNat]?).map fun key => state.pushBack key.value
  else none

/-- The editor, and how often the helper was called. -/
structure WifiScreen where
  state : WifiState
  saves : ℕ

section

variable (helper : ℕ → Bytes → Bool)

/-- `save_wifi_profile`; the helper gets the two texts, and succeeds or not. -/
def saveTarget (screen : WifiScreen) : WifiScreen :=
  let state := screen.state
  if !validWifiText state.ssid 1 32 then screen
  else if !validWifiText state.passphrase 8 63 then screen
  else
    { state :=
        if helper screen.saves (wifiRequest state.ssid state.passphrase) = true then
          { state with passphrase := [] }
        else state
      saves := screen.saves + 1 }

def wifiEditor : WifiEditor WifiScreen where
  targetAt screen x y := wifiEditorTargetAt screen.state x y
  apply target screen :=
    if target = wifiTargetSave then saveTarget helper screen
    else { screen with state := (applyWifiTarget target screen.state).getD screen.state }

/-! ### Actions -/

/-- What a finger that goes up can fire. -/
inductive Action where
  | closeCredits
  | closeWifi
  | wifi (target : ℤ)
  | setting (target : ℤ)
  | openCredits
  | openSettings
  | chooseSystem (index : ℕ)
  | stepGame (previous : Bool)
  | requestGame (index : ℤ)
  deriving DecidableEq

variable (games : List GameEntry)

/-- What fires when a finger that went down on `pressedTarget` goes up on a target. -/
def action (s : MenuState WifiScreen) (target : ℤ) : Option Action :=
  if s.creditsView = true ∧ s.pressedTarget = creditsTargetClose ∧ target = creditsTargetClose then
    some .closeCredits
  else if s.wifiView = true ∧ s.pressedTarget = target then
    if target = wifiTargetBack then some .closeWifi
    else if target = wifiTargetSave ∨ (applyWifiTarget target s.wifi.state).isSome = true then
      some (.wifi target)
    else none
  else if s.settingsView = true ∧ s.pressedTarget = target ∧
      s.pressedTarget ≠ settingsTargetNone then
    some (.setting target)
  else if s.dashboardView = true ∧ s.pressedTarget = menuTargetCredits ∧
      target = menuTargetCredits then
    some .openCredits
  else if s.dashboardView = true ∧ s.pressedTarget = menuTargetSettings ∧
      target = menuTargetSettings then
    some .openSettings
  else if s.dashboardView = true ∧ s.pressedTarget = target ∧
      menuTargetSystemBase ≤ s.pressedTarget ∧
      s.pressedTarget - menuTargetSystemBase < (s.layout games).systems.length then
    some (.chooseSystem (s.pressedTarget - menuTargetSystemBase).toNat)
  else if s.dashboardView = true ∧ s.pressedTarget = target ∧
      (s.pressedTarget = menuTargetGamePrevious ∨ s.pressedTarget = menuTargetGameNext) ∧
      (s.layout games).gameIndices ≠ [] then
    some (.stepGame (s.pressedTarget = menuTargetGamePrevious))
  else if s.dashboardView = true ∧ 0 ≤ s.pressedTarget ∧ s.pressedTarget = target ∧
      s.pressedTarget < games.length then
    some (.requestGame s.pressedTarget)
  else none

/-- What an action does. -/
def perform (s : MenuState WifiScreen) (now : ℤ) : Action → MenuState WifiScreen
  | .closeCredits => { s with creditsView := false }
  | .closeWifi => { s with wifiView := false }
  | .wifi target => { s with wifi := (wifiEditor helper).apply target s.wifi }
  | .setting target => activateSettingsTarget s target
  | .openCredits => { s with creditsView := true }
  | .openSettings => { s with settingsView := true, settingsSelection := settingsTargetVolumeDown }
  | .chooseSystem index =>
      { s with
        activeSystem := (s.layout games).systems.getD index s.activeSystem
        gamePosition := 0 }
  | .stepGame previous => s.stepPosition games previous
  | .requestGame index => MenuLoop.requestGame games s index now

/-- A place of the editor on which nothing lies is left alone. -/
theorem apply_eq_self {target : ℤ} {screen : WifiScreen}
    (h : ¬(target = wifiTargetSave ∨ (applyWifiTarget target screen.state).isSome = true)) :
    (wifiEditor helper).apply target screen = screen := by
  rw [not_or, Option.not_isSome_iff_eq_none] at h
  have happly : (wifiEditor helper).apply target screen =
      { screen with state := (applyWifiTarget target screen.state).getD screen.state } := if_neg h.1
  rw [happly, h.2]
  rfl

/-- **Nothing but an action changes the menu when a finger goes up.** -/
theorem release_eq (s : MenuState WifiScreen) (target now : ℤ) :
    release (wifiEditor helper) games s target now =
      (action games s target).elim s (perform helper games s now) := by
  have helim : ∀ (c : Prop) [Decidable c] (first second : Option Action),
      (if c then first else second).elim s (perform helper games s now) =
        if c then first.elim s (perform helper games s now)
        else second.elim s (perform helper games s now) := by
    intro c _ first second
    split <;> rfl
  -- a touch of the editor that changes nothing
  have hwifi : { s with wifi := (wifiEditor helper).apply target s.wifi } =
      if target = wifiTargetSave ∨ (applyWifiTarget target s.wifi.state).isSome = true then
        { s with wifi := (wifiEditor helper).apply target s.wifi }
      else s := by
    split
    · rfl
    next hacts => rw [apply_eq_self helper hacts]
  rw [release, action, hwifi]
  simp only [helim]
  rfl

end

/-- Where nothing lies, nothing is edited. -/
theorem not_acts_none (state : WifiState) :
    ¬(wifiTargetNone = wifiTargetSave ∨ (applyWifiTarget wifiTargetNone state).isSome = true) := by
  rw [not_or]
  refine ⟨by decide, ?_⟩
  rw [applyWifiTarget, if_neg (by decide), if_neg (by decide), if_neg (by decide),
    if_neg fun h => absurd h.1 (by decide), if_neg (by decide), if_neg (by decide),
    if_neg (by decide)]
  decide

/-- **An action needs a remembered target**, and it is the one on which the finger goes up. -/
theorem pressed_of_action {games : List GameEntry} {s : MenuState WifiScreen} {target : ℤ}
    {fired : Action} (h : action games s target = some fired) :
    s.pressedTarget = target ∧ s.pressedTarget ≠ menuTargetNone := by
  rw [action] at h
  split at h
  · next hclose =>
      rw [hclose.2.1, hclose.2.2]
      exact ⟨rfl, by decide⟩
  split at h
  · next hwifi =>
      refine ⟨hwifi.2, ?_⟩
      intro hnone
      have htarget : target = wifiTargetNone := hwifi.2.symm.trans hnone
      rw [htarget, if_neg (by decide), if_neg (not_acts_none s.wifi.state)] at h
      cases h
  split at h
  · next hsetting => exact hsetting.2
  split at h
  · next hcredits =>
      rw [hcredits.2.1, hcredits.2.2]
      exact ⟨rfl, by decide⟩
  split at h
  · next hsettings =>
      rw [hsettings.2.1, hsettings.2.2]
      exact ⟨rfl, by decide⟩
  split at h
  · next hsystem =>
      refine ⟨hsystem.2.1, ?_⟩
      intro hnone
      exact absurd (hnone ▸ hsystem.2.2.1) (by decide)
  split at h
  · next hstep =>
      refine ⟨hstep.2.1, ?_⟩
      intro hnone
      have hdirection := hstep.2.2.1
      rw [hnone] at hdirection
      exact absurd hdirection (by decide)
  split at h
  · next hgame =>
      refine ⟨hgame.2.2.1, ?_⟩
      intro hnone
      exact absurd (hnone ▸ hgame.2.1) (by decide)
  · cases h

/-! ### The history of a run -/

/-- The view that is displayed. -/
inductive View where
  | credits
  | wifi
  | settings
  | dashboard
  deriving DecidableEq

def view (s : MenuState WifiScreen) : View :=
  if s.creditsView = true then .credits
  else if s.wifiView = true then .wifi
  else if s.settingsView = true then .settings
  else .dashboard

/-- A report that was handled, with the view in which it was handled, the target that it is on, and
what it fired; or a point at which the loop let go of the input it had. -/
inductive Moment where
  | report (view : View) (target : ℤ) (pressed released : Bool) (fired : Option Action)
  | interrupted (view : View)

/-- The view and the target of a pressed report. -/
def Moment.press : Moment → Option (View × ℤ)
  | .report view target pressed _ _ => if pressed = true then some (view, target) else none
  | .interrupted _ => none

/-- The most recent pressed report. -/
def mostRecentPress (history : List Moment) : Option (View × ℤ) := history.findSome? Moment.press

/-- Since the most recent pressed report there were only reports in this view, and the finger did
not go up. -/
def Undisturbed (shown : View) : List Moment → Prop
  | [] => False
  | .interrupted _ :: _ => False
  | .report view _ pressed released _ :: older =>
      view = shown ∧ released = false ∧ (pressed = true ∨ Undisturbed shown older)

/-- What a report fires, the most recent press asked for, in the same view and without a change of
the view since. -/
def Matched : Moment → List Moment → Prop
  | .interrupted _, _ => True
  | .report view target pressed released fired, older =>
      fired.isSome = true →
        released = true ∧
          mostRecentPress (.report view target pressed released fired :: older) =
            some (view, target) ∧
          (pressed = true ∨ Undisturbed view older)

section

variable (helper : ℕ → Bytes → Bool) (games : List GameEntry)

/-- What is fired by a report. -/
def firedBy (s : MenuState WifiScreen) (report : MenuLoop.TouchReport) : Option Action :=
  let target := s.target (wifiEditor helper) games report.x report.y
  if report.released = true then
    action games (cancelUnlessReboot games (press s report target) target) target
  else none

/-- A report that is handled. -/
def momentOf (s : MenuState WifiScreen) (report : MenuLoop.TouchReport) : Moment :=
  .report (view s) (s.target (wifiEditor helper) games report.x report.y) report.pressed
    report.released (firedBy helper games s report)

/-- A run up to some point: the variables of the loop, and the history. -/
structure Session where
  state : MenuState WifiScreen
  history : List Moment

namespace Session

def start (wifi : WifiScreen) : Session := ⟨MenuState.start games wifi, []⟩

/-- The loop lets go of the input. -/
def interrupt (session : Session) : Session :=
  { session with history := .interrupted (view session.state) :: session.history }

def report (session : Session) (input : MenuLoop.TouchReport) : Session where
  state := handleReport (wifiEditor helper) games session.state input
  history := momentOf helper games session.state input :: session.history

/-- The beginning of an iteration. -/
def begin (session : Session) (batch : Batch) : Session :=
  let begun := { session with state := beginIteration session.state batch }
  if batch.touchLost = true then begun.interrupt else begun

/-- The handling of the input. -/
def input (session : Session) (batch : Batch) : Session :=
  if batchCommand session.state batch ≠ .none then
    { session with state := handleInput (wifiEditor helper) games session.state batch }.interrupt
  else batch.reports.foldl (report helper games) session

/-- One iteration. -/
def step (options : Options) (session : Session) (batch : Batch) : Session :=
  let handled := (session.begin batch).input helper games batch
  let after := { handled with
    state := (iteration (wifiEditor helper) games options session.state batch).2 }
  if (iteration (wifiEditor helper) games options session.state batch).1.isSome then after.interrupt
  else after

def run (options : Options) (session : Session) (batches : List Batch) : Session :=
  batches.foldl (step helper games options) session

/-- What is remembered was pressed in the view that is shown. -/
def Pending (session : Session) : Prop :=
  session.state.pressedTarget = menuTargetNone ∨
    (mostRecentPress session.history = some (view session.state, session.state.pressedTarget) ∧
      Undisturbed (view session.state) session.history)

/-- Every report of the history fired what its press asked for. -/
def AllMatched (session : Session) : Prop :=
  ∀ moment older, moment :: older <:+ session.history → Matched moment older

end Session

end

/-! ### One event -/

section

variable {helper : ℕ → Bytes → Bool} {games : List GameEntry} {session : Session}

/-- A report that does not lift the finger. -/
theorem handleReport_of_not_released (s : MenuState WifiScreen) {report : MenuLoop.TouchReport}
    (h : report.released = false) :
    handleReport (wifiEditor helper) games s report =
      press s report (s.target (wifiEditor helper) games report.x report.y) := if_pos h

/-- When the finger goes up, the target is forgotten. -/
theorem handleReport_of_released (s : MenuState WifiScreen) {report : MenuLoop.TouchReport}
    (h : report.released = true) :
    (handleReport (wifiEditor helper) games s report).pressedTarget = menuTargetNone := by
  rw [handleReport]
  dsimp only
  rw [if_neg (by simp [h])]

theorem cancelUnlessReboot_pressedTarget (s : MenuState WifiScreen) (target : ℤ) :
    (cancelUnlessReboot games s target).pressedTarget = s.pressedTarget := by
  rw [cancelUnlessReboot]
  split
  · rfl
  · rfl

/-- **What a report fires, its press asked for.** -/
theorem matched_report (h : session.Pending) (report : MenuLoop.TouchReport) :
    Matched (momentOf helper games session.state report) session.history := by
  rw [momentOf, Matched]
  intro hfires
  obtain ⟨fired, hfired⟩ := Option.isSome_iff_exists.1 hfires
  have hreleased : report.released = true := by
    by_contra hnot
    rw [firedBy, if_neg hnot] at hfired
    cases hfired
  rw [firedBy, if_pos hreleased] at hfired
  obtain ⟨htarget, hnone⟩ := pressed_of_action hfired
  rw [cancelUnlessReboot_pressedTarget] at htarget hnone
  rw [press] at htarget hnone
  refine ⟨hreleased, ?_⟩
  cases hpressed : report.pressed with
  | true => exact ⟨rfl, Or.inl rfl⟩
  | false =>
      rw [hpressed, if_neg (by decide)] at htarget hnone
      obtain ⟨hrecent, hundisturbed⟩ := h.resolve_left hnone
      rw [htarget] at hrecent
      exact ⟨hrecent, Or.inr hundisturbed⟩

theorem pending_report (h : session.Pending) (report : MenuLoop.TouchReport) :
    (session.report helper games report).Pending := by
  rw [Session.report, Session.Pending]
  dsimp only
  cases hreleased : report.released with
  | true => exact Or.inl (handleReport_of_released session.state hreleased)
  | false =>
      rw [handleReport_of_not_released session.state hreleased, momentOf, press]
      cases hpressed : report.pressed with
      | true =>
          rw [if_pos rfl]
          exact Or.inr ⟨rfl, rfl, hreleased, Or.inl rfl⟩
      | false =>
          rw [if_neg (by decide)]
          refine h.imp_right fun hpending => ⟨?_, rfl, hreleased, Or.inr hpending.2⟩
          exact hpending.1

theorem stepPosition_pressedTarget (s : MenuState WifiScreen) (previous : Bool) :
    (s.stepPosition games previous).pressedTarget = s.pressedTarget := by
  rw [MenuState.stepPosition]
  split
  · rfl
  split
  · rfl
  · rfl

theorem requestGame_pressedTarget (s : MenuState WifiScreen) (gameIndex now : ℤ) :
    (MenuLoop.requestGame games s gameIndex now).pressedTarget = s.pressedTarget := by
  rw [MenuLoop.requestGame]
  split
  · rfl
  split
  · rfl
  dsimp only
  split
  · rfl
  split
  · split
    · rfl
    · rfl
  · rfl

theorem activateSettingsTarget_pressedTarget (s : MenuState WifiScreen) (target : ℤ) :
    (activateSettingsTarget s target).pressedTarget = s.pressedTarget := by
  rw [activateSettingsTarget]
  dsimp only
  split
  · rfl
  split
  · rfl
  split
  · rfl
  · rfl

/-- A command of the buttons leaves the remembered target alone. -/
theorem handleCommand_pressedTarget (s : MenuState WifiScreen) (command : MenuGamepadCommand)
    (now : ℤ) : (handleCommand games s command now).pressedTarget = s.pressedTarget := by
  cases command with
  | none => rfl
  | back =>
      rw [handleCommand]
      split
      · rfl
      split
      · rfl
      · rfl
  | settings => rfl
  | systemPrevious => rfl
  | systemNext => rfl
  | previous =>
      rw [handleCommand]
      split
      · rfl
      · exact stepPosition_pressedTarget _ true
  | next =>
      rw [handleCommand]
      split
      · rfl
      · exact stepPosition_pressedTarget _ false
  | confirm =>
      rw [handleCommand]
      split
      · exact activateSettingsTarget_pressedTarget s _
      split
      · rfl
      · rw [requestGame_pressedTarget]
        split
        · rfl
        · rfl

/-- With nothing remembered, nothing is pending. -/
theorem pending_of_none (h : session.state.pressedTarget = menuTargetNone) :
    session.Pending := Or.inl h

theorem pending_begin (h : session.Pending) (batch : Batch) : (session.begin batch).Pending := by
  rw [Session.begin]
  split
  · next hlost => exact pending_of_none (if_pos hlost)
  · next hkept =>
      have hpressed : (beginIteration session.state batch).pressedTarget =
          session.state.pressedTarget := if_neg hkept
      rw [Session.Pending]
      dsimp only
      rw [hpressed]
      exact h

theorem pending_reports (h : session.Pending) (reports : List MenuLoop.TouchReport) :
    (reports.foldl (Session.report helper games) session).Pending := by
  induction reports generalizing session with
  | nil => exact h
  | cons report reports ih => exact ih (pending_report h report)

theorem pending_input (h : session.Pending) (batch : Batch) :
    (session.input helper games batch).Pending := by
  rw [Session.input]
  split
  · next hcommand =>
      refine pending_of_none ?_
      rw [Session.interrupt]
      dsimp only
      rw [handleInput, if_pos hcommand, handleCommand_pressedTarget]
  · exact pending_reports h batch.reports

/-- The handling of the reports is that of the loop. -/
theorem state_reports (reports : List MenuLoop.TouchReport) (session : Session) :
    (reports.foldl (Session.report helper games) session).state =
      reports.foldl (handleReport (wifiEditor helper) games) session.state := by
  induction reports generalizing session with
  | nil => rfl
  | cons report reports ih => exact ih (session.report helper games report)

theorem state_input (session : Session) (batch : Batch) :
    (session.input helper games batch).state =
      handleInput (wifiEditor helper) games session.state batch := by
  rw [Session.input]
  split
  · rfl
  · next hcommand => rw [state_reports, handleInput, if_neg hcommand]

theorem state_begin (session : Session) (batch : Batch) :
    (session.begin batch).state = beginIteration session.state batch := by
  rw [Session.begin]
  split
  · rfl
  · rfl

/-- **What is remembered was pressed in the view that is shown.** -/
theorem Session.pending_step (h : session.Pending) (options : Options) (batch : Batch) :
    (session.step helper games options batch).Pending := by
  have hinput : ((session.begin batch).input helper games batch).Pending :=
    pending_input (pending_begin h batch) batch
  have hstate : ((session.begin batch).input helper games batch).state =
      handleInput (wifiEditor helper) games (beginIteration session.state batch) batch := by
    rw [state_input, state_begin]
  rw [Session.step]
  split
  · next hstarted =>
      rw [iteration] at hstarted
      refine pending_of_none ?_
      rw [Session.interrupt, iteration]
      dsimp only
      rw [if_pos hstarted]
  · next hstarted =>
      rw [iteration] at hstarted
      rw [Session.Pending, iteration]
      dsimp only
      rw [if_neg hstarted, ← hstate]
      exact hinput

/-! ### Runs -/

theorem allMatched_of_history {other : Session} (h : session.AllMatched)
    (hhistory : other.history = session.history) : other.AllMatched := by
  intro moment older hsuffix
  rw [hhistory] at hsuffix
  exact h moment older hsuffix

/-- One more moment. -/
theorem Session.AllMatched.cons (h : session.AllMatched) {moment : Moment} {other : Session}
    (hmoment : Matched moment session.history)
    (hhistory : other.history = moment :: session.history) : other.AllMatched := by
  intro one older hsuffix
  rw [hhistory, List.suffix_cons_iff] at hsuffix
  rcases hsuffix with heq | hsuffix
  · obtain ⟨rfl, rfl⟩ := List.cons.inj heq
    exact hmoment
  · exact h one older hsuffix

theorem Session.AllMatched.interrupt (h : session.AllMatched) :
    session.interrupt.AllMatched := by
  have hmoment : Matched (.interrupted (view session.state)) session.history := trivial
  exact h.cons hmoment rfl

theorem allMatched_begin (h : session.AllMatched) (batch : Batch) :
    (session.begin batch).AllMatched := by
  have hbegun : Session.AllMatched { session with state := beginIteration session.state batch } :=
    allMatched_of_history h rfl
  rw [Session.begin]
  split
  · exact hbegun.interrupt
  · exact hbegun

theorem allMatched_reports (hpending : session.Pending) (h : session.AllMatched)
    (reports : List MenuLoop.TouchReport) :
    (reports.foldl (Session.report helper games) session).AllMatched := by
  induction reports generalizing session with
  | nil => exact h
  | cons report reports ih =>
      exact ih (pending_report hpending report) (h.cons (matched_report hpending report) rfl)

theorem allMatched_input (hpending : session.Pending) (h : session.AllMatched) (batch : Batch) :
    (session.input helper games batch).AllMatched := by
  have hcommanded : Session.AllMatched
      { session with state := handleInput (wifiEditor helper) games session.state batch } :=
    allMatched_of_history h rfl
  rw [Session.input]
  split
  · exact hcommanded.interrupt
  · exact allMatched_reports hpending h batch.reports

theorem allMatched_step (hpending : session.Pending) (h : session.AllMatched) (options : Options)
    (batch : Batch) : (session.step helper games options batch).AllMatched := by
  have hinput : ((session.begin batch).input helper games batch).AllMatched :=
    allMatched_input (pending_begin hpending batch) (allMatched_begin h batch) batch
  have hafter : Session.AllMatched { (session.begin batch).input helper games batch with
      state := (iteration (wifiEditor helper) games options session.state batch).2 } :=
    allMatched_of_history hinput rfl
  rw [Session.step]
  split
  · exact hafter.interrupt
  · exact hafter

theorem allMatched_run (hpending : session.Pending) (h : session.AllMatched) (options : Options)
    (batches : List Batch) : (session.run helper games options batches).AllMatched := by
  induction batches generalizing session with
  | nil => exact h
  | cons batch batches ih =>
      exact ih (Session.pending_step hpending options batch)
        (allMatched_step hpending h options batch)

end

/-- **In every run, an action fires only when the finger goes up on the target of the most recent
press, in the view in which this press was made**, with no change of the view since. -/
theorem actions_matched (helper : ℕ → Bytes → Bool) (games : List GameEntry) (options : Options)
    (wifi : WifiScreen) (batches : List Batch) :
    ((Session.start games wifi).run helper games options batches).AllMatched := by
  refine allMatched_run (pending_of_none rfl) ?_ options batches
  intro moment older hsuffix
  exact absurd (List.suffix_nil.1 hsuffix) (List.cons_ne_nil moment older)

/-- The finger goes down and up on the button of the settings. -/
example : action [] { MenuState.start [] ⟨.initial, 0⟩ with pressedTarget := menuTargetSettings }
    (targetAt (menuLayout [] [] 0) 1240 440) = some .openSettings := by
  decide

end NesDeck.MenuTouch
