/-
**The loop of the menu.**

`application_main` (`deck_menu.cpp`) waits for input, handles everything that has arrived, and then
starts at most one program.  What is to be started is collected in three variables while the input
is handled: the selected game, the mode of a terminal, and the request to reboot.  The deadline of
the reboot confirmation and the target under the finger live across the iterations.

The layout of the dashboard is computed from the active system and the position, since every
change of one of them draws the dashboard at once.  The volume, the brightness, the key map, the
line of status, the sounds and the text in the Wi-Fi editor have no part in what is started; what
lies on the Wi-Fi screen beside its back button is a parameter.

Main definitions:

* `NesDeck.MenuLoop.emulatorForGame`, `NesDeck.MenuLoop.Program` — what can be started;
* `NesDeck.MenuLoop.targetAt`, `NesDeck.MenuLoop.settingsTargetAt` — what lies under a finger;
* `NesDeck.MenuLoop.menuGamepadCommand` — what a set of pressed buttons means;
* `NesDeck.MenuLoop.MenuState` — the variables of the loop;
* `NesDeck.MenuLoop.requestGame`, `NesDeck.MenuLoop.handleCommand`,
  `NesDeck.MenuLoop.handleReport` — the handling of one event;
* `NesDeck.MenuLoop.iteration` — one iteration, with the program that it starts.

Main results:

* `NesDeck.MenuLoop.command_of_modal` — on the credits and the Wi-Fi screen only the back button
  has an effect.
-/

import NesDeck.RenderMenu

set_option relaxedAutoImplicit false
set_option autoImplicit false

namespace NesDeck.MenuLoop

open HostFile (Bytes ascii)
open MenuUi (Rect)
open RenderMenu

/-! ### Programs -/

/-- The executables of the command line. -/
structure Options where
  nesEmulator : Bytes
  gbEmulator : Bytes
  zxEmulator : Bytes
  chip8Emulator : Bytes
  deckGame : Bytes
  chiptunePlayer : Bytes

def emulatorForGame (options : Options) (game : GameEntry) : Bytes :=
  if game.system = ascii "nes" then options.nesEmulator
  else if game.system = ascii "gb" ∨ game.system = ascii "gbc" then options.gbEmulator
  else if game.system = ascii "zx" then options.zxEmulator
  else if game.system = ascii "deck" then
    if isBuiltInChiptune game = true then options.chiptunePlayer else options.deckGame
  else options.chip8Emulator

/-- The programs that `run_terminal`, `run_reboot` and `run_game` start. -/
inductive Program where
  | terminal (mode : Bytes)
  | reboot (executable : Bytes)
  | game (emulator : Bytes) (game : GameEntry)

/-! ### Targets -/

def menuTargetNone : ℤ := -1
def menuTargetSettings : ℤ := -2
def menuTargetGamePrevious : ℤ := -3
def menuTargetGameNext : ℤ := -4
def menuTargetCredits : ℤ := -5
def menuTargetSystemBase : ℤ := 1000

def settingsTargetNone : ℤ := -1
def settingsTargetClose : ℤ := 0
def settingsTargetVolumeDown : ℤ := 1
def settingsTargetVolumeUp : ℤ := 2
def settingsTargetBrightnessDown : ℤ := 3
def settingsTargetBrightnessUp : ℤ := 4
def settingsTargetTerminal : ℤ := 5
def settingsTargetKeymap : ℤ := 6
def settingsTargetWifi : ℤ := 7

def creditsTargetNone : ℤ := -1
def creditsTargetClose : ℤ := 0

def wifiTargetBack : ℤ := 100

def intMax : ℕ := 2147483647

/-- The first of the buttons that contains a point. -/
def hit {α : Type} (buttons : List (Rect × α)) (x y : ℤ) : Option α :=
  (buttons.find? fun button => button.1.contains x y).map Prod.snd

/-- A button with a point is found if no other button has the point. -/
theorem hit_eq_some {α : Type} {buttons : List (Rect × α)} {button : Rect × α}
    (hmem : button ∈ buttons) {x y : ℤ} (hcontains : button.1.contains x y = true)
    (hunique : ∀ other ∈ buttons, other.1.contains x y = true → other = button) :
    hit buttons x y = some button.2 := by
  have hsome : (buttons.find? fun button => button.1.contains x y).isSome = true :=
    List.find?_isSome.2 ⟨button, hmem, hcontains⟩
  obtain ⟨found, hfound⟩ := Option.isSome_iff_exists.1 hsome
  have hsame := hunique found (List.mem_of_find?_eq_some hfound)
    (List.find?_some (p := fun button : Rect × α => button.1.contains x y) hfound)
  rw [hit, hfound, hsame, Option.map_some]

/-- No button is found where none has the point. -/
theorem hit_eq_none {α : Type} {buttons : List (Rect × α)} {x y : ℤ}
    (h : ∀ button ∈ buttons, button.1.contains x y = false) : hit buttons x y = none := by
  rw [hit, List.find?_eq_none.2, Option.map_none]
  intro button hmem
  simp [h button hmem]

def targetAt (layout : MenuLayout) (x y : ℤ) : ℤ :=
  if layout.creditsButton.contains x y = true then menuTargetCredits
  else if layout.settingsButton.contains x y = true then menuTargetSettings
  else if layout.gamePreviousButton.contains x y = true then menuTargetGamePrevious
  else if layout.gameNextButton.contains x y = true then menuTargetGameNext
  else
    match hit layout.systemButtons.zipIdx x y with
    | some index => menuTargetSystemBase + (index : ℕ)
    | none =>
        match hit ((layout.gameButtons.zip layout.visibleGameIndices).filter
            fun card : Rect × ℕ => card.2 < intMax) x y with
        | some index => (index : ℕ)
        | none => menuTargetNone

/-- The buttons of the settings, in the order in which they are tried. -/
def settingsButtons : List (Rect × ℤ) :=
  [(⟨1212, 12, 56, 56⟩, settingsTargetClose),
   (⟨108, 208, 104, 104⟩, settingsTargetVolumeDown),
   (⟨228, 208, 104, 104⟩, settingsTargetVolumeUp),
   (⟨438, 208, 104, 104⟩, settingsTargetBrightnessDown),
   (⟨558, 208, 104, 104⟩, settingsTargetBrightnessUp),
   (⟨792, 208, 112, 104⟩, settingsTargetTerminal),
   (⟨1036, 208, 112, 104⟩, settingsTargetKeymap),
   (⟨926, 20, 262, 108⟩, settingsTargetWifi)]

def settingsTargetAt (x y : ℤ) : ℤ := (hit settingsButtons x y).getD settingsTargetNone

def creditsTargetAt (x y : ℤ) : ℤ :=
  (hit [((⟨1212, 12, 56, 56⟩ : Rect), creditsTargetClose)] x y).getD creditsTargetNone

/-- The rest of the Wi-Fi editor: its fields and keys, and what they do. -/
structure WifiEditor (W : Type) where
  targetAt : W → ℤ → ℤ → ℤ
  apply : ℤ → W → W

section

variable {W : Type} (editor : WifiEditor W)

def wifiTargetAt (wifi : W) (x y : ℤ) : ℤ :=
  if (⟨16, 10, 120, 62⟩ : Rect).contains x y = true then wifiTargetBack
  else editor.targetAt wifi x y

end

/-! ### Buttons -/

def kMenuPadConfirm : ℕ := 1
def kMenuPadBack : ℕ := 2
def kMenuPadUp : ℕ := 4
def kMenuPadDown : ℕ := 8
def kMenuPadLeft : ℕ := 16
def kMenuPadRight : ℕ := 32
def kMenuPadSystemPrevious : ℕ := 64
def kMenuPadSystemNext : ℕ := 128
def kMenuPadSettings : ℕ := 256

inductive MenuGamepadCommand where
  | none
  | previous
  | next
  | systemPrevious
  | systemNext
  | confirm
  | back
  | settings
  deriving DecidableEq

def menuGamepadCommand (pressed : ℕ) (modalView settingsView : Bool) : MenuGamepadCommand :=
  if (modalView = true ∨ settingsView = true) ∧ pressed &&& kMenuPadBack ≠ 0 then .back
  else if modalView = true then .none
  else if pressed &&& kMenuPadSettings ≠ 0 then .settings
  else if settingsView = false ∧ pressed &&& kMenuPadSystemPrevious ≠ 0 then .systemPrevious
  else if settingsView = false ∧ pressed &&& kMenuPadSystemNext ≠ 0 then .systemNext
  else if pressed &&& (kMenuPadLeft ||| kMenuPadUp) ≠ 0 then .previous
  else if pressed &&& (kMenuPadRight ||| kMenuPadDown) ≠ 0 then .next
  else if pressed &&& kMenuPadConfirm ≠ 0 then .confirm
  else .none

theorem command_of_modal (pressed : ℕ) (settingsView : Bool) :
    menuGamepadCommand pressed true settingsView = .back ∨
      menuGamepadCommand pressed true settingsView = .none := by
  rw [menuGamepadCommand]
  split
  · exact Or.inl rfl
  · exact Or.inr (if_pos rfl)

/-! ### The state -/

def kRebootConfirmMs : ℤ := 4000

def rebootConfirmationActive (deadline now : ℤ) : Bool := 0 < deadline ∧ now < deadline

/-- The variables of the loop.  The last three are those of a single iteration. -/
structure MenuState (W : Type) where
  creditsView : Bool
  wifiView : Bool
  settingsView : Bool
  settingsSelection : ℤ
  activeSystem : Bytes
  gamePosition : ℕ
  wifi : W
  pressedTarget : ℤ
  rebootArmedUntil : ℤ
  selectedGame : ℤ
  terminalMode : Bytes
  rebootRequested : Bool

def initialSystem (games : List GameEntry) : Bytes :=
  match (kSystemDefinitions.map Prod.fst).find? (hasSystem games) with
  | some system => system
  | none => (games.head?.map GameEntry.system).getD []

def adjacentSystem (systems : List Bytes) (activeSystem : Bytes) (direction : ℤ) : Bytes :=
  if systems = [] then activeSystem
  else
    let found := systems.idxOf activeSystem
    let position := if found = systems.length then 0 else found
    let next :=
      if direction < 0 then if position = 0 then systems.length - 1 else position - 1
      else (position + 1) % systems.length
    systems.getD next activeSystem

namespace MenuState

variable {W : Type} (editor : WifiEditor W) (games : List GameEntry)

/-- The state before the first iteration. -/
def start (wifi : W) : MenuState W where
  creditsView := false
  wifiView := false
  settingsView := false
  settingsSelection := settingsTargetVolumeDown
  activeSystem := initialSystem games
  gamePosition := 0
  wifi
  pressedTarget := menuTargetNone
  rebootArmedUntil := 0
  selectedGame := -1
  terminalMode := []
  rebootRequested := false

def layout (s : MenuState W) : MenuLayout := menuLayout games s.activeSystem s.gamePosition

def dashboardView (s : MenuState W) : Bool := !s.creditsView && !s.wifiView && !s.settingsView

/-- The target under a finger, on the screen that is shown. -/
def target (s : MenuState W) (x y : ℤ) : ℤ :=
  if s.creditsView = true then creditsTargetAt x y
  else if s.wifiView = true then wifiTargetAt editor s.wifi x y
  else if s.settingsView = true then settingsTargetAt x y
  else targetAt (s.layout games) x y

def cancelRebootConfirmation (s : MenuState W) : MenuState W := { s with rebootArmedUntil := 0 }

/-- The position after one step to the left or to the right. -/
def stepPosition (s : MenuState W) (previous : Bool) : MenuState W :=
  let count := (s.layout games).gameIndices.length
  if count = 0 then s
  else if previous = true then
    { s with gamePosition := if s.gamePosition = 0 then count - 1 else s.gamePosition - 1 }
  else { s with gamePosition := (s.gamePosition + 1) % count }

end MenuState

open MenuState

/-! ### Events -/

section

variable {W : Type} (editor : WifiEditor W) (games : List GameEntry)

def requestGame (s : MenuState W) (gameIndex now : ℤ) : MenuState W :=
  if gameIndex < 0 then s
  else
    match games[gameIndex.toNat]? with
    | none => s
    | some game =>
        let requestedMode := terminalModeForGame game
        if requestedMode ≠ [] then { s with terminalMode := requestedMode }
        else if isBuiltInReboot game = true then
          if rebootConfirmationActive s.rebootArmedUntil now = true then
            { s with rebootArmedUntil := 0, rebootRequested := true, selectedGame := gameIndex }
          else { s with rebootArmedUntil := now + kRebootConfirmMs }
        else { s with selectedGame := gameIndex }

/-- `activate_settings_target`.  Volume, brightness and key map change none of the variables. -/
def activateSettingsTarget (s : MenuState W) (target : ℤ) : MenuState W :=
  let s := { s with settingsSelection := target }
  if target = settingsTargetClose then { s with settingsView := false }
  else if target = settingsTargetTerminal then { s with terminalMode := ascii "shell" }
  else if target = settingsTargetWifi then { s with wifiView := true }
  else s

/-- The selected setting, one step to the left or to the right. -/
def stepSetting (selection : ℤ) (previous : Bool) : ℤ :=
  if previous = true then
    if selection ≤ settingsTargetVolumeDown then settingsTargetWifi else selection - 1
  else if settingsTargetWifi ≤ selection then settingsTargetVolumeDown
  else selection + 1

def handleCommand (s : MenuState W) (command : MenuGamepadCommand) (now : ℤ) : MenuState W :=
  match command with
  | .none => s
  | .back =>
      let s := s.cancelRebootConfirmation
      if s.creditsView = true then { s with creditsView := false }
      else if s.wifiView = true then { s with wifiView := false }
      else { s with settingsView := false }
  | .settings =>
      let s := s.cancelRebootConfirmation
      { s with
        settingsView := !s.settingsView
        settingsSelection :=
          if s.settingsView = false then settingsTargetVolumeDown else s.settingsSelection }
  | .systemPrevious =>
      let s := s.cancelRebootConfirmation
      { s with
        activeSystem := adjacentSystem (s.layout games).systems s.activeSystem (-1)
        gamePosition := 0 }
  | .systemNext =>
      let s := s.cancelRebootConfirmation
      { s with
        activeSystem := adjacentSystem (s.layout games).systems s.activeSystem 1
        gamePosition := 0 }
  | .previous =>
      let s := s.cancelRebootConfirmation
      if s.settingsView = true then
        { s with settingsSelection := stepSetting s.settingsSelection true }
      else s.stepPosition games true
  | .next =>
      let s := s.cancelRebootConfirmation
      if s.settingsView = true then
        { s with settingsSelection := stepSetting s.settingsSelection false }
      else s.stepPosition games false
  | .confirm =>
      if s.settingsView = true then activateSettingsTarget s s.settingsSelection
      else
        match games[(s.layout games).shownGameIndex]? with
        | none => s
        | some game =>
            requestGame games
              (if isBuiltInReboot game = true then s else s.cancelRebootConfirmation)
              (s.layout games).shownGameIndex now

/-- A report of the touch screen, with the time at which it is handled. -/
structure TouchReport where
  x : ℤ
  y : ℤ
  pressed : Bool
  released : Bool
  handledAt : ℤ

/-- What is done when a finger that went down on `pressedTarget` goes up on a target. -/
def release (s : MenuState W) (target now : ℤ) : MenuState W :=
  if s.creditsView = true ∧ s.pressedTarget = creditsTargetClose ∧ target = creditsTargetClose then
    { s with creditsView := false }
  else if s.wifiView = true ∧ s.pressedTarget = target then
    if target = wifiTargetBack then { s with wifiView := false }
    else { s with wifi := editor.apply target s.wifi }
  else if s.settingsView = true ∧ s.pressedTarget = target ∧
      s.pressedTarget ≠ settingsTargetNone then
    activateSettingsTarget s target
  else if s.dashboardView = true ∧ s.pressedTarget = menuTargetCredits ∧
      target = menuTargetCredits then
    { s with creditsView := true }
  else if s.dashboardView = true ∧ s.pressedTarget = menuTargetSettings ∧
      target = menuTargetSettings then
    { s with settingsView := true, settingsSelection := settingsTargetVolumeDown }
  else if s.dashboardView = true ∧ s.pressedTarget = target ∧
      menuTargetSystemBase ≤ s.pressedTarget ∧
      s.pressedTarget - menuTargetSystemBase < (s.layout games).systems.length then
    { s with
      activeSystem := (s.layout games).systems.getD
        (s.pressedTarget - menuTargetSystemBase).toNat s.activeSystem
      gamePosition := 0 }
  else if s.dashboardView = true ∧ s.pressedTarget = target ∧
      (s.pressedTarget = menuTargetGamePrevious ∨ s.pressedTarget = menuTargetGameNext) ∧
      (s.layout games).gameIndices ≠ [] then
    s.stepPosition games (s.pressedTarget = menuTargetGamePrevious)
  else if s.dashboardView = true ∧ 0 ≤ s.pressedTarget ∧ s.pressedTarget = target ∧
      s.pressedTarget < games.length then
    requestGame games s s.pressedTarget now
  else s

/-- The finger goes up on the card of what the code takes for the reboot entry. -/
def releasedReboot (s : MenuState W) (target : ℤ) : Bool :=
  s.dashboardView && decide (0 ≤ target) && (games[target.toNat]?).any isBuiltInReboot

/-- A finger that goes up anywhere else cancels an armed request. -/
def cancelUnlessReboot (s : MenuState W) (target : ℤ) : MenuState W :=
  if 0 < s.rebootArmedUntil ∧ releasedReboot games s target = false then
    s.cancelRebootConfirmation
  else s

/-- A finger goes down on a target, or not. -/
def press (s : MenuState W) (report : TouchReport) (target : ℤ) : MenuState W :=
  { s with pressedTarget := if report.pressed = true then target else s.pressedTarget }

def handleReport (s : MenuState W) (report : TouchReport) : MenuState W :=
  let target := s.target editor games report.x report.y
  let s := press s report target
  if report.released = false then s
  else
    let s := cancelUnlessReboot games s target
    { release editor games s target report.handledAt with pressedTarget := menuTargetNone }

/-! ### Iterations -/

/-- What one iteration reads: the buttons and the reports that the guards let through, and the
times at which the clock is read.  `touchLost` says that the touch screen failed, or that its
input is dropped while a sound is played. -/
structure Batch where
  checkedAt : ℤ
  touchLost : Bool
  pressed : ℕ
  commandAt : ℤ
  reports : List TouchReport

/-- The beginning of an iteration, up to the handling of the input. -/
def beginIteration (s : MenuState W) (batch : Batch) : MenuState W :=
  { s with
    rebootArmedUntil :=
      if 0 < s.rebootArmedUntil ∧
          rebootConfirmationActive s.rebootArmedUntil batch.checkedAt = false then 0
      else s.rebootArmedUntil
    pressedTarget := if batch.touchLost = true then menuTargetNone else s.pressedTarget
    selectedGame := -1
    terminalMode := []
    rebootRequested := false }

def batchCommand (s : MenuState W) (batch : Batch) : MenuGamepadCommand :=
  menuGamepadCommand batch.pressed (s.wifiView || s.creditsView) s.settingsView

/-- The handling of the input.  A command of the buttons drops the reports. -/
def handleInput (s : MenuState W) (batch : Batch) : MenuState W :=
  if batchCommand s batch ≠ .none then
    handleCommand games { s with pressedTarget := menuTargetNone } (batchCommand s batch)
      batch.commandAt
  else batch.reports.foldl (handleReport editor games) s

/-- The program that is started after the handling of the input. -/
def launch (options : Options) (s : MenuState W) : Option Program :=
  if s.selectedGame < 0 ∧ s.terminalMode = [] ∧ s.rebootRequested = false then none
  else if s.terminalMode ≠ [] then some (.terminal s.terminalMode)
  else
    (games[s.selectedGame.toNat]?).map fun game =>
      if s.rebootRequested = true then .reboot game.rom
      else .game (emulatorForGame options game) game

/-- One iteration: the program that it starts, and the state after that. -/
def iteration (options : Options) (s : MenuState W) (batch : Batch) :
    Option Program × MenuState W :=
  let s := handleInput editor games (beginIteration s batch) batch
  let program := launch games options s
  (program, if program.isSome then { s with pressedTarget := menuTargetNone } else s)

end

end NesDeck.MenuLoop
