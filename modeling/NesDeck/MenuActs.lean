/-
**What the user of the menu asks for.**

The loop of the menu collects what is to be started in three variables, and looks at them when all
the input of an iteration is handled.  Here the input is read as a list of acts of the user, newest
first: activations of entries, of the terminal of the settings, and everything else.  Every entry
of the dashboard has a purpose by its place in the list, the entries of the catalog before those of
the menu.  What an activation stands for then depends on the acts alone: the reboot entry has to be
activated twice, within four seconds and with nothing in between.

Main definitions:

* `NesDeck.MenuLaunch.Dashboard`, `NesDeck.MenuLaunch.Purpose` — the entries and their purposes;
* `NesDeck.MenuLaunch.Act`, `NesDeck.MenuLaunch.confirms` — acts, and what confirms a reboot;
* `NesDeck.MenuLaunch.Outcome`, `NesDeck.MenuLaunch.outcomes` — what activations stand for;
* `NesDeck.MenuLaunch.batchActs`, `NesDeck.MenuLaunch.Session` — the acts of an iteration and of a
  run;
* `NesDeck.MenuLaunch.Armed`, `NesDeck.MenuLaunch.Selects` — the variables that agree with them.

Main results:

* `NesDeck.MenuLaunch.Dashboard.matches_of_not_impostor` — the code takes every entry for what it
  is, but for entries of the catalog that have the id of an entry of the menu;
* `NesDeck.MenuLaunch.Armed.active_iff` — the deadline decides what confirms;
* `NesDeck.MenuLaunch.launch_iff` — **the right program is started exactly if no activation
  outranks the last one**.
-/

import NesDeck.MenuLoop

set_option relaxedAutoImplicit false
set_option autoImplicit false

namespace NesDeck.MenuLaunch

open HostFile (Bytes ascii File)
open MenuLoop

/-! ### The purposes of the entries -/

/-- What an entry of the dashboard is for. -/
inductive Purpose where
  | terminal (mode : Bytes)
  | play (emulator : Bytes)
  | reboot

/-- The executable that plays the games of a system. -/
def systemEmulator (options : Options) (system : Bytes) : Bytes :=
  if system = ascii "nes" then options.nesEmulator
  else if system = ascii "gb" ∨ system = ascii "gbc" then options.gbEmulator
  else if system = ascii "zx" then options.zxEmulator
  else if system = ascii "deck" then options.deckGame
  else options.chip8Emulator

/-- The purposes of the entries of the menu, in their order. -/
def builtInPurposes (options : Options) : List Purpose :=
  [.terminal (ascii "lua"), .terminal (ascii "lisp"), .terminal (ascii "python"),
   .terminal (ascii "scheme"), .play options.chiptunePlayer, .terminal (ascii "shell"), .reboot]

/-- The ids of the entries of the menu. -/
def builtInIds : List Bytes :=
  [ascii "lua-repl", ascii "lisp-repl", ascii "python-repl", ascii "scheme-repl",
   ascii "chiptunes", ascii "terminal", ascii "reboot"]

/-- What the dashboard is made of. -/
structure Dashboard where
  options : Options
  catalog : List GameEntry
  terminal : Bytes
  chiptuneDirectory : Bytes
  covers : GameEntry → Option CoverImage

namespace Dashboard

variable (d : Dashboard)

def games : List GameEntry :=
  applicationGames d.catalog d.terminal d.chiptuneDirectory d.covers

def purposes : List Purpose :=
  (d.catalog.map fun game => .play (systemEmulator d.options game.system)) ++
    builtInPurposes d.options

/-- The reboot entry is the last one. -/
def rebootIndex : ℕ := d.catalog.length + 6

/-- An entry of the catalog that has the id and the system of an entry of the menu. -/
def Impostor (index : ℕ) : Prop :=
  ∃ game, d.catalog[index]? = some game ∧ game.system = ascii "deck" ∧ game.id ∈ builtInIds

theorem length_games : d.games.length = d.catalog.length + 7 := by
  rw [games, applicationGames, List.length_map, List.length_append]
  rfl

theorem length_purposes : d.purposes.length = d.catalog.length + 7 := by
  rw [purposes, List.length_append, List.length_map]
  rfl

end Dashboard

/-- The code takes an entry for what it is. -/
def Matches (options : Options) (game : GameEntry) : Purpose → Prop
  | .terminal mode =>
      terminalModeForGame game = mode ∧ mode ≠ [] ∧ isBuiltInReboot game = false
  | .play emulator =>
      terminalModeForGame game = [] ∧ isBuiltInReboot game = false ∧
        emulatorForGame options game = emulator
  | .reboot =>
      terminalModeForGame game = [] ∧ isBuiltInReboot game = true ∧ game.rom = kRebootExecutable

theorem matches_cover {options : Options} {game : GameEntry} {purpose : Purpose}
    (cover : CoverImage) (h : Matches options game purpose) :
    Matches options { game with cover := cover } purpose := by
  cases purpose with
  | terminal mode => exact h
  | play emulator => exact h
  | reboot => exact h

/-- A game whose id is not one of the menu is played. -/
theorem matches_play {options : Options} {game : GameEntry}
    (h : ¬ (game.system = ascii "deck" ∧ game.id ∈ builtInIds)) :
    Matches options game (.play (systemEmulator options game.system)) := by
  have hbuiltIn : ∀ id ∈ builtInIds, isBuiltIn id game = false := by
    intro id hid
    rw [isBuiltIn, decide_eq_false_iff_not]
    rintro ⟨rfl, hsystem⟩
    exact h ⟨hsystem, hid⟩
  simp only [builtInIds, List.forall_mem_cons] at hbuiltIn
  obtain ⟨hlua, hlisp, hpython, hscheme, hchiptune, hterminal, hreboot, -⟩ := hbuiltIn
  refine ⟨?_, hreboot, ?_⟩
  · simp only [terminalModeForGame, isBuiltInTerminal, isBuiltInLua, isBuiltInLisp,
      isBuiltInPython, isBuiltInScheme, hlua, hlisp, hpython, hscheme, hterminal,
      Bool.false_eq_true, if_false]
  · simp only [emulatorForGame, systemEmulator, isBuiltInChiptune, hchiptune, Bool.false_eq_true,
      if_false]

theorem matches_builtIn (options : Options) (terminal chiptuneDirectory : Bytes) :
    List.Forall₂ (Matches options) (builtInEntries terminal chiptuneDirectory)
      (builtInPurposes options) := by
  refine .cons ⟨rfl, by decide, rfl⟩ <| .cons ⟨rfl, by decide, rfl⟩ <|
    .cons ⟨rfl, by decide, rfl⟩ <| .cons ⟨rfl, by decide, rfl⟩ <| .cons ⟨rfl, rfl, rfl⟩ <|
    .cons ⟨rfl, by decide, rfl⟩ <| .cons ⟨rfl, rfl, rfl⟩ .nil

/-- **The code takes every entry for what it is**, but for the impostors. -/
theorem Dashboard.matches_of_not_impostor (d : Dashboard) {index : ℕ} {game : GameEntry}
    (hgame : d.games[index]? = some game) (hgenuine : ¬ d.Impostor index) :
    ∃ purpose, d.purposes[index]? = some purpose ∧ Matches d.options game purpose := by
  rw [Dashboard.games, applicationGames, List.getElem?_map, Option.map_eq_some_iff] at hgame
  obtain ⟨entry, hentry, rfl⟩ := hgame
  rcases Nat.lt_or_ge index d.catalog.length with hcatalog | hmenu
  · rw [List.getElem?_append_left hcatalog] at hentry
    refine ⟨.play (systemEmulator d.options entry.system), ?_, matches_cover _ (matches_play ?_)⟩
    · rw [Dashboard.purposes, List.getElem?_append_left (by rw [List.length_map]; exact hcatalog),
        List.getElem?_map, hentry]
      rfl
    · rintro ⟨hsystem, hid⟩
      exact hgenuine ⟨entry, hentry, hsystem, hid⟩
  · rw [List.getElem?_append_right hmenu] at hentry
    have hall := matches_builtIn d.options d.terminal d.chiptuneDirectory
    obtain ⟨hindex, hget⟩ := List.getElem?_eq_some_iff.1 hentry
    have hindex' : index - d.catalog.length < (builtInPurposes d.options).length := hindex
    refine ⟨(builtInPurposes d.options)[index - d.catalog.length], ?_, matches_cover _ ?_⟩
    · rw [Dashboard.purposes, List.getElem?_append_right (by rw [List.length_map]; exact hmenu),
        List.length_map, List.getElem?_eq_getElem hindex']
    · have := hall.get hindex hindex'
      rw [List.get_eq_getElem, hget] at this
      exact this

/-- Exactly the last entry is there to reboot. -/
theorem Dashboard.purposes_eq_reboot_iff (d : Dashboard) {index : ℕ} :
    d.purposes[index]? = some .reboot ↔ index = d.rebootIndex := by
  rw [Dashboard.purposes, Dashboard.rebootIndex]
  rcases Nat.lt_or_ge index d.catalog.length with hcatalog | hmenu
  · rw [List.getElem?_append_left (by rw [List.length_map]; exact hcatalog), List.getElem?_map]
    constructor
    · intro h
      rw [Option.map_eq_some_iff] at h
      obtain ⟨_, _, h⟩ := h
      cases h
    · omega
  · obtain ⟨place, rfl⟩ := Nat.exists_eq_add_of_le hmenu
    rw [List.getElem?_append_right (by rw [List.length_map]; omega), List.length_map,
      Nat.add_sub_cancel_left, Nat.add_left_cancel_iff]
    match place with
    | 0 | 1 | 2 | 3 | 4 | 5 => exact ⟨fun h => (nomatch h), fun h => (nomatch h)⟩
    | 6 => exact ⟨fun _ => rfl, fun _ => rfl⟩
    | place + 7 => exact ⟨fun h => (nomatch h), fun h => by omega⟩

/-! ### Acts -/

/-- What the user did.  `released` is a finger that went down elsewhere and goes up on a card. -/
inductive Act where
  | activate (index : ℕ) (time : ℤ)
  | released (index : ℕ)
  | settingsTerminal
  | other

/-- The card that an act touches. -/
def Act.card : Act → Option ℕ
  | .activate index _ => some index
  | .released index => some index
  | .settingsTerminal => none
  | .other => none

def Act.isActivation : Act → Bool
  | .activate _ _ => true
  | .released _ => false
  | .settingsTerminal => true
  | .other => false

/-- The newest act confirms a reboot: it activates the reboot entry within four seconds of another
activation of it that is not itself a confirmation, with nothing in between. -/
def confirms (rebootIndex : ℕ) : List Act → Bool
  | .activate index time :: .activate first firstTime :: older =>
      decide (index = rebootIndex ∧ first = rebootIndex ∧ time < firstTime + kRebootConfirmMs) &&
        !confirms rebootIndex (.activate first firstTime :: older)
  | _ => false

/-- What an act stands for. -/
inductive Outcome where
  | terminal (mode : Bytes)
  | play (emulator : Bytes) (game : GameEntry)
  | reboot
  | arm
  | nothing

def Outcome.program : Outcome → Option Program
  | .terminal mode => some (.terminal mode)
  | .play emulator game => some (.game emulator game)
  | .reboot => some (.reboot kRebootExecutable)
  | .arm => none
  | .nothing => none

/-- What an activation of an entry stands for; `confirmed` says whether it confirms a reboot. -/
def Dashboard.outcomeAt (d : Dashboard) (index : ℕ) (confirmed : Bool) : Outcome :=
  match d.purposes[index]?, d.games[index]? with
  | some (.terminal mode), _ => .terminal mode
  | some (.play emulator), some game => .play emulator game
  | some .reboot, _ => if confirmed = true then .reboot else .arm
  | _, _ => .nothing

/-- What the newest act stands for. -/
def outcome (d : Dashboard) : List Act → Outcome
  | .activate index time :: older =>
      d.outcomeAt index (confirms d.rebootIndex (.activate index time :: older))
  | .settingsTerminal :: _ => .terminal (ascii "shell")
  | _ => .nothing

/-- What the acts of a batch stand for, after older ones. -/
def outcomes (d : Dashboard) (older : List Act) : List Act → List Outcome
  | [] => []
  | act :: acts => outcome d (act :: acts ++ older) :: outcomes d older acts

/-- What the last activation stands for. -/
def lastActivation : List Outcome → Outcome
  | [] => .nothing
  | .nothing :: rest => lastActivation rest
  | last :: _ => last

/-- The precedence that the variables of the loop give to an activation. -/
def Outcome.rank : Outcome → ℕ
  | .terminal _ => 3
  | .reboot => 2
  | .play _ _ => 1
  | .arm => 0
  | .nothing => 0

/-- No activation outranks the last one. -/
def Unsurpassed (list : List Outcome) : Prop :=
  ∀ one ∈ list, one.rank ≤ (lastActivation list).rank

/-! ### The acts of a run -/

section

variable {W : Type} (editor : WifiEditor W) (d : Dashboard)

def actOfCommand (s : MenuState W) (command : MenuGamepadCommand) (now : ℤ) : Option Act :=
  match command with
  | .none => none
  | .confirm =>
      if s.settingsView = true then
        some (if s.settingsSelection = settingsTargetTerminal then .settingsTerminal else .other)
      else if (s.layout d.games).shownGameIndex < d.games.length then
        some (.activate (s.layout d.games).shownGameIndex now)
      else none
  | _ => some .other

/-- A finger that went down on `pressedTarget` goes up on a target.  On the card of the reboot
entry, but down elsewhere, that does nothing at all. -/
def actOfRelease (s : MenuState W) (target now : ℤ) : Option Act :=
  if s.dashboardView = true ∧ 0 ≤ target ∧ target < d.games.length then
    if s.pressedTarget = target then some (.activate target.toNat now)
    else if target.toNat = d.rebootIndex then none
    else some (.released target.toNat)
  else if s.creditsView = false ∧ s.wifiView = false ∧ s.settingsView = true ∧
      s.pressedTarget = target ∧ target = settingsTargetTerminal then
    some .settingsTerminal
  else some .other

def actOfReport (s : MenuState W) (report : TouchReport) : Option Act :=
  if report.released = false then none
  else
    let target := s.target editor d.games report.x report.y
    actOfRelease d (press s report target) target report.handledAt

/-- The acts of a list of reports, put before others. -/
def reportActs (s : MenuState W) (acts : List Act) : List TouchReport → List Act
  | [] => acts
  | report :: reports =>
      reportActs (handleReport editor d.games s report)
        ((actOfReport editor d s report).toList ++ acts) reports

/-- The acts of an iteration, newest first. -/
def batchActs (s : MenuState W) (batch : Batch) : List Act :=
  let s := beginIteration s batch
  if batchCommand s batch ≠ .none then
    (actOfCommand d { s with pressedTarget := menuTargetNone } (batchCommand s batch)
      batch.commandAt).toList
  else reportActs editor d s [] batch.reports

/-- A run up to the beginning of an iteration: the variables, and the acts so far. -/
structure Session (W : Type) where
  state : MenuState W
  acts : List Act

namespace Session

def start (wifi : W) : Session W := ⟨MenuState.start d.games wifi, []⟩

def step (session : Session W) (batch : Batch) : Session W where
  state := (iteration editor d.games d.options session.state batch).2
  acts := batchActs editor d session.state batch ++ session.acts

def run (session : Session W) (batches : List Batch) : Session W :=
  batches.foldl (step editor d) session

/-- The program that an iteration starts. -/
def launched (session : Session W) (batch : Batch) : Option Program :=
  (iteration editor d.games d.options session.state batch).1

/-- What the acts of an iteration stand for, newest first. -/
def batchOutcomes (session : Session W) (batch : Batch) : List Outcome :=
  outcomes d session.acts (batchActs editor d session.state batch)

/-- No act of an iteration touches an impostor. -/
def Genuine (session : Session W) (batch : Batch) : Prop :=
  ∀ act ∈ batchActs editor d session.state batch, ∀ index, act.card = some index →
    ¬ d.Impostor index

/-- No act of a run touches an impostor. -/
def GenuineRun (session : Session W) : List Batch → Prop
  | [] => True
  | batch :: batches =>
      session.Genuine editor d batch ∧ GenuineRun (session.step editor d batch) batches

end Session

end

/-- The times at which an iteration reads the clock, in order. -/
def batchTimes (batch : Batch) : List ℤ :=
  batch.checkedAt :: batch.commandAt :: batch.reports.map TouchReport.handledAt

/-! ### The deadline -/

/-- The deadline agrees with the acts at a time of the clock: it is set exactly if the newest act
is a first activation of the reboot entry, and that one is recent enough. -/
structure Armed (rebootIndex : ℕ) (acts : List Act) (deadline clock : ℤ) : Prop where
  nonneg : 0 ≤ deadline
  first : 0 < deadline → ∃ time older, acts = .activate rebootIndex time :: older ∧
    confirms rebootIndex acts = false ∧ deadline = time + kRebootConfirmMs
  live : ∀ time older, acts = .activate rebootIndex time :: older →
    confirms rebootIndex acts = false →
    deadline = time + kRebootConfirmMs ∨ deadline = 0 ∧ time + kRebootConfirmMs ≤ clock

theorem Armed.later {rebootIndex : ℕ} {acts : List Act} {deadline clock clock' : ℤ}
    (h : Armed rebootIndex acts deadline clock) (hclock : clock ≤ clock') :
    Armed rebootIndex acts deadline clock' where
  nonneg := h.nonneg
  first := h.first
  live := by
    intro time older hacts hfirst
    rcases h.live time older hacts hfirst with hset | ⟨hclear, htime⟩
    · exact Or.inl hset
    · exact Or.inr ⟨hclear, Int.le_trans htime hclock⟩

/-- The deadline runs out. -/
theorem Armed.expire {rebootIndex : ℕ} {acts : List Act} {deadline clock : ℤ}
    (h : Armed rebootIndex acts deadline clock) :
    Armed rebootIndex acts
      (if 0 < deadline ∧ rebootConfirmationActive deadline clock = false then 0 else deadline)
      clock := by
  split
  · rename_i hexpired
    obtain ⟨hset, hactive⟩ := hexpired
    have hpast : deadline ≤ clock := by
      simp only [rebootConfirmationActive, decide_eq_false_iff_not] at hactive
      omega
    refine ⟨Int.le_refl 0, fun h => absurd h (Int.lt_irrefl 0), ?_⟩
    intro time older hacts hfirst
    rcases h.live time older hacts hfirst with hdeadline | hclear
    · exact Or.inr ⟨rfl, by omega⟩
    · omega
  · exact h

/-- With the deadline cleared, any act but an activation of the reboot entry agrees. -/
theorem Armed.cleared {rebootIndex : ℕ} {act : Act} (acts : List Act) (clock : ℤ)
    (hact : ∀ time, act ≠ .activate rebootIndex time) :
    Armed rebootIndex (act :: acts) 0 clock where
  nonneg := Int.le_refl 0
  first := fun h => absurd h (Int.lt_irrefl 0)
  live := by
    intro time older hacts
    exact absurd (List.cons.inj hacts).1 (hact time)

/-- **The deadline decides what confirms.** -/
theorem Armed.active_iff {rebootIndex : ℕ} {acts : List Act} {deadline clock now : ℤ}
    (h : Armed rebootIndex acts deadline clock) (hclock : clock ≤ now) (hnow : 0 ≤ now) :
    rebootConfirmationActive deadline now =
      confirms rebootIndex (.activate rebootIndex now :: acts) := by
  rw [Bool.eq_iff_iff, rebootConfirmationActive, decide_eq_true_eq]
  constructor
  · rintro ⟨hset, hactive⟩
    obtain ⟨time, older, rfl, hfirst, rfl⟩ := h.first hset
    rw [confirms, hfirst, Bool.not_false, Bool.and_true, decide_eq_true_eq]
    exact ⟨rfl, rfl, hactive⟩
  · intro hconfirms
    cases acts with
    | nil => cases hconfirms
    | cons act older =>
        cases act with
        | activate first firstTime =>
            rw [confirms, Bool.and_eq_true, decide_eq_true_eq, Bool.not_eq_true'] at hconfirms
            obtain ⟨⟨-, rfl, hrecent⟩, hfirst⟩ := hconfirms
            rcases h.live firstTime older rfl hfirst with rfl | ⟨_, hpast⟩
            · omega
            · omega
        | released index => cases hconfirms
        | settingsTerminal => cases hconfirms
        | other => cases hconfirms

/-- A first activation of the reboot entry sets the deadline. -/
theorem Armed.armed {rebootIndex : ℕ} {acts : List Act} {now : ℤ} (hnow : 0 ≤ now)
    (hfirst : confirms rebootIndex (.activate rebootIndex now :: acts) = false) :
    Armed rebootIndex (.activate rebootIndex now :: acts) (now + kRebootConfirmMs) now where
  nonneg := by
    rw [kRebootConfirmMs]
    omega
  first := fun _ => ⟨now, acts, rfl, hfirst, rfl⟩
  live := by
    intro time older hacts _
    cases hacts
    exact Or.inl rfl

/-- A confirmation clears it. -/
theorem Armed.confirmed {rebootIndex : ℕ} {acts : List Act} (clock : ℤ)
    (hconfirms : confirms rebootIndex acts = true) : Armed rebootIndex acts 0 clock where
  nonneg := Int.le_refl 0
  first := fun h => absurd h (Int.lt_irrefl 0)
  live := by
    intro time older _ hfirst
    rw [hconfirms] at hfirst
    cases hfirst

/-! ### The selection -/

/-- The newest terminal. -/
def modeOf : List Outcome → Bytes
  | [] => []
  | .terminal mode :: _ => mode
  | _ :: rest => modeOf rest

def reboots : List Outcome → Bool
  | [] => false
  | .reboot :: _ => true
  | _ :: rest => reboots rest

/-- The selected game is that of the newest activation that selects one. -/
def Chosen (options : Options) (games : List GameEntry) (selected : ℤ) : List Outcome → Prop
  | [] => selected < 0
  | .play emulator game :: _ =>
      0 ≤ selected ∧ games[selected.toNat]? = some game ∧ emulatorForGame options game = emulator
  | .reboot :: _ =>
      0 ≤ selected ∧ ∃ game, games[selected.toNat]? = some game ∧ game.rom = kRebootExecutable
  | _ :: rest => Chosen options games selected rest

/-- The variables of an iteration agree with what the acts stand for. -/
structure Selects {W : Type} (options : Options) (games : List GameEntry) (list : List Outcome)
    (s : MenuState W) : Prop where
  mode : s.terminalMode = modeOf list
  requested : s.rebootRequested = reboots list
  chosen : Chosen options games s.selectedGame list
  modes : ∀ mode, .terminal mode ∈ list → mode ≠ []

theorem Outcome.rank_le (one : Outcome) : one.rank ≤ 3 := by
  cases one with
  | terminal mode => exact Nat.le_refl 3
  | play emulator game => exact (by decide : 1 ≤ 3)
  | reboot => exact (by decide : 2 ≤ 3)
  | arm => exact Nat.zero_le 3
  | nothing => exact Nat.zero_le 3

theorem modeOf_eq_nil_iff {list : List Outcome}
    (hmodes : ∀ mode, .terminal mode ∈ list → mode ≠ []) :
    modeOf list = [] ↔ ∀ one ∈ list, one.rank ≤ 2 := by
  induction list with
  | nil => exact ⟨fun _ _ h => absurd h List.not_mem_nil, fun _ => rfl⟩
  | cons one rest ih =>
      have hrest := ih fun mode hmem => hmodes mode (List.mem_cons_of_mem _ hmem)
      rw [List.forall_mem_cons, ← hrest]
      cases one with
      | terminal mode =>
          have hne := hmodes mode List.mem_cons_self
          simp [modeOf, Outcome.rank, hne]
      | play emulator game => simp [modeOf, Outcome.rank]
      | reboot => simp [modeOf, Outcome.rank]
      | arm => simp [modeOf, Outcome.rank]
      | nothing => simp [modeOf, Outcome.rank]

theorem reboots_eq_false_iff {list : List Outcome} (hlow : ∀ one ∈ list, one.rank ≤ 2) :
    reboots list = false ↔ ∀ one ∈ list, one.rank ≤ 1 := by
  induction list with
  | nil => exact ⟨fun _ _ h => absurd h List.not_mem_nil, fun _ => rfl⟩
  | cons one rest ih =>
      rw [List.forall_mem_cons] at hlow ⊢
      rw [← ih hlow.2]
      cases one with
      | terminal mode => exact absurd hlow.1 (by decide : ¬ (3 ≤ 2))
      | play emulator game => simp [reboots, Outcome.rank]
      | reboot => simp [reboots, Outcome.rank]
      | arm => simp [reboots, Outcome.rank]
      | nothing => simp [reboots, Outcome.rank]

theorem Chosen.neg_iff {options : Options} {games : List GameEntry} {selected : ℤ}
    {list : List Outcome} (h : Chosen options games selected list)
    (hlow : ∀ one ∈ list, one.rank ≤ 1) :
    selected < 0 ↔ ∀ one ∈ list, one.rank ≤ 0 := by
  induction list with
  | nil => exact ⟨fun _ _ h => absurd h List.not_mem_nil, fun _ => h⟩
  | cons one rest ih =>
      rw [List.forall_mem_cons] at hlow ⊢
      cases one with
      | terminal mode => exact absurd hlow.1 (by decide : ¬ (3 ≤ 1))
      | play emulator game =>
          have hselected := h.1
          simp only [Outcome.rank]
          omega
      | reboot => exact absurd hlow.1 (by decide : ¬ (2 ≤ 1))
      | arm => simpa [Outcome.rank] using ih h hlow.2
      | nothing => simpa [Outcome.rank] using ih h hlow.2

/-- A selected game exists. -/
theorem Chosen.exists_game {options : Options} {games : List GameEntry} {selected : ℤ}
    {list : List Outcome} (h : Chosen options games selected list) (hselected : 0 ≤ selected) :
    ∃ game, games[selected.toNat]? = some game := by
  induction list with
  | nil => exact absurd h (Int.not_lt.2 hselected)
  | cons one rest ih =>
      cases one with
      | terminal mode => exact ih h
      | play emulator game => exact ⟨game, h.2.1⟩
      | reboot => exact ⟨h.2.choose, h.2.choose_spec.1⟩
      | arm => exact ih h
      | nothing => exact ih h

theorem Chosen.nonneg_of_reboots {options : Options} {games : List GameEntry} {selected : ℤ}
    {list : List Outcome} (h : Chosen options games selected list)
    (hreboots : reboots list = true) :
    0 ≤ selected := by
  induction list with
  | nil => cases hreboots
  | cons one rest ih =>
      cases one with
      | terminal mode => exact ih h hreboots
      | play emulator game => exact h.1
      | reboot => exact h.1
      | arm => exact ih h hreboots
      | nothing => exact ih h hreboots

/-! ### What is started -/

section Launch

variable {W : Type} {options : Options} {games : List GameEntry} {s : MenuState W}

theorem launch_of_mode (hmode : s.terminalMode ≠ []) :
    launch games options s = some (.terminal s.terminalMode) := by
  rw [launch, if_neg (fun h => hmode h.2.1), if_pos hmode]

theorem launch_of_selected (hmode : s.terminalMode = []) (hselected : 0 ≤ s.selectedGame)
    {game : GameEntry} (hgame : games[s.selectedGame.toNat]? = some game) :
    launch games options s =
      some (if s.rebootRequested = true then .reboot game.rom
        else .game (emulatorForGame options game) game) := by
  rw [launch, if_neg (fun h => absurd h.1 (Int.not_lt.2 hselected)), if_neg (not_not.2 hmode),
    hgame]
  rfl

theorem Selects.modes_tail {one : Outcome} {rest : List Outcome}
    (h : Selects options games (one :: rest) s) : ∀ mode, .terminal mode ∈ rest → mode ≠ [] :=
  fun mode hmem => h.modes mode (List.mem_cons_of_mem _ hmem)

/-- A confirmed reboot is carried out unless a terminal was asked for before. -/
theorem launch_iff_reboot {rest : List Outcome} (h : Selects options games (.reboot :: rest) s) :
    launch games options s = some (.reboot kRebootExecutable) ↔ ∀ one ∈ rest, one.rank ≤ 2 := by
  obtain ⟨hselected, game, hgame, hrom⟩ := h.chosen
  have hmode : s.terminalMode = modeOf rest := h.mode
  have hrequested : s.rebootRequested = true := h.requested
  have hlow := modeOf_eq_nil_iff h.modes_tail
  by_cases hnil : s.terminalMode = []
  · rw [launch_of_selected hnil hselected hgame, if_pos hrequested, hrom]
    exact ⟨fun _ => hlow.1 (hmode ▸ hnil), fun _ => rfl⟩
  · -- a terminal outranks the reboot
    rw [launch_of_mode hnil]
    exact ⟨fun heq => (nomatch heq), fun hall => absurd (hmode.trans (hlow.2 hall)) hnil⟩

/-- A game is started unless a terminal or a reboot was asked for before. -/
theorem launch_iff_play {emulator : Bytes} {game : GameEntry} {rest : List Outcome}
    (h : Selects options games (.play emulator game :: rest) s) :
    launch games options s = some (.game emulator game) ↔ ∀ one ∈ rest, one.rank ≤ 1 := by
  obtain ⟨hselected, hgame, hemulator⟩ := h.chosen
  have hmode : s.terminalMode = modeOf rest := h.mode
  have hrequested : s.rebootRequested = reboots rest := h.requested
  have hlow := modeOf_eq_nil_iff h.modes_tail
  by_cases hnil : s.terminalMode = []
  · rw [launch_of_selected hnil hselected hgame, hrequested]
    have hlower := reboots_eq_false_iff (hlow.1 (hmode ▸ hnil))
    cases hreboots : reboots rest with
    | false =>
        rw [if_neg (by decide), hemulator]
        exact ⟨fun _ => hlower.1 hreboots, fun _ => rfl⟩
    | true =>
        -- a reboot outranks the game, and takes its path
        rw [if_pos rfl]
        refine ⟨fun heq => (nomatch heq), ?_⟩
        intro hall
        rw [hlower.2 hall] at hreboots
        cases hreboots
  · rw [launch_of_mode hnil]
    refine ⟨fun heq => (nomatch heq), fun hall => absurd (hmode.trans (hlow.2 ?_)) hnil⟩
    exact fun one hone => Nat.le_trans (hall one hone) (show 1 ≤ 2 by decide)

/-- The program goes on after a first tap on the reboot entry unless something else was asked for
before. -/
theorem launch_iff_arm {rest : List Outcome} (h : Selects options games (.arm :: rest) s) :
    launch games options s = none ↔ ∀ one ∈ rest, one.rank ≤ 0 := by
  have hmode : s.terminalMode = modeOf rest := h.mode
  have hrequested : s.rebootRequested = reboots rest := h.requested
  have hchosen : Chosen options games s.selectedGame rest := h.chosen
  have hlow := modeOf_eq_nil_iff h.modes_tail
  by_cases hnil : s.terminalMode = []
  · have hall := hlow.1 (hmode ▸ hnil)
    by_cases hselected : 0 ≤ s.selectedGame
    · obtain ⟨game, hgame⟩ := hchosen.exists_game hselected
      rw [launch_of_selected hnil hselected hgame]
      refine ⟨fun heq => (nomatch heq), ?_⟩
      intro hzero
      have hlower : ∀ one ∈ rest, one.rank ≤ 1 :=
        fun one hone => Nat.le_trans (hzero one hone) (Nat.zero_le 1)
      exact absurd ((hchosen.neg_iff hlower).2 hzero) (Int.not_lt.2 hselected)
    · have hreboots : reboots rest = false := by
        cases hreboots : reboots rest with
        | false => rfl
        | true => exact absurd (hchosen.nonneg_of_reboots hreboots) hselected
      have hlower := (reboots_eq_false_iff hall).1 hreboots
      rw [launch, if_pos ⟨Int.not_le.1 hselected, hnil, hrequested.trans hreboots⟩]
      exact ⟨fun _ => (hchosen.neg_iff hlower).1 (Int.not_le.1 hselected), fun _ => rfl⟩
  · rw [launch_of_mode hnil]
    refine ⟨fun heq => (nomatch heq), ?_⟩
    intro hzero
    exact absurd (hmode.trans (hlow.2 fun one hone =>
      Nat.le_trans (hzero one hone) (Nat.zero_le 2))) hnil

/-- **The right program is started exactly if no activation outranks the last one.** -/
theorem launch_iff {list : List Outcome} (h : Selects options games list s) :
    launch games options s = (lastActivation list).program ↔ Unsurpassed list := by
  induction list with
  | nil =>
      have hlaunch : launch games options s = none := by
        rw [launch, if_pos ⟨h.chosen, h.mode, h.requested⟩]
      rw [hlaunch]
      exact ⟨fun _ _ hmem => absurd hmem List.not_mem_nil, fun _ => rfl⟩
  | cons last rest ih =>
      rw [Unsurpassed, List.forall_mem_cons]
      cases last with
      | nothing =>
          rw [lastActivation, ih ⟨h.mode, h.requested, h.chosen, h.modes_tail⟩]
          exact ⟨fun hrest => ⟨Nat.zero_le _, hrest⟩, fun hall => hall.2⟩
      | terminal mode =>
          have hmode : s.terminalMode = mode := h.mode
          have hne : s.terminalMode ≠ [] := hmode ▸ h.modes mode List.mem_cons_self
          rw [launch_of_mode hne, hmode]
          exact ⟨fun _ => ⟨Nat.le_refl 3, fun one _ => one.rank_le⟩, fun _ => rfl⟩
      | reboot =>
          exact (launch_iff_reboot h).trans (and_iff_right (Nat.le_refl 2)).symm
      | play emulator game =>
          exact (launch_iff_play h).trans (and_iff_right (Nat.le_refl 1)).symm
      | arm =>
          exact (launch_iff_arm h).trans (and_iff_right (Nat.le_refl 0)).symm

end Launch

end NesDeck.MenuLaunch
