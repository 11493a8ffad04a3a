/-
**What the menu starts.**

The variables of the loop follow the acts of the user as long as nobody touches an entry of the
catalog that has the id of an entry of the menu.  One event keeps the agreement, and so does a run.
What an iteration then starts is what its last activation stands for, unless an earlier activation
of the same iteration outranks it.

Main definitions:

* `NesDeck.MenuLaunch.Ready`, `NesDeck.MenuLaunch.Follows` — the agreement of the variables of the
  loop with the acts, between two iterations and within one;
* `NesDeck.MenuLaunch.ConfirmedReboot` — the second of two activations of the reboot entry.

Main results:

* `NesDeck.MenuLaunch.follows_handleReport`, `NesDeck.MenuLaunch.follows_handleCommand` — one event
  keeps the agreement;
* `NesDeck.MenuLaunch.Session.ready_step`, `NesDeck.MenuLaunch.Session.ready_run` — so do an
  iteration and a run;
* `NesDeck.MenuLaunch.run_launch` — **what every iteration of a run starts**.
-/

import Mathlib.Data.List.Pairwise
import NesDeck.MenuActs

set_option relaxedAutoImplicit false
set_option autoImplicit false

namespace NesDeck.MenuLaunch

open HostFile (Bytes ascii File)
open MenuLoop

/-! ### The agreement -/

/-- The selection is the same. -/
structure SameSelection {W : Type} (s s' : MenuState W) : Prop where
  mode : s'.terminalMode = s.terminalMode
  requested : s'.rebootRequested = s.rebootRequested
  selected : s'.selectedGame = s.selectedGame

/-- The variables that live across the iterations agree with the acts. -/
structure Ready {W : Type} (d : Dashboard) (clock : ℤ) (acts : List Act) (s : MenuState W) :
    Prop where
  armed : Armed d.rebootIndex acts s.rebootArmedUntil clock
  view : 0 < s.rebootArmedUntil → s.dashboardView = true

/-- All the variables agree with the acts of the iteration and with those before it. -/
structure Follows {W : Type} (d : Dashboard) (clock : ℤ) (older batch : List Act)
    (s : MenuState W) : Prop extends Ready d clock (batch ++ older) s where
  selects : Selects d.options d.games (outcomes d older batch) s

namespace Follows

variable {W : Type} {d : Dashboard} {clock : ℤ} {older batch : List Act} {s s' : MenuState W}

theorem later (h : Follows d clock older batch s) {clock' : ℤ} (hclock : clock ≤ clock') :
    Follows d clock' older batch s :=
  ⟨⟨h.armed.later hclock, h.view⟩, h.selects⟩

/-- What else changes does not matter. -/
theorem frame (h : Follows d clock older batch s) (hsame : SameSelection s s')
    (harmed : s'.rebootArmedUntil = s.rebootArmedUntil)
    (hview : 0 < s.rebootArmedUntil → s'.dashboardView = true) :
    Follows d clock older batch s' where
  armed := harmed ▸ h.armed
  view := harmed ▸ hview
  selects :=
    { mode := hsame.mode.trans h.selects.mode
      requested := hsame.requested.trans h.selects.requested
      chosen := hsame.selected ▸ h.selects.chosen
      modes := h.selects.modes }

/-- An act that is no activation, with the deadline cleared. -/
theorem other (h : Follows d clock older batch s) {act : Act} (hact : act.isActivation = false)
    (hsame : SameSelection s s') (harmed : s'.rebootArmedUntil = 0) :
    Follows d clock older (act :: batch) s' where
  armed := by
    rw [harmed]
    refine Armed.cleared _ clock ?_
    intro time heq
    rw [heq] at hact
    cases hact
  view := by
    rw [harmed]
    exact fun h => absurd h (Int.lt_irrefl 0)
  selects := by
    have hnothing : outcome d (act :: batch ++ older) = .nothing := by
      cases act with
      | activate index time => cases hact
      | released index => rfl
      | settingsTerminal => cases hact
      | other => rfl
    rw [outcomes, hnothing]
    exact
      { mode := hsame.mode.trans h.selects.mode
        requested := hsame.requested.trans h.selects.requested
        chosen := hsame.selected ▸ h.selects.chosen
        modes := fun mode hmem => by
          rcases List.mem_cons.1 hmem with heq | hmem
          · cases heq
          · exact h.selects.modes mode hmem }

/-- The terminal of the settings. -/
theorem settingsTerminal (h : Follows d clock older batch s)
    (hmode : s'.terminalMode = ascii "shell") (hrequested : s'.rebootRequested = s.rebootRequested)
    (hselected : s'.selectedGame = s.selectedGame) (harmed : s'.rebootArmedUntil = 0) :
    Follows d clock older (.settingsTerminal :: batch) s' where
  armed := by
    rw [harmed]
    exact Armed.cleared _ clock fun time heq => by cases heq
  view := by
    rw [harmed]
    exact fun h => absurd h (Int.lt_irrefl 0)
  selects :=
    { mode := hmode
      requested := hrequested.trans h.selects.requested
      chosen := hselected ▸ h.selects.chosen
      modes := fun mode hmem => by
        rcases List.mem_cons.1 hmem with heq | hmem
        · cases heq
          decide
        · exact h.selects.modes mode hmem }

/-- `request_game` of an entry that exists. -/
theorem requestGame_of_getElem (s : MenuState W) {index : ℕ} {game : GameEntry}
    (hgame : d.games[index]? = some game) (now : ℤ) :
    requestGame d.games s index now =
      if terminalModeForGame game ≠ [] then { s with terminalMode := terminalModeForGame game }
      else if isBuiltInReboot game = true then
        if rebootConfirmationActive s.rebootArmedUntil now = true then
          { s with rebootArmedUntil := 0, rebootRequested := true, selectedGame := index }
        else { s with rebootArmedUntil := now + kRebootConfirmMs }
      else { s with selectedGame := index } := by
  rw [requestGame, if_neg (Int.not_lt.2 (Int.natCast_nonneg index)), Int.toNat_natCast, hgame]

theorem modes_cons (h : Follows d clock older batch s) {one : Outcome}
    (hone : ∀ mode, one = .terminal mode → mode ≠ []) :
    ∀ mode, .terminal mode ∈ one :: outcomes d older batch → mode ≠ [] := by
  intro mode hmem
  rcases List.mem_cons.1 hmem with heq | hmem
  · exact hone mode heq.symm
  · exact h.selects.modes mode hmem

/-- The activation of the reboot entry arms it, or carries the reboot out. -/
theorem activate_reboot (h : Follows d clock older batch s) {game : GameEntry} {now : ℤ}
    (hgame : d.games[d.rebootIndex]? = some game)
    (hpurpose : d.purposes[d.rebootIndex]? = some .reboot)
    (hmatches : terminalModeForGame game = [] ∧ isBuiltInReboot game = true ∧
      game.rom = kRebootExecutable)
    (hclock : clock ≤ now) (hnow : 0 ≤ now) (hdashboard : s.dashboardView = true) :
    Follows d now older (.activate d.rebootIndex now :: batch)
      (requestGame d.games s d.rebootIndex now) := by
  obtain ⟨hmode, hyes, hrom⟩ := hmatches
  have houtcome : outcomes d older (.activate d.rebootIndex now :: batch) =
      d.outcomeAt d.rebootIndex
          (confirms d.rebootIndex (.activate d.rebootIndex now :: (batch ++ older))) ::
        outcomes d older batch := rfl
  rw [Dashboard.outcomeAt, hpurpose, hgame] at houtcome
  have hactive := h.armed.active_iff hclock hnow
  rw [requestGame_of_getElem s hgame, hmode, if_neg (by simp), hyes, if_pos rfl, hactive]
  dsimp only at houtcome
  cases hconfirms : confirms d.rebootIndex (.activate d.rebootIndex now :: (batch ++ older)) with
  | true =>
      rw [if_pos rfl]
      refine ⟨⟨Armed.confirmed now hconfirms, fun h => absurd h (Int.lt_irrefl 0)⟩, ?_⟩
      rw [hconfirms, if_pos rfl] at houtcome
      rw [houtcome]
      refine ⟨h.selects.mode, rfl, ?_, h.modes_cons fun mode heq => by cases heq⟩
      exact ⟨Int.natCast_nonneg _, game, by rw [Int.toNat_natCast]; exact hgame, hrom⟩
  | false =>
      rw [if_neg (by decide)]
      refine ⟨⟨Armed.armed hnow hconfirms, fun _ => hdashboard⟩, ?_⟩
      rw [hconfirms, if_neg (by decide)] at houtcome
      rw [houtcome]
      exact ⟨h.selects.mode, h.selects.requested, h.selects.chosen,
        h.modes_cons fun mode heq => by cases heq⟩

/-- **The activation of an entry** that is not an impostor. -/
theorem activate (h : Follows d clock older batch s) {index : ℕ} {game : GameEntry} {now : ℤ}
    (hgame : d.games[index]? = some game) (hgenuine : ¬ d.Impostor index)
    (hclock : clock ≤ now) (hnow : 0 ≤ now) (hdashboard : s.dashboardView = true) :
    Follows d now older (.activate index now :: batch)
      (requestGame d.games
        (if isBuiltInReboot game = true then s else s.cancelRebootConfirmation) index now) := by
  obtain ⟨purpose, hpurpose, hmatches⟩ := d.matches_of_not_impostor hgame hgenuine
  have hreboot : purpose = .reboot ↔ index = d.rebootIndex := by
    rw [← d.purposes_eq_reboot_iff, hpurpose, Option.some.injEq]
  have hcleared : purpose ≠ .reboot →
      Armed d.rebootIndex (.activate index now :: batch ++ older) 0 now := by
    intro hne
    refine Armed.cleared (batch ++ older) now fun time heq => hne (hreboot.2 ?_)
    cases heq
    rfl
  have houtcome : outcomes d older (.activate index now :: batch) =
      d.outcomeAt index (confirms d.rebootIndex (.activate index now :: batch ++ older)) ::
        outcomes d older batch := rfl
  rw [Dashboard.outcomeAt, hpurpose, hgame] at houtcome
  have hzero : ¬ (0 : ℤ) < 0 := Int.lt_irrefl 0
  cases purpose with
  | terminal mode =>
      obtain ⟨rfl, hne, hnot⟩ := hmatches
      rw [requestGame_of_getElem _ hgame, if_pos hne, hnot, if_neg (by decide)]
      refine ⟨⟨hcleared (by simp), fun h => absurd h hzero⟩, ?_⟩
      rw [houtcome]
      exact ⟨rfl, h.selects.requested, h.selects.chosen, h.modes_cons fun mode heq => by
        cases heq
        exact hne⟩
  | play emulator =>
      obtain ⟨hmode, hnot, hemulator⟩ := hmatches
      rw [requestGame_of_getElem _ hgame, hmode, if_neg (by simp), hnot, if_neg (by decide),
        if_neg (by decide)]
      refine ⟨⟨hcleared (by simp), fun h => absurd h hzero⟩, ?_⟩
      rw [houtcome]
      refine ⟨h.selects.mode, h.selects.requested, ?_, h.modes_cons fun mode heq => by cases heq⟩
      exact ⟨Int.natCast_nonneg index, by rw [Int.toNat_natCast]; exact hgame, hemulator⟩
  | reboot =>
      obtain rfl := hreboot.1 rfl
      rw [if_pos hmatches.2.1]
      exact h.activate_reboot hgame hpurpose hmatches hclock hnow hdashboard

end Follows

/-! ### One event -/

section Events

variable {W : Type} {editor : WifiEditor W} {games : List GameEntry}

theorem activateSettingsTarget_same (s : MenuState W) {target : ℤ}
    (htarget : target ≠ settingsTargetTerminal) :
    SameSelection s (activateSettingsTarget s target) ∧
      (activateSettingsTarget s target).rebootArmedUntil = s.rebootArmedUntil := by
  simp only [activateSettingsTarget, htarget, if_false]
  split
  · exact ⟨⟨rfl, rfl, rfl⟩, rfl⟩
  split
  · exact ⟨⟨rfl, rfl, rfl⟩, rfl⟩
  · exact ⟨⟨rfl, rfl, rfl⟩, rfl⟩

theorem stepPosition_same (s : MenuState W) (previous : Bool) :
    SameSelection s (s.stepPosition games previous) ∧
      (s.stepPosition games previous).rebootArmedUntil = s.rebootArmedUntil := by
  rw [MenuState.stepPosition]
  split
  · exact ⟨⟨rfl, rfl, rfl⟩, rfl⟩
  split
  · exact ⟨⟨rfl, rfl, rfl⟩, rfl⟩
  · exact ⟨⟨rfl, rfl, rfl⟩, rfl⟩

/-- A tap on a card asks for its entry. -/
theorem release_card {s : MenuState W} {target : ℤ} (now : ℤ) (hview : s.dashboardView = true)
    (hpressed : s.pressedTarget = target) (hpos : 0 ≤ target) (hlt : target < games.length)
    (hroom : games.length ≤ 1000) :
    release editor games s target now = requestGame games s target now := by
  have hviews : s.creditsView = false ∧ s.wifiView = false ∧ s.settingsView = false := by
    simpa [MenuState.dashboardView, and_assoc] using hview
  obtain ⟨hcredits, hwifi, hsettings⟩ := hviews
  rw [release, hcredits, hwifi, hsettings, hview, hpressed]
  simp only [Bool.false_eq_true, false_and, true_and, if_false, menuTargetCredits,
    menuTargetSettings, menuTargetSystemBase, menuTargetGamePrevious, menuTargetGameNext]
  rw [if_neg (by omega), if_neg (by omega), if_neg (by omega), if_neg (by omega),
    if_pos ⟨hpos, hlt⟩]

/-- A finger that went down elsewhere and goes up on a card does nothing. -/
theorem release_elsewhere {s : MenuState W} {target : ℤ} (now : ℤ)
    (hview : s.dashboardView = true) (hpressed : s.pressedTarget ≠ target) (hpos : 0 ≤ target) :
    release editor games s target now = s := by
  have hviews : s.creditsView = false ∧ s.wifiView = false ∧ s.settingsView = false := by
    simpa [MenuState.dashboardView, and_assoc] using hview
  obtain ⟨hcredits, hwifi, hsettings⟩ := hviews
  rw [release, hcredits, hwifi, hsettings]
  simp only [Bool.false_eq_true, false_and, if_false, menuTargetCredits, menuTargetSettings,
    hpressed, and_false]
  rw [if_neg (by omega), if_neg (by omega)]

/-- A finger that goes up neither on a card nor on the terminal of the settings selects nothing. -/
theorem release_same {s : MenuState W} {target : ℤ} (now : ℤ)
    (hcard : ¬ (s.dashboardView = true ∧ 0 ≤ target ∧ target < games.length))
    (hterminal : ¬ (s.creditsView = false ∧ s.wifiView = false ∧ s.settingsView = true ∧
      s.pressedTarget = target ∧ target = settingsTargetTerminal))
    (hcredits : s.creditsView = true → target ≠ settingsTargetTerminal) :
    SameSelection s (release editor games s target now) ∧
      (release editor games s target now).rebootArmedUntil = s.rebootArmedUntil := by
  rw [release]
  split
  · exact ⟨⟨rfl, rfl, rfl⟩, rfl⟩
  split
  · split
    · exact ⟨⟨rfl, rfl, rfl⟩, rfl⟩
    · exact ⟨⟨rfl, rfl, rfl⟩, rfl⟩
  split
  · rename_i hwifi hsettings
    refine activateSettingsTarget_same s ?_
    intro htarget
    refine hterminal ⟨?_, ?_, hsettings.1, hsettings.2.1, htarget⟩
    · exact Bool.not_eq_true _ ▸ fun h => hcredits h htarget
    · exact Bool.not_eq_true _ ▸ fun h => hwifi ⟨h, hsettings.2.1⟩
  split
  · exact ⟨⟨rfl, rfl, rfl⟩, rfl⟩
  split
  · exact ⟨⟨rfl, rfl, rfl⟩, rfl⟩
  split
  · exact ⟨⟨rfl, rfl, rfl⟩, rfl⟩
  split
  · exact stepPosition_same s _
  split
  · rename_i hgame
    obtain ⟨hview, hpos, hpressed, hlt⟩ := hgame
    exact absurd ⟨hview, hpressed ▸ hpos, hpressed ▸ hlt⟩ hcard
  · exact ⟨⟨rfl, rfl, rfl⟩, rfl⟩

/-- With a deadline that is not negative, a finger that goes up clears it unless it goes up on the
reboot entry. -/
theorem cancelUnlessReboot_eq {s : MenuState W} (target : ℤ) (hnonneg : 0 ≤ s.rebootArmedUntil) :
    cancelUnlessReboot games s target =
      if releasedReboot games s target = true then s else s.cancelRebootConfirmation := by
  rw [cancelUnlessReboot]
  cases hreboot : releasedReboot games s target with
  | true => rw [if_neg (fun h => absurd h.2 (by decide)), if_pos rfl]
  | false =>
      rw [if_neg (by decide : ¬ (false = true))]
      split
      · rfl
      · rename_i hclear
        have hzero : s.rebootArmedUntil = 0 := by
          have : ¬ 0 < s.rebootArmedUntil := fun h => hclear ⟨h, rfl⟩
          omega
        rw [MenuState.cancelRebootConfirmation, ← hzero]

end Events

section Steps

variable {W : Type} {editor : WifiEditor W} {d : Dashboard} {clock : ℤ} {older batch : List Act}
  {s : MenuState W}

/-- The code tells the reboot entry, and no impostor. -/
theorem Dashboard.isBuiltInReboot_iff (d : Dashboard) {index : ℕ} {game : GameEntry}
    (hgame : d.games[index]? = some game) (hgenuine : ¬ d.Impostor index) :
    isBuiltInReboot game = true ↔ index = d.rebootIndex := by
  obtain ⟨purpose, hpurpose, hmatches⟩ := d.matches_of_not_impostor hgame hgenuine
  rw [← d.purposes_eq_reboot_iff, hpurpose, Option.some.injEq]
  cases purpose with
  | terminal mode =>
      rw [hmatches.2.2]
      exact ⟨fun h => (nomatch h), fun h => (nomatch h)⟩
  | play emulator =>
      rw [hmatches.2.1]
      exact ⟨fun h => (nomatch h), fun h => (nomatch h)⟩
  | reboot => exact ⟨fun _ => rfl, fun _ => hmatches.2.1⟩

theorem Dashboard.not_impostor_rebootIndex (d : Dashboard) : ¬ d.Impostor d.rebootIndex := by
  rintro ⟨game, hgame, -⟩
  obtain ⟨hlt, -⟩ := List.getElem?_eq_some_iff.1 hgame
  rw [Dashboard.rebootIndex] at hlt
  omega

theorem releasedReboot_of_card {target : ℤ} {game : GameEntry} (hview : s.dashboardView = true)
    (hpos : 0 ≤ target) (hgame : d.games[target.toNat]? = some game) :
    releasedReboot d.games s target = isBuiltInReboot game := by
  rw [releasedReboot, hview, hgame, decide_eq_true hpos]
  rfl

theorem releasedReboot_of_not_card {target : ℤ}
    (hcard : ¬(s.dashboardView = true ∧ 0 ≤ target ∧ target < d.games.length)) :
    releasedReboot d.games s target = false := by
  rw [releasedReboot]
  cases hview : s.dashboardView with
  | false => rfl
  | true =>
      by_cases hpos : 0 ≤ target
      · have hout : d.games.length ≤ target.toNat := by
          have : ¬ target < d.games.length := fun hlt => hcard ⟨hview, hpos, hlt⟩
          omega
        rw [List.getElem?_eq_none hout]
        exact Bool.and_false _
      · rw [decide_eq_false hpos]
        rfl

/-- A tap on a card activates it. -/
theorem follows_release_tap (h : Follows d clock older batch s) {target now : ℤ} {game : GameEntry}
    (hgame : d.games[target.toNat]? = some game) (hgenuine : ¬ d.Impostor target.toNat)
    (hclock : clock ≤ now) (hnow : 0 ≤ now) (hroom : d.games.length ≤ 1000)
    (hview : s.dashboardView = true) (hpos : 0 ≤ target) (hlt : target < d.games.length)
    (hpressed : s.pressedTarget = target) :
    Follows d now older (.activate target.toNat now :: batch)
      (release editor d.games
        (if isBuiltInReboot game then s else s.cancelRebootConfirmation) target now) := by
  have hcast : ((target.toNat : ℕ) : ℤ) = target := Int.toNat_of_nonneg hpos
  have hcommon : ∀ s' : MenuState W, s'.dashboardView = true → s'.pressedTarget = target →
      release editor d.games s' target now = requestGame d.games s' target.toNat now := by
    intro s' hview' hpressed'
    rw [release_card now hview' hpressed' hpos hlt hroom, hcast]
  have hactivate := h.activate hgame hgenuine hclock hnow hview
  cases hreboot : isBuiltInReboot game with
  | true =>
      rw [hreboot, if_pos rfl] at hactivate
      rw [if_pos rfl, hcommon s hview hpressed]
      exact hactivate
  | false =>
      rw [hreboot, if_neg (by decide)] at hactivate
      rw [if_neg (by decide), hcommon s.cancelRebootConfirmation hview hpressed]
      exact hactivate

/-- A finger that went down elsewhere and goes up on a card activates nothing. -/
theorem follows_release_elsewhere (h : Follows d clock older batch s) {target now : ℤ}
    {game : GameEntry} (hgame : d.games[target.toNat]? = some game)
    (hgenuine : target.toNat ≠ d.rebootIndex → ¬ d.Impostor target.toNat) (hclock : clock ≤ now)
    (hview : s.dashboardView = true) (hpos : 0 ≤ target) (hpressed : s.pressedTarget ≠ target) :
    Follows d now older
      ((if target.toNat = d.rebootIndex then none else some (Act.released target.toNat)).toList ++
        batch)
      (release editor d.games
        (if isBuiltInReboot game then s else s.cancelRebootConfirmation) target now) := by
  have hsame : ∀ s' : MenuState W, s'.dashboardView = true → s'.pressedTarget ≠ target →
      release editor d.games s' target now = s' :=
    fun s' hview' hpressed' => release_elsewhere now hview' hpressed' hpos
  by_cases hreboot : target.toNat = d.rebootIndex
  · have hyes : isBuiltInReboot game = true :=
      (d.isBuiltInReboot_iff hgame (hreboot ▸ d.not_impostor_rebootIndex)).2 hreboot
    rw [if_pos hreboot, hyes, if_pos rfl, hsame s hview hpressed]
    exact h.later hclock
  · have hnot : isBuiltInReboot game = false := by
      rw [← Bool.not_eq_true]
      exact fun hyes => hreboot ((d.isBuiltInReboot_iff hgame (hgenuine hreboot)).1 hyes)
    rw [if_neg hreboot, hnot, if_neg (by decide), hsame s.cancelRebootConfirmation hview hpressed]
    exact (h.later hclock).other rfl ⟨rfl, rfl, rfl⟩ rfl

/-- A finger that goes up anywhere but on a card takes a confirmation back. -/
theorem follows_release_off (h : Follows d clock older batch s) {target now : ℤ}
    (hcard : ¬(s.dashboardView = true ∧ 0 ≤ target ∧ target < d.games.length))
    (hclock : clock ≤ now) (hcredits : s.creditsView = true → target ≠ settingsTargetTerminal) :
    Follows d now older ((actOfRelease d s target now).toList ++ batch)
      (release editor d.games s.cancelRebootConfirmation target now) := by
  rw [actOfRelease, if_neg hcard]
  by_cases hterminal : s.creditsView = false ∧ s.wifiView = false ∧ s.settingsView = true ∧
      s.pressedTarget = target ∧ target = settingsTargetTerminal
  · rw [if_pos hterminal]
    obtain ⟨hcreditsView, hwifiView, hsettingsView, hpressed, htarget⟩ := hterminal
    have hrelease : release editor d.games s.cancelRebootConfirmation target now =
        activateSettingsTarget s.cancelRebootConfirmation target := by
      rw [release, MenuState.cancelRebootConfirmation]
      dsimp only
      rw [hcreditsView, hwifiView, hsettingsView, hpressed, htarget, if_neg (by decide),
        if_neg (by decide), if_pos ⟨rfl, rfl, by decide⟩]
    rw [hrelease, htarget]
    exact (h.later hclock).settingsTerminal rfl rfl rfl rfl
  · rw [if_neg hterminal]
    let cancelled := s.cancelRebootConfirmation
    obtain ⟨hsame, harmed⟩ : SameSelection cancelled (release editor d.games cancelled target now) ∧
        (release editor d.games cancelled target now).rebootArmedUntil =
          cancelled.rebootArmedUntil := release_same now hcard hterminal hcredits
    exact (h.later hclock).other rfl ⟨hsame.mode, hsame.requested, hsame.selected⟩ harmed

/-- **A finger that goes up** keeps the agreement. -/
theorem follows_release (h : Follows d clock older batch s) {target now : ℤ}
    (hclock : clock ≤ now) (hnow : 0 ≤ now) (hroom : d.games.length ≤ 1000)
    (hcredits : s.creditsView = true → target ≠ settingsTargetTerminal)
    (hgenuine : ∀ act ∈ actOfRelease d s target now, ∀ index, act.card = some index →
      ¬ d.Impostor index) :
    Follows d now older ((actOfRelease d s target now).toList ++ batch)
      (release editor d.games (cancelUnlessReboot d.games s target) target now) := by
  rw [cancelUnlessReboot_eq target h.armed.nonneg]
  by_cases hcard : s.dashboardView = true ∧ 0 ≤ target ∧ target < d.games.length
  · obtain ⟨hview, hpos, hlt⟩ := hcard
    have hindex : target.toNat < d.games.length := by omega
    obtain ⟨game, hgame⟩ : ∃ game, d.games[target.toNat]? = some game :=
      ⟨_, List.getElem?_eq_getElem hindex⟩
    rw [releasedReboot_of_card hview hpos hgame]
    rw [actOfRelease, if_pos ⟨hview, hpos, hlt⟩] at hgenuine ⊢
    by_cases hpressed : s.pressedTarget = target
    · rw [if_pos hpressed] at hgenuine ⊢
      exact follows_release_tap h hgame (hgenuine _ rfl _ rfl) hclock hnow hroom hview hpos hlt
        hpressed
    · rw [if_neg hpressed] at hgenuine ⊢
      refine follows_release_elsewhere h hgame ?_ hclock hview hpos hpressed
      intro hne
      rw [if_neg hne] at hgenuine
      exact hgenuine _ rfl _ rfl
  · rw [releasedReboot_of_not_card hcard, if_neg (by decide)]
    exact follows_release_off h hcard hclock hcredits

theorem creditsTargetAt_ne (x y : ℤ) : creditsTargetAt x y ≠ settingsTargetTerminal := by
  rw [creditsTargetAt, hit]
  cases hfind : List.find? (fun button : MenuUi.Rect × ℤ => button.1.contains x y)
      [(⟨1212, 12, 56, 56⟩, creditsTargetClose)] with
  | none => decide
  | some button =>
      rw [List.mem_singleton.1 (List.mem_of_find?_eq_some hfind)]
      decide

/-- **A report of the touch screen** keeps the agreement. -/
theorem follows_handleReport (h : Follows d clock older batch s) {report : TouchReport}
    (hclock : clock ≤ report.handledAt) (hnow : 0 ≤ report.handledAt)
    (hroom : d.games.length ≤ 1000)
    (hgenuine : ∀ act ∈ actOfReport editor d s report, ∀ index, act.card = some index →
      ¬ d.Impostor index) :
    Follows d report.handledAt older ((actOfReport editor d s report).toList ++ batch)
      (handleReport editor d.games s report) := by
  have hpress : Follows d clock older batch
      (press s report (s.target editor d.games report.x report.y)) :=
    h.frame ⟨rfl, rfl, rfl⟩ rfl h.view
  rw [handleReport]
  rw [actOfReport] at hgenuine ⊢
  split at hgenuine
  · rename_i hup
    rw [if_pos hup, if_pos hup]
    exact hpress.later hclock
  · rename_i hup
    rw [if_neg hup, if_neg hup]
    have hcredits : s.creditsView = true →
        s.target editor d.games report.x report.y ≠ settingsTargetTerminal := by
      intro hview
      rw [MenuState.target, if_pos hview]
      exact creditsTargetAt_ne _ _
    have hrelease := @follows_release W editor _ _ _ _ _ hpress _ _ hclock hnow hroom hcredits
      hgenuine
    exact hrelease.frame ⟨rfl, rfl, rfl⟩ rfl hrelease.view

/-- A step to the left or to the right. -/
theorem follows_step (h : Follows d clock older batch s) (previous : Bool) :
    Follows d clock older (.other :: batch)
      (if s.settingsView = true then
        { s.cancelRebootConfirmation with
          settingsSelection := stepSetting s.settingsSelection previous }
      else s.cancelRebootConfirmation.stepPosition d.games previous) := by
  split
  · exact h.other rfl ⟨rfl, rfl, rfl⟩ rfl
  · let cancelled := s.cancelRebootConfirmation
    obtain ⟨hsame, harmed⟩ : SameSelection cancelled (cancelled.stepPosition d.games previous) ∧
        (cancelled.stepPosition d.games previous).rebootArmedUntil = cancelled.rebootArmedUntil :=
      stepPosition_same cancelled previous
    exact h.other rfl ⟨hsame.mode, hsame.requested, hsame.selected⟩ harmed

/-- The deadline is clear on the settings. -/
theorem armedUntil_eq_zero (h : Follows d clock older batch s) (hsettings : s.settingsView = true) :
    s.rebootArmedUntil = 0 := by
  have hnonneg := h.armed.nonneg
  have hnot : ¬ 0 < s.rebootArmedUntil := by
    intro hset
    have hview := h.view hset
    rw [MenuState.dashboardView, hsettings, Bool.not_true, Bool.and_false] at hview
    cases hview
  omega

/-- The button that confirms, on the settings or on the shown game. -/
theorem follows_confirm (h : Follows d clock older batch s) {now : ℤ} (hclock : clock ≤ now)
    (hnow : 0 ≤ now) (hcredits : s.creditsView = false) (hwifi : s.wifiView = false)
    (hgenuine : ∀ act ∈ actOfCommand d s .confirm now, ∀ index, act.card = some index →
      ¬ d.Impostor index) :
    Follows d now older ((actOfCommand d s .confirm now).toList ++ batch)
      (handleCommand d.games s .confirm now) := by
  have hlater := h.later hclock
  rw [actOfCommand] at hgenuine ⊢
  rw [handleCommand]
  cases hsettings : s.settingsView with
  | true =>
      have hclear := armedUntil_eq_zero h hsettings
      rw [if_pos rfl, if_pos rfl]
      by_cases htarget : s.settingsSelection = settingsTargetTerminal
      · rw [if_pos htarget, htarget]
        exact hlater.settingsTerminal rfl rfl rfl hclear
      · rw [if_neg htarget]
        obtain ⟨hsame, harmed⟩ := activateSettingsTarget_same s htarget
        exact hlater.other rfl hsame (harmed.trans hclear)
  | false =>
      rw [hsettings, if_neg Bool.false_ne_true] at hgenuine
      rw [if_neg Bool.false_ne_true, if_neg Bool.false_ne_true]
      cases hgame : d.games[(s.layout d.games).shownGameIndex]? with
      | none =>
          rw [if_neg (Nat.not_lt.2 (List.getElem?_eq_none_iff.1 hgame))]
          exact hlater
      | some game =>
          obtain ⟨hshown, -⟩ := List.getElem?_eq_some_iff.1 hgame
          rw [if_pos hshown] at hgenuine
          rw [if_pos hshown]
          refine h.activate hgame (hgenuine _ rfl _ rfl) hclock hnow ?_
          rw [MenuState.dashboardView, hcredits, hwifi, hsettings]
          rfl

/-- **A command of the buttons** keeps the agreement. -/
theorem follows_handleCommand (h : Follows d clock older batch s) {command : MenuGamepadCommand}
    {now : ℤ} (hclock : clock ≤ now) (hnow : 0 ≤ now)
    (hmodal : command = .confirm → s.creditsView = false ∧ s.wifiView = false)
    (hgenuine : ∀ act ∈ actOfCommand d s command now, ∀ index, act.card = some index →
      ¬ d.Impostor index) :
    Follows d now older ((actOfCommand d s command now).toList ++ batch)
      (handleCommand d.games s command now) := by
  have hlater := h.later hclock
  cases command with
  | none => exact hlater
  | back =>
      refine hlater.other rfl ?_ ?_
      · rw [handleCommand]
        split
        · exact ⟨rfl, rfl, rfl⟩
        split
        · exact ⟨rfl, rfl, rfl⟩
        · exact ⟨rfl, rfl, rfl⟩
      · rw [handleCommand]
        split
        · rfl
        split
        · rfl
        · rfl
  | settings => exact hlater.other rfl ⟨rfl, rfl, rfl⟩ rfl
  | systemPrevious => exact hlater.other rfl ⟨rfl, rfl, rfl⟩ rfl
  | systemNext => exact hlater.other rfl ⟨rfl, rfl, rfl⟩ rfl
  | previous => exact follows_step hlater true
  | next => exact follows_step hlater false
  | confirm =>
      obtain ⟨hcredits, hwifi⟩ := hmodal rfl
      exact follows_confirm h hclock hnow hcredits hwifi hgenuine

/-! ### One iteration -/

/-- The beginning of an iteration. -/
theorem follows_beginIteration (h : Ready d clock older s) {input : Batch}
    (hclock : clock ≤ input.checkedAt) :
    Follows d input.checkedAt older [] (beginIteration s input) where
  armed := (h.armed.later hclock).expire
  view := by
    intro hset
    refine h.view ?_
    have hset' : 0 < if 0 < s.rebootArmedUntil ∧
        rebootConfirmationActive s.rebootArmedUntil input.checkedAt = false then 0
        else s.rebootArmedUntil := hset
    split at hset'
    · exact absurd hset' (Int.lt_irrefl 0)
    · exact hset'
  selects :=
    { mode := rfl
      requested := rfl
      chosen := (by decide : (-1 : ℤ) < 0)
      modes := fun mode hmem => absurd hmem List.not_mem_nil }

theorem mem_reportActs {act : Act} {acts : List Act} (hact : act ∈ acts)
    (s : MenuState W) (reports : List TouchReport) :
    act ∈ reportActs editor d s acts reports := by
  induction reports generalizing s acts with
  | nil => exact hact
  | cons report reports ih => exact ih (List.mem_append_right _ hact) _

/-- **The reports of an iteration** keep the agreement. -/
theorem follows_reports (h : Follows d clock older batch s) {reports : List TouchReport}
    {limit : ℤ} (htimes : (clock :: reports.map TouchReport.handledAt).Pairwise (· ≤ ·))
    (hnow : 0 ≤ clock) (hlimit : clock ≤ limit)
    (hlast : ∀ report ∈ reports, report.handledAt ≤ limit) (hroom : d.games.length ≤ 1000)
    (hgenuine : ∀ act ∈ reportActs editor d s batch reports, ∀ index, act.card = some index →
      ¬ d.Impostor index) :
    Follows d limit older (reportActs editor d s batch reports)
      (reports.foldl (handleReport editor d.games) s) := by
  induction reports generalizing clock batch s with
  | nil => exact h.later hlimit
  | cons report reports ih =>
      rw [List.map_cons, List.pairwise_cons] at htimes
      have hclock : clock ≤ report.handledAt := htimes.1 _ List.mem_cons_self
      rw [reportActs] at hgenuine ⊢
      have hreport := follows_handleReport h hclock (Int.le_trans hnow hclock) hroom
        fun act hact => hgenuine act (mem_reportActs (List.mem_append_left _
          (Option.mem_toList.2 hact)) _ _)
      exact ih hreport htimes.2 (Int.le_trans hnow hclock) (hlast report List.mem_cons_self)
        (fun other hmem => hlast other (List.mem_cons_of_mem _ hmem)) hgenuine

/-- **The input of an iteration** keeps the agreement. -/
theorem follows_handleInput (h : Ready d clock older s) {input : Batch} {limit : ℤ}
    (hnow : 0 ≤ clock) (hclock : clock ≤ input.checkedAt)
    (htimes : (batchTimes input).Pairwise (· ≤ ·)) (hlast : ∀ time ∈ batchTimes input, time ≤ limit)
    (hroom : d.games.length ≤ 1000)
    (hgenuine : ∀ act ∈ batchActs editor d s input, ∀ index, act.card = some index →
      ¬ d.Impostor index) :
    Follows d limit older (batchActs editor d s input)
      (handleInput editor d.games (beginIteration s input) input) := by
  have hbegin := follows_beginIteration h hclock
  rw [batchTimes, List.pairwise_cons] at htimes
  obtain ⟨hchecked, htimes⟩ := htimes
  have hcommand : input.checkedAt ≤ input.commandAt := hchecked _ List.mem_cons_self
  have hpos : 0 ≤ input.commandAt := Int.le_trans hnow (Int.le_trans hclock hcommand)
  have hcommandLimit : input.commandAt ≤ limit :=
    hlast _ (List.mem_cons_of_mem _ List.mem_cons_self)
  rw [batchActs] at hgenuine ⊢
  rw [handleInput]
  split
  · rename_i hsome
    rw [if_pos hsome] at hgenuine
    have hcleared : Follows d input.checkedAt older []
        { beginIteration s input with pressedTarget := menuTargetNone } :=
      hbegin.frame ⟨rfl, rfl, rfl⟩ rfl hbegin.view
    have hmodal : batchCommand (beginIteration s input) input = .confirm →
        (beginIteration s input).creditsView = false ∧
        (beginIteration s input).wifiView = false := by
      intro hconfirm
      rw [batchCommand] at hconfirm
      cases hview : ((beginIteration s input).wifiView || (beginIteration s input).creditsView) with
      | true =>
          rw [hview] at hconfirm
          rcases command_of_modal input.pressed (beginIteration s input).settingsView with h | h
          · rw [h] at hconfirm
            cases hconfirm
          · rw [h] at hconfirm
            cases hconfirm
      | false => exact (Bool.or_eq_false_iff.1 hview).symm
    have hhandled := follows_handleCommand hcleared hcommand hpos hmodal
      fun act hact => hgenuine act (Option.mem_toList.2 hact)
    rw [List.append_nil] at hhandled
    exact hhandled.later hcommandLimit
  · rename_i hnone
    rw [if_neg hnone] at hgenuine
    rw [List.pairwise_cons] at htimes
    refine follows_reports (hbegin.later hcommand) (List.pairwise_cons.2 htimes) hpos
      hcommandLimit ?_ hroom hgenuine
    intro report hmem
    exact hlast _ (List.mem_cons_of_mem _ (List.mem_cons_of_mem _ (List.mem_map_of_mem hmem)))

end Steps

/-! ### Runs -/

namespace Session

variable {W : Type} {editor : WifiEditor W} {d : Dashboard}

/-- **One iteration**: the right program is started exactly if no activation outranks the last one,
and the variables are ready for the next iteration. -/
theorem ready_step {session : Session W} {clock limit : ℤ} {batch : Batch}
    (h : Ready d clock session.acts session.state) (hnow : 0 ≤ clock)
    (hclock : clock ≤ batch.checkedAt) (htimes : (batchTimes batch).Pairwise (· ≤ ·))
    (hlast : ∀ time ∈ batchTimes batch, time ≤ limit) (hroom : d.games.length ≤ 1000)
    (hgenuine : session.Genuine editor d batch) :
    (session.launched editor d batch =
      (lastActivation (session.batchOutcomes editor d batch)).program ↔
        Unsurpassed (session.batchOutcomes editor d batch)) ∧
      Ready d limit (session.step editor d batch).acts (session.step editor d batch).state := by
  have hinput := follows_handleInput h hnow hclock htimes hlast hroom hgenuine
  refine ⟨launch_iff hinput.selects, ?_⟩
  rw [step, iteration]
  dsimp only
  split
  · exact ⟨hinput.armed, hinput.view⟩
  · exact hinput.toReady

/-- **A run** leaves the variables ready. -/
theorem ready_run {session : Session W} {clock limit : ℤ} {batches : List Batch}
    (h : Ready d clock session.acts session.state) (hnow : 0 ≤ clock) (hlimit : clock ≤ limit)
    (htimes : (clock :: batches.flatMap batchTimes).Pairwise (· ≤ ·))
    (hlast : ∀ time ∈ batches.flatMap batchTimes, time ≤ limit) (hroom : d.games.length ≤ 1000)
    (hgenuine : session.GenuineRun editor d batches) :
    Ready d limit (session.run editor d batches).acts (session.run editor d batches).state := by
  induction batches generalizing session clock with
  | nil => exact ⟨h.armed.later hlimit, h.view⟩
  | cons batch batches ih =>
      rw [List.flatMap_cons] at htimes hlast
      obtain ⟨hclock, htimes⟩ := List.pairwise_cons.1 htimes
      obtain ⟨hbatch, hrest, hcross⟩ := List.pairwise_append.1 htimes
      -- the latest time of the batch
      obtain ⟨latest, hlatest, hmax⟩ : ∃ latest ∈ batchTimes batch,
          ∀ time ∈ batchTimes batch, time ≤ latest := by
        have : Std.Refl (fun first second : ℤ => first ≤ second) := ⟨Int.le_refl⟩
        exact ⟨(batchTimes batch).getLast (by simp [batchTimes]), List.getLast_mem _,
          fun time htime => hbatch.rel_getLast htime⟩
      have hstep := (ready_step h hnow (hclock _ (List.mem_append_left _ List.mem_cons_self)) hbatch
        hmax hroom hgenuine.1).2
      refine ih hstep (Int.le_trans hnow (hclock _ (List.mem_append_left _ hlatest)))
        (hlast _ (List.mem_append_left _ hlatest)) (List.pairwise_cons.2 ⟨?_, hrest⟩) ?_ hgenuine.2
      · exact fun time htime => hcross _ hlatest _ htime
      · exact fun time htime => hlast _ (List.mem_append_right _ htime)

theorem ready_start (d : Dashboard) (wifi : W) :
    Ready d 0 (start d wifi).acts (start d wifi).state where
  armed :=
    { nonneg := Int.le_refl 0
      first := fun h => absurd h (Int.lt_irrefl 0)
      live := fun _ _ h => (nomatch h) }
  view := fun h => absurd h (Int.lt_irrefl 0)

theorem genuineRun_append {session : Session W} {batches batches' : List Batch} :
    session.GenuineRun editor d (batches ++ batches') ↔
      session.GenuineRun editor d batches ∧
        (session.run editor d batches).GenuineRun editor d batches' := by
  induction batches generalizing session with
  | nil => exact ⟨fun h => ⟨trivial, h⟩, fun h => h.2⟩
  | cons batch batches ih =>
      rw [List.cons_append, GenuineRun, ih, GenuineRun, and_assoc]
      rfl

/-- Without impostors in the catalog, no run touches one. -/
theorem genuineRun_of_catalog (h : ∀ index, ¬ d.Impostor index) (session : Session W)
    (batches : List Batch) : session.GenuineRun editor d batches := by
  induction batches generalizing session with
  | nil => trivial
  | cons batch batches ih => exact ⟨fun _ _ index _ => h index, ih _⟩

end Session

/-! ### Reboots -/

section Reboots

variable {W : Type} {editor : WifiEditor W} {d : Dashboard}

theorem card_lt_of_actOfCommand {s : MenuState W} {command : MenuGamepadCommand} {now : ℤ}
    {act : Act} (hact : act ∈ actOfCommand d s command now) {index : ℕ}
    (hcard : act.card = some index) : index < d.games.length := by
  cases command with
  | none => cases hact
  | confirm =>
      rw [actOfCommand] at hact
      split at hact
      · cases hact
        split at hcard
        · cases hcard
        · cases hcard
      split at hact
      · rename_i hshown
        cases hact
        cases hcard
        exact hshown
      · cases hact
  | previous | next | systemPrevious | systemNext | back | settings =>
      cases hact
      cases hcard

theorem card_lt_of_actOfRelease {s : MenuState W} {target now : ℤ} {act : Act}
    (hact : act ∈ actOfRelease d s target now) {index : ℕ} (hcard : act.card = some index) :
    index < d.games.length := by
  rw [actOfRelease] at hact
  split at hact
  · rename_i htarget
    have hlt : target.toNat < d.games.length := by omega
    split at hact
    · cases hact
      cases hcard
      exact hlt
    split at hact
    · cases hact
    · cases hact
      cases hcard
      exact hlt
  split at hact
  · cases hact
    cases hcard
  · cases hact
    cases hcard

/-- The acts touch cards of the dashboard. -/
theorem card_lt_of_batchActs {s : MenuState W} {batch : Batch} {act : Act}
    (hact : act ∈ batchActs editor d s batch) {index : ℕ} (hcard : act.card = some index) :
    index < d.games.length := by
  rw [batchActs] at hact
  split at hact
  · exact card_lt_of_actOfCommand (Option.mem_toList.1 hact) hcard
  · have hreports : ∀ (reports : List TouchReport) (s : MenuState W) (acts : List Act),
        (∀ earlier ∈ acts, earlier.card = some index → index < d.games.length) →
          act ∈ reportActs editor d s acts reports → index < d.games.length := by
      intro reports
      induction reports with
      | nil => exact fun s acts hacts hmem => hacts act hmem hcard
      | cons report reports ih =>
          intro s acts hacts hmem
          refine ih _ _ ?_ hmem
          intro earlier hearlier hcard'
          rcases List.mem_append.1 hearlier with hearlier | hearlier
          · rw [Option.mem_toList, actOfReport] at hearlier
            split at hearlier
            · cases hearlier
            · exact card_lt_of_actOfRelease hearlier hcard'
          · exact hacts earlier hearlier hcard'
    exact hreports batch.reports _ [] (fun _ hmem => absurd hmem List.not_mem_nil) hact

/-- The last activation of an iteration is the second one of the reboot entry, within four seconds
of the first and with nothing in between. -/
def ConfirmedReboot (d : Dashboard) (older batch : List Act) : Prop :=
  ∃ newer rest time firstTime,
    batch ++ older = newer ++
        .activate d.rebootIndex time :: .activate d.rebootIndex firstTime :: rest ∧
      newer.length < batch.length ∧ (∀ act ∈ newer, act.isActivation = false) ∧
      confirms d.rebootIndex (.activate d.rebootIndex firstTime :: rest) = false ∧
      time < firstTime + kRebootConfirmMs

/-- Before a confirmation there is the activation that it confirms. -/
theorem confirms_activate {index : ℕ} {time : ℤ} {acts : List Act}
    (h : confirms d.rebootIndex (.activate index time :: acts) = true) :
    index = d.rebootIndex ∧ ∃ firstTime rest, acts = .activate d.rebootIndex firstTime :: rest ∧
      confirms d.rebootIndex (.activate d.rebootIndex firstTime :: rest) = false ∧
      time < firstTime + kRebootConfirmMs := by
  cases acts with
  | nil => cases h
  | cons first rest =>
      cases first with
      | activate firstIndex firstTime =>
          rw [confirms, Bool.and_eq_true, decide_eq_true_eq, Bool.not_eq_true'] at h
          obtain ⟨⟨rfl, rfl, htime⟩, hfirst⟩ := h
          exact ⟨rfl, firstTime, rest, rfl, hfirst, htime⟩
      | released index => cases h
      | settingsTerminal => cases h
      | other => cases h

/-- An activation that ends an iteration with a reboot is a confirmation. -/
theorem confirms_of_lastActivation {index : ℕ} {time : ℤ} {acts : List Act} {rest : List Outcome}
    (hlt : index < d.games.length)
    (h : lastActivation (outcome d (.activate index time :: acts) :: rest) = .reboot) :
    confirms d.rebootIndex (.activate index time :: acts) = true := by
  have hpurposes : index < d.purposes.length := by
    rw [d.length_purposes, ← d.length_games]
    exact hlt
  rw [outcome, Dashboard.outcomeAt, List.getElem?_eq_getElem hpurposes,
    List.getElem?_eq_getElem hlt] at h
  cases hpurpose : d.purposes[index] with
  | terminal mode =>
      rw [hpurpose] at h
      cases h
  | play emulator =>
      rw [hpurpose] at h
      cases h
  | reboot =>
      rw [hpurpose] at h
      cases hconfirms : confirms d.rebootIndex (.activate index time :: acts) with
      | false =>
          rw [hconfirms] at h
          cases h
      | true => rfl

theorem confirmedReboot_of_lastActivation {older batch : List Act}
    (hcards : ∀ act ∈ batch, ∀ index, act.card = some index → index < d.games.length)
    (h : lastActivation (outcomes d older batch) = .reboot) : ConfirmedReboot d older batch := by
  induction batch with
  | nil => cases h
  | cons act batch ih =>
      have hrest := fun h => ih (fun earlier hmem => hcards earlier (List.mem_cons_of_mem _ hmem)) h
      -- An act that is no activation lies behind the confirmation.
      have hskip : act.isActivation = false →
          lastActivation (outcomes d older batch) = .reboot →
          ConfirmedReboot d older (act :: batch) := by
        intro hact h
        obtain ⟨newer, rest, time, firstTime, heq, hlength, hnewer, hconfirms, htime⟩ := hrest h
        refine ⟨act :: newer, rest, time, firstTime, ?_, Nat.succ_lt_succ hlength,
          List.forall_mem_cons.2 ⟨hact, hnewer⟩, hconfirms, htime⟩
        rw [List.cons_append, heq, List.cons_append]
      cases act with
      | activate index time =>
          have hlt := hcards _ List.mem_cons_self index rfl
          have hconfirms : confirms d.rebootIndex
              (.activate index time :: (batch ++ older)) = true :=
            confirms_of_lastActivation hlt h
          obtain ⟨rfl, firstTime, rest, hacts, hfirst, htime⟩ := confirms_activate hconfirms
          refine ⟨[], rest, time, firstTime, ?_, Nat.succ_pos _,
            fun _ hmem => absurd hmem List.not_mem_nil, hfirst, htime⟩
          rw [List.cons_append, hacts]
          rfl
      | released index => exact hskip rfl h
      | settingsTerminal => cases h
      | other => exact hskip rfl h

end Reboots

/-- A reboot is what the last activation stands for, if it is the right program to start. -/
theorem eq_reboot_of_program {one : Outcome} {executable : Bytes}
    (h : one.program = some (.reboot executable)) :
    one = .reboot ∧ executable = kRebootExecutable := by
  cases one with
  | terminal mode => cases h
  | play emulator game => cases h
  | reboot =>
      cases h
      exact ⟨rfl, rfl⟩
  | arm => cases h
  | nothing => cases h

/-- **What every iteration of a run starts.**  In a run that touches no impostor, an iteration
starts the program of its last activation exactly if no earlier one outranks it; and then it
reboots only with the executable of the reboot entry, after the second of two activations. -/
theorem run_launch {files : Bytes → File} {path : Bytes} {d : Dashboard}
    (hload : loadManifest files path = .ok d.catalog) {W : Type} (editor : WifiEditor W) (wifi : W)
    {batches : List Batch} {batch : Batch}
    (htimes : (0 :: (batches ++ [batch]).flatMap batchTimes).Pairwise (· ≤ ·))
    (hgenuine : (Session.start d wifi).GenuineRun editor d (batches ++ [batch])) :
    let session := (Session.start d wifi).run editor d batches
    (session.launched editor d batch =
          (lastActivation (session.batchOutcomes editor d batch)).program ↔
        Unsurpassed (session.batchOutcomes editor d batch)) ∧
      (Unsurpassed (session.batchOutcomes editor d batch) → ∀ executable,
        session.launched editor d batch = some (.reboot executable) →
          executable = kRebootExecutable ∧
            ConfirmedReboot d session.acts (batchActs editor d session.state batch)) := by
  intro session
  have hroom : d.games.length ≤ 1000 := by
    have hbounded := (loadManifest_isCatalog hload).1.bounded
    rw [kMaximumCatalogGames] at hbounded
    rw [d.length_games]
    omega
  obtain ⟨hbefore, hlast, -⟩ := Session.genuineRun_append.1 hgenuine
  rw [List.flatMap_append, List.flatMap_singleton] at htimes
  obtain ⟨hpos, htimes⟩ := List.pairwise_cons.1 htimes
  obtain ⟨hpast, hbatch, hcross⟩ := List.pairwise_append.1 htimes
  have hchecked : batch.checkedAt ∈ batchTimes batch := List.mem_cons_self
  have hnow : 0 ≤ batch.checkedAt := hpos _ (List.mem_append_right _ hchecked)
  have hready : Ready d batch.checkedAt session.acts session.state :=
    Session.ready_run (Session.ready_start d wifi) (Int.le_refl 0) hnow
      (List.pairwise_cons.2 ⟨fun time htime => hpos _ (List.mem_append_left _ htime), hpast⟩)
      (fun time htime => hcross _ htime _ hchecked) hroom hbefore
  have : Std.Refl (fun first second : ℤ => first ≤ second) := ⟨Int.le_refl⟩
  have hiff := (Session.ready_step hready hnow (Int.le_refl _) hbatch
    (fun time htime => hbatch.rel_getLast htime) hroom hlast).1
  refine ⟨hiff, ?_⟩
  intro hunsurpassed executable hlaunched
  rw [hiff.2 hunsurpassed] at hlaunched
  obtain ⟨hreboot, hexecutable⟩ := eq_reboot_of_program hlaunched
  exact ⟨hexecutable, confirmedReboot_of_lastActivation
    (fun act hact index hcard => card_lt_of_batchActs hact hcard) hreboot⟩

/-! ### A small dashboard -/

def sampleDashboard : Dashboard where
  options := ⟨ascii "/n", ascii "/g", ascii "/z", ascii "/8", ascii "/d", ascii "/p"⟩
  catalog := (deckManifest 1).map CatalogEntry.game
  terminal := ascii "/t"
  chiptuneDirectory := ascii "/c"
  covers := fun _ => none

/-- A Wi-Fi editor without fields and keys. -/
def sampleEditor : WifiEditor Unit := ⟨fun _ _ _ => -1, fun _ wifi => wifi⟩

def tap (x y time : ℤ) : List TouchReport :=
  [⟨x, y, true, false, time⟩, ⟨x, y, false, true, time⟩]

/-- One step to the left, from the first entry to the last one; then the reboot entry is tapped. -/
def sampleBatches : List Batch :=
  [⟨100, false, kMenuPadLeft, 100, []⟩, ⟨200, false, 0, 200, tap 800 200 200⟩]

/-- The reboot entry is tapped again. -/
def secondBatch : Batch := ⟨300, false, 0, 300, tap 800 200 300⟩

/-- The reboot entry is tapped again, and then the chiptunes. -/
def crowdedBatch : Batch := ⟨300, false, 0, 300, tap 800 200 300 ++ tap 300 200 400⟩

theorem sampleDashboard_genuine (index : ℕ) : ¬ sampleDashboard.Impostor index := by
  rintro ⟨game, hgame, -, hid⟩
  have hall : ∀ game ∈ sampleDashboard.catalog, game.id ∉ builtInIds := by decide
  exact hall game (List.mem_of_getElem? hgame) hid

theorem run_launch_second :
    let session := (Session.start sampleDashboard ()).run sampleEditor sampleDashboard sampleBatches
    (session.launched sampleEditor sampleDashboard secondBatch =
          (lastActivation
            (session.batchOutcomes sampleEditor sampleDashboard secondBatch)).program ↔
        Unsurpassed (session.batchOutcomes sampleEditor sampleDashboard secondBatch)) ∧
      (Unsurpassed (session.batchOutcomes sampleEditor sampleDashboard secondBatch) →
        ∀ executable, session.launched sampleEditor sampleDashboard secondBatch =
            some (.reboot executable) →
          executable = kRebootExecutable ∧
            ConfirmedReboot sampleDashboard session.acts
              (batchActs sampleEditor sampleDashboard session.state secondBatch)) :=
  run_launch (d := sampleDashboard) (loadManifest_deckManifest (by decide) (by decide)) sampleEditor
    () (by decide) (Session.genuineRun_of_catalog sampleDashboard_genuine _ _)

/-- **A tap on another entry reboots with its path.**  The second tap on the reboot entry and a tap
on the chiptunes arrive in one iteration. -/
theorem run_launch_crowded :
    loadManifest (fun _ => File.ofContent (encodeCatalog (deckManifest 1))) (ascii "/games.tsv") =
        .ok sampleDashboard.catalog ∧
      let session :=
        (Session.start sampleDashboard ()).run sampleEditor sampleDashboard sampleBatches
      session.launched sampleEditor sampleDashboard crowdedBatch = some (.reboot (ascii "/c")) ∧
        (lastActivation
          (session.batchOutcomes sampleEditor sampleDashboard crowdedBatch)).program =
            some (.game (ascii "/p") (builtInChiptuneEntry (ascii "/c"))) ∧
        session.launched sampleEditor sampleDashboard crowdedBatch ≠
          (lastActivation
            (session.batchOutcomes sampleEditor sampleDashboard crowdedBatch)).program := by
  refine ⟨loadManifest_deckManifest (by decide) (by decide), rfl, rfl, ?_⟩
  intro h
  have hprogram : some (Program.reboot (ascii "/c")) =
      some (.game (ascii "/p") (builtInChiptuneEntry (ascii "/c"))) := h
  cases hprogram

end NesDeck.MenuLaunch
