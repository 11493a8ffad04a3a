/-
**The failover of the Wi-Fi station.**

When no network is left, `deck-wifi-select` tries its candidates: for each of them it copies the
backup of the wireless configuration to a work directory, edits the copy with `uci`, and moves it
over the configuration. Any command may fail, with or without an effect, and may leave half a file.
When all passes have failed, the backup is moved back.

`uci` is not part of the repository: a `Uci` gives what it reads from a configuration and what
`uci commit` writes, which is assumed to change the named options only. Edits that were set and not
committed wait in a directory of `uci` that all runs share. The work directory and the configuration
are in one file system, so that `mv` is a `rename`.

Main definitions:

* `NesDeck.Uci` — the tool, with `NesDeck.Uci.Lawful`;
* `NesDeck.Conditions` — the answers of the network and the outcomes of the commands;
* `NesDeck.Switch` — the files, and every configuration that was installed;
* `NesDeck.Switch.applyProfile`, `NesDeck.Switch.restoreWirelessConfig`,
  `NesDeck.Switch.waitForNetwork` — the functions of the script;
* `NesDeck.Switch.deckWifiSelect` — the script.

Main results:

* `NesDeck.Switch.sound_applyProfile` — an attempt installs the starting configuration with its own
  four options, or fails, whatever earlier attempts have left behind;
* `NesDeck.Switch.restored_deckWifiSelect` — **when no network is ever reached, the script exits
  with the configuration it started from**, and each configuration in between differs from it in the
  four options of the station only.
-/

import NesDeck.Lib.Edits
import NesDeck.Lib.Script
import NesDeck.WifiCandidates

set_option relaxedAutoImplicit false
set_option autoImplicit false

namespace NesDeck

open HostFile (Bytes ascii)
open Script (Command Triple)

/-! ### The world of the script -/

/-- An option of `/etc/config/wireless`: its section and its name. -/
structure UciKey where
  sectionName : Bytes
  optionName : Bytes
  deriving DecidableEq

/-- The tool `uci`: what it reads from a configuration, and what it writes when edits are
committed. -/
structure Uci (Config : Type) where
  options : Config → UciKey → Option Bytes
  commit : Config → List (UciKey × Bytes) → Config

/-- `uci set` changes the named option only. -/
def Uci.Lawful {Config : Type} (uci : Uci Config) : Prop :=
  ∀ config edits, uci.options (uci.commit config edits) = Edits.apply (uci.options config) edits

/-- How a command ends: it succeeds, it fails without its effect, or it fails after it. -/
inductive StepOutcome where
  | done
  | failed
  | failedLate
  deriving DecidableEq

/-- The answers of the network and the outcomes of the commands, by number, and what a file holds
after a command that failed while it wrote it. -/
structure Conditions (Config : Type) where
  ready : ℕ → Bool
  associated : ℕ → Bool
  scanned : ℕ → Bool
  backup : StepOutcome
  outcome : ℕ → StepOutcome
  debris : ℕ → Config
  restore : ℕ → StepOutcome

/-- The files that the script changes. -/
structure Switch (Config : Type) where
  /-- `$WIRELESS_CONFIG`. -/
  config : Config
  /-- `$UCI_WORK`, which may hold a copy of the configuration. -/
  work : Option (Option Config)
  /-- The edits that were set and not committed. -/
  staged : List (UciKey × Bytes)
  /-- The profiles that were applied, with the configurations that were installed. -/
  installed : List (Profile × Config)
  /-- The numbers of the checks, the scans and the commands so far. -/
  checks : ℕ
  scans : ℕ
  commands : ℕ

def scanConfirmations : ℕ := 3
def scanRetries : ℕ := 3
def switchTimeout : ℕ := 60
def rollbackGrace : ℕ := 20
def healthInterval : ℕ := 2
def associationTimeout : ℕ := 15

namespace Switch

variable {Config : Type} (env : Conditions Config) (uci : Uci Config)

/-- The files when the script starts. -/
def start (config : Config) (work : Option (Option Config)) (staged : List (UciKey × Bytes)) :
    Switch Config where
  config := config
  work := work
  staged := staged
  installed := []
  checks := 0
  scans := 0
  commands := 0

/-- `network_ready`. -/
def networkReady : Command (Switch Config) := fun s =>
  ({ s with checks := s.checks + 1 }, env.ready s.checks)

/-- The loop of `wait_for_network`. It ends after `fuel` rounds at the latest, since each of them
takes at least one second. -/
def waitLoop (timeout : ℕ) : ℕ → ℕ → Bool → Command (Switch Config)
  | 0, _, _, s => networkReady env s
  | fuel + 1, elapsed, associationSeen, s =>
      if elapsed < timeout then
        let checked := networkReady env s
        if checked.2 then (checked.1, true)
        else
          let associated := env.associated s.checks
          -- A station that never associates is released early.
          if !associated && !associationSeen && associationTimeout ≤ elapsed then
            (checked.1, false)
          else
            waitLoop timeout fuel (elapsed + healthInterval) (associationSeen || associated)
              checked.1
      else networkReady env s

/-- `wait_for_network`. -/
def waitForNetwork (timeout : ℕ) : Command (Switch Config) :=
  waitLoop env timeout timeout 0 false

/-! ### An attempt -/

/-- A command with an effect, and with what it leaves when it fails. -/
def command (effect : Switch Config → Switch Config)
    (damage : Config → Switch Config → Switch Config) : Command (Switch Config) := fun s =>
  let next := { s with commands := s.commands + 1 }
  match env.outcome s.commands with
  | .done => (effect next, true)
  | .failed => (damage (env.debris s.commands) next, false)
  | .failedLate => (effect next, false)

/-- `rm -rf "$UCI_WORK"`. -/
def removeWork : Command (Switch Config) :=
  command env (fun s => { s with work := none }) fun _ s => s

/-- `mkdir "$UCI_WORK"`, which fails when the directory is there. -/
def makeWork : Command (Switch Config) := fun s =>
  if s.work.isSome then (s, false)
  else command env (fun s => { s with work := some none }) (fun _ s => s) s

/-- `chmod` of the work directory or of the copy. -/
def changeMode : Command (Switch Config) := command env id fun _ s => s

/-- `cp "$backup" "$UCI_WORK/wireless"`, which may leave half a copy. -/
def copyBackup (backup : Config) : Command (Switch Config) :=
  command env (fun s => { s with work := some (some backup) })
    fun debris s => { s with work := some (some debris) }

/-- `uci -c "$UCI_WORK" -q set`. -/
def uciSet (edit : UciKey × Bytes) : Command (Switch Config) :=
  command env (fun s => { s with staged := s.staged ++ [edit] }) fun _ s => s

/-- `uci -c "$UCI_WORK" -q commit wireless`, which may leave half a file. -/
def uciCommit : Command (Switch Config) :=
  command env
    (fun s => { s with
      work := s.work.map fun copy => copy.map fun config => uci.commit config s.staged
      staged := [] })
    fun debris s => { s with work := some (some debris) }

/-- `mv "$UCI_WORK/wireless" "$WIRELESS_CONFIG"`. -/
def install (profile : Profile) : Command (Switch Config) := fun s =>
  match s.work with
  | some (some config) =>
      command env
        (fun s => { s with
          config := config
          work := some none
          installed := s.installed ++ [(profile, config)] })
        (fun _ s => s) s
  | _ => (s, false)

/-- The edits of an attempt. -/
def stationEdits (station selectedSsid selectedKey : Bytes) : List (UciKey × Bytes) :=
  [(⟨station, ascii "ssid"⟩, selectedSsid), (⟨station, ascii "key"⟩, selectedKey),
    (⟨station, ascii "encryption"⟩, ascii "psk2"), (⟨station, ascii "disabled"⟩, ascii "0")]

/-- `apply_profile`. -/
def applyProfile (station : Bytes) (backup : Config) (profile : Profile) :
    Command (Switch Config) := fun s =>
  let selectedSsid := substituted (profileSsid profile.name)
  match loadProfileKey profile.content with
  | none => (s, false)
  | some selectedKey =>
      if selectedSsid = [] then (s, false)
      else
        Script.chain
          ([Script.orTrue (removeWork env), makeWork env, changeMode env, copyBackup env backup,
              changeMode env] ++
            ((stationEdits station selectedSsid selectedKey).map (uciSet env) ++
              [uciCommit env uci, Script.orTrue (changeMode env), install env profile,
                Script.orTrue (removeWork env)])) s

/-! ### The script -/

/-- `restore_wireless_config`: a copy of the backup is moved over the configuration. -/
def restoreWirelessConfig (backup : Config) : Command (Switch Config) := fun s =>
  if env.restore 0 ≠ .done then (s, false)
  else if env.restore 1 ≠ .done then (s, false)
  else
    match env.restore 2 with
    | .done => ({ s with config := backup }, true)
    | .failed => (s, false)
    | .failedLate => ({ s with config := backup }, false)

/-- The attempts of one round of scanning; the network may come back between them. -/
def scanAttempts : ℕ → Command (Switch Config)
  | 0, s => (s, false)
  | retries + 1, s =>
      let scanned := { s with scans := s.scans + 1 }
      if env.scanned s.scans then (scanned, false)
      else if retries = 0 then (scanned, false)
      else
        let checked := networkReady env scanned
        if checked.2 then (checked.1, true) else scanAttempts retries checked.1

/-- One round of scanning, which ends the script when the network is back. -/
def scanRound : Command (Switch Config) := fun s =>
  let checked := networkReady env s
  if checked.2 then (checked.1, true) else scanAttempts env scanRetries checked.1

/-- One candidate is tried, which ends the script when the network is reached. -/
def tryCandidate (station : Bytes) (backup : Config) (profile : Profile) :
    Command (Switch Config) := fun s =>
  let checked := networkReady env s
  if checked.2 then (checked.1, true)
  else
    let applied := applyProfile env uci station backup profile checked.1
    if applied.2 then waitForNetwork env switchTimeout applied.1 else (applied.1, false)

/-- The passes over the candidates. -/
def tryCandidates (station : Bytes) (backup : Config) (candidates : List Profile) (passes : ℕ) :
    Command (Switch Config) :=
  Script.search (fun _ => Script.search (tryCandidate env uci station backup) candidates)
    (List.range passes)

/-- The last part of the script: the configuration is saved, the candidates are tried, and the saved
configuration is restored.  The result is the files when the script exits, and its status. -/
def switchNetwork (passes : ℕ) (station : Bytes) (candidates : List Profile) (s : Switch Config) :
    Switch Config × ℕ :=
  if env.backup ≠ .done then (s, 1)
  else
    let tried := tryCandidates env uci station s.config candidates passes s
    if tried.2 then (tried.1, 0)
    else
      let restored := restoreWirelessConfig env s.config tried.1
      if !restored.2 then (restored.1, 1)
      else
        let waited := waitForNetwork env rollbackGrace restored.1
        if waited.2 then (waited.1, 0) else (waited.1, 1)

/-- The script when there is an enabled station. -/
def selectNetwork (passes : ℕ) (station : Bytes) (candidates : List Profile) (s : Switch Config) :
    Switch Config × ℕ :=
  let scanned := Script.search (fun _ => scanRound env) (List.range scanConfirmations) s
  if scanned.2 then (scanned.1, 0)
  else if candidates = [] then (scanned.1, 1)
  else
    let checked := networkReady env scanned.1
    if checked.2 then (checked.1, 0)
    else switchNetwork env uci passes station candidates checked.1

/-- `deck-wifi-select` without arguments, for the section of the enabled station, if there is one,
and for the candidates that it finds. -/
def deckWifiSelect (passes : ℕ) (profileDir : Bool) (station : Option Bytes)
    (candidates : List Profile) (s : Switch Config) : Switch Config × ℕ :=
  let checked := networkReady env s
  if checked.2 then (checked.1, 0)
  else if !profileDir then (checked.1, 1)
  else
    match station with
    | none => (checked.1, 1)
    | some station => selectNetwork env uci passes station candidates checked.1

/-! ### What holds between the commands -/

/-- The four options of the station that an attempt sets. -/
def stationOptions (station : Bytes) : List UciKey :=
  [⟨station, ascii "ssid"⟩, ⟨station, ascii "key"⟩, ⟨station, ascii "encryption"⟩,
    ⟨station, ascii "disabled"⟩]

/-- Edits of the four options and of nothing else. -/
def OnlyStation (station : Bytes) (edits : List (UciKey × Bytes)) : Prop :=
  ∀ name ∈ edits.map Prod.fst, name ∈ stationOptions station

/-- A configuration that an attempt installed: it is the starting one, except that the four options
have the values of this attempt. -/
structure Attempted (station : Bytes) (candidates : List Profile) (config : Config)
    (record : Profile × Config) : Prop where
  candidate : record.1 ∈ candidates
  others : ∀ name, name ∉ stationOptions station →
    uci.options record.2 name = uci.options config name
  own : ∃ selectedKey, loadProfileKey record.1.content = some selectedKey ∧
    uci.options record.2 = Edits.apply (uci.options config)
      (stationEdits station (substituted (profileSsid record.1.name)) selectedKey)

/-- What holds between the attempts: only options of the station wait to be committed, and what was
installed is as it should be. -/
structure Sound (station : Bytes) (candidates : List Profile) (config : Config)
    (s : Switch Config) : Prop where
  staged : OnlyStation station s.staged
  installed : ∀ record ∈ s.installed, Attempted uci station candidates config record

/-- The work directory holds a copy of the backup, and some edits of this attempt are set after what
earlier attempts have left. -/
structure Copied (station : Bytes) (candidates : List Profile) (config : Config)
    (edits : List (UciKey × Bytes)) (s : Switch Config) : Prop where
  sound : Sound uci station candidates config s
  work : s.work = some (some config)
  staged : ∃ before, OnlyStation station before ∧ s.staged = before ++ edits

/-- The copy is committed. -/
structure Committed (station : Bytes) (candidates : List Profile) (config : Config)
    (edits : List (UciKey × Bytes)) (s : Switch Config) : Prop where
  sound : Sound uci station candidates config s
  work : ∃ copy, s.work = some (some copy) ∧
    uci.options copy = Edits.apply (uci.options config) edits

/-- The files when the script exits: the configuration is the one it started from, and every
configuration in between is one of an attempt. -/
structure Restored (found : Option Bytes) (candidates : List Profile) (config : Config)
    (s : Switch Config) : Prop where
  same : s.config = config
  installed : ∀ record ∈ s.installed,
    ∃ station, found = some station ∧ Attempted uci station candidates config record

variable {env uci} {station : Bytes} {candidates : List Profile} {config : Config}

theorem map_fst_stationEdits (station selectedSsid selectedKey : Bytes) :
    (stationEdits station selectedSsid selectedKey).map Prod.fst = stationOptions station := rfl

theorem onlyStation_append {edits edits' : List (UciKey × Bytes)} (h : OnlyStation station edits)
    (h' : OnlyStation station edits') : OnlyStation station (edits ++ edits') := by
  intro name hname
  rw [List.map_append] at hname
  rcases List.mem_append.1 hname with hname | hname
  · exact h name hname
  · exact h' name hname

/-- The rule of a command: it counts itself, and ends in one of three ways. -/
theorem triple_command {P Q E : Switch Config → Prop} {effect : Switch Config → Switch Config}
    {damage : Config → Switch Config → Switch Config}
    (hcount : ∀ s n, P s → P { s with commands := n }) (heffect : ∀ s, P s → Q (effect s))
    (hlate : ∀ s, Q s → E s) (hdamage : ∀ s debris, P s → E (damage debris s)) :
    Triple P (command env effect damage) Q E where
  success := by
    intro s hs hok
    unfold command at hok ⊢
    cases houtcome : env.outcome s.commands with
    | done => exact heffect _ (hcount s _ hs)
    | failed => simp [houtcome] at hok
    | failedLate => simp [houtcome] at hok
  failure := by
    intro s hs hfail
    unfold command at hfail ⊢
    cases houtcome : env.outcome s.commands with
    | done => simp [houtcome] at hfail
    | failed => exact hdamage _ _ (hcount s _ hs)
    | failedLate => exact hlate _ (heffect _ (hcount s _ hs))

/-- A command that changes nothing but the work directory. -/
theorem Sound.of_work {s t : Switch Config} (h : Sound uci station candidates config s)
    (hstaged : t.staged = s.staged) (hinstalled : t.installed = s.installed) :
    Sound uci station candidates config t where
  staged := by
    rw [hstaged]
    exact h.staged
  installed := by
    rw [hinstalled]
    exact h.installed

theorem triple_removeWork :
    Triple (Sound uci station candidates config) (removeWork env)
      (Sound uci station candidates config) (Sound uci station candidates config) :=
  triple_command (fun _ _ h => h.of_work rfl rfl) (fun _ h => h.of_work rfl rfl) (fun _ h => h)
    fun _ _ h => h

theorem triple_makeWork :
    Triple (Sound uci station candidates config) (makeWork env)
      (Sound uci station candidates config) (Sound uci station candidates config) := by
  have hcommand : Triple (Sound uci station candidates config)
      (command env (fun s => { s with work := some none }) fun _ s => s)
      (Sound uci station candidates config) (Sound uci station candidates config) :=
    triple_command (fun _ _ h => h.of_work rfl rfl) (fun _ h => h.of_work rfl rfl) (fun _ h => h)
      fun _ _ h => h
  constructor
  · intro s hs hok
    unfold makeWork at hok ⊢
    split at hok
    · cases hok
    · next hfree =>
        rw [if_neg hfree]
        exact hcommand.success s hs hok
  · intro s hs hfail
    unfold makeWork at hfail ⊢
    split at hfail
    · next htaken =>
        -- The directory of an earlier attempt is still there.
        rw [if_pos htaken]
        exact hs
    · next hfree =>
        rw [if_neg hfree]
        exact hcommand.failure s hs hfail

/-- A change of a mode keeps what does not speak of the number of commands. -/
theorem triple_changeMode {P E : Switch Config → Prop}
    (hcount : ∀ s n, P s → P { s with commands := n }) (h : ∀ s, P s → E s) :
    Triple P (changeMode env) P E :=
  triple_command hcount (fun _ hs => hs) h fun s _ hs => h s hs

/-- **A fresh copy is made for every attempt.** -/
theorem triple_copyBackup :
    Triple (Sound uci station candidates config) (copyBackup env config)
      (Copied uci station candidates config []) (Sound uci station candidates config) :=
  triple_command (fun _ _ h => h.of_work rfl rfl)
    (fun s h => ⟨h.of_work rfl rfl, rfl, s.staged, h.staged, (List.append_nil _).symm⟩)
    (fun _ h => h.sound) fun _ _ h => h.of_work rfl rfl

theorem Copied.count {edits : List (UciKey × Bytes)} (s : Switch Config) (n : ℕ)
    (h : Copied uci station candidates config edits s) :
    Copied uci station candidates config edits { s with commands := n } :=
  ⟨h.sound.of_work rfl rfl, h.work, h.staged⟩

theorem Committed.count {edits : List (UciKey × Bytes)} (s : Switch Config) (n : ℕ)
    (h : Committed uci station candidates config edits s) :
    Committed uci station candidates config edits { s with commands := n } :=
  ⟨h.sound.of_work rfl rfl, h.work⟩

/-- An edit is set. -/
theorem triple_uciSet {edits : List (UciKey × Bytes)} {edit : UciKey × Bytes}
    (hedit : edit.1 ∈ stationOptions station) :
    Triple (Copied uci station candidates config edits) (uciSet env edit)
      (Copied uci station candidates config (edits ++ [edit]))
      (Sound uci station candidates config) := by
  refine triple_command Copied.count ?_ (fun _ h => h.sound) fun _ _ h => h.sound
  intro s h
  obtain ⟨before, hbefore, hstaged⟩ := h.staged
  have honly : OnlyStation station [edit] := by
    intro name hname
    rw [List.map_singleton, List.mem_singleton] at hname
    rw [hname]
    exact hedit
  exact {
    sound := ⟨onlyStation_append h.sound.staged honly, h.sound.installed⟩
    work := h.work
    staged := ⟨before, hbefore, by rw [hstaged, List.append_assoc]⟩ }

/-- The edits of an attempt are set one after the other, and any of them may fail. -/
theorem triple_uciSets {edits : List (UciKey × Bytes)} {cs : List (Command (Switch Config))}
    {Q : Switch Config → Prop} (before : List (UciKey × Bytes))
    (hedits : ∀ edit ∈ edits, edit.1 ∈ stationOptions station)
    (hrest : Triple (Copied uci station candidates config (before ++ edits)) (Script.chain cs) Q
      (Sound uci station candidates config)) :
    Triple (Copied uci station candidates config before)
      (Script.chain (edits.map (uciSet env) ++ cs)) Q (Sound uci station candidates config) := by
  induction edits generalizing before with
  | nil =>
      rw [List.append_nil] at hrest
      exact hrest
  | cons edit edits ih =>
      refine (triple_uciSet (hedits edit List.mem_cons_self)).cons ?_
      refine ih _ (fun other hother => hedits other (List.mem_cons_of_mem _ hother)) ?_
      rw [List.append_assoc]
      exact hrest

/-- **What earlier attempts have left is edited again**, so that the commit writes the starting
configuration with the edits of this attempt. -/
theorem triple_uciCommit (huci : uci.Lawful) {edits : List (UciKey × Bytes)}
    (hedits : edits.map Prod.fst = stationOptions station) :
    Triple (Copied uci station candidates config edits) (uciCommit env uci)
      (Committed uci station candidates config edits) (Sound uci station candidates config) := by
  refine triple_command Copied.count ?_ (fun _ h => h.sound)
    fun _ _ h => h.sound.of_work rfl rfl
  intro s h
  obtain ⟨before, hbefore, hstaged⟩ := h.staged
  refine ⟨⟨fun name hname => absurd hname List.not_mem_nil, h.sound.installed⟩,
    uci.commit config s.staged, ?_, ?_⟩
  · simp only [h.work, Option.map_some]
  · rw [huci, hstaged, Edits.apply_absorb]
    intro name hname
    rw [hedits]
    exact hbefore name hname

/-- The committed copy is installed. -/
theorem triple_install {profile : Profile} {selectedKey : Bytes} (hmem : profile ∈ candidates)
    (hkey : loadProfileKey profile.content = some selectedKey) :
    Triple
      (Committed uci station candidates config
        (stationEdits station (substituted (profileSsid profile.name)) selectedKey))
      (install env profile) (Sound uci station candidates config)
      (Sound uci station candidates config) := by
  have hattempted : ∀ copy : Config, uci.options copy = Edits.apply (uci.options config)
      (stationEdits station (substituted (profileSsid profile.name)) selectedKey) →
        Attempted uci station candidates config (profile, copy) := by
    intro copy hcopy
    refine ⟨hmem, ?_, selectedKey, hkey, hcopy⟩
    intro name hname
    rw [hcopy, Edits.apply_of_not_mem]
    rw [map_fst_stationEdits]
    exact hname
  have hcommand : ∀ copy : Config, uci.options copy = Edits.apply (uci.options config)
      (stationEdits station (substituted (profileSsid profile.name)) selectedKey) →
        Triple (Sound uci station candidates config)
          (command env
            (fun s => { s with
              config := copy
              work := some none
              installed := s.installed ++ [(profile, copy)] })
            fun _ s => s)
          (Sound uci station candidates config) (Sound uci station candidates config) := by
    intro copy hcopy
    refine triple_command (fun _ _ h => h.of_work rfl rfl) (fun s h => ⟨h.staged, ?_⟩)
      (fun _ h => h) fun _ _ h => h
    intro record hrecord
    rcases List.mem_append.1 hrecord with hold | hnew
    · exact h.installed record hold
    · rw [List.mem_singleton.1 hnew]
      exact hattempted copy hcopy
  constructor
  · rintro s ⟨hsound, copy, hwork, hcopy⟩ hok
    unfold install at hok ⊢
    simp only [hwork] at hok ⊢
    exact (hcommand copy hcopy).success s hsound hok
  · rintro s ⟨hsound, copy, hwork, hcopy⟩ hfail
    unfold install at hfail ⊢
    simp only [hwork] at hfail ⊢
    exact (hcommand copy hcopy).failure s hsound hfail

/-- **An attempt installs the starting configuration with its own four options, or fails**, whatever
earlier attempts have left behind. -/
theorem sound_applyProfile (huci : uci.Lawful) {profile : Profile} (hmem : profile ∈ candidates)
    {s : Switch Config} (hs : Sound uci station candidates config s) :
    Sound uci station candidates config (applyProfile env uci station config profile s).1 := by
  unfold applyProfile
  cases hkey : loadProfileKey profile.content with
  | none => exact hs
  | some selectedKey =>
      simp only
      split
      · exact hs
      · -- The chain, command by command.
        refine Triple.always (Q := Sound uci station candidates config) ?_ hs
        refine triple_removeWork.orTrue.cons ?_
        refine triple_makeWork.cons ?_
        refine (triple_changeMode (fun _ _ h => h.of_work rfl rfl) fun _ h => h).cons ?_
        refine triple_copyBackup.cons ?_
        refine (triple_changeMode Copied.count fun _ h => h.sound).cons ?_
        refine triple_uciSets [] ?_ ?_
        · intro edit hedit
          rw [← map_fst_stationEdits station (substituted (profileSsid profile.name)) selectedKey]
          exact List.mem_map_of_mem hedit
        · refine (triple_uciCommit huci (map_fst_stationEdits _ _ _)).cons ?_
          refine (triple_changeMode Committed.count fun _ h => h).orTrue.cons ?_
          refine (triple_install hmem hkey).cons ?_
          exact triple_removeWork.orTrue.cons Triple.nil

/-! ### A run in which no network is reached -/

/-- Only the counters differ. -/
structure SameFiles (s t : Switch Config) : Prop where
  config : t.config = s.config
  staged : t.staged = s.staged
  installed : t.installed = s.installed

theorem SameFiles.refl (s : Switch Config) : SameFiles s s := ⟨rfl, rfl, rfl⟩

theorem SameFiles.trans {s t u : Switch Config} (h : SameFiles s t) (h' : SameFiles t u) :
    SameFiles s u :=
  ⟨h'.config.trans h.config, h'.staged.trans h.staged, h'.installed.trans h.installed⟩

theorem Sound.of_sameFiles {s t : Switch Config} (h : Sound uci station candidates config s)
    (hsame : SameFiles s t) : Sound uci station candidates config t :=
  h.of_work hsame.staged hsame.installed

theorem Restored.of_sameFiles {found : Option Bytes} {s t : Switch Config}
    (h : Restored uci found candidates config s) (hsame : SameFiles s t) :
    Restored uci found candidates config t where
  same := hsame.config.trans h.same
  installed := by
    rw [hsame.installed]
    exact h.installed

section NeverReady

variable (hready : ∀ n, env.ready n = false)

include hready

theorem networkReady_eq_false (s : Switch Config) : (networkReady env s).2 = false := hready _

omit hready in
theorem sameFiles_networkReady (env : Conditions Config) (s : Switch Config) :
    SameFiles s (networkReady env s).1 :=
  ⟨rfl, rfl, rfl⟩

/-- Waiting is in vain. -/
theorem waitLoop_eq_false (timeout fuel elapsed : ℕ) (associationSeen : Bool) (s : Switch Config) :
    (waitLoop env timeout fuel elapsed associationSeen s).2 = false := by
  induction fuel generalizing elapsed associationSeen s with
  | zero => exact networkReady_eq_false hready s
  | succ fuel ih =>
      unfold waitLoop
      simp only [networkReady_eq_false hready, Bool.false_eq_true, if_false]
      split
      · split
        · rfl
        · exact ih _ _ _
      · exact networkReady_eq_false hready s

theorem waitForNetwork_eq_false (timeout : ℕ) (s : Switch Config) :
    (waitForNetwork env timeout s).2 = false :=
  waitLoop_eq_false hready timeout timeout 0 false s

omit hready in
theorem sameFiles_waitLoop (env : Conditions Config) (timeout fuel elapsed : ℕ)
    (associationSeen : Bool) (s : Switch Config) :
    SameFiles s (waitLoop env timeout fuel elapsed associationSeen s).1 := by
  induction fuel generalizing elapsed associationSeen s with
  | zero => exact sameFiles_networkReady env s
  | succ fuel ih =>
      unfold waitLoop
      split
      · simp only
        split
        · exact sameFiles_networkReady env s
        · split
          · exact sameFiles_networkReady env s
          · exact (sameFiles_networkReady env s).trans (ih _ _ _)
      · exact sameFiles_networkReady env s

omit hready in
theorem sameFiles_waitForNetwork (env : Conditions Config) (timeout : ℕ) (s : Switch Config) :
    SameFiles s (waitForNetwork env timeout s).1 :=
  sameFiles_waitLoop env timeout timeout 0 false s

theorem scanAttempts_eq_false (retries : ℕ) (s : Switch Config) :
    (scanAttempts env retries s).2 = false := by
  induction retries generalizing s with
  | zero => rfl
  | succ retries ih =>
      unfold scanAttempts
      simp only [networkReady_eq_false hready, Bool.false_eq_true, if_false]
      split
      · rfl
      · split
        · rfl
        · exact ih _

omit hready in
theorem sameFiles_scanAttempts (env : Conditions Config) (retries : ℕ) (s : Switch Config) :
    SameFiles s (scanAttempts env retries s).1 := by
  induction retries generalizing s with
  | zero => exact SameFiles.refl s
  | succ retries ih =>
      have hcount : ∀ n, SameFiles s { s with scans := n } := fun _ => ⟨rfl, rfl, rfl⟩
      unfold scanAttempts
      simp only
      split
      · exact hcount _
      · split
        · exact hcount _
        · split
          · exact (hcount _).trans (sameFiles_networkReady env _)
          · exact ((hcount _).trans (sameFiles_networkReady env _)).trans (ih _)

theorem scanRound_eq_false (s : Switch Config) : (scanRound env s).2 = false := by
  unfold scanRound
  simp only [networkReady_eq_false hready, Bool.false_eq_true, if_false]
  exact scanAttempts_eq_false hready _ _

omit hready in
theorem sameFiles_scanRound (env : Conditions Config) (s : Switch Config) :
    SameFiles s (scanRound env s).1 := by
  unfold scanRound
  simp only
  split
  · exact sameFiles_networkReady env s
  · exact (sameFiles_networkReady env s).trans (sameFiles_scanAttempts env _ _)

theorem scanRounds_eq_false (rounds : ℕ) (s : Switch Config) :
    (Script.search (fun _ => scanRound env) (List.range rounds) s).2 = false :=
  Script.search_eq_false (fun _ _ s => scanRound_eq_false hready s) s

omit hready in
theorem sameFiles_scanRounds (env : Conditions Config) (rounds : ℕ) (s : Switch Config) :
    SameFiles s (Script.search (fun _ => scanRound env) (List.range rounds) s).1 :=
  Script.search_invariant (I := SameFiles s)
    (fun _ _ _ h => h.trans (sameFiles_scanRound env _)) (SameFiles.refl s)

/-- No candidate reaches a network. -/
theorem tryCandidate_eq_false (profile : Profile) (s : Switch Config) :
    (tryCandidate env uci station config profile s).2 = false := by
  unfold tryCandidate
  simp only [networkReady_eq_false hready, Bool.false_eq_true, if_false]
  split
  · exact waitForNetwork_eq_false hready _ _
  · rfl

omit hready in
/-- One candidate is tried. -/
theorem sound_tryCandidate (huci : uci.Lawful) {profile : Profile} (hmem : profile ∈ candidates)
    {s : Switch Config} (hs : Sound uci station candidates config s) :
    Sound uci station candidates config (tryCandidate env uci station config profile s).1 := by
  have hchecked := hs.of_sameFiles (sameFiles_networkReady env s)
  have happlied : Sound uci station candidates config
      (applyProfile env uci station config profile (networkReady env s).1).1 :=
    sound_applyProfile huci hmem hchecked
  unfold tryCandidate
  simp only
  split
  · exact hchecked
  · split
    · exact happlied.of_sameFiles (sameFiles_waitForNetwork env _ _)
    · exact happlied

theorem tryCandidates_eq_false (passes : ℕ) (s : Switch Config) :
    (tryCandidates env uci station config candidates passes s).2 = false :=
  Script.search_eq_false (fun _ _ s =>
    Script.search_eq_false (fun profile _ s => tryCandidate_eq_false hready profile s) s) s

omit hready in
/-- **All passes keep what holds between the attempts.** -/
theorem sound_tryCandidates (huci : uci.Lawful) (passes : ℕ) {s : Switch Config}
    (hs : Sound uci station candidates config s) :
    Sound uci station candidates config
      (tryCandidates env uci station config candidates passes s).1 :=
  Script.search_invariant (I := Sound uci station candidates config)
    (fun _ _ _ h => Script.search_invariant (I := Sound uci station candidates config)
      (fun _ hmem _ h => sound_tryCandidate huci hmem h) h) hs

end NeverReady

/-- The restored configuration is the backup. -/
theorem restoreWirelessConfig_eq (hrestore : ∀ n, env.restore n = .done) (backup : Config)
    (s : Switch Config) : restoreWirelessConfig env backup s =
    ({ s with config := backup }, true) := by
  unfold restoreWirelessConfig
  simp [hrestore]

/-- The last part of the script ends with the backup. -/
theorem restored_switchNetwork (huci : uci.Lawful) (hready : ∀ n, env.ready n = false)
    (hrestore : ∀ n, env.restore n = .done) (passes : ℕ) {s : Switch Config}
    (hconfig : s.config = config) (hs : Sound uci station candidates config s) :
    Restored uci (some station) candidates config
      (switchNetwork env uci passes station candidates s).1 := by
  subst hconfig
  have htried : Sound uci station candidates s.config
      (tryCandidates env uci station s.config candidates passes s).1 :=
    sound_tryCandidates huci passes hs
  have hrestored : Restored uci (some station) candidates s.config
      { (tryCandidates env uci station s.config candidates passes s).1 with
        config := s.config } :=
    ⟨rfl, fun record hrecord => ⟨station, rfl, htried.installed record hrecord⟩⟩
  unfold switchNetwork
  split
  · exact ⟨rfl, fun record hrecord => ⟨station, rfl, hs.installed record hrecord⟩⟩
  · simp only [tryCandidates_eq_false hready, restoreWirelessConfig_eq hrestore,
      waitForNetwork_eq_false hready, Bool.not_true, Bool.false_eq_true, if_false]
    exact hrestored.of_sameFiles (sameFiles_waitForNetwork env _ _)

/-- **When no network is ever reached, the script exits with the configuration it started from**,
and each configuration that was installed in between differs from it in the four options of the
station only, which have the values of one attempt. -/
theorem restored_deckWifiSelect (huci : uci.Lawful) (hready : ∀ n, env.ready n = false)
    (hrestore : ∀ n, env.restore n = .done) {work : Option (Option Config)}
    {staged : List (UciKey × Bytes)} {found : Option Bytes}
    (hstaged : ∀ station, found = some station → OnlyStation station staged) (passes : ℕ)
    (profileDir : Bool) :
    Restored uci found candidates config
      (deckWifiSelect env uci passes profileDir found candidates (start config work staged)).1 := by
  have hstart : Restored uci found candidates config (start config work staged) :=
    ⟨rfl, fun record hrecord => absurd hrecord List.not_mem_nil⟩
  have hchecked := sameFiles_networkReady env (start config work staged)
  unfold deckWifiSelect
  simp only [networkReady_eq_false hready, Bool.false_eq_true, if_false]
  split
  · exact hstart.of_sameFiles hchecked
  · cases found with
    | none => exact hstart.of_sameFiles hchecked
    | some station =>
        have hscanned := hchecked.trans (sameFiles_scanRounds env scanConfirmations _)
        have hagain := hscanned.trans (sameFiles_networkReady env _)
        unfold selectNetwork
        simp only [scanRounds_eq_false hready, networkReady_eq_false hready, Bool.false_eq_true,
          if_false]
        split
        · exact hstart.of_sameFiles hscanned
        · have hsound : Sound uci station candidates config (start config work staged) :=
            ⟨hstaged station rfl, fun record hrecord => absurd hrecord List.not_mem_nil⟩
          exact restored_switchNetwork huci hready hrestore passes hagain.config
            (hsound.of_sameFiles hagain)

/-- A tool whose configurations are their options. -/
def plainUci : Uci (UciKey → Option Bytes) where
  options := id
  commit := Edits.apply

/-- No network is reached, and the eighth command of the first attempt fails after it has set the
encryption. -/
def failingOnce : Conditions (UciKey → Option Bytes) where
  ready := fun _ => false
  associated := fun _ => false
  scanned := fun _ => true
  backup := .done
  outcome := fun n => if n = 7 then .failedLate else .done
  debris := fun _ _ => none
  restore := fun _ => .done

/-- The first attempt fails and leaves three edits behind; the second one is installed. -/
theorem restored_deckWifiSelect_failingOnce :
    Restored plainUci (some (ascii "@wifi-iface[0]"))
        [newProfile (ascii "net1") (ascii "fixture-1"),
          newProfile (ascii "net2") (ascii "fixture-2")]
        (fun _ => none)
        (deckWifiSelect failingOnce plainUci 1 true (some (ascii "@wifi-iface[0]"))
          [newProfile (ascii "net1") (ascii "fixture-1"),
            newProfile (ascii "net2") (ascii "fixture-2")]
          (start (fun _ => none) none [])).1 ∧
      (deckWifiSelect failingOnce plainUci 1 true (some (ascii "@wifi-iface[0]"))
          [newProfile (ascii "net1") (ascii "fixture-1"),
            newProfile (ascii "net2") (ascii "fixture-2")]
          (start (fun _ => none) none [])).1.installed.map Prod.fst =
        [newProfile (ascii "net2") (ascii "fixture-2")] :=
  ⟨restored_deckWifiSelect (fun _ _ => rfl) (fun _ => rfl) (fun _ => rfl)
    (fun _ _ _ h => absurd h List.not_mem_nil) 1 true, by decide +kernel⟩

end Switch

end NesDeck
