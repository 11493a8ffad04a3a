/-
**The watcher of the Wi-Fi station.**

`deck-wifi-watch` looks at the network every ten seconds for as long as the Deck runs. After two
checks in a row that fail it lets `deck-wifi-select` look for another network, and counts again.
When the network is there it has the active network recorded, once.

A run of the watcher is a list of rounds, with the answers of the network and of every command of
every selection; a selection may be cut off by the lock of another one. What `uci commit` did not
finish in one selection waits for the next one.

Main definitions:

* `NesDeck.Switch.findStaSection` — the station that a selection works on;
* `NesDeck.Watcher.step` — a round of the loop;
* `NesDeck.Watcher.streak` — for how long there has been no network.

Main results:

* `NesDeck.Switch.settled_deckWifiSelect` — how a selection ends, also one that finds a network;
* `NesDeck.Watcher.calls_spec` — **when another network is looked for**, and when the active one is
  recorded;
* `NesDeck.Watcher.config_spec` — **the configuration always differs from the first one in the four
  options of the station only**, however many selections there were and however they ended.
-/

import NesDeck.Lib.Run
import NesDeck.ManifestRows
import NesDeck.WifiFailover

set_option relaxedAutoImplicit false
set_option autoImplicit false

namespace NesDeck

open HostFile (Bytes ascii)
open Script (Command Keeps)

/-! ### The station -/

namespace Switch

variable {Config : Type}

/-- The name of an interface. -/
def wifiIface (index : ℕ) : Bytes := ascii "@wifi-iface[" ++ decimal index ++ ascii "]"

/-- The interface is an enabled station. -/
def enabledStation (uci : Uci Config) (config : Config) (section_ : Bytes) : Bool :=
  decide (uci.options config ⟨section_, ascii "mode"⟩ = some (ascii "sta") ∧
    uci.options config ⟨section_, ascii "disabled"⟩ ≠ some (ascii "1"))

/-- The loop of `find_sta_section`, for a configuration with less than `fuel` interfaces; the type
of a section is the option without a name. -/
def staLoop (uci : Uci Config) (config : Config) : ℕ → ℕ → Option Bytes
  | 0, _ => none
  | fuel + 1, index =>
      if (uci.options config ⟨wifiIface index, []⟩).isNone then none
      else if enabledStation uci config (wifiIface index) then some (wifiIface index)
      else staLoop uci config fuel (index + 1)

/-- `find_sta_section`. -/
def findStaSection (uci : Uci Config) (fuel : ℕ) (config : Config) : Option Bytes :=
  staLoop uci config fuel 0

end Switch

/-! ### How a selection ends -/

namespace Switch

variable {Config : Type} {env : Conditions Config} {uci : Uci Config} {station : Bytes}
  {candidates : List Profile} {config : Config}

/-- The configuration is the one at the start, or one that was installed. -/
def Current (config : Config) (s : Switch Config) : Prop :=
  s.config = config ∨ ∃ record ∈ s.installed, s.config = record.2

theorem Current.of_same {s t : Switch Config} (h : Current config s) (hconfig : t.config = s.config)
    (hinstalled : t.installed = s.installed) : Current config t := by
  rw [Current, hconfig, hinstalled]
  exact h

/-- A command that does not touch the configuration. -/
theorem keeps_command {effect : Switch Config → Switch Config}
    {damage : Config → Switch Config → Switch Config}
    (heffect : ∀ s, (effect s).config = s.config ∧ (effect s).installed = s.installed)
    (hdamage : ∀ debris s, (damage debris s).config = s.config ∧
      (damage debris s).installed = s.installed) :
    Keeps (Current config) (command env effect damage) := by
  intro s h
  have hnext : Current config { s with commands := s.commands + 1 } := h.of_same rfl rfl
  rw [command]
  cases env.outcome s.commands with
  | done => exact hnext.of_same (heffect _).1 (heffect _).2
  | failed => exact hnext.of_same (hdamage _ _).1 (hdamage _ _).2
  | failedLate => exact hnext.of_same (heffect _).1 (heffect _).2

theorem keeps_removeWork : Keeps (Current config) (removeWork env) :=
  keeps_command (fun _ => ⟨rfl, rfl⟩) fun _ _ => ⟨rfl, rfl⟩

theorem keeps_changeMode : Keeps (Current config) (changeMode env) :=
  keeps_command (fun _ => ⟨rfl, rfl⟩) fun _ _ => ⟨rfl, rfl⟩

theorem keeps_copyBackup (backup : Config) : Keeps (Current config) (copyBackup env backup) :=
  keeps_command (fun _ => ⟨rfl, rfl⟩) fun _ _ => ⟨rfl, rfl⟩

theorem keeps_uciSet (edit : UciKey × Bytes) : Keeps (Current config) (uciSet env edit) :=
  keeps_command (fun _ => ⟨rfl, rfl⟩) fun _ _ => ⟨rfl, rfl⟩

theorem keeps_uciCommit : Keeps (Current config) (uciCommit env uci) :=
  keeps_command (fun _ => ⟨rfl, rfl⟩) fun _ _ => ⟨rfl, rfl⟩

theorem keeps_makeWork : Keeps (Current config) (makeWork env) := by
  have hmake : Keeps (Current config)
      (command env (fun s => { s with work := some none }) fun _ s => s) :=
    keeps_command (fun _ => ⟨rfl, rfl⟩) fun _ _ => ⟨rfl, rfl⟩
  intro s h
  rw [makeWork]
  split
  · exact h
  · exact hmake s h

/-- What is installed is recorded. -/
theorem keeps_install (profile : Profile) : Keeps (Current config) (install env profile) := by
  intro s h
  rw [install]
  split
  next copy _ =>
    rw [command]
    have hinstalled : ∀ t : Switch Config, Current config { t with
        config := copy, work := some none, installed := t.installed ++ [(profile, copy)] } :=
          fun t =>
      Or.inr ⟨(profile, copy), List.mem_append_right _ (List.mem_singleton_self _), rfl⟩
    cases env.outcome s.commands with
    | done => exact hinstalled _
    | failed => exact h.of_same rfl rfl
    | failedLate => exact hinstalled _
  · exact h

theorem keeps_applyProfile (backup : Config) (profile : Profile) :
    Keeps (Current config) (applyProfile env uci station backup profile) := by
  intro s h
  rw [applyProfile]
  split
  · exact h
  next selectedKey _ =>
  split
  · exact h
  · refine Keeps.chain ?_ s h
    have hedits : ∀ c ∈
      (stationEdits station (substituted (profileSsid profile.name)) selectedKey).map
        (uciSet env), Keeps (Current config) c := by
      intro c hc
      obtain ⟨edit, -, rfl⟩ := List.mem_map.1 hc
      exact keeps_uciSet edit
    refine List.forall_mem_append.2 ⟨?_, List.forall_mem_append.2 ⟨hedits, ?_⟩⟩
    · simp only [List.forall_mem_cons]
      exact ⟨keeps_removeWork.orTrue, keeps_makeWork, keeps_changeMode, keeps_copyBackup backup,
        keeps_changeMode, List.forall_mem_nil _⟩
    · simp only [List.forall_mem_cons]
      exact ⟨keeps_uciCommit, keeps_changeMode.orTrue, keeps_install profile,
        keeps_removeWork.orTrue,
        List.forall_mem_nil _⟩

/-- How a selection ends: what was installed is as it should be, and is the configuration unless
that is the one at the start. -/
structure Settled (uci : Uci Config) (station : Bytes) (candidates : List Profile) (config : Config)
    (s : Switch Config) : Prop where
  sound : Sound uci station candidates config s
  current : Current config s

theorem Settled.of_sameFiles {s t : Switch Config} (h : Settled uci station candidates config s)
    (hsame : SameFiles s t) : Settled uci station candidates config t :=
  ⟨h.sound.of_sameFiles hsame, h.current.of_same hsame.config hsame.installed⟩

/-- One candidate is tried. -/
theorem settled_tryCandidate (huci : uci.Lawful) {profile : Profile} (hmem : profile ∈ candidates) :
    Keeps (Settled uci station candidates config)
      (tryCandidate env uci station config profile) := by
  intro s h
  have hchecked := h.of_sameFiles (sameFiles_networkReady env s)
  have happlied : Settled uci station candidates config
      (applyProfile env uci station config profile (networkReady env s).1).1 :=
    ⟨sound_applyProfile huci hmem hchecked.sound,
      keeps_applyProfile config profile _ hchecked.current⟩
  rw [tryCandidate]
  split
  · exact hchecked
  · dsimp only
    split
    · exact happlied.of_sameFiles (sameFiles_waitForNetwork env _ _)
    · exact happlied

theorem settled_tryCandidates (huci : uci.Lawful) (passes : ℕ) :
    Keeps (Settled uci station candidates config)
      (tryCandidates env uci station config candidates passes) := by
  intro s h
  refine Script.search_invariant ?_ h
  intro _ _ s h
  exact Script.search_invariant (fun profile hmem => settled_tryCandidate huci hmem) h

/-- The backup is restored, or is not. -/
theorem settled_restoreWirelessConfig :
    Keeps (Settled uci station candidates config) (restoreWirelessConfig env config) := by
  intro s h
  have hrestored : Settled uci station candidates config { s with config := config } :=
    ⟨h.sound.of_work rfl rfl, Or.inl rfl⟩
  rw [restoreWirelessConfig]
  split
  · exact h
  · split
    · exact h
    · split
      · exact hrestored
      · exact h
      · exact hrestored

theorem settled_switchNetwork (huci : uci.Lawful) (passes : ℕ) {s : Switch Config}
    (hconfig : s.config = config) (h : Settled uci station candidates config s) :
    Settled uci station candidates config
      (switchNetwork env uci passes station candidates s).1 := by
  subst hconfig
  have htried : Settled uci station candidates s.config
      (tryCandidates env uci station s.config candidates passes s).1 := settled_tryCandidates
        huci passes s h
  have hrestored : Settled uci station candidates s.config
      (restoreWirelessConfig env s.config
        (tryCandidates env uci station s.config candidates passes s).1).1 :=
    settled_restoreWirelessConfig _ htried
  rw [switchNetwork]
  split
  · exact h
  dsimp only
  split
  · exact htried
  split
  · exact hrestored
  split
  · exact hrestored.of_sameFiles (sameFiles_waitForNetwork env _ _)
  · exact hrestored.of_sameFiles (sameFiles_waitForNetwork env _ _)

/-- **How a selection ends**, also one that finds a network, and whatever fails. -/
theorem settled_deckWifiSelect (huci : uci.Lawful) {work : Option (Option Config)}
    {staged : List (UciKey × Bytes)} (hstaged : OnlyStation station staged) (passes : ℕ)
    (profileDir : Bool) :
    Settled uci station candidates config
      (deckWifiSelect env uci passes profileDir (some station) candidates
        (start config work staged)).1 := by
  have hstart : Settled uci station candidates config (start config work staged) :=
    ⟨⟨hstaged, fun record hrecord => absurd hrecord List.not_mem_nil⟩, Or.inl rfl⟩
  have hchecked := sameFiles_networkReady env (start config work staged)
  have hscanned := hchecked.trans (sameFiles_scanRounds env scanConfirmations _)
  have hagain := hscanned.trans (sameFiles_networkReady env _)
  rw [deckWifiSelect]
  split
  · exact hstart.of_sameFiles hchecked
  split
  · exact hstart.of_sameFiles hchecked
  rw [selectNetwork]
  dsimp only
  split
  · exact hstart.of_sameFiles hscanned
  split
  · exact hstart.of_sameFiles hscanned
  split
  · exact hstart.of_sameFiles hagain
  · exact settled_switchNetwork huci passes hagain.config (hstart.of_sameFiles hagain)

/-- Without a station nothing is done. -/
theorem sameFiles_deckWifiSelect_none (env : Conditions Config) (uci : Uci Config) (passes : ℕ)
    (profileDir : Bool) (candidates : List Profile) (s : Switch Config) :
    SameFiles s (deckWifiSelect env uci passes profileDir none candidates s).1 := by
  rw [deckWifiSelect]
  split
  · exact sameFiles_networkReady env s
  split
  · exact sameFiles_networkReady env s
  · exact sameFiles_networkReady env s

/-! ### The station stays the same -/

/-- The configuration differs in the four options of the station only, and the station is not
disabled. -/
structure Near (uci : Uci Config) (station : Bytes) (base config : Config) : Prop where
  others : ∀ name, name ∉ stationOptions station → uci.options config name = uci.options base name
  enabled : uci.options config ⟨station, ascii "disabled"⟩ ≠ some (ascii "1")

theorem notMem_stationOptions {station section_ option : Bytes} (hssid : option ≠ ascii "ssid")
    (hkey : option ≠ ascii "key") (hencryption : option ≠ ascii "encryption")
    (hdisabled : option ≠ ascii "disabled" ∨ section_ ≠ station) :
    (⟨section_, option⟩ : UciKey) ∉ stationOptions station := by
  rw [stationOptions]
  simp only [List.mem_cons, UciKey.mk.injEq, List.not_mem_nil, or_false, not_or, not_and]
  exact ⟨fun _ => hssid, fun _ => hkey, fun _ => hencryption,
    fun hsection => hdisabled.resolve_right (not_not.2 hsection)⟩

/-- An interface is an enabled station in both configurations or in none. -/
theorem Near.enabledStation_eq {base config : Config} (h : Near uci station base config)
    (hstation : enabledStation uci base station = true) (section_ : Bytes) :
    enabledStation uci config section_ = enabledStation uci base section_ := by
  have hmode : uci.options config ⟨section_, ascii "mode"⟩ =
      uci.options base ⟨section_, ascii "mode"⟩ :=
    h.others _ (notMem_stationOptions (by decide) (by decide) (by decide) (Or.inl (by decide)))
  by_cases hsection : section_ = station
  · subst hsection
    rw [hstation]
    rw [enabledStation, decide_eq_true_eq] at hstation ⊢
    rw [hmode]
    exact ⟨hstation.1, h.enabled⟩
  · have hdisabled : uci.options config ⟨section_, ascii "disabled"⟩ =
        uci.options base ⟨section_, ascii "disabled"⟩ :=
      h.others _ (notMem_stationOptions (by decide) (by decide) (by decide) (Or.inr hsection))
    rw [enabledStation, enabledStation, hmode, hdisabled]

theorem enabledStation_of_findStaSection {fuel : ℕ}
    (h : findStaSection uci fuel config = some station) :
    enabledStation uci config station = true := by
  have hloop : ∀ fuel index, staLoop uci config fuel index = some station →
      enabledStation uci config station = true := by
    intro fuel
    induction fuel with
    | zero => intro index h; cases h
    | succ fuel ih =>
        intro index h
        rw [staLoop] at h
        split at h
        · cases h
        · split at h
          next henabled =>
            obtain rfl := Option.some.inj h
            exact henabled
          · exact ih _ h
  exact hloop fuel 0 h

/-- **The next selection works on the same station.** -/
theorem Near.findStaSection_eq {base config : Config} (h : Near uci station base config) {fuel : ℕ}
    (hstation : findStaSection uci fuel base = some station) :
    findStaSection uci fuel config = some station := by
  have henabled := h.enabledStation_eq (enabledStation_of_findStaSection hstation)
  have hloop : ∀ fuel index, staLoop uci config fuel index = staLoop uci base fuel index := by
    intro fuel
    induction fuel with
    | zero => intro index; rfl
    | succ fuel ih =>
        intro index
        have htype : uci.options config ⟨wifiIface index, []⟩ =
            uci.options base ⟨wifiIface index, []⟩ :=
          h.others _
            (notMem_stationOptions (by decide) (by decide) (by decide) (Or.inl (by decide)))
        rw [staLoop, staLoop, htype, henabled, ih]
  rw [findStaSection, hloop]
  exact hstation

/-- A selection leaves the other options alone. -/
theorem Settled.near {base : Config} {s : Switch Config}
    (h : Settled uci station candidates config s)
    (hnear : Near uci station base config) : Near uci station base s.config := by
  rcases h.current with hsame | ⟨record, hrecord, hsame⟩
  · rw [hsame]
    exact hnear
  · obtain ⟨-, hothers, selectedKey, -, hown⟩ := h.sound.installed record hrecord
    rw [hsame]
    refine ⟨fun name hname => (hothers name hname).trans (hnear.others name hname), ?_⟩
    rw [hown]
    have hdisabled : Edits.apply (uci.options config)
        (stationEdits station (substituted (profileSsid record.1.name)) selectedKey)
          ⟨station, ascii "disabled"⟩ = some (ascii "0") := by
      rw [stationEdits]
      simp only [Edits.apply, Function.update_self]
    rw [hdisabled]
    decide

end Switch

/-! ### The watcher -/

/-- The calls of `write_status`. -/
structure StatusCalls where
  directory : Bool
  written : Bool

/-- `write_status`: the line that is in the file, if there is one. -/
def writeStatus (current : Option Bytes) (status : Bytes) (calls : StatusCalls) : Option Bytes :=
  if calls.directory = false then current
  else if current = some status then current
  else if calls.written = true then some status
  else current

/-- A round: whether the network is ready, the calls of `write_status`, whether the selector is
locked out, whether it can record the network, what it finds, and how its commands end. -/
structure WatchRound (Config : Type) where
  ready : Bool
  status : StatusCalls
  locked : Bool
  recorded : Bool
  passes : ℕ
  profileDir : Bool
  candidates : List Profile
  work : Option (Option Config)
  conditions : Conditions Config
  selectorStatus : Option Bytes

/-- The variables of the watcher, and the files. -/
structure Watcher (Config : Type) where
  misses : ℕ
  recorded : Bool
  status : Option Bytes
  /-- `$WIRELESS_CONFIG`. -/
  config : Config
  /-- The edits that were set and not committed. -/
  staged : List (UciKey × Bytes)

namespace Watcher

variable {Config : Type} (uci : Uci Config) (fuel threshold : ℕ)

/-- The watcher before its loop. -/
def start (config : Config) (status : Option Bytes) (calls : StatusCalls) : Watcher Config where
  misses := 0
  recorded := false
  status := writeStatus status (ascii "BOOT GRACE 90 SECONDS") calls
  config := config
  staged := []

/-- `"$SELECTOR"`. -/
def select (watcher : Watcher Config) (round : WatchRound Config) : Watcher Config :=
  if round.locked = true then watcher
  else
    let ended := (Switch.deckWifiSelect round.conditions uci round.passes round.profileDir
      (Switch.findStaSection uci fuel watcher.config) round.candidates
      (Switch.start watcher.config round.work watcher.staged)).1
    { watcher with config := ended.config, staged := ended.staged, status := round.selectorStatus }

/-- Whether the round has the active network recorded. -/
def records (watcher : Watcher Config) (round : WatchRound Config) : Bool :=
  round.ready && !watcher.recorded

/-- The status of `"$SELECTOR" --record-success`; who is locked out succeeds. -/
def recordStatus (round : WatchRound Config) : Bool := round.locked || round.recorded

/-- Whether the round looks for another network. -/
def selects (watcher : Watcher Config) (round : WatchRound Config) : Bool :=
  !round.ready && decide (threshold ≤ watcher.misses + 1)

/-- A round of the loop. -/
def step (watcher : Watcher Config) (round : WatchRound Config) : Watcher Config :=
  if round.ready = true then
    { watcher with
      misses := 0
      recorded := watcher.recorded || (watcher.records round && recordStatus round)
      status := writeStatus watcher.status (ascii "CONNECTED") round.status }
  else
    let counted := { watcher with
      misses := watcher.misses + 1
      recorded := false
      status := writeStatus watcher.status
        (ascii "DISCONNECTED CHECK " ++ decimal (watcher.misses + 1) ++
        ascii " OF " ++ decimal threshold) round.status }
    if watcher.selects threshold round = true
      then { counted.select uci fuel round with misses := 0 }
    else counted

/-- How many rounds in a row there has been no network. -/
def streak (rounds : List (WatchRound Config)) : ℕ :=
  (rounds.reverse.takeWhile fun round => !round.ready).length

/-- The rounds in a row in which there has been a network. -/
def connected (rounds : List (WatchRound Config)) : List (WatchRound Config) :=
  rounds.reverse.takeWhile WatchRound.ready

variable {uci fuel threshold}

/-! ### When the selector is called -/

theorem streak_append (rounds : List (WatchRound Config)) (round : WatchRound Config) :
    streak (rounds ++ [round]) = if round.ready = true then 0 else streak rounds + 1 := by
  rw [streak, List.reverse_append, List.reverse_singleton, List.singleton_append,
    List.takeWhile_cons]
  cases round.ready with
  | true => rfl
  | false => rfl

theorem connected_append (rounds : List (WatchRound Config)) (round : WatchRound Config) :
    connected (rounds ++ [round]) = if round.ready = true then round :: connected rounds
      else [] := by
  rw [connected, List.reverse_append, List.reverse_singleton, List.singleton_append,
    List.takeWhile_cons]
  rfl

/-- A counter that starts again at its limit. -/
theorem limit_le_iff {limit count : ℕ} (hlimit : 0 < limit) :
    limit ≤ count % limit + 1 ↔ limit ∣ count + 1 := by
  have hlt := Nat.mod_lt count hlimit
  rw [Nat.dvd_iff_mod_eq_zero, ← Nat.mod_add_mod]
  generalize count % limit = last at hlt ⊢
  constructor
  · intro h
    obtain rfl : limit = last + 1 := by omega
    exact Nat.mod_self _
  · intro h
    by_contra hless
    rw [Nat.mod_eq_of_lt (by omega)] at h
    omega

theorem limit_succ_mod {limit count : ℕ} (hlimit : 0 < limit) (h : ¬limit ∣ count + 1) :
    (count + 1) % limit = count % limit + 1 := by
  have hless := (not_congr (limit_le_iff hlimit)).2 h
  rw [← Nat.mod_add_mod, Nat.mod_eq_of_lt (by omega)]

/-- The misses since the last selection. -/
theorem misses_run (start : Watcher Config) (hstart : start.misses = 0)
    (rounds : List (WatchRound Config)) :
    (rounds.foldl (step uci fuel threshold) start).misses = streak rounds % max 1 threshold := by
  induction rounds using List.reverseRecOn with
  | nil => rw [List.foldl_nil, hstart]; rfl
  | append_singleton rounds round ih =>
      rw [List.foldl_append, List.foldl_cons, List.foldl_nil, streak_append, step]
      generalize rounds.foldl (step uci fuel threshold) start = watcher at ih ⊢
      have hlimit : 0 < max 1 threshold := by omega
      cases hready : round.ready with
      | true => rw [if_pos rfl, if_pos rfl]; rfl
      | false =>
          rw [if_neg Bool.false_ne_true, if_neg Bool.false_ne_true]
          dsimp only
          rw [selects, hready, ih]
          split
          next hdue =>
            have hdvd : max 1 threshold ∣ streak rounds + 1 := by
              rw [← limit_le_iff hlimit]
              simp at hdue
              omega
            exact (Nat.mod_eq_zero_of_dvd hdvd).symm
          next hdue =>
            refine (limit_succ_mod hlimit fun hdvd => hdue ?_).symm
            rw [← limit_le_iff hlimit] at hdvd
            simp
            omega

/-- Whether the active network has been recorded. -/
theorem recorded_run (start : Watcher Config) (hstart : start.recorded = false)
    (rounds : List (WatchRound Config)) :
    (rounds.foldl (step uci fuel threshold) start).recorded =
    (connected rounds).any recordStatus := by
  induction rounds using List.reverseRecOn with
  | nil => exact hstart
  | append_singleton rounds round ih =>
      rw [List.foldl_append, List.foldl_cons, List.foldl_nil, connected_append, step]
      generalize rounds.foldl (step uci fuel threshold) start = watcher at ih ⊢
      cases hready : round.ready with
      | true =>
          rw [if_pos rfl, if_pos rfl, List.any_cons, ← ih, records, hready]
          cases watcher.recorded with
          | true => rw [Bool.or_true]; rfl
          | false => rw [Bool.or_false]; rfl
      | false =>
          rw [if_neg Bool.false_ne_true, if_neg Bool.false_ne_true]
          dsimp only
          split
          · rw [select]
            split
            · rfl
            · rfl
          · rfl

/-- **When another network is looked for**: whenever as many rounds in a row as the threshold says
have been without a network, and again after as many. The active network is recorded in the first of
the rounds in a row with a network, and in the next ones until that succeeds. -/
theorem calls_spec (config : Config) (status : Option Bytes) (calls : StatusCalls)
    (rounds : List (WatchRound Config)) (round : WatchRound Config) :
    let watcher := rounds.foldl (step uci fuel threshold) (start config status calls)
    (watcher.selects threshold round = true ↔
        round.ready = false ∧ max 1 threshold ∣ streak (rounds ++ [round])) ∧
      (watcher.records round = true ↔
        round.ready = true ∧ ∀ earlier ∈ connected rounds, recordStatus earlier = false) := by
  intro watcher
  have hmisses : watcher.misses = streak rounds % max 1 threshold := misses_run _ rfl rounds
  have hrecorded : watcher.recorded = (connected rounds).any recordStatus :=
    recorded_run _ rfl rounds
  have hlimit : 0 < max 1 threshold := by omega
  constructor
  · rw [selects, Bool.and_eq_true, Bool.not_eq_true', decide_eq_true_eq, hmisses]
    refine and_congr_right ?_
    intro hready
    rw [streak_append, hready, if_neg Bool.false_ne_true, ← limit_le_iff hlimit]
    omega
  · rw [records, Bool.and_eq_true, Bool.not_eq_true', hrecorded, List.any_eq_false]
    simp only [Bool.not_eq_true]

/-! ### What becomes of the configuration -/

/-- The configuration, and the edits that wait. -/
structure Steady (uci : Uci Config) (fuel : ℕ) (base : Config)
    (watcher : Watcher Config) : Prop where
  without : Switch.findStaSection uci fuel base = none → watcher.config = base
  near : ∀ station, Switch.findStaSection uci fuel base = some station →
    Switch.Near uci station base watcher.config ∧ Switch.OnlyStation station watcher.staged

variable {base : Config}

theorem Steady.of_same {watcher watcher' : Watcher Config} (h : Steady uci fuel base watcher)
    (hconfig : watcher'.config = watcher.config) (hstaged : watcher'.staged = watcher.staged) :
    Steady uci fuel base watcher' := by
  refine ⟨?_, ?_⟩
  · rw [hconfig]
    exact h.without
  · rw [hconfig, hstaged]
    exact h.near

/-- One selection. -/
theorem Steady.select (huci : uci.Lawful) {watcher : Watcher Config}
    (h : Steady uci fuel base watcher)
    (round : WatchRound Config) : Steady uci fuel base (watcher.select uci fuel round) := by
  rw [Watcher.select]
  split
  · exact h
  refine ⟨?_, ?_⟩
  · intro hnone
    have hconfig := h.without hnone
    rw [hconfig, hnone]
    exact (Switch.sameFiles_deckWifiSelect_none round.conditions uci _ _ _ _).config
  · intro station hstation
    obtain ⟨hnear, hstaged⟩ := h.near station hstation
    rw [hnear.findStaSection_eq hstation]
    have hsettled : Switch.Settled uci station round.candidates watcher.config
        (Switch.deckWifiSelect round.conditions uci round.passes round.profileDir (some station)
          round.candidates (Switch.start watcher.config round.work watcher.staged)).1 :=
      Switch.settled_deckWifiSelect huci hstaged round.passes round.profileDir
    exact ⟨hsettled.near hnear, hsettled.sound.staged⟩

theorem Steady.step (huci : uci.Lawful) {watcher : Watcher Config}
    (h : Steady uci fuel base watcher)
    (round : WatchRound Config) : Steady uci fuel base (watcher.step uci fuel threshold round) := by
  rw [Watcher.step]
  split
  · exact h.of_same rfl rfl
  · dsimp only
    split
    · refine Steady.of_same (Steady.select huci ?_ round) rfl rfl
      exact h.of_same rfl rfl
    · exact h.of_same rfl rfl

/-- **The configuration always differs from the first one in the four options of the station only**,
however many selections there were and however they ended; without a station it is the first one. -/
theorem config_spec (huci : uci.Lawful) (base : Config) (status : Option Bytes)
    (calls : StatusCalls) (rounds : List (WatchRound Config)) :
    let watcher := rounds.foldl (step uci fuel threshold) (start base status calls)
    match Switch.findStaSection uci fuel base with
    | none => watcher.config = base
    | some station =>
        (∀ name, name ∉ Switch.stationOptions station →
          uci.options watcher.config name = uci.options base name) ∧
        Switch.findStaSection uci fuel watcher.config = some station := by
  intro watcher
  have hstart : Steady uci fuel base (start base status calls) := by
    refine ⟨fun _ => rfl, ?_⟩
    intro station hstation
    have henabled := Switch.enabledStation_of_findStaSection hstation
    rw [Switch.enabledStation, decide_eq_true_eq] at henabled
    exact ⟨⟨fun _ _ => rfl, henabled.2⟩, fun name hname => absurd hname List.not_mem_nil⟩
  have h : Steady uci fuel base watcher :=
    Run.invariant (I := Steady uci fuel base) (fun _ round h => h.step huci round) hstart rounds
  cases hstation : Switch.findStaSection uci fuel base with
  | none => exact h.without hstation
  | some station =>
      obtain ⟨hnear, -⟩ := h.near station hstation
      exact ⟨hnear.others, hnear.findStaSection_eq hstation⟩

/-- One station, which is enabled. -/
def sampleBase : UciKey → Option Bytes :=
  Edits.apply (fun _ => none)
    [(⟨Switch.wifiIface 0, []⟩, ascii "wifi-iface"),
      (⟨Switch.wifiIface 0, ascii "mode"⟩, ascii "sta")]

/-- A round without a network, in which a command of the selection fails. -/
def sampleRound : WatchRound (UciKey → Option Bytes) where
  ready := false
  status := ⟨true, true⟩
  locked := false
  recorded := false
  passes := 2
  profileDir := true
  candidates := [newProfile (ascii "net1") (ascii "fixture-1")]
  work := none
  conditions := Switch.failingOnce
  selectorStatus := none

theorem config_spec_twice :
    let watcher := [sampleRound, sampleRound].foldl (step Switch.plainUci 2 2)
      (start sampleBase none ⟨true, true⟩)
    match Switch.findStaSection Switch.plainUci 2 sampleBase with
    | none => watcher.config = sampleBase
    | some station =>
        (∀ name, name ∉ Switch.stationOptions station →
          Switch.plainUci.options watcher.config name = Switch.plainUci.options sampleBase name) ∧
        Switch.findStaSection Switch.plainUci 2 watcher.config = some station :=
  @config_spec _ Switch.plainUci 2 2 (fun _ _ => rfl) sampleBase none ⟨true, true⟩
    [sampleRound, sampleRound]

end Watcher

end NesDeck
