/-
**The activation of a deployment.**

`activate.sh` runs on the Deck. It checks the staging tree, stops the services, installs the files,
starts the services, waits until they are ready, and removes the staging tree. Under `set -e` the
first command that fails ends the script, and the trap at the exit starts again what was stopped.

A run is the list of all calls with their statuses. The world, which answers the calls, is
arbitrary: every call may fail at any time.

Main definitions:

* `NesDeck.Activation.Call` — the calls of the script; `NesDeck.Activation.Shell` — its variables;
* `NesDeck.Activation.activate` — the script, with its trap;
* `NesDeck.Activation.Down` — a service that was stopped and not started since.

Main results:

* `NesDeck.Activation.safe_deploy` — what holds wherever the script ends;
* `NesDeck.Activation.activate_checked` — **nothing is changed before every check has succeeded**;
* `NesDeck.Activation.activate_restarts` — **however the script ends, no service is left down**, and
  where it succeeds every service has answered that it runs.
-/

import Mathlib.Data.List.Induction
import NesDeck.Lib.Script

set_option relaxedAutoImplicit false
set_option autoImplicit false

namespace NesDeck.Activation

open Script (Command Keeps Triple)

/-! ### Calls -/

inductive Service where
  | nesDeck
  | compositor
  | uploader
  | wifi
  | swap
  | bmc
  deriving DecidableEq

inductive Verb where
  | start
  | stop
  | restart
  | status
  | enable
  | disable
  deriving DecidableEq

/-- A call: a look at files, a staged program that is tried, a change of files, `/etc/init.d`,
`pidof`, and `sleep`. -/
inductive Call where
  | test (text : String)
  | trial (text : String)
  | change (text : String)
  | service (service : Service) (verb : Verb)
  | process (name : String)
  | sleep
  deriving DecidableEq

/-- The call leaves everything as it is. -/
def Call.harmless : Call → Bool
  | test _ => true
  | trial _ => true
  | change _ => false
  | service _ verb => verb = .status
  | process _ => true
  | sleep => true

/-- The calls of a run, with their statuses. -/
abbrev Log : Type := List (Call × Bool)

/-- The status of the next call. -/
abbrev World : Type := Log → Call → Bool

/-- The variables of the script. -/
structure Shell where
  log : Log
  bmcMode : Bool
  serviceNeedsRestart : Bool
  uploaderNeedsRestart : Bool
  compositorNeedsRestart : Bool
  wifiServiceWasRunning : Bool
  wifiFilesChanged : Bool

def Shell.initial : Shell := ⟨[], false, false, false, false, false, false⟩

section Commands

variable (world : World)

def call (c : Call) : Command Shell := fun s =>
  ({ s with log := s.log ++ [(c, world s.log c)] }, world s.log c)

/-- `c || :`. -/
def may (c : Call) : Command Shell := Script.orTrue (call world c)

/-- `if c; then …; fi`. -/
def whenCall (c : Call) (body : Command Shell) : Command Shell := fun s =>
  if (call world c s).2 = true then body (call world c s).1 else ((call world c s).1, true)

/-- `if [ … ]; then …; else …; fi` for a variable. -/
def choose (test : Shell → Bool) (body other : Command Shell) : Command Shell := fun s =>
  if test s = true then body s else other s

/-- An assignment. -/
def assign (update : Shell → Shell) : Command Shell := fun s => (update s, true)

/-- Nothing. -/
def skip : Command Shell := fun s => (s, true)

/-- Calls one after the other. -/
def calls (list : List Call) : Command Shell := Script.chain (list.map (call world))

/-! ### The checks -/

/-- What is looked at before there is a trap. -/
def guards : List Call :=
  [.test "[ $# -eq 1 ]", .test "case $stage in /mnt/data/.nes-deck-deploy-*", .test "[ -d $stage ]",
    .test "[ ! -L $stage ]", .test "grep -q /mnt/data /proc/mounts"]

/-- Which mode the Deck is in, and whether the watcher of the network has to be started again. -/
def survey : Command Shell :=
  Script.chain
    [whenCall world (.test "[ -x /etc/init.d/bmc-compositor ]")
      (assign fun s => { s with bmcMode := true }),
      whenCall world (.test "[ -x /etc/init.d/deck-wifi ]")
        (whenCall world (.service .wifi .status)
          (assign fun s => { s with wifiServiceWasRunning := true })),
      Script.chain
        (["etc/init.d/deck-wifi", "usr/sbin/deck-wifi-profile-add", "usr/sbin/deck-wifi-select",
          "usr/sbin/deck-wifi-watch"].map fun file => fun s =>
        if (call world (.test ("cmp -s $stage/" ++ file ++ " /" ++ file)) s).2 = true then
          ((call world (.test ("cmp -s $stage/" ++ file ++ " /" ++ file)) s).1, true)
        else
          ({ (call world (.test ("cmp -s $stage/" ++ file ++ " /" ++ file)) s).1 with
            wifiFilesChanged := true }, true))]

/-- The staged files that have to be programs. -/
def executables : List String :=
  ["nes-deck/nes-deck", "nes-deck/gb-deck", "nes-deck/zx-deck", "nes-deck/chip8-deck",
    "nes-deck/ten-seconds-deck", "nes-deck/chiptune-deck", "nes-deck/menu/deck-menu",
    "nes-deck/menu/deck-menu-launcher", "nes-deck/menu/fetch-covers", "nes-deck/terminal/fbterm",
    "nes-deck/terminal/loadkeys", "nes-deck/terminal/retro-terminal", "nes-deck/terminal/rlwrap",
    "nes-deck/langs/lua", "nes-deck/langs/python", "nes-deck/langs/chibi/chibi-scheme",
    "nes-deck/ecl/bin/ecl.bin", "nes-deck/uploader/rom-uploader", "usr/sbin/deck-keyboard-quirks"]

/-- The checks of the staging tree, in the order of the script. -/
def preflight : List Call :=
  (executables.map fun file => Call.test ("[ -x $stage/" ++ file ++ " ]")) ++
    [.test "[ -s $stage/bmc-widgets/retro-deck/manifest.json ]",
      .test "[ -x $stage/bmc-widgets/retro-deck/bin/retro-deck ]",
      .test "[ -x $stage/usr/sbin/deck-wifi-profile-add ]",
      .test "[ -x $stage/usr/sbin/deck-wifi-select ]",
      .test "[ -x $stage/usr/sbin/deck-wifi-watch ]", .test "[ -x $stage/etc/init.d/deck-wifi ]",
      .test "[ -x $stage/etc/init.d/nes-deck-swap ]",
      .test "[ -x $stage/etc/hotplug.d/usb/90-nes-deck-keyboard ]",
      .test "[ -r $stage/nes-deck/langs/chibi/lib/init-7.scm ]",
      .test "[ -s $stage/nes-deck/menu/games.tsv ]",
      .test "[ -s $stage/nes-deck/menu/palette.tsv ]",
      .test "[ -s $stage/nes-deck/licenses/runtime/Wayland-COPYING ]",
      .test "[ -s $stage/nes-deck/licenses/ecl-deck/ECL-LICENSE ]", .test "[ -f $settings_icon ]",
      .test "[ ! -L $settings_icon ]", .test "sha256sum $settings_icon",
      .trial "$stage/nes-deck/langs/python -c 'print(6 * 7)'", .test "[ $python_result = 42 ]",
      .trial "$stage/nes-deck/langs/chibi/chibi-scheme -q -p '(+ 20 22)'",
      .test "[ $scheme_result = 42 ]",
      .trial "$stage/nes-deck/menu/deck-menu --help",
      .trial "$stage/nes-deck/menu/deck-menu --validate-palette $stage/nes-deck/menu/palette.tsv",
      .test "[ -f $uploader_deploy_config ]", .test "[ ! -L $uploader_deploy_config ]",
      .trial "rom-uploader --check-password-config $uploader_deploy_config",
      .test "[ -f $uploader_address_config ]", .test "[ ! -L $uploader_address_config ]",
      .trial "rom-uploader --check-address $uploader_address_config"]

/-! ### The interruption -/

def removeStage : Call := .change "rm -rf $stage"

def uploaderInstalled : Call := .test "[ -x /etc/init.d/nes-deck-uploader ]"

/-- The services are stopped. -/
def interrupt : Command Shell :=
  Script.chain
    [call world
      (.change ("mkdir -p $base /mnt/data/roms /mnt/data/langs /mnt/data/chiptunes $base/langs " ++
        "$base/licenses $base/uploader $base/uploads /mnt/data/bmc-widgets")),
      whenCall world uploaderInstalled (may world (.service .uploader .stop)),
      assign fun s => { s with uploaderNeedsRestart := true },
      may world (.service .nesDeck .stop),
      choose Shell.bmcMode
        (Script.chain [may world (.service .compositor .stop),
          assign fun s => { s with compositorNeedsRestart := true }])
        (assign fun s => { s with serviceNeedsRestart := true })]

/-- The application and its assets. -/
def installApplication : List Call :=
  (["nes-deck", "gb-deck", "zx-deck", "chip8-deck", "ten-seconds-deck", "chiptune-deck",
      "uploader/rom-uploader"].map fun file =>
    Call.change ("cp -p $stage/nes-deck/" ++ file ++ " $base/" ++ file)) ++
    [.change "chmod 0700 $base/uploader $base/uploads $base/uploader/rom-uploader",
      .change "cp -p $uploader_deploy_config $base/uploader/password.conf",
      .change "cp -p $uploader_address_config $base/uploader/address.conf",
      .change "chmod 0600 $base/uploader/password.conf $base/uploader/address.conf",
      .change "mkdir -p $base/menu $base/terminal $base/licenses",
      .change "cp -Rp $stage/nes-deck/menu/. $base/menu/",
      .change "rm -rf $base/menu/settings-icons",
      .change "rm -f $base/menu/knekko-settings-icons.tsv", .change "rm -rf $base/games.new",
      .change "mkdir -p $base/games.new", .change "cp -Rp $stage/nes-deck/games/. $base/games.new/",
      .change "rm -rf $base/games", .change "mv $base/games.new $base/games",
      .change "cp -Rp $stage/nes-deck/terminal/. $base/terminal/",
      .change "cp -Rp $stage/nes-deck/licenses/. $base/licenses/",
      .change "rm -rf /mnt/data/bmc-widgets/retro-deck.new",
      .change "cp -Rp $stage/bmc-widgets/retro-deck /mnt/data/bmc-widgets/retro-deck.new",
      .change "rm -rf /mnt/data/bmc-widgets/retro-deck",
      .change "mv /mnt/data/bmc-widgets/retro-deck.new /mnt/data/bmc-widgets/retro-deck"]

/-- The scene of the widget. -/
def installScene : List Call :=
  [.test "[ -f /etc/bmc_config.json ]",
    .change "rom-uploader --install-bmc-scene /etc/bmc_config.json"]

/-- The languages, the games and the music. -/
def installRuntimes : List Call :=
  [.change "rm -rf $base/ecl.new $base/langs/chibi.new",
    .change "mv $stage/nes-deck/ecl $base/ecl.new",
    .change "mv $stage/nes-deck/langs/chibi $base/langs/chibi.new",
    .change "rm -rf $base/ecl $base/langs/chibi", .change "mv $base/ecl.new $base/ecl",
    .change "mv $base/langs/chibi.new $base/langs/chibi",
    .change "cp -p $stage/nes-deck/langs/lua $base/langs/lua",
    .change "cp -p $stage/nes-deck/langs/python $base/langs/python"] ++
  (["nes", "gb", "gbc", "zx", "chip8"].flatMap fun system =>
    [Call.change ("mkdir -p /mnt/data/roms/" ++ system),
      Call.change ("cp -Rp $stage/roms/" ++ system ++ "/. /mnt/data/roms/" ++ system ++ "/")]) ++
  [.change "cp -Rp $stage/chiptunes/. /mnt/data/chiptunes/",
    .change ("mkdir -p /mnt/data/langs/lua /mnt/data/langs/lisp /mnt/data/langs/python " ++
      "/mnt/data/langs/scheme /mnt/data/chiptunes"),
    .change ("chmod 0700 /mnt/data/langs/lua /mnt/data/langs/lisp /mnt/data/langs/python " ++
      "/mnt/data/langs/scheme /mnt/data/chiptunes")]

/-- The entry points and the service definitions. -/
def entryPoints : List String :=
  ["/usr/bin/ecl", "/usr/sbin/deck-wifi-profile-add", "/usr/sbin/deck-wifi-select",
    "/usr/sbin/deck-wifi-watch", "/etc/init.d/deck-wifi", "/etc/init.d/nes-deck",
    "/etc/init.d/nes-deck-swap",
    "/etc/init.d/nes-deck-uploader"]

def installEntryPoints : List Call :=
  (entryPoints.map fun file => Call.change ("cp -p $stage" ++ file ++ " " ++ file)) ++
    [.change
      ("chmod 0700 /usr/bin/ecl /usr/sbin/deck-wifi-profile-add /usr/sbin/deck-wifi-select " ++
      "/usr/sbin/deck-wifi-watch /etc/init.d/deck-wifi /etc/init.d/nes-deck " ++
      "/etc/init.d/nes-deck-swap /etc/init.d/nes-deck-uploader")]

/-! ### The services -/

/-- The service that owns the screen is selected and started. -/
def startOwner : Command Shell :=
  Script.chain
    [whenCall world (.test "[ -x /etc/init.d/bmc ]")
        (Script.chain [may world (.service .bmc .stop), may world (.service .bmc .disable)]),
      call world (.service .wifi .enable),
      choose (fun s => s.wifiServiceWasRunning && !s.wifiFilesChanged) skip
        (call world (.service .wifi .restart)),
      call world (.change "rm -f /etc/rc.d/S??nes-deck-swap /etc/rc.d/K??nes-deck-swap"),
      choose Shell.bmcMode
        (Script.chain
          [calls world [.service .nesDeck .disable, .service .swap .enable, .service .swap .start],
            assign fun s => { s with serviceNeedsRestart := false },
            calls world [.service .compositor .enable, .service .compositor .start]])
        (Script.chain
          [may world (.service .swap .stop),
            calls world [.service .swap .disable, .service .nesDeck .enable,
              .service .nesDeck .start]])]

def startUploader : Command Shell :=
  calls world [.service .uploader .enable, .service .uploader .start]

/-- Whether the dashboard is ready. -/
def dashboardReady : Command Shell :=
  choose Shell.bmcMode (call world (.service .compositor .status))
    (calls world [.service .nesDeck .status, .process "deck-menu"])

/-- The loop that waits, which ends after so many attempts. -/
def waitReady : ℕ → Command Shell
  | 0 => skip
  | attempts + 1 => fun s =>
      let ready := Script.chain [dashboardReady world,
        calls world [.service .uploader .status, .process "rom-uploader"]] s
      if ready.2 = true then (ready.1, true)
      else Script.chain [call world .sleep, waitReady attempts] ready.1

/-- The services are asked once more. -/
def confirm : Command Shell :=
  Script.chain
    [choose Shell.bmcMode (call world (.service .compositor .status))
        (call world (.service .nesDeck .status)),
      call world (.service .wifi .status),
      choose Shell.bmcMode skip (fun s =>
        if (call world (.process "deck-menu") s).2 = true
          then ((call world (.process "deck-menu") s).1, true)
        else ((may world (.trial "tail -n 80 $base/log/deck-menu.log")
          (call world (.process "deck-menu") s).1).1, false)),
      calls world [.service .uploader .status, .process "rom-uploader"]]

def finish : Command Shell :=
  Script.chain
    [assign fun s => { s with
        serviceNeedsRestart := false, uploaderNeedsRestart := false,
        compositorNeedsRestart := false },
      call world removeStage, may world (.trial "tail -n 12 $base/log/deck-menu.log")]

/-! ### The script -/

/-- The script after the checks. -/
def deploy : Command Shell :=
  Script.chain
    [interrupt world, calls world installApplication,
      choose Shell.bmcMode (calls world installScene) skip, calls world installRuntimes,
      calls world installEntryPoints, startOwner world, startUploader world, waitReady world 120,
      confirm world, finish world]

/-- The script from its trap on. -/
def script : Command Shell := Script.chain [calls world preflight, deploy world]

/-- `restore_service_after_failure`, for a result that is zero or not. -/
def restore (failed : Bool) : Command Shell :=
  Script.chain
    [choose (fun s => failed && s.serviceNeedsRestart) (may world (.service .nesDeck .start)) skip,
      choose (fun s => failed && s.compositorNeedsRestart)
        (may world (.service .compositor .restart)) skip,
      choose (fun s => failed && s.uploaderNeedsRestart)
        (whenCall world uploaderInstalled (may world (.service .uploader .start))) skip,
      may world removeStage]

/-- `activate.sh`: the shell at the exit, and whether the result is zero. -/
def activate : Shell × Bool :=
  let guarded := calls world guards .initial
  if guarded.2 = false then guarded
  else
    let surveyed := survey world guarded.1
    let ended := script world surveyed.1
    ((restore world (!ended.2) ended.1).1, ended.2)

end Commands

/-! ### Logs -/

/-- The service is started or stopped. -/
def verbOf (service : Service) : Call × Bool → Option Verb
  | (.service other verb, _) =>
      if other = service ∧ (verb = .start ∨ verb = .stop ∨ verb = .restart) then some verb else none
  | _ => none

/-- The service was stopped, and not started since. -/
def Down (service : Service) (log : Log) : Prop :=
  (log.filterMap (verbOf service)).getLast? = some .stop

/-- The last answer to the call is yes. -/
def Answered (c : Call) (log : Log) : Prop :=
  (log.filter fun entry => entry.1 = c).getLast? = some (c, true)

variable {world : World} {service : Service} {log : Log} {c other : Call} {status : Bool}

/-- One more call. -/
theorem down_append : Down service (log ++ [(c, status)]) ↔
    (verbOf service (c, status)).elim (Down service log) (· = .stop) := by
  rw [Down, List.filterMap_append]
  cases hverb : verbOf service (c, status) with
  | none =>
      rw [List.filterMap_cons_none hverb, List.filterMap_nil, List.append_nil]
      rfl
  | some verb =>
      rw [List.filterMap_cons_some hverb, List.filterMap_nil, List.getLast?_concat]
      exact Option.some_inj

/-- A service that is down after a call that does not stop it was down before. -/
theorem Down.before (h : Down service (log ++ [(c, status)])) (hc : c ≠ .service service .stop) :
    Down service log := by
  rw [down_append] at h
  cases hverb : verbOf service (c, status) with
  | none =>
      rw [hverb] at h
      exact h
  | some verb =>
      rw [hverb] at h
      obtain rfl : verb = .stop := h
      rw [verbOf.eq_def] at hverb
      split at hverb
      next other verb' _ heq =>
        split at hverb
        next hsame =>
          obtain ⟨rfl, rfl⟩ := Prod.mk.inj heq
          obtain rfl := Option.some.inj hverb
          exact absurd (by rw [hsame.1]) hc
        · cases hverb
      · cases hverb

/-- A service that is started is up. -/
theorem not_down_start : ¬Down service (log ++ [(.service service .start, status)]) := by
  rw [down_append, verbOf, if_pos (by simp)]
  exact Verb.noConfusion

theorem not_down_restart : ¬Down service (log ++ [(.service service .restart, status)]) := by
  rw [down_append, verbOf, if_pos (by simp)]
  exact Verb.noConfusion

theorem answered_append_self : Answered c (log ++ [(c, status)]) ↔ status = true := by
  rw [Answered, List.filter_append, List.filter_cons_of_pos (by simp), List.filter_nil,
    List.getLast?_concat]
  simp

theorem answered_append_of_ne (hne : other ≠ c) :
    Answered c (log ++ [(other, status)]) ↔ Answered c log := by
  rw [Answered, Answered, List.filter_append, List.filter_cons_of_neg (by simpa using hne),
    List.filter_nil,
    List.append_nil]

/-! ### Commands -/

section Commands

variable {I : Shell → Prop} {body body' : Command Shell} {cs : List Call}

/-- What a call keeps is a property of the log. -/
theorem keeps_call (h : ∀ s, I s → I { s with log := s.log ++ [(c, world s.log c)] }) :
    Keeps I (call world c) := h

theorem keeps_calls (h : ∀ c ∈ cs, Keeps I (call world c)) : Keeps I (calls world cs) := by
  refine Keeps.chain ?_
  intro command hcommand
  obtain ⟨c, hc, rfl⟩ := List.mem_map.1 hcommand
  exact h c hc

theorem keeps_whenCall (hcall : Keeps I (call world c)) (hbody : Keeps I body) :
    Keeps I (whenCall world c body) := by
  intro s hs
  rw [whenCall]
  split
  · exact hbody _ (hcall s hs)
  · exact hcall s hs

theorem keeps_choose {test : Shell → Bool} (hbody : ∀ s, test s = true → I s → I (body s).1)
    (hother : ∀ s, test s = false → I s → I (body' s).1) : Keeps I (choose test body body') := by
  intro s hs
  rw [choose]
  split
  next htest => exact hbody s htest hs
  next htest => exact hother s (Bool.eq_false_iff.2 htest) hs

theorem keeps_skip : Keeps I skip := fun _ hs => hs

/-- **Calls that succeed** add themselves to the log. -/
theorem calls_eq_true (cs : List Call) (s : Shell) (h : (calls world cs s).2 = true) :
    (calls world cs s).1 = { s with log := s.log ++ cs.map fun c => (c, true) } := by
  induction cs generalizing s with
  | nil => simp [calls, Script.chain]
  | cons c cs ih =>
      have hcons : calls world (c :: cs) s =
          if (call world c s).2 = true then calls world cs (call world c s).1
          else ((call world c s).1, false) := rfl
      rw [hcons] at h ⊢
      split at h
      next hstatus =>
        rw [if_pos hstatus, ih _ h]
        have hworld : world s.log c = true := hstatus
        simp [call, hworld]
      · cases h

end Commands

/-! ### What holds wherever the script ends -/

/-- The log goes on from `start`, and what is down will be started again by the trap; a service of
`exempt` has just been stopped. -/
structure Safe (start : Log) (exempt : List Service) (s : Shell) : Prop where
  log : start <+: s.log
  nesDeck : .nesDeck ∉ exempt → Down .nesDeck s.log → s.bmcMode = false →
    s.serviceNeedsRestart = true
  compositor : .compositor ∉ exempt → Down .compositor s.log → s.bmcMode = true →
    s.compositorNeedsRestart = true
  uploader : .uploader ∉ exempt → Down .uploader s.log → s.uploaderNeedsRestart = true

/-- The call stops none of the services that the trap knows. -/
def Call.spares : Call → Bool
  | .service other .stop => !decide (other ∈ [Service.nesDeck, .compositor, .uploader])
  | _ => true

theorem ne_of_spares (h : c.spares = true) {known : Service}
    (hknown : known ∈ [Service.nesDeck, .compositor, .uploader]) : c ≠ .service known .stop := by
  rintro rfl
  have hspares : (Call.service known .stop).spares =
      !decide (known ∈ [Service.nesDeck, .compositor, .uploader]) :=
    rfl
  rw [hspares, decide_eq_true hknown] at h
  cases h

variable {start : Log} {exempt : List Service} {s : Shell}

/-- A call that stops nothing. -/
theorem Safe.append (h : Safe start exempt s) (hc : c.spares = true) :
    Safe start exempt { s with log := s.log ++ [(c, status)] } where
  log := h.log.trans (List.prefix_append _ _)
  nesDeck := fun hexempt hdown => h.nesDeck hexempt (hdown.before (ne_of_spares hc (by simp)))
  compositor := fun hexempt hdown => h.compositor hexempt (hdown.before (ne_of_spares hc (by simp)))
  uploader := fun hexempt hdown => h.uploader hexempt (hdown.before (ne_of_spares hc (by simp)))

/-- A service is stopped. -/
theorem Safe.stop (h : Safe start exempt s) (stopped : Service) :
    Safe start (stopped :: exempt)
      { s with log := s.log ++ [(.service stopped .stop, status)] } where
  log := h.log.trans (List.prefix_append _ _)
  nesDeck := by
    intro hexempt hdown
    rw [List.mem_cons, not_or] at hexempt
    exact h.nesDeck hexempt.2 (hdown.before fun heq => hexempt.1 (Call.service.inj heq).1.symm)
  compositor := by
    intro hexempt hdown
    rw [List.mem_cons, not_or] at hexempt
    exact h.compositor hexempt.2 (hdown.before fun heq => hexempt.1 (Call.service.inj heq).1.symm)
  uploader := by
    intro hexempt hdown
    rw [List.mem_cons, not_or] at hexempt
    exact h.uploader hexempt.2 (hdown.before fun heq => hexempt.1 (Call.service.inj heq).1.symm)

theorem Safe.mono (h : Safe start exempt s) {exempt' : List Service} (hsub : exempt ⊆ exempt') :
    Safe start exempt' s where
  log := h.log
  nesDeck := fun hexempt => h.nesDeck fun hmem => hexempt (hsub hmem)
  compositor := fun hexempt => h.compositor fun hmem => hexempt (hsub hmem)
  uploader := fun hexempt => h.uploader fun hmem => hexempt (hsub hmem)

theorem keeps_plain (hc : c.spares = true) : Keeps (Safe start exempt) (call world c) :=
  keeps_call fun _ h => h.append hc

theorem keeps_plains {cs : List Call} (hcs : cs.all Call.spares = true) :
    Keeps (Safe start exempt) (calls world cs) :=
  keeps_calls fun c hc => keeps_plain (List.all_eq_true.1 hcs c hc)

/-- A command that cannot fail. -/
theorem triple_always {P Q E : Shell → Prop} {command : Command Shell}
    (hstatus : ∀ s, (command s).2 = true)
    (h : ∀ s, P s → Q (command s).1) : Triple P command Q E where
  success := fun s hs _ => h s hs
  failure := fun s _ hfail => absurd hfail (by rw [hstatus]; decide)

theorem triple_keeps {P : Shell → Prop} {command : Command Shell} (h : Keeps P command) :
    Triple P command P P :=
  ⟨fun s hs _ => h s hs, fun s hs _ => h s hs⟩

/-- **The services are stopped, and the trap knows it.** -/
theorem safe_interrupt : Keeps (Safe start []) (interrupt world) := by
  have hchoose : ∀ s, Safe start [Service.nesDeck] s → Safe start [] (choose Shell.bmcMode
      (Script.chain [may world (.service .compositor .stop),
        assign fun s => { s with compositorNeedsRestart := true }])
      (assign fun s => { s with serviceNeedsRestart := true }) s).1 := by
    intro s h
    rw [choose]
    split
    next hbmc =>
      have hfree : Safe start [] s :=
        ⟨h.log, fun _ _ hmode => absurd hbmc (by rw [hmode]; decide), fun _ =>
          h.compositor (by decide),
          fun _ => h.uploader (by decide)⟩
      have hstopped : Safe start [Service.compositor]
          (may world (.service .compositor .stop) s).1 :=
        hfree.stop .compositor
      exact ⟨hstopped.log, fun _ => hstopped.nesDeck (by decide), fun _ _ _ => rfl,
        fun _ => hstopped.uploader (by decide)⟩
    · exact ⟨h.log, fun _ _ _ => rfl, fun _ => h.compositor (by decide), fun _ =>
        h.uploader (by decide)⟩
  have hall : Triple (Safe start []) (interrupt world) (Safe start []) (Safe start []) := by
    refine (triple_keeps (keeps_plain rfl)).cons ?_
    refine (triple_always (Q := Safe start [Service.uploader]) ?_ ?_).cons ?_
    · intro s
      rw [whenCall]
      split
      · rfl
      · rfl
    · intro s h
      rw [whenCall]
      have hlooked : Safe start [] (call world uploaderInstalled s).1 := h.append rfl
      split
      · exact hlooked.stop .uploader
      · exact hlooked.mono (List.nil_subset _)
    refine (triple_always (Q := Safe start []) (fun _ => rfl) ?_).cons ?_
    · intro s h
      exact ⟨h.log, fun _ => h.nesDeck (by decide), fun _ =>
        h.compositor (by decide), fun _ _ => rfl⟩
    refine (triple_always (Q := Safe start [Service.nesDeck]) (fun _ => rfl) ?_).cons ?_
    · exact fun s h => h.stop .nesDeck
    refine (triple_always (Q := Safe start []) ?_ hchoose).cons Triple.nil
    intro s
    rw [choose]
    split
    · rfl
    · rfl
  exact fun s h => hall.always h

/-! ### The services are started -/

/-- The service that owns the screen. -/
def owner (bmcMode : Bool) : Service := if bmcMode = true then .compositor else .nesDeck

theorem owner_mem (bmcMode : Bool) : owner bmcMode ∈ [Service.nesDeck, .compositor, .uploader] := by
  cases bmcMode with
  | true => decide
  | false => decide

/-- The dashboard was started. -/
structure OwnerUp (start : Log) (s : Shell) : Prop where
  safe : Safe start [] s
  owner : ¬Down (owner s.bmcMode) s.log

/-- So was the uploader. -/
structure Up (start : Log) (s : Shell) : Prop where
  ownerUp : OwnerUp start s
  uploader : ¬Down .uploader s.log

theorem OwnerUp.append (h : OwnerUp start s) (hc : c.spares = true) :
    OwnerUp start { s with log := s.log ++ [(c, status)] } :=
  ⟨h.safe.append hc, fun hdown => h.owner (hdown.before (ne_of_spares hc (owner_mem _)))⟩

theorem Up.append (h : Up start s) (hc : c.spares = true) :
    Up start { s with log := s.log ++ [(c, status)] } :=
  ⟨h.ownerUp.append hc, fun hdown => h.uploader (hdown.before (ne_of_spares hc (by decide)))⟩

theorem triple_choose {P Q E : Shell → Prop} {test : Shell → Bool} {body body' : Command Shell}
    (hbody : Triple (fun s => P s ∧ test s = true) body Q E)
    (hother : Triple (fun s => P s ∧ test s = false) body' Q E) :
    Triple P (choose test body body') Q E where
  success := by
    intro s hs hok
    rw [choose] at hok ⊢
    split at hok
    next htest => rw [if_pos htest]; exact hbody.success s ⟨hs, htest⟩ hok
    next htest => rw [if_neg htest]; exact hother.success s ⟨hs, Bool.eq_false_iff.2 htest⟩ hok
  failure := by
    intro s hs hfail
    rw [choose] at hfail ⊢
    split at hfail
    next htest => rw [if_pos htest]; exact hbody.failure s ⟨hs, htest⟩ hfail
    next htest => rw [if_neg htest]; exact hother.failure s ⟨hs, Bool.eq_false_iff.2 htest⟩ hfail

/-- Calls that stop nothing, in a mode. -/
theorem triple_mode {cs : List Call} (hcs : cs.all Call.spares = true) {bmcMode : Bool} :
    Triple (fun s => Safe start [] s ∧ s.bmcMode = bmcMode) (calls world cs)
      (fun s => Safe start [] s ∧ s.bmcMode = bmcMode) (Safe start []) := by
  have hkeeps : Keeps (fun s => Safe start [] s ∧ s.bmcMode = bmcMode) (calls world cs) :=
    keeps_calls fun c hc s h => ⟨h.1.append (List.all_eq_true.1 hcs c hc), h.2⟩
  exact ⟨fun s hs _ => hkeeps s hs, fun s hs _ => (hkeeps s hs).1⟩

/-- The owner is enabled and started. -/
theorem triple_owner (bmcMode : Bool) :
    Triple (fun s => Safe start [] s ∧ s.bmcMode = bmcMode)
      (calls world [.service (owner bmcMode) .enable, .service (owner bmcMode) .start])
      (OwnerUp start) (Safe start []) := by
  have henable : Triple (fun s => Safe start [] s ∧ s.bmcMode = bmcMode)
      (call world (.service (owner bmcMode) .enable))
      (fun s => Safe start [] s ∧ s.bmcMode = bmcMode) (Safe start []) :=
    ⟨fun s hs _ => ⟨hs.1.append rfl, hs.2⟩, fun s hs _ => hs.1.append rfl⟩
  have hstart : Triple (fun s => Safe start [] s ∧ s.bmcMode = bmcMode)
      (call world (.service (owner bmcMode) .start)) (OwnerUp start) (Safe start []) := by
    refine ⟨?_, fun s hs _ => hs.1.append rfl⟩
    rintro s ⟨hs, rfl⟩ _
    exact ⟨hs.append rfl, not_down_start⟩
  exact henable.cons (hstart.cons Triple.nil)

theorem triple_startOwner :
    Triple (Safe start []) (startOwner world) (OwnerUp start) (Safe start []) := by
  refine (triple_keeps (keeps_whenCall (keeps_plain rfl) (Keeps.chain ?_))).cons ?_
  · simp only [List.forall_mem_cons]
    exact ⟨keeps_plain rfl, keeps_plain rfl, List.forall_mem_nil _⟩
  refine (triple_keeps (keeps_plain rfl)).cons ?_
  refine (triple_keeps (keeps_choose (fun s _ h => h) fun s _ h => h.append rfl)).cons ?_
  refine (triple_keeps (keeps_plain rfl)).cons ?_
  refine (triple_choose (Q := OwnerUp start) ?_ ?_).cons Triple.nil
  · refine (triple_mode rfl).cons ?_
    refine (triple_always (Q := fun s => Safe start [] s ∧ s.bmcMode = true) (fun _ => rfl) ?_).cons
      ?_
    · rintro s ⟨h, hmode⟩
      refine ⟨⟨h.log, ?_, h.compositor, h.uploader⟩, hmode⟩
      intro _ _ hdirect
      exact absurd (hmode.symm.trans hdirect) (by decide)
    · exact (triple_owner true).cons Triple.nil
  · refine (triple_always (Q := fun s => Safe start [] s ∧ s.bmcMode = false)
      (fun _ => rfl) ?_).cons ?_
    · exact fun s h => ⟨h.1.append rfl, h.2⟩
    have hdisable : Triple (fun s => Safe start [] s ∧ s.bmcMode = false)
        (call world (.service .swap .disable)) (fun s => Safe start [] s ∧ s.bmcMode = false)
        (Safe start []) :=
      ⟨fun s hs _ => ⟨hs.1.append rfl, hs.2⟩, fun s hs _ => hs.1.append rfl⟩
    have hcalls : Triple (fun s => Safe start [] s ∧ s.bmcMode = false)
        (calls world [.service .swap .disable, .service .nesDeck .enable, .service .nesDeck .start])
        (OwnerUp start) (Safe start []) :=
      hdisable.cons (triple_owner false)
    exact hcalls.cons Triple.nil

theorem triple_startUploader :
    Triple (OwnerUp start) (startUploader world) (Up start) (Safe start []) := by
  have henable : Triple (OwnerUp start) (call world (.service .uploader .enable)) (OwnerUp start)
      (Safe start []) :=
    ⟨fun s hs _ => hs.append rfl, fun s hs _ => (hs.append rfl).safe⟩
  have hstart : Triple (OwnerUp start) (call world (.service .uploader .start)) (Up start)
      (Safe start []) :=
    ⟨fun s hs _ => ⟨hs.append rfl, not_down_start⟩, fun s hs _ => (hs.append rfl).safe⟩
  exact henable.cons (hstart.cons Triple.nil)

/-! ### The services are asked -/

theorem keeps_up {c : Call} (hc : c.spares = true) : Keeps (Up start) (call world c) :=
  keeps_call fun _ h => h.append hc

theorem keeps_ups {cs : List Call} (hcs : cs.all Call.spares = true) :
    Keeps (Up start) (calls world cs) :=
  keeps_calls fun c hc => keeps_up (List.all_eq_true.1 hcs c hc)

theorem keeps_dashboardReady : Keeps (Up start) (dashboardReady world) :=
  keeps_choose (fun s _ h => keeps_up rfl s h) fun s _ h => keeps_ups rfl s h

/-- Waiting changes nothing. -/
theorem keeps_waitReady (attempts : ℕ) : Keeps (Up start) (waitReady world attempts) := by
  have hready : Keeps (Up start) (Script.chain [dashboardReady world,
      calls world [.service .uploader .status, .process "rom-uploader"]]) := by
    refine Keeps.chain ?_
    simp only [List.forall_mem_cons]
    exact ⟨keeps_dashboardReady, keeps_ups rfl, List.forall_mem_nil _⟩
  induction attempts with
  | zero => exact keeps_skip
  | succ attempts ih =>
      intro s h
      rw [waitReady]
      dsimp only
      split
      · exact hready s h
      · refine Keeps.chain ?_ _ (hready s h)
        simp only [List.forall_mem_cons]
        exact ⟨keeps_up rfl, ih, List.forall_mem_nil _⟩

theorem keeps_confirm : Keeps (Up start) (confirm world) := by
  refine Keeps.chain ?_
  simp only [List.forall_mem_cons]
  refine ⟨keeps_choose (fun s _ h => h.append rfl) (fun s _ h => h.append rfl), keeps_up rfl,
    keeps_choose (fun s _ h => h) ?_, keeps_ups rfl, List.forall_mem_nil _⟩
  intro s _ h
  split
  · exact h.append rfl
  · exact Up.append (Up.append h rfl) rfl

/-- The calls that have to be answered at the end. -/
def confirmed (bmcMode : Bool) : List Call :=
  if bmcMode = true then
    [.service .compositor .status, .service .wifi .status, .service .uploader .status,
      .process "rom-uploader"]
  else
    [.service .nesDeck .status, .service .wifi .status, .process "deck-menu",
      .service .uploader .status,
      .process "rom-uploader"]

/-- **Who is asked with success has answered**, one after the other. -/
theorem confirm_eq_true {s : Shell} (h : (confirm world s).2 = true) :
    (confirm world s).1 =
      { s with log := s.log ++ (confirmed s.bmcMode).map fun c => (c, true) } := by
  have hcalls : (calls world (confirmed s.bmcMode) s).2 = true ∧
      (confirm world s).1 = (calls world (confirmed s.bmcMode) s).1 := by
    cases hmode : s.bmcMode with
    | true =>
        simp [confirm, calls, Script.chain, choose, call, skip, confirmed, hmode] at h ⊢
        grind
    | false =>
        simp [confirm, calls, Script.chain, choose, call, confirmed, hmode] at h ⊢
        grind
  rw [hcalls.2]
  exact calls_eq_true _ _ hcalls.1

theorem answered_append_map {cs : List Call} (hnodup : cs.Nodup) (hc : c ∈ cs) :
    Answered c (log ++ cs.map fun c => (c, true)) := by
  induction cs using List.reverseRecOn with
  | nil => cases hc
  | append_singleton cs last ih =>
      rw [List.map_append, List.map_singleton, ← List.append_assoc]
      rcases List.mem_append.1 hc with hbefore | hlast
      · have hne : last ≠ c := by
          rintro rfl
          exact (List.nodup_append.1 hnodup).2.2 _ hbefore _ (List.mem_singleton_self _) rfl
        exact (answered_append_of_ne hne).2 (ih (List.nodup_append.1 hnodup).1 hbefore)
      · rw [List.mem_singleton.1 hlast]
        exact answered_append_self.2 rfl

/-! ### The end of the script -/

theorem confirmed_ne {bmcMode : Bool} (hc : c ∈ confirmed bmcMode) (text : String) :
    .change text ≠ c ∧ .trial text ≠ c := by
  constructor
  · rintro rfl
    cases bmcMode with
    | true => simp [confirmed] at hc
    | false => simp [confirmed] at hc
  · rintro rfl
    cases bmcMode with
    | true => simp [confirmed] at hc
    | false => simp [confirmed] at hc

theorem confirmed_nodup (bmcMode : Bool) : (confirmed bmcMode).Nodup := by
  cases bmcMode with
  | true => decide
  | false => decide

/-- Everything runs, and has said so. -/
structure Done (start : Log) (s : Shell) : Prop where
  up : Up start s
  answered : ∀ c ∈ confirmed s.bmcMode, Answered c s.log

theorem Done.append (h : Done start s) (hc : c.spares = true)
    (hne : ∀ asked ∈ confirmed s.bmcMode, c ≠ asked) :
    Done start { s with log := s.log ++ [(c, status)] } :=
  ⟨h.up.append hc, fun asked hasked =>
    (answered_append_of_ne (hne asked hasked)).2 (h.answered asked hasked)⟩

theorem triple_confirm : Triple (Up start) (confirm world) (Done start) (Safe start []) := by
  refine ⟨?_, fun s hs _ => (keeps_confirm s hs).ownerUp.safe⟩
  intro s hs hok
  refine ⟨keeps_confirm s hs, ?_⟩
  rw [confirm_eq_true hok]
  exact fun c hc => answered_append_map (confirmed_nodup _) hc

theorem triple_finish : Triple (Done start) (finish world) (Done start) (Safe start []) := by
  refine (triple_always (Q := Done start) (fun _ => rfl) ?_).cons ?_
  · intro s h
    refine ⟨⟨⟨⟨h.up.ownerUp.safe.log, ?_, ?_, ?_⟩, h.up.ownerUp.owner⟩, h.up.uploader⟩, h.answered⟩
    · intro _ hdown hmode
      refine absurd hdown ?_
      have howner := h.up.ownerUp.owner
      rw [show s.bmcMode = false from hmode] at howner
      exact howner
    · intro _ hdown hmode
      refine absurd hdown ?_
      have howner := h.up.ownerUp.owner
      rw [show s.bmcMode = true from hmode] at howner
      exact howner
    · exact fun _ hdown => absurd hdown h.up.uploader
  refine Triple.cons (Q := Done start) ⟨?_, ?_⟩ ?_
  · exact fun s h _ => h.append rfl fun asked hasked => (confirmed_ne hasked _).1
  · exact fun s h _ => (h.up.append rfl).ownerUp.safe
  refine (triple_always (Q := Done start) (fun _ => rfl) ?_).cons Triple.nil
  exact fun s h => h.append rfl fun asked hasked => (confirmed_ne hasked _).2

/-- **What holds wherever the script ends**: what is down will be started again; where it succeeds,
nothing is down and all have answered. -/
theorem safe_deploy : Triple (Safe start []) (deploy world) (Done start) (Safe start []) := by
  refine (triple_keeps safe_interrupt).cons ?_
  refine (triple_keeps (keeps_plains rfl)).cons ?_
  refine (triple_keeps (keeps_choose (fun s _ h => keeps_plains rfl s h) fun s _ h => h)).cons ?_
  refine (triple_keeps (keeps_plains rfl)).cons ?_
  refine (triple_keeps (keeps_plains rfl)).cons ?_
  refine triple_startOwner.cons ?_
  refine triple_startUploader.cons ?_
  have hwait : Triple (Up start) (waitReady world 120) (Up start) (Safe start []) :=
    ⟨fun s hs _ => keeps_waitReady 120 s hs, fun s hs _ => (keeps_waitReady 120 s hs).ownerUp.safe⟩
  refine hwait.cons ?_
  refine triple_confirm.cons ?_
  exact triple_finish.cons Triple.nil

/-- What the trap leaves. -/
structure Restarted (start : Log) (s : Shell) : Prop where
  log : start <+: s.log
  owner : ¬Down (owner s.bmcMode) s.log
  uploader : Down .uploader s.log → ¬Answered uploaderInstalled s.log

/-- **The trap starts what is down**, unless its program has gone. -/
theorem restarted_restore {s : Shell} (h : Safe start [] s) :
    Restarted start (restore world true s).1 := by
  have hstatus : ∀ test c s, (choose test (may world c) skip s).2 = true := by
    intro test c s
    rw [choose]
    split
    · rfl
    · rfl
  have hall : Triple (Safe start []) (restore world true) (Restarted start) fun _ => False := by
    refine (triple_always (Q := fun s => Safe start [] s ∧
      (s.bmcMode = false → ¬Down .nesDeck s.log))
      (hstatus _ _) ?_).cons ?_
    · intro s h
      rw [choose]
      split
      · exact ⟨h.append rfl, fun _ => not_down_start⟩
      next hflag =>
        exact ⟨h, fun hmode hdown => hflag (h.nesDeck (by decide) hdown hmode)⟩
    refine (triple_always (Q := OwnerUp start) (hstatus _ _) ?_).cons ?_
    · rintro s ⟨h, hdirect⟩
      rw [choose]
      split
      · refine ⟨h.append rfl, ?_⟩
        have howner : ∀ bmcMode, s.bmcMode = bmcMode → ¬Down (owner bmcMode)
            (s.log ++
              [(.service .compositor .restart, world s.log (.service .compositor .restart))]) := by
          intro bmcMode hmode
          cases bmcMode with
          | true => exact not_down_restart
          | false => exact fun hdown => hdirect hmode (hdown.before (by decide))
        exact howner s.bmcMode rfl
      next hflag =>
        refine ⟨h, ?_⟩
        have howner : ∀ bmcMode, s.bmcMode = bmcMode → ¬Down (owner bmcMode) s.log := by
          intro bmcMode hmode
          cases bmcMode with
          | true => exact fun hdown => hflag (h.compositor (by decide) hdown hmode)
          | false => exact hdirect hmode
        exact howner s.bmcMode rfl
    refine (triple_always (Q := Restarted start) ?_ ?_).cons ?_
    · intro s
      rw [choose]
      split
      · rw [whenCall]
        split
        · rfl
        · rfl
      · rfl
    · intro s h
      rw [choose]
      split
      · rw [whenCall]
        split
        next hinstalled =>
          have hup : OwnerUp start
              (may world (.service .uploader .start) (call world uploaderInstalled s).1).1 :=
            OwnerUp.append (OwnerUp.append h rfl) rfl
          exact ⟨hup.safe.log, hup.owner, fun hdown => absurd hdown not_down_start⟩
        next hgone =>
          have hlooked : OwnerUp start (call world uploaderInstalled s).1 := OwnerUp.append h rfl
          exact ⟨hlooked.safe.log, hlooked.owner, fun _ hanswered =>
            hgone (answered_append_self.1 hanswered)⟩
      next hflag =>
        exact ⟨h.safe.log, h.owner, fun hdown => absurd (h.safe.uploader (by decide) hdown) hflag⟩
    refine (triple_always (fun _ => rfl) ?_).cons Triple.nil
    intro s h
    refine ⟨h.log.trans (List.prefix_append _ _),
      fun hdown => h.owner (hdown.before (ne_of_spares rfl (owner_mem _))), ?_⟩
    intro hdown hanswered
    exact h.uploader (hdown.before (by decide)) ((answered_append_of_ne (by decide)).1 hanswered)
  cases hended : (restore world true s).2 with
  | true => exact hall.success s h hended
  | false => exact (hall.failure s h hended).elim

/-! ### The checks -/

/-- Only looks so far. -/
def Quiet (log : Log) : Prop := ∀ entry ∈ log, entry.1.harmless = true

/-- The script has only looked so far, and the trap has nothing to start. -/
structure Looking (s : Shell) : Prop where
  quiet : Quiet s.log
  service : s.serviceNeedsRestart = false
  compositor : s.compositorNeedsRestart = false
  uploader : s.uploaderNeedsRestart = false

theorem keeps_look (hc : c.harmless = true) : Keeps Looking (call world c) :=
  keeps_call fun _ h =>
    ⟨List.forall_mem_append.2 ⟨h.quiet, List.forall_mem_singleton.2 hc⟩, h.service, h.compositor,
      h.uploader⟩

theorem keeps_looks {cs : List Call} (hcs : cs.all Call.harmless = true) :
    Keeps Looking (calls world cs) :=
  keeps_calls fun c hc => keeps_look (List.all_eq_true.1 hcs c hc)

theorem keeps_survey : Keeps Looking (survey world) := by
  refine Keeps.chain ?_
  simp only [List.forall_mem_cons]
  refine ⟨keeps_whenCall (keeps_look rfl) ?_,
    keeps_whenCall (keeps_look rfl) (keeps_whenCall (keeps_look rfl) ?_), Keeps.chain ?_,
    List.forall_mem_nil _⟩
  · exact fun _ h => ⟨h.quiet, h.service, h.compositor, h.uploader⟩
  · exact fun _ h => ⟨h.quiet, h.service, h.compositor, h.uploader⟩
  intro command hcommand
  obtain ⟨file, -, rfl⟩ := List.mem_map.1 hcommand
  intro s h
  have hlooked : Looking (call world (.test ("cmp -s $stage/" ++ file ++ " /" ++ file)) s).1 :=
    keeps_look rfl s h
  dsimp only
  split
  · exact hlooked
  · exact ⟨hlooked.quiet, hlooked.service, hlooked.compositor, hlooked.uploader⟩

/-- Looks stop nothing. -/
theorem Quiet.not_down (h : Quiet log) (service : Service) : ¬Down service log := by
  intro hdown
  obtain ⟨entry, hentry, hverb⟩ := List.mem_filterMap.1 (List.mem_of_getLast? hdown)
  have hharmless := h entry hentry
  rw [verbOf.eq_def] at hverb
  split at hverb
  next other verb _ =>
    split at hverb
    · obtain rfl := Option.some.inj hverb
      cases hharmless
    · cases hverb
  · cases hverb

theorem Looking.safe {s : Shell} (h : Looking s) : Safe s.log [] s where
  log := List.prefix_refl _
  nesDeck := fun _ hdown => absurd hdown (h.quiet.not_down _)
  compositor := fun _ hdown => absurd hdown (h.quiet.not_down _)
  uploader := fun _ hdown => absurd hdown (h.quiet.not_down _)

/-! ### The script as a whole -/

/-- Where there is nothing to start, the trap removes the staging tree. -/
theorem restore_idle (failed : Bool) {s : Shell}
    (h : failed = false ∨ s.serviceNeedsRestart = false ∧ s.compositorNeedsRestart = false ∧
      s.uploaderNeedsRestart = false) :
    (restore world failed s).1 =
    { s with log := s.log ++ [(removeStage, world s.log removeStage)] } := by
  have hflags : (failed && s.serviceNeedsRestart) = false ∧
    (failed && s.compositorNeedsRestart) = false ∧
      (failed && s.uploaderNeedsRestart) = false := by
    rcases h with rfl | ⟨hservice, hcompositor, huploader⟩
    · exact ⟨rfl, rfl, rfl⟩
    · rw [hservice, hcompositor, huploader, Bool.and_false]
      exact ⟨rfl, rfl, rfl⟩
  simp [restore, Script.chain, choose, skip, may, Script.orTrue, call, hflags]

/-- The script up to the services. -/
theorem script_eq (s : Shell) :
    script world s =
      if (calls world preflight s).2 = true
        then Script.chain [deploy world] (calls world preflight s).1
      else ((calls world preflight s).1, false) := rfl

theorem chain_singleton (command : Command Shell) (s : Shell) :
    Script.chain [command] s = command s := by
  rw [Script.chain]
  split
  next hstatus => exact Prod.ext rfl hstatus.symm
  next hstatus => exact Prod.ext rfl (Bool.eq_false_iff.2 hstatus).symm

theorem looking_initial : Looking .initial := ⟨List.forall_mem_nil _, rfl, rfl, rfl⟩

/-- **Nothing is changed before every check has succeeded**: up to the end of the checks the script
looks at files only, and if it ends there, it just removes the staging tree, and fails. -/
theorem activate_checked (world : World) :
    ∃ looked, Quiet looked ∧
      ((looked ++ preflight.map fun c => (c, true)) <+: (activate world).1.log ∨
        (activate world).2 = false ∧ ((activate world).1.log = looked ∨
          ∃ status, (activate world).1.log = looked ++ [(removeStage, status)])) := by
  have hguards : Looking (calls world guards .initial).1 := keeps_looks rfl _ looking_initial
  rw [activate]
  dsimp only
  split
  next hfail => exact ⟨_, hguards.quiet, Or.inr ⟨hfail, Or.inl rfl⟩⟩
  have hsurvey : Looking (survey world (calls world guards .initial).1).1 := keeps_survey _ hguards
  generalize (survey world (calls world guards .initial).1).1 = s at hsurvey ⊢
  rw [script_eq]
  cases hchecked : (calls world preflight s).2 with
  | false =>
      rw [if_neg Bool.false_ne_true]
      have hlooks : Looking (calls world preflight s).1 := keeps_looks rfl _ hsurvey
      refine ⟨_, hlooks.quiet, Or.inr ⟨rfl, Or.inr
        ⟨world (calls world preflight s).1.log removeStage, ?_⟩⟩⟩
      rw [restore_idle _ (Or.inr ⟨hlooks.service, hlooks.compositor, hlooks.uploader⟩)]
  | true =>
      rw [if_pos rfl, chain_singleton]
      refine ⟨s.log, hsurvey.quiet, Or.inl ?_⟩
      have hlooks : Looking (calls world preflight s).1 := keeps_looks rfl _ hsurvey
      have hlog : (calls world preflight s).1.log = s.log ++ preflight.map fun c => (c, true) := by
        rw [calls_eq_true _ _ hchecked]
      rw [← hlog]
      have hdeploy : Triple (Safe (calls world preflight s).1.log []) (deploy world)
          (Done (calls world preflight s).1.log)
          (Safe (calls world preflight s).1.log []) := safe_deploy
      cases hended : (deploy world (calls world preflight s).1).2 with
      | true =>
          have hdone := hdeploy.success _ hlooks.safe hended
          rw [Bool.not_true, restore_idle false (Or.inl rfl)]
          exact hdone.up.ownerUp.safe.log.trans (List.prefix_append _ _)
      | false => exact (restarted_restore (hdeploy.failure _ hlooks.safe hended)).log

/-- **However the script ends, no service is left down**, unless its program has gone; and where it
succeeds, every service has answered that it runs. -/
theorem activate_restarts (world : World) :
    ¬Down (owner (activate world).1.bmcMode) (activate world).1.log ∧
      (Down .uploader (activate world).1.log → ¬Answered uploaderInstalled (activate world).1.log) ∧
        ((activate world).2 = true →
          ∀ c ∈ confirmed (activate world).1.bmcMode, Answered c (activate world).1.log) := by
  have hguards : Looking (calls world guards .initial).1 := keeps_looks rfl _ looking_initial
  rw [activate]
  dsimp only
  split
  next hfail =>
    exact ⟨hguards.quiet.not_down _, fun hdown => absurd hdown (hguards.quiet.not_down _),
      fun hok => absurd hok (by rw [hfail]; decide)⟩
  have hsurvey : Looking (survey world (calls world guards .initial).1).1 := keeps_survey _ hguards
  generalize (survey world (calls world guards .initial).1).1 = s at hsurvey ⊢
  have hscript : Triple (Safe s.log []) (script world) (Done s.log) (Safe s.log []) :=
    (triple_keeps (keeps_plains rfl)).cons (safe_deploy.cons Triple.nil)
  cases hended : (script world s).2 with
  | true =>
      have hdone : Done s.log (may world removeStage (script world s).1).1 :=
        (hscript.success s hsurvey.safe hended).append rfl fun asked hasked =>
        (confirmed_ne hasked _).1
      rw [Bool.not_true, restore_idle false (Or.inl rfl)]
      exact ⟨hdone.up.ownerUp.owner, fun hdown => absurd hdown hdone.up.uploader, fun _ =>
        hdone.answered⟩
  | false =>
      have hrestarted : Restarted s.log (restore world true (script world s).1).1 :=
        restarted_restore (hscript.failure s hsurvey.safe hended)
      rw [Bool.not_false]
      exact ⟨hrestarted.owner, hrestarted.uploader, fun hok => by cases hok⟩

end NesDeck.Activation
