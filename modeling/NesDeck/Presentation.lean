/-
**The switch between the two presentations.**

A Deck shows the dashboard through the compositor or directly on the framebuffer, and each of the
two has a service of its own. `retro-deck-presentation` stops one and starts the other, and goes
back if the dashboard does not come up. A marker in a file says that the framebuffer is wanted.

The services and the files are not part of the script: the world answers its calls with yes or no,
as it likes. Under `set -e` a command that is neither a condition nor followed by `|| :` ends the
script when it fails.

Main definitions:

* `NesDeck.Presentation.Call` — the calls; `NesDeck.Presentation.useFramebuffer`, `useWayland`,
  `apply` — the script over them;
* `NesDeck.Presentation.Told` — a service that was told to start, and not to stop since;
* `NesDeck.Presentation.Switched`, `BrokenOff`, `NeverGone`, `Restored` — the four ways in which a
  switch ends;
* `NesDeck.Presentation.Lawful` — what one command may do.

Main results:

* `NesDeck.Presentation.adds_switch` — a switch ends in one of the four ways;
* `NesDeck.Presentation.presentations_spec` — **over any commands and any answers, the two services
  are never both told to run, and every command ends in one of the four ways**.

A start that reports a failure breaks a switch off, and the script does not go back.
-/

import NesDeck.Lib.CallLog
import NesDeck.Lib.Run

set_option relaxedAutoImplicit false
set_option autoImplicit false

namespace NesDeck.Presentation

open CallLog (Adds Cut Miss Missed)
open Script (Command chain orTrue branch negate skip exit)

/-! ### The script -/

inductive Service where
  | compositor
  | framebuffer
  deriving DecidableEq

inductive Verb where
  | start
  | stop
  | enable
  | disable
  | status
  deriving DecidableEq

inductive Process where
  | bmcOpenwrt
  | deckMenu
  deriving DecidableEq

/-- The calls of the script: `[ -x ]` on a service, `/etc/init.d`, `pidof`, `mkdir -p`, the lines
that write the temporary file, move it to the marker, write the marker itself, remove it and look
for it, and `sleep`. -/
inductive Call where
  | executable (service : Service)
  | service (service : Service) (verb : Verb)
  | pidof (process : Process)
  | mkdir
  | draft
  | publish
  | write
  | remove
  | marked
  | sleep
  deriving DecidableEq

abbrev Log : Type := CallLog.Log Call

abbrev World : Type := CallLog.World Call

section Script

variable (world : World)

/-- One call. -/
def run (call : Call) : Command Log := CallLog.call world call

def requireServices : Command Log :=
  chain [run world (.executable .compositor), run world (.executable .framebuffer)]

/-- The loop of the two functions that wait. -/
def waitFor (look : Command Log) (tries : ℕ) : Command Log :=
  CallLog.waitFor world .sleep look tries

def waitForDashboard (service : Service) : Command Log :=
  waitFor world (chain [run world (.service service .status), run world (.pidof .deckMenu)]) 60

def waitForOwnerStopped (service : Service) (owner : Process) (child : Option Process) :
    Command Log :=
  waitFor world
    (chain [negate (run world (.service service .status)), negate (run world (.pidof owner)),
      match child with
      | none => skip
      | some child => negate (run world (.pidof child))]) 30

/-- `use_framebuffer`. -/
def useFramebuffer : Command Log :=
  chain [requireServices world, run world .mkdir, run world .draft, run world .publish,
    orTrue (run world (.service .compositor .stop)),
    branch (waitForOwnerStopped world .compositor .bmcOpenwrt (some .deckMenu))
      (chain [orTrue (run world (.service .compositor .disable)),
        run world (.service .framebuffer .enable), run world (.service .framebuffer .start),
        branch (waitForDashboard world .framebuffer) skip
          (chain [run world .remove, orTrue (run world (.service .framebuffer .stop)),
            orTrue (waitForOwnerStopped world .framebuffer .deckMenu none),
            orTrue (run world (.service .framebuffer .disable)),
            run world (.service .compositor .enable), run world (.service .compositor .start),
            exit])])
      (chain [run world .remove, exit])]

/-- `use_wayland`. -/
def useWayland : Command Log :=
  chain [requireServices world, orTrue (run world (.service .framebuffer .stop)),
    branch (waitForOwnerStopped world .framebuffer .deckMenu none)
      (chain [run world .remove, orTrue (run world (.service .framebuffer .disable)),
        run world (.service .compositor .enable), run world (.service .compositor .start),
        branch (waitForDashboard world .compositor) skip
          (chain [run world .mkdir, run world .write,
            orTrue (run world (.service .compositor .stop)),
            orTrue (waitForOwnerStopped world .compositor .bmcOpenwrt (some .deckMenu)),
            orTrue (run world (.service .compositor .disable)),
            run world (.service .framebuffer .enable), run world (.service .framebuffer .start),
            exit])])
      exit]

/-- The command `apply`. -/
def apply : Command Log := branch (run world .marked) (useFramebuffer world) skip

end Script

/-- A command of the user, or the one of the boot. -/
inductive Event where
  | framebuffer
  | wayland
  | apply
  deriving DecidableEq

def command (world : World) : Event → Command Log
  | .framebuffer => useFramebuffer world
  | .wayland => useWayland world
  | .apply => apply world

/-- The log after a command. -/
def step (world : World) (log : Log) (event : Event) : Log := (command world event log).1

/-! ### A switch -/

/-- What shows that a service is gone. -/
def gone : Service → Log
  | .compositor => [(.service .compositor .status, false), (.pidof .bmcOpenwrt, false),
      (.pidof .deckMenu, false)]
  | .framebuffer => [(.service .framebuffer .status, false), (.pidof .deckMenu, false)]

/-- What shows that a service runs, and the dashboard with it. -/
def shown (service : Service) : Log := [(.service service .status, true), (.pidof .deckMenu, true)]

/-- The calls of a switch that must succeed: before the old service is told to stop, when it does
not make way, when it has, and when the dashboard was not seen under the new one. -/
structure Plan where
  before : List Call
  refused : List Call
  between : List Call
  after : List Call

section Switch

variable (world : World)

/-- What the two commands have in common. -/
def switch (old new : Service) (plan : Plan) : Command Log :=
  chain (plan.before.map (run world) ++
    [orTrue (run world (.service old .stop)),
      branch (waitFor world (chain ((gone old).map (CallLog.expect world))) 30)
        (chain (plan.between.map (run world) ++
          [orTrue (run world (.service old .disable)), run world (.service new .enable),
            run world (.service new .start),
            branch (waitFor world (chain ((shown new).map (CallLog.expect world))) 60) skip
              (chain (plan.after.map (run world) ++
                [orTrue (run world (.service new .stop)),
                  orTrue (waitFor world (chain ((gone new).map (CallLog.expect world))) 30),
                  orTrue (run world (.service new .disable)), run world (.service old .enable),
                  run world (.service old .start), exit]))]))
        (chain (plan.refused.map (run world) ++ [exit]))])

def framebufferPlan : Plan where
  before := [.executable .compositor, .executable .framebuffer, .mkdir, .draft, .publish]
  refused := [.remove]
  between := []
  after := [.remove]

def waylandPlan : Plan where
  before := [.executable .compositor, .executable .framebuffer]
  refused := []
  between := [.remove]
  after := [.mkdir, .write]

theorem useFramebuffer_eq :
    useFramebuffer world = switch world .compositor .framebuffer framebufferPlan := by
  rw [useFramebuffer, requireServices, Script.chain_chain]
  rfl

theorem useWayland_eq :
    useWayland world = switch world .framebuffer .compositor waylandPlan := by
  rw [useWayland, requireServices, Script.chain_chain]
  rfl

end Switch

/-! ### What a switch may do -/

/-- A service is told to start or to stop. -/
def orderOf : Call → Option (Service × Verb)
  | .service service .start => some (service, .start)
  | .service service .stop => some (service, .stop)
  | _ => none

/-- What the services are told, whatever they answer. -/
def orders (log : Log) : List (Service × Verb) := log.filterMap fun entry => orderOf entry.1

/-- The marker is put or removed. -/
def markOf : Call × Bool → Option Bool
  | (.publish, true) => some true
  | (.write, true) => some true
  | (.remove, true) => some false
  | _ => none

def marks (log : Log) : List Bool := log.filterMap markOf

/-- The marker says whether the framebuffer is wanted. -/
def Marked (log : Log) (service : Service) : Prop :=
  (marks log).getLast? = some (decide (service = .framebuffer))

/-- The calls after which `set -e` ends the script if they fail. -/
def Call.essential : Call → Bool
  | .executable _ => true
  | .service _ .enable => true
  | .service _ .start => true
  | .mkdir => true
  | .draft => true
  | .publish => true
  | .write => true
  | .remove => true
  | _ => false

/-- The old service was told to stop and seen gone before the new one was told to start, which was
seen to run, with the dashboard, afterwards; and the marker is the one of the new service. -/
structure Switched (old new : Service) (made : Log) : Prop where
  seen : ∃ first middle, made = first ++ gone old ++ middle ++ shown new ∧
    orders first = [(old, .stop)] ∧ orders middle = [(new, .start)]
  marked : Marked made new

/-- The last call had to succeed, and failed. -/
def BrokenOff (made : Log) : Prop := ∃ done c, c.essential = true ∧ made = done ++ [(c, false)]

/-- The old service was told to stop, and 30 looks did not find it gone; the marker is changed back,
or was not changed. -/
structure NeverGone (old : Service) (made : Log) : Prop where
  looked : ∃ first looks last, made = first ++ looks ++ last ∧ orders first = [(old, .stop)] ∧
    Missed .sleep (gone old) 30 looks ∧ orders last = []
  marked : marks made = [] ∨ Marked made old

/-- The new service was told to stop again and the old one to start, and the marker is changed
back. -/
structure Restored (old new : Service) (made : Log) : Prop where
  ordered : orders made = [(old, .stop), (new, .start), (new, .stop), (old, .start)]
  marked : Marked made old

/-- **What a switch may do**, by what it adds to the log and its status. -/
structure Lawful (old new : Service) (made : Log) (status : Bool) : Prop where
  ordered : orders made <+: [(old, .stop), (new, .start), (new, .stop), (old, .start)]
  success : status = true → Switched old new made
  failure : status = false → BrokenOff made ∨ NeverGone old made ∨ Restored old new made

/-! ### Logs -/

@[simp] theorem orders_append (log log' : Log) : orders (log ++ log') = orders log ++ orders log' :=
  List.filterMap_append

@[simp] theorem marks_append (log log' : Log) : marks (log ++ log') = marks log ++ marks log' :=
  List.filterMap_append

theorem orders_cons (entry : Call × Bool) (log : Log) :
    orders (entry :: log) = (orderOf entry.1).toList ++ orders log := by
  rw [orders, List.filterMap_cons]
  cases orderOf entry.1 with
  | none => rfl
  | some order => rfl

theorem marks_cons (entry : Call × Bool) (log : Log) :
    marks (entry :: log) = (markOf entry).toList ++ marks log := by
  rw [marks, List.filterMap_cons]
  cases markOf entry with
  | none => rfl
  | some mark => rfl

/-- Nothing is told to a service, and the marker stays. -/
def Quiet (log : Log) : Prop := orders log = [] ∧ marks log = []

theorem quiet_of_forall {log : Log}
    (h : ∀ entry ∈ log, orderOf entry.1 = none ∧ markOf entry = none) :
    Quiet log :=
  ⟨List.filterMap_eq_nil_iff.2 fun entry hentry => (h entry hentry).1,
    List.filterMap_eq_nil_iff.2 fun entry hentry => (h entry hentry).2⟩

/-- Looks change nothing. -/
theorem quiet_missed {expected : Log} (h : ∀ c ∈ expected.map Prod.fst, ∀ answer,
      orderOf c = none ∧ markOf (c, answer) = none) {tries : ℕ} {looks : Log}
    (hlooks : Missed .sleep expected tries looks) : Quiet looks := by
  refine quiet_of_forall ?_
  rintro ⟨c, answer⟩ hentry
  rcases hlooks.calls _ hentry with rfl | hmem
  · exact ⟨rfl, rfl⟩
  · exact h c hmem answer

theorem look_gone (service : Service) : ∀ c ∈ (gone service).map Prod.fst, ∀ answer,
    orderOf c = none ∧ markOf (c, answer) = none := by
  cases service with
  | compositor => decide
  | framebuffer => decide

theorem look_shown (service : Service) : ∀ c ∈ (shown service).map Prod.fst, ∀ answer,
    orderOf c = none ∧ markOf (c, answer) = none := by
  cases service with
  | compositor => decide
  | framebuffer => decide

theorem quiet_gone (service : Service) : Quiet (gone service) := by
  refine quiet_of_forall ?_
  intro entry hentry
  exact look_gone service entry.1 (List.mem_map_of_mem hentry) entry.2

theorem quiet_shown (service : Service) : Quiet (shown service) := by
  refine quiet_of_forall ?_
  intro entry hentry
  exact look_shown service entry.1 (List.mem_map_of_mem hentry) entry.2

theorem BrokenOff.append {made : Log} (h : BrokenOff made) (first : Log) :
    BrokenOff (first ++ made) := by
  obtain ⟨done, c, hc, rfl⟩ := h
  exact ⟨first ++ done, c, hc, (List.append_assoc _ _ _).symm⟩

/-- Calls that must succeed, and tell no service anything. -/
def Plain (cs : List Call) : Prop := ∀ c ∈ cs, c.essential = true ∧ orderOf c = none

instance (cs : List Call) : Decidable (Plain cs) := inferInstanceAs (Decidable (∀ c ∈ cs, _))

theorem Plain.orders_all {cs : List Call} (h : Plain cs) : orders (CallLog.all cs) = [] := by
  refine List.filterMap_eq_nil_iff.2 ?_
  intro entry hentry
  obtain ⟨c, hc, rfl⟩ := List.mem_map.1 hentry
  exact (h c hc).2

/-- Where they are cut the switch breaks off, and nothing was told. -/
theorem Plain.cut {cs : List Call} (h : Plain cs) {made : Log} (hcut : Cut cs made) :
    BrokenOff made ∧ orders made = [] := by
  obtain ⟨done, c, rest, rfl, rfl⟩ := hcut
  obtain ⟨hc, hnone⟩ := h c (by simp)
  have hdone : Plain done := fun d hd => h d (List.mem_append_left _ hd)
  refine ⟨⟨_, c, hc, rfl⟩, ?_⟩
  rw [orders_append, hdone.orders_all, orders_cons, hnone]
  rfl

/-- What the plan of a switch has to be. -/
structure Plan.Sound (plan : Plan) (old new : Service) : Prop where
  before : Plain plan.before
  refused : Plain plan.refused
  between : Plain plan.between
  after : Plain plan.after
  marked : marks (CallLog.all plan.before) ++ marks (CallLog.all plan.between) =
    [decide (new = .framebuffer)]
  unmarked : marks (CallLog.all plan.after) = [decide (old = .framebuffer)]
  refusedMarks : marks (CallLog.all plan.before) = [] ∧ marks (CallLog.all plan.refused) = [] ∨
    marks (CallLog.all plan.refused) = [decide (old = .framebuffer)]

theorem sound_framebufferPlan : framebufferPlan.Sound .compositor .framebuffer where
  before := by decide
  refused := by decide
  between := by decide
  after := by decide
  marked := rfl
  unmarked := rfl
  refusedMarks := Or.inr rfl

theorem sound_waylandPlan : waylandPlan.Sound .framebuffer .compositor where
  before := by decide
  refused := by decide
  between := by decide
  after := by decide
  marked := rfl
  unmarked := rfl
  refusedMarks := Or.inl ⟨rfl, rfl⟩

/-! ### A switch, from its end to its beginning -/

section Parts

variable (world : World) {old new : Service} {plan : Plan}

/-- A loop that waits finds what it looks for after some quiet looks, or gives up. -/
theorem adds_wait (expected : Log) (h : ∀ c ∈ expected.map Prod.fst, ∀ answer,
      orderOf c = none ∧ markOf (c, answer) = none) (tries : ℕ) :
    Adds (waitFor world (chain (expected.map (CallLog.expect world))) tries) fun made status =>
      status = true ∧ (∃ looks, Quiet looks ∧ made = looks ++ expected) ∨
        status = false ∧ Quiet made ∧ Missed .sleep expected tries made := by
  refine (CallLog.adds_waitFor world .sleep (CallLog.adds_expect world expected) tries).mono ?_
  rintro made status (⟨rfl, looked, -, looks, hlooks, rfl⟩ | ⟨rfl, hmissed⟩)
  · exact Or.inl ⟨rfl, looks, quiet_missed h hlooks, rfl⟩
  · exact Or.inr ⟨rfl, quiet_missed h hmissed, hmissed⟩

/-- The way back, after the dashboard was not seen. -/
def goBack (old new : Service) (plan : Plan) : Command Log :=
  chain (plan.after.map (run world) ++
    [orTrue (run world (.service new .stop)),
      orTrue (waitFor world (chain ((gone new).map (CallLog.expect world))) 30),
      orTrue (run world (.service new .disable)), run world (.service old .enable),
      run world (.service old .start), exit])

/-- The way on, after the old service was seen gone. -/
def goOn (old new : Service) (plan : Plan) : Command Log :=
  chain (plan.between.map (run world) ++
    [orTrue (run world (.service old .disable)), run world (.service new .enable),
      run world (.service new .start),
      branch (waitFor world (chain ((shown new).map (CallLog.expect world))) 60) skip
        (goBack world old new plan)])

theorem switch_eq (old new : Service) (plan : Plan) :
    switch world old new plan =
      chain (plan.before.map (run world) ++
        [orTrue (run world (.service old .stop)),
          branch (waitFor world (chain ((gone old).map (CallLog.expect world))) 30)
            (goOn world old new plan) (chain (plan.refused.map (run world) ++ [exit]))]) := rfl

/-- A service is enabled and started, and more may follow. -/
theorem adds_started (service : Service) {ds : List (Command Log)} {U : Log → Bool → Prop}
    (hds : Adds (chain ds) U) :
    Adds (chain (run world (.service service .enable) :: run world (.service service .start) :: ds))
      fun made status => status = false ∧ BrokenOff made ∧ orders made <+: [(service, .start)] ∨
        ∃ first rest, made = first ++ rest ∧ orders first = [(service, .start)] ∧ marks first = [] ∧
          U rest status := by
  refine (CallLog.adds_calls_append
    [.service service .enable, .service service .start] hds).mono ?_
  rintro made status (⟨rfl, hcut⟩ | ⟨rest, rfl, hrest⟩)
  · refine Or.inl ⟨rfl, ?_⟩
    rcases CallLog.cut_cons_iff.1 hcut with rfl | ⟨rest, rfl, hrest⟩
    · exact ⟨⟨[], _, rfl, rfl⟩, List.nil_prefix⟩
    · rcases CallLog.cut_cons_iff.1 hrest with rfl | ⟨rest, -, hnil⟩
      · exact ⟨⟨[_], _, rfl, rfl⟩, List.prefix_refl _⟩
      · obtain ⟨done, c, rest, hnil, -⟩ := hnil
        exact absurd hnil (by simp)
  · exact Or.inr ⟨_, rest, rfl, rfl, rfl, hrest⟩

/-- **The way back** fails, and ends with a call that fails, or with the start of the old
service. -/
theorem adds_goBack (h : plan.Sound old new) :
    Adds (goBack world old new plan) fun made status => status = false ∧
      orders made <+: [(new, .stop), (old, .start)] ∧
        (BrokenOff made ∨ orders made = [(new, .stop), (old, .start)] ∧
          marks made = [decide (old = .framebuffer)]) := by
  have hexit : Adds (chain [exit]) fun (made : Log) status => made = [] ∧ status = false := by
    refine (CallLog.adds_exit.cons CallLog.adds_nil).mono ?_
    rintro made status (⟨rfl, rfl, -⟩ | ⟨first, rest, -, ⟨-, hfalse⟩, -⟩)
    · exact ⟨rfl, rfl⟩
    · cases hfalse
  have hlast := CallLog.adds_ignored_cons world (.service new .disable)
    (adds_started world old hexit)
  have hwait := (adds_wait world (gone new) (look_gone new) 30).orTrue.cons hlast
  refine (CallLog.adds_calls_append plan.after
    (CallLog.adds_ignored_cons world (.service new .stop) hwait)).mono ?_
  rintro made status (⟨rfl, hcut⟩ | ⟨rest, rfl, answer, rest, rfl, hrest⟩)
  · obtain ⟨hbroken, hnone⟩ := h.after.cut hcut
    refine ⟨rfl, ?_, Or.inl hbroken⟩
    rw [hnone]
    exact List.nil_prefix
  · rcases hrest with ⟨-, hfalse, -⟩ | ⟨looks, rest, rfl, ⟨-, found, hlooks⟩, answer',
      rest, rfl, hrest⟩
    · cases hfalse
    have hquiet : Quiet looks := by
      rcases hlooks with ⟨-, looks, hquiet, rfl⟩ | ⟨-, hquiet, -⟩
      · exact ⟨by rw [orders_append, hquiet.1, (quiet_gone new).1]; rfl,
          by rw [marks_append, hquiet.2, (quiet_gone new).2]; rfl⟩
      · exact hquiet
    have hbefore : ∀ rest, orders (CallLog.all plan.after ++
        (.service new .stop, answer) :: (looks ++ (.service new .disable, answer') :: rest)) =
          (new, .stop) :: orders rest := by
      intro rest
      simp only [orders_append, orders_cons, h.after.orders_all, hquiet.1]
      rfl
    have hmarks : ∀ rest, marks (CallLog.all plan.after ++
        (.service new .stop, answer) :: (looks ++ (.service new .disable, answer') :: rest)) =
          decide (old = .framebuffer) :: marks rest := by
      intro rest
      simp only [marks_append, marks_cons, h.unmarked, hquiet.2]
      rfl
    rw [hbefore, hmarks]
    rcases hrest with ⟨rfl, hbroken, hinitial⟩ | ⟨first, rest, rfl, hfirst, hmark, rfl, rfl⟩
    · refine ⟨rfl, List.cons_prefix_cons.2 ⟨rfl, hinitial⟩, Or.inl ?_⟩
      exact (((hbroken.append [_]).append looks).append [_]).append _
    · rw [List.append_nil, hfirst, hmark]
      exact ⟨rfl, List.prefix_refl _, Or.inr ⟨rfl, rfl⟩⟩

/-- One command alone. -/
theorem adds_single {c : Command Log} {T : Log → Bool → Prop} (h : Adds c T) :
    Adds (chain [c]) T := by
  refine (h.cons CallLog.adds_nil).mono ?_
  rintro made status (⟨rfl, hT⟩ | ⟨first, rest, rfl, hT, rfl, rfl⟩)
  · exact hT
  · rwa [List.append_nil]

/-- After the start the dashboard is seen, or the switch goes back. -/
theorem adds_watch (h : plan.Sound old new) :
    Adds (branch (waitFor world (chain ((shown new).map (CallLog.expect world))) 60) skip
        (goBack world old new plan)) fun made status =>
      status = true ∧ (∃ looks, Quiet looks ∧ made = looks ++ shown new) ∨
        status = false ∧ orders made <+: [(new, .stop), (old, .start)] ∧
          (BrokenOff made ∨ orders made = [(new, .stop), (old, .start)] ∧
            marks made = [decide (old = .framebuffer)]) := by
  refine ((adds_wait world (shown new) (look_shown new) 60).branch CallLog.adds_skip
    (adds_goBack world h)).mono ?_
  rintro made status ⟨first, rest, rfl, ⟨hfound, rfl, rfl⟩ | ⟨hmissed, rfl, hinitial, hback⟩⟩
  · obtain ⟨-, looks, hquiet, rfl⟩ := hfound.resolve_right fun h => Bool.noConfusion h.1
    exact Or.inl ⟨rfl, looks, hquiet, List.append_nil _⟩
  · obtain ⟨-, hquiet, -⟩ := hmissed.resolve_left fun h => Bool.noConfusion h.1
    rw [orders_append, marks_append, hquiet.1, hquiet.2]
    exact Or.inr ⟨rfl, hinitial, hback.imp_left fun hbroken => hbroken.append first⟩

/-- **The way on**: the new service is started, and either seen with the dashboard, or given up. -/
theorem adds_goOn (h : plan.Sound old new) :
    Adds (goOn world old new plan) fun made status =>
      orders made <+: [(new, .start), (new, .stop), (old, .start)] ∧
        (status = true → marks made = marks (CallLog.all plan.between) ∧
          ∃ middle, made = middle ++ shown new ∧ orders middle = [(new, .start)]) ∧
        (status = false → BrokenOff made ∨
          orders made = [(new, .start), (new, .stop), (old, .start)] ∧ Marked made old) := by
  refine (CallLog.adds_calls_append plan.between
    (CallLog.adds_ignored_cons world (.service old .disable)
    (adds_started world new (adds_single (adds_watch world h))))).mono ?_
  rintro made status (⟨rfl, hcut⟩ | ⟨rest, rfl, answer, rest, rfl, hrest⟩)
  · obtain ⟨hbroken, hnone⟩ := h.between.cut hcut
    rw [hnone]
    exact ⟨List.nil_prefix, Bool.noConfusion, fun _ => Or.inl hbroken⟩
  have hbefore : ∀ rest, orders (CallLog.all plan.between ++
      (.service old .disable, answer) :: rest) = orders rest := by
    intro rest
    rw [orders_append, h.between.orders_all, orders_cons]
    rfl
  have hmarks : ∀ rest, marks (CallLog.all plan.between ++
      (.service old .disable, answer) :: rest) =
        marks (CallLog.all plan.between) ++ marks rest := by
    intro rest
    rw [marks_append, marks_cons]
    rfl
  rcases hrest with ⟨rfl, hbroken, hinitial⟩ | ⟨first, rest, rfl, hfirst, hmark, hrest⟩
  · rw [hbefore]
    refine ⟨hinitial.trans (List.prefix_append [(new, Verb.start)] _), Bool.noConfusion, ?_⟩
    exact fun _ => Or.inl ((hbroken.append [_]).append _)
  rcases hrest with ⟨rfl, looks, hquiet, rfl⟩ | ⟨rfl, hinitial, hback⟩
  · refine ⟨?_, fun _ => ⟨?_, ?_⟩, Bool.noConfusion⟩
    · rw [hbefore, orders_append, orders_append, hfirst, hquiet.1, (quiet_shown new).1]
      exact List.prefix_append [(new, Verb.start)] _
    · rw [hmarks, marks_append, marks_append, hmark, hquiet.2, (quiet_shown new).2]
      exact List.append_nil _
    · refine ⟨CallLog.all plan.between ++ (.service old .disable, answer) ::
        (first ++ looks), ?_, ?_⟩
      · simp only [List.append_assoc, List.cons_append]
      · rw [hbefore, orders_append, hfirst, hquiet.1]
        rfl
  · rw [hbefore, orders_append, hfirst]
    refine ⟨List.cons_prefix_cons.2 ⟨rfl, hinitial⟩, Bool.noConfusion, fun _ => ?_⟩
    rcases hback with hbroken | ⟨hordered, hchanged⟩
    · exact Or.inl (((hbroken.append first).append [_]).append _)
    · refine Or.inr ⟨by rw [hordered]; rfl, ?_⟩
      rw [Marked, hmarks, marks_append, hmark, hchanged, List.nil_append, List.getLast?_concat]

/-- The switch ends where the old service is not seen gone. -/
theorem adds_giveUp (h : plan.Sound old new) :
    Adds (chain (plan.refused.map (run world) ++ [exit])) fun (made : Log) status =>
      status = false ∧ orders made = [] ∧ (BrokenOff made ∨ made = CallLog.all plan.refused) := by
  refine (CallLog.adds_calls_append plan.refused (adds_single CallLog.adds_exit)).mono ?_
  rintro made status (⟨rfl, hcut⟩ | ⟨rest, rfl, rfl, rfl⟩)
  · obtain ⟨hbroken, hnone⟩ := h.refused.cut hcut
    exact ⟨rfl, hnone, Or.inl hbroken⟩
  · rw [List.append_nil]
    exact ⟨rfl, h.refused.orders_all, Or.inr rfl⟩

/-- Up to its stop the old service is told nothing, whatever it answers then. -/
theorem Plan.Sound.orders_begun (h : plan.Sound old new) (answer : Bool) (rest : Log) :
    orders (CallLog.all plan.before ++ (.service old .stop, answer) :: rest) =
      (old, .stop) :: orders rest := by
  rw [orders_append, h.before.orders_all, orders_cons]
  rfl

theorem marks_begun (plan : Plan) (service : Service) (answer : Bool) (rest : Log) :
    marks (CallLog.all plan.before ++ (.service service .stop, answer) :: rest) =
      marks (CallLog.all plan.before) ++ marks rest := by
  rw [marks_append, marks_cons]
  rfl

/-- **A switch is lawful**, whatever the world answers. -/
theorem adds_switch (h : plan.Sound old new) :
    Adds (switch world old new plan) (Lawful old new) := by
  rw [switch_eq]
  refine (CallLog.adds_calls_append plan.before
    (CallLog.adds_ignored_cons world (.service old .stop)
    (adds_single ((adds_wait world (gone old) (look_gone old) 30).branch (adds_goOn world h)
      (adds_giveUp world h))))).mono ?_
  rintro made status (⟨rfl, hcut⟩ | ⟨rest, rfl, answer, rest, rfl, hrest⟩)
  · obtain ⟨hbroken, hnone⟩ := h.before.cut hcut
    refine ⟨?_, Bool.noConfusion, fun _ => Or.inl hbroken⟩
    rw [hnone]
    exact List.nil_prefix
  obtain ⟨first, rest, rfl, ⟨hfound, hordered, hsuccess, hfailure⟩ | ⟨hmissed, rfl, hnone, hend⟩⟩ :=
    hrest
  · obtain ⟨-, looks, hquiet, rfl⟩ := hfound.resolve_right fun h => Bool.noConfusion h.1
    have hlooks : orders (looks ++ gone old ++ rest) = orders rest := by
      rw [orders_append, orders_append, hquiet.1, (quiet_gone old).1]
      rfl
    have hquietMarks : marks (looks ++ gone old ++ rest) = marks rest := by
      rw [marks_append, marks_append, hquiet.2, (quiet_gone old).2]
      rfl
    refine ⟨?_, fun hok => ⟨?_, ?_⟩, fun hfail => ?_⟩
    · rw [h.orders_begun, hlooks]
      exact List.cons_prefix_cons.2 ⟨rfl, hordered⟩
    · obtain ⟨-, middle, rfl, hmiddle⟩ := hsuccess hok
      refine ⟨CallLog.all plan.before ++ (.service old .stop, answer) :: looks, middle, ?_,
        ?_, hmiddle⟩
      · simp only [List.append_assoc, List.cons_append]
      · rw [h.orders_begun, hquiet.1]
    · rw [Marked, marks_begun, hquietMarks, (hsuccess hok).1, h.marked]
      rfl
    · rcases hfailure hfail with hbroken | ⟨hall, hmarked⟩
      · exact Or.inl (((hbroken.append _).append [_]).append _)
      · refine Or.inr (Or.inr ⟨?_, ?_⟩)
        · rw [h.orders_begun, hlooks, hall]
        · rw [Marked, marks_begun, hquietMarks, List.getLast?_append]
          rw [Marked] at hmarked
          rw [hmarked]
          rfl
  · obtain ⟨-, hquiet, hnever⟩ := hmissed.resolve_left fun h => Bool.noConfusion h.1
    refine ⟨?_, Bool.noConfusion, fun _ => ?_⟩
    · rw [h.orders_begun, orders_append, hquiet.1, hnone]
      exact List.prefix_append [(old, Verb.stop)] _
    rcases hend with hbroken | rfl
    · exact Or.inl (((hbroken.append first).append [_]).append _)
    · refine Or.inr
        (Or.inl ⟨⟨CallLog.all plan.before ++ [(.service old .stop, answer)], first, _, ?_,
        h.orders_begun answer [], hnever, hnone⟩, ?_⟩)
      · simp only [List.append_assoc, List.cons_append, List.nil_append]
      · rw [Marked, marks_begun, marks_append, hquiet.2, List.nil_append]
        rcases h.refusedMarks with ⟨hfirst, hlast⟩ | hlast
        · exact Or.inl (by rw [hfirst, hlast]; rfl)
        · exact Or.inr (by rw [hlast, List.getLast?_concat])

end Parts

/-! ### Runs -/

/-- The service was told to start, and not to stop since. -/
def Told (service : Service) (log : Log) : Prop :=
  ((orders log).filter fun order => order.1 = service).getLast? = some (service, .start)

/-- At no time are two services told to run. -/
def Exclusive (log : Log) : Prop :=
  ∀ done, done <+: log → ∀ one other, one ≠ other → ¬(Told one done ∧ Told other done)

/-- What a command may do. -/
def Follows (world : World) (log : Log) (event : Event) : Prop :=
  ∃ made, step world log event = log ++ made ∧
    match event with
    | .framebuffer => Lawful .compositor .framebuffer made (command world event log).2
    | .wayland => Lawful .framebuffer .compositor made (command world event log).2
    | .apply => made = [(.marked, false)] ∨ ∃ rest, made = (.marked, true) :: rest ∧
        Lawful .compositor .framebuffer rest (command world event log).2

/-- A service that was told to stop last is not told to run. -/
theorem not_told_append {service : Service} {made : Log}
    (h : ((orders made).filter fun order => order.1 = service).getLast? = some (service, .stop))
    (log : Log) : ¬Told service (log ++ made) := by
  rw [Told, orders_append, List.filter_append, List.getLast?_append, h]
  exact fun hlast => Verb.noConfusion (Prod.mk.inj (Option.some.inj hlast)).2

/-- **A switch keeps the services apart**, at every point of it. -/
theorem Exclusive.append {log : Log} (h : Exclusive log) {made : Log} {old new : Service}
    (hne : old ≠ new)
    (hordered : orders made <+: [(old, .stop), (new, .start), (new, .stop), (old, .start)]) :
    Exclusive (log ++ made) := by
  intro done hdone one other hother
  rcases List.prefix_or_prefix_of_prefix hdone (List.prefix_append log made) with hbefore | hafter
  · exact h done hbefore one other hother
  obtain ⟨rest, rfl⟩ := hafter
  -- The last order of the switch is one of four, if there is any.
  have hpart : orders rest <+: [(old, Verb.stop), (new, .start), (new, .stop), (old, .start)] := by
    obtain ⟨last, rfl⟩ := (List.prefix_append_right_inj log).1 hdone
    rw [orders_append] at hordered
    exact (List.prefix_append _ _).trans hordered
  have hpair : one = old ∧ other = new ∨ one = new ∧ other = old := by
    revert hne hother
    cases one <;> cases other <;> cases old <;> cases new <;> decide
  have hapart : ¬(Told old (log ++ rest) ∧ Told new (log ++ rest)) := by
    simp only [List.prefix_cons_iff, List.prefix_nil] at hpart
    rcases hpart with hnil | ⟨_, hone, rfl | ⟨_, rfl, rfl | ⟨_, rfl, rfl | ⟨_, rfl, rfl⟩⟩⟩⟩
    · rw [Told, Told, orders_append, hnil, List.append_nil]
      exact h log (List.prefix_refl log) old new hne
    · exact fun hboth => not_told_append (by simp [hone]) log hboth.1
    · exact fun hboth => not_told_append (by simp [hone, hne.symm]) log hboth.1
    · exact fun hboth => not_told_append (by simp [hone, hne]) log hboth.2
    · exact fun hboth => not_told_append (by simp [hone, hne]) log hboth.2
  rcases hpair with ⟨rfl, rfl⟩ | ⟨rfl, rfl⟩
  · exact hapart
  · exact fun hboth => hapart hboth.symm

theorem Exclusive.concat {log : Log} (h : Exclusive log) {c : Call} (hc : orderOf c = none)
    (answer : Bool) : Exclusive (log ++ [(c, answer)]) := by
  have hnone : orders [(c, answer)] = [] := by rw [orders_cons, hc]; rfl
  refine @Exclusive.append log h _ .compositor .framebuffer (by decide) ?_
  rw [hnone]
  exact List.nil_prefix

/-- One command. -/
theorem follows_step (world : World) (log : Log) (event : Event) : Follows world log event := by
  cases event with
  | framebuffer =>
      obtain ⟨made, status, heq, hlawful⟩ := adds_switch world sound_framebufferPlan log
      rw [← useFramebuffer_eq] at heq
      refine ⟨made, congrArg Prod.fst heq, ?_⟩
      rw [command, heq]
      exact hlawful
  | wayland =>
      obtain ⟨made, status, heq, hlawful⟩ := adds_switch world sound_waylandPlan log
      rw [← useWayland_eq] at heq
      refine ⟨made, congrArg Prod.fst heq, ?_⟩
      rw [command, heq]
      exact hlawful
  | apply =>
      have hswitch := adds_switch world sound_framebufferPlan
      rw [← useFramebuffer_eq] at hswitch
      obtain ⟨made, status, heq, first, rest, rfl, hwanted | hnot⟩ :=
        ((CallLog.adds_call world .marked).branch hswitch CallLog.adds_skip) log
      · obtain ⟨rfl, hlawful⟩ := hwanted
        refine ⟨_, congrArg Prod.fst heq, Or.inr ⟨rest, rfl, ?_⟩⟩
        have hstatus : (command world .apply log).2 = status := congrArg Prod.snd heq
        rwa [hstatus]
      · obtain ⟨rfl, rfl, -⟩ := hnot
        exact ⟨_, congrArg Prod.fst heq, Or.inl rfl⟩

theorem exclusive_step {world : World} {log : Log} (h : Exclusive log) (event : Event) :
    Exclusive (step world log event) := by
  obtain ⟨made, heq, hmade⟩ := follows_step world log event
  rw [heq]
  cases event with
  | framebuffer => exact h.append (by decide) hmade.ordered
  | wayland => exact h.append (by decide) hmade.ordered
  | apply =>
      rcases hmade with rfl | ⟨rest, rfl, hlawful⟩
      · exact h.concat rfl false
      · have hmarked := (h.concat (c := .marked) rfl true).append (by decide) hlawful.ordered
        rwa [List.append_assoc] at hmarked

theorem each_follows (world : World) (log : Log) (events : List Event) :
    Run.Each (step world) (Follows world) log events := by
  induction events generalizing log with
  | nil => exact Run.each_nil
  | cons event events ih => exact ⟨follows_step world log event, ih _⟩

theorem always_exclusive {world : World} {log : Log} (h : Exclusive log) (events : List Event) :
    Run.Always (step world) Exclusive log events := by
  induction events generalizing log with
  | nil => exact h
  | cons event events ih => exact ⟨h, ih (exclusive_step h event)⟩

/-- The service that was started first. -/
def started (owner : Service) : Log := [(.service owner .start, true)]

theorem exclusive_started (owner : Service) : Exclusive (started owner) := by
  intro done hdone one other hne hboth
  have hpart : done = [] ∨ done = started owner := by
    rw [started, List.prefix_cons_iff] at hdone
    rcases hdone with rfl | ⟨rest, rfl, hrest⟩
    · exact Or.inl rfl
    · exact Or.inr (by rw [List.prefix_nil.1 hrest]; rfl)
  rcases hpart with rfl | rfl
  · cases hboth.1
  · have hone : owner = one := by
      by_contra hnot
      have htold := hboth.1
      simp [Told, started, orders, orderOf, hnot] at htold
    have hother : owner = other := by
      by_contra hnot
      have htold := hboth.2
      simp [Told, started, orders, orderOf, hnot] at htold
    exact hne (hone.symm.trans hother)

/-- **Over any commands, and whatever is answered to their calls, the two services are never both
told to run, and every command ends in one of the four ways.** -/
theorem presentations_spec (world : World) (owner : Service) (events : List Event) :
    Run.Always (step world) Exclusive (started owner) events ∧
      Run.Each (step world) (Follows world) (started owner) events :=
  ⟨always_exclusive (exclusive_started owner) events, each_follows world (started owner) events⟩

/-- The services stop at once, and the framebuffer does not start. -/
def startFails : World := fun _ call =>
  match call with
  | .service .compositor .status => false
  | .service .framebuffer .start => false
  | .pidof _ => false
  | _ => true

/-- After a start that fails nothing more is done. -/
example : orders (useFramebuffer startFails []).1 =
    [(.compositor, .stop), (.framebuffer, .start)] ∧ (useFramebuffer startFails []).2 = false := by
  decide

end NesDeck.Presentation
