/-
**The slots of the two players.**

`joypad_input.cpp` looks for game controllers once a second. A controller that is new takes one of
two slots; a slot whose controller was unplugged remembers the USB port it was plugged in, so that
the controller gets its player back. A scan opens every input device and keeps the descriptors of
the controllers it gives a slot; descriptors are numbered here in the order in which they are
opened.

Main definitions:

* `NesDeck.GamepadDevice`, `NesDeck.GamepadInput` — a slot, and the state of the input thread;
* `NesDeck.InputDirectory` — the devices that a scan finds, in the order of the directory;
* `NesDeck.GamepadInput.scanGamepads`, `NesDeck.GamepadInput.closeGamepad` — a scan and a
  disconnection;
* `NesDeck.GamepadInput.Distinct` — the controllers that are attached sit in different ports;
* `NesDeck.GamepadInput.TakenTwice` — a controller that came back under another name before its slot
  was given up takes the other slot;
* `NesDeck.GamepadInput.Lawful` — what one event may do to the slots.

Main results:

* `NesDeck.GamepadInput.sound_react` — every event keeps the invariant, such a scan apart;
* `NesDeck.GamepadInput.scan_reordered` — the order of the directory does not matter;
* `NesDeck.GamepadInput.slots_lawful_iff` — **along a run no controller is moved, doubled or leaked,
  and a remembered one gets its slot back, exactly if no controller is taken twice**.

A scan does not look at the ports of the connected slots: it knows a controller that it holds by the
name of its device only.
-/

import Mathlib.Data.List.Nodup
import Mathlib.Data.List.Sort
import NesDeck.JoypadKeyboard
import NesDeck.Lib.HostFile

set_option relaxedAutoImplicit false
set_option autoImplicit false

namespace NesDeck

open HostFile (Bytes ascii)

/-! ### Buttons of a controller -/

def PAD_L : BitVec 32 := 1 <<< 8
def PAD_R : BitVec 32 := 1 <<< 9

def BTN_TRIGGER : ℕ := 0x120

/-- `gamepad_key_to_pad`. -/
def gamepadKeyToPad : ℕ → BitVec 32
  | 0x122 => PAD_A       -- BTN_THUMB2
  | 0x123 => PAD_A       -- BTN_TOP
  | 0x121 => PAD_B       -- BTN_THUMB
  | 0x120 => PAD_B       -- BTN_TRIGGER
  | 0x126 => PAD_SELECT  -- BTN_BASE
  | 0x127 => PAD_START   -- BTN_BASE2
  | 0x124 => PAD_L       -- BTN_TOP2
  | 0x125 => PAD_R       -- BTN_PINKIE
  | _ => 0

/-- `axis_to_pad`. -/
def axisToPad (value minimum maximum : ℤ) (negative positive : BitVec 32) : BitVec 32 :=
  if maximum ≤ minimum then 0
  else
    let span := maximum - minimum
    let low := minimum + span / 3
    let high := maximum - span / 3
    if value ≤ low then negative else if high ≤ value then positive else 0

/-- `input_absinfo`, the fields that are used. -/
structure AbsInfo where
  value : ℤ
  minimum : ℤ
  maximum : ℤ
  deriving DecidableEq

/-- `GamepadDevice`: the slot of a player.  A slot without descriptor is disconnected. -/
structure GamepadDevice where
  fd : Option ℕ
  path : Bytes
  physicalPath : Bytes
  xInfo : AbsInfo
  yInfo : AbsInfo
  rawButtons : BitVec 32
  xValue : ℤ
  yValue : ℤ
  state : BitVec 32
  droppingEvents : Bool

/-- A slot that was never used. -/
def GamepadDevice.unused : GamepadDevice where
  fd := none
  path := []
  physicalPath := []
  xInfo := ⟨0, 0, 0⟩
  yInfo := ⟨0, 0, 0⟩
  rawButtons := 0
  xValue := 0
  yValue := 0
  state := 0
  droppingEvents := false

/-- `gamepad_state`. -/
def gamepadState (gamepad : GamepadDevice) : BitVec 32 :=
  let buttons := (List.range 8).foldl (fun state index =>
    if gamepad.rawButtons &&& (1 <<< index) ≠ 0 then state ||| gamepadKeyToPad (BTN_TRIGGER + index)
    else state) 0
  buttons |||
    axisToPad gamepad.xValue gamepad.xInfo.minimum gamepad.xInfo.maximum PAD_LEFT PAD_RIGHT |||
    axisToPad gamepad.yValue gamepad.yInfo.minimum gamepad.yInfo.maximum PAD_UP PAD_DOWN

/-- What a device answers to the calls of `resynchronize_gamepad`. -/
structure SyncAnswer where
  keys : ℕ → Bool
  xInfo : AbsInfo
  yInfo : AbsInfo

/-- A device below `/dev/input`, with its answers to the calls of a scan. -/
structure InputNode where
  name : Bytes
  openable : Bool
  id : Option (ℕ × ℕ)
  xInfo : Option AbsInfo
  yInfo : Option AbsInfo
  physicalPath : Option Bytes
  sync : Option SyncAnswer

/-- The devices in the order in which `readdir` lists them; a name is listed once. -/
structure InputDirectory where
  nodes : List InputNode
  nodup : (nodes.map InputNode.name).Nodup

/-- `GamepadCandidate`, with what the device will answer when it is attached. -/
structure GamepadCandidate where
  fd : ℕ
  path : Bytes
  physicalPath : Bytes
  xInfo : AbsInfo
  yInfo : AbsInfo
  sync : Option SyncAnswer

/-- A slot after `close_gamepad`. -/
def GamepadDevice.closed (gamepad : GamepadDevice) (rememberPhysicalPath : Bool) : GamepadDevice :=
  { gamepad with
    fd := none
    path := []
    physicalPath := if rememberPhysicalPath then gamepad.physicalPath else []
    rawButtons := 0
    state := 0
    droppingEvents := false }

/-- A slot after `resynchronize_gamepad`. -/
def GamepadDevice.resynchronized (gamepad : GamepadDevice) (answer : SyncAnswer) : GamepadDevice :=
  let gamepad := { gamepad with
    xInfo := answer.xInfo
    yInfo := answer.yInfo
    xValue := answer.xInfo.value
    yValue := answer.yInfo.value
    rawButtons := (List.range 8).foldl (fun raw index =>
      if answer.keys (BTN_TRIGGER + index) then raw ||| (1 <<< index) else raw) 0 }
  { gamepad with state := gamepadState gamepad }

/-- The slot that a candidate gets. -/
def GamepadCandidate.gamepad (candidate : GamepadCandidate) : GamepadDevice where
  fd := some candidate.fd
  path := candidate.path
  physicalPath := candidate.physicalPath
  xInfo := candidate.xInfo
  yInfo := candidate.yInfo
  rawButtons := 0
  xValue := candidate.xInfo.value
  yValue := candidate.yInfo.value
  state := 0
  droppingEvents := false

/-- The slots, what the mutex protects, the number of descriptors opened so far, and those that were
closed again. -/
structure GamepadInput where
  gamepads : Fin 2 → GamepadDevice
  pad : Joypad
  opened : ℕ
  closed : List ℕ

namespace GamepadInput

def kTheGamepadVendor : ℕ := 0x1c59

def kTheGamepadProduct : ℕ := 0x0026

/-- The players, in the order of the loops. -/
def players : List (Fin 2) := List.finRange 2

theorem players_eq : players = [0, 1] := rfl

/-- The state of a fresh process. -/
def initial (kbOpen : Bool) : GamepadInput where
  gamepads := fun _ => .unused
  pad := Joypad.initial kbOpen
  opened := 0
  closed := []

/-! ### Slots -/

/-- A slot is changed. -/
def setGamepad (self : GamepadInput) (player : Fin 2) (gamepad : GamepadDevice) : GamepadInput :=
  { self with gamepads := Function.update self.gamepads player gamepad }

/-- `publish_states`. -/
def publish (self : GamepadInput) : GamepadInput :=
  { self with
    pad := Joypad.publishStates { self.pad with gamepads := fun player =>
      (self.gamepads player).state } }

/-- The slot is connected. -/
def Connected (self : GamepadInput) (player : Fin 2) : Prop :=
  (self.gamepads player).fd.isSome = true

instance (self : GamepadInput) (player : Fin 2) : Decidable (self.Connected player) :=
  inferInstanceAs (Decidable (_ = true))

/-- `path_is_open`. -/
def pathIsOpen (self : GamepadInput) (path : Bytes) : Bool :=
  players.any fun player => decide (self.Connected player ∧ (self.gamepads player).path = path)

/-- `close_gamepad`. -/
def closeGamepad (self : GamepadInput) (player : Fin 2) (rememberPhysicalPath : Bool) :
    GamepadInput :=
  publish
    { self.setGamepad player
        ((self.gamepads player).closed rememberPhysicalPath) with
      closed := self.closed ++ (self.gamepads player).fd.toList }

/-- `attach_candidate`. -/
def attachCandidate (self : GamepadInput) (player : Fin 2) (candidate : GamepadCandidate) :
    GamepadInput :=
  match candidate.sync with
  | none => self.setGamepad player candidate.gamepad
  | some answer =>
      publish (self.setGamepad player (candidate.gamepad.resynchronized answer))

/-! ### Scans -/

/-- `is_event_name`. -/
def isEventName (name : Bytes) : Bool :=
  name.take 5 = ascii "event" ∧ name.drop 5 ≠ [] ∧
    (name.drop 5).all (fun character => 0x30 ≤ character ∧ character ≤ 0x39)

/-- The axes of a device that is one of the controllers. -/
def axes (node : InputNode) : Option (AbsInfo × AbsInfo) :=
  match node.id with
  | none => none
  | some (vendor, product) =>
      if vendor = kTheGamepadVendor ∧ product = kTheGamepadProduct then
        match node.xInfo, node.yInfo with
        | some xInfo, some yInfo => some (xInfo, yInfo)
        | _, _ => none
      else none

def devicePath (node : InputNode) : Bytes := ascii "/dev/input/" ++ node.name

/-- The port of a device; a device that does not name it is known by its path. -/
def physicalPathOf (node : InputNode) : Bytes :=
  match node.physicalPath with
  | some (first :: rest) => first :: rest
  | _ => devicePath node

/-- One turn of the loop over the directory. -/
def scanNode (state : GamepadInput × List GamepadCandidate) (node : InputNode) :
    GamepadInput × List GamepadCandidate :=
  let (self, candidates) := state
  if !isEventName node.name then state
  else if self.pathIsOpen (devicePath node) then state
  else if !node.openable then state
  else
    let fd := self.opened
    let self := { self with opened := fd + 1 }
    match axes node with
    | none => ({ self with closed := self.closed ++ [fd] }, candidates)
    | some (xInfo, yInfo) =>
        (self, candidates ++
          [{ fd := fd
             path := devicePath node
             physicalPath := physicalPathOf node
             xInfo := xInfo
             yInfo := yInfo
             sync := node.sync }])

/-- `candidate_order`. -/
def candidateOrder (left right : GamepadCandidate) : Bool :=
  if left.physicalPath ≠ right.physicalPath then decide (left.physicalPath < right.physicalPath)
  else decide (left.path < right.path)

/-- The first pass: a slot gets the controller back that it remembers. A candidate that was attached
has lost its descriptor, and all loops pass over it; here it leaves the list. -/
def reconnect (state : GamepadInput × List GamepadCandidate) (player : Fin 2) :
    GamepadInput × List GamepadCandidate :=
  let (self, candidates) := state
  if self.Connected player ∨ (self.gamepads player).physicalPath = [] then state
  else
    let remembered := fun candidate : GamepadCandidate =>
      decide (candidate.physicalPath = (self.gamepads player).physicalPath)
    match candidates.find? remembered with
    | none => state
    | some candidate => (self.attachCandidate player candidate, candidates.eraseP remembered)

/-- The second pass: a slot that was never used gets the first candidate. -/
def fill (state : GamepadInput × List GamepadCandidate) (player : Fin 2) :
    GamepadInput × List GamepadCandidate :=
  let (self, candidates) := state
  if self.Connected player ∨ (self.gamepads player).physicalPath ≠ [] then state
  else
    match candidates with
    | [] => state
    | candidate :: candidates => (self.attachCandidate player candidate, candidates)

/-- The third pass: a candidate takes the first slot that is disconnected, whatever it remembers. -/
def reuse (self : GamepadInput) : List GamepadCandidate → GamepadInput × List GamepadCandidate
  | [] => (self, [])
  | candidate :: candidates =>
      match players.find? fun player => !decide (self.Connected player) with
      | some player => reuse (self.attachCandidate player candidate) candidates
      | none =>
          let (self, left) := reuse self candidates
          (self, candidate :: left)

/-- The passes, over the sorted candidates. -/
def assign (self : GamepadInput) (candidates : List GamepadCandidate) :
    GamepadInput × List GamepadCandidate :=
  let (self, candidates) := players.foldl reconnect (self, candidates)
  let (self, candidates) := players.foldl fill (self, candidates)
  reuse self candidates

/-- `std::sort` by `candidate_order`. -/
def sortCandidates (candidates : List GamepadCandidate) : List GamepadCandidate :=
  candidates.insertionSort fun left right => candidateOrder right left = false

/-- `scan_gamepads`; the directory may be unreadable. -/
def scanGamepads (self : GamepadInput) (directory : Option InputDirectory) : GamepadInput :=
  match directory with
  | none => self
  | some directory =>
      let (self, candidates) := directory.nodes.foldl scanNode (self, [])
      let (self, left) := self.assign (sortCandidates candidates)
      { self with closed := self.closed ++ left.map GamepadCandidate.fd }

/-! ### Runs -/

/-- What the input thread does to the slots. -/
inductive Event where
  | scan (directory : Option InputDirectory)
  | disconnect (player : Fin 2)

/-- One event; a slot that is disconnected is not polled. -/
def react (self : GamepadInput) : Event → GamepadInput
  | .scan directory => self.scanGamepads directory
  | .disconnect player => if self.Connected player then self.closeGamepad player true else self

/-! ### What an attachment does -/

/-- The descriptors of the connected slots. -/
def descriptors (self : GamepadInput) : List ℕ :=
  players.filterMap fun player => (self.gamepads player).fd

theorem player_cases (player : Fin 2) : player = 0 ∨ player = 1 := by omega

@[simp] theorem setGamepad_self (self : GamepadInput) (player : Fin 2) (gamepad : GamepadDevice) :
    (self.setGamepad player gamepad).gamepads player = gamepad := by
  simp [setGamepad]

theorem setGamepad_of_ne (self : GamepadInput) {player other : Fin 2} (h : other ≠ player)
    (gamepad : GamepadDevice) :
    (self.setGamepad player gamepad).gamepads other = self.gamepads other := by
  simp [setGamepad, Function.update_of_ne h]

@[simp] theorem publish_gamepads (self : GamepadInput) : self.publish.gamepads =
  self.gamepads := rfl

@[simp] theorem publish_closed (self : GamepadInput) : self.publish.closed = self.closed := rfl

@[simp] theorem attachCandidate_opened (self : GamepadInput) (player : Fin 2)
    (candidate : GamepadCandidate) :
    (self.attachCandidate player candidate).opened = self.opened := by
  unfold attachCandidate
  cases candidate.sync with
  | none => rfl
  | some answer => rfl

@[simp] theorem attachCandidate_closed (self : GamepadInput) (player : Fin 2)
    (candidate : GamepadCandidate) :
    (self.attachCandidate player candidate).closed = self.closed := by
  unfold attachCandidate
  cases candidate.sync with
  | none => rfl
  | some answer => rfl

/-- The slot of the other player is left alone. -/
theorem attachCandidate_of_ne (self : GamepadInput) {player other : Fin 2} (h : other ≠ player)
    (candidate : GamepadCandidate) :
    (self.attachCandidate player candidate).gamepads other = self.gamepads other := by
  unfold attachCandidate
  cases candidate.sync with
  | none => exact setGamepad_of_ne self h _
  | some answer => exact setGamepad_of_ne self h _

/-- The slot has the descriptor, the path and the port of the candidate. -/
theorem attachCandidate_self (self : GamepadInput) (player : Fin 2) (candidate : GamepadCandidate) :
    ((self.attachCandidate player candidate).gamepads player).fd = some candidate.fd ∧
      ((self.attachCandidate player candidate).gamepads player).path = candidate.path ∧
      ((self.attachCandidate player candidate).gamepads player).physicalPath =
        candidate.physicalPath := by
  unfold attachCandidate
  cases candidate.sync with
  | none =>
      rw [setGamepad_self]
      exact ⟨rfl, rfl, rfl⟩
  | some answer =>
      rw [publish_gamepads, setGamepad_self]
      exact ⟨rfl, rfl, rfl⟩

theorem connected_attach (self : GamepadInput) (player : Fin 2) (candidate : GamepadCandidate) :
    (self.attachCandidate player candidate).Connected player := by
  rw [Connected, (attachCandidate_self self player candidate).1]
  rfl

/-- One of the passes attaches a candidate to a slot that is disconnected. -/
def Attaches (before after : GamepadInput × List GamepadCandidate) (player : Fin 2)
    (candidate : GamepadCandidate) : Prop :=
  ¬before.1.Connected player ∧ after.1 = before.1.attachCandidate player candidate ∧
    before.2.Perm (candidate :: after.2)

/-- The descriptors after an attachment. -/
theorem descriptors_attach {self : GamepadInput} {player : Fin 2} (h : ¬self.Connected player)
    (candidate : GamepadCandidate) :
    ((self.attachCandidate player candidate).descriptors).Perm
    (candidate.fd :: self.descriptors) := by
  have hnone : (self.gamepads player).fd = none := by
    rwa [Connected, Bool.not_eq_true, Option.isSome_eq_false_iff, Option.isNone_iff_eq_none] at h
  have hfd := (attachCandidate_self self player candidate).1
  have hother : ∀ other, other ≠ player →
      ((self.attachCandidate player candidate).gamepads other).fd = (self.gamepads other).fd :=
    fun other hne => by rw [attachCandidate_of_ne self hne]
  rcases player_cases player with rfl | rfl
  · simp only [descriptors, players_eq, List.filterMap_cons, List.filterMap_nil, hfd, hnone,
      hother 1 (by decide)]
    rfl
  · simp only [descriptors, players_eq, List.filterMap_cons, List.filterMap_nil, hfd, hnone,
      hother 0 (by decide)]
    cases (self.gamepads 0).fd with
    | none => rfl
    | some fd => exact List.Perm.swap _ _ _

/-! ### The invariant -/

/-- No two slots have the same port; a connected slot has one, and a device of its own. -/
structure Apart (input : GamepadInput) : Prop where
  ports : ∀ player other, player ≠ other → (input.gamepads player).physicalPath ≠ [] →
    (input.gamepads player).physicalPath ≠ (input.gamepads other).physicalPath
  paths : ∀ player other, player ≠ other → input.Connected player → input.Connected other →
    (input.gamepads player).path ≠ (input.gamepads other).path
  named : ∀ player, input.Connected player → (input.gamepads player).physicalPath ≠ []

/-- The invariant between two events: every descriptor that was opened is the one of exactly one
slot, or it was closed once. -/
structure Sound (input : GamepadInput) : Prop extends Apart input where
  ledger : (input.descriptors ++ input.closed).Perm (List.range input.opened)

/-- The candidates of a scan: they sit in ports of their own, and none of them is open. -/
structure Fresh (input : GamepadInput) (candidates : List GamepadCandidate) : Prop where
  distinct : (candidates.map GamepadCandidate.physicalPath).Nodup
  distinct_paths : (candidates.map GamepadCandidate.path).Nodup
  in_port : ∀ candidate ∈ candidates, candidate.physicalPath ≠ []
  path_ne : ∀ candidate ∈ candidates, ∀ player, input.Connected player →
    candidate.path ≠ (input.gamepads player).path

/-- The invariant within a scan. -/
structure Opened (state : GamepadInput × List GamepadCandidate) : Prop extends
    Apart state.1, Fresh state.1 state.2 where
  ledger : (state.1.descriptors ++ state.1.closed ++ state.2.map GamepadCandidate.fd).Perm
    (List.range state.1.opened)

/-- The invariant within a scan that finds no controller in the port of a connected slot. -/
structure Ready (state : GamepadInput × List GamepadCandidate) : Prop extends Opened state where
  port_ne : ∀ candidate ∈ state.2, ∀ player, state.1.Connected player →
    candidate.physicalPath ≠ (state.1.gamepads player).physicalPath

/-- The slots that were connected are as they were. -/
def Keeps (before after : GamepadInput) : Prop :=
  ∀ player, before.Connected player → after.gamepads player = before.gamepads player

theorem Keeps.refl (self : GamepadInput) : Keeps self self := fun _ _ => rfl

theorem Keeps.connected {before after : GamepadInput} (h : Keeps before after) {player : Fin 2}
    (hconnected : before.Connected player) : after.Connected player := by
  rw [Connected, h player hconnected]
  exact hconnected

theorem Keeps.trans {before between after : GamepadInput} (h : Keeps before between)
    (h' : Keeps between after) : Keeps before after := by
  intro player hconnected
  rw [h' player (h.connected hconnected), h player hconnected]

section

variable {before after : GamepadInput × List GamepadCandidate} {player : Fin 2}
  {candidate : GamepadCandidate}

theorem Attaches.keeps (h : Attaches before after player candidate) : Keeps before.1 after.1 := by
  obtain ⟨hfree, hafter, -⟩ := h
  intro other hother
  have hne : other ≠ player := fun heq => hfree (heq ▸ hother)
  rw [hafter, attachCandidate_of_ne before.1 hne]

theorem Attaches.mem (h : Attaches before after player candidate) : candidate ∈ before.2 :=
  h.2.2.symm.subset List.mem_cons_self

theorem Attaches.subset (h : Attaches before after player candidate) : after.2 ⊆ before.2 :=
  fun _ hmem => h.2.2.symm.subset (List.mem_cons_of_mem candidate hmem)

/-- Slots other than the one that is attached. -/
theorem Attaches.of_ne (h : Attaches before after player candidate) {other : Fin 2}
    (hne : other ≠ player) : after.1.gamepads other = before.1.gamepads other := by
  rw [h.2.1, attachCandidate_of_ne before.1 hne]

theorem Attaches.connected_of_ne (h : Attaches before after player candidate) {other : Fin 2}
    (hne : other ≠ player) : after.1.Connected other ↔ before.1.Connected other := by
  rw [Connected, h.of_ne hne, Connected]

theorem Attaches.physicalPath (h : Attaches before after player candidate) :
    (after.1.gamepads player).physicalPath = candidate.physicalPath := by
  rw [h.2.1]
  exact (attachCandidate_self before.1 player candidate).2.2

theorem Attaches.path (h : Attaches before after player candidate) :
    (after.1.gamepads player).path = candidate.path := by
  rw [h.2.1]
  exact (attachCandidate_self before.1 player candidate).2.1

/-- The other candidates sit elsewhere. -/
theorem Attaches.ne_of_mem (h : Attaches before after player candidate) {β : Type}
    {f : GamepadCandidate → β} (hnodup : (before.2.map f).Nodup) {other : GamepadCandidate}
    (hother : other ∈ after.2) : f other ≠ f candidate := by
  have hcons := (h.2.2.map f).nodup_iff.1 hnodup
  rw [List.map_cons, List.nodup_cons] at hcons
  exact fun heq => hcons.1 (heq ▸ List.mem_map_of_mem hother)

theorem Attaches.nodup (h : Attaches before after player candidate) {β : Type}
    {f : GamepadCandidate → β} (hnodup : (before.2.map f).Nodup) : (after.2.map f).Nodup := by
  have hcons := (h.2.2.map f).nodup_iff.1 hnodup
  rw [List.map_cons, List.nodup_cons] at hcons
  exact hcons.2

/-- A slot that is connected after an attachment is the one that was attached, or it was connected
before and is as it was. -/
theorem Attaches.connected_cases (h : Attaches before after player candidate) {other : Fin 2}
    (hconnected : after.1.Connected other) :
    other = player ∨ (other ≠ player ∧ before.1.Connected other ∧
      after.1.gamepads other = before.1.gamepads other) := by
  by_cases hother : other = player
  · exact Or.inl hother
  · exact Or.inr ⟨hother, (h.connected_of_ne hother).1 hconnected, h.of_ne hother⟩

/-- The slots stay apart if no other slot remembers the port of the candidate. -/
theorem Opened.apart_attach (h : Opened before) (hattach : Attaches before after player candidate)
    (hport : ∀ other, other ≠ player →
      (before.1.gamepads other).physicalPath ≠ candidate.physicalPath) : Apart after.1 where
  ports := by
    intro one other hne hnamed
    by_cases hone : one = player
    · subst hone
      rw [hattach.physicalPath, hattach.of_ne hne.symm]
      exact (hport other hne.symm).symm
    · rw [hattach.of_ne hone] at hnamed ⊢
      by_cases hother : other = player
      · subst hother
        rw [hattach.physicalPath]
        exact hport one hone
      · rw [hattach.of_ne hother]
        exact h.ports one other hne hnamed
  paths := by
    intro one other hne hconnected hconnected'
    rcases hattach.connected_cases hconnected with rfl | ⟨-, hold, hslot⟩
    · rcases hattach.connected_cases hconnected' with rfl | ⟨-, hold', hslot'⟩
      · exact absurd rfl hne
      · rw [hattach.path, hslot']
        exact h.path_ne candidate hattach.mem other hold'
    · rw [hslot]
      rcases hattach.connected_cases hconnected' with rfl | ⟨-, hold', hslot'⟩
      · rw [hattach.path]
        exact (h.path_ne candidate hattach.mem one hold).symm
      · rw [hslot']
        exact h.paths one other hne hold hold'
  named := by
    intro one hconnected
    rcases hattach.connected_cases hconnected with rfl | ⟨-, hold, hslot⟩
    · rw [hattach.physicalPath]
      exact h.in_port candidate hattach.mem
    · rw [hslot]
      exact h.named one hold

/-- The candidates that are left are as fresh as they were. -/
theorem Opened.fresh_attach (h : Opened before)
    (hattach : Attaches before after player candidate) : Fresh after.1 after.2 where
  distinct := hattach.nodup h.distinct
  distinct_paths := hattach.nodup h.distinct_paths
  in_port := fun other hother => h.in_port other (hattach.subset hother)
  path_ne := by
    intro other hother one hconnected
    rcases hattach.connected_cases hconnected with rfl | ⟨-, hold, hslot⟩
    · rw [hattach.path]
      exact hattach.ne_of_mem h.distinct_paths hother
    · rw [hslot]
      exact h.path_ne other (hattach.subset hother) one hold

/-- The descriptor of the candidate goes over to the slot. -/
theorem Attaches.ledger (h : Attaches before after player candidate) :
    (after.1.descriptors ++ after.1.closed ++ after.2.map GamepadCandidate.fd).Perm
      (before.1.descriptors ++ before.1.closed ++ before.2.map GamepadCandidate.fd) := by
  have hdescriptors := descriptors_attach h.1 candidate
  rw [← h.2.1] at hdescriptors
  have hclosed : after.1.closed = before.1.closed := by
    rw [h.2.1, attachCandidate_closed]
  have hmoved : (candidate.fd :: (before.1.descriptors ++ before.1.closed ++
      after.2.map GamepadCandidate.fd)).Perm
      (before.1.descriptors ++ before.1.closed ++ before.2.map GamepadCandidate.fd) :=
    List.perm_middle.symm.trans ((h.2.2.map GamepadCandidate.fd).symm.append_left _)
  rw [hclosed]
  exact ((hdescriptors.append_right _).append_right _).trans hmoved

/-- **An attachment keeps the invariant** if no other slot has the port of the candidate. -/
theorem Opened.attach (h : Opened before) (hattach : Attaches before after player candidate)
    (hport : ∀ other, other ≠ player →
      (before.1.gamepads other).physicalPath ≠ candidate.physicalPath) : Opened after where
  toApart := h.apart_attach hattach hport
  toFresh := h.fresh_attach hattach
  ledger := by
    have hopened : after.1.opened = before.1.opened := by
      rw [hattach.2.1, attachCandidate_opened]
    rw [hopened]
    exact hattach.ledger.trans h.ledger

theorem Ready.attach (h : Ready before) (hattach : Attaches before after player candidate)
    (hport : ∀ other, other ≠ player →
      (before.1.gamepads other).physicalPath ≠ candidate.physicalPath) : Ready after where
  toOpened := h.toOpened.attach hattach hport
  port_ne := by
    intro other hother one hconnected
    rcases hattach.connected_cases hconnected with rfl | ⟨-, hold, hslot⟩
    · rw [hattach.physicalPath]
      exact hattach.ne_of_mem h.distinct hother
    · rw [hslot]
      exact h.port_ne other (hattach.subset hother) one hold

/-- No candidate sits in the port of the slot. -/
def Settled (state : GamepadInput × List GamepadCandidate) (player : Fin 2) : Prop :=
  ∀ candidate ∈ state.2, candidate.physicalPath ≠ (state.1.gamepads player).physicalPath

/-- A slot is settled from its attachment on. -/
theorem Ready.settled_attach (h : Ready after) (hattach : Attaches before after player candidate)
    {other : Fin 2} (hsettled : other ≠ player → Settled before other) : Settled after other := by
  intro other' hother'
  by_cases hother : other = player
  · subst hother
    refine h.port_ne other' hother' other ?_
    rw [hattach.2.1]
    exact connected_attach before.1 other candidate
  · rw [hattach.of_ne hother]
    exact hsettled hother other' (hattach.subset hother')

end

/-! ### The passes -/

/-- The candidate that is found first leaves the list. -/
theorem perm_cons_eraseP {α : Type} {p : α → Bool} {a : α} {l : List α} (h : l.find? p = some a) :
    l.Perm (a :: l.eraseP p) := by
  induction l with
  | nil => cases h
  | cons b l ih =>
      by_cases hb : p b = true
      · rw [List.find?_cons_of_pos hb, Option.some.injEq] at h
        rw [List.eraseP_cons_of_pos hb, h]
      · rw [List.find?_cons_of_neg hb] at h
        rw [List.eraseP_cons_of_neg hb]
        exact ((ih h).cons b).trans (List.Perm.swap a b _)

/-- The slot remembers the port of a candidate. -/
def remembers (self : GamepadInput) (player : Fin 2) (candidate : GamepadCandidate) : Bool :=
  candidate.physicalPath = (self.gamepads player).physicalPath

section

variable {self : GamepadInput} {candidates : List GamepadCandidate} {player : Fin 2}

theorem reconnect_of_skip
    (h : self.Connected player ∨ (self.gamepads player).physicalPath = []) :
    reconnect (self, candidates) player = (self, candidates) := if_pos h

theorem reconnect_of_not_skip
    (h : ¬(self.Connected player ∨ (self.gamepads player).physicalPath = [])) :
    reconnect (self, candidates) player =
      match candidates.find? (remembers self player) with
      | none => (self, candidates)
      | some candidate =>
          (self.attachCandidate player candidate, candidates.eraseP (remembers self player)) :=
  if_neg h

theorem fill_of_skip (h : self.Connected player ∨ (self.gamepads player).physicalPath ≠ []) :
    fill (self, candidates) player = (self, candidates) := if_pos h

theorem fill_of_not_skip (h : ¬(self.Connected player ∨ (self.gamepads player).physicalPath ≠ [])) :
    fill (self, candidates) player =
      match candidates with
      | [] => (self, [])
      | candidate :: candidates => (self.attachCandidate player candidate, candidates) := by
  rw [fill.eq_def]
  dsimp only
  rw [if_neg h]
  cases candidates with
  | nil => rfl
  | cons candidate candidates => rfl

theorem assign_eq (self : GamepadInput) (candidates : List GamepadCandidate) :
    self.assign candidates =
      (fill (fill (reconnect (reconnect (self, candidates) 0) 1) 0) 1).1.reuse
        (fill (fill (reconnect (reconnect (self, candidates) 0) 1) 0) 1).2 := rfl

end

/-- **What the first pass does for a slot**: it gives it the candidate in its port, if there is
one. -/
theorem reconnect_cases (state : GamepadInput × List GamepadCandidate) (player : Fin 2) :
    (reconnect state player = state ∧ (state.1.Connected player ∨
        (state.1.gamepads player).physicalPath = [] ∨ Settled state player)) ∨
      ∃ candidate, Attaches state (reconnect state player) player candidate ∧
        candidate.physicalPath = (state.1.gamepads player).physicalPath := by
  obtain ⟨self, candidates⟩ := state
  rw [reconnect]
  dsimp only
  split
  · next hskip => exact Or.inl ⟨rfl, hskip.imp_right Or.inl⟩
  · next hskip =>
      rw [not_or] at hskip
      split
      · next hnone =>
          refine Or.inl ⟨rfl, Or.inr (Or.inr ?_)⟩
          intro candidate hmem
          have hother := List.find?_eq_none.1 hnone candidate hmem
          rwa [decide_eq_true_iff] at hother
      · next candidate hfound =>
          have hport := List.find?_some hfound
          rw [decide_eq_true_iff] at hport
          exact Or.inr ⟨candidate, ⟨hskip.1, rfl, perm_cons_eraseP hfound⟩, hport⟩

section

variable {state : GamepadInput × List GamepadCandidate}

theorem ready_reconnect (h : Ready state) (player : Fin 2) : Ready (reconnect state player) := by
  rcases reconnect_cases state player with ⟨hsame, -⟩ | ⟨candidate, hattach, hport⟩
  · rwa [hsame]
  · refine h.attach hattach ?_
    intro other hne
    have hnamed : (state.1.gamepads player).physicalPath ≠ [] :=
      hport ▸ h.in_port candidate hattach.mem
    rw [hport]
    exact (h.ports player other hne.symm hnamed).symm

theorem keeps_reconnect (state : GamepadInput × List GamepadCandidate) (player : Fin 2) :
    Keeps state.1 (reconnect state player).1 := by
  rcases reconnect_cases state player with ⟨hsame, -⟩ | ⟨candidate, hattach, -⟩
  · rw [hsame]
    exact Keeps.refl state.1
  · exact hattach.keeps

/-- After its turn a slot is settled, and the turn of the other slot does not change that. -/
theorem settled_reconnect (h : Ready state) {player other : Fin 2}
    (hsettled : other ≠ player → Settled state other) : Settled (reconnect state player) other := by
  rcases reconnect_cases state player with ⟨hsame, hwhy⟩ | ⟨candidate, hattach, -⟩
  · rw [hsame]
    by_cases hother : other = player
    · subst hother
      rcases hwhy with hconnected | hunused | hfree
      · exact fun candidate hmem => h.port_ne candidate hmem other hconnected
      · exact fun candidate hmem => hunused ▸ h.in_port candidate hmem
      · exact hfree
    · exact hsettled hother
  · exact (ready_reconnect h player).settled_attach hattach hsettled

/-- **What the second pass does for a slot.** -/
theorem fill_cases (state : GamepadInput × List GamepadCandidate) (player : Fin 2) :
    fill state player = state ∨
      ∃ candidate, Attaches state (fill state player) player candidate := by
  obtain ⟨self, candidates⟩ := state
  unfold fill
  dsimp only
  split
  · exact Or.inl rfl
  · next hskip =>
      rw [not_or] at hskip
      cases candidates with
      | nil => exact Or.inl rfl
      | cons candidate candidates =>
          exact Or.inr ⟨candidate, hskip.1, rfl, List.Perm.refl _⟩

/-- The invariant of the later passes: no candidate sits in the port of a slot. -/
structure Rest (state : GamepadInput × List GamepadCandidate) : Prop extends Ready state where
  settled : ∀ player, Settled state player

theorem Rest.attach (h : Rest state) {after : GamepadInput × List GamepadCandidate} {player : Fin 2}
    {candidate : GamepadCandidate} (hattach : Attaches state after player candidate) :
    Rest after := by
  have hready : Ready after := h.toReady.attach hattach fun other _ =>
    (h.settled other candidate hattach.mem).symm
  exact ⟨hready, fun other => hready.settled_attach hattach fun _ => h.settled other⟩

theorem rest_fill (h : Rest state) (player : Fin 2) : Rest (fill state player) := by
  rcases fill_cases state player with hsame | ⟨candidate, hattach⟩
  · rwa [hsame]
  · exact h.attach hattach

theorem keeps_fill (state : GamepadInput × List GamepadCandidate) (player : Fin 2) :
    Keeps state.1 (fill state player).1 := by
  rcases fill_cases state player with hsame | ⟨candidate, hattach⟩
  · rw [hsame]
    exact Keeps.refl state.1
  · exact hattach.keeps

end

/-- With both slots connected nothing more happens. -/
theorem reuse_of_full {self : GamepadInput} (h : ∀ player, self.Connected player)
    (candidates : List GamepadCandidate) : self.reuse candidates = (self, candidates) := by
  induction candidates with
  | nil => rfl
  | cons candidate candidates ih =>
      have hnone : (players.find? fun player => !decide (self.Connected player)) = none := by
        refine List.find?_eq_none.2 fun player _ => ?_
        simp [h player]
      rw [reuse, hnone, ih]

/-- **The third pass** keeps the invariant and the connected slots. -/
theorem rest_reuse {self : GamepadInput} {candidates : List GamepadCandidate}
    (h : Rest (self, candidates)) :
    Rest (self.reuse candidates) ∧ Keeps self (self.reuse candidates).1 := by
  induction candidates generalizing self with
  | nil => exact ⟨h, Keeps.refl self⟩
  | cons candidate candidates ih =>
      rw [reuse]
      split
      · next player hfree =>
          have hplayer := List.find?_some hfree
          rw [Bool.not_eq_true', decide_eq_false_iff_not] at hplayer
          have hattach : Attaches (self, candidate :: candidates)
              (self.attachCandidate player candidate, candidates) player candidate :=
            ⟨hplayer, rfl, List.Perm.refl _⟩
          obtain ⟨hrest, hkeeps⟩ := ih (h.attach hattach)
          exact ⟨hrest, hattach.keeps.trans hkeeps⟩
      · next hfull =>
          have hconnected : ∀ player, self.Connected player := by
            intro player
            have hmem : player ∈ players := by
              rcases player_cases player with rfl | rfl
              · decide
              · decide
            simpa using List.find?_eq_none.1 hfull player hmem
          rw [reuse_of_full hconnected]
          exact ⟨h, Keeps.refl self⟩

/-- **The passes keep the invariant and the connected slots.** -/
theorem rest_assign {self : GamepadInput} {candidates : List GamepadCandidate}
    (h : Ready (self, candidates)) :
    Rest (self.assign candidates) ∧
      Keeps (reconnect (reconnect (self, candidates) 0) 1).1 (self.assign candidates).1 := by
  have hzero := ready_reconnect h 0
  have hone := ready_reconnect hzero 1
  have hrest : Rest (reconnect (reconnect (self, candidates) 0) 1) := by
    refine ⟨hone, fun player => settled_reconnect hzero ?_⟩
    intro hne
    have hplayer : player = 0 := (player_cases player).resolve_right hne
    exact settled_reconnect h fun hne' => absurd hplayer hne'
  obtain ⟨hreuse, hkeeps⟩ := rest_reuse (rest_fill (rest_fill hrest 0) 1)
  exact ⟨hreuse, ((keeps_fill _ 0).trans (keeps_fill _ 1)).trans hkeeps⟩

theorem keeps_assign {self : GamepadInput} {candidates : List GamepadCandidate}
    (h : Ready (self, candidates)) : Keeps self (self.assign candidates).1 :=
  ((keeps_reconnect (self, candidates) 0).trans (keeps_reconnect _ 1)).trans (rest_assign h).2

/-! ### A remembered controller gets its slot back -/

section

variable {state : GamepadInput × List GamepadCandidate} {player : Fin 2}
    {candidate : GamepadCandidate}

/-- The slot holds the controller of a candidate. -/
def Holds (self : GamepadInput) (player : Fin 2) (candidate : GamepadCandidate) : Prop :=
  self.Connected player ∧ (self.gamepads player).path = candidate.path ∧
    (self.gamepads player).physicalPath = candidate.physicalPath

theorem Holds.keeps {before after : GamepadInput} (h : Holds before player candidate)
    (hkeeps : Keeps before after) : Holds after player candidate := by
  rw [Holds, hkeeps player h.1]
  exact ⟨hkeeps.connected h.1, h.2⟩

theorem holds_reconnect (h : Ready state) (hfree : ¬state.1.Connected player)
    (hmem : candidate ∈ state.2)
    (hport : candidate.physicalPath = (state.1.gamepads player).physicalPath) :
    Holds (reconnect state player).1 player candidate := by
  rcases reconnect_cases state player with ⟨-, hconnected | hunused | hsettled⟩ |
    ⟨found, hattach, hfound⟩
  · exact absurd hconnected hfree
  · exact absurd (hport.trans hunused) (h.in_port candidate hmem)
  · exact absurd hport (hsettled candidate hmem)
  · -- There is one candidate in this port only.
    have hsame : found = candidate :=
      List.inj_on_of_nodup_map h.distinct hattach.mem hmem (hfound.trans hport.symm)
    rw [Holds, hattach.2.1, hsame]
    exact ⟨connected_attach state.1 player candidate,
      (attachCandidate_self state.1 player candidate).2⟩

/-- The turn of another slot leaves the candidate and the slot. -/
theorem reconnect_other {turn : Fin 2} (hne : player ≠ turn) (hmem : candidate ∈ state.2)
    (hport : candidate.physicalPath ≠ (state.1.gamepads turn).physicalPath) :
    candidate ∈ (reconnect state turn).2 ∧
      (reconnect state turn).1.gamepads player = state.1.gamepads player := by
  rcases reconnect_cases state turn with ⟨hsame, -⟩ | ⟨found, hattach, hfound⟩
  · rw [hsame]
    exact ⟨hmem, rfl⟩
  · refine ⟨?_, hattach.of_ne hne⟩
    refine (List.mem_cons.1 (hattach.2.2.subset hmem)).resolve_left ?_
    intro heq
    exact hport (heq ▸ hfound)

/-- **A remembered controller gets its slot back.** -/
theorem holds_assign {self : GamepadInput} {candidates : List GamepadCandidate}
    (h : Ready (self, candidates)) (hfree : ¬self.Connected player) (hmem : candidate ∈ candidates)
    (hport : candidate.physicalPath = (self.gamepads player).physicalPath) :
    Holds (self.assign candidates).1 player candidate := by
  refine Holds.keeps ?_ (rest_assign h).2
  rcases player_cases player with rfl | rfl
  · exact (holds_reconnect h hfree hmem hport).keeps (keeps_reconnect _ 1)
  · have hnamed : (self.gamepads 1).physicalPath ≠ [] := hport ▸ h.in_port candidate hmem
    have hother : candidate.physicalPath ≠ (self.gamepads 0).physicalPath := by
      rw [hport]
      exact h.ports 1 0 (by decide) hnamed
    have hturn : (1 : Fin 2) ≠ 0 := by decide
    have hcandidate : candidate ∈ ((self, candidates) : GamepadInput × List GamepadCandidate).2 :=
      hmem
    obtain ⟨hstill, hslot⟩ := reconnect_other hturn hcandidate hother
    refine holds_reconnect (ready_reconnect h 0) ?_ hstill ?_
    · rw [Connected, hslot]
      exact hfree
    · rw [hslot]
      exact hport

end

/-! ### Passes with a connected slot -/

section

variable {self : GamepadInput} {candidates : List GamepadCandidate} {player other : Fin 2}

/-- A slot that is neither of two is not there. -/
theorem eq_of_ne (hne : player ≠ other) {one : Fin 2} (hone : one ≠ other) : one = player := by
  omega

theorem ne_of_connected (hconnected : self.Connected player) (hfree : ¬self.Connected other) :
    player ≠ other := fun heq => hfree (heq ▸ hconnected)

/-- With both slots connected the passes do nothing. -/
theorem assign_of_full (h : ∀ player, self.Connected player) (candidates : List GamepadCandidate) :
    self.assign candidates = (self, candidates) := by
  have hreconnect : ∀ player, reconnect (self, candidates) player = (self, candidates) :=
    fun player => reconnect_of_skip (Or.inl (h player))
  have hfill : ∀ player, fill (self, candidates) player = (self, candidates) :=
    fun player => fill_of_skip (Or.inl (h player))
  rw [assign_eq, hreconnect, hreconnect, hfill, hfill]
  exact reuse_of_full h candidates

/-- The turns of a connected slot do nothing. -/
theorem assign_of_connected (hconnected : self.Connected player) (hne : player ≠ other) :
    self.assign candidates =
      (fill (reconnect (self, candidates) other) other).1.reuse
        (fill (reconnect (self, candidates) other) other).2 := by
  have hreconnected : (reconnect (self, candidates) other).1.Connected player :=
    (keeps_reconnect (self, candidates) other).connected hconnected
  have hfilled : (fill (reconnect (self, candidates) other) other).1.Connected player :=
    (keeps_fill _ other).connected hreconnected
  rw [assign_eq]
  rcases player_cases player with rfl | rfl
  · have hother : other = 1 := by omega
    subst hother
    rw [reconnect_of_skip (Or.inl hconnected), fill_of_skip (Or.inl hreconnected)]
  · have hother : other = 0 := by omega
    subst hother
    rw [reconnect_of_skip (Or.inl hreconnected), fill_of_skip (Or.inl hfilled)]

/-- Once the free slot is attached nothing more happens. -/
theorem full_of_attaches {after : GamepadInput × List GamepadCandidate}
    {candidate : GamepadCandidate} (hconnected : self.Connected player) (hne : player ≠ other)
    (hattach : Attaches (self, candidates) after other candidate) :
    ∀ one, after.1.Connected one := by
  intro one
  by_cases hone : one = other
  · rw [hone, hattach.2.1]
    exact connected_attach self other candidate
  · rw [eq_of_ne hne hone]
    exact hattach.keeps.connected hconnected

/-- **What a free slot gets while the other one is connected**: the candidate in the port that it
remembers, or else the first one. -/
theorem assign_cases (hconnected : self.Connected player) (hfree : ¬self.Connected other)
    (hin : ∀ candidate ∈ candidates, candidate.physicalPath ≠ []) :
    (candidates = [] ∧ self.assign candidates = (self, [])) ∨
      ∃ candidate, Attaches (self, candidates) (self.assign candidates) other candidate ∧
        (candidate.physicalPath = (self.gamepads other).physicalPath ∨
          Settled (self, candidates) other ∧ candidates.head? = some candidate) := by
  have hne := ne_of_connected hconnected hfree
  rw [assign_of_connected hconnected hne]
  rcases reconnect_cases (self, candidates) other with ⟨hsame, hwhy⟩ | ⟨candidate, hattach, hport⟩
  · have hsettled : Settled (self, candidates) other := by
      rcases hwhy with hnot | hunused | hsettled
      · exact absurd hnot hfree
      · exact fun candidate hmem => hunused ▸ hin candidate hmem
      · exact hsettled
    rw [hsame]
    cases candidates with
    | nil =>
        refine Or.inl ⟨rfl, ?_⟩
        have hfill : fill (self, []) other = (self, []) := by
          rcases fill_cases (self, []) other with hnone | ⟨candidate, hattach⟩
          · exact hnone
          · exact absurd hattach.mem List.not_mem_nil
        rw [hfill]
        rfl
    | cons candidate candidates =>
        refine Or.inr ⟨candidate, ?_, Or.inr ⟨hsettled, rfl⟩⟩
        have hattach : Attaches (self, candidate :: candidates)
            (self.attachCandidate other candidate, candidates) other candidate :=
          ⟨hfree, rfl, List.Perm.refl _⟩
        have hfull := full_of_attaches hconnected hne hattach
        by_cases hport : (self.gamepads other).physicalPath = []
        · -- The second pass attaches the first candidate.
          rw [fill_of_not_skip (not_or.2 ⟨hfree, not_not.2 hport⟩)]
          dsimp only
          rwa [reuse_of_full hfull]
        · -- The third pass does.
          have hfirst : players.find? (fun one => !decide (self.Connected one)) = some other := by
            rcases player_cases other with rfl | rfl
            · simp [players_eq, hfree]
            · have hplayer : player = 0 := by omega
              subst hplayer
              simp [players_eq, hfree, hconnected]
          rw [fill_of_skip (Or.inr hport), reuse, hfirst]
          dsimp only
          rwa [reuse_of_full hfull]
  · refine Or.inr ⟨candidate, ?_, Or.inl hport⟩
    have hfull := full_of_attaches hconnected hne hattach
    rw [fill_of_skip (Or.inl (hfull other)), reuse_of_full hfull]
    exact hattach

end

/-! ### The loop over the directory -/

/-- A candidate without its descriptor. -/
def anonymousCandidate (candidate : GamepadCandidate) : GamepadCandidate :=
  { candidate with fd := 0 }

/-- The controller that a device is, if it is one. -/
def controllerOf (node : InputNode) : Option GamepadCandidate :=
  (axes node).map fun info =>
    { fd := 0
      path := devicePath node
      physicalPath := physicalPathOf node
      xInfo := info.1
      yInfo := info.2
      sync := node.sync }

/-- The candidate that a device is, if it is one. -/
def candidateOf (self : GamepadInput) (node : InputNode) : Option GamepadCandidate :=
  if isEventName node.name = true ∧ self.pathIsOpen (devicePath node) = false ∧
      node.openable = true then
    controllerOf node
  else none

/-- The controllers that a scan finds. -/
def found (self : GamepadInput) (directory : InputDirectory) : List GamepadCandidate :=
  directory.nodes.filterMap self.candidateOf

theorem candidateOf_eq_some {self : GamepadInput} {node : InputNode} {candidate : GamepadCandidate}
    (h : self.candidateOf node = some candidate) :
    self.pathIsOpen (devicePath node) = false ∧ candidate.fd = 0 ∧
      candidate.path = devicePath node ∧ candidate.physicalPath = physicalPathOf node := by
  rw [candidateOf, Option.ite_none_right_eq_some] at h
  obtain ⟨hopen, hcontroller⟩ := h
  obtain ⟨info, -, rfl⟩ := Option.map_eq_some_iff.1 hcontroller
  exact ⟨hopen.2.1, rfl, rfl, rfl⟩

/-- What one turn of the loop does. -/
theorem scanNode_cases (self : GamepadInput) (candidates : List GamepadCandidate)
    (node : InputNode) :
    (scanNode (self, candidates) node = (self, candidates) ∧ self.candidateOf node = none) ∨
      (scanNode (self, candidates) node =
          ({ self with opened := self.opened + 1, closed := self.closed ++ [self.opened] },
            candidates) ∧ self.candidateOf node = none) ∨
      ∃ candidate, self.candidateOf node = some candidate ∧
        scanNode (self, candidates) node =
          ({ self with opened := self.opened + 1 },
            candidates ++ [{ candidate with fd := self.opened }]) := by
  unfold scanNode candidateOf controllerOf
  dsimp only
  by_cases hname : isEventName node.name = true
  · by_cases hopen : self.pathIsOpen (devicePath node) = true
    · exact Or.inl (by simp [hopen])
    · by_cases hopenable : node.openable = true
      · cases haxes : axes node with
        | none => exact Or.inr (Or.inl (by simp [hname, hopen, hopenable]))
        | some info => exact Or.inr (Or.inr (by simp [hname, hopen, hopenable]))
      · exact Or.inl (by simp [hopenable])
  · exact Or.inl (by simp [hname])

/-- **The loop over the directory** leaves the slots alone, finds the candidates in their order, and
keeps account of the descriptors. -/
theorem scanNodes_spec (nodes : List InputNode) (self : GamepadInput)
    (candidates : List GamepadCandidate) :
    (nodes.foldl scanNode (self, candidates)).1.gamepads = self.gamepads ∧
      (nodes.foldl scanNode (self, candidates)).1.pad = self.pad ∧
      (nodes.foldl scanNode (self, candidates)).2.map anonymousCandidate =
        candidates.map anonymousCandidate ++ nodes.filterMap self.candidateOf ∧
      ∀ held : List ℕ, (held ++ self.closed ++ candidates.map GamepadCandidate.fd).Perm
          (List.range self.opened) →
        (held ++ (nodes.foldl scanNode (self, candidates)).1.closed ++
          (nodes.foldl scanNode (self, candidates)).2.map GamepadCandidate.fd).Perm
          (List.range (nodes.foldl scanNode (self, candidates)).1.opened) := by
  induction nodes generalizing self candidates with
  | nil => exact ⟨rfl, rfl, (List.append_nil _).symm, fun _ hledger => hledger⟩
  | cons node nodes ih =>
      rw [List.foldl_cons]
      rcases scanNode_cases self candidates node with ⟨hstep, hnone⟩ | ⟨hstep, hnone⟩ |
        ⟨candidate, hsome, hstep⟩
      · rw [hstep, List.filterMap_cons_none hnone]
        exact ih self candidates
      · rw [hstep, List.filterMap_cons_none hnone]
        obtain ⟨hgamepads, hpad, hcandidates, hledger⟩ :=
          ih { self with opened := self.opened + 1, closed := self.closed ++ [self.opened] }
            candidates
        refine ⟨hgamepads, hpad, hcandidates, fun held hperm => hledger held ?_⟩
        rw [List.range_succ]
        refine List.Perm.trans ?_ (hperm.append_right [self.opened])
        rw [← List.append_assoc, List.append_assoc (held ++ self.closed), List.append_assoc
          (held ++ self.closed)]
        exact List.perm_append_comm.append_left _
      · rw [hstep, List.filterMap_cons_some hsome]
        obtain ⟨hgamepads, hpad, hcandidates, hledger⟩ :=
          ih { self with opened := self.opened + 1 }
            (candidates ++ [{ candidate with fd := self.opened }])
        refine ⟨hgamepads, hpad, ?_, fun held hperm => hledger held ?_⟩
        · have hanonymous : anonymousCandidate { candidate with fd := self.opened } =
              candidate := by
            rw [anonymousCandidate, ← (candidateOf_eq_some hsome).2.1]
          rw [hcandidates, List.map_append, List.append_assoc, List.map_singleton, hanonymous]
          rfl
        · rw [List.range_succ, List.map_append, ← List.append_assoc]
          exact hperm.append_right [self.opened]

/-- A path is open if a connected slot has it. -/
theorem path_ne_of_pathIsOpen {self : GamepadInput} {path : Bytes}
    (h : self.pathIsOpen path = false)
    {player : Fin 2} (hconnected : self.Connected player) : path ≠ (self.gamepads player).path := by
  have hmem : player ∈ players := by
    rcases player_cases player with rfl | rfl
    · decide
    · decide
  have hclosed := List.any_eq_false.1 h player hmem
  intro heq
  exact hclosed (decide_eq_true ⟨hconnected, heq.symm⟩)

/-- A controller has a name for its port. -/
theorem physicalPathOf_ne_nil (node : InputNode) : physicalPathOf node ≠ [] := by
  unfold physicalPathOf
  split
  · exact List.cons_ne_nil _ _
  · exact fun h => absurd (List.append_eq_nil_iff.1 h).1 (by decide)

/-- The controllers that a scan finds are devices of their own. -/
theorem nodup_found (self : GamepadInput) (directory : InputDirectory) :
    ((self.found directory).map GamepadCandidate.path).Nodup := by
  have hnames := directory.nodup
  rw [List.Nodup, List.pairwise_map] at hnames
  rw [found, List.Nodup, List.pairwise_map, List.pairwise_filterMap]
  refine hnames.imp fun {node other} hne candidate hsome candidate' hsome' heq => hne ?_
  rw [(candidateOf_eq_some hsome).2.2.1, (candidateOf_eq_some hsome').2.2.1] at heq
  exact List.append_cancel_left heq

/-- The ports of the controllers that a scan finds. -/
def foundPorts (self : GamepadInput) (directory : InputDirectory) : List Bytes :=
  (self.found directory).map GamepadCandidate.physicalPath

/-- The controller of a slot is still there: in the directory under its name, and in its port. -/
def Attached (self : GamepadInput) (directory : InputDirectory) (player : Fin 2) : Prop :=
  ∃ node ∈ directory.nodes, (axes node).isSome = true ∧
    devicePath node = (self.gamepads player).path ∧
    physicalPathOf node = (self.gamepads player).physicalPath

/-- The controllers that are attached sit in ports of their own: those that the scan finds, and
those of the connected slots that are still there. -/
def Distinct (self : GamepadInput) : Event → Prop
  | .scan (some directory) =>
      (self.foundPorts directory).Nodup ∧
        ∀ player, self.Connected player → self.Attached directory player →
          (self.gamepads player).physicalPath ∉ self.foundPorts directory
  | .scan none => True
  | .disconnect _ => True

instance (self : GamepadInput) (directory : InputDirectory) (player : Fin 2) :
    Decidable (self.Attached directory player) :=
  inferInstanceAs (Decidable (∃ node ∈ directory.nodes, _))

instance (self : GamepadInput) (event : Event) : Decidable (self.Distinct event) :=
  match event with
  | .scan (some directory) =>
      inferInstanceAs (Decidable ((self.foundPorts directory).Nodup ∧
        ∀ player, self.Connected player → self.Attached directory player →
          (self.gamepads player).physicalPath ∉ self.foundPorts directory))
  | .scan none => isTrue trivial
  | .disconnect _ => isTrue trivial

/-- A slot is connected and the other one is not; among the ports are the one of the connected slot
and no earlier one, and not the one that the free slot remembers. -/
def TakesTwice (self : GamepadInput) (ports : List Bytes) : Prop :=
  ∃ player other, self.Connected player ∧ ¬self.Connected other ∧
    (self.gamepads player).physicalPath ∈ ports ∧
    ∀ port ∈ ports, port ≠ (self.gamepads other).physicalPath ∧
      (self.gamepads player).physicalPath ≤ port

/-- The free slot is given the controller that the connected slot still counts as its own. -/
def TakenTwice (self : GamepadInput) : Event → Prop
  | .scan (some directory) => self.TakesTwice (self.foundPorts directory)
  | .scan none => False
  | .disconnect _ => False

/-- The connected slot has lost its controller then: what the scan found came back in its port. -/
theorem exists_not_attached_of_takenTwice {self : GamepadInput} {directory : InputDirectory}
    (h : Distinct self (.scan (some directory)))
    (htwice : TakenTwice self (.scan (some directory))) :
    ∃ player, self.Connected player ∧ ¬self.Attached directory player ∧
      (self.gamepads player).physicalPath ∈ self.foundPorts directory := by
  obtain ⟨player, -, hconnected, -, hmem, -⟩ := htwice
  exact ⟨player, hconnected, fun hattached => h.2 player hconnected hattached hmem, hmem⟩

theorem fresh_found {self : GamepadInput} {directory : InputDirectory}
    (h : Distinct self (.scan (some directory))) : Fresh self (self.found directory) where
  distinct := h.1
  distinct_paths := nodup_found self directory
  in_port := by
    intro candidate hmem
    obtain ⟨node, -, hsome⟩ := List.mem_filterMap.1 hmem
    rw [(candidateOf_eq_some hsome).2.2.2]
    exact physicalPathOf_ne_nil node
  path_ne := by
    intro candidate hmem player hconnected
    obtain ⟨node, -, hsome⟩ := List.mem_filterMap.1 hmem
    rw [(candidateOf_eq_some hsome).2.2.1]
    exact path_ne_of_pathIsOpen (candidateOf_eq_some hsome).1 hconnected

/-- The descriptors and the order of the candidates do not matter. -/
theorem Fresh.of_perm {input after : GamepadInput} {candidates candidates' : List GamepadCandidate}
    (h : Fresh input candidates) (hgamepads : after.gamepads = input.gamepads)
    (hperm : (candidates'.map anonymousCandidate).Perm candidates) : Fresh after candidates' := by
  have hmem : ∀ candidate ∈ candidates', anonymousCandidate candidate ∈ candidates :=
    fun candidate hcandidate => hperm.subset (List.mem_map_of_mem hcandidate)
  have hconnected : ∀ player, after.Connected player → input.Connected player := by
    intro player hplayer
    rwa [Connected, hgamepads] at hplayer
  have hports := hperm.map GamepadCandidate.physicalPath
  have hpaths := hperm.map GamepadCandidate.path
  rw [List.map_map] at hports hpaths
  refine ⟨hports.nodup_iff.2 h.distinct, hpaths.nodup_iff.2 h.distinct_paths,
    fun candidate hcandidate =>
      h.in_port (anonymousCandidate candidate) (hmem candidate hcandidate),
    ?_⟩
  intro candidate hcandidate player hplayer
  rw [hgamepads]
  exact h.path_ne (anonymousCandidate candidate) (hmem candidate hcandidate) player
    (hconnected player hplayer)

theorem perm_sortCandidates (candidates : List GamepadCandidate) :
    (sortCandidates candidates).Perm candidates :=
  List.perm_insertionSort _ candidates

/-- The slots, and the candidates that a scan assigns to them. -/
def gathered (self : GamepadInput) (directory : InputDirectory) :
    GamepadInput × List GamepadCandidate :=
  ((directory.nodes.foldl scanNode (self, [])).1,
    sortCandidates (directory.nodes.foldl scanNode (self, [])).2)

/-- Nothing has changed in the slots. -/
theorem gathered_gamepads (self : GamepadInput) (directory : InputDirectory) :
    (self.gathered directory).1.gamepads = self.gamepads :=
  (scanNodes_spec directory.nodes self []).1

theorem gathered_connected (self : GamepadInput) (directory : InputDirectory) (player : Fin 2) :
    (self.gathered directory).1.Connected player ↔ self.Connected player := by
  rw [Connected, gathered_gamepads, Connected]

/-- The candidates are the controllers that the scan finds. -/
theorem perm_gathered (self : GamepadInput) (directory : InputDirectory) :
    ((self.gathered directory).2.map anonymousCandidate).Perm (self.found directory) := by
  have hsorted := perm_sortCandidates (directory.nodes.foldl scanNode (self, [])).2
  have hfound := hsorted.map anonymousCandidate
  rwa [(scanNodes_spec directory.nodes self []).2.2.1] at hfound

theorem perm_gathered_ports (self : GamepadInput) (directory : InputDirectory) :
    ((self.gathered directory).2.map GamepadCandidate.physicalPath).Perm
      (self.foundPorts directory) := by
  have hports := (perm_gathered self directory).map GamepadCandidate.physicalPath
  rwa [List.map_map] at hports

/-- The state in which a scan starts to assign slots. -/
theorem opened_gathered {self : GamepadInput} (hsound : Sound self) {directory : InputDirectory}
    (h : Distinct self (.scan (some directory))) : Opened (self.gathered directory) where
  ports := by
    rw [gathered_gamepads]
    exact hsound.ports
  paths := by
    simp only [gathered_connected, gathered_gamepads]
    exact hsound.paths
  named := by
    simp only [gathered_connected, gathered_gamepads]
    exact hsound.named
  toFresh := (fresh_found h).of_perm (gathered_gamepads self directory)
    (perm_gathered self directory)
  ledger := by
    have hclosed := (scanNodes_spec directory.nodes self []).2.2.2 self.descriptors
      (by simpa using hsound.ledger)
    have hsorted := perm_sortCandidates (directory.nodes.foldl scanNode (self, [])).2
    simp only [descriptors, gathered_gamepads]
    exact ((hsorted.map GamepadCandidate.fd).append_left _).trans hclosed

theorem takesTwice_gathered (self : GamepadInput) (directory : InputDirectory) :
    (self.gathered directory).1.TakesTwice
        ((self.gathered directory).2.map GamepadCandidate.physicalPath) ↔
      TakenTwice self (.scan (some directory)) := by
  simp only [TakenTwice, TakesTwice, gathered_connected, gathered_gamepads,
    (perm_gathered_ports self directory).mem_iff]

/-- The slots that a scan assigns, and the candidates that are left. -/
def outcome (self : GamepadInput) (directory : InputDirectory) :
    GamepadInput × List GamepadCandidate :=
  (self.gathered directory).1.assign (self.gathered directory).2

theorem scanGamepads_some (self : GamepadInput) (directory : InputDirectory) :
    self.scanGamepads (some directory) =
      { (self.outcome directory).1 with
        closed := (self.outcome directory).1.closed ++
          (self.outcome directory).2.map GamepadCandidate.fd } := by
  rw [outcome]
  rfl

/-! ### The order of the directory -/

/-- The slots without the numbers of their descriptors, which the order of the directory decides. -/
def anonymous (self : GamepadInput) : GamepadInput where
  gamepads := fun player =>
    { self.gamepads player with fd := (self.gamepads player).fd.map fun _ => 0 }
  pad := self.pad
  opened := 0
  closed := []

/-- A state within a scan without descriptors. -/
def anonymousState (state : GamepadInput × List GamepadCandidate) :
    GamepadInput × List GamepadCandidate :=
  (state.1.anonymous, state.2.map anonymousCandidate)

theorem anonymousState_mk (self : GamepadInput) (candidates : List GamepadCandidate) :
    anonymousState (self, candidates) = (self.anonymous, candidates.map anonymousCandidate) := rfl

theorem connected_anonymous (self : GamepadInput) (player : Fin 2) :
    self.anonymous.Connected player ↔ self.Connected player := by
  rw [Connected, Connected, anonymous, Option.isSome_map]

theorem anonymous_congr {self after : GamepadInput} (hgamepads : after.gamepads = self.gamepads)
    (hpad : after.pad = self.pad) : after.anonymous = self.anonymous := by
  rw [anonymous, anonymous, hgamepads, hpad]

theorem anonymous_setGamepad (self : GamepadInput) (player : Fin 2) (gamepad : GamepadDevice) :
    (self.setGamepad player gamepad).anonymous =
      self.anonymous.setGamepad player { gamepad with fd := gamepad.fd.map fun _ => 0 } := by
  have hgamepads : (self.setGamepad player gamepad).anonymous.gamepads =
      (self.anonymous.setGamepad player { gamepad with fd := gamepad.fd.map fun _ =>
        0 }).gamepads := by
    funext other
    by_cases hother : other = player
    · subst hother
      simp [anonymous, setGamepad]
    · simp [anonymous, setGamepad, Function.update_of_ne hother]
  rw [anonymous, setGamepad] at hgamepads ⊢
  exact congrArg (fun gamepads => (⟨gamepads, self.pad, 0, []⟩ : GamepadInput)) hgamepads

theorem anonymous_attach (self : GamepadInput) (player : Fin 2) (candidate : GamepadCandidate) :
    (self.attachCandidate player candidate).anonymous =
      self.anonymous.attachCandidate player (anonymousCandidate candidate) := by
  cases hsync : candidate.sync with
  | none =>
      have hleft : self.attachCandidate player candidate =
          self.setGamepad player candidate.gamepad := by
        rw [attachCandidate, hsync]
      have hright : self.anonymous.attachCandidate player (anonymousCandidate candidate) =
          self.anonymous.setGamepad player (anonymousCandidate candidate).gamepad := by
        rw [attachCandidate, anonymousCandidate, hsync]
      rw [hleft, hright]
      exact anonymous_setGamepad self player _
  | some answer =>
      have hleft : self.attachCandidate player candidate =
          (self.setGamepad player (candidate.gamepad.resynchronized answer)).publish := by
        rw [attachCandidate, hsync]
      have hright : self.anonymous.attachCandidate player (anonymousCandidate candidate) =
          (self.anonymous.setGamepad player
            ((anonymousCandidate candidate).gamepad.resynchronized answer)).publish := by
        rw [attachCandidate, anonymousCandidate, hsync]
      rw [hleft, hright]
      exact congrArg publish (anonymous_setGamepad self player _)

/-- **The first pass** does not look at descriptors. -/
theorem anonymous_reconnect (state : GamepadInput × List GamepadCandidate) (player : Fin 2) :
    anonymousState (reconnect state player) = reconnect (anonymousState state) player := by
  obtain ⟨self, candidates⟩ := state
  have hfind : (candidates.map anonymousCandidate).find? (remembers self.anonymous player) =
      (candidates.find? (remembers self player)).map anonymousCandidate := List.find?_map
  have herase : (candidates.map anonymousCandidate).eraseP (remembers self.anonymous player) =
      (candidates.eraseP (remembers self player)).map anonymousCandidate := List.eraseP_map
  by_cases hskip : self.Connected player ∨ (self.gamepads player).physicalPath = []
  · have hskip' : self.anonymous.Connected player ∨
        (self.anonymous.gamepads player).physicalPath = [] :=
      hskip.imp_left (connected_anonymous self player).2
    rw [reconnect_of_skip hskip, anonymousState_mk, reconnect_of_skip hskip']
  · have hskip' : ¬(self.anonymous.Connected player ∨
        (self.anonymous.gamepads player).physicalPath = []) :=
      fun h => hskip (h.imp_left (connected_anonymous self player).1)
    rw [anonymousState_mk self, reconnect_of_not_skip hskip, reconnect_of_not_skip hskip',
      hfind, herase]
    cases candidates.find? (remembers self player) with
    | none => rfl
    | some candidate => exact congrArg (Prod.mk · _) (anonymous_attach self player candidate)

/-- **The second pass.** -/
theorem anonymous_fill (state : GamepadInput × List GamepadCandidate) (player : Fin 2) :
    anonymousState (fill state player) = fill (anonymousState state) player := by
  obtain ⟨self, candidates⟩ := state
  by_cases hskip : self.Connected player ∨ (self.gamepads player).physicalPath ≠ []
  · have hskip' : self.anonymous.Connected player ∨
        (self.anonymous.gamepads player).physicalPath ≠ [] :=
      hskip.imp_left (connected_anonymous self player).2
    rw [fill_of_skip hskip, anonymousState_mk, fill_of_skip hskip']
  · have hskip' : ¬(self.anonymous.Connected player ∨
        (self.anonymous.gamepads player).physicalPath ≠ []) :=
      fun h => hskip (h.imp_left (connected_anonymous self player).1)
    rw [anonymousState_mk self, fill_of_not_skip hskip, fill_of_not_skip hskip']
    cases candidates with
    | nil => rfl
    | cons candidate candidates =>
        exact congrArg (Prod.mk · _) (anonymous_attach self player candidate)

/-- **The third pass.** -/
theorem anonymous_reuse (self : GamepadInput) (candidates : List GamepadCandidate) :
    anonymousState (self.reuse candidates) =
      self.anonymous.reuse (candidates.map anonymousCandidate) := by
  induction candidates generalizing self with
  | nil => rfl
  | cons candidate candidates ih =>
      rw [List.map_cons, reuse, reuse]
      simp only [connected_anonymous]
      cases players.find? fun player => !decide (self.Connected player) with
      | none =>
          dsimp only
          rw [← ih self]
          rfl
      | some player =>
          dsimp only
          rw [ih, anonymous_attach]

theorem anonymous_assign (self : GamepadInput) (candidates : List GamepadCandidate) :
    anonymousState (self.assign candidates) =
      self.anonymous.assign (candidates.map anonymousCandidate) := by
  have hpasses : anonymousState (fill (fill (reconnect (reconnect (self, candidates) 0) 1) 0) 1) =
      fill (fill (reconnect (reconnect (anonymousState (self, candidates)) 0) 1) 0) 1 := by
    rw [anonymous_fill, anonymous_fill, anonymous_reconnect, anonymous_reconnect]
  rw [assign_eq, anonymous_reuse, assign_eq]
  exact congrArg (fun state : GamepadInput × List GamepadCandidate => state.1.reuse state.2) hpasses

/-- The order of the candidates: by port, and by path within a port. -/
def Precedes (left right : GamepadCandidate) : Prop :=
  left.physicalPath < right.physicalPath ∨
    left.physicalPath = right.physicalPath ∧ left.path ≤ right.path

theorem candidateOrder_eq_false (left right : GamepadCandidate) :
    candidateOrder right left = false ↔ Precedes left right := by
  rw [candidateOrder, Precedes]
  split
  · next hne =>
      rw [decide_eq_false_iff_not, List.not_lt, List.le_iff_lt_or_eq]
      exact or_congr_right ⟨fun heq => absurd heq.symm hne, fun heq => absurd heq.1.symm hne⟩
  · next heq =>
      rw [not_not] at heq
      rw [decide_eq_false_iff_not, List.not_lt, heq]
      exact ⟨fun hle => Or.inr ⟨rfl, hle⟩, fun h => (h.resolve_left (List.lt_irrefl _)).2⟩

theorem Precedes.trans {left middle right : GamepadCandidate} (h : Precedes left middle)
    (h' : Precedes middle right) : Precedes left right := by
  rcases h with hlt | ⟨heq, hle⟩
  · rcases h' with hlt' | ⟨heq', -⟩
    · exact Or.inl (List.lt_trans hlt hlt')
    · exact Or.inl (heq' ▸ hlt)
  · rcases h' with hlt' | ⟨heq', hle'⟩
    · exact Or.inl (heq.symm ▸ hlt')
    · exact Or.inr ⟨heq.trans heq', List.le_trans hle hle'⟩

theorem precedes_total (left right : GamepadCandidate) :
    Precedes left right ∨ Precedes right left := by
  rcases List.le_total left.physicalPath right.physicalPath with h | h
  · rcases List.le_iff_lt_or_eq.1 h with hlt | heq
    · exact Or.inl (Or.inl hlt)
    · exact (List.le_total left.path right.path).imp (fun hle => Or.inr ⟨heq, hle⟩)
        fun hle => Or.inr ⟨heq.symm, hle⟩
  · rcases List.le_iff_lt_or_eq.1 h with hlt | heq
    · exact Or.inr (Or.inl hlt)
    · exact (List.le_total left.path right.path).imp (fun hle => Or.inr ⟨heq.symm, hle⟩)
        fun hle => Or.inr ⟨heq, hle⟩

theorem Precedes.path_eq {left right : GamepadCandidate} (h : Precedes left right)
    (h' : Precedes right left) : left.path = right.path := by
  rcases h with hlt | ⟨heq, hle⟩
  · rcases h' with hlt' | ⟨heq', -⟩
    · exact absurd hlt' (List.lt_asymm hlt)
    · exact absurd (heq' ▸ hlt) (List.lt_irrefl _)
  · rcases h' with hlt' | ⟨-, hle'⟩
    · exact absurd (heq ▸ hlt') (List.lt_irrefl _)
    · exact List.le_antisymm hle hle'

theorem pairwise_sortCandidates (candidates : List GamepadCandidate) :
    (sortCandidates candidates).Pairwise Precedes := by
  have htotal : Std.Total fun left right : GamepadCandidate =>
      candidateOrder right left = false := by
    refine ⟨?_⟩
    intro left right
    rw [candidateOrder_eq_false, candidateOrder_eq_false]
    exact precedes_total left right
  have htrans : IsTrans GamepadCandidate fun left right => candidateOrder right left = false := by
    refine ⟨?_⟩
    intro left middle right
    rw [candidateOrder_eq_false, candidateOrder_eq_false, candidateOrder_eq_false]
    exact Precedes.trans
  refine (List.pairwise_insertionSort (fun left right => candidateOrder right left = false)
    candidates).imp fun {left right} h => ?_
  exact (candidateOrder_eq_false left right).1 h

/-- **Candidates in another order are sorted alike**, when their paths differ. -/
theorem sortCandidates_congr {candidates candidates' : List GamepadCandidate}
    (hperm : candidates.Perm candidates') (hnodup : (candidates.map GamepadCandidate.path).Nodup) :
    sortCandidates candidates = sortCandidates candidates' := by
  have hsorted := ((perm_sortCandidates candidates).trans hperm).trans
    (perm_sortCandidates candidates').symm
  refine hsorted.eq_of_pairwise ?_ (pairwise_sortCandidates candidates)
    (pairwise_sortCandidates candidates')
  intro left right hleft hright hle hge
  refine List.inj_on_of_nodup_map hnodup ?_ ?_ (hle.path_eq hge)
  · exact (perm_sortCandidates candidates).subset hleft
  · exact hperm.symm.subset ((perm_sortCandidates candidates').subset hright)

/-- The descriptors do not matter for the order. -/
theorem map_sortCandidates (candidates : List GamepadCandidate) :
    (sortCandidates candidates).map anonymousCandidate =
      sortCandidates (candidates.map anonymousCandidate) :=
  List.map_insertionSort _ _ anonymousCandidate candidates fun _ _ _ _ => Iff.rfl

/-- **A scan depends on the slots and on the controllers that it finds**, descriptors apart. -/
theorem anonymous_scan (self : GamepadInput) (directory : InputDirectory) :
    (self.scanGamepads (some directory)).anonymous =
      (self.anonymous.assign (sortCandidates (self.found directory))).1 := by
  obtain ⟨hgamepads, hpad, hcandidates, -⟩ := scanNodes_spec directory.nodes self []
  have hassign := anonymous_assign (directory.nodes.foldl scanNode (self, [])).1
    (sortCandidates (directory.nodes.foldl scanNode (self, [])).2)
  rw [map_sortCandidates, hcandidates, anonymous_congr hgamepads hpad] at hassign
  exact congrArg Prod.fst hassign

/-- **The order of the directory does not matter.** -/
theorem scan_reordered (self : GamepadInput) {directory other : InputDirectory}
    (h : directory.nodes.Perm other.nodes) :
    (self.scanGamepads (some directory)).anonymous =
    (self.scanGamepads (some other)).anonymous := by
  have hfound : (self.found directory).Perm (self.found other) := h.filterMap self.candidateOf
  rw [anonymous_scan, anonymous_scan, sortCandidates_congr hfound (nodup_found self directory)]

/-! ### The passes, ports of connected slots included -/

section

variable {self : GamepadInput} {candidates : List GamepadCandidate} {player other : Fin 2}

/-- The first candidate sits in the first port. -/
theorem head_le (hsorted : candidates.Pairwise Precedes) {first : GamepadCandidate}
    (hfirst : candidates.head? = some first) {candidate : GamepadCandidate}
    (hmem : candidate ∈ candidates) : first.physicalPath ≤ candidate.physicalPath := by
  cases candidates with
  | nil => cases hfirst
  | cons head candidates =>
      obtain rfl : head = first := Option.some.inj hfirst
      rcases List.mem_cons.1 hmem with rfl | htail
      · exact List.le_refl _
      · rcases (List.pairwise_cons.1 hsorted).1 candidate htail with hlt | ⟨heq, -⟩
        · exact List.le_of_lt hlt
        · exact heq ▸ List.le_refl _

/-- **What the passes do if no controller is taken twice.** -/
structure Assigned (input : GamepadInput) (candidates : List GamepadCandidate) : Prop where
  sound : Opened (input.assign candidates)
  keeps : Keeps input (input.assign candidates).1
  holds : ∀ candidate ∈ candidates, ∀ player, ¬input.Connected player →
    candidate.physicalPath = (input.gamepads player).physicalPath →
      Holds (input.assign candidates).1 player candidate

theorem assigned_of_ready (h : Ready (self, candidates)) : Assigned self candidates where
  sound := (rest_assign h).1.toOpened
  keeps := keeps_assign h
  holds := fun _ hmem _ hfree hport => holds_assign h hfree hmem hport

theorem assigned_of_full (h : Opened (self, candidates)) (hfull : ∀ player, self.Connected player) :
    Assigned self candidates where
  sound := by
    rw [assign_of_full hfull]
    exact h
  keeps := by
    rw [assign_of_full hfull]
    exact Keeps.refl self
  holds := fun _ _ player hfree => absurd (hfull player) hfree

/-- A slot is connected, and a candidate sits in its port. -/
theorem assigned_of_connected (h : Opened (self, candidates))
    (hsorted : candidates.Pairwise Precedes)
    (hnot : ¬self.TakesTwice (candidates.map GamepadCandidate.physicalPath))
    (hconnected : self.Connected player) (hfree : ¬self.Connected other)
    (hmem : (self.gamepads player).physicalPath ∈ candidates.map GamepadCandidate.physicalPath) :
    Assigned self candidates := by
  have hne := ne_of_connected hconnected hfree
  rcases assign_cases hconnected hfree h.in_port with ⟨hnil, -⟩ | ⟨candidate, hattach, hwhy⟩
  · obtain rfl : candidates = [] := hnil
    exact absurd hmem List.not_mem_nil
  -- What is attached sits in another port than the connected slot.
  · have hport : (self.gamepads player).physicalPath ≠ candidate.physicalPath := by
      rcases hwhy with hremembered | ⟨hsettled, hfirst⟩
      · rw [hremembered]
        exact h.ports player other hne (h.named player hconnected)
      · intro heq
        refine hnot ⟨player, other, hconnected, hfree, hmem, ?_⟩
        intro port hport
        obtain ⟨rival, hrival, rfl⟩ := List.mem_map.1 hport
        rw [heq]
        exact ⟨hsettled rival hrival, head_le hsorted hfirst hrival⟩
    refine ⟨h.attach hattach ?_, hattach.keeps, ?_⟩
    · intro one hone
      rw [eq_of_ne hne hone]
      exact hport
    · intro wanted hwanted one hone hin
      have hother : one = other := by
        by_contra hnot
        exact hone (eq_of_ne hne hnot ▸ hconnected)
      subst hother
      have hsame : candidate = wanted := by
        rcases hwhy with hremembered | ⟨hsettled, -⟩
        · exact List.inj_on_of_nodup_map h.distinct hattach.mem hwanted (hremembered.trans hin.symm)
        · exact absurd hin (hsettled wanted hwanted)
      rw [Holds, hattach.2.1, hsame]
      exact ⟨connected_attach self one wanted, (attachCandidate_self self one wanted).2⟩

/-- **The passes are sound if no controller is taken twice.** -/
theorem assigned_of_not_takesTwice (h : Opened (self, candidates))
    (hsorted : candidates.Pairwise Precedes)
    (hnot : ¬self.TakesTwice (candidates.map GamepadCandidate.physicalPath)) :
    Assigned self candidates := by
  by_cases hreturned : ∃ player, self.Connected player ∧
      (self.gamepads player).physicalPath ∈ candidates.map GamepadCandidate.physicalPath
  · obtain ⟨player, hconnected, hmem⟩ := hreturned
    by_cases hfull : ∀ one, self.Connected one
    · exact assigned_of_full h hfull
    · obtain ⟨other, hfree⟩ := not_forall.1 hfull
      exact assigned_of_connected h hsorted hnot hconnected hfree hmem
  · refine assigned_of_ready ⟨h, ?_⟩
    intro candidate hmem player hconnected heq
    exact hreturned ⟨player, hconnected, heq ▸ List.mem_map_of_mem hmem⟩

/-- **A controller is taken twice**: the other slot is given the port of the connected one. -/
theorem doubled_of_takesTwice (h : Opened (self, candidates))
    (hsorted : candidates.Pairwise Precedes)
    (htwice : self.TakesTwice (candidates.map GamepadCandidate.physicalPath)) :
    ∃ player other, player ≠ other ∧ (self.assign candidates).1.Connected player ∧
      (self.assign candidates).1.Connected other ∧
      ((self.assign candidates).1.gamepads player).physicalPath =
        ((self.assign candidates).1.gamepads other).physicalPath := by
  obtain ⟨player, other, hconnected, hfree, hmem, hports⟩ := htwice
  have hne := ne_of_connected hconnected hfree
  obtain ⟨returned, hreturned, hport⟩ := List.mem_map.1 hmem
  rcases assign_cases hconnected hfree h.in_port with ⟨hnil, -⟩ | ⟨candidate, hattach, hwhy⟩
  · obtain rfl : candidates = [] := hnil
    exact absurd hreturned List.not_mem_nil
  · have hle := hports candidate.physicalPath (List.mem_map_of_mem hattach.mem)
    have hfirst : candidates.head? = some candidate :=
      (hwhy.resolve_left hle.1).2
    have heq : (self.gamepads player).physicalPath = candidate.physicalPath := by
      refine List.le_antisymm hle.2 ?_
      rw [← hport]
      exact head_le hsorted hfirst hreturned
    have hfull := full_of_attaches hconnected hne hattach
    refine ⟨player, other, hne, hfull player, hfull other, ?_⟩
    rw [hattach.of_ne hne, hattach.physicalPath]
    exact heq

end

/-! ### One event -/

theorem sound_initial (kbOpen : Bool) : Sound (initial kbOpen) where
  ports := fun player _ _ hnamed => absurd rfl hnamed
  paths := fun player _ _ hconnected => by cases hconnected
  named := fun player hconnected => by cases hconnected
  ledger := List.Perm.refl []

theorem assigned_gathered {self : GamepadInput} (hsound : Sound self) {directory : InputDirectory}
    (h : Distinct self (.scan (some directory)))
    (hnot : ¬TakenTwice self (.scan (some directory))) :
    Assigned (self.gathered directory).1 (self.gathered directory).2 :=
  assigned_of_not_takesTwice (opened_gathered hsound h) (pairwise_sortCandidates _)
    fun htwice => hnot ((takesTwice_gathered self directory).1 htwice)

/-- A scan closes what it did not give to a slot. -/
theorem sound_scan {self : GamepadInput} (hsound : Sound self) {directory : InputDirectory}
    (h : Distinct self (.scan (some directory)))
    (hnot : ¬TakenTwice self (.scan (some directory))) :
    Sound (self.scanGamepads (some directory)) := by
  have hafter : Opened (self.outcome directory) := (assigned_gathered hsound h hnot).sound
  rw [scanGamepads_some]
  refine ⟨⟨hafter.ports, hafter.paths, hafter.named⟩, ?_⟩
  have hledger := hafter.ledger
  rwa [List.append_assoc] at hledger

/-- What a disconnection does to the slots. -/
theorem closeGamepad_self (self : GamepadInput) (player : Fin 2) :
    (self.closeGamepad player true).gamepads player = (self.gamepads player).closed true := by
  rw [closeGamepad, publish_gamepads]
  exact setGamepad_self self player _

theorem closeGamepad_of_ne (self : GamepadInput) {player other : Fin 2} (h : other ≠ player) :
    (self.closeGamepad player true).gamepads other = self.gamepads other := by
  rw [closeGamepad, publish_gamepads]
  exact setGamepad_of_ne self h _

theorem not_connected_closeGamepad (self : GamepadInput) (player : Fin 2) :
    ¬(self.closeGamepad player true).Connected player := by
  rw [Connected, closeGamepad_self]
  exact Bool.false_ne_true

/-- The ports are remembered. -/
theorem closeGamepad_physicalPath (self : GamepadInput) (player other : Fin 2) :
    ((self.closeGamepad player true).gamepads other).physicalPath =
      (self.gamepads other).physicalPath := by
  by_cases hother : other = player
  · rw [hother, closeGamepad_self]
    rfl
  · rw [closeGamepad_of_ne self hother]

/-- A slot that is connected after a disconnection is another one. -/
theorem ne_of_connected_closeGamepad {self : GamepadInput} {player other : Fin 2}
    (h : (self.closeGamepad player true).Connected other) : other ≠ player :=
  fun heq => not_connected_closeGamepad self player (heq ▸ h)

theorem connected_of_closeGamepad {self : GamepadInput} {player other : Fin 2}
    (h : (self.closeGamepad player true).Connected other) : self.Connected other := by
  rwa [Connected, closeGamepad_of_ne self (ne_of_connected_closeGamepad h)] at h

theorem sound_disconnect {self : GamepadInput} (h : Sound self) {player : Fin 2}
    (hconnected : self.Connected player) : Sound (self.closeGamepad player true) where
  ports := by
    simp only [closeGamepad_physicalPath]
    exact h.ports
  paths := by
    intro one other hne hone hother
    rw [closeGamepad_of_ne self (ne_of_connected_closeGamepad hone),
      closeGamepad_of_ne self (ne_of_connected_closeGamepad hother)]
    exact h.paths one other hne (connected_of_closeGamepad hone) (connected_of_closeGamepad hother)
  named := by
    intro one hone
    rw [closeGamepad_physicalPath]
    exact h.named one (connected_of_closeGamepad hone)
  ledger := by
    obtain ⟨fd, hfd⟩ := Option.isSome_iff_exists.1 hconnected
    have hfree : ((self.closeGamepad player true).gamepads player).fd = none := by
      rw [closeGamepad_self]
      rfl
    have hother : ∀ other, other ≠ player →
        ((self.closeGamepad player true).gamepads other).fd = (self.gamepads other).fd :=
      fun other hne => by rw [closeGamepad_of_ne self hne]
    have hclosed : (self.closeGamepad player true).closed = self.closed ++ [fd] := by
      rw [closeGamepad, publish_closed, hfd]
      rfl
    have hmoved : self.descriptors.Perm (fd :: (self.closeGamepad player true).descriptors) := by
      rcases player_cases player with rfl | rfl
      · simp only [descriptors, players_eq, List.filterMap_cons, List.filterMap_nil, hfd, hfree,
          hother 1 (by decide)]
        rfl
      · simp only [descriptors, players_eq, List.filterMap_cons, List.filterMap_nil, hfd, hfree,
          hother 0 (by decide)]
        cases (self.gamepads 0).fd with
        | none => rfl
        | some first => exact List.Perm.swap _ _ _
    rw [hclosed]
    refine List.Perm.trans ?_ h.ledger
    -- The descriptor of the slot goes over to the closed ones.
    refine List.Perm.trans ?_ (hmoved.symm.append_right self.closed)
    rw [← List.append_assoc]
    exact List.perm_append_comm

/-- **An event keeps the invariant** if no controller is taken twice. -/
theorem sound_react {self : GamepadInput} (hsound : Sound self) {event : Event}
    (h : Distinct self event) (hnot : ¬TakenTwice self event) : Sound (self.react event) := by
  cases event with
  | scan directory =>
      cases directory with
      | none => exact hsound
      | some directory => exact sound_scan hsound h hnot
  | disconnect player =>
      rw [react]
      split
      · next hconnected => exact sound_disconnect hsound hconnected
      · exact hsound

/-! ### What an event may do -/

/-- A descriptor belongs to exactly one slot and is open, or it was closed once. -/
def Accounted (self : GamepadInput) (fd : ℕ) : Prop :=
  (fd ∉ self.closed ∧ ∃! player, (self.gamepads player).fd = some fd) ∨
    (self.closed.count fd = 1 ∧ ∀ player, (self.gamepads player).fd ≠ some fd)

/-- **What one event may do to the slots.** -/
structure Lawful (before : GamepadInput) (event : Event) : Prop where
  /-- A connected controller stays where it is. -/
  kept : ∀ player, before.Connected player → event ≠ .disconnect player →
    (before.react event).gamepads player = before.gamepads player
  /-- A slot that is disconnected remembers the port. -/
  remembered : ∀ player, event = .disconnect player →
    ¬(before.react event).Connected player ∧
      ((before.react event).gamepads player).physicalPath = (before.gamepads player).physicalPath
  /-- No controller has both slots. -/
  separate : ∀ player other, player ≠ other → (before.react event).Connected player →
    (before.react event).Connected other →
      ((before.react event).gamepads player).fd ≠ ((before.react event).gamepads other).fd ∧
      ((before.react event).gamepads player).path ≠ ((before.react event).gamepads other).path ∧
      ((before.react event).gamepads player).physicalPath ≠
        ((before.react event).gamepads other).physicalPath
  /-- A controller that is found in the port that a slot remembers gets this slot. -/
  reunited : ∀ directory, event = .scan (some directory) →
    ∀ candidate ∈ before.found directory, ∀ player, ¬before.Connected player →
      candidate.physicalPath = (before.gamepads player).physicalPath →
        Holds (before.react event) player candidate
  /-- The order of the directory does not matter. -/
  reordered : ∀ directory other : InputDirectory, event = .scan (some directory) →
    directory.nodes.Perm other.nodes →
      (before.react event).anonymous = (before.react (.scan (some other))).anonymous
  /-- No descriptor is leaked or closed twice. -/
  accounted : ∀ fd < (before.react event).opened, Accounted (before.react event) fd

theorem mem_descriptors {self : GamepadInput} {fd : ℕ} :
    fd ∈ self.descriptors ↔ ∃ player, (self.gamepads player).fd = some fd := by
  rw [descriptors, List.mem_filterMap]
  constructor
  · rintro ⟨player, -, hfd⟩
    exact ⟨player, hfd⟩
  · rintro ⟨player, hfd⟩
    refine ⟨player, ?_, hfd⟩
    rcases player_cases player with rfl | rfl
    · decide
    · decide

/-- Two slots do not share a descriptor. -/
theorem Sound.fd_ne {self : GamepadInput} (h : Sound self) {player other : Fin 2}
    (hne : player ≠ other) (hconnected : self.Connected player) :
    (self.gamepads player).fd ≠ (self.gamepads other).fd := by
  intro heq
  obtain ⟨fd, hfd⟩ := Option.isSome_iff_exists.1 hconnected
  have hfd' : (self.gamepads other).fd = some fd := heq.symm.trans hfd
  have hboth : (self.gamepads 0).fd = some fd ∧ (self.gamepads 1).fd = some fd := by
    rcases player_cases player with rfl | rfl
    · rcases player_cases other with rfl | rfl
      · exact absurd rfl hne
      · exact ⟨hfd, hfd'⟩
    · rcases player_cases other with rfl | rfl
      · exact ⟨hfd', hfd⟩
      · exact absurd rfl hne
  have hdescriptors : self.descriptors = [fd, fd] := by
    simp only [descriptors, players_eq, List.filterMap_cons, List.filterMap_nil, hboth.1, hboth.2]
  have hnodup := (h.ledger.nodup_iff.2 List.nodup_range).of_append_left
  rw [hdescriptors] at hnodup
  exact absurd (List.mem_singleton_self fd) (List.nodup_cons.1 hnodup).1

/-- **Every descriptor is accounted for.** -/
theorem Sound.accounted {self : GamepadInput} (h : Sound self) {fd : ℕ} (hfd : fd < self.opened) :
    Accounted self fd := by
  have hnodup : (self.descriptors ++ self.closed).Nodup := h.ledger.nodup_iff.2 List.nodup_range
  have hdisjoint := List.disjoint_of_nodup_append hnodup
  have hmem := h.ledger.symm.subset (List.mem_range.2 hfd)
  rcases List.mem_append.1 hmem with hheld | hclosed
  · obtain ⟨player, hplayer⟩ := mem_descriptors.1 hheld
    refine Or.inl ⟨hdisjoint hheld, player, hplayer, ?_⟩
    intro other hother
    by_contra hne
    have hconnected : self.Connected other := by
      rw [Connected, hother]
      rfl
    exact h.fd_ne hne hconnected (hother.trans hplayer.symm)
  · refine Or.inr ⟨List.count_eq_one_of_mem hnodup.of_append_right hclosed, ?_⟩
    intro player hplayer
    exact hdisjoint (mem_descriptors.2 ⟨player, hplayer⟩) hclosed

/-- A scan leaves the connected slots alone. -/
theorem keeps_scan {self : GamepadInput} (hsound : Sound self) {directory : InputDirectory}
    (h : Distinct self (.scan (some directory)))
    (hnot : ¬TakenTwice self (.scan (some directory))) :
    Keeps self (self.scanGamepads (some directory)) := by
  have hkeeps := (assigned_gathered hsound h hnot).keeps
  intro player hconnected
  have hconnected' := (gathered_connected self directory player).2 hconnected
  exact (hkeeps player hconnected').trans (congrFun (gathered_gamepads self directory) player)

theorem holds_scan {self : GamepadInput} (hsound : Sound self) {directory : InputDirectory}
    (h : Distinct self (.scan (some directory)))
    (hnot : ¬TakenTwice self (.scan (some directory))) {candidate : GamepadCandidate}
    (hmem : candidate ∈ self.found directory) {player : Fin 2} (hfree : ¬self.Connected player)
    (hport : candidate.physicalPath = (self.gamepads player).physicalPath) :
    Holds (self.scanGamepads (some directory)) player candidate := by
  obtain ⟨opened, hopened, rfl⟩ :=
    List.mem_map.1 ((perm_gathered self directory).symm.subset hmem)
  have hfree' : ¬(self.gathered directory).1.Connected player :=
    fun hconnected => hfree ((gathered_connected self directory player).1 hconnected)
  have hport' : opened.physicalPath =
      ((self.gathered directory).1.gamepads player).physicalPath := by
    rw [gathered_gamepads]
    exact hport
  -- The descriptor of the candidate does not matter.
  change Holds _ player opened
  exact (assigned_gathered hsound h hnot).holds opened hopened player hfree' hport'

/-- **An event is lawful** if no controller is taken twice. -/
theorem lawful_react {self : GamepadInput} (hsound : Sound self) {event : Event}
    (h : Distinct self event) (hnot : ¬TakenTwice self event) : Lawful self event where
  kept := by
    intro player hconnected hevent
    cases event with
    | scan directory =>
        cases directory with
        | none => rfl
        | some directory => exact keeps_scan hsound h hnot player hconnected
    | disconnect other =>
        have hne : player ≠ other := fun heq => hevent (congrArg Event.disconnect heq.symm)
        rw [react]
        split
        · exact closeGamepad_of_ne self hne
        · rfl
  remembered := by
    rintro player rfl
    rw [react]
    split
    · exact ⟨not_connected_closeGamepad self player, closeGamepad_physicalPath self player player⟩
    · next hfree => exact ⟨hfree, rfl⟩
  separate := by
    intro player other hne hconnected hother
    have hafter := sound_react hsound h hnot
    exact ⟨hafter.fd_ne hne hconnected, hafter.paths player other hne hconnected hother,
      hafter.ports player other hne (hafter.named player hconnected)⟩
  reunited := by
    rintro directory rfl candidate hmem player hfree hport
    exact holds_scan hsound h hnot hmem hfree hport
  reordered := by
    rintro directory other rfl hperm
    exact scan_reordered self hperm
  accounted := fun fd hfd => (sound_react hsound h hnot).accounted hfd

/-- **An event is not lawful** if a controller is taken twice: it has both slots then. -/
theorem not_takenTwice_of_lawful {self : GamepadInput} (hsound : Sound self) {event : Event}
    (h : Distinct self event) (hlawful : Lawful self event) : ¬TakenTwice self event := by
  intro htwice
  cases event with
  | scan directory =>
      cases directory with
      | none => exact htwice
      | some directory =>
          obtain ⟨player, other, hne, hconnected, hother, hport⟩ :=
            doubled_of_takesTwice (opened_gathered hsound h) (pairwise_sortCandidates _)
              ((takesTwice_gathered self directory).2 htwice)
          exact (hlawful.separate player other hne hconnected hother).2.2 hport
  | disconnect player => exact htwice

theorem lawful_iff_of_sound (events : List Event) {self : GamepadInput} (hsound : Sound self)
    (h : Run.Each react Distinct self events) :
    Run.Each react Lawful self events ↔
      Run.Each react (fun state event => ¬TakenTwice state event) self events := by
  induction events generalizing self with
  | nil => exact Iff.rfl
  | cons event events ih =>
      obtain ⟨hdistinct, hrest⟩ := (Run.each_cons event events).1 h
      rw [Run.each_cons, Run.each_cons]
      constructor
      · rintro ⟨hlawful, hevents⟩
        have hnot := not_takenTwice_of_lawful hsound hdistinct hlawful
        exact ⟨hnot, (ih (sound_react hsound hdistinct hnot) hrest).1 hevents⟩
      · rintro ⟨hnot, hevents⟩
        exact ⟨lawful_react hsound hdistinct hnot,
          (ih (sound_react hsound hdistinct hnot) hrest).2 hevents⟩

/-- A controller in a port. -/
def controllerNode (name port : Bytes) : InputNode where
  name := name
  openable := true
  id := some (kTheGamepadVendor, kTheGamepadProduct)
  xInfo := some ⟨0, -128, 127⟩
  yInfo := some ⟨0, -128, 127⟩
  physicalPath := some port
  sync := some ⟨fun _ => false, ⟨0, -128, 127⟩, ⟨0, -128, 127⟩⟩

/-- Two controllers. -/
def twoControllers : InputDirectory where
  nodes := [controllerNode (ascii "event4") (ascii "usb-1.2"),
    controllerNode (ascii "event3") (ascii "usb-1.1")]
  nodup := by decide

/-- One controller in the first port, by the name of its device. -/
def oneController (name : Bytes) : InputDirectory where
  nodes := [controllerNode name (ascii "usb-1.1")]
  nodup := List.nodup_singleton name

end GamepadInput

end NesDeck
