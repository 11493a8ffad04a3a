/-
**The game of ten seconds.**

A tap on the screen, or the button A of a controller, starts the timer and stops it again; who stops
it at ten seconds has won. The main loop draws a picture when there is a new one, waits for the
input, and handles it. While the timer runs the time is drawn again every 16 milliseconds. The sound
is played by a process of its own, and a sound that would begin before the last one has ended is
left out.

A stopwatch, that knows nothing of pictures and polling, says what the game is about.

Main definitions:

* `NesDeck.TenSeconds.Game` — the variables of `main`, with its two halves `Game.draw` and
  `Game.handle`;
* `NesDeck.TenSeconds.Session` — a run, with the presses that were taken and all that the clock
  said;
* `NesDeck.TenSeconds.Stopwatch` — what the presses mean.

Main results:

* `NesDeck.TenSeconds.result_eq_exact_iff` — who has won;
* `NesDeck.TenSeconds.Session.touch_run` — the taps of a run are those of its stream of events;
* `NesDeck.TenSeconds.Session.screen_follows` — **whenever the game waits for the input, its screen
  shows what the stopwatch says**, and the running time is never 16 milliseconds old.
-/

import NesDeck.MenuGamepads
import NesDeck.TouchAgreement

set_option relaxedAutoImplicit false
set_option autoImplicit false

namespace NesDeck.TenSeconds

open HostFile (Bytes ascii)
open MenuGamepads (Arrival GamepadRead KernelState Poll)

def kCentisecondNanoseconds : ℤ := 10000000

def kRedrawNanoseconds : ℤ := 16000000

/-! ### The picture -/

/-- `%02u` of a number below 100. -/
def twoDigits (number : ℕ) : Bytes :=
  [UInt8.ofNat (0x30 + number / 10), UInt8.ofNat (0x30 + number % 10)]

/-- `TenSecondsFormat`. -/
def tenSecondsFormat (centiseconds : ℕ) : Bytes :=
  let centiseconds := min centiseconds 9999
  twoDigits (centiseconds / 100) ++ ascii "." ++ twoDigits (centiseconds % 100)

inductive TimerState where
  | ready
  | running
  | stopped
  deriving DecidableEq

/-- What `render_timer` draws: the digits, whether they are green, the result, and what to do
next. -/
structure Picture where
  shown : Bytes
  success : Bool
  result : Bytes
  instruction : Bytes
  deriving DecidableEq

/-- The result below the digits. -/
def resultOf (displayed : ℕ) : Bytes :=
  if displayed = 1000 then ascii "EXACT"
  else if displayed < 1000 then tenSecondsFormat (1000 - displayed) ++ ascii " EARLY"
  else tenSecondsFormat (displayed - 1000) ++ ascii " LATE"

def renderTimer (state : TimerState) (displayed : ℕ) : Picture where
  shown := tenSecondsFormat displayed
  success := decide (state = .stopped ∧ displayed = 1000)
  result := if state = .stopped then resultOf displayed else []
  instruction :=
    match state with
    | .ready => ascii "TAP OR A TO START"
    | .running => ascii "TAP OR A TO STOP"
    | .stopped => ascii "TAP OR A FOR ANOTHER TRY"

/-! ### The controllers -/

/-- `GamepadDevice` with an open descriptor. -/
structure Pad where
  aDown : Bool
  reportedADown : Bool
  dropping : Bool
  deriving DecidableEq

/-- `resynchronize`, which is nothing where the kernel does not answer. -/
def Pad.resynchronize (kernel : Option KernelState) : Option Pad :=
  kernel.map fun kernel =>
    ⟨kernel.keys MenuGamepads.BTN_THUMB2, kernel.keys MenuGamepads.BTN_THUMB2, false⟩

/-- A pad that is not dropping events receives one. -/
def Pad.receive (pad : Pad) (pressed : Bool) (event : MenuGamepads.InputEvent) : Pad × Bool :=
  if event.isDropped = true then ({ pad with dropping := true }, pressed)
  else if event.type = MenuGamepads.EV_KEY ∧ event.code = MenuGamepads.BTN_THUMB2 then
    ({ pad with aDown := decide (event.value ≠ 0) }, pressed)
  else if event.isReport = true then
    ({ pad with reportedADown := pad.aDown }, pressed || (pad.aDown && !pad.reportedADown))
  else (pad, pressed)

/-- The loop over the events of a `read`; without a pad the drain has failed. -/
def Pad.drainEvents (pad : Pad) (pressed : Bool) : List Arrival → Option Pad × Bool
  | [] => (some pad, pressed)
  | arrival :: arrivals =>
      if pad.dropping = true then
        if arrival.event.isReport = true then
          match resynchronize arrival.kernel with
          | none => (none, pressed)
          | some pad => drainEvents pad pressed arrivals
        else drainEvents pad pressed arrivals
      else
        let received := pad.receive pressed arrival.event
        drainEvents received.1 received.2 arrivals

/-- `drain`; after the last outcome a `read` would block. -/
def Pad.drain (pad : Pad) (pressed : Bool) : List GamepadRead → Option Pad × Bool
  | [] => (some pad, pressed)
  | .interrupted :: reads => drain pad pressed reads
  | .failed :: _ => (none, pressed)
  | .events first rest :: reads =>
      match drainEvents pad pressed (first :: rest) with
      | (none, pressed) => (none, pressed)
      | (some pad, pressed) => drain pad pressed reads

/-- `read_ready` on the open pads and their descriptors: the pads that stay open, and whether A was
pressed. -/
def readReady (pressed : Bool) : List Pad → List Poll → List Pad × Bool
  | [], _ => ([], pressed)
  | pad :: pads, [] => (pad :: pads, pressed)
  | pad :: pads, poll :: polls =>
      if poll.readable = false ∧ poll.broken = false then
        let rest := readReady pressed pads polls
        (pad :: rest.1, rest.2)
      else if poll.readable = true then
        let drained := pad.drain pressed poll.reads
        let rest := readReady drained.2 pads polls
        (drained.1.toList ++ rest.1, rest.2)
      else readReady pressed pads polls

/-! ### The sounds -/

inductive GameSoundCue where
  | start
  | exact
  | miss
  deriving DecidableEq

/-- `GameSoundPlayer`, with the cue that the process plays, if there is one. -/
structure GameSoundPlayer where
  volumePercent : ℕ
  child : Option GameSoundCue

/-- A press: the time, and what the calls of the sound return. -/
structure Press where
  pressedAt : ℤ
  ended : Bool
  forked : Bool

namespace GameSoundPlayer

/-- `reap_finished`. -/
def reapFinished (player : GameSoundPlayer) (ended : Bool) : GameSoundPlayer :=
  if ended = true then { player with child := none } else player

def play (player : GameSoundPlayer) (cue : GameSoundCue) (press : Press) : GameSoundPlayer :=
  if player.volumePercent = 0 then player
  else
    let player := player.reapFinished press.ended
    if player.child.isSome = true then player
    else if press.forked = true then { player with child := some cue }
    else player

end GameSoundPlayer

/-! ### The main loop -/

/-- The variables of `main`, and the picture on the screen. -/
structure Game where
  state : TimerState
  startedAt : ℤ
  nextRedraw : ℤ
  displayed : ℕ
  dirty : Bool
  touch : TenSecondsTouch
  pads : List Pad
  sound : GameSoundPlayer
  screen : Option Picture

/-- The hundredths of a second that the timer shows. -/
def centiseconds (startedAt now : ℤ) : ℕ :=
  (min 9999 (max 0 (now - startedAt) / kCentisecondNanoseconds)).toNat

/-- What `poll` returns, and the input that is there. -/
inductive Polled where
  | failed
  | interrupted
  | quiet
  | ready (polls : List Poll) (touch : Option (List ReadResult)) (presses : ℕ → Press)

/-- A round of the loop: whether a signal came before it, whether a sound has ended, the time,
whether the picture can be shown, and the input. -/
structure Round where
  shutdown : Bool
  ended : Bool
  now : ℤ
  presented : Bool
  polled : Polled

/-- `is_back_press`. -/
def isBackPress (press : TouchPress) : Bool :=
  decide (16 ≤ press.x ∧ press.x < 168 ∧ 16 ≤ press.y ∧ press.y < 80)

namespace Game

def start (opening : Opening) (pads : List Pad) (volumePercent : ℕ) : Game where
  state := .ready
  startedAt := 0
  nextRedraw := 0
  displayed := 0
  dirty := true
  touch := TenSecondsTouch.discover opening
  pads := pads
  sound := ⟨volumePercent, none⟩
  screen := none

/-- `activate_timer`. -/
def activateTimer (game : Game) (press : Press) : Game :=
  if game.state = .running then
    let displayed := centiseconds game.startedAt press.pressedAt
    { game with
      displayed := displayed
      state := .stopped
      sound := game.sound.play (if displayed = 1000 then .exact else .miss) press
      dirty := true }
  else
    { game with
      startedAt := press.pressedAt
      nextRedraw := press.pressedAt
      displayed := 0
      state := .running
      sound := game.sound.play .start press
      dirty := true }

/-- The time of a running timer is taken again when it is due. -/
def refresh (game : Game) (now : ℤ) : Game :=
  if game.state = .running ∧ game.nextRedraw ≤ now then
    { game with
      displayed := centiseconds game.startedAt now
      nextRedraw := now + kRedrawNanoseconds
      dirty := true }
  else game

/-- A picture that has changed is shown. -/
def present (game : Game) (presented : Bool) : Option Game :=
  if game.dirty = true then
    if presented = true then
      some { game with screen := some (renderTimer game.state game.displayed), dirty := false }
    else none
  else some game

/-- The loop as far as the picture; it ends where the picture cannot be shown. -/
def draw (game : Game) (round : Round) : Option Game :=
  (({ game with sound := game.sound.reapFinished round.ended } : Game).refresh round.now).present
    round.presented

/-- The input as the loop has read it: the devices, whether A was pressed, and the taps, unless the
touch screen fails. -/
structure Input where
  pads : List Pad
  controllerA : Bool
  touch : TenSecondsTouch
  taps : List TouchPress
  error : Option String

def readInput (game : Game) (polls : List Poll) (touch : Option (List ReadResult)) : Input :=
  let ready := readReady false game.pads polls
  match touch with
  | none => ⟨ready.1, ready.2, game.touch, [], none⟩
  | some reads =>
      let read := game.touch.readPresses reads
      ⟨ready.1, ready.2, read.1, read.2.1, read.2.2⟩

/-- How many presses the input is. -/
def Input.count (input : Input) : ℕ :=
  if input.controllerA = true then 1 else input.taps.length

/-- The loop from `poll` on: the game, the taps, the presses that were taken, and the result of
`main`, if this is the end. -/
def handle (game : Game) : Polled → Game × List TouchPress × List Press × Option ℕ
  | .failed => (game, [], [], some 1)
  | .interrupted => (game, [], [], none)
  | .quiet => (game, [], [], none)
  | .ready polls touch presses =>
      let input := game.readInput polls touch
      let game := { game with pads := input.pads, touch := input.touch }
      if input.error.isSome = true then (game, input.taps, [], some 1)
      else if input.taps.any isBackPress = true then (game, input.taps, [], some 0)
      else
        let taken := (List.range input.count).map presses
        (taken.foldl activateTimer game, input.taps, taken, none)

end Game

/-- A run: the game, the result of `main` once it has ended, the taps that were read, the presses
that were taken, and all that the clock said. -/
structure Session where
  game : Game
  exit : Option ℕ
  taps : List TouchPress
  presses : List Press
  clock : List ℤ

namespace Session

def start (opening : Opening) (pads : List Pad) (volumePercent : ℕ) : Session :=
  ⟨Game.start opening pads volumePercent, none, [], [], []⟩

/-- A round of the loop. -/
def step (session : Session) (round : Round) : Session :=
  if session.exit.isSome = true then session
  else if round.shutdown = true then { session with exit := some 0 }
  else
    let clock := session.clock ++ [round.now]
    match session.game.draw round with
    | none => { session with exit := some 1, clock := clock }
    | some game =>
        let (game, taps, taken, exit) := game.handle round.polled
        ⟨game, exit, session.taps ++ taps, session.presses ++ taken,
          clock ++ taken.map Press.pressedAt⟩

end Session

/-! ### The stopwatch -/

/-- What the game is about: nothing yet, a time that runs since a press, or the score of two. -/
inductive Stopwatch where
  | ready
  | running (since : ℤ)
  | stopped (score : ℕ)

namespace Stopwatch

def press (watch : Stopwatch) (time : ℤ) : Stopwatch :=
  match watch with
  | ready => running time
  | running since => stopped (centiseconds since time)
  | stopped _ => running time

/-- The picture is right at this time. -/
def Shows (watch : Stopwatch) (now : ℤ) (picture : Picture) : Prop :=
  match watch with
  | ready => picture = renderTimer .ready 0
  | running since => ∃ time, since ≤ time ∧ time ≤ now ∧ now < time + kRedrawNanoseconds ∧
      picture = renderTimer .running (centiseconds since time)
  | stopped score => picture = renderTimer .stopped score

end Stopwatch

/-- The stopwatch after some presses. -/
def watchAfter (presses : List Press) : Stopwatch :=
  presses.foldl (fun watch press => watch.press press.pressedAt) .ready

/-! ### The result -/

theorem length_tenSecondsFormat (centiseconds : ℕ) :
    (tenSecondsFormat centiseconds).length = 5 := rfl

/-- **Who has won**: who stops the timer in the hundredth of a second that follows the ten
seconds. -/
theorem result_eq_exact_iff (since time : ℤ) :
    (renderTimer .stopped (centiseconds since time)).result = ascii "EXACT" ↔
      10000000000 ≤ time - since ∧ time - since < 10010000000 := by
  have hresult : (renderTimer .stopped (centiseconds since time)).result =
      resultOf (centiseconds since time) := rfl
  have hexact : resultOf (centiseconds since time) = ascii "EXACT" ↔
      centiseconds since time = 1000 := by
    rw [resultOf]
    split
    next h => exact iff_of_true rfl h
    next h =>
      refine iff_of_false ?_ h
      split
      · intro heq
        have hlength := congrArg List.length heq
        rw [List.length_append, length_tenSecondsFormat] at hlength
        exact absurd hlength (by decide)
      · intro heq
        have hlength := congrArg List.length heq
        rw [List.length_append, length_tenSecondsFormat] at hlength
        exact absurd hlength (by decide)
  rw [hresult, hexact, centiseconds, kCentisecondNanoseconds]
  omega

/-! ### A press -/

/-- The timer is what the stopwatch says, and the screen shows it unless a new picture is due. The
time that a running timer shows was taken at most 16 milliseconds before it is due again. -/
structure Follows (watch : Stopwatch) (clock : List ℤ) (game : Game) : Prop where
  timer : match watch with
    | .ready => game.state = .ready ∧ game.displayed = 0
    | .running since => game.state = .running ∧ game.startedAt = since ∧ since ∈ clock ∧
        (game.nextRedraw = since ∧ game.dirty = true ∨
          ∃ time ∈ clock, since ≤ time ∧ game.nextRedraw = time + kRedrawNanoseconds ∧
            game.displayed = centiseconds since time)
    | .stopped score => game.state = .stopped ∧ game.displayed = score
  synced : game.dirty = false → game.screen = some (renderTimer game.state game.displayed)

namespace Follows

variable {watch : Stopwatch} {clock : List ℤ} {game : Game}

/-- The clock goes on. -/
theorem mono (h : Follows watch clock game) (later : List ℤ) :
    Follows watch (clock ++ later) game := by
  refine ⟨?_, h.synced⟩
  have htimer := h.timer
  cases watch with
  | ready => exact htimer
  | running since =>
      obtain ⟨hstate, hstarted, hsince, hnext⟩ := htimer
      refine ⟨hstate, hstarted, List.mem_append_left _ hsince, ?_⟩
      refine hnext.imp_right ?_
      rintro ⟨time, htime, hrest⟩
      exact ⟨time, List.mem_append_left _ htime, hrest⟩
  | stopped score => exact htimer

/-- The devices and the sound play no part. -/
theorem congr (h : Follows watch clock game) {game' : Game} (hstate : game'.state = game.state)
    (hstarted : game'.startedAt = game.startedAt) (hnext : game'.nextRedraw = game.nextRedraw)
    (hdisplayed : game'.displayed = game.displayed) (hdirty : game'.dirty = game.dirty)
    (hscreen : game'.screen = game.screen) : Follows watch clock game' := by
  refine ⟨?_, ?_⟩
  · rw [hstate, hstarted, hnext, hdisplayed, hdirty]
    exact h.timer
  · rw [hdirty, hscreen, hstate, hdisplayed]
    exact h.synced

/-- **A press starts the timer or stops it.** -/
theorem activate (h : Follows watch clock game) (press : Press) :
    Follows (watch.press press.pressedAt) (clock ++ [press.pressedAt])
      (game.activateTimer press) := by
  have hnow : press.pressedAt ∈ clock ++ [press.pressedAt] :=
    List.mem_append_right _ (List.mem_singleton_self _)
  have htimer := h.timer
  rw [Game.activateTimer]
  cases watch with
  | ready =>
      rw [if_neg (by rw [htimer.1]; decide)]
      exact ⟨⟨rfl, rfl, hnow, Or.inl ⟨rfl, rfl⟩⟩, fun hdirty => by cases hdirty⟩
  | running since =>
      rw [if_pos htimer.1]
      dsimp only
      exact ⟨⟨rfl, by rw [htimer.2.1]⟩, fun hdirty => by cases hdirty⟩
  | stopped score =>
      rw [if_neg (by rw [htimer.1]; decide)]
      exact ⟨⟨rfl, rfl, hnow, Or.inl ⟨rfl, rfl⟩⟩, fun hdirty => by cases hdirty⟩

/-- The presses of a round, one after the other. -/
theorem activateAll (taken : List Press) (h : Follows watch clock game) :
    Follows (taken.foldl (fun watch press => watch.press press.pressedAt) watch)
      (clock ++ taken.map Press.pressedAt) (taken.foldl Game.activateTimer game) := by
  induction taken generalizing watch clock game with
  | nil =>
      rw [List.map_nil, List.append_nil]
      exact h
  | cons press taken ih =>
      have hrest := ih (h.activate press)
      rw [List.append_assoc] at hrest
      exact hrest

/-! ### The picture -/

/-- **The time of a running timer is not 16 milliseconds old** once it was looked at. -/
theorem refresh (h : Follows watch clock game) {now : ℤ} (hclock : ∀ time ∈ clock, time ≤ now) :
    Follows watch (clock ++ [now]) (game.refresh now) ∧
      ∀ since, watch = .running since → ∃ time ∈ clock ++ [now],
        since ≤ time ∧ time ≤ now ∧ now < time + kRedrawNanoseconds ∧
          (game.refresh now).nextRedraw = time + kRedrawNanoseconds ∧
            (game.refresh now).displayed = centiseconds since time := by
  have hnow : now ∈ clock ++ [now] := List.mem_append_right _ (List.mem_singleton_self _)
  have htimer := h.timer
  rw [Game.refresh]
  split
  next hdue =>
    cases watch with
    | ready => rw [htimer.1] at hdue; exact absurd hdue.1 (by decide)
    | running since =>
        obtain ⟨hstate, hstarted, hsince, -⟩ := htimer
        have hdisplayed : centiseconds game.startedAt now = centiseconds since now := by
          rw [hstarted]
        refine ⟨⟨⟨hstate, hstarted, List.mem_append_left _ hsince,
          Or.inr ⟨now, hnow, hclock _ hsince, rfl, hdisplayed⟩⟩, fun hdirty => by cases hdirty⟩, ?_⟩
        rintro _ ⟨rfl⟩
        refine ⟨now, hnow, hclock _ hsince, le_refl _, ?_, rfl, hdisplayed⟩
        rw [kRedrawNanoseconds]
        omega
    | stopped score => rw [htimer.1] at hdue; exact absurd hdue.1 (by decide)
  next hdue =>
    refine ⟨h.mono [now], ?_⟩
    rintro since rfl
    obtain ⟨hstate, -, hsince, hnext⟩ := htimer
    have hlate : now < game.nextRedraw := not_le.1 fun hlate => hdue ⟨hstate, hlate⟩
    rcases hnext with ⟨hfirst, -⟩ | ⟨time, htime, hle, hnext, hdisplayed⟩
    · have hpast := hclock _ hsince
      omega
    · exact ⟨time, List.mem_append_left _ htime, hle, hclock _ htime, hnext ▸ hlate,
        hnext, hdisplayed⟩

/-- What is on the screen before the loop waits. -/
theorem draw_eq {round : Round} {drawn : Game} (hdraw : game.draw round = some drawn)
    (hsynced : ∀ refreshed, refreshed = Game.refresh
      { game with sound := game.sound.reapFinished round.ended } round.now →
        refreshed.dirty = false → refreshed.screen =
          some (renderTimer refreshed.state refreshed.displayed)) :
    ∃ refreshed, refreshed = Game.refresh
        { game with sound := game.sound.reapFinished round.ended } round.now ∧
      drawn = { refreshed with
        screen := some (renderTimer refreshed.state refreshed.displayed), dirty := false } := by
  refine ⟨_, rfl, ?_⟩
  rw [Game.draw, Game.present] at hdraw
  split at hdraw
  · split at hdraw
    · exact (Option.some.inj hdraw).symm
    · cases hdraw
  next hclean =>
    have hdirty := Bool.eq_false_iff.2 hclean
    rw [← hsynced _ rfl hdirty, ← hdirty]
    exact (Option.some.inj hdraw).symm

/-- **The picture that is drawn is right.** -/
theorem draw (h : Follows watch clock game) {round : Round}
    (hclock : ∀ time ∈ clock, time ≤ round.now)
    {drawn : Game} (hdraw : game.draw round = some drawn) :
    Follows watch (clock ++ [round.now]) drawn ∧
      ∃ picture, drawn.screen = some picture ∧ watch.Shows round.now picture := by
  have hquiet : Follows watch clock { game with sound := game.sound.reapFinished round.ended } :=
    h.congr rfl rfl rfl rfl rfl rfl
  obtain ⟨hfollows, hnext⟩ := hquiet.refresh hclock
  obtain ⟨refreshed, hrefreshed, rfl⟩ := draw_eq hdraw (fun _ heq => heq ▸ hfollows.synced)
  rw [← hrefreshed] at hfollows hnext
  have htimer := hfollows.timer
  refine ⟨⟨?_, fun _ => rfl⟩, _, rfl, ?_⟩
  · cases watch with
    | ready => exact htimer
    | running since =>
        obtain ⟨time, htime, hle, -, -, hdue, hdisplayed⟩ := hnext since rfl
        exact ⟨htimer.1, htimer.2.1, htimer.2.2.1, Or.inr ⟨time, htime, hle, hdue, hdisplayed⟩⟩
    | stopped score => exact htimer
  · cases watch with
    | ready => rw [htimer.1, htimer.2]; rfl
    | running since =>
        obtain ⟨time, -, hle, hpast, hlate, -, hdisplayed⟩ := hnext since rfl
        rw [htimer.1, hdisplayed]
        exact ⟨time, hle, hpast, hlate, rfl⟩
    | stopped score => rw [htimer.1, htimer.2]; rfl

end Follows

/-! ### The taps -/

/-- An event adds its press to those that are there. -/
theorem handleEvent_eq (touch : TenSecondsTouch) (taps : List TouchPress) (event : InputEvent) :
    TenSecondsTouch.handleEvent (touch, taps) event =
      ((TenSecondsTouch.handleEvent (touch, []) event).1,
        taps ++ (TenSecondsTouch.handleEvent (touch, []) event).2) := by
  refine Prod.ext ?_ ?_
  · rw [TenSecondsTouch.handleEvent, TenSecondsTouch.handleEvent]
    dsimp only
    split_ifs <;> rfl
  · rw [TouchReaders.tenSeconds_presses, TouchReaders.tenSeconds_presses, List.nil_append]

theorem foldl_handleEvent (events : List InputEvent) (touch : TenSecondsTouch)
    (taps : List TouchPress) :
    events.foldl TenSecondsTouch.handleEvent (touch, taps) =
      ((events.foldl TenSecondsTouch.handleEvent (touch, [])).1,
        taps ++ (events.foldl TenSecondsTouch.handleEvent (touch, [])).2) := by
  induction events generalizing touch taps with
  | nil => rw [List.foldl_nil, List.foldl_nil, List.append_nil]
  | cons event events ih =>
      rw [List.foldl_cons, List.foldl_cons, handleEvent_eq touch taps,
        ih _ (taps ++ (TenSecondsTouch.handleEvent (touch, []) event).2),
        ← Prod.mk.eta (p := TenSecondsTouch.handleEvent (touch, []) event),
        ih _ (TenSecondsTouch.handleEvent (touch, []) event).2, List.append_assoc]

/-- The events of the touch screen that a round reads. -/
def Round.events (round : Round) : List InputEvent :=
  match round.polled with
  | .ready _ (some reads) _ => delivered reads
  | _ => []

theorem readInput_touch (game : Game) (polls : List Poll) (touch : Option (List ReadResult)) :
    ((game.readInput polls touch).touch, (game.readInput polls touch).taps) =
      ((touch.map delivered).getD []).foldl TenSecondsTouch.handleEvent (game.touch, []) := by
  cases touch with
  | none => rfl
  | some reads => exact drain_eq TenSecondsTouch.handleEvent (game.touch, []) reads

theorem activateTimer_touch (game : Game) (press : Press) :
    (game.activateTimer press).touch = game.touch := by
  rw [Game.activateTimer]
  split
  · rfl
  · rfl

theorem activateTimer_pads (game : Game) (press : Press) :
    (game.activateTimer press).pads = game.pads := by
  rw [Game.activateTimer]
  split
  · rfl
  · rfl

/-- Presses leave the devices alone. -/
theorem activateAll_devices (taken : List Press) (game : Game) :
    (taken.foldl Game.activateTimer game).touch = game.touch ∧
      (taken.foldl Game.activateTimer game).pads = game.pads := by
  induction taken generalizing game with
  | nil => exact ⟨rfl, rfl⟩
  | cons press taken ih =>
      rw [List.foldl_cons, (ih _).1, (ih _).2]
      exact ⟨activateTimer_touch game press, activateTimer_pads game press⟩

/-- So does the picture. -/
theorem draw_devices {game drawn : Game} {round : Round} (hdraw : game.draw round = some drawn) :
    drawn.touch = game.touch ∧ drawn.pads = game.pads := by
  have hrefresh : ∀ game' : Game, (game'.refresh round.now).touch = game'.touch ∧
      (game'.refresh round.now).pads = game'.pads := by
    intro game'
    rw [Game.refresh]
    split
    · exact ⟨rfl, rfl⟩
    · exact ⟨rfl, rfl⟩
  obtain ⟨htouch, hpads⟩ := hrefresh { game with sound := game.sound.reapFinished round.ended }
  rw [Game.draw, Game.present] at hdraw
  split at hdraw
  · split at hdraw
    · obtain rfl := Option.some.inj hdraw
      exact ⟨htouch, hpads⟩
    · cases hdraw
  · obtain rfl := Option.some.inj hdraw
    exact ⟨htouch, hpads⟩

/-! ### A run -/

namespace Session

/-- A round that does not end the game, in its two halves. -/
theorem step_cases {session : Session} {round : Round} (h : (session.step round).exit = none) :
    session.exit = none ∧ ∃ drawn game taps taken,
      session.game.draw round = some drawn ∧ drawn.handle round.polled = (game, taps, taken, none) ∧
        session.step round = ⟨game, none, session.taps ++ taps, session.presses ++ taken,
          session.clock ++ [round.now] ++ taken.map Press.pressedAt⟩ := by
  rw [step] at h ⊢
  split at h
  next hexit => rw [h] at hexit; cases hexit
  next hexit =>
  rw [if_neg hexit]
  refine ⟨by simpa using hexit, ?_⟩
  split at h
  · cases h
  next hgo =>
  rw [if_neg hgo]
  dsimp only at h ⊢
  split at h
  · cases h
  next drawn hdraw =>
  rw [hdraw]
  generalize hhandle : drawn.handle round.polled = handled at h ⊢
  obtain ⟨game, taps, taken, exit⟩ := handled
  dsimp only at h ⊢
  subst h
  exact ⟨drawn, game, taps, taken, rfl, hhandle, rfl⟩

/-- What the input does to a game that goes on. -/
theorem handle_cases {drawn game : Game} {polled : Polled} {taps : List TouchPress}
    {taken : List Press} (h : drawn.handle polled = (game, taps, taken, none)) :
    game = drawn ∧ taps = [] ∧ taken = [] ∧
      (∀ polls touch presses, polled ≠ .ready polls touch presses) ∨
      ∃ polls touch presses, polled = .ready polls touch presses ∧
        (drawn.readInput polls touch).error = none ∧ taps = (drawn.readInput polls touch).taps ∧
          taken = (List.range (drawn.readInput polls touch).count).map presses ∧
            game = taken.foldl Game.activateTimer { drawn with
              pads := (drawn.readInput polls touch).pads,
              touch := (drawn.readInput polls touch).touch } := by
  cases polled with
  | failed => rw [Game.handle] at h; simp at h
  | interrupted =>
      rw [Game.handle] at h
      obtain ⟨rfl, rfl, rfl, -⟩ := by simpa using h
      exact Or.inl ⟨rfl, rfl, rfl, fun _ _ _ => nofun⟩
  | quiet =>
      rw [Game.handle] at h
      obtain ⟨rfl, rfl, rfl, -⟩ := by simpa using h
      exact Or.inl ⟨rfl, rfl, rfl, fun _ _ _ => nofun⟩
  | ready polls touch presses =>
      refine Or.inr ⟨polls, touch, presses, rfl, ?_⟩
      rw [Game.handle] at h
      dsimp only at h
      split at h
      · simp at h
      next herror =>
      split at h
      · simp at h
      · obtain ⟨rfl, rfl, rfl, -⟩ := by simpa using h
        exact ⟨by simpa using herror, rfl, rfl, rfl⟩

/-- **The run follows the stopwatch.** -/
theorem follows_run (opening : Opening) (pads : List Pad) (volumePercent : ℕ) (rounds : List Round)
    (h : (rounds.foldl step (start opening pads volumePercent)).exit = none)
    (hclock : (rounds.foldl step (start opening pads volumePercent)).clock.Pairwise (· ≤ ·)) :
    Follows (watchAfter (rounds.foldl step (start opening pads volumePercent)).presses)
      (rounds.foldl step (start opening pads volumePercent)).clock
        (rounds.foldl step (start opening pads volumePercent)).game := by
  induction rounds using List.reverseRecOn with
  | nil => exact ⟨⟨rfl, rfl⟩, fun hdirty => by cases hdirty⟩
  | append_singleton rounds round ih =>
      rw [List.foldl_append] at h hclock ⊢
      rw [List.foldl_cons, List.foldl_nil] at h hclock ⊢
      generalize rounds.foldl step (start opening pads volumePercent) = session at h hclock ih ⊢
      obtain ⟨hexit, drawn, game, taps, taken, hdraw, hhandle, hstep⟩ := step_cases h
      rw [hstep] at hclock ⊢
      dsimp only at hclock ⊢
      have hbefore := (List.pairwise_append.1 hclock).1
      have hsession := ih hexit (List.pairwise_append.1 hbefore).1
      have hpast : ∀ time ∈ session.clock, time ≤ round.now := fun time htime =>
        (List.pairwise_append.1 hbefore).2.2 time htime _ (List.mem_singleton_self _)
      have hdrawn := (hsession.draw hpast hdraw).1
      rw [watchAfter, List.foldl_append]
      rcases handle_cases hhandle with ⟨rfl, -, rfl, -⟩ | ⟨polls, touch, presses, -, -, -, -, rfl⟩
      · exact hdrawn.activateAll []
      · exact Follows.activateAll taken (hdrawn.congr rfl rfl rfl rfl rfl rfl)

/-- **Whenever the game waits for the input, its screen shows what the stopwatch says**: that it is
ready, how long it has been running not 16 milliseconds ago, or the score of the last two
presses. -/
theorem screen_follows (opening : Opening) (pads : List Pad) (volumePercent : ℕ)
    (rounds : List Round)
    (round : Round) (h : (rounds.foldl step (start opening pads volumePercent)).exit = none)
    (hclock : ((rounds.foldl step (start opening pads volumePercent)).clock ++
      [round.now]).Pairwise (· ≤ ·))
    {drawn : Game}
    (hdraw : (rounds.foldl step (start opening pads volumePercent)).game.draw round = some drawn) :
    ∃ picture, drawn.screen = some picture ∧
      (watchAfter (rounds.foldl step (start opening pads volumePercent)).presses).Shows round.now
        picture := by
  have hbefore := (List.pairwise_append.1 hclock).1
  have hpast : ∀ time ∈ (rounds.foldl step (start opening pads volumePercent)).clock,
      time ≤ round.now :=
    fun time htime => (List.pairwise_append.1 hclock).2.2 time htime _ (List.mem_singleton_self _)
  exact ((follows_run opening pads volumePercent rounds h hbefore).draw hpast hdraw).2

/-- A tap in the middle of the screen. -/
def sampleTap : List InputEvent :=
  [TouchReaders.plainEvent EV_ABS ABS_X 600, TouchReaders.plainEvent EV_KEY BTN_TOUCH 1,
    TouchReaders.plainEvent EV_SYN SYN_REPORT 0]

/-- The first round, with a tap six milliseconds after the start. -/
def sampleRound : Round :=
  ⟨false, false, 5000000, true, .ready [] (some [.events sampleTap]) fun _ =>
    ⟨6000000, false, true⟩⟩

/-- The picture after it. -/
theorem screen_follows_tap :
    ∃ drawn picture,
      ([sampleRound].foldl step (start ⟨0, 200, none⟩ [] 50)).game.draw
          ⟨false, false, 22000000, true, .quiet⟩ = some drawn ∧
        drawn.screen = some picture ∧
          (watchAfter ([sampleRound].foldl step (start ⟨0, 200, none⟩ [] 50)).presses).Shows
            22000000
            picture := by
  have hdrawn : (([sampleRound].foldl step (start ⟨0, 200, none⟩ [] 50)).game.draw
      ⟨false, false, 22000000, true, .quiet⟩).isSome = true := rfl
  obtain ⟨drawn, hdraw⟩ := Option.isSome_iff_exists.1 hdrawn
  obtain ⟨picture, hscreen, hshows⟩ := screen_follows ⟨0, 200, none⟩ [] 50 [sampleRound]
    ⟨false, false, 22000000, true, .quiet⟩ rfl (by decide) hdraw
  exact ⟨drawn, picture, hdraw, hscreen, hshows⟩

/-- **It does not matter how the events of the touch screen are cut into reads and rounds**: the
taps of a run are those of all its events, and without controllers every one of them is a press. -/
theorem taps_run (opening : Opening) (pads : List Pad) (volumePercent : ℕ) (rounds : List Round)
    (h : (rounds.foldl step (start opening pads volumePercent)).exit = none) :
    ((rounds.foldl step (start opening pads volumePercent)).game.touch,
        (rounds.foldl step (start opening pads volumePercent)).taps) =
      (rounds.flatMap Round.events).foldl TenSecondsTouch.handleEvent
        (TenSecondsTouch.discover opening, []) ∧
    (pads = [] →
      (rounds.foldl step (start opening pads volumePercent)).game.pads = [] ∧
        (rounds.foldl step (start opening pads volumePercent)).presses.length =
          (rounds.foldl step (start opening pads volumePercent)).taps.length) := by
  induction rounds using List.reverseRecOn with
  | nil => exact ⟨rfl, fun hpads => ⟨hpads, rfl⟩⟩
  | append_singleton rounds round ih =>
      rw [List.foldl_append, List.foldl_cons, List.foldl_nil] at h ⊢
      generalize rounds.foldl step (start opening pads volumePercent) = session at h ih ⊢
      obtain ⟨hexit, drawn, game, taps, taken, hdraw, hhandle, hstep⟩ := step_cases h
      obtain ⟨htaps, hcount⟩ := ih hexit
      obtain ⟨hdrawnTouch, hdrawnPads⟩ := draw_devices hdraw
      rw [hstep, List.flatMap_append, List.flatMap_singleton, List.foldl_append, ← htaps,
        foldl_handleEvent, ← hdrawnTouch]
      dsimp only
      rcases handle_cases hhandle with ⟨rfl, rfl, rfl, hquiet⟩ |
        ⟨polls, touch, presses, hready, -, rfl, rfl, rfl⟩
      · have hevents : round.events = [] := by
          rw [Round.events]
          split
          next hpolled => exact absurd hpolled (hquiet _ _ _)
          next => rfl
        rw [hevents, hdrawnPads, List.append_nil, List.append_nil]
        exact ⟨by rw [List.foldl_nil, List.append_nil], hcount⟩
      · have hevents : round.events = (touch.map delivered).getD [] := by
          rw [Round.events, hready]
          cases touch with
          | none => rfl
          | some reads => rfl
        rw [hevents, (activateAll_devices _ _).1, (activateAll_devices _ _).2,
          ← readInput_touch drawn polls touch]
        refine ⟨rfl, ?_⟩
        intro hpads
        obtain ⟨hnone, hlength⟩ := hcount hpads
        rw [← hdrawnPads] at hnone
        have hinput : (drawn.readInput polls touch).pads = [] ∧
            (drawn.readInput polls touch).controllerA = false := by
          cases touch with
          | none => rw [Game.readInput, hnone]; exact ⟨rfl, rfl⟩
          | some reads => rw [Game.readInput, hnone]; exact ⟨rfl, rfl⟩
        refine ⟨hinput.1, ?_⟩
        rw [List.length_append, List.length_append, List.length_map, List.length_range, hlength,
          Game.Input.count, hinput.2, if_neg Bool.false_ne_true]

theorem taps_run_tap :
    (([sampleRound].foldl step (start ⟨0, 200, none⟩ [] 50)).game.touch,
        ([sampleRound].foldl step (start ⟨0, 200, none⟩ [] 50)).taps) =
      ([sampleRound].flatMap Round.events).foldl TenSecondsTouch.handleEvent
        (TenSecondsTouch.discover ⟨0, 200, none⟩, []) ∧
    (([] : List Pad) = [] →
      ([sampleRound].foldl step (start ⟨0, 200, none⟩ [] 50)).game.pads = [] ∧
        ([sampleRound].foldl step (start ⟨0, 200, none⟩ [] 50)).presses.length =
          ([sampleRound].foldl step (start ⟨0, 200, none⟩ [] 50)).taps.length) :=
  taps_run ⟨0, 200, none⟩ [] 50 [sampleRound] rfl

end Session

end NesDeck.TenSeconds
