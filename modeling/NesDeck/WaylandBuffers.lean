/-
**Frame buffers of the Wayland client.**

`present` in `deck_wayland.cpp` copies a frame into one of three shared buffers and hands that
buffer to the compositor, which gives it back later.  The buffers are created for the size of the
surface and kept while that size lasts; whether it lasted is judged by the number of bytes.

The model keeps the compositor's side next to the client's: which buffers were committed and not
released, and for every frame what was asked for and what was handed over.

Main definitions:

* `NesDeck.BufferSlot`, `NesDeck.WaylandBuffers` — a slot, and the state of the client;
* `NesDeck.WaylandBuffers.ensureSlots`, `NesDeck.WaylandBuffers.present` — the two functions;
* `NesDeck.WaylandBuffers.Sound` — the invariant: slots of one kind, busy while they are held;
* `NesDeck.PresentedFrame.Faithful` — a frame in a buffer of its own shape that was free;
* `NesDeck.WaylandBuffers.Reshaped` — the surface changed its shape and kept its size.

Main results:

* `NesDeck.WaylandBuffers.sound_react` — every event keeps the invariant;
* `NesDeck.WaylandBuffers.faithful_react_iff` — what one event does to the frames;
* `NesDeck.WaylandBuffers.faithful_iff` — **every frame of a run is faithful exactly when no call
  meets a surface that changed its shape and kept its size**.
-/

import Mathlib.Algebra.Group.Nat.Defs
import Mathlib.Data.List.Nodup
import NesDeck.Lib.Run

set_option relaxedAutoImplicit false
set_option autoImplicit false

namespace NesDeck

def kBufferCount : ℕ := 3

/-- `INT_MAX`. -/
def intMax : ℕ := 2 ^ 31 - 1

/-- `LLONG_MAX`. -/
def llongMax : ℕ := 2 ^ 63 - 1

/-- `DeckWaylandPresentation::Impl::BufferSlot`, with what its buffer was created for. -/
structure BufferSlot where
  /-- The buffer object; every one is new. -/
  buffer : ℕ
  bufferWidth : ℕ
  bufferHeight : ℕ
  bufferStride : ℕ
  memory : List (BitVec 32)
  size : ℕ
  busy : Bool

/-- What one call of `present` handed over. -/
structure PresentedFrame where
  targetWidth : ℕ
  targetHeight : ℕ
  bufferWidth : ℕ
  bufferHeight : ℕ
  bufferStride : ℕ
  /-- The compositor held the buffer when its memory was written. -/
  held : Bool

/-- The part of `DeckWaylandPresentation::Impl` that has to do with buffers. -/
structure WaylandBuffers where
  configured : Bool
  surface : Bool
  width : BitVec 32
  height : BitVec 32
  slots : List BufferSlot
  /-- The number of buffers created so far. -/
  created : ℕ
  /-- The buffers that the compositor holds: committed, and not released since. -/
  held : List ℕ
  /-- The frames handed over so far. -/
  frames : List PresentedFrame

namespace WaylandBuffers

/-- The state once the surface exists, with the size that `open_gameplay` asks for. -/
def opened (width height : BitVec 32) : WaylandBuffers where
  configured := false
  surface := true
  width := width
  height := height
  slots := []
  created := 0
  held := []
  frames := []

/-! ### Events of the compositor -/

/-- What the compositor sends. -/
inductive CompositorEvent where
  | widgetConfigure (width height : BitVec 32)
  | widgetConfigureDone
  | layerConfigure (width height : BitVec 32)
  | bufferRelease (buffer : ℕ)
  deriving DecidableEq

/-- `widget_configure`. -/
def widgetConfigure (self : WaylandBuffers) (width height : BitVec 32) : WaylandBuffers :=
  { self with width := width, height := height }

/-- `layer_configure` for the layer of the game. -/
def layerConfigure (self : WaylandBuffers) (width height : BitVec 32) : WaylandBuffers :=
  { self with
    configured := true
    width := if 0 < width then width else self.width
    height := if 0 < height then height else self.height }

/-- `buffer_release`; a buffer that was destroyed has no listener any more. -/
def bufferRelease (self : WaylandBuffers) (buffer : ℕ) : WaylandBuffers :=
  { self with
    slots := self.slots.map fun slot =>
      if slot.buffer = buffer then { slot with busy := false } else slot
    held := self.held.filter (· ≠ buffer) }

/-- The handlers. -/
def handle (self : WaylandBuffers) : CompositorEvent → WaylandBuffers
  | .widgetConfigure width height => self.widgetConfigure width height
  | .widgetConfigureDone => { self with configured := true }
  | .layerConfigure width height => self.layerConfigure width height
  | .bufferRelease buffer => self.bufferRelease buffer

/-! ### Slots -/

/-- The number of bytes of a frame, computed in a `size_t` of `word` bits. -/
def byteSize (word width height : ℕ) : ℕ := width * height * 4 % 2 ^ word

/-- The slots that `ensure_slots` makes, the first of them with the number `first`. -/
def makeSlots (word width height first : ℕ) : List BufferSlot :=
  (List.range kBufferCount).map fun index =>
    { buffer := first + index
      bufferWidth := width
      bufferHeight := height
      bufferStride := width * 4
      memory := List.replicate (width * height) 0
      size := byteSize word width height
      busy := false }

/-- The second half of `ensure_slots`, once there are no slots.  The system may refuse the memory of
a slot, with a message.  The second component is none where the function returns true. -/
def createSlots (word : ℕ) (self : WaylandBuffers) (requestedWidth requestedHeight : ℕ)
    (refused : Option String) : WaylandBuffers × Option String :=
  if requestedWidth = 0 ∨ requestedHeight = 0 ∨ intMax / 4 < requestedWidth ∨
      intMax < requestedHeight ∨ (2 ^ word - 1) / 4 / requestedHeight < requestedWidth then
    (self, some "Wayland buffer dimensions are invalid")
  else if byteSize word requestedWidth requestedHeight = 0 ∨
      llongMax < byteSize word requestedWidth requestedHeight then
    (self, some "invalid Wayland shared memory size")
  else
    match refused with
    -- The slots that were made before the refusal are destroyed again.
    | some message => (self, some message)
    | none =>
        ({ self with
            slots := makeSlots word requestedWidth requestedHeight self.created
            created := self.created + kBufferCount }, none)

/-- `ensure_slots`. -/
def ensureSlots (word : ℕ) (self : WaylandBuffers) (requestedWidth requestedHeight : ℕ)
    (refused : Option String) : WaylandBuffers × Option String :=
  match self.slots with
  | [] => self.createSlots word requestedWidth requestedHeight refused
  | slot :: slots =>
      if slot.size = byteSize word requestedWidth requestedHeight then (self, none)
      else if (slot :: slots).any (·.busy) then
        (self, some "Wayland buffer size changed while buffers are in use")
      else
        -- `destroy_slots`
        createSlots word { self with slots := [] } requestedWidth requestedHeight refused

/-- The loop of `available_slot`, after the events that are at hand were handled. -/
def availableSlot (self : WaylandBuffers) : Option BufferSlot := self.slots.find? (!·.busy)

/-! ### Frames -/

/-- The pixel of the source that `present` puts at a place of the target. -/
def sourcePixel (targetWidth targetHeight sourceWidth sourceHeight x y : ℕ) : ℕ × ℕ :=
  if targetWidth = sourceWidth ∧ targetHeight = sourceHeight then (x, y)
  else if targetWidth % sourceWidth = 0 ∧ targetHeight % sourceHeight = 0 ∧
      targetWidth / sourceWidth = targetHeight / sourceHeight then
    -- Every pixel of the source becomes a square.
    let scale := targetWidth / sourceWidth
    (x / scale, y / scale)
  else (x * sourceWidth / targetWidth, y * sourceHeight / targetHeight)

/-- The pixels of the target, row by row. -/
def drawFrame (targetWidth targetHeight sourceWidth sourceHeight : ℕ)
    (readPixel : ℕ → ℕ → BitVec 32) : List (BitVec 32) :=
  (List.range targetHeight).flatMap fun y => (List.range targetWidth).map fun x =>
    let source := sourcePixel targetWidth targetHeight sourceWidth sourceHeight x y
    readPixel source.1 source.2

/-- One call of `present`, with what happens around it: the refusal of memory, the events that
`available_slot` handles, and whether the connection is broken when the frame is flushed. -/
structure PresentCall where
  sourceWidth : ℕ
  sourceHeight : ℕ
  readPixel : ℕ → ℕ → BitVec 32
  refused : Option String
  dispatched : List CompositorEvent
  broken : Bool

/-- The end of `present`: the frame goes into the slot, and the slot to the compositor.  A commit
that cannot be flushed never reaches the compositor. -/
def submit (self : WaylandBuffers) (slot : BufferSlot) (targetWidth targetHeight : ℕ)
    (call : PresentCall) : WaylandBuffers × Option String :=
  let pixels := drawFrame targetWidth targetHeight call.sourceWidth call.sourceHeight call.readPixel
  ({ self with
      slots := self.slots.map fun other =>
        if other.buffer = slot.buffer then
          { other with memory := pixels ++ other.memory.drop pixels.length, busy := !call.broken }
        else other
      held := if call.broken then self.held else slot.buffer :: self.held
      frames := self.frames ++
        [{ targetWidth := targetWidth
           targetHeight := targetHeight
           bufferWidth := slot.bufferWidth
           bufferHeight := slot.bufferHeight
           bufferStride := slot.bufferStride
           held := decide (slot.buffer ∈ self.held) }] },
    if call.broken then some "cannot flush Wayland frame" else none)

/-- `present`. -/
def present (word : ℕ) (self : WaylandBuffers) (call : PresentCall) :
    WaylandBuffers × Option String :=
  if !self.configured || !self.surface then (self, some "Wayland surface is not configured")
  else
    let targetWidth := self.width.toNat
    let targetHeight := self.height.toNat
    match self.ensureSlots word targetWidth targetHeight call.refused with
    | (self, some error) => (self, some error)
    | (self, none) =>
        let self := call.dispatched.foldl handle self
        match self.availableSlot with
        | none => (self, none)
        | some slot => self.submit slot targetWidth targetHeight call

/-! ### Runs -/

/-- What happens to the client. -/
inductive Event where
  | compositor (event : CompositorEvent)
  | present (call : PresentCall)

/-- One event. -/
def react (word : ℕ) (self : WaylandBuffers) : Event → WaylandBuffers
  | .compositor event => self.handle event
  | .present call => (self.present word call).1

@[simp] theorem react_compositor (word : ℕ) (self : WaylandBuffers) (event : CompositorEvent) :
    self.react word (.compositor event) = self.handle event := rfl

@[simp] theorem react_present (word : ℕ) (self : WaylandBuffers) (call : PresentCall) :
    self.react word (.present call) = (self.present word call).1 := rfl

/-! ### The invariant -/

/-- The slots are of one kind, they are busy while the compositor holds them, and new buffers are
new. -/
structure Sound (word : ℕ) (client : WaylandBuffers) : Prop where
  kind : ∃ width height, ∀ slot ∈ client.slots, slot.bufferWidth = width ∧
    slot.bufferHeight = height ∧ slot.bufferStride = width * 4 ∧
      slot.size = byteSize word width height
  busy : ∀ slot ∈ client.slots, slot.busy = true ↔ slot.buffer ∈ client.held
  slots_lt : ∀ slot ∈ client.slots, slot.buffer < client.created
  held_lt : ∀ buffer ∈ client.held, buffer < client.created

theorem sound_opened (word : ℕ) (width height : BitVec 32) : Sound word (opened width height) where
  kind := ⟨0, 0, by simp [opened]⟩
  busy := by simp [opened]
  slots_lt := by simp [opened]
  held_lt := by simp [opened]

/-- The frame went into a buffer made for its own shape, which the compositor did not hold. -/
structure Faithful (frame : PresentedFrame) : Prop where
  width : frame.bufferWidth = frame.targetWidth
  height : frame.bufferHeight = frame.targetHeight
  stride : frame.bufferStride = frame.targetWidth * 4
  free : frame.held = false

/-- All frames handed over so far are faithful. -/
def AllFaithful (client : WaylandBuffers) : Prop := ∀ frame ∈ client.frames, Faithful frame

/-- The surface changed its shape and kept its size since the slots were made, and one of them is
free or about to be. -/
def Reshaped (word : ℕ) (client : WaylandBuffers) : Event → Prop
  | .compositor _ => False
  | .present call =>
      client.configured = true ∧ client.surface = true ∧
        (∃ slot ∈ client.slots, slot.size = byteSize word client.width.toNat client.height.toNat ∧
          ¬(slot.bufferWidth = client.width.toNat ∧ slot.bufferHeight = client.height.toNat)) ∧
        ∃ slot ∈ client.slots, slot.busy = false ∨ .bufferRelease slot.buffer ∈ call.dispatched

/-! ### Events of the compositor keep the slots -/

/-- A slot after some events: it is busy unless it was released. -/
def settle (events : List CompositorEvent) (slot : BufferSlot) : BufferSlot :=
  { slot with busy := slot.busy && decide (.bufferRelease slot.buffer ∉ events) }

theorem slots_handle (self : WaylandBuffers) (event : CompositorEvent) :
    (self.handle event).slots = self.slots.map (settle [event]) := by
  have hkept : ∀ event, (∀ buffer, event ≠ .bufferRelease buffer) →
      self.slots = self.slots.map (settle [event]) := by
    intro event hother
    refine (List.map_id'' ?_ _).symm
    intro slot
    simp [settle, (hother slot.buffer).symm]
  cases event with
  | widgetConfigure width height => exact hkept _ (by simp)
  | widgetConfigureDone => exact hkept _ (by simp)
  | layerConfigure width height => exact hkept _ (by simp)
  | bufferRelease buffer =>
      refine List.map_congr_left ?_
      intro slot _
      by_cases hbuffer : slot.buffer = buffer
      · simp [settle, hbuffer]
      · simp [settle, hbuffer]

theorem slots_dispatch (events : List CompositorEvent) (self : WaylandBuffers) :
    (events.foldl handle self).slots = self.slots.map (settle events) := by
  induction events generalizing self with
  | nil =>
      refine (List.map_id'' ?_ _).symm
      intro slot
      simp [settle]
  | cons event events ih =>
      rw [List.foldl_cons, ih, slots_handle, List.map_map]
      refine List.map_congr_left ?_
      intro slot _
      simp [settle, Bool.and_assoc]

theorem frames_dispatch (events : List CompositorEvent) (self : WaylandBuffers) :
    (events.foldl handle self).frames = self.frames := by
  induction events generalizing self with
  | nil => rfl
  | cons event events ih =>
      rw [List.foldl_cons, ih]
      cases event with
      | widgetConfigure width height => rfl
      | widgetConfigureDone => rfl
      | layerConfigure width height => rfl
      | bufferRelease buffer => rfl

/-- The handlers keep the invariant. -/
theorem sound_handle {word : ℕ} {self : WaylandBuffers} (h : self.Sound word)
    (event : CompositorEvent) : (self.handle event).Sound word := by
  cases event with
  | widgetConfigure width height => exact ⟨h.kind, h.busy, h.slots_lt, h.held_lt⟩
  | widgetConfigureDone => exact ⟨h.kind, h.busy, h.slots_lt, h.held_lt⟩
  | layerConfigure width height => exact ⟨h.kind, h.busy, h.slots_lt, h.held_lt⟩
  | bufferRelease buffer =>
      have hslots : ∀ slot ∈ (self.bufferRelease buffer).slots, ∃ before ∈ self.slots,
          slot = if before.buffer = buffer then { before with busy := false } else before := by
        intro slot hslot
        obtain ⟨before, hbefore, rfl⟩ := List.mem_map.1 hslot
        exact ⟨before, hbefore, rfl⟩
      obtain ⟨width, height, hkind⟩ := h.kind
      refine ⟨⟨width, height, ?_⟩, ?_, ?_, ?_⟩
      · intro slot hslot
        obtain ⟨before, hbefore, rfl⟩ := hslots slot hslot
        split
        · exact hkind before hbefore
        · exact hkind before hbefore
      · intro slot hslot
        obtain ⟨before, hbefore, rfl⟩ := hslots slot hslot
        have hbusy := h.busy before hbefore
        split
        · next hsame => simp [handle, bufferRelease, hsame]
        · next hother => simp [handle, bufferRelease, hother, hbusy]
      · intro slot hslot
        obtain ⟨before, hbefore, rfl⟩ := hslots slot hslot
        have hlt := h.slots_lt before hbefore
        split
        · exact hlt
        · exact hlt
      · intro other hother
        exact h.held_lt other (List.mem_of_mem_filter hother)

theorem sound_dispatch {word : ℕ} {self : WaylandBuffers} (h : self.Sound word)
    (events : List CompositorEvent) : (events.foldl handle self).Sound word :=
  Run.invariant (I := Sound word) (fun _ event h => sound_handle h event) h events

/-! ### Slots for a frame -/

/-- The size of the slots is the size of the target. -/
def Fits (word : ℕ) (self : WaylandBuffers) (width height : ℕ) : Prop :=
  ∃ slot ∈ self.slots, slot.size = byteSize word width height

/-- What `create_slots` leaves behind. -/
theorem createSlots_cases (word : ℕ) (self : WaylandBuffers) (width height : ℕ)
    (refused : Option String) :
    (∃ message, self.createSlots word width height refused = (self, some message)) ∨
      self.createSlots word width height refused =
        ({ self with
            slots := makeSlots word width height self.created
            created := self.created + kBufferCount }, none) := by
  unfold createSlots
  split
  · exact Or.inl ⟨_, rfl⟩
  · split
    · exact Or.inl ⟨_, rfl⟩
    · cases refused with
      | some message => exact Or.inl ⟨message, rfl⟩
      | none => exact Or.inr rfl

/-- **What `ensure_slots` can do**: it keeps slots of the right size, or it makes new ones when none
of another size is busy, or it fails. -/
theorem ensureSlots_cases {word : ℕ} {self : WaylandBuffers} (h : self.Sound word)
    (width height : ℕ) (refused : Option String) :
    (self.Fits word width height ∧ self.ensureSlots word width height refused = (self, none)) ∨
      (¬self.Fits word width height ∧ ∃ slots message, slots ⊆ self.slots ∧
        self.ensureSlots word width height refused = ({ self with slots := slots }, some message)) ∨
      (¬self.Fits word width height ∧ self.ensureSlots word width height refused =
        ({ self with
            slots := makeSlots word width height self.created
            created := self.created + kBufferCount }, none)) := by
  unfold ensureSlots
  cases hslots : self.slots with
  | nil =>
      have hfits : ¬self.Fits word width height := by simp [Fits, hslots]
      rcases createSlots_cases word self width height refused with ⟨message, hfail⟩ | hmade
      · refine Or.inr (Or.inl ⟨hfits, [], message, List.Subset.refl _, ?_⟩)
        have hself : { self with slots := ([] : List BufferSlot) } = self := by rw [← hslots]
        rw [hself]
        exact hfail
      · exact Or.inr (Or.inr ⟨hfits, hmade⟩)
  | cons slot slots =>
      have hhead : slot ∈ self.slots := by simp [hslots]
      by_cases hsize : slot.size = byteSize word width height
      · exact Or.inl ⟨⟨slot, hhead, hsize⟩, by simp [hsize]⟩
      · -- All slots have the size of the first one.
        have hfits : ¬self.Fits word width height := by
          rintro ⟨other, hother, hsame⟩
          obtain ⟨w, k, hkind⟩ := h.kind
          exact hsize (by rw [(hkind slot hhead).2.2.2, ← (hkind other hother).2.2.2, hsame])
        simp only [hsize, if_false]
        split
        · refine Or.inr (Or.inl ⟨hfits, slot :: slots,
            "Wayland buffer size changed while buffers are in use", List.Subset.refl _, ?_⟩)
          rw [← hslots]
        · rcases createSlots_cases word { self with slots := [] } width height refused with
            ⟨message, hfail⟩ | hmade
          · exact Or.inr (Or.inl ⟨hfits, [], message, List.nil_subset _, hfail⟩)
          · exact Or.inr (Or.inr ⟨hfits, hmade⟩)

theorem ensureSlots_of_fits {word : ℕ} {self : WaylandBuffers} (h : self.Sound word)
    {width height : ℕ} (hfits : self.Fits word width height) (refused : Option String) :
    self.ensureSlots word width height refused = (self, none) := by
  rcases ensureSlots_cases h width height refused with ⟨-, hkept⟩ | ⟨hnot, -⟩ | ⟨hnot, -⟩
  · exact hkept
  · exact absurd hfits hnot
  · exact absurd hfits hnot

theorem mem_makeSlots {word width height first : ℕ} {slot : BufferSlot}
    (h : slot ∈ makeSlots word width height first) :
    (slot.bufferWidth = width ∧ slot.bufferHeight = height ∧ slot.bufferStride = width * 4 ∧
        slot.size = byteSize word width height) ∧
      slot.busy = false ∧ first ≤ slot.buffer ∧ slot.buffer < first + kBufferCount := by
  obtain ⟨index, hindex, rfl⟩ := List.mem_map.1 h
  have hlt := List.mem_range.1 hindex
  exact ⟨⟨rfl, rfl, rfl, rfl⟩, rfl, by simp, by simpa using hlt⟩

theorem sound_subset {word : ℕ} {self : WaylandBuffers} (h : self.Sound word)
    {slots : List BufferSlot} (hsub : slots ⊆ self.slots) :
    Sound word { self with slots := slots } := by
  obtain ⟨width, height, hkind⟩ := h.kind
  exact ⟨⟨width, height, fun slot hslot => hkind slot (hsub hslot)⟩,
    fun slot hslot => h.busy slot (hsub hslot), fun slot hslot => h.slots_lt slot (hsub hslot),
    h.held_lt⟩

theorem sound_made {word : ℕ} {self : WaylandBuffers} (h : self.Sound word) (width height : ℕ) :
    Sound word { self with
      slots := makeSlots word width height self.created
      created := self.created + kBufferCount } where
  kind := ⟨width, height, fun _ hslot => (mem_makeSlots hslot).1⟩
  busy := by
    intro slot hslot
    obtain ⟨-, hbusy, hge, -⟩ := mem_makeSlots hslot
    rw [hbusy]
    refine iff_of_false (by decide) ?_
    intro hheld
    -- The compositor has never seen a buffer with this number.
    have hlt := h.held_lt _ hheld
    omega
  slots_lt := fun _ hslot => (mem_makeSlots hslot).2.2.2
  held_lt := fun buffer hheld => Nat.lt_add_right _ (h.held_lt buffer hheld)

theorem sound_ensureSlots {word : ℕ} {self : WaylandBuffers} (h : self.Sound word)
    (width height : ℕ) (refused : Option String) :
    (self.ensureSlots word width height refused).1.Sound word := by
  rcases ensureSlots_cases h width height refused with
    ⟨-, hkept⟩ | ⟨-, slots, message, hsub, hfail⟩ | ⟨-, hmade⟩
  · rw [hkept]
    exact h
  · rw [hfail]
    exact sound_subset h hsub
  · rw [hmade]
    exact sound_made h width height

/-- The slots after one was handed over: only that one has changed, and its shape has not. -/
theorem mem_slots_submit {self : WaylandBuffers} {slot other : BufferSlot} {width height : ℕ}
    {call : PresentCall} (h : other ∈ (self.submit slot width height call).1.slots) :
    ∃ before ∈ self.slots, other.buffer = before.buffer ∧
      other.busy = (if before.buffer = slot.buffer then !call.broken else before.busy) ∧
      other.bufferWidth = before.bufferWidth ∧ other.bufferHeight = before.bufferHeight ∧
      other.bufferStride = before.bufferStride ∧ other.size = before.size := by
  obtain ⟨before, hbefore, rfl⟩ := List.mem_map.1 h
  refine ⟨before, hbefore, ?_⟩
  by_cases hsame : before.buffer = slot.buffer
  · simp [hsame]
  · simp [hsame]

/-- The compositor holds what it held, and the buffer that was handed over unless the connection is
broken. -/
theorem mem_held_submit {self : WaylandBuffers} {slot : BufferSlot} {width height : ℕ}
    {call : PresentCall} {buffer : ℕ} :
    buffer ∈ (self.submit slot width height call).1.held ↔
      buffer = slot.buffer ∧ call.broken = false ∨ buffer ∈ self.held := by
  unfold submit
  cases hbroken : call.broken with
  | true => simp
  | false => simp

/-- Handing a free slot over keeps the invariant. -/
theorem sound_submit {word : ℕ} {self : WaylandBuffers} (h : self.Sound word) {slot : BufferSlot}
    (hslot : slot ∈ self.slots) (hfree : slot.busy = false) (width height : ℕ)
    (call : PresentCall) :
    (self.submit slot width height call).1.Sound word := by
  have hnot : slot.buffer ∉ self.held := by
    rw [← h.busy slot hslot, hfree]
    decide
  obtain ⟨w, k, hkind⟩ := h.kind
  refine ⟨⟨w, k, ?_⟩, ?_, ?_, ?_⟩
  · intro other hother
    obtain ⟨before, hbefore, -, -, hwidth, hheight, hstride, hsize⟩ := mem_slots_submit hother
    rw [hwidth, hheight, hstride, hsize]
    exact hkind before hbefore
  · intro other hother
    obtain ⟨before, hbefore, hbuffer, hbusy, -⟩ := mem_slots_submit hother
    rw [mem_held_submit, hbuffer, hbusy]
    by_cases hsame : before.buffer = slot.buffer
    · -- The slot is busy exactly when the compositor has received it.
      rw [hsame]
      simp [hnot]
    · simp [hsame, h.busy before hbefore]
  · intro other hother
    obtain ⟨before, hbefore, hbuffer, -⟩ := mem_slots_submit hother
    rw [hbuffer]
    exact h.slots_lt before hbefore
  · intro buffer hbuffer
    rcases mem_held_submit.1 hbuffer with ⟨rfl, -⟩ | hold
    · exact h.slots_lt slot hslot
    · exact h.held_lt buffer hold

/-! ### One call -/

/-- The state in which `present` looks for a slot, where it comes that far. -/
def Reaches (word : ℕ) (self : WaylandBuffers) (call : PresentCall)
    (base : WaylandBuffers) : Prop :=
  self.configured = true ∧ self.surface = true ∧
    self.ensureSlots word self.width.toNat self.height.toNat call.refused = (base, none)

/-- **What one call can do**: it gives up, with the slots it had or with none, or it hands over the
first slot that is free once the events at hand were handled. -/
theorem present_cases (word : ℕ) (self : WaylandBuffers) (call : PresentCall) :
    ((∀ base, ¬self.Reaches word call base) ∧ ((self.present word call).1 = self ∨
        (self.present word call).1 =
          (self.ensureSlots word self.width.toNat self.height.toNat call.refused).1)) ∨
      ∃ base, self.Reaches word call base ∧
        (((call.dispatched.foldl handle base).availableSlot = none ∧
            (self.present word call).1 = call.dispatched.foldl handle base) ∨
          ∃ slot, (call.dispatched.foldl handle base).availableSlot = some slot ∧
            (self.present word call).1 = ((call.dispatched.foldl handle base).submit slot
              self.width.toNat self.height.toNat call).1) := by
  -- The call gives up before the slots are looked at, after it, or not at all.
  by_cases hready : self.configured = true ∧ self.surface = true
  · rcases hensure : self.ensureSlots word self.width.toNat self.height.toNat call.refused with
      ⟨base, error⟩
    cases error with
    | some message =>
        refine Or.inl ⟨?_, Or.inr ?_⟩
        · rintro other ⟨-, -, hother⟩
          simp [hensure] at hother
        · simp only [present, hready.1, hready.2, hensure]
          rfl
    | none =>
        refine Or.inr ⟨base, ⟨hready.1, hready.2, hensure⟩, ?_⟩
        cases hslot : (call.dispatched.foldl handle base).availableSlot with
        | none =>
            refine Or.inl ⟨rfl, ?_⟩
            simp only [present, hready.1, hready.2, hensure, hslot]
            rfl
        | some slot =>
            refine Or.inr ⟨slot, rfl, ?_⟩
            simp only [present, hready.1, hready.2, hensure, hslot]
            rfl
  · refine Or.inl ⟨fun base hreach => hready ⟨hreach.1, hreach.2.1⟩, Or.inl ?_⟩
    have hclosed : (!self.configured || !self.surface) = true := by
      rw [not_and_or, Bool.not_eq_true, Bool.not_eq_true] at hready
      simpa using hready
    simp only [present, hclosed, if_true]

theorem availableSlot_mem {self : WaylandBuffers} {slot : BufferSlot}
    (h : self.availableSlot = some slot) : slot ∈ self.slots ∧ slot.busy = false := by
  refine ⟨List.mem_of_find?_eq_some h, ?_⟩
  have hfree := List.find?_some h
  simpa using hfree

/-- **Every event keeps the invariant.** -/
theorem sound_react {word : ℕ} (self : WaylandBuffers) (event : Event) (h : self.Sound word) :
    (self.react word event).Sound word := by
  cases event with
  | compositor event => exact sound_handle h event
  | present call =>
      rw [react_present]
      have hensure := sound_ensureSlots h self.width.toNat self.height.toNat call.refused
      rcases present_cases word self call with ⟨-, hsame | hfail⟩ |
        ⟨base, ⟨-, -, hbase⟩, ⟨-, hwait⟩ | ⟨slot, hslot, hsubmit⟩⟩
      · rw [hsame]
        exact h
      · rw [hfail]
        exact hensure
      · rw [hbase] at hensure
        rw [hwait]
        exact sound_dispatch hensure _
      · rw [hbase] at hensure
        obtain ⟨hmem, hfree⟩ := availableSlot_mem hslot
        rw [hsubmit]
        exact sound_submit (sound_dispatch hensure _) hmem hfree _ _ call

/-! ### The frames of a run -/

/-- The handed over slot is free for the compositor too, and it is one of the slots of before. -/
theorem availableSlot_dispatch {word : ℕ} {base : WaylandBuffers} (h : base.Sound word)
    {events : List CompositorEvent} {slot : BufferSlot}
    (hslot : (events.foldl handle base).availableSlot = some slot) :
    slot.buffer ∉ (events.foldl handle base).held ∧ ∃ before ∈ base.slots,
      slot = settle events before := by
  obtain ⟨hmem, hfree⟩ := availableSlot_mem hslot
  constructor
  · rw [← (sound_dispatch h events).busy slot hmem, hfree]
    decide
  · rw [slots_dispatch] at hmem
    obtain ⟨before, hbefore, rfl⟩ := List.mem_map.1 hmem
    exact ⟨before, hbefore, rfl⟩

/-- A slot is found exactly when one was free or is released. -/
theorem availableSlot_isSome_iff (events : List CompositorEvent) (base : WaylandBuffers) :
    ((events.foldl handle base).availableSlot.isSome = true) ↔
      ∃ slot ∈ base.slots, slot.busy = false ∨ .bufferRelease slot.buffer ∈ events := by
  unfold availableSlot
  rw [List.find?_isSome, slots_dispatch]
  simp only [List.mem_map, exists_exists_and_eq_and]
  refine exists_congr ?_
  intro slot
  refine and_congr_right ?_
  intro _
  by_cases hreleased : CompositorEvent.bufferRelease slot.buffer ∈ events
  · simp [settle, hreleased]
  · simp [settle, hreleased]

theorem frames_ensureSlots {word : ℕ} {self : WaylandBuffers} (h : self.Sound word)
    (width height : ℕ) (refused : Option String) :
    (self.ensureSlots word width height refused).1.frames = self.frames := by
  rcases ensureSlots_cases h width height refused with
    ⟨-, hkept⟩ | ⟨-, slots, message, -, hfail⟩ | ⟨-, hmade⟩
  · rw [hkept]
  · rw [hfail]
  · rw [hmade]

/-- A frame that is handed over keeps the frames faithful exactly when its slot has its shape. -/
theorem allFaithful_submit_iff {self : WaylandBuffers} (h : self.AllFaithful) {slot : BufferSlot}
    (hfree : slot.buffer ∉ self.held) (hstride : slot.bufferStride = slot.bufferWidth * 4)
    (width height : ℕ) (call : PresentCall) :
    (self.submit slot width height call).1.AllFaithful ↔
      slot.bufferWidth = width ∧ slot.bufferHeight = height := by
  unfold AllFaithful submit at *
  simp only [List.mem_append, List.mem_singleton]
  constructor
  · intro hall
    have hlast := hall _ (Or.inr rfl)
    exact ⟨hlast.width, hlast.height⟩
  · rintro ⟨hwidth, hheight⟩ frame (hold | rfl)
    · exact h frame hold
    · exact ⟨hwidth, hheight, by rw [hstride, hwidth], by simp [hfree]⟩

/-- A call that finds no slots of its size is not reshaped, and where it finds some, they are of the
target's shape or the call is reshaped as soon as a slot is free. -/
theorem reshaped_iff {word : ℕ} {self : WaylandBuffers} (h : self.Sound word) (call : PresentCall) :
    self.Reshaped word (.present call) ↔ self.configured = true ∧ self.surface = true ∧
      self.Fits word self.width.toNat self.height.toNat ∧
        (∀ slot ∈ self.slots, ¬(slot.bufferWidth = self.width.toNat ∧
          slot.bufferHeight = self.height.toNat)) ∧
        ∃ slot ∈ self.slots, slot.busy = false ∨ .bufferRelease slot.buffer ∈ call.dispatched := by
  obtain ⟨width, height, hkind⟩ := h.kind
  unfold Reshaped Fits
  refine and_congr_right ?_
  intro _
  refine and_congr_right ?_
  intro _
  constructor
  · rintro ⟨⟨slot, hslot, hsize, hshape⟩, hfree⟩
    refine ⟨⟨slot, hslot, hsize⟩, ?_, hfree⟩
    intro other hother
    rwa [(hkind other hother).1, (hkind other hother).2.1, ← (hkind slot hslot).1,
      ← (hkind slot hslot).2.1]
  · rintro ⟨⟨slot, hslot, hsize⟩, hshape, hfree⟩
    exact ⟨⟨slot, hslot, hsize, hshape slot hslot⟩, hfree⟩

/-- A call that is reshaped looks for a slot among those it had. -/
theorem reaches_of_reshaped {word : ℕ} {self : WaylandBuffers} (h : self.Sound word)
    {call : PresentCall} (hre : self.Reshaped word (.present call)) :
    self.Reaches word call self := by
  obtain ⟨hconf, hsurf, hfits, -, -⟩ := (reshaped_iff h call).1 hre
  exact ⟨hconf, hsurf, ensureSlots_of_fits h hfits call.refused⟩

/-- The slots among which a call finds a free one have the target's shape exactly when the call is
not reshaped. -/
theorem shape_iff {word : ℕ} {self base : WaylandBuffers} (h : self.Sound word) {call : PresentCall}
    (hreach : self.Reaches word call base)
    (hfree : ∃ slot ∈ base.slots, slot.busy = false ∨ .bufferRelease slot.buffer ∈ call.dispatched)
    {slot : BufferSlot} (hslot : slot ∈ base.slots) :
    (slot.bufferWidth = self.width.toNat ∧ slot.bufferHeight = self.height.toNat) ↔
      ¬self.Reshaped word (.present call) := by
  obtain ⟨hconf, hsurf, hbase⟩ := hreach
  rw [reshaped_iff h call]
  -- A call that looks for a slot has kept its slots or made new ones.
  rcases ensureSlots_cases h self.width.toNat self.height.toNat call.refused with
    ⟨hfits, hsame⟩ | ⟨-, slots, message, -, hfail⟩ | ⟨hnot, hmade⟩
  · -- The slots are kept, and they have one shape.
    rw [hbase] at hsame
    obtain rfl : base = self := (Prod.mk.inj hsame).1
    obtain ⟨width, height, hkind⟩ := h.kind
    constructor
    · rintro hshape ⟨-, -, -, hother, -⟩
      exact hother slot hslot hshape
    · intro hnot
      by_contra hshape
      refine hnot ⟨hconf, hsurf, hfits, ?_, hfree⟩
      intro other hother
      rw [(hkind other hother).1, (hkind other hother).2.1, ← (hkind slot hslot).1,
        ← (hkind slot hslot).2.1]
      exact hshape
  · rw [hbase] at hfail
    simp at hfail
  · -- The slots are new and of the target's shape.
    rw [hbase] at hmade
    obtain rfl := (Prod.mk.inj hmade).1
    have hnew := (mem_makeSlots hslot).1
    exact iff_of_true ⟨hnew.1, hnew.2.1⟩ fun hre => hnot hre.2.2.1

/-- The frames stay faithful where none is handed over. -/
theorem AllFaithful.congr {self next : WaylandBuffers} (h : self.AllFaithful)
    (hframes : next.frames = self.frames) : next.AllFaithful := by
  unfold AllFaithful
  rwa [hframes]

/-- **What one event does to the frames.** -/
theorem faithful_react_iff {word : ℕ} (self : WaylandBuffers) (event : Event)
    (h : self.Sound word) (hall : self.AllFaithful) :
    (self.react word event).AllFaithful ↔ ¬self.Reshaped word event := by
  cases event with
  | compositor event => exact iff_of_true (hall.congr (frames_dispatch [event] self)) id
  | present call =>
      rw [react_present]
      have hframes := frames_ensureSlots h self.width.toNat self.height.toNat call.refused
      have hsound := sound_ensureSlots h self.width.toNat self.height.toNat call.refused
      rcases present_cases word self call with ⟨hstop, hend⟩ | ⟨base, hreach, hcase⟩
      · -- The call gives up: it is not configured, or the slots have another size.
        refine iff_of_true (hall.congr ?_) fun hre => hstop self (reaches_of_reshaped h hre)
        rcases hend with hsame | hfail
        · rw [hsame]
        · rw [hfail, hframes]
      · rw [hreach.2.2] at hframes hsound
        have hdispatch : (call.dispatched.foldl handle base).frames = self.frames := by
          rw [frames_dispatch, hframes]
        rcases hcase with ⟨hnone, hwait⟩ | ⟨slot, hsome, hsubmit⟩
        · -- No slot is free: nothing is handed over.
          rw [hwait]
          refine iff_of_true (hall.congr hdispatch) ?_
          intro hre
          obtain ⟨-, -, -, -, hfree⟩ := (reshaped_iff h call).1 hre
          have hbase := hreach.2.2.symm.trans (reaches_of_reshaped h hre).2.2
          obtain rfl : base = self := (Prod.mk.inj hbase).1
          have hfound := (availableSlot_isSome_iff call.dispatched base).2 hfree
          rw [hnone] at hfound
          exact absurd hfound (by decide)
        · have hfree := (availableSlot_isSome_iff call.dispatched base).1 (by rw [hsome]; rfl)
          obtain ⟨hheld, before, hbefore, rfl⟩ := availableSlot_dispatch hsound hsome
          obtain ⟨width, height, hkind⟩ := hsound.kind
          obtain ⟨hwidth, -, hstride, -⟩ := hkind before hbefore
          rw [hsubmit, allFaithful_submit_iff (hall.congr hdispatch) hheld
            (by simp [settle, hwidth, hstride])]
          -- Being released does not change what a slot was made for.
          have hshape : (before.bufferWidth = self.width.toNat ∧
              before.bufferHeight = self.height.toNat) ↔ ¬self.Reshaped word (.present call) :=
            shape_iff h hreach hfree hbefore
          exact hshape

/-- **Every frame of a run is faithful exactly when no call meets a surface that changed its shape
and kept its size.** -/
theorem faithful_iff (word : ℕ) (width height : BitVec 32) (events : List Event) :
    Run.Always (react word) AllFaithful (opened width height) events ↔
      Run.Each (react word) (fun client event => ¬Reshaped word client event)
        (opened width height) events :=
  Run.always_iff_each (J := Sound word) sound_react faithful_react_iff
    (sound_opened word width height) (fun _ hframe => absurd hframe (List.not_mem_nil))
    events

/-- A frame of 640 by 480 pixels, then one of 480 by 640: the second goes into a buffer that was
made for the first. -/
theorem not_faithful_rotated :
    ¬Run.Always (react 32) AllFaithful (opened 640 480)
      [.compositor (.layerConfigure 640 480), .present ⟨320, 240, fun _ _ => 0, none, [], false⟩,
        .compositor (.layerConfigure 480 640),
        .present ⟨320, 240, fun _ _ => 0, none, [], false⟩] := by
  intro h
  have hframe := h.last ⟨480, 640, 640, 480, 2560, false⟩ (List.mem_of_getLast? rfl)
  exact absurd hframe.width (by decide)

/-- A frame is written into the memory of a slot that the compositor does not hold. -/
theorem unheld_react {word : ℕ} (self : WaylandBuffers) (event : Event) (h : self.Sound word)
    (hheld : ∀ frame ∈ self.frames, frame.held = false) :
    ∀ frame ∈ (self.react word event).frames, frame.held = false := by
  cases event with
  | compositor event =>
      have hframes : (self.handle event).frames = self.frames := frames_dispatch [event] self
      rwa [react_compositor, hframes]
  | present call =>
      rw [react_present]
      have hframes := frames_ensureSlots h self.width.toNat self.height.toNat call.refused
      have hensure := sound_ensureSlots h self.width.toNat self.height.toNat call.refused
      rcases present_cases word self call with ⟨-, hsame | hfail⟩ |
        ⟨base, ⟨-, -, hbase⟩, ⟨-, hwait⟩ | ⟨slot, hslot, hsubmit⟩⟩
      · rwa [hsame]
      · rwa [hfail, hframes]
      · rw [hbase] at hframes
        rwa [hwait, frames_dispatch, hframes]
      · rw [hbase] at hframes hensure
        intro frame hframe
        rw [hsubmit, submit, frames_dispatch, hframes] at hframe
        rcases List.mem_append.1 hframe with hold | hnew
        · exact hheld frame hold
        · rw [List.mem_singleton.1 hnew]
          simpa using (availableSlot_dispatch hensure hslot).1

/-- **Whatever happens, no memory is written that the compositor holds.** -/
theorem never_held (word : ℕ) (width height : BitVec 32) (events : List Event) :
    ∀ frame ∈ (events.foldl (react word) (opened width height)).frames, frame.held = false := by
  have hstep : ∀ client event, Sound word client ∧ (∀ frame ∈ client.frames, frame.held = false) →
      Sound word (client.react word event) ∧
        ∀ frame ∈ (client.react word event).frames, frame.held = false :=
    fun client event ⟨hsound, hheld⟩ =>
      ⟨sound_react client event hsound, unheld_react client event hsound hheld⟩
  exact (Run.invariant (I := fun client => Sound word client ∧
    ∀ frame ∈ client.frames, frame.held = false) hstep
    ⟨sound_opened word width height, fun _ hframe => absurd hframe (List.not_mem_nil)⟩ events).2

end WaylandBuffers

end NesDeck
