/-
**Painting a buffer.**

A canvas is a buffer that remembers which of its cells were written, in order.  A drawing loop is
judged by two things: the cells that it writes, and what these cells hold afterwards.  Both are
carried through stores and loops at once, so that two loops that walk over a picture in different
orders can be compared.

Main definitions:

* `Painting.Canvas` — a buffer and the cells that were written;
* `Painting.Canvas.store`, `Painting.Canvas.put` — stores;
* `Painting.loop` — the loop `for (i = 0; i < n; ++i)`;
* `Painting.loopM`, `Painting.Canvas.putChecked` — the loop and the store, where a step may be
  illegal;
* `Painting.Painted` — what was written between two canvases, and what it may hold.

Main results:

* `Painting.Painted.trans`, `Painting.painted_loop` — one drawing after the other, and loops;
* `Painting.grid_spec` — two nested loops that put one cell each;
* `Painting.gridM_eq_some` — such loops are legal if every value is there and every store is in the
  buffer;
* `Painting.Painted.cells_eq` — **two drawings of one picture that write the same cells leave the
  same buffer**, whatever their order;
* `Painting.loop_pointer` — a pointer that runs along;
* `Painting.block_place`, `Painting.exists_lt_mul_iff`, `Painting.flatMap_range'` — blocks that
  follow each other.
-/

import NesDeck.Lib.Buffer

set_option relaxedAutoImplicit false
set_option autoImplicit false

namespace Painting

variable {α : Type*}

/-- A buffer, and the cells that were written, in order. -/
structure Canvas (α : Type*) where
  cells : List α
  written : List ℕ

/-! ### Stores -/

/-- Storing data from a cell on. -/
def Canvas.store (canvas : Canvas α) (offset : ℕ) (data : List α) : Canvas α where
  cells := Buffer.store canvas.cells offset data
  written := canvas.written ++ List.range' offset data.length

/-- Storing one cell. -/
def Canvas.put (canvas : Canvas α) (index : ℕ) (a : α) : Canvas α where
  cells := canvas.cells.set index a
  written := canvas.written ++ [index]

/-! ### Loops -/

/-- The loop `for (i = 0; i < n; ++i)`. -/
def loop {σ : Type*} (n : ℕ) (body : ℕ → σ → σ) (s : σ) : σ :=
  (List.range n).foldl (fun s i => body i s) s

@[simp] theorem loop_zero {σ : Type*} (body : ℕ → σ → σ) (s : σ) : loop 0 body s = s := rfl

theorem loop_succ {σ : Type*} (n : ℕ) (body : ℕ → σ → σ) (s : σ) :
    loop (n + 1) body s = body n (loop n body s) := by
  simp [loop, List.range_succ]

theorem loop_congr {σ : Type*} {n : ℕ} {body body' : ℕ → σ → σ}
    (h : ∀ i, i < n → ∀ s, body i s = body' i s) (s : σ) : loop n body s = loop n body' s := by
  induction n with
  | zero => rfl
  | succ n ih =>
      rw [loop_succ, loop_succ, ih fun i hi => h i (Nat.lt_succ_of_lt hi), h n (Nat.lt_succ_self n)]

/-- **A pointer that runs along** can be computed from the number of the iteration. -/
theorem loop_pointer {σ : Type*} (n step : ℕ) (body : ℕ → ℕ → σ → σ) (s : σ) (pointer : ℕ) :
    loop n (fun i (state : σ × ℕ) => (body i state.2 state.1, state.2 + step)) (s, pointer) =
      (loop n (fun i s => body i (pointer + i * step) s) s, pointer + n * step) := by
  induction n with
  | zero => simp
  | succ n ih =>
      rw [loop_succ, ih, loop_succ]
      refine Prod.ext rfl ?_
      simp only [Nat.add_mul, Nat.one_mul, Nat.add_assoc]

/-- A loop that appends. -/
theorem loop_append {β : Type*} (n : ℕ) (f : ℕ → List β) (l : List β) :
    loop n (fun i l => l ++ f i) l = l ++ (List.range n).flatMap f := by
  induction n with
  | zero => simp
  | succ n ih => simp [loop_succ, ih, List.range_succ]

/-! ### Loops with steps that may be illegal -/

/-- The loop, with a body that has no result where it is illegal. -/
def loopM {σ : Type*} (n : ℕ) (body : ℕ → σ → Option σ) (s : σ) : Option σ :=
  (List.range n).foldlM (fun s i => body i s) s

@[simp] theorem loopM_zero {σ : Type*} (body : ℕ → σ → Option σ) (s : σ) : loopM 0 body s =
  some s := rfl

theorem loopM_succ {σ : Type*} (n : ℕ) (body : ℕ → σ → Option σ) (s : σ) :
    loopM (n + 1) body s = (loopM n body s).bind (body n) := by
  simp [loopM, List.range_succ]

/-- **A loop is legal** if its steps are in the states that it reaches. -/
theorem loopM_eq_some {σ : Type*} {n : ℕ} {body : ℕ → σ → Option σ} {body' : ℕ → σ → σ}
    {I : σ → Prop} {s : σ}
    (hs : I s) (h : ∀ i, i < n → ∀ s, I s → body i s = some (body' i s) ∧ I (body' i s)) :
    loopM n body s = some (loop n body' s) ∧ I (loop n body' s) := by
  induction n with
  | zero => exact ⟨rfl, hs⟩
  | succ n ih =>
      obtain ⟨hloop, hI⟩ := ih fun i hi => h i (Nat.lt_succ_of_lt hi)
      obtain ⟨hbody, hI'⟩ := h n (Nat.lt_succ_self n) _ hI
      rw [loopM_succ, loop_succ, hloop, Option.bind_some, hbody]
      exact ⟨rfl, hI'⟩

/-- Storing one cell, which has to be one of the buffer. -/
def Canvas.putChecked (canvas : Canvas α) (index : ℕ) (a : α) : Option (Canvas α) :=
  if index < canvas.cells.length then some (canvas.put index a) else none

/-- **Two nested loops that put one cell each are legal** if every value is there and every cell is
one of the buffer. -/
theorem gridM_eq_some {m n : ℕ} {f : ℕ → ℕ → ℕ} {value : ℕ → ℕ → Option α} {g : ℕ → ℕ → α}
    {canvas : Canvas α}
    (hvalue : ∀ i < m, ∀ j < n, value i j = some (g i j))
    (hindex : ∀ i < m, ∀ j < n, f i j < canvas.cells.length) :
    loopM m (fun i canvas => loopM n (fun j canvas =>
        (value i j).bind fun a => canvas.putChecked (f i j) a) canvas) canvas =
      some (loop m (fun i canvas => loop n (fun j canvas => canvas.put (f i j) (g i j)) canvas)
        canvas) := by
  let I (canvas' : Canvas α) : Prop := canvas'.cells.length = canvas.cells.length
  refine (loopM_eq_some (I := I) rfl ?_).1
  intro i hi row hrow
  refine loopM_eq_some hrow ?_
  intro j hj cell hcell
  have hlength : I (cell.put (f i j) (g i j)) := by
    simp only [I, Canvas.put, List.length_set]
    exact hcell
  rw [hvalue i hi j hj, Option.bind_some, Canvas.putChecked, if_pos (hcell ▸ hindex i hi j hj)]
  exact ⟨rfl, hlength⟩

/-! ### What was painted -/

/-- Between two canvases exactly the cells `indices` were written, in this order, and what they hold
now meets `ok`. -/
structure Painted (ok : ℕ → α → Prop) (before after : Canvas α) (indices : List ℕ) : Prop where
  written : after.written = before.written ++ indices
  length : after.cells.length = before.cells.length
  kept : ∀ i, i ∉ indices → after.cells[i]? = before.cells[i]?
  painted : ∀ i ∈ indices, ∀ a, after.cells[i]? = some a → ok i a

variable {ok : ℕ → α → Prop} {before between after : Canvas α}

theorem Painted.refl (ok : ℕ → α → Prop) (canvas : Canvas α) : Painted ok canvas canvas [] where
  written := (List.append_nil _).symm
  length := rfl
  kept := fun _ _ => rfl
  painted := fun _ hmem => absurd hmem List.not_mem_nil

/-- One drawing after the other. -/
theorem Painted.trans {indices indices' : List ℕ} (h : Painted ok before between indices)
    (h' : Painted ok between after indices') : Painted ok before after (indices ++ indices') where
  written := by rw [h'.written, h.written, List.append_assoc]
  length := h'.length.trans h.length
  kept := by
    intro i hi
    rw [List.mem_append, not_or] at hi
    rw [h'.kept i hi.2, h.kept i hi.1]
  painted := by
    intro i hi a ha
    by_cases hlater : i ∈ indices'
    · exact h'.painted i hlater a ha
    · -- The cell keeps what the first drawing left there.
      rw [h'.kept i hlater] at ha
      exact h.painted i ((List.mem_append.1 hi).resolve_right hlater) a ha

/-- A store that leaves the right values. -/
theorem painted_put {canvas : Canvas α} {index : ℕ} {a : α} (ha : ok index a) :
    Painted ok canvas (canvas.put index a) [index] where
  written := rfl
  length := List.length_set
  kept := by
    intro i hi
    exact List.getElem?_set_ne (fun heq => hi (List.mem_singleton.2 heq.symm))
  painted := by
    intro i hi b hb
    rw [List.mem_singleton] at hi
    subst hi
    have hlt : i < canvas.cells.length := by
      have hlt' := (List.getElem?_eq_some_iff.1 hb).1
      rwa [Canvas.put, List.length_set] at hlt'
    rw [Canvas.put, List.getElem?_set_self hlt, Option.some.injEq] at hb
    exact hb ▸ ha

theorem store_nil (canvas : Canvas α) (offset : ℕ) : canvas.store offset [] = canvas := by
  simp [Canvas.store]

theorem store_cons (canvas : Canvas α) (offset : ℕ) (a : α) (data : List α) :
    canvas.store offset (a :: data) = (canvas.put offset a).store (offset + 1) data := by
  simp [Canvas.store, Canvas.put, Buffer.store_cons, List.range'_succ]

theorem painted_store {canvas : Canvas α} {offset : ℕ} {data : List α}
    (hdata : ∀ i a, data[i]? = some a → ok (offset + i) a) :
    Painted ok canvas (canvas.store offset data) (List.range' offset data.length) := by
  induction data generalizing canvas offset with
  | nil =>
      rw [store_nil]
      exact Painted.refl ok canvas
  | cons a data ih =>
      rw [store_cons, List.length_cons, List.range'_succ]
      have hput : Painted ok canvas (canvas.put offset a) [offset] := painted_put (hdata 0 a rfl)
      refine hput.trans (ih ?_)
      intro i b hb
      have hnext := hdata (i + 1) b hb
      rwa [Nat.add_comm i 1, ← Nat.add_assoc] at hnext

/-- **A loop paints what its iterations paint.** An iteration may use what was painted before it. -/
theorem painted_loop {n : ℕ} {body : ℕ → Canvas α → Canvas α} {indices : ℕ → List ℕ}
    {canvas : Canvas α}
    (h : ∀ i, i < n → ∀ canvas', Painted ok canvas canvas' ((List.range i).flatMap indices) →
      Painted ok canvas' (body i canvas') (indices i)) :
    Painted ok canvas (loop n body canvas) ((List.range n).flatMap indices) := by
  induction n with
  | zero => exact Painted.refl ok canvas
  | succ n ih =>
      have hbefore := ih fun i hi => h i (Nat.lt_succ_of_lt hi)
      rw [loop_succ, List.range_succ, List.flatMap_append, List.flatMap_singleton]
      exact hbefore.trans (h n (Nat.lt_succ_self n) _ hbefore)

/-! ### Pictures -/

/-- A drawing of a picture. -/
abbrev Draws (picture : ℕ → α) : Canvas α → Canvas α → List ℕ → Prop :=
  Painted fun i a => a = picture i

/-- A cell after a drawing. -/
theorem Painted.getElem? {picture : ℕ → α} {indices : List ℕ}
    (h : Draws picture before after indices) (i : ℕ) :
    after.cells[i]? = before.cells[i]?.map fun a => if i ∈ indices then picture i else a := by
  by_cases hi : i ∈ indices
  · by_cases hlt : i < before.cells.length
    · have hlt' : i < after.cells.length := h.length ▸ hlt
      rw [List.getElem?_eq_getElem hlt', List.getElem?_eq_getElem hlt, Option.map_some, if_pos hi]
      exact congrArg some (h.painted i hi _ (List.getElem?_eq_getElem hlt'))
    · have hge : before.cells.length ≤ i := Nat.le_of_not_lt hlt
      rw [List.getElem?_eq_none hge, List.getElem?_eq_none (h.length.symm ▸ hge)]
      rfl
  · rw [h.kept i hi]
    simp [hi]

/-- A cell that was drawn. -/
theorem Painted.getElem?_of_mem {picture : ℕ → α} {indices : List ℕ}
    (h : Draws picture before after indices) {i : ℕ} (hi : i ∈ indices)
    (hlt : i < before.cells.length) : after.cells[i]? = some (picture i) := by
  rw [h.getElem?, List.getElem?_eq_getElem hlt, Option.map_some, if_pos hi]

/-- **Two nested loops that put one cell each**: the cells that they put show the picture, and all
others are kept. -/
theorem grid_spec {p : ℕ → α} {m n : ℕ} {f : ℕ → ℕ → ℕ} {g : ℕ → ℕ → α}
    (h : ∀ i < m, ∀ j < n, g i j = p (f i j)) (canvas : Canvas α) :
    let after := loop m
      (fun i canvas => loop n (fun j canvas => canvas.put (f i j) (g i j)) canvas) canvas
    after.cells.length = canvas.cells.length ∧
      (∀ i < m, ∀ j < n, f i j < canvas.cells.length →
        after.cells[f i j]? = some (p (f i j))) ∧
      ∀ cell, (∀ i < m, ∀ j < n, cell ≠ f i j) → after.cells[cell]? = canvas.cells[cell]? := by
  intro after
  have hdraws : Draws p canvas after
      ((List.range m).flatMap fun i => (List.range n).flatMap fun j => [f i j]) := by
    refine painted_loop ?_
    intro i hi row _
    refine painted_loop ?_
    intro j hj cell _
    exact painted_put (h i hi j hj)
  refine ⟨hdraws.length, ?_, ?_⟩
  · intro i hi j hj hlt
    refine hdraws.getElem?_of_mem ?_ hlt
    exact List.mem_flatMap.2 ⟨i, List.mem_range.2 hi,
      List.mem_flatMap.2 ⟨j, List.mem_range.2 hj, List.mem_singleton.2 rfl⟩⟩
  · intro cell hcell
    refine hdraws.kept cell ?_
    intro hmem
    obtain ⟨i, hi, hmem⟩ := List.mem_flatMap.1 hmem
    obtain ⟨j, hj, hmem⟩ := List.mem_flatMap.1 hmem
    exact hcell i (List.mem_range.1 hi) j (List.mem_range.1 hj) (List.mem_singleton.1 hmem)

/-- **Two drawings of one picture that write the same cells leave the same buffer.** -/
theorem Painted.cells_eq {picture : ℕ → α} {after' : Canvas α} {indices indices' : List ℕ}
    (h : Draws picture before after indices) (h' : Draws picture before after' indices')
    (hsame : ∀ i, i ∈ indices ↔ i ∈ indices') : after.cells = after'.cells := by
  refine List.ext_getElem? ?_
  intro i
  rw [h.getElem?, h'.getElem?]
  simp only [hsame]

/-! ### Blocks -/

/-- The block and the place of a number below a product. -/
theorem block_place (block : ℕ) {place size : ℕ} (h : place < size) :
    (block * size + place) / size = block ∧ (block * size + place) % size = place := by
  have hpos : 0 < size := Nat.lt_of_le_of_lt (Nat.zero_le place) h
  refine ⟨?_, Nat.mul_add_mod_of_lt h⟩
  rw [Nat.mul_comm, Nat.mul_add_div hpos, Nat.div_eq_of_lt h, Nat.add_zero]

/-- A number below a product, as a block and a place in it. -/
theorem exists_lt_mul_iff {n size : ℕ} {P : ℕ → Prop} :
    (∃ i < n * size, P i) ↔ ∃ block < n, ∃ j < size, P (block * size + j) := by
  constructor
  · rintro ⟨i, hi, hP⟩
    have hsize : 0 < size := Nat.pos_of_ne_zero fun hzero => by simp [hzero] at hi
    refine ⟨i / size, Nat.div_lt_of_lt_mul (by rwa [Nat.mul_comm]), i % size,
      Nat.mod_lt i hsize, ?_⟩
    rwa [Nat.div_add_mod']
  · rintro ⟨block, hblock, j, hj, hP⟩
    refine ⟨block * size + j, ?_, hP⟩
    calc block * size + j < block * size + size := Nat.add_lt_add_left hj _
      _ = (block + 1) * size := by rw [Nat.add_mul, Nat.one_mul]
      _ ≤ n * size := Nat.mul_le_mul_right size hblock

/-- Blocks that follow each other. -/
theorem flatMap_range' (start size n : ℕ) :
    ((List.range n).flatMap fun i => List.range' (start + i * size) size) =
      List.range' start (n * size) := by
  induction n with
  | zero => simp
  | succ n ih =>
      rw [List.range_succ, List.flatMap_append, ih, List.flatMap_singleton, Nat.add_mul,
        Nat.one_mul,
        ← List.range'_append_1]

end Painting
