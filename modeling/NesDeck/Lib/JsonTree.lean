/-
**The trees of JSON texts.**

A JSON text is a sequence of tokens, in which a literal (a string, a number or a word) keeps
whatever it is made of. A machine over the tokens, with a stack of the arrays and objects that are
open, builds the tree.

Nothing is said here of what a literal means: a tree is the syntax of a text.

Main definitions:

* `Json.Node`, `Json.Node.All`, `Json.Node.map`, `Json.Node.depth` — trees over the literals;
* `Json.tokens`, `Json.build` — the tokens of a tree, and the machine.

Main results:

* `Json.build_tokens` — **a tree is built from its tokens**;
* `Json.all_of_build` — what is built has the literals of the tokens.
-/

import Mathlib.Data.List.Basic

set_option relaxedAutoImplicit false
set_option autoImplicit false

namespace Json

variable {α β γ : Type}

/-! ### Trees -/

/-- The syntax of a JSON text; the key of a member is a literal, too. -/
inductive Node (α : Type) where
  | literal (a : α)
  | array (items : List (Node α))
  | object (members : List (α × Node α))

namespace Node

/-- All literals of a tree have `P`, and all keys `K`. -/
inductive All (P K : α → Prop) : Node α → Prop
  | literal {a : α} : P a → All P K (.literal a)
  | array {items : List (Node α)} : (∀ t ∈ items, All P K t) → All P K (.array items)
  | object {members : List (α × Node α)} : (∀ m ∈ members, K m.1) → (∀ m ∈ members, All P K m.2) →
      All P K (.object members)

/-- Every tree has what its parts pass on to it; induction on this is induction on the tree. -/
theorem all_true (t : Node α) : All (fun _ => True) (fun _ => True) t := by
  refine @Node.rec α (fun t => All (fun _ => True) (fun _ => True) t)
    (fun items => ∀ t ∈ items, All (fun _ => True) (fun _ => True) t)
    (fun members => ∀ m ∈ members, All (fun _ => True) (fun _ => True) m.2)
    (fun m => All (fun _ => True) (fun _ => True) m.2) ?_ ?_ ?_ ?_ ?_ ?_ ?_ ?_ t
  · exact fun a => .literal trivial
  · exact fun items ih => .array ih
  · exact fun members ih => .object (fun _ _ => trivial) ih
  · exact fun _ h => absurd h List.not_mem_nil
  · intro t items ht hitems
    exact List.forall_mem_cons.2 ⟨ht, hitems⟩
  · exact fun _ h => absurd h List.not_mem_nil
  · intro m members hm hmembers
    exact List.forall_mem_cons.2 ⟨hm, hmembers⟩
  · exact fun _ _ ht => ht

theorem All.mono {P K P' K' : α → Prop} {t : Node α} (h : All P K t) (hP : ∀ a, P a → P' a)
    (hK : ∀ a, K a → K' a) : All P' K' t := by
  induction h with
  | literal ha => exact .literal (hP _ ha)
  | array _ ih => exact .array ih
  | object hkeys _ ih => exact .object (fun m hm => hK _ (hkeys m hm)) ih

section

variable {P K : α → Prop}

@[simp] theorem all_literal {a : α} : All P K (.literal a) ↔ P a := by
  constructor
  · intro h
    cases h with
    | literal ha => exact ha
  · exact All.literal

@[simp] theorem all_array {items : List (Node α)} :
    All P K (.array items) ↔ ∀ t ∈ items, All P K t := by
  constructor
  · intro h
    cases h with
    | array hitems => exact hitems
  · exact All.array

@[simp] theorem all_object {members : List (α × Node α)} :
    All P K (.object members) ↔ ∀ m ∈ members, K m.1 ∧ All P K m.2 := by
  constructor
  · intro h
    cases h with
    | object hkeys hvalues => exact fun m hm => ⟨hkeys m hm, hvalues m hm⟩
  · intro h
    exact .object (fun m hm => (h m hm).1) fun m hm => (h m hm).2

end

mutual

/-- Another literal in the place of each one. -/
def map (f : α → β) : Node α → Node β
  | .literal a => .literal (f a)
  | .array items => .array (mapItems f items)
  | .object members => .object (mapMembers f members)
termination_by structural t => t

def mapItems (f : α → β) : List (Node α) → List (Node β)
  | [] => []
  | t :: items => map f t :: mapItems f items
termination_by structural items => items

def mapMembers (f : α → β) : List (α × Node α) → List (β × Node β)
  | [] => []
  | m :: members => mapMember f m :: mapMembers f members
termination_by structural members => members

def mapMember (f : α → β) : α × Node α → β × Node β
  | (a, t) => (f a, map f t)
termination_by structural m => m

end

mutual

/-- How deep arrays and objects are nested. -/
def depth : Node α → ℕ
  | .literal _ => 0
  | .array items => depthItems items + 1
  | .object members => depthMembers members + 1
termination_by structural t => t

def depthItems : List (Node α) → ℕ
  | [] => 0
  | t :: items => max (depth t) (depthItems items)
termination_by structural items => items

def depthMembers : List (α × Node α) → ℕ
  | [] => 0
  | m :: members => max (depthMember m) (depthMembers members)
termination_by structural members => members

def depthMember : α × Node α → ℕ
  | (_, t) => depth t
termination_by structural m => m

end

section

variable (f : α → β)

theorem mapItems_eq (items : List (Node α)) : mapItems f items = items.map (map f) := by
  induction items with
  | nil => rfl
  | cons t items ih => rw [mapItems, ih, List.map_cons]

theorem mapMembers_eq (members : List (α × Node α)) :
    mapMembers f members = members.map fun m => (f m.1, map f m.2) := by
  induction members with
  | nil => rfl
  | cons m members ih => rw [mapMembers, ih, List.map_cons, mapMember]

@[simp] theorem map_literal (a : α) : map f (.literal a) = .literal (f a) := by rw [map]

@[simp] theorem map_array (items : List (Node α)) :
    map f (.array items) = .array (items.map (map f)) := by
  rw [map, mapItems_eq]

@[simp] theorem map_object (members : List (α × Node α)) :
    map f (.object members) = .object (members.map fun m => (f m.1, map f m.2)) := by
  rw [map, mapMembers_eq]

end

theorem depthItems_le {items : List (Node α)} {n : ℕ} :
    depthItems items ≤ n ↔ ∀ t ∈ items, depth t ≤ n := by
  induction items with
  | nil => simp [depthItems]
  | cons t items ih => rw [depthItems, Nat.max_le, ih, List.forall_mem_cons]

theorem depthMembers_le {members : List (α × Node α)} {n : ℕ} :
    depthMembers members ≤ n ↔ ∀ m ∈ members, depth m.2 ≤ n := by
  induction members with
  | nil => simp [depthMembers]
  | cons m members ih => rw [depthMembers, Nat.max_le, ih, List.forall_mem_cons, depthMember]

theorem depth_array_le {items : List (Node α)} {n : ℕ} :
    depth (.array items) ≤ n + 1 ↔ ∀ t ∈ items, depth t ≤ n := by
  rw [depth, Nat.add_le_add_iff_right, depthItems_le]

theorem depth_object_le {members : List (α × Node α)} {n : ℕ} :
    depth (.object members) ≤ n + 1 ↔ ∀ m ∈ members, depth m.2 ≤ n := by
  rw [depth, Nat.add_le_add_iff_right, depthMembers_le]

/-- Other literals that agree on what is there. -/
theorem map_congr {f g : α → β} {P K : α → Prop} {t : Node α} (h : All P K t)
    (hliteral : ∀ a, P a → f a = g a) (hkey : ∀ a, K a → f a = g a) : map f t = map g t := by
  induction h with
  | literal ha => rw [map_literal, map_literal, hliteral _ ha]
  | array _ ih =>
      rw [map_array, map_array]
      exact congrArg Node.array (List.map_congr_left ih)
  | object hkeys _ ih =>
      rw [map_object, map_object]
      refine congrArg Node.object (List.map_congr_left ?_)
      intro m hm
      rw [hkey _ (hkeys m hm), ih m hm]

theorem map_map (g : β → γ) (f : α → β) (t : Node α) :
    map g (map f t) = map (fun a => g (f a)) t := by
  induction all_true t with
  | literal _ => simp
  | array _ ih =>
      rw [map_array, map_array, map_array, List.map_map]
      exact congrArg Node.array (List.map_congr_left ih)
  | object _ _ ih =>
      rw [map_object, map_object, map_object, List.map_map]
      refine congrArg Node.object (List.map_congr_left ?_)
      intro m hm
      simp only [Function.comp_apply, ih m hm]

/-- What holds of the new literals. -/
theorem All.map {P K : α → Prop} {P' K' : β → Prop} {f : α → β} {t : Node α} (h : All P K t)
    (hliteral : ∀ a, P a → P' (f a)) (hkey : ∀ a, K a → K' (f a)) : All P' K' (map f t) := by
  induction h with
  | literal ha =>
      rw [map_literal]
      exact .literal (hliteral _ ha)
  | array _ ih =>
      rw [map_array]
      refine .array ?_
      intro t ht
      obtain ⟨t, hmem, rfl⟩ := List.mem_map.1 ht
      exact ih t hmem
  | object hkeys _ ih =>
      rw [map_object]
      refine .object ?_ ?_
      · intro m hm
        obtain ⟨m, hmem, rfl⟩ := List.mem_map.1 hm
        exact hkey _ (hkeys m hmem)
      · intro m hm
        obtain ⟨m, hmem, rfl⟩ := List.mem_map.1 hm
        exact ih m hmem

theorem depth_map (f : α → β) (t : Node α) : depth (map f t) = depth t := by
  induction all_true t with
  | literal _ => rw [map_literal, depth, depth]
  | array _ ih =>
      rw [map_array, depth, depth, Nat.add_right_cancel_iff]
      refine Nat.le_antisymm (depthItems_le.2 ?_) (depthItems_le.2 ?_)
      · intro t ht
        obtain ⟨t, hmem, rfl⟩ := List.mem_map.1 ht
        rw [ih t hmem]
        exact depthItems_le.1 (Nat.le_refl _) t hmem
      · intro t ht
        rw [← ih t ht]
        exact depthItems_le.1 (Nat.le_refl _) _ (List.mem_map_of_mem ht)
  | object _ _ ih =>
      rw [map_object, depth, depth, Nat.add_right_cancel_iff]
      refine Nat.le_antisymm (depthMembers_le.2 ?_) (depthMembers_le.2 ?_)
      · intro m hm
        obtain ⟨m, hmem, rfl⟩ := List.mem_map.1 hm
        dsimp only
        rw [ih m hmem]
        exact depthMembers_le.1 (Nat.le_refl _) m hmem
      · intro m hm
        rw [← ih m hm]
        exact depthMembers_le.1 (Nat.le_refl _) _
          (List.mem_map_of_mem (f := fun m => (f m.1, map f m.2)) hm)

end Node

/-! ### Tokens -/

inductive Token (α : Type) where
  | openArray
  | closeArray
  | openObject
  | closeObject
  | comma
  | colon
  | literal (a : α)
  deriving DecidableEq

mutual

def tokens : Node α → List (Token α)
  | .literal a => [.literal a]
  | .array items => .openArray :: itemTokens true items ++ [.closeArray]
  | .object members => .openObject :: memberTokens true members ++ [.closeObject]
termination_by structural t => t

/-- The items, each with a comma before it, but for the first one of the array. -/
def itemTokens (first : Bool) : List (Node α) → List (Token α)
  | [] => []
  | t :: items => (if first then [] else [.comma]) ++ tokens t ++ itemTokens false items
termination_by structural items => items

def memberTokens (first : Bool) : List (α × Node α) → List (Token α)
  | [] => []
  | m :: members =>
      (if first then [] else [.comma]) ++ oneMemberTokens m ++ memberTokens false members
termination_by structural members => members

def oneMemberTokens : α × Node α → List (Token α)
  | (a, t) => [.literal a, .colon] ++ tokens t
termination_by structural m => m

end

/-! ### Building a tree -/

/-- An array or an object that is open: what it has so far, and the key whose value is read. -/
inductive Frame (α : Type) where
  | array (items : List (Node α))
  | object (members : List (α × Node α)) (key : α)

/-- What may come next: a value, where a new array may be closed as well; a key, where a new object
may be closed as well; the colon after a key; or what may follow a tree. -/
inductive Expect (α : Type) where
  | value (new : Bool)
  | key (members : List (α × Node α)) (new : Bool)
  | colon (members : List (α × Node α)) (key : α)
  | done (t : Node α)

structure Builder (α : Type) where
  frames : List (Frame α)
  expect : Expect α

section Build

variable (isKey : α → Bool)

def buildStep : Builder α → Token α → Option (Builder α)
  | ⟨frames, .value _⟩, .literal a => some ⟨frames, .done (.literal a)⟩
  | ⟨frames, .value _⟩, .openArray => some ⟨.array [] :: frames, .value true⟩
  | ⟨frames, .value _⟩, .openObject => some ⟨frames, .key [] true⟩
  | ⟨.array [] :: frames, .value true⟩, .closeArray => some ⟨frames, .done (.array [])⟩
  | ⟨frames, .key [] true⟩, .closeObject => some ⟨frames, .done (.object [])⟩
  | ⟨frames, .key members _⟩, .literal a =>
      if isKey a = true then some ⟨frames, .colon members a⟩ else none
  | ⟨frames, .colon members a⟩, .colon => some ⟨.object members a :: frames, .value false⟩
  | ⟨.array items :: frames, .done t⟩, .comma =>
      some ⟨.array (items ++ [t]) :: frames, .value false⟩
  | ⟨.array items :: frames, .done t⟩, .closeArray => some ⟨frames, .done (.array (items ++ [t]))⟩
  | ⟨.object members a :: frames, .done t⟩, .comma =>
      some ⟨frames, .key (members ++ [(a, t)]) false⟩
  | ⟨.object members a :: frames, .done t⟩, .closeObject =>
      some ⟨frames, .done (.object (members ++ [(a, t)]))⟩
  | _, _ => none

/-- The tree that is complete, with nothing open. -/
def Builder.result : Builder α → Option (Node α)
  | ⟨[], .done t⟩ => some t
  | _ => none

def build (ts : List (Token α)) : Option (Node α) :=
  (ts.foldlM (buildStep isKey) ⟨[], .value false⟩).bind Builder.result

variable {isKey}

section Steps

variable (frames : List (Frame α)) (items : List (Node α)) (members : List (α × Node α)) (a : α)
  (t : Node α) (new : Bool)

theorem buildStep_openArray :
    buildStep isKey ⟨frames, .value new⟩ .openArray = some ⟨.array [] :: frames, .value true⟩ := by
  rw [buildStep]

theorem buildStep_openObject :
    buildStep isKey ⟨frames, .value new⟩ .openObject = some ⟨frames, .key [] true⟩ := by
  rw [buildStep]

theorem buildStep_key {a : α} (h : isKey a = true) :
    buildStep isKey ⟨frames, .key members new⟩ (.literal a) = some ⟨frames, .colon members a⟩ := by
  simp [buildStep, h]

theorem buildStep_colon :
    buildStep isKey ⟨frames, .colon members a⟩ .colon =
      some ⟨.object members a :: frames, .value false⟩ := by
  rw [buildStep]

theorem buildStep_array_comma :
    buildStep isKey ⟨.array items :: frames, .done t⟩ .comma =
      some ⟨.array (items ++ [t]) :: frames, .value false⟩ := by
  rw [buildStep]

theorem buildStep_object_comma :
    buildStep isKey ⟨.object members a :: frames, .done t⟩ .comma =
      some ⟨frames, .key (members ++ [(a, t)]) false⟩ := by
  rw [buildStep]

end Steps

/-- A tree is built from its tokens, whatever is open. -/
def Builds (isKey : α → Bool) (t : Node α) : Prop :=
  ∀ new frames,
    (tokens t).foldlM (buildStep isKey) ⟨frames, .value new⟩ = some ⟨frames, .done t⟩

/-- The items after the first one, to the end of the array. -/
theorem foldlM_itemTokens {rest : List (Node α)} (hrest : ∀ t ∈ rest, Builds isKey t)
    (frames : List (Frame α)) (done : List (Node α)) (t : Node α) :
    (itemTokens false rest ++ [Token.closeArray]).foldlM (buildStep isKey)
      ⟨.array done :: frames, .done t⟩ = some ⟨frames, .done (.array (done ++ t :: rest))⟩ := by
  induction rest generalizing done t with
  | nil => rfl
  | cons next rest ih =>
      have hnext := hrest next List.mem_cons_self false (.array (done ++ [t]) :: frames)
      have hclose := ih (fun t ht => hrest t (List.mem_cons_of_mem _ ht)) (done ++ [t]) next
      rw [List.append_assoc] at hclose
      simp only [itemTokens, if_neg Bool.false_ne_true, List.append_assoc, List.cons_append,
        List.nil_append, List.foldlM_cons, buildStep_array_comma, Option.bind_eq_bind,
        Option.bind_some]
      rw [List.foldlM_append, hnext]
      exact hclose

theorem foldlM_oneMemberTokens {m : α × Node α} (hkey : isKey m.1 = true)
    (hvalue : Builds isKey m.2) (done : List (α × Node α)) (new : Bool) (frames : List (Frame α)) :
    (oneMemberTokens m).foldlM (buildStep isKey) ⟨frames, .key done new⟩ =
      some ⟨.object done m.1 :: frames, .done m.2⟩ := by
  obtain ⟨a, t⟩ := m
  simp only [oneMemberTokens, List.cons_append, List.nil_append, List.foldlM_cons,
    buildStep_key frames done new hkey, buildStep_colon, Option.bind_eq_bind, Option.bind_some]
  exact hvalue false (.object done a :: frames)

/-- The members after the first one, to the end of the object. -/
theorem foldlM_memberTokens {rest : List (α × Node α)}
    (hrest : ∀ m ∈ rest, isKey m.1 = true ∧ Builds isKey m.2) (frames : List (Frame α))
    (done : List (α × Node α)) (m : α × Node α) :
    (memberTokens false rest ++ [Token.closeObject]).foldlM (buildStep isKey)
      ⟨.object done m.1 :: frames, .done m.2⟩ =
        some ⟨frames, .done (.object (done ++ m :: rest))⟩ := by
  induction rest generalizing done m with
  | nil => rfl
  | cons next rest ih =>
      obtain ⟨hkey, hvalue⟩ := hrest next List.mem_cons_self
      have hnext := foldlM_oneMemberTokens hkey hvalue (done ++ [m]) false frames
      have hclose := ih (fun m hm => hrest m (List.mem_cons_of_mem _ hm)) (done ++ [m]) next
      rw [List.append_assoc] at hclose
      simp only [memberTokens, if_neg Bool.false_ne_true, List.append_assoc, List.cons_append,
        List.nil_append, List.foldlM_cons, buildStep_object_comma, Option.bind_eq_bind,
        Option.bind_some]
      rw [List.foldlM_append, hnext]
      exact hclose

/-- **A tree is built from its tokens.** -/
theorem builds_of_all {t : Node α} (h : t.All (fun _ => True) (fun a => isKey a = true)) :
    Builds isKey t := by
  induction h with
  | literal _ =>
      intro new frames
      rw [tokens]
      rfl
  | @array items _ ih =>
      intro new frames
      cases items with
      | nil =>
          rw [tokens, itemTokens]
          rfl
      | cons t items =>
          have hfirst := ih t List.mem_cons_self true (.array [] :: frames)
          have hclose :=
            foldlM_itemTokens (fun t ht => ih t (List.mem_cons_of_mem _ ht)) frames [] t
          simp only [tokens, itemTokens, if_true, List.nil_append, List.cons_append,
            List.append_assoc,
            List.foldlM_cons, buildStep_openArray, Option.bind_eq_bind, Option.bind_some]
          rw [List.foldlM_append, hfirst]
          exact hclose
  | @object members hkeys _ ih =>
      intro new frames
      cases members with
      | nil =>
          rw [tokens, memberTokens]
          rfl
      | cons m members =>
          have hfirst :=
            foldlM_oneMemberTokens (hkeys m List.mem_cons_self) (ih m List.mem_cons_self) []
            true frames
          have hclose := foldlM_memberTokens
            (fun m hm => ⟨hkeys m (List.mem_cons_of_mem _ hm), ih m (List.mem_cons_of_mem _ hm)⟩)
              frames [] m
          simp only [tokens, memberTokens, if_true, List.nil_append, List.cons_append,
            List.append_assoc,
            List.foldlM_cons, buildStep_openObject, Option.bind_eq_bind, Option.bind_some]
          rw [List.foldlM_append, hfirst]
          exact hclose

/-- **What is written is built again.** -/
theorem build_tokens {t : Node α} (h : t.All (fun _ => True) (fun a => isKey a = true)) :
    build isKey (tokens t) = some t := by
  rw [build, builds_of_all h]
  rfl

/-! ### What is built is valid -/

/-- The frame has valid literals. -/
def Frame.Valid (P K : α → Prop) : Frame α → Prop
  | .array items => ∀ t ∈ items, t.All P K
  | .object members a => (∀ m ∈ members, K m.1 ∧ m.2.All P K) ∧ K a

def Expect.Valid (P K : α → Prop) : Expect α → Prop
  | .value _ => True
  | .key members _ => ∀ m ∈ members, K m.1 ∧ m.2.All P K
  | .colon members a => (∀ m ∈ members, K m.1 ∧ m.2.All P K) ∧ K a
  | .done t => t.All P K

structure Builder.Valid (P K : α → Prop) (b : Builder α) : Prop where
  frames : ∀ frame ∈ b.frames, frame.Valid P K
  expect : b.expect.Valid P K

theorem all_array_append {P K : α → Prop} {items : List (Node α)} {t : Node α}
    (h : ∀ t ∈ items, t.All P K) (ht : t.All P K) : ∀ t' ∈ items ++ [t], t'.All P K := by
  intro t' hmem
  rcases List.mem_append.1 hmem with hmem | hmem
  · exact h t' hmem
  · rw [List.mem_singleton.1 hmem]
    exact ht

theorem all_members_append {P K : α → Prop} {members : List (α × Node α)} {key : α} {t : Node α}
    (h : ∀ m ∈ members, K m.1 ∧ m.2.All P K) (hkey : K key) (ht : t.All P K) :
    ∀ m ∈ members ++ [(key, t)], K m.1 ∧ m.2.All P K := by
  intro m hmem
  rcases List.mem_append.1 hmem with hmem | hmem
  · exact h m hmem
  · rw [List.mem_singleton.1 hmem]
    exact ⟨hkey, ht⟩

/-- One token keeps the literals valid. -/
theorem Builder.Valid.step {P K : α → Prop} (hK : ∀ a, P a → isKey a = true → K a)
    {b b' : Builder α} {token : Token α} (h : b.Valid P K)
    (htoken : ∀ a, token = .literal a → P a) (hstep : buildStep isKey b token = some b') :
    b'.Valid P K := by
  obtain ⟨hframes, hexpect⟩ := h
  have hnone : ∀ m ∈ ([] : List (α × Node α)), K m.1 ∧ m.2.All P K :=
    fun _ h => absurd h List.not_mem_nil
  rw [buildStep.eq_def] at hstep
  split at hstep
  · next frames new a =>
      cases hstep
      exact ⟨hframes, .literal (htoken a rfl)⟩
  · cases hstep
    exact ⟨List.forall_mem_cons.2 ⟨fun _ h => absurd h List.not_mem_nil, hframes⟩, trivial⟩
  · cases hstep
    exact ⟨hframes, hnone⟩
  · cases hstep
    exact ⟨(List.forall_mem_cons.1 hframes).2, .array fun _ h => absurd h List.not_mem_nil⟩
  · cases hstep
    exact ⟨hframes, Node.all_object.2 hnone⟩
  · next frames members new a =>
      split at hstep
      · next hkey =>
          cases hstep
          exact ⟨hframes, hexpect, hK a (htoken a rfl) hkey⟩
      · cases hstep
  · cases hstep
    exact ⟨List.forall_mem_cons.2 ⟨hexpect, hframes⟩, trivial⟩
  · cases hstep
    obtain ⟨hitems, hframes⟩ := List.forall_mem_cons.1 hframes
    exact ⟨List.forall_mem_cons.2 ⟨all_array_append hitems hexpect, hframes⟩, trivial⟩
  · cases hstep
    obtain ⟨hitems, hframes⟩ := List.forall_mem_cons.1 hframes
    exact ⟨hframes, .array (all_array_append hitems hexpect)⟩
  · cases hstep
    obtain ⟨⟨hmembers, hkey⟩, hframes⟩ := List.forall_mem_cons.1 hframes
    exact ⟨hframes, all_members_append hmembers hkey hexpect⟩
  · cases hstep
    obtain ⟨⟨hmembers, hkey⟩, hframes⟩ := List.forall_mem_cons.1 hframes
    exact ⟨hframes, Node.all_object.2 (all_members_append hmembers hkey hexpect)⟩
  · cases hstep

/-- **What is built has the literals of the tokens**, and its keys are keys. -/
theorem all_of_build {P K : α → Prop} (hK : ∀ a, P a → isKey a = true → K a) {ts : List (Token α)}
    (hts : ∀ a, Token.literal a ∈ ts → P a) {t : Node α} (h : build isKey ts = some t) :
    t.All P K := by
  have hrun : ∀ ts : List (Token α), (∀ a, Token.literal a ∈ ts → P a) →
      ∀ b b' : Builder α, b.Valid P K → ts.foldlM (buildStep isKey) b = some b' → b'.Valid P K := by
    intro ts
    induction ts with
    | nil =>
        rintro - b b' hb hrun
        cases hrun
        exact hb
    | cons token ts ih =>
        intro hts b b' hb hrun
        rw [List.foldlM_cons, Option.bind_eq_bind, Option.bind_eq_some_iff] at hrun
        obtain ⟨next, hstep, hrest⟩ := hrun
        have hnext := hb.step hK (fun a ha => hts a (ha ▸ List.mem_cons_self)) hstep
        exact ih (fun a ha => hts a (List.mem_cons_of_mem _ ha)) next b' hnext hrest
  rw [build, Option.bind_eq_some_iff] at h
  obtain ⟨⟨frames, expect⟩, hfold, hresult⟩ := h
  have hstart : Builder.Valid P K (⟨[], .value false⟩ : Builder α) :=
    ⟨fun _ h => absurd h List.not_mem_nil, trivial⟩
  have hvalid := hrun ts hts _ _ hstart hfold
  cases frames with
  | nil =>
      cases expect with
      | done t' =>
          obtain rfl : t' = t := Option.some.inj hresult
          exact hvalid.expect
      | value _ => cases hresult
      | key _ _ => cases hresult
      | colon _ _ => cases hresult
  | cons _ _ => cases hresult

end Build

end Json
