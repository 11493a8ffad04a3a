/-
**Tables with a bound on their size.**

A map from keys to values as a program keeps it in memory: every key has at most one value, the
number of keys is known, and a loop over the map visits its entries in an order that nobody
promises.  A service that must not grow without limit removes an entry before it adds one, and
takes the one with the least stamp, found by such a loop.

Main definitions:

* `Table` — a finite map;
* `Table.get`, `Table.set`, `Table.erase`, `Table.filter`, `Table.size` — its operations;
* `Table.Visit` — an order in which the entries are visited;
* `Table.oldest` — the loop that looks for the least stamp.

Main results:

* `Table.get_set`, `Table.get_erase`, `Table.get_filter_eq_some` — what is found after an operation;
* `Table.size_set_le`, `Table.size_erase` — the sizes;
* `Table.oldest_mem`, `Table.oldest_le` — **the loop finds an entry, and no entry has a smaller
  stamp**.
-/

import Mathlib.Data.List.Nodup
import Mathlib.Data.List.Perm.Basic

set_option relaxedAutoImplicit false
set_option autoImplicit false

/-- A finite map: no two entries have the same key. -/
structure Table (κ α : Type) where
  entries : List (κ × α)
  nodup : (entries.map Prod.fst).Nodup

namespace Table

variable {κ α : Type}

/-- The map with no entry. -/
def empty : Table κ α := ⟨[], List.nodup_nil⟩

/-- The number of keys. -/
def size (t : Table κ α) : ℕ := t.entries.length

@[simp] theorem size_empty : (empty : Table κ α).size = 0 := rfl

/-- The entries that pass a test. -/
def filter (t : Table κ α) (p : κ × α → Bool) : Table κ α where
  entries := t.entries.filter p
  nodup := t.nodup.sublist (List.Sublist.map Prod.fst List.filter_sublist)

variable [DecidableEq κ]

/-- The value of a key. -/
def get (t : Table κ α) (k : κ) : Option α := (t.entries.find? (·.1 = k)).map Prod.snd

/-- The map without a key. -/
def erase (t : Table κ α) (k : κ) : Table κ α := t.filter (·.1 ≠ k)

/-- The map in which a key has a new value. -/
def set (t : Table κ α) (k : κ) (v : α) : Table κ α where
  entries := (k, v) :: (t.erase k).entries
  nodup := by
    rw [List.map_cons, List.nodup_cons]
    refine ⟨?_, (t.erase k).nodup⟩
    intro hk
    obtain ⟨entry, hentry, rfl⟩ := List.mem_map.1 hk
    simpa using (List.mem_filter.1 hentry).2

/-! ### Looking up -/

/-- A key is found with the value it has. -/
theorem get_eq_some (t : Table κ α) (k : κ) (v : α) : t.get k = some v ↔ (k, v) ∈ t.entries := by
  obtain ⟨entries, hnodup⟩ := t
  unfold get
  simp only
  induction entries with
  | nil => simp
  | cons entry entries ih =>
      rw [List.map_cons, List.nodup_cons] at hnodup
      by_cases hk : entry.1 = k
      · rw [List.find?_cons_of_pos (by simpa using hk), Option.map_some, Option.some.injEq,
          List.mem_cons]
        constructor
        · rintro rfl
          exact Or.inl (by rw [← hk])
        · rintro (heq | hmem)
          · rw [← heq]
          · -- The key of the head does not come back.
            have hagain : entry.1 ∈ entries.map Prod.fst := List.mem_map.2 ⟨(k, v), hmem, hk.symm⟩
            exact absurd hagain hnodup.1
      · rw [List.find?_cons_of_neg (by simpa using hk), ih hnodup.2, List.mem_cons]
        constructor
        · exact Or.inr
        · rintro (heq | hmem)
          · exact absurd (by rw [← heq]) hk
          · exact hmem

theorem get_eq_none (t : Table κ α) (k : κ) : t.get k = none ↔ ∀ v, (k, v) ∉ t.entries := by
  constructor
  · intro h v hmem
    rw [(get_eq_some t k v).2 hmem] at h
    cases h
  · intro h
    cases hget : t.get k with
    | none => rfl
    | some v => exact absurd ((get_eq_some t k v).1 hget) (h v)

@[simp] theorem get_empty (k : κ) : (empty : Table κ α).get k = none := rfl

theorem get_filter_eq_some (t : Table κ α) (p : κ × α → Bool) (k : κ) (v : α) :
    (t.filter p).get k = some v ↔ t.get k = some v ∧ p (k, v) = true := by
  rw [get_eq_some, get_eq_some]
  exact List.mem_filter

/-- What is found after a key was removed. -/
theorem get_erase (t : Table κ α) (k k' : κ) :
    (t.erase k).get k' = if k' = k then none else t.get k' := by
  split
  · next hk =>
      rw [get_eq_none]
      intro v hmem
      simpa [hk] using (List.mem_filter.1 hmem).2
  · next hk =>
      refine Option.ext ?_
      intro v
      rw [erase, get_filter_eq_some]
      simp [hk]

@[simp] theorem get_erase_self (t : Table κ α) (k : κ) : (t.erase k).get k = none := by
  rw [get_erase, if_pos rfl]

theorem get_erase_of_ne (t : Table κ α) {k k' : κ} (h : k' ≠ k) :
    (t.erase k).get k' = t.get k' := by
  rw [get_erase, if_neg h]

/-- What is found after a key got a value. -/
theorem get_set (t : Table κ α) (k k' : κ) (v : α) :
    (t.set k v).get k' = if k' = k then some v else t.get k' := by
  split
  · next hk =>
      rw [get_eq_some, hk]
      exact List.mem_cons_self
  · next hk =>
      rw [← get_erase_of_ne t hk]
      unfold get set
      rw [List.find?_cons_of_neg (by simpa using Ne.symm hk)]

@[simp] theorem get_set_self (t : Table κ α) (k : κ) (v : α) : (t.set k v).get k = some v := by
  rw [get_set, if_pos rfl]

theorem get_set_of_ne (t : Table κ α) {k k' : κ} (v : α) (h : k' ≠ k) :
    (t.set k v).get k' = t.get k' := by
  rw [get_set, if_neg h]

/-! ### Sizes -/

omit [DecidableEq κ] in
theorem size_filter_le (t : Table κ α) (p : κ × α → Bool) : (t.filter p).size ≤ t.size :=
  List.length_filter_le p t.entries

theorem size_erase_le (t : Table κ α) (k : κ) : (t.erase k).size ≤ t.size :=
  size_filter_le t _

theorem size_set_le (t : Table κ α) (k : κ) (v : α) : (t.set k v).size ≤ t.size + 1 :=
  Nat.succ_le_succ (size_erase_le t k)

/-- Removing a key that is there makes the map smaller. -/
theorem size_erase {t : Table κ α} {k : κ} {v : α} (h : (k, v) ∈ t.entries) :
    (t.erase k).size + 1 = t.size := by
  obtain ⟨entries, hnodup⟩ := t
  unfold size erase filter
  simp only
  induction entries with
  | nil => simp at h
  | cons entry entries ih =>
      rw [List.map_cons, List.nodup_cons] at hnodup
      rcases List.mem_cons.1 h with rfl | hmem
      · -- No other entry has the key.
        rw [List.filter_cons_of_neg (by simp), List.length_cons]
        congr 2
        refine List.filter_eq_self.2 ?_
        intro other hother
        have hne : other.1 ≠ k := fun hk => hnodup.1 (List.mem_map.2 ⟨other, hother, hk⟩)
        simpa using hne
      · have hne : entry.1 ≠ k := by
          rintro rfl
          exact hnodup.1 (List.mem_map.2 ⟨_, hmem, rfl⟩)
        rw [List.filter_cons_of_pos (by simpa using hne), List.length_cons, List.length_cons,
          ih hnodup.2 hmem]

/-- Adding a key that was not there makes the map larger. -/
theorem size_set_of_get_eq_none {t : Table κ α} {k : κ} (h : t.get k = none) (v : α) :
    (t.set k v).size = t.size + 1 := by
  have hkept : (t.erase k).entries = t.entries := by
    refine List.filter_eq_self.2 ?_
    intro entry hentry
    have hne : entry.1 ≠ k := by
      rintro rfl
      exact (get_eq_none t _).1 h entry.2 hentry
    simpa using hne
  rw [size, set, List.length_cons, hkept, size]

omit [DecidableEq κ] in
/-- The keys have no duplicates, so that their number does not depend on the order. -/
theorem size_eq_of_keys {t : Table κ α} {keys : List κ} (hnodup : keys.Nodup)
    (h : ∀ k, k ∈ keys ↔ ∃ v, (k, v) ∈ t.entries) : t.size = keys.length := by
  have hperm : (t.entries.map Prod.fst).Perm keys := by
    refine (List.perm_ext_iff_of_nodup t.nodup hnodup).2 ?_
    intro k
    rw [h, List.mem_map]
    constructor
    · rintro ⟨⟨k', v⟩, hmem, rfl⟩
      exact ⟨v, hmem⟩
    · rintro ⟨v, hmem⟩
      exact ⟨(k, v), hmem, rfl⟩
  rw [size, ← hperm.length_eq, List.length_map]

/-- A key with its value, and the other entries. -/
theorem perm_erase {t : Table κ α} {k : κ} {v : α} (h : (k, v) ∈ t.entries) :
    t.entries.Perm ((k, v) :: (t.erase k).entries) := by
  have hset : ((t.set k v).entries.map Prod.fst).Nodup := (t.set k v).nodup
  refine (List.perm_ext_iff_of_nodup (t.nodup.of_map _) (hset.of_map _)).2 ?_
  rintro ⟨k', v'⟩
  rw [← get_eq_some, ← get_eq_some, get_set]
  split
  · next heq => rw [heq, (get_eq_some t k v).2 h]
  · rfl

/-- Setting keys that are all different. -/
theorem get_foldl_set {β : Type} {key : β → κ} {f : β → α} {l : List β}
    (hnodup : (l.map key).Nodup) (t : Table κ α) (k : κ) :
    (∀ b ∈ l, key b = k →
      (l.foldl (fun t b => t.set (key b) (f b)) t).get k = some (f b)) ∧
      ((∀ b ∈ l, key b ≠ k) → (l.foldl (fun t b => t.set (key b) (f b)) t).get k = t.get k) := by
  induction l generalizing t with
  | nil => exact ⟨fun b hb => absurd hb List.not_mem_nil, fun _ => rfl⟩
  | cons b l ih =>
      rw [List.map_cons, List.nodup_cons] at hnodup
      obtain ⟨hhit, hmiss⟩ := ih hnodup.2 (t.set (key b) (f b))
      rw [List.foldl_cons]
      constructor
      · intro b' hb' hk
        rcases List.mem_cons.1 hb' with rfl | hmem
        · -- The key of the head does not come back.
          rw [hmiss fun c hc hck => hnodup.1 (List.mem_map.2 ⟨c, hc, hck.trans hk.symm⟩), hk,
            get_set_self]
        · exact hhit b' hmem hk
      · intro hne
        rw [hmiss fun c hc => hne c (List.mem_cons_of_mem _ hc),
          get_set_of_ne _ _ (hne b List.mem_cons_self).symm]

/-! ### The entry with the least stamp -/

/-- An order in which a loop may visit the entries of a map. -/
structure Visit (κ α : Type) where
  order : List (κ × α) → List (κ × α)
  perm : ∀ entries, (order entries).Perm entries

/-- The order in which the entries happen to be kept. -/
def Visit.asKept : Visit κ α := ⟨id, fun _ => List.Perm.refl _⟩

/-- The body of the loop: an entry is taken when none was taken before (which is told by the key
`blank`) or when its stamp is less. -/
def pick (blank : κ) (stamp : α → ℕ) (best : κ × ℕ) (entry : κ × α) : κ × ℕ :=
  if best.1 = blank ∨ stamp entry.2 < best.2 then (entry.1, stamp entry.2) else best

/-- The key with the least stamp, as a loop over the entries finds it. -/
def oldest (t : Table κ α) (visit : Visit κ α) (blank : κ) (stamp : α → ℕ) : κ :=
  ((visit.order t.entries).foldl (pick blank stamp) (blank, 0)).1

/-- What the loop holds is the first entry it saw, or one it saw later. -/
theorem foldl_pick_mem (blank : κ) (stamp : α → ℕ) (entries : List (κ × α)) (best : κ × ℕ) :
    entries.foldl (pick blank stamp) best = best ∨
      ∃ entry ∈ entries, entries.foldl (pick blank stamp) best = (entry.1, stamp entry.2) := by
  induction entries generalizing best with
  | nil => exact Or.inl rfl
  | cons entry entries ih =>
      rw [List.foldl_cons]
      rcases ih (pick blank stamp best entry) with hsame | ⟨other, hmem, hother⟩
      · rw [hsame]
        unfold pick
        split
        · exact Or.inr ⟨entry, List.mem_cons_self, rfl⟩
        · exact Or.inl rfl
      · exact Or.inr ⟨other, List.mem_cons_of_mem _ hmem, hother⟩

/-- **The loop finds an entry.** -/
theorem oldest_mem {t : Table κ α} (h : t.entries ≠ []) (visit : Visit κ α) (blank : κ)
    (stamp : α → ℕ) : ∃ v, (t.oldest visit blank stamp, v) ∈ t.entries := by
  have hmem : ∀ entry, entry ∈ visit.order t.entries ↔ entry ∈ t.entries :=
    fun entry => (visit.perm t.entries).mem_iff
  unfold oldest
  cases horder : visit.order t.entries with
  | nil =>
      rw [horder] at hmem
      cases hentries : t.entries with
      | nil => exact absurd hentries h
      | cons entry rest =>
          rw [hentries] at hmem
          simpa using (hmem entry).2
  | cons first rest =>
      rw [horder] at hmem
      have hfirst : pick blank stamp (blank, 0) first = (first.1, stamp first.2) := by simp [pick]
      rw [List.foldl_cons, hfirst]
      rcases foldl_pick_mem blank stamp rest (first.1, stamp first.2)
        with hsame | ⟨entry, he, hentry⟩
      · rw [hsame]
        exact ⟨first.2, (hmem first).1 List.mem_cons_self⟩
      · rw [hentry]
        exact ⟨entry.2, (hmem entry).1 (List.mem_cons_of_mem _ he)⟩

/-- While no key is the blank one, the stamp the loop holds only falls. -/
theorem foldl_pick_le {blank : κ} {stamp : α → ℕ} {entries : List (κ × α)} {best : κ × ℕ}
    (hblank : ∀ entry ∈ entries, entry.1 ≠ blank) (hbest : best.1 ≠ blank) :
    (entries.foldl (pick blank stamp) best).2 ≤ best.2 ∧
      ∀ entry ∈ entries, (entries.foldl (pick blank stamp) best).2 ≤ stamp entry.2 := by
  induction entries generalizing best with
  | nil => exact ⟨Nat.le_refl _, by simp⟩
  | cons entry entries ih =>
      have hrest : ∀ other ∈ entries, other.1 ≠ blank :=
        fun other hother => hblank other (List.mem_cons_of_mem _ hother)
      have hnext : (pick blank stamp best entry).1 ≠ blank ∧
          (pick blank stamp best entry).2 ≤ best.2 ∧
          (pick blank stamp best entry).2 ≤ stamp entry.2 := by
        unfold pick
        split
        · next hless =>
            refine ⟨hblank entry List.mem_cons_self, ?_, Nat.le_refl _⟩
            rcases hless with hfalse | hless
            · exact absurd hfalse hbest
            · exact Nat.le_of_lt hless
        · next hmore =>
            rw [not_or, Nat.not_lt] at hmore
            exact ⟨hbest, Nat.le_refl _, hmore.2⟩
      obtain ⟨hle, hall⟩ := ih hrest hnext.1
      rw [List.foldl_cons]
      refine ⟨Nat.le_trans hle hnext.2.1, ?_⟩
      intro other hother
      rcases List.mem_cons.1 hother with rfl | hother
      · exact Nat.le_trans hle hnext.2.2
      · exact hall other hother

/-- **No entry has a smaller stamp than the one the loop finds**, as long as no key is the blank
one. -/
theorem oldest_le {t : Table κ α} {visit : Visit κ α} {blank : κ} {stamp : α → ℕ}
    (hblank : ∀ entry ∈ t.entries, entry.1 ≠ blank) {v : α}
    (hv : (t.oldest visit blank stamp, v) ∈ t.entries) :
    ∀ entry ∈ t.entries, stamp v ≤ stamp entry.2 := by
  have hmem : ∀ entry, entry ∈ visit.order t.entries ↔ entry ∈ t.entries :=
    fun entry => (visit.perm t.entries).mem_iff
  revert hv
  unfold oldest
  cases horder : visit.order t.entries with
  | nil =>
      intro hv
      rw [horder] at hmem
      exact absurd ((hmem _).2 hv) List.not_mem_nil
  | cons first rest =>
      rw [horder] at hmem
      have hfirst : pick blank stamp (blank, 0) first = (first.1, stamp first.2) := by simp [pick]
      rw [List.foldl_cons, hfirst]
      intro hv entry hentry
      have hrest : ∀ other ∈ rest, other.1 ≠ blank := fun other hother =>
        hblank other ((hmem other).1 (List.mem_cons_of_mem _ hother))
      have hbest : ((first.1, stamp first.2) : κ × ℕ).1 ≠ blank :=
        hblank first ((hmem first).1 List.mem_cons_self)
      obtain ⟨hstamp, hall⟩ := @foldl_pick_le _ _ _ blank stamp rest _ hrest hbest
      -- The stamp that is held is the stamp of the entry with the key that is held.
      have hheld : stamp v = (rest.foldl (pick blank stamp) (first.1, stamp first.2)).2 := by
        have hunique : ∀ other, (other ∈ t.entries) →
            other.1 = (rest.foldl (pick blank stamp) (first.1, stamp first.2)).1 → other.2 = v := by
          intro other hother hkey
          have hget := (get_eq_some t other.1 other.2).2 hother
          rw [hkey, (get_eq_some t _ v).2 hv] at hget
          exact (Option.some.inj hget).symm
        rcases foldl_pick_mem blank stamp rest (first.1, stamp first.2)
          with hsame | ⟨other, ho, hother⟩
        · rw [hsame] at hunique ⊢
          rw [hunique first ((hmem first).1 List.mem_cons_self) rfl]
        · rw [hother] at hunique ⊢
          rw [hunique other ((hmem other).1 (List.mem_cons_of_mem _ ho)) rfl]
      rw [hheld]
      rcases List.mem_cons.1 ((hmem entry).2 hentry) with rfl | hother
      · exact hstamp
      · exact hall entry hother

end Table
