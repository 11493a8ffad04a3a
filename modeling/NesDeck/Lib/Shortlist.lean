/-
**Shortlists.**

A shortlist is collected from offers: an offer is taken unless one with the same key was taken
before. Then some keys are called one after the other, and the entry with that key, if there is one,
comes forward. The keys may be coarser than what the offers are about, so that an offer is taken for
another one, or finer, so that two offers of the same thing are kept apart; an offer without key is
always taken and never called.

Main definitions:

* `Shortlist.collect` — the offers that are taken;
* `Shortlist.own` — an offer is not taken for one of something else;
* `Shortlist.promote` — the order after some keys were called.

Main results:

* `Shortlist.nodup_collect`, `Shortlist.promote_perm` — no two entries have the same key, and no
  entry is lost;
* `Shortlist.mem_map_collect_iff` — **what has an entry**: what is offered and not taken for
  something else;
* `Shortlist.nodup_map_collect_iff` — **when nothing has two**: its offers have one key;
* `Shortlist.map_collect`, `Shortlist.map_promote` — **the order is then the order of preference**:
  what is called first, then what is offered first.
-/

import Mathlib.Data.List.Induction
import Mathlib.Data.List.Pairwise
import NesDeck.Lib.Recent

set_option relaxedAutoImplicit false
set_option autoImplicit false

namespace Shortlist

variable {α K β : Type} [DecidableEq K] [DecidableEq β] (key : α → Option K)

/-- One offer is taken, unless its key was taken before. -/
def accept (got : List α) (x : α) : List α :=
  if (key x).isSome ∧ key x ∈ got.map key then got else got ++ [x]

/-- The offers that are taken. -/
def collect (offers : List α) : List α := offers.foldl (accept key) []

/-- The first offer with the key of another one: that one is taken for it. -/
def first (offers : List α) (x : α) : Option α :=
  offers.find? fun y => (key x).isSome && (key y = key x : Bool)

/-- An offer is not taken for one of something else. -/
def own (f : α → β) (offers : List α) (x : α) : Bool := (first key offers x).all (f · = f x)

/-- The order after some keys were called. -/
def promote : List K → List α → List α
  | [], xs => xs
  | k :: ks, xs =>
      match xs.find? (key · = some k) with
      | some x => x :: promote ks (xs.filter (key · ≠ some k))
      | none => promote ks xs

variable {key}

/-! ### Entries with different keys -/

omit [DecidableEq K] in
/-- Where no key occurs twice, it belongs to one entry. -/
theorem eq_of_key_eq {xs : List α} (hkeys : (xs.filterMap key).Nodup) {x y : α} {k : K}
    (hx : x ∈ xs) (hy : y ∈ xs) (hkx : key x = some k) (hky : key y = some k) : x = y := by
  induction xs with
  | nil => cases hx
  | cons z zs ih =>
      have hrest := hkeys.sublist ((List.sublist_cons_self z zs).filterMap key)
      -- The key of the head does not occur behind it.
      have hhead : key z = some k → ∀ w ∈ zs, key w ≠ some k := by
        intro hz w hw hkw
        rw [List.filterMap_cons_some hz, List.nodup_cons] at hkeys
        exact hkeys.1 (List.mem_filterMap.2 ⟨w, hw, hkw⟩)
      rcases List.mem_cons.1 hx with rfl | hx'
      · rcases List.mem_cons.1 hy with rfl | hy'
        · rfl
        · exact absurd hky (hhead hkx y hy')
      · rcases List.mem_cons.1 hy with rfl | hy'
        · exact absurd hkx (hhead hky x hx')
        · exact ih hrest hx' hy'

/-- An entry is found by its key. -/
theorem find?_eq_of_mem {xs : List α} (hkeys : (xs.filterMap key).Nodup) {x : α} {k : K}
    (hx : x ∈ xs) (hk : key x = some k) : xs.find? (key · = some k) = some x := by
  cases hfind : xs.find? (key · = some k) with
  | none => exact absurd (by simpa using hk) (List.find?_eq_none.1 hfind x hx)
  | some y =>
      have hy : key y = some k := by simpa using List.find?_some hfind
      rw [eq_of_key_eq hkeys (List.mem_of_find?_eq_some hfind) hx hy hk]

/-- Among some of the entries that one is found, if it is there. -/
theorem find?_filter {xs : List α} (hkeys : (xs.filterMap key).Nodup) (p : α → Bool) (k : K) :
    (xs.filter p).find? (key · = some k) = (xs.find? (key · = some k)).filter p := by
  cases hfind : xs.find? (key · = some k) with
  | none =>
      rw [Option.filter_none, List.find?_eq_none]
      exact fun x hx => List.find?_eq_none.1 hfind x (List.mem_filter.1 hx).1
  | some x =>
      have hx : x ∈ xs := List.mem_of_find?_eq_some hfind
      have hk : key x = some k := by simpa using List.find?_some hfind
      by_cases hp : p x = true
      · rw [find?_eq_of_mem (hkeys.sublist (List.filter_sublist.filterMap key))
          (List.mem_filter.2 ⟨hx, hp⟩) hk]
        simp [Option.filter, hp]
      · rw [Option.filter_some, if_neg hp, List.find?_eq_none]
        intro y hy hky
        obtain ⟨hmem, hpy⟩ := List.mem_filter.1 hy
        rw [eq_of_key_eq hkeys hmem hx (by simpa using hky) hk] at hpy
        exact hp hpy

/-- A key occurs exactly when it is found. -/
theorem mem_map_key_iff {xs : List α} {k : K} :
    some k ∈ xs.map key ↔ (xs.find? (key · = some k)).isSome := by
  rw [List.find?_isSome, List.mem_map]
  simp

theorem first_eq_find? {offers : List α} {x : α} {k : K} (hk : key x = some k) :
    first key offers x = offers.find? (key · = some k) := by
  simp [first, hk]

theorem first_eq_none {offers : List α} {x : α} (hk : key x = none) :
    first key offers x = none := by
  simp [first, hk]

/-! ### Collecting -/

theorem collect_append (xs : List α) (x : α) :
    collect key (xs ++ [x]) = accept key (collect key xs) x := by
  simp [collect]

/-- What was taken stays. -/
theorem collect_initial (xs ys : List α) : collect key xs <+: collect key (xs ++ ys) := by
  induction ys using List.reverseRecOn with
  | nil => simp
  | append_singleton ys y ih =>
      rw [← List.append_assoc, collect_append, accept]
      split
      · exact ih
      · exact ih.trans (List.prefix_append _ _)

theorem collect_initial_cons (done later : List α) (x : α) :
    collect key (done ++ [x]) <+: collect key (done ++ x :: later) := by
  have h := @collect_initial _ _ _ key (done ++ [x]) later
  rwa [List.append_assoc, List.singleton_append] at h

/-- Only offers are taken, in their order. -/
theorem collect_sublist (offers : List α) : (collect key offers).Sublist offers := by
  induction offers using List.reverseRecOn with
  | nil => exact List.Sublist.refl _
  | append_singleton offers x ih =>
      rw [collect_append, accept]
      split
      · exact ih.trans (List.sublist_append_left _ _)
      · exact ih.append (List.Sublist.refl _)

theorem mem_of_mem_collect {offers : List α} {x : α} (h : x ∈ collect key offers) : x ∈ offers :=
  (collect_sublist offers).subset h

/-- **The first offer with a key is taken.** -/
theorem find?_collect (offers : List α) (k : K) :
    (collect key offers).find? (key · = some k) = offers.find? (key · = some k) := by
  induction offers using List.reverseRecOn with
  | nil => rfl
  | append_singleton offers x ih =>
      rw [collect_append, accept, List.find?_append, ← ih]
      split
      · next hold =>
          -- An offer that is passed over has a key that was found before.
          by_cases hk : key x = some k
          · have hfound := mem_map_key_iff.1 (hk ▸ hold.2)
            rw [Option.or_of_isSome hfound]
          · rw [List.find?_cons_of_neg (by simpa using hk), List.find?_nil, Option.or_none]
      · rw [List.find?_append]

/-- **No two entries have the same key.** -/
theorem nodup_collect (offers : List α) : ((collect key offers).filterMap key).Nodup := by
  induction offers using List.reverseRecOn with
  | nil => exact List.nodup_nil
  | append_singleton offers x ih =>
      rw [collect_append, accept]
      split
      · exact ih
      · next hnew =>
          rw [List.filterMap_append]
          cases hk : key x with
          | none => simpa [hk] using ih
          | some k =>
              have hfresh : k ∉ (collect key offers).filterMap key := by
                intro hmem
                obtain ⟨y, hy, hky⟩ := List.mem_filterMap.1 hmem
                refine hnew ⟨by simp [hk], List.mem_map.2 ⟨y, hy, ?_⟩⟩
                rw [hky, hk]
              rw [List.filterMap_cons_some hk, List.filterMap_nil, List.nodup_append]
              refine ⟨ih, List.nodup_singleton _, ?_⟩
              rintro a ha b hb rfl
              exact hfresh (List.mem_singleton.1 hb ▸ ha)

/-- Offers without key are all taken. -/
theorem filter_collect_none (offers : List α) :
    (collect key offers).filter (key · = none) = offers.filter (key · = none) := by
  induction offers using List.reverseRecOn with
  | nil => rfl
  | append_singleton offers x ih =>
      rw [collect_append, accept, List.filter_append, ← ih]
      split
      · next hold =>
          rw [List.filter_cons_of_neg (by simpa [Option.isSome_iff_ne_none] using hold.1),
            List.filter_nil, List.append_nil]
      · rw [List.filter_append]

/-! ### What has an entry -/

section Values

variable {f : α → β} {offers : List α}

/-- An entry is not taken for another one. -/
theorem own_of_mem_collect {x : α} (h : x ∈ collect key offers) : own key f offers x = true := by
  unfold own
  cases hk : key x with
  | none => rw [first_eq_none hk, Option.all_none]
  | some k =>
      rw [first_eq_find? hk, ← find?_collect, find?_eq_of_mem (nodup_collect offers) h hk]
      simp

/-- What is not taken for something else has an entry, with its key. -/
theorem exists_mem_collect {x : α} (hx : x ∈ offers) (h : own key f offers x = true) :
    ∃ y ∈ collect key offers, key y = key x ∧ f y = f x := by
  cases hk : key x with
  | none =>
      have hmem : x ∈ (collect key offers).filter (key · = none) := by
        rw [filter_collect_none]
        exact List.mem_filter.2 ⟨hx, by simpa using hk⟩
      exact ⟨x, (List.mem_filter.1 hmem).1, hk, rfl⟩
  | some k =>
      obtain ⟨y, hy⟩ := Option.isSome_iff_exists.1
        (mem_map_key_iff.1 (List.mem_map.2 ⟨x, hx, hk⟩))
      rw [own, first_eq_find? hk, hy] at h
      rw [← find?_collect] at hy
      exact ⟨y, List.mem_of_find?_eq_some hy, by simpa using List.find?_some hy, by simpa using h⟩

/-- **What has an entry is what is offered and not taken for something else.** -/
theorem mem_map_collect_iff {v : β} :
    v ∈ (collect key offers).map f ↔ ∃ x ∈ offers, own key f offers x = true ∧ f x = v := by
  rw [List.mem_map]
  constructor
  · rintro ⟨x, hx, rfl⟩
    exact ⟨x, mem_of_mem_collect hx, own_of_mem_collect hx, rfl⟩
  · rintro ⟨x, hx, hown, rfl⟩
    obtain ⟨y, hy, -, hvalue⟩ := exists_mem_collect hx hown
    exact ⟨y, hy, hvalue⟩

/-- **Nothing has two entries exactly when its offers have one key**, apart from those that are
taken for something else. -/
theorem nodup_map_collect_iff :
    ((collect key offers).map f).Nodup ↔ offers.Pairwise fun x y =>
      own key f offers x = true → own key f offers y = true → f x = f y →
        (key x).isSome ∧ key x = key y := by
  constructor
  · intro h
    rw [List.pairwise_iff_forall_sublist]
    intro x y hpair hx hy hvalue
    have hmem : x ∈ offers ∧ y ∈ offers := ⟨hpair.subset (by simp), hpair.subset (by simp)⟩
    obtain ⟨a, ha, hka, hfa⟩ := exists_mem_collect hmem.1 hx
    obtain ⟨b, hb, hkb, hfb⟩ := exists_mem_collect hmem.2 hy
    -- The two entries are the same one.
    have hsame : a = b := List.inj_on_of_nodup_map h ha hb (by rw [hfa, hfb, hvalue])
    have hkey : key x = key y := by rw [← hka, ← hkb, hsame]
    refine ⟨?_, hkey⟩
    rw [Option.isSome_iff_ne_none]
    intro hnone
    -- Without a key the two offers would both be entries.
    have htwice : [x, y].Sublist (collect key offers) := by
      have hself : [x, y].filter (key · = none) = [x, y] :=
        List.filter_eq_self.2 (by simp [hnone, hkey.symm.trans hnone])
      have hfilter := hpair.filter (key · = none)
      rw [← filter_collect_none offers, hself] at hfilter
      exact hfilter.trans List.filter_sublist
    have hnodup := h.sublist (htwice.map f)
    simp [hvalue] at hnodup
  · intro h
    rw [List.Nodup, List.pairwise_map, List.pairwise_iff_forall_sublist]
    intro x y hpair hvalue
    have hmem : x ∈ collect key offers ∧ y ∈ collect key offers :=
      ⟨hpair.subset (by simp), hpair.subset (by simp)⟩
    obtain ⟨hsome, hkey⟩ := List.pairwise_iff_forall_sublist.1 h
      (hpair.trans (collect_sublist offers)) (own_of_mem_collect hmem.1)
      (own_of_mem_collect hmem.2) hvalue
    obtain ⟨k, hk⟩ := Option.isSome_iff_exists.1 hsome
    have hnodup := (nodup_collect offers).sublist (hpair.filterMap key)
    simp [← hkey, hk] at hnodup

/-- An offer that is taken for something else is passed over. -/
theorem passed_of_not_own {done later : List α} {x : α}
    (h : own key f (done ++ x :: later) x = false) :
    (key x).isSome ∧ key x ∈ (collect key done).map key := by
  by_contra hnew
  have hmem : x ∈ collect key (done ++ [x]) := by
    rw [collect_append, accept, if_neg hnew]
    exact List.mem_append_right _ List.mem_cons_self
  rw [own_of_mem_collect ((collect_initial_cons done later x).subset hmem)] at h
  cases h

/-- Any other offer is passed over exactly when what it is about has an entry. -/
theorem passed_iff {done later : List α} {x : α} (hown : own key f (done ++ x :: later) x = true)
    (hnodup : ((collect key (done ++ [x])).map f).Nodup) :
    (key x).isSome ∧ key x ∈ (collect key done).map key ↔ f x ∈ (collect key done).map f := by
  constructor
  · rintro ⟨hsome, hmem⟩
    obtain ⟨k, hk⟩ := Option.isSome_iff_exists.1 hsome
    obtain ⟨y, hy⟩ := Option.isSome_iff_exists.1 (mem_map_key_iff.1 (hk ▸ hmem))
    -- The entry with the key is the one that the offer is taken for.
    have hfirst : first key (done ++ x :: later) x = some y := by
      rw [first_eq_find? hk, List.find?_append, ← find?_collect, hy, Option.some_or]
    rw [own, hfirst] at hown
    exact List.mem_map.2 ⟨y, List.mem_of_find?_eq_some hy, by simpa using hown⟩
  · intro hmem
    by_contra hnew
    rw [collect_append, accept, if_neg hnew, List.map_append, List.nodup_append] at hnodup
    exact hnodup.2.2 _ hmem _ List.mem_cons_self rfl

variable [BEq β] [LawfulBEq β]

/-- **Where nothing has two entries, they are in the order of the offers**, without those that are
taken for something else. -/
theorem map_collect (hnodup : ((collect key offers).map f).Nodup) :
    (collect key offers).map f = ((offers.filter (own key f offers)).map f).eraseDups := by
  -- The induction is on the first offers; what they are taken for is said of all of them.
  have hinitial : ∀ done later, offers = done ++ later →
      (collect key done).map f = ((done.filter (own key f offers)).map f).eraseDups := by
    intro done
    induction done using List.reverseRecOn with
    | nil =>
        intro _ _
        rfl
    | append_singleton done x ih =>
        intro later hoffers
        rw [List.append_assoc, List.singleton_append] at hoffers
        have hbefore := ih (x :: later) hoffers
        rw [List.filter_append, collect_append, accept]
        cases hown : own key f offers x with
        | false =>
            rw [if_pos (passed_of_not_own (hoffers ▸ hown)), hbefore,
              List.filter_cons_of_neg (by simp [hown]), List.filter_nil, List.append_nil]
        | true =>
            have hentries : ((collect key (done ++ [x])).map f).Nodup := by
              rw [hoffers] at hnodup
              exact hnodup.sublist ((collect_initial_cons done later x).sublist.map f)
            have hpassed := passed_iff (hoffers ▸ hown) hentries
            rw [List.filter_cons_of_pos hown, List.filter_nil, List.map_append, List.map_singleton,
              Recent.eraseDups_append_singleton, ← hbefore]
            split
            · next hold => rw [if_pos (by simpa [hbefore] using hpassed.1 hold)]
            · next hnew =>
                have hfresh := fun hmem => hnew (hpassed.2 hmem)
                rw [if_neg (by simpa [hbefore] using hfresh), List.map_append, List.map_singleton]
  exact hinitial offers [] (List.append_nil _).symm

end Values

/-! ### Calling keys -/

/-- An entry with a key, and the others. -/
theorem perm_cons_filter {xs : List α} {x : α} {k : K} (hkeys : (xs.filterMap key).Nodup)
    (hfind : xs.find? (key · = some k) = some x) : (x :: xs.filter (key · ≠ some k)).Perm xs := by
  induction xs with
  | nil => cases hfind
  | cons y xs ih =>
      by_cases hy : key y = some k
      · rw [List.find?_cons_of_pos (by simpa using hy)] at hfind
        cases hfind
        rw [List.filterMap_cons_some hy, List.nodup_cons] at hkeys
        -- No other entry has the key.
        have hrest : xs.filter (key · ≠ some k) = xs := by
          refine List.filter_eq_self.2 ?_
          intro z hz
          have hne : key z ≠ some k := fun hz' => hkeys.1 (List.mem_filterMap.2 ⟨z, hz, hz'⟩)
          simpa using hne
        rw [List.filter_cons_of_neg (by simpa using hy), hrest]
      · rw [List.find?_cons_of_neg (by simpa using hy)] at hfind
        have hrest := hkeys.sublist ((List.sublist_cons_self y xs).filterMap key)
        rw [List.filter_cons_of_pos (by simpa using hy)]
        exact (List.Perm.swap y x _).trans ((ih hrest hfind).cons y)

/-- **No entry is lost.** -/
theorem promote_perm {ks : List K} {xs : List α} (hkeys : (xs.filterMap key).Nodup) :
    (promote key ks xs).Perm xs := by
  induction ks generalizing xs with
  | nil => exact List.Perm.refl _
  | cons k ks ih =>
      unfold promote
      cases hfind : xs.find? (key · = some k) with
      | none => exact ih hkeys
      | some x =>
          have hrest : ((xs.filter (key · ≠ some k)).filterMap key).Nodup :=
            hkeys.sublist (List.filter_sublist.filterMap key)
          exact ((ih hrest).cons x).trans (perm_cons_filter hkeys hfind)

/-- What is found after the entries with another key were removed. -/
theorem find?_filter_ne (xs : List α) (k k' : K) :
    (xs.filter (key · ≠ some k)).find? (key · = some k') =
      if k' = k then none else xs.find? (key · = some k') := by
  rw [List.find?_filter]
  split
  · next hk =>
      rw [List.find?_eq_none]
      intro x _
      simp [hk]
  · next hk =>
      refine congrArg (fun p => xs.find? p) (funext ?_)
      intro x
      by_cases hx : key x = some k'
      · simp [hx, hk]
      · simp [hx]

section Values

variable {f : α → β} {xs : List α}

omit [DecidableEq K] [DecidableEq β] in
/-- Where neither keys nor values occur twice, an entry is told by either. -/
theorem key_eq_iff (hnodup : (xs.map f).Nodup) (hkeys : (xs.filterMap key).Nodup) {x y : α} {k : K}
    (hx : x ∈ xs) (hk : key x = some k) (hy : y ∈ xs) : key y = some k ↔ f y = f x := by
  constructor
  · intro h
    rw [eq_of_key_eq hkeys hy hx h hk]
  · intro h
    rw [List.inj_on_of_nodup_map hnodup hy hx h, hk]

/-- After an entry was called, the others are those with another value. -/
theorem map_filter_ne (hnodup : (xs.map f).Nodup) (hkeys : (xs.filterMap key).Nodup) {x : α} {k : K}
    (hx : x ∈ xs) (hk : key x = some k) :
    (xs.filter (key · ≠ some k)).map f = (xs.map f).filter (· ≠ f x) := by
  rw [List.filter_map]
  refine congrArg _ (List.filter_congr ?_)
  intro y hy
  simp [key_eq_iff hnodup hkeys hx hk hy]

/-- After an entry was called, another call finds what it would have found before, unless that is
the entry. -/
theorem map_find?_filter_ne (hnodup : (xs.map f).Nodup) (hkeys : (xs.filterMap key).Nodup) {x : α}
    {k : K} (hx : x ∈ xs) (hk : key x = some k) (k' : K) :
    ((xs.filter (key · ≠ some k)).find? (key · = some k')).map f =
      ((xs.find? (key · = some k')).map f).filter (· ≠ f x) := by
  rw [find?_filter_ne]
  cases hfind : xs.find? (key · = some k') with
  | none => simp
  | some y =>
      have hkey : key y = some k' := by simpa using List.find?_some hfind
      have hiff := key_eq_iff hnodup hkeys hx hk (List.mem_of_find?_eq_some hfind)
      rw [hkey, Option.some_inj] at hiff
      by_cases heq : k' = k
      · simp [heq, hiff.1 heq, Option.filter]
      · have hne : f y ≠ f x := fun hf => heq (hiff.2 hf)
        simp [heq, hne, Option.filter]

variable [BEq β] [LawfulBEq β]

/-- **What is called comes first**, in the order of the calls, and the others follow in their
order. -/
theorem map_promote {ks : List K} (hnodup : (xs.map f).Nodup) (hkeys : (xs.filterMap key).Nodup) :
    (promote key ks xs).map f =
      (ks.filterMap (fun k => (xs.find? (key · = some k)).map f) ++ xs.map f).eraseDups := by
  induction ks generalizing xs with
  | nil => exact (Recent.eraseDups_of_nodup hnodup).symm
  | cons k ks ih =>
      unfold promote
      cases hfind : xs.find? (key · = some k) with
      | none =>
          rw [List.filterMap_cons, hfind, ih hnodup hkeys]
          rfl
      | some x =>
          have hx : x ∈ xs := List.mem_of_find?_eq_some hfind
          have hk : key x = some k := by simpa using List.find?_some hfind
          have hrest := @ih (xs.filter (key · ≠ some k))
            (hnodup.sublist (List.filter_sublist.map f))
            (hkeys.sublist (List.filter_sublist.filterMap key))
          -- The calls that follow find among the others what they would have found among all.
          have hcalls : ks.filterMap
                (fun k' => ((xs.filter (key · ≠ some k)).find? (key · = some k')).map f) =
              (ks.filterMap fun k' => (xs.find? (key · = some k')).map f).filter (· ≠ f x) := by
            rw [List.filter_filterMap]
            exact List.filterMap_congr fun k' _ => map_find?_filter_ne hnodup hkeys hx hk k'
          rw [List.filterMap_cons, hfind]
          simp only [Option.map_some, List.map_cons, List.cons_append]
          rw [Recent.eraseDups_cons, ← Recent.eraseDups_filter, List.filter_append,
            ← map_filter_ne hnodup hkeys hx hk, ← hcalls, hrest]

end Values

end Shortlist
