/-
**Going through the playlist.**

The player goes to the file before or after the current one, or to a random other file, and passes
over files that cannot be opened.  The playlist is a circle, and an attempt that fails may move the
current index, which is why the loops remember where they started.

Main definitions:

* `NesDeck.ChiptunePlayer.IsAway` — so many files before or after another one, on the circle;
* `NesDeck.ChiptunePlayer.Nearest` — the nearest file that can be opened;
* `NesDeck.ChiptunePlayer.randomAttempts` — the files that `change_random_file` tries;
* `NesDeck.ChiptunePlayer.Follows` — attempts whose success depends on the file alone;
* `NesDeck.ChiptunePlayer.ChangesFile`, `NesDeck.ChiptunePlayer.ChangesRandomly` — what the two
  functions are for.

Main results:

* `NesDeck.ChiptunePlayer.candidates_spec` — the order of the files is once around the circle;
* `NesDeck.ChiptunePlayer.changesFile`, `NesDeck.ChiptunePlayer.changesRandomly` — the two
  functions;
* `NesDeck.ChiptunePlayer.Indexed` — the invariant of the current index, kept by every function;
* `NesDeck.ChiptunePlayer.playlist_stepping` — **every step through the playlist**.
-/

import Mathlib.Data.List.Nodup
import NesDeck.ChiptuneOpening

set_option relaxedAutoImplicit false
set_option autoImplicit false

namespace NesDeck.ChiptunePlayer

open HostFile (Bytes ascii)

variable {decoder : Decoder} {player : ChiptunePlayer}

/-! ### The circle -/

/-- The index is `k` files before or after the current one, on a circle. -/
def IsAway (count current : ℕ) (back : Bool) (k index : ℕ) : Prop :=
  index < count ∧
    if back = true then (index + k) % count = current % count
      else index % count = (current + k) % count

/-- The nearest file that can be opened, with the current one as the farthest. -/
structure Nearest (openable : ℕ → Bool) (count current : ℕ) (back : Bool) (index : ℕ) : Prop where
  opens : openable index = true
  nearest : ∃ k, 1 ≤ k ∧ k ≤ count ∧ IsAway count current back k index ∧
    ∀ j other, 1 ≤ j → j < k → IsAway count current back j other → openable other = false

/-- Where a number of files before or after the current one leads. -/
def place (count current : ℕ) (back : Bool) (k : ℕ) : ℕ :=
  if back then (current + count - k % count) % count else (current + k) % count

theorem mod_of_lt_two_mul {n count : ℕ} (h : n < 2 * count) :
    n % count = if n < count then n else n - count := by
  split
  · rename_i hlt
    exact Nat.mod_eq_of_lt hlt
  · rename_i hge
    rw [Nat.mod_eq_sub_mod (Nat.not_lt.1 hge), Nat.mod_eq_of_lt (by omega)]

/-- **The files that follow**, without divisions. -/
theorem place_forth {count current k : ℕ} (hcurrent : current < count) (hk : k ≤ count) :
    place count current false k = if current + k < count then current + k
      else current + k - count :=
  mod_of_lt_two_mul (by omega)

/-- **The files before**, without divisions. -/
theorem place_back {count current k : ℕ} (hcurrent : current < count) (hpos : 1 ≤ k)
    (hk : k ≤ count) :
    place count current true k = if k ≤ current then current - k else current + count - k := by
  rw [place, if_pos rfl]
  rcases Nat.lt_or_eq_of_le hk with hlt | rfl
  · rw [Nat.mod_eq_of_lt hlt, mod_of_lt_two_mul (by omega)]
    split_ifs <;> omega
  · rw [Nat.mod_self, Nat.sub_zero, mod_of_lt_two_mul (by omega)]
    split_ifs <;> omega

/-- A place is the only file so far away. -/
theorem isAway_iff {count current k index : ℕ} {back : Bool} (hcurrent : current < count)
    (hpos : 1 ≤ k) (hk : k ≤ count) :
    IsAway count current back k index ↔ index = place count current back k := by
  cases back with
  | false =>
      rw [place_forth hcurrent hk, IsAway, if_neg Bool.false_ne_true,
        @mod_of_lt_two_mul (current + k) count (by omega)]
      constructor
      · rintro ⟨hindex, haway⟩
        rwa [Nat.mod_eq_of_lt hindex] at haway
      · intro heq
        have hindex : index < count := by
          rw [heq]
          split_ifs <;> omega
        exact ⟨hindex, by rw [Nat.mod_eq_of_lt hindex, heq]⟩
  | true =>
      rw [place_back hcurrent hpos hk, IsAway, if_pos rfl, Nat.mod_eq_of_lt hcurrent]
      constructor
      · rintro ⟨hindex, haway⟩
        rw [mod_of_lt_two_mul (by omega)] at haway
        split_ifs at haway ⊢ <;> omega
      · intro heq
        have hindex : index < count := by
          rw [heq]
          split_ifs <;> omega
        refine ⟨hindex, ?_⟩
        rw [mod_of_lt_two_mul (by omega)]
        split_ifs at heq ⊢ <;> omega

theorem candidates_eq (player : ChiptunePlayer) (back : Bool) :
    player.candidates back =
      (List.range player.files.length).map fun attempt =>
        place player.files.length player.fileIndex back (attempt + 1) := rfl

theorem place_lt {count current k : ℕ} (back : Bool) (hcurrent : current < count) :
    place count current back k < count := by
  cases back with
  | false => exact Nat.mod_lt _ (by omega)
  | true => exact Nat.mod_lt _ (by omega)

/-- Different distances lead to different files. -/
theorem place_inj {count current first second : ℕ} {back : Bool} (hcurrent : current < count)
    (hfirst : 1 ≤ first ∧ first ≤ count) (hsecond : 1 ≤ second ∧ second ≤ count)
    (h : place count current back first = place count current back second) : first = second := by
  cases back with
  | false =>
      rw [place_forth hcurrent hfirst.2, place_forth hcurrent hsecond.2] at h
      split_ifs at h <;> omega
  | true =>
      rw [place_back hcurrent hfirst.1 hfirst.2, place_back hcurrent hsecond.1 hsecond.2] at h
      split_ifs at h <;> omega

/-- Every file is at some distance. -/
theorem exists_place {count current index : ℕ} (back : Bool) (hcurrent : current < count)
    (hindex : index < count) :
    ∃ k, k < count ∧ place count current back (k + 1) = index := by
  cases back with
  | false =>
      refine ⟨if current < index then index - current - 1 else index + count - current - 1, ?_, ?_⟩
      · split_ifs <;> omega
      · rw [place_forth hcurrent (by split_ifs <;> omega)]
        split_ifs <;> omega
  | true =>
      refine ⟨if index < current then current - index - 1 else current + count - index - 1, ?_, ?_⟩
      · split_ifs <;> omega
      · rw [place_back hcurrent (Nat.le_add_left _ _) (by split_ifs <;> omega)]
        split_ifs <;> omega

theorem place_self {count current : ℕ} (back : Bool) (hcurrent : current < count) :
    place count current back count = current := by
  cases back with
  | false =>
      rw [place_forth hcurrent (Nat.le_refl _)]
      split_ifs <;> omega
  | true =>
      rw [place_back hcurrent (by omega) (Nat.le_refl _)]
      split_ifs <;> omega

/-- **The order of the files is once around the circle**, with the current one at the end. -/
theorem candidates_spec (player : ChiptunePlayer) (back : Bool)
    (hindex : player.fileIndex < player.files.length) :
    (player.candidates back).Nodup ∧
      (∀ index, index ∈ player.candidates back ↔ index < player.files.length) ∧
      ∃ front, player.candidates back = front ++ [player.fileIndex] := by
  rw [candidates_eq]
  refine ⟨?_, ?_, ?_⟩
  · refine List.Nodup.map_on ?_ List.nodup_range
    intro first hfirst second hsecond heq
    rw [List.mem_range] at hfirst hsecond
    exact Nat.succ.inj (place_inj hindex ⟨by omega, hfirst⟩ ⟨by omega, hsecond⟩ heq)
  · intro index
    rw [List.mem_map]
    constructor
    · rintro ⟨attempt, -, rfl⟩
      exact place_lt back hindex
    · intro hlt
      obtain ⟨k, hk, hplace⟩ := exists_place back hindex hlt
      exact ⟨k, List.mem_range.2 hk, hplace⟩
  · obtain ⟨count, hcount⟩ : ∃ count, player.files.length = count + 1 :=
      ⟨player.files.length - 1, by omega⟩
    have hself := place_self back hindex
    rw [hcount] at hself ⊢
    exact ⟨_, by rw [List.range_succ, List.map_append, List.map_singleton, hself]⟩

/-! ### The file before or after -/

/-- Attempts whose success depends on the file alone. -/
def Follows (decoder : Decoder) (openable : ℕ → Bool)
    (attempts : List (ChiptunePlayer × ℕ)) : Prop :=
  ∀ made ∈ attempts, ∀ error, (made.1.openFile decoder made.2 0 error).2.1 = openable made.2

/-- What `change_file` is for: the nearest file that can be opened is open, and every file is tried
at most once, the current one after all the others. -/
structure ChangesFile (openable : ℕ → Bool) (player : ChiptunePlayer) (back : Bool)
    (outcome : Outcome) (tried : List ℕ) : Prop where
  nearest : (∃ index < player.files.length, openable index = true) → outcome.2.1 = true ∧
    outcome.1.ready = true ∧
    Nearest openable player.files.length player.fileIndex back outcome.1.fileIndex
  none : (∀ index < player.files.length, openable index = false) → outcome.2.1 = false
  once : tried.Nodup
  last : ∀ front rest, tried = front ++ player.fileIndex :: rest →
    rest = [] ∧ ∀ index < player.files.length, index ≠ player.fileIndex → index ∈ front
  index : outcome.1.fileIndex < player.files.length

/-- The invariant of the current index. -/
structure Indexed (playlist : List Bytes) (player : ChiptunePlayer) : Prop where
  files : player.files = playlist
  index : player.fileIndex < playlist.length

/-- A file is opened at its own index, or not at all. -/
theorem Indexed.openFile {playlist : List Bytes} (h : Indexed playlist player) (index track : ℕ)
    (error : String) : Indexed playlist (player.openFile decoder index track error).1 := by
  obtain ⟨hopening, hfiles⟩ := @openFile_opening decoder player index track error
  refine ⟨hfiles.trans h.files, ?_⟩
  generalize player.openFile decoder index track error = outcome at hopening
  have hlength := h.files
  cases hopening with
  | opened _ hindex hat =>
      rw [hlength] at hindex
      exact hat.file ▸ hindex
  | halfOpened hhalf hat =>
      have hindex := hhalf.exists_file
      rw [hlength] at hindex
      exact hat.file ▸ hindex
  | refused _ _ hfile => exact hfile ▸ h.index

/-- What changes neither the playlist nor the current index keeps the invariant. -/
theorem Indexed.congr {playlist : List Bytes} (h : Indexed playlist player) {next : ChiptunePlayer}
    (hfiles : next.files = player.files) (hindex : next.fileIndex = player.fileIndex) :
    Indexed playlist next := ⟨hfiles.trans h.files, hindex ▸ h.index⟩

theorem Indexed.startTrack {playlist : List Bytes} (h : Indexed playlist player) (track : ℕ)
    (error : String) : Indexed playlist (player.startTrack decoder track error).1 := by
  obtain ⟨next, success, message, hnext, hfiles, hindex, -⟩ :=
    @startTrack_spec decoder player track error
  rw [hnext]
  exact h.congr hfiles hindex

theorem Indexed.openAny {playlist : List Bytes} (h : Indexed playlist player) (candidates : List ℕ)
    (error : String) : Indexed playlist (player.openAny decoder candidates error).1 := by
  rw [openAny_eq_tryAll]
  exact Attempts.tryAll_invariant (I := fun state : ChiptunePlayer × String =>
    Indexed playlist state.1)
    (fun state hstate index _ => hstate.openFile index 0 state.2) h

/-- **The first of the candidates that can be opened** is open. -/
theorem openAny_of_follows {openable : ℕ → Bool} {candidates : List ℕ} {error : String}
    (h : Follows decoder openable
      ((Attempts.trace (attemptAt decoder) (player, error) candidates).map fun made =>
        (made.1.1, made.2))) :
    (candidates.find? openable = none → (player.openAny decoder candidates error).2.1 = false) ∧
      ∀ index, candidates.find? openable = some index →
        (player.openAny decoder candidates error).2.1 = true ∧
          (player.openAny decoder candidates error).1.At index := by
  obtain ⟨hnone, hsome⟩ :=
    @Attempts.tryAll_of_pattern _ _ (attemptAt decoder) (player, error) candidates
    openable fun made hmade => h (made.1.1, made.2) (List.mem_map_of_mem hmade) made.1.2
  rw [openAny_eq_tryAll]
  refine ⟨hnone, ?_⟩
  intro index hfind
  obtain ⟨state, hresult, hsuccess⟩ := hsome index hfind
  rw [hresult]
  exact ⟨hsuccess, at_of_openFile hsuccess⟩

/-- The first of the candidates that can be opened is the nearest file. -/
theorem nearest_of_find? {openable : ℕ → Bool} {back : Bool} {index : ℕ}
    (hindex : player.fileIndex < player.files.length)
    (h : (player.candidates back).find? openable = some index) :
    Nearest openable player.files.length player.fileIndex back index := by
  rw [candidates_eq, List.find?_map, Option.map_eq_some_iff] at h
  obtain ⟨k, hk, rfl⟩ := h
  rw [List.find?_range_eq_some] at hk
  obtain ⟨hopens, hlt, hbefore⟩ := hk
  rw [List.mem_range] at hlt
  refine ⟨hopens, k + 1, Nat.le_add_left 1 k, hlt, (isAway_iff hindex (by omega) hlt).2 rfl, ?_⟩
  intro j other hpos hj haway
  rw [(isAway_iff hindex hpos (by omega)).1 haway]
  have hclosed := hbefore (j - 1) (by omega)
  rw [Function.comp_apply, Nat.sub_add_cancel hpos] at hclosed
  simpa using hclosed

/-- **The file before or after**, whatever can be opened. -/
theorem changesFile {openable : ℕ → Bool} {back : Bool} {error : String}
    (hindex : player.fileIndex < player.files.length)
    (h : Follows decoder openable (player.changeAttempts decoder back error)) :
    ChangesFile openable player back (player.changeFile decoder back error)
      ((player.changeAttempts decoder back error).map Prod.snd) := by
  obtain ⟨hnodup, hmem, front, hlast⟩ := candidates_spec player back hindex
  obtain ⟨hnone, hsome⟩ := openAny_of_follows h
  have hchange : player.changeFile decoder back error =
      player.openAny decoder (player.candidates back) error := rfl
  have horder : (player.changeAttempts decoder back error).map Prod.snd <+:
      player.candidates back := by
    rw [changeAttempts, List.map_map]
    exact Attempts.trace_inOrder
  rw [hchange]
  refine ⟨?_, ?_, hnodup.sublist horder.sublist, ?_, ?_⟩
  · rintro ⟨index, hlt, hopens⟩
    cases hfind : (player.candidates back).find? openable with
    | none => exact absurd hopens (List.find?_eq_none.1 hfind index ((hmem index).2 hlt))
    | some found =>
        obtain ⟨hsuccess, hat⟩ := hsome found hfind
        exact ⟨hsuccess, hat.ready, hat.file ▸ nearest_of_find? hindex hfind⟩
  · intro hall
    refine hnone (List.find?_eq_none.2 fun index hcandidate => ?_)
    exact ne_true_of_eq_false (hall index ((hmem index).1 hcandidate))
  · -- The current file stands at the end of the candidates only.
    intro before rest htried
    obtain ⟨others, hothers⟩ := horder
    rw [htried, List.append_assoc, List.cons_append] at hothers
    rw [← hothers, List.nodup_middle, List.nodup_cons, List.mem_append, not_or] at hnodup
    rw [hlast] at hothers
    obtain ⟨rfl, -, hrest⟩ :=
      (List.append_cons_inj_of_notMem hnodup.1.1 hnodup.1.2).1 hothers
    refine ⟨(List.append_eq_nil_iff.1 hrest).1, ?_⟩
    intro index hlt hne
    have hcandidate := (hmem index).2 hlt
    rw [hlast, List.mem_append, List.mem_singleton] at hcandidate
    exact hcandidate.resolve_right hne
  · exact (Indexed.openAny ⟨rfl, hindex⟩ _ error).index

/-! ### A random file -/

/-- The player after the first random number, and how far from the current file it starts. -/
def drawn (player : ChiptunePlayer) : ChiptunePlayer × ℕ :=
  if 1 < player.files.length then
    (player.nextRandom.1, 1 + player.nextRandom.2.toNat % (player.files.length - 1))
  else (player, 0)

/-- The order in which `change_random_file` goes through the playlist. -/
def randomCandidates (player : ChiptunePlayer) : List ℕ :=
  ((List.range player.files.length).map fun attempt =>
    (player.fileIndex + player.drawn.2 + attempt) % player.files.length).filter fun candidate =>
      !(decide (1 < player.files.length) && candidate = player.fileIndex)

/-- The first of the candidates, or the current file again. -/
def openRandom (decoder : Decoder) (player : ChiptunePlayer) (error : String) : Outcome :=
  match player.drawn.1.openAny decoder player.randomCandidates error with
  | (player, true, error) => (player, true, error)
  | (next, false, error) => next.openFile decoder player.fileIndex 0 error

/-- The files that `change_random_file` tries, with the player before each of them. -/
def randomAttempts (decoder : Decoder) (player : ChiptunePlayer) (error : String) :
    List (ChiptunePlayer × ℕ) :=
  let made :=
    (Attempts.trace (attemptAt decoder) (player.drawn.1, error) player.randomCandidates).map
    fun attempt => (attempt.1.1, attempt.2)
  match player.drawn.1.openAny decoder player.randomCandidates error with
  | (_, true, _) => made
  | (next, false, _) => made ++ [(next, player.fileIndex)]

/-- What `change_random_file` is for: another file is open if one of them can be opened, and the
current one otherwise. -/
structure ChangesRandomly (openable : ℕ → Bool) (player : ChiptunePlayer)
    (outcome : Outcome) : Prop where
  other : (∃ index < player.files.length, index ≠ player.fileIndex ∧ openable index = true) →
    outcome.1.ready = true ∧ outcome.1.fileIndex ≠ player.fileIndex ∧
      openable outcome.1.fileIndex = true
  same : (∀ index < player.files.length, index ≠ player.fileIndex → openable index = false) →
    openable player.fileIndex = true →
      outcome.1.ready = true ∧ outcome.1.fileIndex = player.fileIndex
  none : (∀ index < player.files.length, openable index = false) → outcome.2.1 = false
  index : outcome.1.fileIndex < player.files.length

theorem drawn_fst (player : ChiptunePlayer) :
    player.drawn.1.files = player.files ∧ player.drawn.1.fileIndex = player.fileIndex := by
  rw [drawn]
  split
  · exact ⟨rfl, rfl⟩
  · exact ⟨rfl, rfl⟩

/-- One round reaches every file, wherever it starts. -/
theorem exists_add_mod_eq {count index : ℕ} (start : ℕ) (h : index < count) :
    ∃ attempt < count, (start + attempt) % count = index := by
  refine ⟨(index + (count - start % count)) % count, Nat.mod_lt _ (by omega), ?_⟩
  have hsum : start + (index + (count - start % count)) = index + count * (start / count + 1) := by
    have hdiv := Nat.div_add_mod start count
    have hmod := Nat.mod_lt start (Nat.zero_lt_of_lt h)
    rw [Nat.mul_succ]
    omega
  rw [Nat.add_mod_mod, hsum, Nat.add_mul_mod_self_left, Nat.mod_eq_of_lt h]

/-- **The candidates** are the other files, or the only file. -/
theorem mem_randomCandidates_iff (hindex : player.fileIndex < player.files.length) {index : ℕ} :
    index ∈ player.randomCandidates ↔
      index < player.files.length ∧ (1 < player.files.length → index ≠ player.fileIndex) := by
  rw [randomCandidates, List.mem_filter, List.mem_map]
  have hshow : (!(decide (1 < player.files.length) && decide (index = player.fileIndex))) = true ↔
      (1 < player.files.length → index ≠ player.fileIndex) := by
    simp [imp_iff_not_or]
  rw [hshow]
  refine and_congr_left ?_
  intro _
  constructor
  · rintro ⟨attempt, -, rfl⟩
    exact Nat.mod_lt _ (by omega)
  · intro hlt
    obtain ⟨attempt, hattempt, hplace⟩ := exists_add_mod_eq (player.fileIndex + player.drawn.2) hlt
    exact ⟨attempt, List.mem_range.2 hattempt, hplace⟩

/-- `change_random_file` starts a random track of the file that it opens. -/
theorem changeRandomFile_eq (error : String) (hne : player.files ≠ []) :
    player.changeRandomFile decoder error =
      match player.openRandom decoder error with
      | (player, true, error) => player.shuffleTrack decoder error
      | (player, false, error) => (player, false, error) := by
  have hbody : player.changeRandomFile decoder error =
      match player.drawn.1.openAny decoder player.randomCandidates error with
      | (player, true, error) => player.shuffleTrack decoder error
      | (next, false, error) =>
          match next.openFile decoder player.fileIndex 0 error with
          | (player, true, error) => player.shuffleTrack decoder error
          | (player, false, error) => (player, false, error) := by
    rw [changeRandomFile, if_neg hne]
    rfl
  rw [hbody, openRandom]
  generalize player.drawn.1.openAny decoder player.randomCandidates error = outcome
  obtain ⟨next, success, message⟩ := outcome
  cases success with
  | true => rfl
  | false => rfl

/-- A random track is a track of the file that is open. -/
theorem shuffleTrack_spec (player : ChiptunePlayer) (error : String) :
    (player.shuffleTrack decoder error).1.files = player.files ∧
      (player.shuffleTrack decoder error).1.fileIndex = player.fileIndex ∧
      (player.shuffleTrack decoder error).1.backend = player.backend := by
  rw [shuffleTrack]
  split
  · obtain ⟨next, success, message, hnext, hfiles, hindex, hbackend, -⟩ := @startTrack_spec decoder
      player.nextRandom.1 (player.nextRandom.2.toNat % player.nextRandom.1.trackCount) error
    dsimp only
    rw [hnext]
    exact ⟨hfiles, hindex, hbackend⟩
  · exact ⟨rfl, rfl, rfl⟩

/-- **Another file, or the current one**, is open, and nothing is if none of them can be opened. -/
theorem openRandom_of_follows {openable : ℕ → Bool} {error : String}
    (h : Follows decoder openable (player.randomAttempts decoder error)) :
    (∀ index, player.randomCandidates.find? openable = some index →
      (player.openRandom decoder error).2.1 = true ∧ (player.openRandom decoder error).1.At index) ∧
    (player.randomCandidates.find? openable = none →
      (player.openRandom decoder error).2.1 = openable player.fileIndex ∧
        (openable player.fileIndex = true →
          (player.openRandom decoder error).1.At player.fileIndex)) := by
  have hmade : Follows decoder openable
      ((Attempts.trace (attemptAt decoder) (player.drawn.1, error) player.randomCandidates).map
        fun made => (made.1.1, made.2)) := by
    intro made hmade
    refine h made ?_
    rw [randomAttempts]
    split
    · exact hmade
    · exact List.mem_append_left _ hmade
  obtain ⟨hnone, hsome⟩ := openAny_of_follows hmade
  rw [openRandom]
  rw [randomAttempts] at h
  split
  · rename_i next message heq
    rw [heq] at hnone hsome
    refine ⟨hsome, fun hfind => absurd (hnone hfind).symm Bool.false_ne_true⟩
  · rename_i next message heq
    rw [heq] at hnone hsome h
    dsimp only at h
    refine ⟨fun index hfind => absurd (hsome index hfind).1 Bool.false_ne_true, ?_⟩
    intro _
    have hagain :=
      h (next, player.fileIndex) (List.mem_append_right _ (List.mem_singleton.2 rfl)) message
    exact ⟨hagain, fun hopens => at_of_openFile (hagain.trans hopens)⟩

theorem Indexed.changeRandomFile {playlist : List Bytes} (h : Indexed playlist player)
    (error : String) :
    Indexed playlist (player.changeRandomFile decoder error).1 := by
  have hne : player.files ≠ [] := by
    intro hnil
    have hindex := h.index
    rw [← h.files, hnil] at hindex
    exact absurd hindex (Nat.not_lt_zero _)
  have hdrawn := h.congr (drawn_fst player).1 (drawn_fst player).2
  have hopened : Indexed playlist (player.openRandom decoder error).1 := by
    have hany := @Indexed.openAny decoder _ _ hdrawn player.randomCandidates error
    rw [openRandom]
    split
    · rename_i next message heq
      rwa [heq] at hany
    · rename_i next message heq
      rw [heq] at hany
      exact hany.openFile player.fileIndex 0 message
  rw [changeRandomFile_eq error hne]
  split
  · rename_i next message heq
    rw [heq] at hopened
    exact hopened.congr (shuffleTrack_spec next message).1 (shuffleTrack_spec next message).2.1
  · rename_i next message heq
    rwa [heq] at hopened

/-- What is open after `openRandom` is open in the end. -/
theorem changeRandomFile_of_openRandom {error : String} (hne : player.files ≠ []) {index : ℕ}
    (hsuccess : (player.openRandom decoder error).2.1 = true)
    (hat : (player.openRandom decoder error).1.At index) :
    (player.changeRandomFile decoder error).1.ready = true ∧
      (player.changeRandomFile decoder error).1.fileIndex = index := by
  rw [changeRandomFile_eq error hne]
  split
  · rename_i next message heq
    rw [heq] at hat
    obtain ⟨-, hfile, hbackend⟩ := @shuffleTrack_spec decoder next message
    have hready := hat.ready
    rw [ready] at hready ⊢
    rw [hbackend]
    exact ⟨hready, hfile.trans hat.file⟩
  · rename_i next message heq
    rw [heq] at hsuccess
    cases hsuccess

/-- **A random file**, whatever can be opened and whatever the random numbers are. -/
theorem changesRandomly {openable : ℕ → Bool} {error : String}
    (hindex : player.fileIndex < player.files.length)
    (h : Follows decoder openable (player.randomAttempts decoder error)) :
    ChangesRandomly openable player (player.changeRandomFile decoder error) := by
  have hne : player.files ≠ [] := by
    intro hnil
    rw [hnil] at hindex
    exact absurd hindex (Nat.not_lt_zero _)
  obtain ⟨hsome, hnone⟩ := openRandom_of_follows h
  refine ⟨?_, ?_, ?_, (Indexed.changeRandomFile ⟨rfl, hindex⟩ error).index⟩
  · rintro ⟨index, hlt, hother, hopens⟩
    have hmany : 1 < player.files.length := by omega
    cases hfind : player.randomCandidates.find? openable with
    | none =>
        exact absurd hopens (List.find?_eq_none.1 hfind index
          ((mem_randomCandidates_iff hindex).2 ⟨hlt, fun _ => hother⟩))
    | some found =>
        obtain ⟨hsuccess, hat⟩ := hsome found hfind
        obtain ⟨hready, hfile⟩ := changeRandomFile_of_openRandom hne hsuccess hat
        have hfound := (mem_randomCandidates_iff hindex).1 (List.mem_of_find?_eq_some hfind)
        rw [hfile]
        exact ⟨hready, hfound.2 hmany, List.find?_some hfind⟩
  · intro hothers hopens
    cases hfind : player.randomCandidates.find? openable with
    | none =>
        obtain ⟨hsuccess, hat⟩ := hnone hfind
        exact changeRandomFile_of_openRandom hne (hsuccess.trans hopens) (hat hopens)
    | some found =>
        obtain ⟨hsuccess, hat⟩ := hsome found hfind
        have hfound := (mem_randomCandidates_iff hindex).1 (List.mem_of_find?_eq_some hfind)
        have hsame : found = player.fileIndex := by
          by_contra hother
          have hclosed := hothers found hfound.1 hother
          rw [List.find?_some hfind] at hclosed
          cases hclosed
        exact hsame ▸ changeRandomFile_of_openRandom hne hsuccess hat
  · intro hall
    have hfind : player.randomCandidates.find? openable = none :=
      List.find?_eq_none.2 fun index hmem =>
        ne_true_of_eq_false (hall index ((mem_randomCandidates_iff hindex).1 hmem).1)
    have hfails := (hnone hfind).1
    rw [hall _ hindex] at hfails
    rw [changeRandomFile_eq error hne]
    split
    · rename_i next message heq
      rw [heq] at hfails
      cases hfails
    · rfl

/-! ### The current index -/

theorem Indexed.changeFile {playlist : List Bytes} (h : Indexed playlist player) (back : Bool)
    (error : String) :
    Indexed playlist (player.changeFile decoder back error).1 := h.openAny _ error

theorem Indexed.changeTrack {playlist : List Bytes} (h : Indexed playlist player) (back : Bool)
    (error : String) : Indexed playlist (player.changeTrack decoder back error).1 := by
  rw [ChiptunePlayer.changeTrack]
  split
  · exact h
  · exact h.startTrack _ error

theorem Indexed.advanceAfterEnd {playlist : List Bytes} (h : Indexed playlist player)
    (error : String) :
    Indexed playlist (player.advanceAfterEnd decoder error).1 := by
  rw [ChiptunePlayer.advanceAfterEnd]
  split
  · split
    · exact h.startTrack _ error
    · split
      · exact h.congr rfl rfl
      · exact h.congr rfl rfl
    · exact h
  · exact h.changeRandomFile error
  · split
    · exact h.startTrack _ error
    · exact h.changeFile false error

theorem Indexed.generateVorbis {playlist : List Bytes} (h : Indexed playlist player) (missing : ℕ)
    (rewound : Bool) (error : String) :
    Indexed playlist (player.generateVorbis decoder missing rewound error).1 := by
  fun_induction ChiptunePlayer.generateVorbis decoder player missing rewound error with
  | case1 => exact h
  | case2 player missing rewound hmissing more hread ih => exact ih (h.congr rfl rfl)
  | case3 => exact h.congr rfl rfl
  | case4 player missing rewound hmissing hread next hmode =>
      have hnext : Indexed playlist next := h.congr rfl rfl
      exact hnext.advanceAfterEnd error
  | case5 => exact h.congr rfl rfl
  | case6 player missing rewound hmissing hread next hmode hrewound hseek ih =>
      exact ih (h.congr rfl rfl)
  | case7 => exact h.congr rfl rfl

theorem Indexed.generate {playlist : List Bytes} (h : Indexed playlist player) (error : String) :
    Indexed playlist (player.generate decoder error).1 := by
  rw [ChiptunePlayer.generate]
  split
  · exact h
  · split
    · exact h.generateVorbis _ _ error
    · split
      · exact h.congr rfl rfl
      · dsimp only
        split
        · have hnext : Indexed playlist player.answered.answered := h.congr rfl rfl
          exact hnext.advanceAfterEnd error
        · exact h.congr rfl rfl

theorem indexed_openFirst {playlist : List Bytes} (h : Indexed playlist player) (error : String) :
    Indexed playlist (player.openFirst decoder error).1 := by
  rw [openFirst_eq_tryAll]
  refine Attempts.tryAll_invariant (I := fun state : ChiptunePlayer × String =>
    Indexed playlist state.1)
    ?_ h
  intro state hstate _ _
  have hopened := @Indexed.openFile decoder _ _ hstate state.1.fileIndex 0 state.2
  rw [attemptCurrent]
  generalize state.1.openFile decoder state.1.fileIndex 0 state.2 = outcome at hopened
  obtain ⟨next, success, message⟩ := outcome
  cases success with
  | true => exact hopened
  | false =>
      refine ⟨hopened.files, ?_⟩
      have hlength := hopened.index
      rw [← hopened.files] at hlength ⊢
      exact Nat.mod_lt _ (Nat.zero_lt_of_lt hlength)

/-- **One event** keeps the current index in the playlist. -/
theorem indexed_react {playlist : List Bytes} {loop : ChiptuneAudioLoop}
    (h : Indexed playlist loop.player) (event : ChiptuneAudioLoop.Event) :
    Indexed playlist (loop.react decoder event).player := by
  cases event with
  | tick =>
      have hnext := @Indexed.generate decoder _ _ h ""
      rw [ChiptuneAudioLoop.react, ChiptuneAudioLoop.tick]
      split
      · exact h
      · split
        · exact h
        · split
          · rename_i next message heq
            rwa [heq] at hnext
          · rename_i next message heq
            rwa [heq] at hnext
  | changeFile back => exact h.changeFile back ""
  | changeTrack back => exact h.changeTrack back ""
  | togglePause => exact h.congr rfl rfl
  | cyclePlaybackMode => exact h.congr rfl rfl
  | changeVolume => exact h
  | takeError => exact h
  | stop => exact h

/-- **Every step through the playlist** ends where it should, whatever can be opened, and the
current index is in the playlist in every state of every run. -/
theorem playlist_stepping {decoder : Decoder} {player : ChiptunePlayer} {openable : ℕ → Bool}
    (hindex : player.fileIndex < player.files.length) (error : String) :
    (∀ back, Follows decoder openable (player.changeAttempts decoder back error) →
      ChangesFile openable player back (player.changeFile decoder back error)
        ((player.changeAttempts decoder back error).map Prod.snd)) ∧
    (Follows decoder openable (player.randomAttempts decoder error) →
      ChangesRandomly openable player (player.changeRandomFile decoder error)) ∧
    ∀ (seed : BitVec 32) (events : List ChiptuneAudioLoop.Event),
      (events.foldl (ChiptuneAudioLoop.react decoder)
        (ChiptuneAudioLoop.start decoder player.files seed)).player.fileIndex <
          player.files.length := by
  refine ⟨fun back h => changesFile hindex h, fun h => changesRandomly hindex h, ?_⟩
  intro seed events
  have hinitial : Indexed player.files (initial player.files seed) :=
    ⟨rfl, Nat.zero_lt_of_lt hindex⟩
  have hstart : Indexed player.files (ChiptuneAudioLoop.start decoder player.files seed).player :=
    indexed_openFirst hinitial ""
  have hrun := Run.invariant (I := fun loop : ChiptuneAudioLoop => Indexed player.files loop.player)
    (fun _ event h => @indexed_react decoder _ _ h event) hstart events
  exact hrun.index

/-! ### Three files -/

section Sample

/-- A library that opens every file that can be read, and the second of three cannot. -/
def unreadableSecond : Decoder where
  readChiptune := fun _ path => if path = ascii "/b.nsf"
    then some "cannot open chiptune file" else none
  gmeOpen := fun _ => .ok 1
  gmeStartTrack := fun _ _ => none
  gmeTrackInfo := fun _ _ => none
  gmePlay := fun _ => none
  gmeTrackEnded := fun _ => false
  ovOpen := fun _ => none
  ovRead := fun _ => .damaged
  ovSeek := fun _ => false

def threeFiles : ChiptunePlayer := initial [ascii "/a.nsf", ascii "/b.nsf", ascii "/c.nsf"] 1

theorem follows_unreadableSecond :
    Follows unreadableSecond (fun index => index ≠ 1)
      (threeFiles.changeAttempts unreadableSecond false "") ∧
      Follows unreadableSecond (fun index => index ≠ 1)
        (threeFiles.randomAttempts unreadableSecond "") := by
  have hchange : threeFiles.changeAttempts unreadableSecond false "" =
      [(threeFiles, 1), (threeFiles.closeTrack.answered, 2)] := rfl
  have hrandom : threeFiles.randomAttempts unreadableSecond "" =
      [(threeFiles.nextRandom.1, 2)] := rfl
  rw [hchange, hrandom]
  constructor
  · simp only [Follows, List.forall_mem_cons]
    exact ⟨fun _ => rfl, fun _ => rfl, fun _ hmem => absurd hmem List.not_mem_nil⟩
  · simp only [Follows, List.forall_mem_singleton]
    exact fun _ => rfl

/-- From the first file the player goes on to the third, past the one that cannot be read. -/
theorem playlist_stepping_three :
    ChangesFile (fun index => index ≠ 1) threeFiles false
        (threeFiles.changeFile unreadableSecond false "") [1, 2] ∧
      ChangesRandomly (fun index => index ≠ 1) threeFiles
        (threeFiles.changeRandomFile unreadableSecond "") := by
  obtain ⟨hchange, hrandom, -⟩ := @playlist_stepping unreadableSecond threeFiles
    (fun index => index ≠ 1) (by decide) ""
  exact ⟨hchange false follows_unreadableSecond.1, hrandom follows_unreadableSecond.2⟩

end Sample

end NesDeck.ChiptunePlayer
