/-
**Opening a chiptune.**

Every function of the player that goes to another file ends in `open_file`, which closes what is
open and then reads, detects and decodes. All of its exits but one leave the player without a
backend. The one is the last: the emulator is there and the backend is set when the first track is
started, and nothing is taken back if that fails, as `open_vorbis` does for a stream that it cannot
use.

Main definitions:

* `NesDeck.ChiptunePlayer.Closed` — no backend, no emulator and no stream;
* `NesDeck.ChiptunePlayer.HalfOpens` — the emulator is created and the track does not start;
* `NesDeck.ChiptunePlayer.Opening` — the three ways in which `open_file` ends;
* `NesDeck.ChiptunePlayer.attemptsOf` — the files that a loop tries, with the player before each.

Main results:

* `NesDeck.ChiptunePlayer.openFile_opening` — **how `open_file` ends**;
* `NesDeck.ChiptunePlayer.openAny_eq_tryAll`, `NesDeck.ChiptunePlayer.openFirst_eq_tryAll` — the
  loops over the files;
* `NesDeck.ChiptunePlayer.closed_iff` — **after a failure the player is closed exactly when the last
  attempt did not half open a file**.
-/

import NesDeck.ChiptunePlayer
import NesDeck.Lib.Attempts

set_option relaxedAutoImplicit false
set_option autoImplicit false

namespace NesDeck.ChiptunePlayer

open HostFile (Bytes ascii)

variable {decoder : Decoder} {player : ChiptunePlayer}

/-! ### One file -/

/-- No backend, no emulator and no open stream. -/
structure Closed (player : ChiptunePlayer) : Prop where
  backend : player.backend = .none
  emulator : player.emulator = false
  stream : player.vorbisOpen = false

theorem closed_closeTrack (player : ChiptunePlayer) : player.closeTrack.Closed := ⟨rfl, rfl, rfl⟩

/-- A file that the emulator library opens, and whose track it cannot start. -/
structure HalfOpens (decoder : Decoder) (player : ChiptunePlayer) (index track : ℕ) : Prop where
  exists_file : index < player.files.length
  not_vorbis : lowerExtension (player.files.getD index []) ≠ ascii ".ogg"
  reads : decoder.readChiptune player.calls (player.files.getD index []) = none
  stops : ∃ tracks, decoder.gmeOpen (player.calls + 1) = .ok tracks ∧
    ∃ message, decoder.gmeStartTrack (player.calls + 2) (min ((max 1 tracks).toNat - 1) track) =
      some message

/-- The player has a backend and is at the file with the given index. -/
structure At (player : ChiptunePlayer) (index : ℕ) : Prop where
  ready : player.ready = true
  file : player.fileIndex = index

/-- **The three ways in which `open_file` ends.** -/
inductive Opening (decoder : Decoder) (player : ChiptunePlayer) (index track : ℕ) :
    Outcome → Prop where
  | opened {next : ChiptunePlayer} {error : String} : ¬player.HalfOpens decoder index track →
      index < player.files.length → next.At index →
      Opening decoder player index track (next, true, error)
  | halfOpened {next : ChiptunePlayer} {error : String} : player.HalfOpens decoder index track →
      next.At index → Opening decoder player index track (next, false, error)
  | refused {next : ChiptunePlayer} {error : String} : ¬player.HalfOpens decoder index track →
      next.Closed → next.fileIndex = player.fileIndex →
      Opening decoder player index track (next, false, error)

/-- Starting a track changes neither the file nor the backend. -/
theorem startTrack_spec (player : ChiptunePlayer) (track : ℕ) (error : String) :
    ∃ next success message, player.startTrack decoder track error = (next, success, message) ∧
      next.files = player.files ∧ next.fileIndex = player.fileIndex ∧
      next.backend = player.backend ∧
      (success = true ↔ player.emulator = true ∧ track < player.trackCount ∧
        decoder.gmeStartTrack player.calls track = none) := by
  rw [startTrack]
  split
  · rename_i hbad
    refine ⟨_, _, _, rfl, rfl, rfl, rfl, iff_of_false Bool.false_ne_true ?_⟩
    rintro ⟨hemulator, htrack, -⟩
    rw [hemulator] at hbad
    simp only [Bool.not_true, Bool.false_or, decide_eq_true_eq] at hbad
    omega
  · rename_i hgood
    simp only [Bool.or_eq_true, Bool.not_eq_true', decide_eq_true_eq, not_or, Bool.not_eq_false,
      Nat.not_le] at hgood
    split
    · rename_i hmessage
      refine ⟨_, _, _, rfl, rfl, rfl, rfl, iff_of_false Bool.false_ne_true ?_⟩
      rintro ⟨-, -, hstarts⟩
      rw [hmessage] at hstarts
      cases hstarts
    · rename_i hstarts
      exact ⟨_, _, _, rfl, rfl, rfl, rfl, iff_of_true rfl ⟨hgood.1, hgood.2, hstarts⟩⟩

/-- Opening a stream leaves the player closed when it fails. -/
theorem openVorbis_spec (player : ChiptunePlayer) (hclosed : player.Closed) (index : ℕ)
    (error : String) :
    ∃ next success message, player.openVorbis decoder index error = (next, success, message) ∧
      next.files = player.files ∧ (success = true → next.At index) ∧
      (success = false → next.Closed ∧ next.fileIndex = player.fileIndex) := by
  obtain ⟨hbackend, hemulator, hstream⟩ := hclosed
  rw [openVorbis]
  split
  · exact ⟨_, _, _, rfl, rfl, fun h => absurd h Bool.false_ne_true,
      fun _ => ⟨⟨hbackend, hemulator, hstream⟩, rfl⟩⟩
  · dsimp only
    split
    · exact ⟨_, _, _, rfl, rfl, fun h => absurd h Bool.false_ne_true,
        fun _ => ⟨⟨hbackend, hemulator, hstream⟩, rfl⟩⟩
    · split
      · exact ⟨_, _, _, rfl, rfl, fun h => absurd h Bool.false_ne_true,
          fun _ => ⟨⟨hbackend, hemulator, hstream⟩, rfl⟩⟩
      · exact ⟨_, _, _, rfl, rfl, fun _ => ⟨rfl, rfl⟩, fun h => absurd h (by decide)⟩

/-- A file that the emulator library opens is half opened if its track cannot be started. -/
theorem halfOpens_iff {player : ChiptunePlayer} {index track : ℕ} {tracks : ℤ}
    (hindex : index < player.files.length)
    (hvorbis : lowerExtension (player.files.getD index []) ≠ ascii ".ogg")
    (hread : decoder.readChiptune player.calls (player.files.getD index []) = none)
    (hopen : decoder.gmeOpen (player.calls + 1) = .ok tracks) :
    player.HalfOpens decoder index track ↔
      ∃ message, decoder.gmeStartTrack (player.calls + 2) (min ((max 1 tracks).toNat - 1) track) =
        some message := by
  constructor
  · intro h
    obtain ⟨others, hothers, hstops⟩ := h.stops
    rw [hopen] at hothers
    cases hothers
    exact hstops
  · intro hstops
    exact ⟨hindex, hvorbis, hread, tracks, hopen, hstops⟩

/-- **How `open_file` ends**, and the playlist is what it was. -/
theorem openFile_opening (player : ChiptunePlayer) (index track : ℕ) (error : String) :
    Opening decoder player index track (player.openFile decoder index track error) ∧
      (player.openFile decoder index track error).1.files = player.files := by
  rw [openFile]
  dsimp only
  split
  · rename_i hbad
    refine ⟨.refused ?_ (closed_closeTrack player) rfl, rfl⟩
    intro h
    exact absurd h.exists_file (Nat.not_lt.2 hbad)
  rename_i hindex
  rw [Nat.not_le] at hindex
  split
  · -- A stream.
    rename_i hvorbis
    obtain ⟨next, success, message, hnext, hfiles, hopened, hrefused⟩ :=
      @openVorbis_spec decoder player.closeTrack (closed_closeTrack player) index error
    rw [hnext]
    refine ⟨?_, hfiles⟩
    cases success with
    | true => exact .opened (fun h => h.not_vorbis hvorbis) hindex (hopened rfl)
    | false =>
        obtain ⟨hclosed, hfile⟩ := hrefused rfl
        exact .refused (fun h => h.not_vorbis hvorbis) hclosed hfile
  · rename_i hvorbis
    split
    · rename_i message hread
      refine ⟨.refused ?_ ⟨rfl, rfl, rfl⟩ rfl, rfl⟩
      intro h
      have hreads := h.reads
      rw [show decoder.readChiptune player.calls (player.files.getD index []) =
        some message from hread]
        at hreads
      cases hreads
    · rename_i hread
      split
      · rename_i message hopen
        refine ⟨.refused ?_ ⟨rfl, rfl, rfl⟩ rfl, rfl⟩
        intro h
        obtain ⟨tracks, htracks, -⟩ := h.stops
        rw [show decoder.gmeOpen (player.calls + 1) = .error message from hopen] at htracks
        cases htracks
      · -- An emulator, whose track is started.
        rename_i tracks hopen
        obtain ⟨next, success, message, hnext, hfiles, hfile, hbackend, hsuccess⟩ :=
          @startTrack_spec decoder
            { player.closeTrack.answered.answered with
              emulator := true
              backend := .gme
              fileIndex := index
              trackCount := (max 1 tracks).toNat }
            (min ((max 1 tracks).toNat - 1) track) error
        rw [hnext]
        refine ⟨?_, hfiles⟩
        have hat : next.At index := ⟨by rw [ready, hbackend]; rfl, hfile⟩
        have htrack : min ((max 1 tracks).toNat - 1) track < (max 1 tracks).toNat := by omega
        have hhalf := @halfOpens_iff decoder player index track tracks hindex hvorbis hread hopen
        rw [← Option.ne_none_iff_exists'] at hhalf
        cases success with
        | true => exact .opened (fun h => hhalf.1 h (hsuccess.1 rfl).2.2) hindex hat
        | false =>
            refine .halfOpened (hhalf.2 ?_) hat
            intro hstarts
            exact absurd (hsuccess.2 ⟨rfl, htrack, hstarts⟩) Bool.false_ne_true

/-- A file that was opened is open. -/
theorem at_of_openFile {player : ChiptunePlayer} {index track : ℕ} {error : String}
    (h : (player.openFile decoder index track error).2.1 = true) :
    (player.openFile decoder index track error).1.At index := by
  have hopening := (@openFile_opening decoder player index track error).1
  generalize player.openFile decoder index track error = outcome at h hopening
  cases hopening with
  | opened _ _ hat => exact hat
  | halfOpened => exact absurd h Bool.false_ne_true
  | refused => exact absurd h Bool.false_ne_true

/-- **After a failure of `open_file`** the player is closed, unless the file was half opened. -/
theorem closed_openFile_iff (player : ChiptunePlayer) (index track : ℕ) (error : String) :
    ((player.openFile decoder index track error).2.1 = false →
        (player.openFile decoder index track error).1.Closed) ↔
      ¬player.HalfOpens decoder index track := by
  have hopening := (@openFile_opening decoder player index track error).1
  generalize player.openFile decoder index track error = outcome at hopening
  cases hopening with
  | opened hnot => exact iff_of_true (fun h => absurd h.symm Bool.false_ne_true) hnot
  | halfOpened hhalf hat =>
      refine iff_of_false ?_ (not_not.2 hhalf)
      intro h
      have hready := hat.ready
      rw [ready, (h rfl).backend] at hready
      exact absurd hready (by decide)
  | refused hnot hclosed => exact iff_of_true (fun _ => hclosed) hnot

/-! ### Several files -/

/-- The file at an index is opened, as an attempt. -/
def attemptAt (decoder : Decoder) (state : ChiptunePlayer × String) (index : ℕ) :
    (ChiptunePlayer × String) × Bool :=
  let (player, success, error) := state.1.openFile decoder index 0 state.2
  ((player, error), success)

/-- The current file is opened, as an attempt that goes on to the next file when it fails. -/
def attemptCurrent (decoder : Decoder) (state : ChiptunePlayer × String) (_ : Unit) :
    (ChiptunePlayer × String) × Bool :=
  let (player, success, error) := state.1.openFile decoder state.1.fileIndex 0 state.2
  if success then ((player, error), true)
  else (({ player with fileIndex := (player.fileIndex + 1) % player.files.length }, error), false)

/-- The order in which `change_file` goes through the playlist. -/
def candidates (player : ChiptunePlayer) (back : Bool) : List ℕ :=
  (List.range player.files.length).map fun attempt =>
    if back then
      (player.fileIndex + player.files.length - (attempt + 1) % player.files.length) %
        player.files.length
    else (player.fileIndex + (attempt + 1)) % player.files.length

theorem openAny_eq_tryAll (player : ChiptunePlayer) (candidates : List ℕ) (error : String) :
    player.openAny decoder candidates error =
      let result := Attempts.tryAll (attemptAt decoder) (player, error) candidates
      (result.1.1, result.2, result.1.2) := by
  induction candidates generalizing player error with
  | nil => rfl
  | cons candidate candidates ih =>
      rw [openAny]
      split
      · rename_i next message heq
        rw [Attempts.tryAll_cons_of_success (by rw [attemptAt, heq]), attemptAt, heq]
      · rename_i next message heq
        rw [Attempts.tryAll_cons_of_failure (by rw [attemptAt, heq]), attemptAt, heq]
        exact ih next message

theorem openFirst_eq_tryAll (player : ChiptunePlayer) (error : String) :
    player.openFirst decoder error =
      let result := Attempts.tryAll (attemptCurrent decoder) (player, error)
        (List.replicate player.files.length ())
      (result.1.1, result.2, result.1.2) := by
  rw [openFirst]
  generalize player.files.length = count
  induction count generalizing player error with
  | zero => rfl
  | succ count ih =>
      rw [openFirstLoop, List.replicate_succ]
      split
      · rename_i next message heq
        have hattempt : attemptCurrent decoder (player, error) () = ((next, message), true) := by
          rw [attemptCurrent, heq]
          rfl
        rw [Attempts.tryAll_cons_of_success (by rw [hattempt]), hattempt]
      · rename_i next message heq
        have hattempt : attemptCurrent decoder (player, error) () =
            (({ next with fileIndex := (next.fileIndex + 1) % next.files.length }, message),
              false) := by
          rw [attemptCurrent, heq]
          rfl
        rw [Attempts.tryAll_cons_of_failure (by rw [hattempt]), hattempt]
        exact ih _ message

/-- The files that `change_file` tries, with the player before each of them. -/
def changeAttempts (decoder : Decoder) (player : ChiptunePlayer) (back : Bool) (error : String) :
    List (ChiptunePlayer × ℕ) :=
  (Attempts.trace (attemptAt decoder) (player, error) (player.candidates back)).map fun attempt =>
    (attempt.1.1, attempt.2)

/-- The files that `open_first` tries, with the player before each of them. -/
def firstAttempts (decoder : Decoder) (player : ChiptunePlayer) (error : String) :
    List (ChiptunePlayer × ℕ) :=
  (Attempts.trace (attemptCurrent decoder) (player, error)
    (List.replicate player.files.length ())).map fun attempt =>
      (attempt.1.1, attempt.1.1.fileIndex)

/-- The last attempt does not half open a file, and without an attempt there is nothing open. -/
structure EndsSound (decoder : Decoder) (player : ChiptunePlayer)
    (attempts : List (ChiptunePlayer × ℕ)) :
    Prop where
  none : attempts = [] → player.Closed
  last : ∀ attempt ∈ attempts.getLast?, ¬attempt.1.HalfOpens decoder attempt.2 0

/-- The loop over the files leaves what its last attempt leaves. -/
theorem closed_tryAll_iff {α : Type} (fileOf : ChiptunePlayer × String → α → ℕ)
    {attempt : ChiptunePlayer × String → α → (ChiptunePlayer × String) × Bool}
    {player : ChiptunePlayer} {error : String} {list : List α}
    (hattempt : ∀ state a, ((attempt state a).2 = false → (attempt state a).1.1.Closed) ↔
      ¬state.1.HalfOpens decoder (fileOf state a) 0) :
    ((Attempts.tryAll attempt (player, error) list).2 = false →
        (Attempts.tryAll attempt (player, error) list).1.1.Closed) ↔
      EndsSound decoder player ((Attempts.trace attempt (player, error) list).map fun made =>
        (made.1.1, fileOf made.1 made.2)) := by
  cases hlast : (Attempts.trace attempt (player, error) list).getLast? with
  | none =>
      rw [List.getLast?_eq_none_iff] at hlast
      have hnil := Attempts.trace_eq_nil_iff.1 hlast
      subst hnil
      rw [hlast]
      constructor
      · intro h
        exact ⟨fun _ => h rfl, fun _ hmem => by cases hmem⟩
      · intro h _
        exact h.none rfl
  | some made =>
      rw [Attempts.tryAll_eq_of_getLast? hlast, hattempt]
      constructor
      · intro h
        refine ⟨?_, ?_⟩
        · intro hnil
          rw [List.map_eq_nil_iff] at hnil
          rw [hnil] at hlast
          cases hlast
        · intro final hfinal
          rw [List.getLast?_map, hlast] at hfinal
          cases hfinal
          exact h
      · intro h
        refine h.last (made.1.1, fileOf made.1 made.2) ?_
        rw [List.getLast?_map, hlast]
        rfl

/-- **After a failure the player is closed exactly when the last attempt did not half open a
file.** -/
theorem closed_iff (decoder : Decoder) (player : ChiptunePlayer) (error : String) :
    (∀ index track, ((player.openFile decoder index track error).2.1 = false →
        (player.openFile decoder index track error).1.Closed) ↔
      ¬player.HalfOpens decoder index track) ∧
    (∀ back, ((player.changeFile decoder back error).2.1 = false →
        (player.changeFile decoder back error).1.Closed) ↔
      EndsSound decoder player (player.changeAttempts decoder back error)) ∧
    (((player.openFirst decoder error).2.1 = false → (player.openFirst decoder error).1.Closed) ↔
      EndsSound decoder player (player.firstAttempts decoder error)) := by
  refine ⟨fun index track => closed_openFile_iff player index track error, ?_, ?_⟩
  · intro back
    have hchange : player.changeFile decoder back error =
        player.openAny decoder (player.candidates back) error := rfl
    rw [hchange, openAny_eq_tryAll]
    exact closed_tryAll_iff (fun _ index => index) fun state index =>
      closed_openFile_iff state.1 index 0 state.2
  · rw [openFirst_eq_tryAll]
    refine closed_tryAll_iff (fun state _ => state.1.fileIndex) ?_
    intro state _
    rw [← @closed_openFile_iff decoder state.1 state.1.fileIndex 0 state.2, attemptCurrent]
    generalize state.1.openFile decoder state.1.fileIndex 0 state.2 = outcome
    obtain ⟨next, success, message⟩ := outcome
    cases success with
    | true =>
        exact iff_of_true (fun h => absurd h.symm Bool.false_ne_true)
          fun h => absurd h.symm Bool.false_ne_true
    | false =>
        -- Going on to the next file opens nothing.
        constructor
        · intro h _
          exact ⟨(h rfl).backend, (h rfl).emulator, (h rfl).stream⟩
        · intro h _
          exact ⟨(h rfl).backend, (h rfl).emulator, (h rfl).stream⟩

/-- A file that the emulator opens and cannot start. -/
def stuckTrack : Decoder where
  readChiptune := fun _ _ => none
  gmeOpen := fun _ => .ok 1
  gmeStartTrack := fun _ _ => some "bad track"
  gmeTrackInfo := fun _ _ => none
  gmePlay := fun _ => none
  gmeTrackEnded := fun _ => false
  ovOpen := fun _ => none
  ovRead := fun _ => .damaged
  ovSeek := fun _ => false

/-- `open_file` fails, and the player is ready. -/
theorem not_closed_stuckTrack :
    ((initial [ascii "/a.nsf"] 1).openFile stuckTrack 0 0 "").2.1 = false ∧
      ((initial [ascii "/a.nsf"] 1).openFile stuckTrack 0 0 "").1.ready = true ∧
      ¬((initial [ascii "/a.nsf"] 1).openFile stuckTrack 0 0 "").1.Closed := by
  refine ⟨by decide, by decide, ?_⟩
  intro h
  exact absurd h.backend (by decide)

end NesDeck.ChiptunePlayer
