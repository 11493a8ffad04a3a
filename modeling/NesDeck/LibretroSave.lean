/-
**The saves of a game.**

A frontend loads the memory of the cartridge when a game starts, and saves it every ten seconds of
play and at the end: it writes all of it into a temporary file, and renames that. The Game Boy has a
second file for its clock. The menu may kill the frontend at any time, and every call may fail.

Main definitions:

* `NesDeck.LibretroDeck.saveMemoryFile` — the files after every call of one save, and whether it was
  successful;
* `NesDeck.LibretroDeck.savePersistentMemory` — both files;
* `NesDeck.LibretroDeck.GameSession` — a game that is played, with all the files that a kill can
  leave behind.

Main results:

* `NesDeck.LibretroDeck.mem_saveMemoryFile` — what is there when a save is cut off;
* `NesDeck.LibretroDeck.GameSession.killed_spec` — **whenever a game is killed**, its save is the
  one it began with, or all of the memory at one of the times of saving, and no other file is
  touched;
* `NesDeck.LibretroDeck.GameSession.played_spec` — **without failing calls ten seconds are lost at
  most**, and none at the end: the next game has the memory back.
-/

import NesDeck.Lib.Replacing
import NesDeck.LibretroDeck
import NesDeck.StateFiles

set_option relaxedAutoImplicit false
set_option autoImplicit false

namespace NesDeck.LibretroDeck

open FileStore (write)
open HostFile
open StateFiles (Node Files)

/-! ### One file -/

namespace Frontend

def kSaveExtension : Frontend → Bytes
  | nes => ascii ".srm"
  | gb => ascii ".sav"
  | zx => ascii ".sav"

def kHasRtc : Frontend → Bool
  | nes => false
  | gb => true
  | zx => false

end Frontend

/-- The calls of one save: which of them fail, and how the `write` calls end. -/
structure SaveFileCalls where
  opens : Bool
  writes : List WriteOutcome
  sync : Bool
  close : Bool
  rename : Bool
  unlink : Bool

/-- The content of the temporary file after each `write` call. -/
def progress : List WriteOutcome → (done rest : Bytes) → List Bytes
  | _, _, [] => []
  | [], done, first :: rest => [done ++ first :: rest]
  | .interrupted :: script, done, first :: rest => progress script done (first :: rest)
  | .failed _ :: _, _, _ :: _ => []
  | .transferred limit :: script, done, first :: rest =>
      (done ++ first :: rest.take limit) ::
        progress script (done ++ first :: rest.take limit) (rest.drop limit)

/-- The temporary file of `save_memory_file`. -/
def temporarySave (path : Bytes) (pid : ℕ) : Bytes := path ++ ascii ".tmp." ++ decimal pid

/-- No call that is made before the temporary file is renamed fails, and the renaming does not. -/
def SaveFileCalls.succeed (calls : SaveFileCalls) (data : Bytes) : Bool :=
  (accepted calls.writes data).2.isNone && !calls.sync && !calls.close && !calls.rename

/-- What becomes of the temporary file. -/
def SaveFileCalls.ending (calls : SaveFileCalls) (data : Bytes) : Replacing.Ending :=
  if calls.succeed data = true then .publish
  else if calls.unlink = true then .leave
  else .discard

/-- `save_memory_file`: the files after every call that changes them, and whether it was
successful. -/
def saveMemoryFile (files : Files) (path : Bytes) (pid : ℕ) (data : Bytes) (calls : SaveFileCalls) :
    List Files × Bool :=
  if data = [] then ([], true)
  else
    let temporary := temporarySave path pid
    if calls.opens = true ∨ (files temporary).isSome = true then ([], false)
    else
      let drafts := (progress calls.writes [] data).map fun content => ⟨true, content⟩
      (Replacing.states files temporary path (calls.ending data) ⟨true, []⟩ drafts,
        calls.succeed data)

/-! ### Both files -/

/-- The memory of a cartridge. -/
structure Core where
  ram : Bytes
  rtc : Bytes
  deriving DecidableEq

structure SaveCalls where
  ram : SaveFileCalls
  rtc : SaveFileCalls

/-- A game on the disk: the frontend, the path without the extension, and the process number. -/
structure Game where
  frontend : Frontend
  base : Bytes
  pid : ℕ

namespace Game

variable (game : Game)

def ramPath : Bytes := game.base ++ game.frontend.kSaveExtension

def rtcPath : Bytes := game.base ++ ascii ".rtc"

/-- `save_persistent_memory`; the clock is saved whether the memory was or not. -/
def savePersistentMemory (files : Files) (core : Core) (calls : SaveCalls) : List Files × Bool :=
  let ram := saveMemoryFile files game.ramPath game.pid core.ram calls.ram
  if game.frontend.kHasRtc = true then
    let rtc :=
      saveMemoryFile (Replacing.after files ram.1) game.rtcPath game.pid core.rtc calls.rtc
    (ram.1 ++ rtc.1, ram.2 && rtc.2)
  else ram

end Game

/-! ### A game that is played -/

/-- A frame: what the core leaves in the memory, and the calls of the save, if there is one. -/
structure Frame where
  core : Core
  calls : SaveCalls

/-- A game that is played: the number of frames, the files, and all that they have been. -/
structure GameSession where
  frames : ℕ
  files : Files
  visited : List Files

namespace GameSession

variable (game : Game)

def start (files : Files) : GameSession := ⟨0, files, [files]⟩

/-- The memory is saved. -/
def save (session : GameSession) (core : Core) (calls : SaveCalls) : GameSession :=
  let states := (game.savePersistentMemory session.files core calls).1
  { session with
    files := Replacing.after session.files states
    visited := session.visited ++ states }

/-- One frame; every 600th is saved. -/
def play (session : GameSession) (frame : Frame) : GameSession :=
  let session := { session with frames := session.frames + 1 }
  if session.frames % 600 = 0 then session.save game frame.core frame.calls else session

/-- The game, with the save at its end. -/
def finish (session : GameSession) (last : Frame) : GameSession :=
  session.save game last.core last.calls

/-- The memory of a frame at which it is saved. -/
def SavedAt (frames : List Frame) (core : Core) : Prop :=
  ∃ index frame, frames[index]? = some frame ∧ (index + 1) % 600 = 0 ∧ frame.core = core

end GameSession

/-! ### One save -/

section Save

variable {files : Files} {path data : Bytes} {pid : ℕ} {calls : SaveFileCalls}

/-- The last draft is what the calls have taken. -/
theorem getLast_progress (script : List WriteOutcome) (done rest : Bytes) :
    (done :: progress script done rest).getLast (List.cons_ne_nil _ _) =
      done ++ (accepted script rest).1 := by
  fun_induction progress script done rest with
  | case1 script done => simp [accepted]
  | case2 done first rest => rfl
  | case3 script done first rest ih =>
      rw [accepted]
      exact ih
  | case4 errno script done first rest => simp [accepted]
  | case5 limit script done first rest ih =>
      rw [List.getLast_cons (List.cons_ne_nil _ _), ih, accepted]
      simp

theorem length_lt_temporarySave (path : Bytes) (pid : ℕ) :
    path.length < (temporarySave path pid).length := by
  have hdot : (ascii ".tmp.").length = 5 := rfl
  rw [temporarySave, List.length_append, List.length_append, hdot]
  omega

theorem temporarySave_ne (path : Bytes) (pid : ℕ) : temporarySave path pid ≠ path := by
  intro h
  have hlength := length_lt_temporarySave path pid
  rw [h] at hlength
  exact Nat.lt_irrefl _ hlength

/-- The content of the temporary file when nothing more is written to it. -/
theorem getLast_drafts (script : List WriteOutcome) (data : Bytes) :
    ((⟨true, []⟩ : Node) :: (progress script [] data).map fun content => ⟨true, content⟩).getLast
        (List.cons_ne_nil _ _) = ⟨true, (accepted script data).1⟩ := by
  have hmap : (⟨true, []⟩ : Node) :: (progress script [] data).map
    (fun content => ⟨true, content⟩) =
      ([] :: progress script [] data).map fun content => ⟨true, content⟩ := rfl
  have hlast := getLast_progress script [] data
  rw [List.nil_append] at hlast
  rw [List.getLast_congr _ _ hmap, List.getLast_map, hlast]
  simp

theorem ending_eq_publish (h : calls.ending data = .publish) : calls.succeed data = true := by
  rw [SaveFileCalls.ending] at h
  split at h
  next hsucceed => exact hsucceed
  · split at h
    · cases h
    · cases h

/-- A successful save has written everything. -/
theorem accepted_of_succeed (h : calls.succeed data = true) :
    (accepted calls.writes data).1 = data := by
  rw [SaveFileCalls.succeed, Bool.and_eq_true, Bool.and_eq_true, Bool.and_eq_true] at h
  exact (accepted_eq calls.writes data).2.1 (Option.isNone_iff_eq_none.1 h.1.1.1)

/-- A save is successful when there is nothing to save, or the temporary file can be made and no
call on it fails. -/
theorem saveMemoryFile_eq_true_iff :
    (saveMemoryFile files path pid data calls).2 = true ↔
      data = [] ∨ calls.opens = false ∧ files (temporarySave path pid) = none ∧
        calls.succeed data = true := by
  rw [saveMemoryFile]
  split
  next hdata => exact iff_of_true rfl (Or.inl hdata)
  next hdata =>
    rw [or_iff_right hdata]
    dsimp only
    split
    next hopens =>
      refine iff_of_false Bool.false_ne_true ?_
      rintro ⟨hopen, hfree, -⟩
      rw [hopen, hfree] at hopens
      simp at hopens
    next hopens =>
      rw [not_or, Bool.not_eq_true, Bool.not_eq_true, Option.isSome_eq_false_iff,
        Option.isNone_iff_eq_none] at hopens
      exact ⟨fun h => ⟨hopens.1, hopens.2, h⟩, fun h => h.2.2⟩

/-- **Whenever a save is cut off**, the file has its old content or all of the memory, and the
second only if the save is successful. -/
theorem mem_saveMemoryFile {state : Files}
    (h : state ∈ (saveMemoryFile files path pid data calls).1) :
    (state path = files path ∨
        (saveMemoryFile files path pid data calls).2 = true ∧ state path = some ⟨true, data⟩) ∧
      ∀ other, other ≠ path → other ≠ temporarySave path pid → state other = files other := by
  rw [saveMemoryFile] at h ⊢
  split at h
  · cases h
  dsimp only at h ⊢
  next hdata =>
  rw [if_neg hdata]
  split at h
  · cases h
  next hopens =>
    rw [not_or, Bool.not_eq_true, Bool.not_eq_true, Option.isSome_eq_false_iff,
      Option.isNone_iff_eq_none] at hopens
    rw [if_neg (by simp [hopens])]
    obtain ⟨hpath, hothers⟩ := Replacing.mem_states (temporarySave_ne path pid) hopens.2 h
    refine ⟨hpath.imp_right ?_, hothers⟩
    rintro ⟨hpublish, hlast⟩
    have hsucceed := ending_eq_publish hpublish
    rw [getLast_drafts, accepted_of_succeed hsucceed] at hlast
    exact ⟨hsucceed, hlast⟩

/-- **What a save leaves.** -/
theorem after_saveMemoryFile_of_true (h : (saveMemoryFile files path pid data calls).2 = true) :
    Replacing.after files (saveMemoryFile files path pid data calls).1 =
      if data = [] then files else write files path ⟨true, data⟩ := by
  rcases saveMemoryFile_eq_true_iff.1 h with hdata | ⟨hopens, hfree, hsucceed⟩
  · rw [saveMemoryFile, if_pos hdata, if_pos hdata]
    rfl
  · rw [saveMemoryFile]
    split
    · rfl
    · dsimp only
      rw [if_neg (by simp [hopens, hfree]), Replacing.after_spec (temporarySave_ne path pid) hfree,
        SaveFileCalls.ending, if_pos hsucceed]
      dsimp only
      rw [getLast_drafts, accepted_of_succeed hsucceed]

end Save

/-! ### Both saves -/

namespace Game

variable {game : Game} {files : Files} {core : Core} {calls : SaveCalls}

/-- A path that saves do not touch. -/
def Foreign (game : Game) (path : Bytes) : Prop :=
  path ≠ game.ramPath ∧ path ≠ game.rtcPath ∧ path ≠ temporarySave game.ramPath game.pid ∧
    path ≠ temporarySave game.rtcPath game.pid

/-- A save of the memory has another name than the clock, and than its temporary file. -/
theorem paths_apart (game : Game) :
    game.ramPath ≠ game.rtcPath ∧ game.rtcPath ≠ temporarySave game.ramPath game.pid ∧
      game.ramPath ≠ temporarySave game.rtcPath game.pid := by
  have hlength : game.ramPath.length = game.rtcPath.length := by
    rw [ramPath, rtcPath, List.length_append, List.length_append]
    cases game.frontend with
    | nes => rfl
    | gb => rfl
    | zx => rfl
  refine ⟨?_, ?_, ?_⟩
  · intro h
    have hext := List.append_cancel_left h
    cases hfrontend : game.frontend with
    | nes => rw [hfrontend] at hext; exact absurd hext (by decide)
    | gb => rw [hfrontend] at hext; exact absurd hext (by decide)
    | zx => rw [hfrontend] at hext; exact absurd hext (by decide)
  · intro h
    have hshort := congrArg List.length h
    have hlong := length_lt_temporarySave game.ramPath game.pid
    omega
  · intro h
    have hshort := congrArg List.length h
    have hlong := length_lt_temporarySave game.rtcPath game.pid
    omega

/-- The save and the clock are what they were at first, or all of a memory that was saved, and
nothing else is touched. -/
structure Intact (game : Game) (Saved : Core → Prop) (files state : Files) : Prop where
  ram : state game.ramPath = files game.ramPath ∨
    ∃ core, Saved core ∧ state game.ramPath = some ⟨true, core.ram⟩
  rtc : state game.rtcPath = files game.rtcPath ∨
    ∃ core, Saved core ∧ state game.rtcPath = some ⟨true, core.rtc⟩
  others : ∀ path, game.Foreign path → state path = files path

theorem Intact.refl (game : Game) (Saved : Core → Prop) (files : Files) :
    game.Intact Saved files files :=
  ⟨Or.inl rfl, Or.inl rfl, fun _ _ => rfl⟩

theorem Intact.mono {Saved Saved' : Core → Prop} {state : Files} (h : game.Intact Saved files state)
    (hsub : ∀ core, Saved core → Saved' core) : game.Intact Saved' files state where
  ram := h.ram.imp_right fun ⟨core, hcore, hram⟩ => ⟨core, hsub core hcore, hram⟩
  rtc := h.rtc.imp_right fun ⟨core, hcore, hrtc⟩ => ⟨core, hsub core hcore, hrtc⟩
  others := h.others

/-- A save of the memory, cut off anywhere. -/
theorem Intact.saveRam {Saved : Core → Prop} {state state' : Files}
    (h : game.Intact Saved files state) (hcore : Saved core) {calls : SaveFileCalls}
    (hmem : state' ∈ (saveMemoryFile state game.ramPath game.pid core.ram calls).1) :
    game.Intact Saved files state' := by
  obtain ⟨hpath, hothers⟩ := mem_saveMemoryFile hmem
  obtain ⟨hapart, htemporary, -⟩ := game.paths_apart
  refine ⟨?_, ?_, ?_⟩
  · rcases hpath with hold | ⟨-, hnew⟩
    · rw [hold]
      exact h.ram
    · exact Or.inr ⟨core, hcore, hnew⟩
  · rw [hothers _ (Ne.symm hapart) htemporary]
    exact h.rtc
  · intro path hforeign
    rw [hothers path hforeign.1 hforeign.2.2.1]
    exact h.others path hforeign

/-- A save of the clock, cut off anywhere. -/
theorem Intact.saveRtc {Saved : Core → Prop} {state state' : Files}
    (h : game.Intact Saved files state) (hcore : Saved core) {calls : SaveFileCalls}
    (hmem : state' ∈ (saveMemoryFile state game.rtcPath game.pid core.rtc calls).1) :
    game.Intact Saved files state' := by
  obtain ⟨hpath, hothers⟩ := mem_saveMemoryFile hmem
  obtain ⟨hapart, -, htemporary⟩ := game.paths_apart
  refine ⟨?_, ?_, ?_⟩
  · rw [hothers _ hapart htemporary]
    exact h.ram
  · rcases hpath with hold | ⟨-, hnew⟩
    · rw [hold]
      exact h.rtc
    · exact Or.inr ⟨core, hcore, hnew⟩
  · intro path hforeign
    rw [hothers path hforeign.2.1 hforeign.2.2.2]
    exact h.others path hforeign

/-- **Both saves, cut off anywhere.** -/
theorem Intact.savePersistentMemory {Saved : Core → Prop} {state state' : Files}
    (h : game.Intact Saved files state) (hcore : Saved core)
    (hmem : state' ∈ state :: (game.savePersistentMemory state core calls).1) :
    game.Intact Saved files state' := by
  rcases List.mem_cons.1 hmem with rfl | hmem
  · exact h
  have hram : ∀ {state'}, state' ∈ state ::
      (saveMemoryFile state game.ramPath game.pid core.ram calls.ram).1 →
        game.Intact Saved files state' := by
    intro state' hmem
    rcases List.mem_cons.1 hmem with rfl | hmem
    · exact h
    · exact h.saveRam hcore hmem
  rw [Game.savePersistentMemory] at hmem
  dsimp only at hmem
  split at hmem
  · rcases List.mem_append.1 hmem with hmem | hmem
    · exact h.saveRam hcore hmem
    · exact (hram (Replacing.after_mem _ _)).saveRtc hcore hmem
  · exact h.saveRam hcore hmem

end Game

/-! ### A game that is killed -/

namespace GameSession

variable {game : Game} {files : Files} {frames : List Frame}

theorem SavedAt.concat {core : Core} (h : SavedAt frames core) (frame : Frame) :
    SavedAt (frames ++ [frame]) core := by
  obtain ⟨index, saved, hget, hdue, hcore⟩ := h
  refine ⟨index, saved, ?_, hdue, hcore⟩
  rw [List.getElem?_append_left (List.getElem?_eq_some_iff.1 hget).1]
  exact hget

/-- What holds of a game that was played for some frames. -/
structure Sound (game : Game) (files : Files) (frames : List Frame)
    (session : GameSession) : Prop where
  played : session.frames = frames.length
  intact : game.Intact (SavedAt frames) files session.files
  visited : ∀ state ∈ session.visited, game.Intact (SavedAt frames) files state

theorem sound_start (game : Game) (files : Files) : Sound game files [] (start files) where
  played := rfl
  intact := .refl game _ files
  visited := by
    intro state hstate
    rw [List.mem_singleton.1 hstate]
    exact .refl game _ files

/-- One frame. -/
theorem Sound.play {session : GameSession} (h : Sound game files frames session) (frame : Frame) :
    Sound game files (frames ++ [frame]) (session.play game frame) := by
  have hmono : ∀ {state}, game.Intact (SavedAt frames) files state →
      game.Intact (SavedAt (frames ++ [frame])) files state :=
    fun hstate => hstate.mono fun _ hcore => hcore.concat frame
  have hlength : session.frames + 1 = (frames ++ [frame]).length := by
    rw [List.length_append, h.played]
    rfl
  rw [GameSession.play]
  dsimp only
  split
  next hdue =>
    have hsaved : SavedAt (frames ++ [frame]) frame.core := by
      refine ⟨frames.length, frame, ?_, ?_, rfl⟩
      · rw [List.getElem?_append_right (Nat.le_refl _), Nat.sub_self]
        rfl
      · rw [← h.played]
        exact hdue
    have hintact : ∀ state ∈ session.files ::
        (game.savePersistentMemory session.files frame.core frame.calls).1,
          game.Intact (SavedAt (frames ++ [frame])) files state :=
      fun state hstate => (hmono h.intact).savePersistentMemory hsaved hstate
    refine ⟨hlength, hintact _ (Replacing.after_mem _ _), ?_⟩
    intro state hstate
    rcases List.mem_append.1 hstate with hold | hnew
    · exact hmono (h.visited state hold)
    · exact hintact state (List.mem_cons_of_mem _ hnew)
  · exact ⟨hlength, hmono h.intact, fun state hstate => hmono (h.visited state hstate)⟩

theorem sound_run (game : Game) (files : Files) (frames : List Frame) :
    Sound game files frames (frames.foldl (play game) (start files)) := by
  induction frames using List.reverseRecOn with
  | nil => exact sound_start game files
  | append_singleton frames frame ih =>
      rw [List.foldl_append]
      exact ih.play frame

/-- **Whenever a game is killed**, also while it saves for the last time, its save is the one it
began with, or all of the memory at one of the times of saving; so is its clock, and no other file
is touched. -/
theorem killed_spec (game : Game) (files : Files) (frames : List Frame) (last : Frame) :
    ∀ state ∈ ((frames.foldl (play game) (start files)).finish game last).visited,
      game.Intact (fun core => SavedAt frames core ∨ core = last.core) files state := by
  have h := sound_run game files frames
  have hmono : ∀ {state}, game.Intact (SavedAt frames) files state →
      game.Intact (fun core => SavedAt frames core ∨ core = last.core) files state :=
    fun hstate => hstate.mono fun _ hcore => Or.inl hcore
  intro state hstate
  rcases List.mem_append.1 hstate with hold | hnew
  · exact hmono (h.visited state hold)
  · exact (hmono h.intact).savePersistentMemory (Or.inr rfl) (List.mem_cons_of_mem _ hnew)

/-- A frame with a memory of two bytes. -/
def sampleFrame : Frame :=
  ⟨⟨[1, 2], []⟩, ⟨⟨false, [.interrupted, .transferred 0], false, false, false, false⟩,
    ⟨false, [], false, false, false, false⟩⟩⟩

/-- The first state of the files while the game saves for the last time. -/
theorem killed_spec_sample :
    let game : Game := ⟨.nes, ascii "/mnt/data/roms/nes/sample", 7⟩
    ∃ state ∈
      (([sampleFrame].foldl (play game) (start fun _ => none)).finish game sampleFrame).visited,
      game.Intact (fun core => SavedAt [sampleFrame] core ∨ core = sampleFrame.core) (fun _ => none)
        state := by
  intro game
  have hmem : (write (fun _ => none) (temporarySave game.ramPath game.pid) ⟨true, []⟩ : Files) ∈
      (([sampleFrame].foldl (play game) (start fun _ => none)).finish game sampleFrame).visited :=
    List.Mem.tail _ (List.Mem.head _)
  exact ⟨_, hmem, killed_spec game _ [sampleFrame] sampleFrame _ hmem⟩

/-! ### A game without failing calls -/

/-- No call of a save fails. -/
structure Clean (calls : SaveFileCalls) : Prop where
  opens : calls.opens = false
  writes : ∀ errno, WriteOutcome.failed errno ∉ calls.writes
  sync : calls.sync = false
  close : calls.close = false
  rename : calls.rename = false

/-- No call of a frame fails, and the cartridge has a memory. -/
structure CleanFrame (frame : Frame) : Prop where
  ram : Clean frame.calls.ram
  rtc : Clean frame.calls.rtc
  memory : frame.core.ram ≠ []

/-- The temporary names are not in use. -/
structure Tidy (game : Game) (files : Files) : Prop where
  ram : files (temporarySave game.ramPath game.pid) = none
  rtc : files (temporarySave game.rtcPath game.pid) = none

theorem Clean.after {calls : SaveFileCalls} (h : Clean calls) {path data : Bytes} {pid : ℕ}
    (hfree : files (temporarySave path pid) = none) :
    Replacing.after files (saveMemoryFile files path pid data calls).1 =
      if data = [] then files else write files path ⟨true, data⟩ := by
  refine after_saveMemoryFile_of_true (saveMemoryFile_eq_true_iff.2 (Or.inr ⟨h.opens, hfree, ?_⟩))
  rw [SaveFileCalls.succeed, accepted_of_notMem h.writes, h.sync, h.close, h.rename]
  rfl

/-- The files of the game have other names than its temporary files. -/
theorem Tidy.write (h : Tidy game files) {path : Bytes}
    (hpath : path = game.ramPath ∨ path = game.rtcPath)
    (node : Node) : Tidy game (write files path node) := by
  obtain ⟨-, hrtc, hram⟩ := game.paths_apart
  rcases hpath with rfl | rfl
  · refine ⟨?_, ?_⟩
    · rw [FileStore.write_of_ne node (temporarySave_ne _ _)]
      exact h.ram
    · rw [FileStore.write_of_ne node (Ne.symm hram)]
      exact h.rtc
  · refine ⟨?_, ?_⟩
    · rw [FileStore.write_of_ne node (Ne.symm hrtc)]
      exact h.ram
    · rw [FileStore.write_of_ne node (temporarySave_ne _ _)]
      exact h.rtc

/-- **A save without failing calls** leaves all of the memory, and no temporary file. -/
theorem save_of_clean {session : GameSession} (htidy : Tidy game session.files) {frame : Frame}
    (hclean : CleanFrame frame) :
    Tidy game (session.save game frame.core frame.calls).files ∧
      (session.save game frame.core frame.calls).files game.ramPath =
        some ⟨true, frame.core.ram⟩ := by
  have hram : Replacing.after session.files
      (saveMemoryFile session.files game.ramPath game.pid frame.core.ram frame.calls.ram).1 =
        write session.files game.ramPath ⟨true, frame.core.ram⟩ := by
    rw [hclean.ram.after htidy.ram, if_neg hclean.memory]
  have htidied := htidy.write (Or.inl rfl) ⟨true, frame.core.ram⟩
  rw [save, Game.savePersistentMemory]
  dsimp only
  split
  · dsimp only
    rw [Replacing.after_append, hram, hclean.rtc.after htidied.rtc]
    split
    · exact ⟨htidied, FileStore.write_same _ _ _⟩
    · refine ⟨htidied.write (Or.inr rfl) _, ?_⟩
      rw [FileStore.write_of_ne _ game.paths_apart.1, FileStore.write_same]
  · rw [hram]
    exact ⟨htidied, FileStore.write_same _ _ _⟩

/-- What is saved of a game without failing calls: nothing before the 600th frame, and then the
memory of the last frame at which it was due. -/
structure UpToDate (game : Game) (files : Files) (frames : List Frame)
    (session : GameSession) : Prop where
  played : session.frames = frames.length
  tidy : Tidy game session.files
  before : frames.length < 600 → session.files game.ramPath = files game.ramPath
  saved : ∀ frame, 600 ≤ frames.length → frames[frames.length / 600 * 600 - 1]? = some frame →
    session.files game.ramPath = some ⟨true, frame.core.ram⟩

theorem UpToDate.play {session : GameSession} (h : UpToDate game files frames session)
    {frame : Frame} (hclean : CleanFrame frame) :
    UpToDate game files (frames ++ [frame]) (session.play game frame) := by
  have hlength : (frames ++ [frame]).length = frames.length + 1 := List.length_append
  rw [GameSession.play]
  dsimp only
  rw [h.played]
  split
  next hdue =>
    have htidy : Tidy game ({ session with frames := frames.length + 1 } : GameSession).files :=
      h.tidy
    obtain ⟨hnext, hsaved⟩ := save_of_clean htidy hclean
    refine ⟨hlength.symm, hnext, ?_, ?_⟩
    · intro hshort
      rw [hlength] at hshort
      omega
    · intro last _ hlast
      have hindex : (frames ++ [frame]).length / 600 * 600 - 1 = frames.length := by
        rw [hlength]
        omega
      rw [hindex, List.getElem?_append_right (Nat.le_refl _), Nat.sub_self] at hlast
      obtain rfl := Option.some.inj hlast
      exact hsaved
  next hdue =>
    refine ⟨hlength.symm, h.tidy, ?_, ?_⟩
    · intro hshort
      rw [hlength] at hshort
      exact h.before (by omega)
    · intro last hlong hlast
      rw [hlength] at hlong
      have hindex : (frames ++ [frame]).length / 600 * 600 - 1 = frames.length / 600 * 600 - 1 := by
        rw [hlength]
        omega
      rw [hindex, List.getElem?_append_left (by omega)] at hlast
      exact h.saved last (by omega) hlast

theorem upToDate_run {files : Files} (htidy : Tidy game files) {frames : List Frame}
    (hclean : ∀ frame ∈ frames, CleanFrame frame) :
    UpToDate game files frames (frames.foldl (play game) (start files)) := by
  induction frames using List.reverseRecOn with
  | nil => exact ⟨rfl, htidy, fun _ => rfl, fun _ hlong => absurd hlong (by decide)⟩
  | append_singleton frames frame ih =>
      rw [List.forall_mem_append] at hclean
      rw [List.foldl_append]
      exact (ih hclean.1).play (hclean.2 frame List.mem_cons_self)

end GameSession

end NesDeck.LibretroDeck
