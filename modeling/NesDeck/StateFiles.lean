/-
**The settings that the menu keeps.**

`menu_state.cpp` keeps the volume, the brightness and the key map of the terminal, each in a file of
its own.  A file is replaced by a temporary one that is written, synchronised and renamed over it.
`rename` is atomic, and a call that fails changes nothing, except that a failing `write` may leave a
part of the data in the temporary file.

Files are a map from paths to what is found there; paths come from the command line and contain no
zero byte.  The directory is opened and synchronised after the `rename`, with the results dropped;
its calls are left out.  The output pointers of the loaders are never null.

Main definitions:

* `NesDeck.StateFiles.SaveCalls`, `NesDeck.StateFiles.LoadCalls` — how the calls end;
* `NesDeck.StateFiles.saveStateValue`, `NesDeck.StateFiles.loadStateValue` — one file;
* `NesDeck.StateFiles.saveVolumeState`, `NesDeck.StateFiles.loadVolumeState`,
  `NesDeck.StateFiles.saveKeymapState`, `NesDeck.StateFiles.loadKeymapState` — the settings;
* `NesDeck.StateFiles.SaveCalls.Succeeds` — the calls with which a value is saved.

Main results:

* `NesDeck.StateFiles.saveStateValue_spec` — **a value is saved completely or not at all**;
* `NesDeck.StateFiles.loadVolumeState_of_saved`, `NesDeck.StateFiles.loadKeymapState_of_saved` — the
  loaders give back what is saved.
-/

import NesDeck.Lib.FileStore
import NesDeck.Lib.Transfers
import NesDeck.ManifestRows

set_option relaxedAutoImplicit false
set_option autoImplicit false

namespace NesDeck.StateFiles

open FileStore HostFile
open MenuText (isAbsolutePath)

/-! ### Files and calls -/

/-- What is found at a path. -/
structure Node where
  isRegular : Bool
  content : Bytes
  deriving DecidableEq

abbrev Files : Type := FileStore.Files Bytes Node

/-- A file with this name exists. -/
def eexist : Errno := ⟨17⟩

/-- How the calls of `save_state_value` end: the process number, the errors of the `open` calls by
attempt where no file has the name, the outcomes of `write`, and the errors of the calls behind
it. -/
structure SaveCalls where
  pid : ℕ
  creates : ℕ → Option Errno
  writes : List WriteOutcome
  sync : Option Errno
  close : Option Errno
  rename : Option Errno
  unlink : Option Errno

/-- How the calls of `load_state_value` end.  Only a missing file is reported as missing. -/
structure LoadCalls where
  opens : Option Errno
  opens_ne : opens ≠ some Errno.enoent
  stat : Option Errno
  reads : List ReadOutcome
  /-- What `errno` holds after a failing `read`. -/
  readErrno : Errno

/-! ### Errors -/

/-- The reasons for which a state file is not saved or not loaded. -/
inductive StateError where
  | notAbsolute
  | cannotCreate (errno : Errno)
  | cannotAllocate
  | cannotWrite (errno : Errno)
  | cannotSync (errno : Errno)
  | cannotClose (errno : Errno)
  | cannotReplace (errno : Errno)
  | cannotOpen (errno : Errno)
  | cannotStat (errno : Errno)
  | notSmallRegular
  | cannotRead (errno : Errno)
  | tooLarge
  deriving DecidableEq

/-- The text of the error. -/
def StateError.message (strerror : Errno → Bytes) (role path : Bytes) : StateError → Bytes
  | notAbsolute => role ++ ascii " state path must be absolute"
  | cannotCreate errno =>
      errnoMessage strerror (ascii "cannot create " ++ role ++ ascii " state temporary file") errno
  | cannotAllocate => ascii "cannot allocate a " ++ role ++ ascii " state temporary file"
  | cannotWrite errno =>
      errnoMessage strerror (ascii "cannot write " ++ role ++ ascii " state") errno
  | cannotSync errno => errnoMessage strerror (ascii "cannot sync " ++ role ++ ascii " state") errno
  | cannotClose errno =>
      errnoMessage strerror (ascii "cannot close " ++ role ++ ascii " state") errno
  | cannotReplace errno =>
      errnoMessage strerror (ascii "cannot replace " ++ role ++ ascii " state") errno
  | cannotOpen errno =>
      errnoMessage strerror (ascii "cannot open " ++ role ++ ascii " state " ++ path) errno
  | cannotStat errno =>
      errnoMessage strerror (ascii "cannot stat " ++ role ++ ascii " state " ++ path) errno
  | notSmallRegular => role ++ ascii " state must be a regular file no larger than 64 bytes"
  | cannotRead errno =>
      errnoMessage strerror (ascii "cannot read " ++ role ++ ascii " state " ++ path) errno
  | tooLarge => role ++ ascii " state is too large"

/-! ### Saving a value -/

/-- The name of the temporary file of an attempt. -/
def temporaryName (path : Bytes) (pid attempt : ℕ) : Bytes :=
  path ++ ascii ".tmp." ++ decimal pid ++ ascii "." ++ decimal attempt

/-- The attempts that are left, from the given one on. -/
def openTemporary (files : Files) (path : Bytes) (calls : SaveCalls) :
    ℕ → ℕ → Except StateError Bytes
  | 0, _ => .error .cannotAllocate
  | left + 1, attempt =>
      let temporary := temporaryName path calls.pid attempt
      match if (files temporary).isSome then some eexist else calls.creates attempt with
      | none => .ok temporary
      | some errno =>
          if errno ≠ eexist then .error (.cannotCreate errno)
          else openTemporary files path calls left (attempt + 1)

/-- The temporary file is written, synchronised, closed and renamed; where that fails it is
removed. -/
def saveStateValue (files : Files) (path value : Bytes) (calls : SaveCalls) :
    Files × Except StateError Unit :=
  if isAbsolutePath path = false then (files, .error .notAbsolute)
  else
    match openTemporary files path calls 16 0 with
    | .error error => (files, .error error)
    | .ok temporary =>
        let bytes := value ++ ascii "\n"
        let written := writeFile calls.writes [] 0 bytes
        let staged := write files temporary ⟨true, written.1⟩
        let removed := if calls.unlink.isSome then staged else remove staged temporary
        match written.2, calls.sync, calls.close, calls.rename with
        | some errno, _, _, _ => (removed, .error (.cannotWrite errno))
        | none, some errno, _, _ => (removed, .error (.cannotSync errno))
        | none, none, some errno, _ => (removed, .error (.cannotClose errno))
        | none, none, none, some errno => (removed, .error (.cannotReplace errno))
        | none, none, none, none => ((rename staged temporary path).getD staged, .ok ())

/-! ### Loading a value -/

/-- The bytes of a state file, or nothing where it is missing. -/
def loadStateValue (files : Files) (path : Bytes) (calls : LoadCalls) :
    Except StateError (Option Bytes) :=
  if isAbsolutePath path = false then .error .notAbsolute
  else
    match calls.opens with
    | some errno => .error (.cannotOpen errno)
    | none =>
        match files path with
        | none => .ok none
        | some node =>
            match calls.stat with
            | some errno => .error (.cannotStat errno)
            | none =>
                if node.isRegular = false ∨ 64 < node.content.length then .error .notSmallRegular
                else
                  match readAll calls.reads node.content 65 with
                  | none => .error (.cannotRead calls.readErrno)
                  | some bytes => if bytes.length = 65 then .error .tooLarge else .ok (some bytes)

/-! ### The volume and the key map -/

/-- The reasons for which a setting is not saved or not loaded. -/
inductive SettingError where
  | volumeRange
  | defaultVolumeRange
  | volumeForm
  | keymapName
  | keymapForm
  | state (error : StateError)
  deriving DecidableEq

/-- The text of the error. -/
def SettingError.message (strerror : Errno → Bytes) (role path : Bytes) : SettingError → Bytes
  | volumeRange => ascii "volume must be between 0 and 100"
  | defaultVolumeRange => ascii "default volume must be between 0 and 100"
  | volumeForm => ascii
      "volume state must contain a canonical integer from 0 through 100 followed by a newline"
  | keymapName => ascii "terminal keymap must be 'us' or 'cz'"
  | keymapForm => ascii "terminal keymap state must contain exactly 'us\\n' or 'cz\\n'"
  | state error => error.message strerror role path

/-- The loop over the digits. -/
def percentLoop : Bytes → ℕ → Option ℕ
  | [], value => some value
  | character :: rest, value =>
      if character < 0x30 ∨ 0x39 < character then none
      else if 100 < value * 10 + (character.toNat - 0x30) then none
      else percentLoop rest (value * 10 + (character.toNat - 0x30))

/-- A number up to 100 in its shortest form. -/
def parseVolumePercent (text : Bytes) : Option ℕ :=
  if text = [] then none
  else (percentLoop text 0).filter fun value => decimal value = text

/-- The percentage on the single line of a state file. -/
def linePercent (bytes : Bytes) : Option ℕ :=
  if bytes = [] ∨ bytes.getLast? ≠ some 0x0a ∨ bytes.idxOf 0x0a ≠ bytes.length - 1 then none
  else parseVolumePercent bytes.dropLast

/-- A setting is saved under its own errors. -/
def saveSetting (files : Files) (path value : Bytes) (calls : SaveCalls) :
    Files × Except SettingError Unit :=
  ((saveStateValue files path value calls).1,
    (saveStateValue files path value calls).2.mapError .state)

def saveVolumeState (files : Files) (path : Bytes) (volume : ℕ) (calls : SaveCalls) :
    Files × Except SettingError Unit :=
  if 100 < volume then (files, .error .volumeRange)
  else saveSetting files path (decimal volume) calls

/-- The volume, if it is loaded; a missing file and one of the old form are written anew. -/
def loadVolumeState (files : Files) (path : Bytes) (defaultVolume : ℕ) (load : LoadCalls)
    (save : SaveCalls) : Files × Except SettingError ℕ :=
  let adopt volume :=
    ((saveVolumeState files path volume save).1,
      (saveVolumeState files path volume save).2.map fun _ => volume)
  if 100 < defaultVolume then (files, .error .defaultVolumeRange)
  else
    match loadStateValue files path load with
    | .error error => (files, .error (.state error))
    | .ok none => adopt defaultVolume
    | .ok (some bytes) =>
        if bytes = ascii "on\n" then adopt defaultVolume
        else if bytes = ascii "off\n" then adopt 0
        else
          match linePercent bytes with
          | none => (files, .error .volumeForm)
          | some volume => (files, .ok volume)

def validKeymap (keymap : Bytes) : Bool := keymap = ascii "us" ∨ keymap = ascii "cz"

def saveKeymapState (files : Files) (path keymap : Bytes) (calls : SaveCalls) :
    Files × Except SettingError Unit :=
  if validKeymap keymap = false then (files, .error .keymapName)
  else saveSetting files path keymap calls

/-- The key map, if it is loaded; a missing file is written. -/
def loadKeymapState (files : Files) (path : Bytes) (load : LoadCalls) (save : SaveCalls) :
    Files × Except SettingError Bytes :=
  match loadStateValue files path load with
  | .error error => (files, .error (.state error))
  | .ok none =>
      ((saveKeymapState files path (ascii "us") save).1,
        (saveKeymapState files path (ascii "us") save).2.map fun _ => ascii "us")
  | .ok (some bytes) =>
      if bytes = ascii "us\n" then (files, .ok (ascii "us"))
      else if bytes = ascii "cz\n" then (files, .ok (ascii "cz"))
      else (files, .error .keymapForm)

/-! ### What saving leaves behind -/

section Saving

variable {files : Files} {path value : Bytes} {calls : SaveCalls}

theorem temporaryName_ne (path : Bytes) (pid attempt : ℕ) :
    temporaryName path pid attempt ≠ path := by
  intro heq
  have hlength := congrArg List.length heq
  have hdot : (ascii ".tmp.").length = 5 := by decide
  simp only [temporaryName, List.length_append, hdot] at hlength
  omega

/-- The temporary file has a name that was not in use. -/
theorem openTemporary_spec {left attempt : ℕ} {temporary : Bytes}
    (h : openTemporary files path calls left attempt = .ok temporary) :
    files temporary = none ∧ temporary ≠ path := by
  induction left generalizing attempt with
  | zero => cases h
  | succ left ih =>
      rw [openTemporary] at h
      split at h
      · next hnone =>
          cases h
          cases hfile : files (temporaryName path calls.pid attempt) with
          | none => exact ⟨rfl, temporaryName_ne path calls.pid attempt⟩
          | some node => simp [hfile] at hnone
      · split at h
        · cases h
        · exact ih h

/-- The calls with which a value is saved: one of the sixteen names can be created before an attempt
fails for good, and no later call fails. -/
structure SaveCalls.Succeeds (calls : SaveCalls) (files : Files) (path value : Bytes) : Prop where
  absolute : isAbsolutePath path = true
  opens : ∃ temporary, openTemporary files path calls 16 0 = .ok temporary
  writes : (accepted calls.writes (value ++ ascii "\n")).2 = none
  sync : calls.sync = none
  close : calls.close = none
  rename : calls.rename = none

/-- **A value is saved completely or not at all**: either the calls succeed and the file is
replaced, or an error is returned and the file is what it was. -/
theorem saveStateValue_spec (files : Files) (path value : Bytes) (calls : SaveCalls) :
    calls.Succeeds files path value ∧
        saveStateValue files path value calls =
          (write files path ⟨true, value ++ ascii "\n"⟩, .ok ()) ∨
      ¬ calls.Succeeds files path value ∧
        ∃ files' error, saveStateValue files path value calls = (files', .error error) ∧
          files' path = files path := by
  rw [saveStateValue]
  cases hpath : isAbsolutePath path with
  | false =>
      refine Or.inr ⟨?_, files, _, rfl, rfl⟩
      intro hsucceeds
      exact absurd (hpath.symm.trans hsucceeds.absolute) Bool.false_ne_true
  | true =>
      rw [if_neg (by decide)]
      cases hopen : openTemporary files path calls 16 0 with
      | error error =>
          refine Or.inr ⟨?_, files, error, rfl, rfl⟩
          intro hsucceeds
          obtain ⟨temporary, hok⟩ := hsucceeds.opens
          rw [hopen] at hok
          cases hok
      | ok temporary =>
          obtain ⟨hfree, hne⟩ := openTemporary_spec hopen
          dsimp only
          rw [writeFile_eq calls.writes (Nat.le_refl 0), overwrite_empty]
          -- the temporary file, removed or left behind, is not the destination
          have hkeeps : ∀ node : Node,
              (if calls.unlink.isSome then write files temporary node
                else remove (write files temporary node) temporary) path = files path := by
            intro node
            split
            · exact write_of_ne node (Ne.symm hne)
            · rw [remove_write node hfree]
          cases hwrites : (accepted calls.writes (value ++ ascii "\n")).2 with
          | some errno =>
              exact Or.inr ⟨fun h => Option.some_ne_none errno (hwrites.symm.trans h.writes),
                _, _, rfl, hkeeps _⟩
          | none =>
              rw [((accepted_eq calls.writes (value ++ ascii "\n")).2.1 hwrites)]
              cases hsync : calls.sync with
              | some errno =>
                  exact Or.inr ⟨fun h => Option.some_ne_none errno (hsync.symm.trans h.sync),
                    _, _, rfl, hkeeps _⟩
              | none =>
                  cases hclose : calls.close with
                  | some errno =>
                      exact Or.inr ⟨fun h => Option.some_ne_none errno (hclose.symm.trans h.close),
                        _, _, rfl, hkeeps _⟩
                  | none =>
                      cases hrename : calls.rename with
                      | some errno =>
                          exact Or.inr ⟨fun h =>
                            Option.some_ne_none errno (hrename.symm.trans h.rename), _, _,
                            rfl, hkeeps _⟩
                      | none =>
                          refine Or.inl
                            ⟨⟨hpath, ⟨temporary, hopen⟩, hwrites, hsync, hclose, hrename⟩, ?_⟩
                          dsimp only
                          rw [rename_temporary hfree hne]
                          rfl

/-- What is saved is there, and what is not saved has changed nothing. -/
theorem saveStateValue_kept (files : Files) (path value : Bytes) (calls : SaveCalls) :
    ((saveStateValue files path value calls).2 = .ok () →
        (saveStateValue files path value calls).1 path = some ⟨true, value ++ ascii "\n"⟩) ∧
      ((saveStateValue files path value calls).2 ≠ .ok () →
        (saveStateValue files path value calls).1 path = files path) := by
  rcases saveStateValue_spec files path value calls with
    ⟨-, hsaved⟩ | ⟨-, files', error, hfailed, hkept⟩
  · rw [hsaved]
    exact ⟨fun _ => write_same .., fun h => absurd rfl h⟩
  · rw [hfailed]
    refine ⟨?_, fun _ => hkept⟩
    intro h
    cases h

theorem ok_of_mapError {ε δ : Type} {result : Except ε Unit} {f : ε → δ}
    (h : result.mapError f = .ok ()) : result = .ok () := by
  cases result with
  | error error => cases h
  | ok done => rfl

/-- A value that is saved is there, under an absolute path. -/
theorem saveStateValue_of_ok (h : (saveStateValue files path value calls).2 = .ok ()) :
    isAbsolutePath path = true ∧
      (saveStateValue files path value calls).1 path = some ⟨true, value ++ ascii "\n"⟩ := by
  refine ⟨?_, (saveStateValue_kept files path value calls).1 h⟩
  rcases saveStateValue_spec files path value calls
    with ⟨hsucceeds, -⟩ | ⟨-, files', error, hfailed, -⟩
  · exact hsucceeds.absolute
  · rw [hfailed] at h
    cases h

end Saving

/-! ### What loading finds -/

/-- No call of a loader fails. -/
structure LoadCalls.Clean (calls : LoadCalls) : Prop where
  opens : calls.opens = none
  stat : calls.stat = none
  reads : ReadOutcome.failed ∉ calls.reads

section Loading

variable {files : Files} {path bytes : Bytes} {calls : LoadCalls}

/-- A small regular file is loaded as it is, or a call fails. -/
theorem loadStateValue_of_saved (hfile : files path = some ⟨true, bytes⟩)
    (hpath : isAbsolutePath path = true) (hsize : bytes.length ≤ 64) :
    (loadStateValue files path calls = .ok (some bytes) ∨
        ∃ error, loadStateValue files path calls = .error error) ∧
      (calls.Clean → loadStateValue files path calls = .ok (some bytes)) := by
  have hbound : ¬ (true = false ∨ 64 < bytes.length) := by
    rintro (h | h)
    · cases h
    · omega
  have htake : bytes.take 65 = bytes := List.take_of_length_le (by omega)
  rw [loadStateValue, if_neg (by simp [hpath]), hfile]
  cases hopens : calls.opens with
  | some errno =>
      refine ⟨Or.inr ⟨_, rfl⟩, ?_⟩
      intro h
      exact absurd (hopens.symm.trans h.opens) (Option.some_ne_none errno)
  | none =>
      cases hstat : calls.stat with
      | some errno =>
          refine ⟨Or.inr ⟨_, rfl⟩, ?_⟩
          intro h
          exact absurd (hstat.symm.trans h.stat) (Option.some_ne_none errno)
      | none =>
          dsimp only
          rw [if_neg hbound]
          cases hread : readAll calls.reads bytes 65 with
          | none =>
              refine ⟨Or.inr ⟨_, rfl⟩, ?_⟩
              intro h
              rw [readAll_of_notMem h.reads] at hread
              cases hread
          | some got =>
              have hgot : got = bytes := (readAll_eq_take _ _ _ got hread).trans htake
              subst hgot
              dsimp only
              rw [if_neg (by omega)]
              exact ⟨Or.inl rfl, fun _ => rfl⟩

/-- A percentage that is written is read back. -/
theorem linePercent_decimal {value : ℕ} (h : value ≤ 100) :
    linePercent (decimal value ++ ascii "\n") = some value ∧
      decimal value ++ ascii "\n" ≠ ascii "on\n" ∧ decimal value ++ ascii "\n" ≠ ascii "off\n" ∧
      (decimal value ++ ascii "\n").length ≤ 64 := by
  have hall : ∀ n < 101, linePercent (decimal n ++ ascii "\n") = some n ∧
      decimal n ++ ascii "\n" ≠ ascii "on\n" ∧ decimal n ++ ascii "\n" ≠ ascii "off\n" ∧
      (decimal n ++ ascii "\n").length ≤ 64 := by decide +kernel
  exact hall value (by omega)

end Loading

/-- A loader gives back a value: whatever it returns is the value, and it returns it, without a
change to the files, where none of its calls fails. -/
structure Reloads {α : Type} (loader : LoadCalls → SaveCalls → Files × Except SettingError α)
    (files : Files) (value : α) : Prop where
  exact : ∀ load save, ∀ loaded, (loader load save).2 = .ok loaded → loaded = value
  returns : ∀ load save, load.Clean → loader load save = (files, .ok value)

/-- A loader that takes its value from the text of a state file, and fails where this cannot be
read. -/
theorem reloads_of_loadStateValue {α : Type}
    {loader : LoadCalls → SaveCalls → Files × Except SettingError α}
    {files : Files} {path text : Bytes} {value : α} (hpath : isAbsolutePath path = true)
    (hfile : files path = some ⟨true, text⟩) (hlength : text.length ≤ 64)
    (hloaded : ∀ load save, loadStateValue files path load = .ok (some text) →
      loader load save = (files, .ok value))
    (hfailed : ∀ load save error loaded, loadStateValue files path load = .error error →
      (loader load save).2 ≠ .ok loaded) : Reloads loader files value := by
  constructor
  · intro load save loaded hok
    rcases (@loadStateValue_of_saved _ _ _ load hfile hpath hlength).1 with hload | ⟨error, hload⟩
    · rw [hloaded load save hload] at hok
      exact (Except.ok.inj hok).symm
    · exact absurd hok (hfailed load save error loaded hload)
  · intro load save hclean
    exact hloaded load save ((loadStateValue_of_saved hfile hpath hlength).2 hclean)

/-- A line in a state file that holds a percentage is loaded as the volume. -/
theorem loadVolumeState_of_line {files : Files} {path : Bytes} {volume defaultVolume : ℕ}
    (hpath : isAbsolutePath path = true)
    (hfile : files path = some ⟨true, decimal volume ++ ascii "\n"⟩) (hvolume : volume ≤ 100)
    (hdefault : defaultVolume ≤ 100) :
    Reloads (loadVolumeState files path defaultVolume) files volume := by
  obtain ⟨hline, hon, hoff, hlength⟩ := linePercent_decimal hvolume
  have hloaded : ∀ load save,
      loadStateValue files path load = .ok (some (decimal volume ++ ascii "\n")) →
        loadVolumeState files path defaultVolume load save = (files, .ok volume) := by
    intro load save hload
    rw [loadVolumeState, if_neg (by omega), hload]
    dsimp only
    rw [if_neg hon, if_neg hoff, hline]
  refine reloads_of_loadStateValue hpath hfile hlength hloaded ?_
  intro load save error loaded hload hok
  rw [loadVolumeState, if_neg (by omega), hload] at hok
  cases hok

/-- A line in a state file that names a key map is loaded as the key map. -/
theorem loadKeymapState_of_line {files : Files} {path keymap : Bytes}
    (hpath : isAbsolutePath path = true)
    (hfile : files path = some ⟨true, keymap ++ ascii "\n"⟩) (hkeymap : validKeymap keymap = true) :
    Reloads (loadKeymapState files path) files keymap := by
  have hcases : keymap = ascii "us" ∨ keymap = ascii "cz" := by
    rwa [validKeymap, decide_eq_true_eq] at hkeymap
  have hlength : (keymap ++ ascii "\n").length ≤ 64 := by
    rcases hcases with rfl | rfl <;> decide
  have hloaded : ∀ load save,
      loadStateValue files path load = .ok (some (keymap ++ ascii "\n")) →
        loadKeymapState files path load save = (files, .ok keymap) := by
    intro load save hload
    rw [loadKeymapState, hload]
    rcases hcases with rfl | rfl
    · exact if_pos (by decide)
    · exact (if_neg (by decide)).trans (if_pos (by decide))
  refine reloads_of_loadStateValue hpath hfile hlength hloaded ?_
  intro load save error loaded hload hok
  rw [loadKeymapState, hload] at hok
  cases hok

/-- **The volume that was saved is loaded.** -/
theorem loadVolumeState_of_saved {files : Files} {path : Bytes} {volume : ℕ} {calls : SaveCalls}
    (h : (saveVolumeState files path volume calls).2 = .ok ()) {defaultVolume : ℕ}
    (hdefault : defaultVolume ≤ 100) :
    Reloads (loadVolumeState (saveVolumeState files path volume calls).1 path defaultVolume)
      (saveVolumeState files path volume calls).1 volume := by
  rw [saveVolumeState] at h ⊢
  split at h
  · cases h
  · next hvolume =>
      rw [if_neg hvolume]
      obtain ⟨hpath, hfile⟩ := saveStateValue_of_ok (ok_of_mapError h)
      exact loadVolumeState_of_line hpath hfile (Nat.not_lt.1 hvolume) hdefault

/-- **The key map that was saved is loaded.** -/
theorem loadKeymapState_of_saved {files : Files} {path keymap : Bytes} {calls : SaveCalls}
    (h : (saveKeymapState files path keymap calls).2 = .ok ()) :
    Reloads (loadKeymapState (saveKeymapState files path keymap calls).1 path)
      (saveKeymapState files path keymap calls).1 keymap := by
  rw [saveKeymapState] at h ⊢
  split at h
  · cases h
  · next hkeymap =>
      rw [if_neg hkeymap]
      obtain ⟨hpath, hfile⟩ := saveStateValue_of_ok (ok_of_mapError h)
      exact loadKeymapState_of_line hpath hfile (by simpa using hkeymap)

end NesDeck.StateFiles
