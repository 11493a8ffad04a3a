/-
**Files that are published.**

A program that must not leave half a file behind writes a temporary file under a name that is not
in use, and then publishes it: with `link`, which never replaces a file, or with `rename`, which
replaces one at once.  Here the files of a system are a map from paths to contents.

Main definitions:

* `FileStore.Files` — the files, by path;
* `FileStore.write`, `FileStore.remove`, `FileStore.link`, `FileStore.rename` — the calls;
* `FileStore.freeName` — the first of a list of names that is not in use;
* `FileStore.Keeps` — every file that was there is there, with its content.

Main results:

* `FileStore.remove_write` — a temporary file that is removed leaves no trace;
* `FileStore.link_temporary`, `FileStore.rename_temporary` — what publishing a temporary file does;
* `FileStore.keeps_write` — a new file keeps the others.
-/

import Mathlib.Logic.Function.Basic

set_option relaxedAutoImplicit false
set_option autoImplicit false

namespace FileStore

variable {Path Content : Type}

/-- The files of a system. -/
abbrev Files (Path Content : Type) : Type := Path → Option Content

/-- Every file that was there is there, with its content. -/
def Keeps (files files' : Files Path Content) : Prop :=
  ∀ path content, files path = some content → files' path = some content

theorem Keeps.refl (files : Files Path Content) : Keeps files files := fun _ _ h => h

/-- The first name that is not in use. -/
def freeName (files : Files Path Content) (names : List Path) : Option Path :=
  names.find? fun name => (files name).isNone

theorem freeName_eq_some {files : Files Path Content} {names : List Path} {name : Path}
    (h : freeName files names = some name) : files name = none ∧ name ∈ names := by
  rw [freeName] at h
  have hfree : (files name).isNone = true :=
    List.find?_some (p := fun name => (files name).isNone) h
  exact ⟨Option.isNone_iff_eq_none.1 hfree, List.mem_of_find?_eq_some h⟩

variable [DecidableEq Path]

/-! ### Calls -/

def write (files : Files Path Content) (path : Path) (content : Content) : Files Path Content :=
  Function.update files path (some content)

def remove (files : Files Path Content) (path : Path) : Files Path Content :=
  Function.update files path none

/-- A second name for a file, which must not be in use. -/
def link (files : Files Path Content) (old new : Path) : Option (Files Path Content) :=
  match files old, files new with
  | some content, none => some (write files new content)
  | _, _ => none

/-- A new name for a file, which replaces the file that had it. -/
def rename (files : Files Path Content) (old new : Path) : Option (Files Path Content) :=
  (files old).map fun content => if old = new then files else remove (write files new content) old

/-! ### What they do -/

@[simp] theorem write_same (files : Files Path Content) (path : Path) (content : Content) :
    write files path content path = some content := Function.update_self ..

@[simp] theorem remove_same (files : Files Path Content) (path : Path) :
    remove files path path = none := Function.update_self ..

theorem write_of_ne {files : Files Path Content} {path other : Path} (content : Content)
    (h : other ≠ path) : write files path content other = files other :=
  Function.update_of_ne h ..

theorem remove_of_ne {files : Files Path Content} {path other : Path} (h : other ≠ path) :
    remove files path other = files other :=
  Function.update_of_ne h ..

@[simp] theorem write_write (files : Files Path Content) (path : Path) (first second : Content) :
    write (write files path first) path second = write files path second :=
  Function.update_idem ..

/-- Removing a file that is not there does nothing. -/
theorem remove_eq_self {files : Files Path Content} {path : Path} (h : files path = none) :
    remove files path = files := by
  rw [remove, ← h, Function.update_eq_self]

/-- A temporary file that is removed leaves no trace. -/
theorem remove_write {files : Files Path Content} {path : Path} (content : Content)
    (h : files path = none) : remove (write files path content) path = files := by
  rw [remove, write, Function.update_idem, ← h, Function.update_eq_self]

/-- Removing one file and writing another one can be done in either order. -/
theorem remove_write_comm {files : Files Path Content} {path other : Path} (content : Content)
    (h : other ≠ path) :
    remove (write files path content) other = write (remove files other) path content :=
  Function.update_comm (Ne.symm h) ..

/-! ### Publishing a temporary file -/

section Publish

variable {files : Files Path Content} {temporary path : Path} {content : Content}

/-- `link` publishes a temporary file where no file was, and nowhere else. -/
theorem link_temporary (htemporary : files temporary = none) {linked : Files Path Content}
    (h : link (write files temporary content) temporary path = some linked) :
    files path = none ∧ remove linked temporary = write files path content ∧
      remove (remove linked path) temporary = files := by
  rw [link, write_same] at h
  cases hpath : write files temporary content path with
  | some other =>
      rw [hpath] at h
      cases h
  | none =>
      rw [hpath] at h
      cases h
      have hne : temporary ≠ path := by
        rintro rfl
        rw [write_same] at hpath
        cases hpath
      have hfree : files path = none := by
        rw [← hpath, write_of_ne content (Ne.symm hne)]
      refine ⟨hfree, ?_, ?_⟩
      · rw [remove_write_comm content hne, remove_write content htemporary]
      · rw [remove_write content hpath, remove_write content htemporary]

/-- `link` fails on a name that is in use. -/
theorem link_temporary_eq_none
    (h : link (write files temporary content) temporary path = none)
    (hne : path ≠ temporary) : files path ≠ none := by
  intro hfree
  rw [link, write_same, write_of_ne content hne, hfree] at h
  cases h

/-- `rename` publishes a temporary file in the place of another one. -/
theorem rename_temporary (htemporary : files temporary = none) (hne : temporary ≠ path) :
    rename (write files temporary content) temporary path = some (write files path content) := by
  rw [rename, write_same, Option.map_some, if_neg hne, remove_write_comm content hne,
    remove_write content htemporary]

end Publish

/-- A new file keeps the others. -/
theorem keeps_write {files : Files Path Content} {path : Path} (content : Content)
    (h : files path = none) : Keeps files (write files path content) := by
  intro other old hother
  rw [write_of_ne content, hother]
  rintro rfl
  rw [h] at hother
  cases hother

end FileStore
