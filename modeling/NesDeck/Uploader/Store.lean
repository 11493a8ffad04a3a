/-
**The store of the uploader.**

`romStore.add` (`uploader/rom.go`) installs a ROM and adds a line to the catalog of uploads.  Both
are published from temporary files, the ROM with `link` and the catalog with `rename`.  Every call
on a file or on a directory may fail; what was done so far is then taken back.

Files are a map from paths to contents.  Directories have no contents: that one cannot be made,
opened or synchronised is one of the faults.  A failing call has no effect, except that a failing
`write` may leave a part of the data behind.

Main definitions:

* `NesDeck.Uploader.WriteFaults`, `NesDeck.Uploader.Faults` — which calls fail;
* `NesDeck.Uploader.stage`, `NesDeck.Uploader.installExclusive`, `NesDeck.Uploader.atomicWrite` —
  the two ways to publish a file;
* `NesDeck.Uploader.RomStore`, `NesDeck.Uploader.RomStore.plan` — the store, and what it checks
  before it writes;
* `NesDeck.Uploader.RomStore.add` — the addition of a ROM.

Main results:

* `NesDeck.Uploader.installExclusive_spec`, `NesDeck.Uploader.atomicWrite_spec` — what the two ways
  leave behind;
* `NesDeck.Uploader.RomStore.plan_spec` — what a planned entry looks like.
-/

import Mathlib.Data.List.Sort
import NesDeck.Lib.FileStore
import NesDeck.Uploader.Catalog
import NesDeck.Uploader.Title
import NesDeck.Uploader.Upload

set_option relaxedAutoImplicit false
set_option autoImplicit false

namespace NesDeck.Uploader

open HostFile (Bytes ascii forall_byte)
open FileStore

abbrev Files : Type := FileStore.Files Bytes Bytes

/-! ### Faults -/

/-- The calls that publish one file: the names that are tried for the temporary file, and the
calls that fail.  `writes` is the number of bytes after which `write` fails. -/
structure WriteFaults where
  attempts : List Bytes
  create : Bool
  chmod : Bool
  writes : Option ℕ
  sync : Bool
  close : Bool
  publish : Bool
  openDirectory : Bool
  syncDirectory : Bool

/-- The calls of one addition that fail. -/
structure Faults where
  readBase : Bool
  readUpload : Bool
  ensureDirectory : Bool
  install : WriteFaults
  catalogMkdir : Bool
  catalogLstat : Bool
  catalog : WriteFaults
  restart : Bool

/-- The reasons for which a file is not published. -/
inductive WriteError where
  | fault
  | alreadyExists
  | notRealDirectory

/-- The text of the error; that of a failing call is the one of the system. -/
def WriteError.message (osText : Bytes) : WriteError → Bytes
  | fault => osText
  | alreadyExists => ascii "a ROM with this name already exists"
  | notRealDirectory => ascii "destination directory is not a real directory"

/-! ### Publishing a file -/

/-- `filepath.Join` of a directory and a name. -/
def joinPath (directory name : Bytes) : Bytes := directory ++ 0x2f :: name

/-- `filepath.Dir` of a path that `joinPath` made. -/
def pathDir (path : Bytes) : Bytes := ((path.reverse.dropWhile (· ≠ 0x2f)).drop 1).reverse

/-- The temporary file, written and closed.  Where a call fails it is removed. -/
def stage (files : Files) (directory pattern data : Bytes) (faults : WriteFaults) :
    Except Files (Bytes × Files) :=
  let names := faults.attempts.map fun random => joinPath directory (pattern ++ random)
  match freeName files names with
  | none => .error files
  | some temporary =>
      if faults.create = true then .error files
      else
        let created := write files temporary []
        if faults.chmod = true then .error (remove created temporary)
        else
          match faults.writes with
          | some amount => .error (remove (write created temporary (data.take amount)) temporary)
          | none =>
              let written := write created temporary data
              if faults.sync = true ∨ faults.close = true then .error (remove written temporary)
              else .ok (temporary, written)

def installExclusive (files : Files) (path data : Bytes) (faults : WriteFaults) :
    Files × Option WriteError :=
  match stage files (pathDir path) (ascii ".rom-upload-") data faults with
  | .error files => (files, some .fault)
  | .ok (temporary, staged) =>
      if faults.publish = true then (remove staged temporary, some .fault)
      else
        match link staged temporary path with
        | none => (remove staged temporary, some .alreadyExists)
        | some linked =>
            if faults.openDirectory = true ∨ faults.syncDirectory = true then
              (remove (remove linked path) temporary, some .fault)
            else (remove linked temporary, none)

def atomicWrite (files : Files) (path contents : Bytes) (mkdir lstat : Bool)
    (faults : WriteFaults) : Files × Option WriteError :=
  if mkdir = true then (files, some .fault)
  else if lstat = true then (files, some .notRealDirectory)
  else
    match stage files (pathDir path) (ascii ".rom-uploader-") contents faults with
    | .error files => (files, some .fault)
    | .ok (temporary, staged) =>
        if faults.publish = true then (remove staged temporary, some .fault)
        else
          match rename staged temporary path with
          | none => (remove staged temporary, some .fault)
          | some renamed =>
              -- the new catalog is in its place; an error from here on leaves it there
              if faults.openDirectory = true ∨ faults.syncDirectory = true then
                (remove renamed temporary, some .fault)
              else (renamed, none)

/-! ### The store -/

/-- The paths of a store; the catalog of uploads has the name that the service gives to it. -/
structure RomStore where
  romRoot : Bytes
  baseCatalog : Bytes
  uploadCatalog : Bytes
  printable : ∀ byte ∈ romRoot, 0x20 ≤ byte
  catalogName : ∃ directory, uploadCatalog = joinPath directory (ascii "games.tsv")

/-- The store of the service. -/
def installedStore : RomStore where
  romRoot := ascii "/mnt/data/roms"
  baseCatalog := ascii "/mnt/data/nes-deck/menu/games.tsv"
  uploadCatalog := ascii "/mnt/data/nes-deck/uploads/games.tsv"
  printable := List.all_iff_forall_prop.1 (by decide)
  catalogName := ⟨ascii "/mnt/data/nes-deck/uploads", by decide⟩

/-- The parts of the standard library that stay parameters. -/
structure Library where
  toLower : Bytes → Bytes
  unzip : Bytes → Option (List ZipMember)

structure Request where
  system : Bytes
  title : Bytes
  upload : Upload

/-- The reasons for which an addition fails. -/
inductive StoreError where
  | title
  | unsupportedSystem
  | noSlug
  | upload (error : UploadError)
  | readBase (error : CatalogError)
  | readUpload (error : CatalogError)
  | full
  | prepareDirectory
  | duplicate
  | install (error : WriteError)
  | save (error : WriteError)
  | restart

/-- The text of the error; that of a failing call is the one of the system. -/
def StoreError.message (osText : Bytes) : StoreError → Bytes
  | title => ascii "enter a title of 1 through 64 printable characters"
  | unsupportedSystem => ascii "choose a supported system"
  | noSlug => ascii "the title needs at least one ASCII letter or number for its filename"
  | upload error => error.message
  | readBase error => ascii "read built-in catalog: " ++ error.message osText
  | readUpload error => ascii "read upload catalog: " ++ error.message osText
  | full => ascii "the menu catalog is full"
  | prepareDirectory => ascii "prepare ROM directory: " ++ osText
  | duplicate => ascii "a game with this title is already cataloged"
  | install error => error.message osText
  | save error => ascii "save upload catalog: " ++ error.message osText
  | restart => ascii "ROM saved, but the dashboard could not reload: " ++ osText

/-- The id of an upload. -/
def identifierFor (system slug : Bytes) : Bytes :=
  let identifier := ascii "upload-" ++ system ++ ascii "-" ++ slug
  if 48 < identifier.length then (identifier.take 48).rdropWhile isHyphen else identifier

/-- The order of the catalog: by system, then by title. -/
def entryLess (left right : CatalogEntry) : Bool :=
  if left.system = right.system then left.title < right.title else left.system < right.system

/-- `sort.SliceStable`. -/
def sortEntries (entries : List CatalogEntry) : List CatalogEntry :=
  entries.mergeSort fun left right => !entryLess right left

/-- What an addition is about to write. -/
structure Plan where
  entry : CatalogEntry
  data : Bytes
  uploadEntries : List CatalogEntry

namespace RomStore

variable (store : RomStore) (library : Library)

def destination (system slug extension : Bytes) : Bytes :=
  joinPath (joinPath store.romRoot system) (slug ++ extension)

/-- The checks of `add`, in its order.  No file is changed by them. -/
def plan (files : Files) (request : Request) (faults : Faults) : Except StoreError Plan :=
  if validTitle request.title = false then .error .title
  else
    match supportedSystems request.system with
    | none => .error .unsupportedSystem
    | some spec =>
        let slug := slugify library.toLower request.title
        if slug = [] then .error .noSlug
        else
          match decodeUpload library.toLower library.unzip request.system request.upload with
          | .error error => .error (.upload error)
          | .ok data =>
              match parseCatalog (files store.baseCatalog) faults.readBase false with
              | .error error => .error (.readBase error)
              | .ok baseEntries =>
                  match parseCatalog (files store.uploadCatalog) faults.readUpload true with
                  | .error error => .error (.readUpload error)
                  | .ok uploadEntries =>
                      if maximumGames ≤ baseEntries.length + uploadEntries.length then .error .full
                      else
                        let identifier := identifierFor request.system slug
                        if faults.ensureDirectory = true then .error .prepareDirectory
                        else
                          let rom := store.destination request.system slug spec.extension
                          if (baseEntries ++ uploadEntries).any
                              (fun entry => entry.id = identifier ∨ entry.rom = rom) = true then
                            .error .duplicate
                          else
                            .ok ⟨⟨identifier, request.title, request.system, rom, spec.color⟩, data,
                              uploadEntries⟩

/-- What `add` leaves and returns; without an entry it returns the empty one. -/
structure Addition where
  files : Files
  entry : Option CatalogEntry
  error : Option StoreError

def add (files : Files) (request : Request) (faults : Faults) : Addition :=
  match store.plan library files request faults with
  | .error error => ⟨files, none, some error⟩
  | .ok plan =>
      match installExclusive files plan.entry.rom plan.data faults.install with
      | (files, some error) => ⟨files, none, some (.install error)⟩
      | (files, none) =>
          let catalog := encodeCatalog (sortEntries (plan.uploadEntries ++ [plan.entry]))
          match atomicWrite files store.uploadCatalog catalog faults.catalogMkdir
              faults.catalogLstat faults.catalog with
          | (files, some error) => ⟨remove files plan.entry.rom, none, some (.save error)⟩
          | (files, none) =>
              ⟨files, some plan.entry, if faults.restart = true then some .restart else none⟩

end RomStore

/-! ### What the calls leave behind -/

section Calls

variable {files : Files} {directory pattern path data : Bytes} {faults : WriteFaults}

/-- A temporary file can be made and published: a name is free, and no call fails before the
directory is opened. -/
structure WriteFaults.Publishes (faults : WriteFaults) (files : Files)
    (directory pattern : Bytes) : Prop where
  free : ∃ random ∈ faults.attempts, files (joinPath directory (pattern ++ random)) = none
  create : faults.create = false
  chmod : faults.chmod = false
  writes : faults.writes = none
  sync : faults.sync = false
  close : faults.close = false
  publish : faults.publish = false

/-- The directory cannot be synchronised any more. -/
def WriteFaults.late (faults : WriteFaults) : Bool := faults.openDirectory || faults.syncDirectory

/-- A temporary file that is not written leaves no trace. -/
theorem stage_error {files' : Files}
    (h : stage files directory pattern data faults = .error files') :
    files' = files := by
  rw [stage] at h
  split at h
  · cases h
    rfl
  rename_i temporary hname
  have hfree := (freeName_eq_some hname).1
  split at h
  · cases h
    rfl
  split at h
  · cases h
    exact remove_write [] hfree
  split at h
  · cases h
    rw [write_write, remove_write _ hfree]
  split at h
  · cases h
    rw [write_write, remove_write _ hfree]
  · cases h

/-- The temporary file has a free name, and all the data. -/
theorem stage_ok {temporary : Bytes} {staged : Files}
    (h : stage files directory pattern data faults = .ok (temporary, staged)) :
    files temporary = none ∧ staged = write files temporary data ∧
      (∃ random, temporary = joinPath directory (pattern ++ random)) ∧
        (faults.publish = false → faults.Publishes files directory pattern) := by
  rw [stage] at h
  split at h
  · cases h
  rename_i name hname
  obtain ⟨hfree, hmem⟩ := freeName_eq_some hname
  obtain ⟨random, hrandom, rfl⟩ := List.mem_map.1 hmem
  split at h
  · cases h
  rename_i hcreate
  split at h
  · cases h
  rename_i hchmod
  split at h
  · cases h
  rename_i hwrites
  split at h
  · cases h
  rename_i hend
  cases h
  rw [not_or] at hend
  refine ⟨hfree, write_write .., ⟨random, rfl⟩, ?_⟩
  intro hpublish
  exact
    { free := ⟨random, hrandom, hfree⟩
      create := Bool.eq_false_iff.2 hcreate
      chmod := Bool.eq_false_iff.2 hchmod
      writes := hwrites
      sync := Bool.eq_false_iff.2 hend.1
      close := Bool.eq_false_iff.2 hend.2
      publish := hpublish }

theorem stage_of_publishes (data : Bytes) (h : faults.Publishes files directory pattern) :
    ∃ temporary staged, stage files directory pattern data faults = .ok (temporary, staged) := by
  obtain ⟨random, hrandom, hfree⟩ := h.free
  cases hname : freeName files
      (faults.attempts.map fun random => joinPath directory (pattern ++ random)) with
  | none =>
      rw [freeName, List.find?_eq_none] at hname
      have := hname _ (List.mem_map_of_mem hrandom)
      rw [hfree] at this
      exact absurd rfl this
  | some temporary =>
      rw [stage, hname, h.create, h.chmod, h.writes, h.sync, h.close]
      exact ⟨_, _, rfl⟩

/-- **A ROM is installed where no file was**, or nothing is changed. -/
theorem installExclusive_spec (files : Files) (path data : Bytes) (faults : WriteFaults) :
    (installExclusive files path data faults = (write files path data, none) ∧
        files path = none ∧ faults.Publishes files (pathDir path) (ascii ".rom-upload-") ∧
          faults.late = false) ∨
      (∃ error, installExclusive files path data faults = (files, some error)) ∧
        (files path = none → faults.Publishes files (pathDir path) (ascii ".rom-upload-") →
          (∀ random, joinPath (pathDir path) (ascii ".rom-upload-" ++ random) ≠ path) →
            faults.late = true) := by
  rw [installExclusive]
  cases hstage : stage files (pathDir path) (ascii ".rom-upload-") data faults with
  | error files' =>
      refine Or.inr ⟨⟨.fault, by rw [stage_error hstage]⟩, ?_⟩
      intro _ hpublishes _
      obtain ⟨temporary, staged, hok⟩ := stage_of_publishes data hpublishes
      rw [hstage] at hok
      cases hok
  | ok result =>
      obtain ⟨temporary, staged⟩ := result
      obtain ⟨hfree, rfl, ⟨random, hrandom⟩, hpublishes⟩ := stage_ok hstage
      dsimp only
      split
      · rename_i hpublish
        refine Or.inr ⟨⟨.fault, by rw [remove_write data hfree]⟩, ?_⟩
        intro _ hpublishes _
        rw [hpublishes.publish] at hpublish
        cases hpublish
      rename_i hpublish
      cases hlink : link (write files temporary data) temporary path with
      | none =>
          refine Or.inr ⟨⟨.alreadyExists, by dsimp only; rw [remove_write data hfree]⟩,
            ?_⟩
          intro hpath _ hne
          exact absurd hpath (link_temporary_eq_none hlink (hrandom ▸ hne random).symm)
      | some linked =>
          obtain ⟨hpath, hremove, hundo⟩ := link_temporary hfree hlink
          dsimp only
          split
          · rename_i hlate
            rw [hundo]
            refine Or.inr ⟨⟨.fault, rfl⟩, ?_⟩
            intro _ _ _
            rw [WriteFaults.late, Bool.or_eq_true]
            exact hlate
          · rename_i hlate
            rw [hremove]
            refine Or.inl ⟨rfl, hpath, hpublishes (Bool.eq_false_iff.2 hpublish), ?_⟩
            rw [WriteFaults.late, Bool.eq_false_iff, ne_eq, Bool.or_eq_true]
            exact hlate

/-- A file that is written without an error is written as a whole, and no other file is changed,
even where the temporary file has the name of the file. -/
theorem atomicWrite_ok {files' : Files} {contents : Bytes} {mkdir lstat : Bool}
    (h : atomicWrite files path contents mkdir lstat faults = (files', none)) :
    files' = write files path contents := by
  rw [atomicWrite] at h
  split at h
  · cases h
  split at h
  · cases h
  split at h
  · cases h
  next temporary staged hstage =>
  obtain ⟨hfree, rfl, -, -⟩ := stage_ok hstage
  split at h
  · cases h
  split at h
  · cases h
  next renamed hrename =>
  split at h
  · cases h
  cases h
  by_cases hsame : temporary = path
  · subst hsame
    rw [rename, write_same, Option.map_some, if_pos rfl] at hrename
    exact (Option.some.inj hrename).symm
  · rw [rename_temporary hfree hsame] at hrename
    exact (Option.some.inj hrename).symm

/-- **A catalog is replaced at once**, or not at all; after it is replaced, an error may still be
returned. -/
theorem atomicWrite_spec (files : Files) {path : Bytes} (contents : Bytes) (mkdir lstat : Bool)
    (faults : WriteFaults)
    (hname : ∀ random, joinPath (pathDir path) (ascii ".rom-uploader-" ++ random) ≠ path) :
    (atomicWrite files path contents mkdir lstat faults =
          (write files path contents, if faults.late = true then some .fault else none) ∧
        mkdir = false ∧ lstat = false ∧
          faults.Publishes files (pathDir path) (ascii ".rom-uploader-")) ∨
      (∃ error, atomicWrite files path contents mkdir lstat faults = (files, some error)) ∧
        ¬ (mkdir = false ∧ lstat = false ∧
          faults.Publishes files (pathDir path) (ascii ".rom-uploader-")) := by
  rw [atomicWrite]
  split
  · rename_i hmkdir
    refine Or.inr ⟨⟨.fault, rfl⟩, ?_⟩
    intro h
    rw [h.1] at hmkdir
    cases hmkdir
  rename_i hmkdir
  split
  · rename_i hlstat
    refine Or.inr ⟨⟨.notRealDirectory, rfl⟩, ?_⟩
    intro h
    rw [h.2.1] at hlstat
    cases hlstat
  rename_i hlstat
  cases hstage : stage files (pathDir path) (ascii ".rom-uploader-") contents faults with
  | error files' =>
      refine Or.inr ⟨⟨.fault, by rw [stage_error hstage]⟩, ?_⟩
      intro h
      obtain ⟨temporary, staged, hok⟩ := stage_of_publishes contents h.2.2
      rw [hstage] at hok
      cases hok
  | ok result =>
      obtain ⟨temporary, staged⟩ := result
      obtain ⟨hfree, rfl, ⟨random, hrandom⟩, hpublishes⟩ := stage_ok hstage
      dsimp only
      split
      · rename_i hpublish
        refine Or.inr ⟨⟨.fault, by rw [remove_write contents hfree]⟩, ?_⟩
        intro h
        rw [h.2.2.publish] at hpublish
        cases hpublish
      rename_i hpublish
      have hne : temporary ≠ path := hrandom ▸ hname random
      refine Or.inl ⟨?_, Bool.eq_false_iff.2 hmkdir, Bool.eq_false_iff.2 hlstat,
        hpublishes (Bool.eq_false_iff.2 hpublish)⟩
      rw [rename_temporary hfree hne]
      dsimp only
      have hgone : write files path contents temporary = none := by
        rw [write_of_ne contents hne, hfree]
      rw [remove_eq_self hgone, WriteFaults.late]
      split
      · rename_i hlate
        rw [if_pos ((Bool.or_eq_true ..).symm ▸ hlate)]
      · rename_i hlate
        rw [if_neg (fun h => hlate ((Bool.or_eq_true ..).mp h))]

end Calls

/-! ### Paths -/

theorem pathDir_joinPath (directory : Bytes) {name : Bytes} (h : (0x2f : UInt8) ∉ name) :
    pathDir (joinPath directory name) = directory := by
  have hname : ∀ byte ∈ name.reverse, (decide (byte ≠ (0x2f : UInt8))) = true := by
    intro byte hmem
    refine decide_eq_true fun heq => h ?_
    rw [← heq]
    exact List.mem_reverse.1 hmem
  rw [pathDir, joinPath, List.reverse_append, List.reverse_cons, List.append_assoc,
    List.dropWhile_append_of_pos hname, List.singleton_append,
    List.dropWhile_cons_of_neg (by decide), List.drop_succ_cons, List.drop_zero,
    List.reverse_reverse]

/-- A temporary file is no file whose name starts with another byte. -/
theorem joinPath_ne {directory pattern random name : Bytes}
    (hpattern : pattern.head? = some 0x2e) (hname : name.head? ≠ some 0x2e) :
    joinPath directory (pattern ++ random) ≠ joinPath directory name := by
  intro heq
  rw [joinPath, joinPath, List.append_cancel_left_eq, List.cons.injEq] at heq
  refine hname ?_
  rw [← heq.2, List.head?_append, hpattern]
  rfl

/-- A slug that is not empty starts with a letter or a digit. -/
theorem head?_slugify {toLower : Bytes → Bytes} {title : Bytes}
    (h : slugify toLower title ≠ []) : ∃ first rest, slugify toLower title = first :: rest ∧
      (isLower first = true ∨ isDigit first = true) := by
  have hshape := slugShape_slugify toLower title
  obtain ⟨first, rest, hslug⟩ := List.exists_cons_of_ne_nil h
  rw [hslug] at hshape
  rcases hshape with ⟨hfirst, -⟩ | ⟨-, hafter, -⟩
  · exact ⟨first, rest, hslug, hfirst⟩
  · cases hafter

/-- The bytes of a slug are letters, digits and hyphens. -/
theorem mem_slugShape {afterHyphen : Bool} {text : Bytes} (h : SlugShape afterHyphen text)
    {byte : UInt8} (hmem : byte ∈ text) : isLower byte = true ∨ isDigit byte = true ∨
      byte = 0x2d := by
  induction text generalizing afterHyphen with
  | nil => exact absurd hmem List.not_mem_nil
  | cons first rest ih =>
      rcases h with ⟨hfirst, h⟩ | ⟨hfirst, -, h⟩
      · rcases List.mem_cons.1 hmem with rfl | hmem
        · rcases hfirst with hlower | hdigit
          · exact Or.inl hlower
          · exact Or.inr (Or.inl hdigit)
        · exact ih h hmem
      · rcases List.mem_cons.1 hmem with rfl | hmem
        · exact Or.inr (Or.inr hfirst)
        · exact ih h hmem

/-- The bytes that a slug may have, and what they are not. -/
theorem slugByte_spec : ∀ byte : UInt8, isLower byte = true ∨ isDigit byte = true ∨ byte = 0x2d →
    0x20 < byte ∧ byte < 0x7f ∧ byte ≠ 0x2e ∧ byte ≠ 0x2f ∧ byte ≠ 0x23 :=
  forall_byte (by decide +kernel)

/-! ### Planned additions -/

/-- What `add` is about to write, and why it may. -/
structure RomStore.Planned (store : RomStore) (library : Library) (files : Files)
    (request : Request) (faults : Faults) (plan : Plan) (spec : SystemSpec)
    (baseEntries : List CatalogEntry) : Prop where
  title : validTitle request.title = true
  supported : supportedSystems request.system = some spec
  slug : slugify library.toLower request.title ≠ []
  data : decodeUpload library.toLower library.unzip request.system request.upload = .ok plan.data
  base : parseCatalog (files store.baseCatalog) faults.readBase false = .ok baseEntries
  uploads : parseCatalog (files store.uploadCatalog) faults.readUpload true = .ok plan.uploadEntries
  room : baseEntries.length + plan.uploadEntries.length < maximumGames
  entry : plan.entry =
    ⟨identifierFor request.system (slugify library.toLower request.title), request.title,
      request.system, store.destination request.system (slugify library.toLower request.title)
        spec.extension, spec.color⟩
  fresh : ∀ entry ∈ baseEntries ++ plan.uploadEntries,
    entry.id ≠ plan.entry.id ∧ entry.rom ≠ plan.entry.rom

namespace RomStore

variable {store : RomStore} {library : Library} {files : Files} {request : Request}
  {faults : Faults} {plan : Plan}

theorem plan_spec (h : store.plan library files request faults = .ok plan) :
    ∃ spec baseEntries, store.Planned library files request faults plan spec baseEntries := by
  rw [RomStore.plan] at h
  split at h
  · cases h
  rename_i htitle
  split at h
  · cases h
  rename_i spec hspec
  dsimp only at h
  split at h
  · cases h
  rename_i hslug
  split at h
  · cases h
  rename_i data hdata
  split at h
  · cases h
  rename_i baseEntries hbase
  split at h
  · cases h
  rename_i uploadEntries huploads
  split at h
  · cases h
  rename_i hroom
  split at h
  · cases h
  split at h
  · cases h
  rename_i hfresh
  cases h
  refine ⟨spec, baseEntries, ?_⟩
  exact
    { title := (Bool.not_eq_false _).mp htitle
      supported := hspec
      slug := hslug
      data := hdata
      base := hbase
      uploads := huploads
      room := Nat.not_le.1 hroom
      entry := rfl
      fresh := by
        intro entry hmem
        rw [Bool.not_eq_true, List.any_eq_false] at hfresh
        have := hfresh entry hmem
        rw [decide_eq_true_eq, not_or] at this
        exact this }

end RomStore

/-! ### The planned entry -/

/-- An id is never so long that it would be cut. -/
theorem identifierFor_eq {system slug : Bytes} {spec : SystemSpec}
    (h : supportedSystems system = some spec) (hslug : slug.length ≤ 32) :
    identifierFor system slug = ascii "upload-" ++ system ++ ascii "-" ++ slug := by
  have hsystem : system.length ≤ 5 := by
    rcases supportedSystems_eq_some h with ⟨rfl, -⟩ | ⟨rfl, -⟩ | ⟨rfl, -⟩ | ⟨rfl, -⟩ | ⟨rfl, -⟩
    all_goals decide
  have hupload : (ascii "upload-").length = 7 := by decide
  have hhyphen : (ascii "-").length = 1 := by decide
  rw [identifierFor, if_neg]
  rw [List.length_append, List.length_append, List.length_append]
  omega

/-- What the table of the systems contains. -/
theorem spec_bytes {system : Bytes} {spec : SystemSpec} (h : supportedSystems system = some spec) :
    (∀ byte ∈ system, 0x20 < byte ∧ byte < 0x7f ∧ byte ≠ 0x2f) ∧
      (∀ byte ∈ spec.extension, 0x20 < byte ∧ byte < 0x7f ∧ byte ≠ 0x2f) ∧
        (parseColor spec.color).isSome = true ∧
          spec.extension ∈
            [ascii ".nes", ascii ".gb", ascii ".gbc", ascii ".tap", ascii ".ch8"] := by
  rcases supportedSystems_eq_some h with ⟨rfl, rfl⟩ | ⟨rfl, rfl⟩ | ⟨rfl, rfl⟩ | ⟨rfl, rfl⟩ |
    ⟨rfl, rfl⟩
  all_goals exact ⟨List.all_iff_forall_prop.1 (by decide), List.all_iff_forall_prop.1 (by decide),
    by decide, by decide⟩

namespace RomStore.Planned

variable {store : RomStore} {library : Library} {files : Files} {request : Request}
  {faults : Faults} {plan : Plan} {spec : SystemSpec} {baseEntries : List CatalogEntry}

theorem id_eq (h : store.Planned library files request faults plan spec baseEntries) :
    plan.entry.id =
      ascii "upload-" ++ request.system ++ ascii "-" ++
        slugify library.toLower request.title := by
  rw [h.entry]
  exact identifierFor_eq h.supported (length_slugify_le _ _)

theorem rom_eq (h : store.Planned library files request faults plan spec baseEntries) :
    plan.entry.rom =
      joinPath (joinPath store.romRoot request.system)
        (slugify library.toLower request.title ++ spec.extension) := by
  rw [h.entry]
  rfl

/-- The bytes of the name of the file. -/
theorem mem_name (h : store.Planned library files request faults plan spec baseEntries)
    {byte : UInt8} (hmem : byte ∈ slugify library.toLower request.title ++ spec.extension) :
    0x20 < byte ∧ byte < 0x7f ∧ byte ≠ 0x2f := by
  rcases List.mem_append.1 hmem with hmem | hmem
  · obtain ⟨hlow, hhigh, -, hslash, -⟩ :=
      slugByte_spec byte (mem_slugShape (slugShape_slugify _ _) hmem)
    exact ⟨hlow, hhigh, hslash⟩
  · exact (spec_bytes h.supported).2.1 byte hmem

/-- The name of the file does not start with a dot, nor is it that of the catalog. -/
theorem head?_name (h : store.Planned library files request faults plan spec baseEntries) :
    (slugify library.toLower request.title ++ spec.extension).head? ≠ some 0x2e := by
  obtain ⟨first, rest, hslug, hfirst⟩ := head?_slugify h.slug
  have hbyte : isLower first = true ∨ isDigit first = true ∨ first = 0x2d := by
    rcases hfirst with hlower | hdigit
    · exact Or.inl hlower
    · exact Or.inr (Or.inl hdigit)
  rw [hslug, List.cons_append, List.head?_cons, ne_eq, Option.some.injEq]
  exact (slugByte_spec first hbyte).2.2.1

theorem pathDir_rom (h : store.Planned library files request faults plan spec baseEntries) :
    pathDir plan.entry.rom = joinPath store.romRoot request.system := by
  rw [h.rom_eq]
  exact pathDir_joinPath _ fun hmem => (h.mem_name hmem).2.2 rfl

/-- The ROM is not the catalog. -/
theorem rom_ne_uploadCatalog
    (h : store.Planned library files request faults plan spec baseEntries) :
    plan.entry.rom ≠ store.uploadCatalog := by
  obtain ⟨directory, hcatalog⟩ := store.catalogName
  intro heq
  have hlast : ∀ extension ∈ [ascii ".nes", ascii ".gb", ascii ".gbc", ascii ".tap", ascii ".ch8"],
      extension.getLast? ≠ some 0x76 ∧ extension ≠ [] := by decide
  obtain ⟨hne, hnil⟩ := hlast _ (spec_bytes h.supported).2.2.2
  have hend : plan.entry.rom.getLast? = spec.extension.getLast? := by
    rw [h.rom_eq, joinPath, List.getLast?_append_cons, ← List.cons_append,
      List.getLast?_append_of_ne_nil _ hnil]
  rw [heq, hcatalog, joinPath, List.getLast?_append_cons] at hend
  exact hne hend.symm

/-- Every byte of the line but the tabs is printable. -/
theorem ge_of_mem (h : store.Planned library files request faults plan spec baseEntries) :
    (∀ byte ∈ plan.entry.id, 0x20 ≤ byte) ∧ (∀ byte ∈ plan.entry.title, 0x20 ≤ byte) ∧
      (∀ byte ∈ plan.entry.system, 0x20 ≤ byte) ∧ (∀ byte ∈ plan.entry.rom, 0x20 ≤ byte) ∧
        ∀ byte ∈ plan.entry.color, 0x20 ≤ byte := by
  obtain ⟨hsystem, -, hcolor, -⟩ := spec_bytes h.supported
  have hslug : ∀ byte ∈ slugify library.toLower request.title, 0x20 ≤ byte := fun byte hmem =>
    UInt8.le_of_lt (slugByte_spec byte (mem_slugShape (slugShape_slugify _ _) hmem)).1
  refine ⟨?_, ?_, ?_, ?_, ?_⟩
  · intro byte hmem
    have hliteral : ∀ text : Bytes, (text.all fun byte => 0x20 ≤ byte) = true →
        ∀ byte ∈ text, 0x20 ≤ byte := fun _ => List.all_iff_forall_prop.1
    rw [h.id_eq, List.mem_append, List.mem_append, List.mem_append] at hmem
    rcases hmem with ((hupload | hmem) | hhyphen) | hmem
    · exact hliteral (ascii "upload-") (by decide) byte hupload
    · exact UInt8.le_of_lt (hsystem byte hmem).1
    · exact hliteral (ascii "-") (by decide) byte hhyphen
    · exact hslug byte hmem
  · rw [h.entry]
    exact MenuText.ge_of_validUtf8Text (validUtf8Text_of_validTitle h.title)
  · rw [h.entry]
    exact fun byte hmem => UInt8.le_of_lt (hsystem byte hmem).1
  · intro byte hmem
    rw [h.rom_eq, joinPath, joinPath, List.mem_append, List.mem_append, List.mem_cons,
      List.mem_cons] at hmem
    rcases hmem with (hroot | rfl | hmem) | rfl | hmem
    · exact store.printable byte hroot
    · decide
    · exact UInt8.le_of_lt (hsystem byte hmem).1
    · decide
    · exact UInt8.le_of_lt (h.mem_name hmem).1
  · rw [h.entry]
    exact ge_of_parseColor hcolor

/-- **The entry is read as it is written.** -/
theorem plain (h : store.Planned library files request faults plan spec baseEntries) :
    Plain plan.entry := by
  obtain ⟨hid, htitle, hsystem, hrom, hcolor⟩ := h.ge_of_mem
  refine ⟨⟨⟨?_, ?_, ?_, ?_, ?_⟩, ?_⟩, ?_, ?_⟩
  · exact fun hmem => absurd (hid _ hmem) (by decide)
  · exact fun hmem => absurd (htitle _ hmem) (by decide)
  · exact fun hmem => absurd (hsystem _ hmem) (by decide)
  · exact fun hmem => absurd (hrom _ hmem) (by decide)
  · exact fun hmem => absurd (hcolor _ hmem) (by decide)
  · intro hmem
    rcases CatalogEntry.mem_line hmem with heq | hmem | hmem | hmem | hmem | hmem
    · exact absurd heq (by decide)
    · exact absurd (hid _ hmem) (by decide)
    · exact absurd (htitle _ hmem) (by decide)
    · exact absurd (hsystem _ hmem) (by decide)
    · exact absurd (hrom _ hmem) (by decide)
    · exact absurd (hcolor _ hmem) (by decide)
  · have hstrip : stripCarriageReturn plan.entry.color = plan.entry.color := by
      rw [stripCarriageReturn, if_neg]
      exact fun hlast => absurd (hcolor _ (List.mem_of_getLast? hlast)) (by decide)
    rw [trimLine, hstrip, hstrip]
  · have hupload : (ascii "upload-").head? = some 0x75 := by decide
    rw [CatalogEntry.line, h.id_eq]
    simp only [List.head?_append, hupload, Option.some_or]
    decide

end RomStore.Planned

end NesDeck.Uploader
