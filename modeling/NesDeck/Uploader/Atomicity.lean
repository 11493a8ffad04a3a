/-
**Faults while a ROM is added.**

An addition either installs the ROM and the catalog that names it, or takes back what it did.  The
one exception is a directory that cannot be synchronised after the catalog was replaced: then the
ROM is removed, but the catalog on the disk already names it.

Main definitions:

* `NesDeck.Uploader.RomStore.Consistent` — every entry of the catalog has its ROM;
* `NesDeck.Uploader.RomStore.Atomic` — what an addition should leave behind;
* `NesDeck.Uploader.RomStore.LateFault` — the fault that is not taken back.

Main results:

* `NesDeck.Uploader.RomStore.add_cases` — the three ways in which an addition ends;
* `NesDeck.Uploader.RomStore.add_atomic_iff` — **an addition is atomic exactly if the directory of
  the catalog is synchronised, or an earlier step fails**.
-/

import NesDeck.Uploader.Store

set_option relaxedAutoImplicit false
set_option autoImplicit false

namespace NesDeck.Uploader.RomStore

open HostFile (Bytes ascii)
open FileStore

variable (store : RomStore) (library : Library)

/-- Every entry of the catalog of uploads has its ROM. -/
def Consistent (files : Files) : Prop :=
  ∀ content, files store.uploadCatalog = some content →
    ∀ entry ∈ diskEntries content, (files entry.rom).isSome = true

/-- The catalog is consistent afterwards; and if an error is returned without an entry, the catalog
and all the files that were there are as they were. -/
def Atomic (files : Files) (addition : Addition) : Prop :=
  store.Consistent addition.files ∧
    (addition.error.isSome = true → addition.entry = none →
      addition.files store.uploadCatalog = files store.uploadCatalog ∧
        Keeps files addition.files)

/-- The request is in order, the ROM is installed and the catalog is replaced, but then its
directory cannot be opened or synchronised. -/
def LateFault (files : Files) (request : Request) (faults : Faults) : Prop :=
  ∃ plan, store.plan library files request faults = .ok plan ∧ files plan.entry.rom = none ∧
    faults.install.Publishes files (pathDir plan.entry.rom) (ascii ".rom-upload-") ∧
    faults.install.late = false ∧ faults.catalogMkdir = false ∧ faults.catalogLstat = false ∧
    faults.catalog.Publishes (write files plan.entry.rom plan.data) (pathDir store.uploadCatalog)
      (ascii ".rom-uploader-") ∧
    faults.catalog.late = true

/-- The catalog that an addition writes. -/
def newCatalog (plan : Plan) : Bytes :=
  encodeCatalog (sortEntries (plan.uploadEntries ++ [plan.entry]))

variable {store : RomStore} {library : Library} {files : Files} {request : Request}
  {faults : Faults}

theorem temporary_ne_uploadCatalog (store : RomStore) (random : Bytes) :
    joinPath (pathDir store.uploadCatalog) (ascii ".rom-uploader-" ++ random) ≠
      store.uploadCatalog := by
  obtain ⟨directory, hcatalog⟩ := store.catalogName
  rw [hcatalog, pathDir_joinPath directory (by decide)]
  exact joinPath_ne (by decide) (by decide)

/-- **The three ways in which an addition ends**: nothing is changed, everything is written, or the
catalog is written and the ROM is not there. -/
theorem add_cases (store : RomStore) (library : Library) (files : Files) (request : Request)
    (faults : Faults) :
    (∃ error, store.add library files request faults = ⟨files, none, some error⟩ ∧
        ¬ store.LateFault library files request faults) ∨
      ∃ plan, store.plan library files request faults = .ok plan ∧ files plan.entry.rom = none ∧
        ((∃ error, store.add library files request faults =
              ⟨write (write files plan.entry.rom plan.data) store.uploadCatalog (newCatalog plan),
                some plan.entry, error⟩ ∧ ¬ store.LateFault library files request faults) ∨
          ∃ error, store.add library files request faults =
              ⟨remove (write (write files plan.entry.rom plan.data) store.uploadCatalog
                (newCatalog plan)) plan.entry.rom, none, some error⟩ ∧
            store.LateFault library files request faults) := by
  rw [add]
  cases hplan : store.plan library files request faults with
  | error error =>
      refine Or.inl ⟨error, rfl, ?_⟩
      rintro ⟨plan, hok, -⟩
      rw [hplan] at hok
      cases hok
  | ok plan =>
      obtain ⟨spec, baseEntries, hplanned⟩ := plan_spec hplan
      have hunique : ∀ {p : Plan → Prop},
        (∃ plan, store.plan library files request faults = .ok plan ∧
          p plan) → p plan := by
        rintro p ⟨other, hother, hp⟩
        rw [hplan] at hother
        cases hother
        exact hp
      have htemporary : ∀ random, joinPath (pathDir plan.entry.rom)
          (ascii ".rom-upload-" ++ random) ≠ plan.entry.rom := by
        intro random
        rw [hplanned.pathDir_rom]
        intro heq
        rw [hplanned.rom_eq] at heq
        exact joinPath_ne (by decide) hplanned.head?_name heq
      dsimp only
      rcases installExclusive_spec files plan.entry.rom plan.data faults.install with
        ⟨hinstall, hfree, hpublishes, hlate⟩ | ⟨⟨error, hinstall⟩, hfails⟩
      · rw [hinstall]
        dsimp only
        rcases atomicWrite_spec (write files plan.entry.rom plan.data) (newCatalog plan)
          faults.catalogMkdir faults.catalogLstat faults.catalog (temporary_ne_uploadCatalog store)
          with ⟨hwrite, hmkdir, hlstat, hcatalog⟩ | ⟨⟨error, hwrite⟩, hfails⟩
        · rw [← newCatalog, hwrite]
          refine Or.inr ⟨plan, rfl, hfree, ?_⟩
          cases hcatalogLate : faults.catalog.late with
          | false =>
              refine Or.inl ⟨if faults.restart = true then some .restart else none, rfl, ?_⟩
              intro hfault
              have hcontra := (hunique hfault).2.2.2.2.2.2
              rw [hcatalogLate] at hcontra
              cases hcontra
          | true =>
              refine Or.inr ⟨.save .fault, rfl, ?_⟩
              exact ⟨plan, hplan, hfree, hpublishes, hlate, hmkdir, hlstat, hcatalog, hcatalogLate⟩
        · rw [← newCatalog, hwrite]
          refine Or.inl ⟨.save error, ?_, ?_⟩
          · dsimp only
            rw [remove_write plan.data hfree]
          · intro hfault
            obtain ⟨-, -, -, hmkdir, hlstat, hcatalog, -⟩ := hunique hfault
            exact hfails ⟨hmkdir, hlstat, hcatalog⟩
      · rw [hinstall]
        refine Or.inl ⟨.install error, rfl, ?_⟩
        intro hfault
        obtain ⟨hfree, hpublishes, hlate, -⟩ := hunique hfault
        rw [hfails hfree hpublishes htemporary] at hlate
        cases hlate

/-! ### The catalog that is written -/

/-- The entries of the old catalog, as the parser sees them, have their ROMs. -/
theorem isSome_of_mem_uploadEntries (h : store.Consistent files) {fault : Bool}
    {entries : List CatalogEntry}
    (hparse : parseCatalog (files store.uploadCatalog) fault true = .ok entries)
    {entry : CatalogEntry} (hmem : entry ∈ entries) :
    (files entry.rom).isSome = true ∧ Writable entry := by
  cases hcontent : files store.uploadCatalog with
  | none =>
      rw [hcontent, parseCatalog] at hparse
      split at hparse
      · cases hparse
      · cases hparse
        exact absurd hmem List.not_mem_nil
  | some content =>
      rw [hcontent] at hparse
      rw [parseCatalog_eq_diskEntries hparse] at hmem
      exact ⟨h content hcontent entry hmem, writable_of_mem_diskEntries hmem⟩

theorem mem_sortEntries {entries : List CatalogEntry} {entry : CatalogEntry} :
    entry ∈ sortEntries entries ↔ entry ∈ entries := List.mem_mergeSort

variable {plan : Plan} {spec : SystemSpec} {baseEntries : List CatalogEntry}

theorem writable_of_mem_newCatalog (h : store.Consistent files)
    (hplanned : store.Planned library files request faults plan spec baseEntries) :
    ∀ entry ∈ sortEntries (plan.uploadEntries ++ [plan.entry]), Writable entry := by
  intro entry hmem
  rw [mem_sortEntries, List.mem_append, List.mem_singleton] at hmem
  rcases hmem with hmem | rfl
  · exact (isSome_of_mem_uploadEntries h hplanned.uploads hmem).2
  · exact hplanned.plain.toWritable

/-- The entries that are written have their ROMs, once the new one is installed. -/
theorem isSome_of_mem_newCatalog (h : store.Consistent files)
    (hplanned : store.Planned library files request faults plan spec baseEntries)
    (hfree : files plan.entry.rom = none) {entry : CatalogEntry}
    (hmem : entry ∈ diskEntries (newCatalog plan)) :
    (write files plan.entry.rom plan.data entry.rom).isSome = true := by
  obtain ⟨written, hwritten, hrom⟩ :=
    mem_diskEntries_encodeCatalog (writable_of_mem_newCatalog h hplanned) hmem
  rw [hrom]
  rw [mem_sortEntries, List.mem_append, List.mem_singleton] at hwritten
  rcases hwritten with hwritten | rfl
  · obtain ⟨content, hcontent⟩ := Option.isSome_iff_exists.1
      (isSome_of_mem_uploadEntries h hplanned.uploads hwritten).1
    rw [keeps_write plan.data hfree _ _ hcontent]
    rfl
  · rw [write_same]
    rfl

/-- A file is there after the catalog is written if it was there before. -/
theorem isSome_write {path other : Bytes} {contents : Bytes} (h : (files other).isSome = true) :
    (write files path contents other).isSome = true := by
  by_cases heq : other = path
  · rw [heq, write_same]
    rfl
  · rw [write_of_ne contents heq]
    exact h

/-! ### Atomicity -/

/-- After a late fault the catalog names the ROM that was removed. -/
theorem not_atomic_of_lateFault (hconsistent : store.Consistent files)
    (hfault : store.LateFault library files request faults) :
    ¬ store.Atomic files (store.add library files request faults) := by
  rcases add_cases store library files request faults with
    ⟨error, hadd, hlate⟩ | ⟨plan, hplan, hfree, ⟨error, hadd, hlate⟩ | ⟨error, hadd, hlate⟩⟩
  · exact absurd hfault hlate
  · exact absurd hfault hlate
  · obtain ⟨spec, baseEntries, hplanned⟩ := plan_spec hplan
    rw [hadd]
    rintro ⟨hafter, -⟩
    have hcatalog : remove (write (write files plan.entry.rom plan.data) store.uploadCatalog
        (newCatalog plan)) plan.entry.rom store.uploadCatalog = some (newCatalog plan) := by
      rw [remove_of_ne hplanned.rom_ne_uploadCatalog.symm, write_same]
    have hentry : plan.entry ∈ diskEntries (newCatalog plan) :=
      mem_diskEntries_of_plain (writable_of_mem_newCatalog hconsistent hplanned)
        (mem_sortEntries.2 (List.mem_append_right _ (List.mem_singleton_self _))) hplanned.plain
    have hinstalled := hafter _ hcatalog _ hentry
    dsimp only at hinstalled
    rw [remove_same] at hinstalled
    cases hinstalled

/-- **An addition is atomic exactly if its late fault does not occur.** -/
theorem add_atomic_iff {store : RomStore} {library : Library} {files : Files} {request : Request}
    {faults : Faults} (hconsistent : store.Consistent files) :
    store.Atomic files (store.add library files request faults) ↔
      ¬ store.LateFault library files request faults := by
  refine ⟨fun hatomic hfault => not_atomic_of_lateFault hconsistent hfault hatomic, ?_⟩
  intro hnot
  rcases add_cases store library files request faults with
    ⟨error, hadd, -⟩ | ⟨plan, hplan, hfree, ⟨error, hadd, -⟩ | ⟨error, hadd, hlate⟩⟩
  · rw [hadd]
    exact ⟨hconsistent, fun _ _ => ⟨rfl, Keeps.refl files⟩⟩
  · obtain ⟨spec, baseEntries, hplanned⟩ := plan_spec hplan
    rw [hadd]
    refine ⟨?_, fun _ hentry => (nomatch hentry)⟩
    intro content hcontent entry hmem
    dsimp only at hcontent ⊢
    rw [write_same] at hcontent
    cases hcontent
    exact isSome_write (isSome_of_mem_newCatalog hconsistent hplanned hfree hmem)
  · exact absurd hlate hnot

/-! ### A small upload -/

/-- The catalog of one upload. -/
def sampleCatalog : Bytes :=
  ascii "upload-chip8-b\tb\tchip8\t/mnt/data/roms/chip8/b.ch8\t#5FD7D7\n"

/-- The files of a service with one upload and without games. -/
def sampleFiles : Files := fun path =>
  if path = installedStore.baseCatalog then some []
  else if path = installedStore.uploadCatalog then some sampleCatalog
  else if path = ascii "/mnt/data/roms/chip8/b.ch8" then some [2]
  else none

theorem sampleFiles_entries :
    (diskEntries sampleCatalog).map CatalogEntry.rom = [ascii "/mnt/data/roms/chip8/b.ch8"] := by
  decide +kernel

/-- A library for titles in lower case, and without archives. -/
def sampleLibrary : Library := ⟨id, fun _ => none⟩

/-- A CHIP-8 program of one byte. -/
def sampleRequest : Request := ⟨ascii "chip8", ascii "a", ⟨ascii "a.ch8", [1], false⟩⟩

def noWriteFaults : WriteFaults :=
  ⟨[ascii "1"], false, false, none, false, false, false, false, false⟩

/-- Only the directory of the catalog cannot be synchronised. -/
def syncFaults : Faults :=
  ⟨false, false, false, noWriteFaults, false, false, { noWriteFaults with syncDirectory := true },
    false⟩

theorem sampleFiles_consistent : installedStore.Consistent sampleFiles := by
  intro content hcontent entry hentry
  have hcatalog : sampleFiles installedStore.uploadCatalog = some sampleCatalog := by
    rw [sampleFiles, if_neg (by decide), if_pos rfl]
  obtain rfl := Option.some.inj (hcatalog.symm.trans hcontent)
  have hrom := List.mem_map_of_mem (f := CatalogEntry.rom) hentry
  rw [sampleFiles_entries, List.mem_singleton] at hrom
  rw [hrom]
  decide

theorem samplePlan_entry :
    (installedStore.plan sampleLibrary sampleFiles sampleRequest syncFaults).toOption.map
        Plan.entry =
      some ⟨ascii "upload-chip8-a", ascii "a", ascii "chip8", ascii "/mnt/data/roms/chip8/a.ch8",
        ascii "#5FD7D7"⟩ := by
  decide +kernel

theorem sample_lateFault :
    installedStore.LateFault sampleLibrary sampleFiles sampleRequest syncFaults := by
  have hentry := samplePlan_entry
  cases hplan : installedStore.plan sampleLibrary sampleFiles sampleRequest syncFaults with
  | error error =>
      rw [hplan] at hentry
      cases hentry
  | ok plan =>
      rw [hplan] at hentry
      have hplanned : plan.entry = ⟨ascii "upload-chip8-a", ascii "a", ascii "chip8",
          ascii "/mnt/data/roms/chip8/a.ch8", ascii "#5FD7D7"⟩ := Option.some.inj hentry
      have hrom : plan.entry.rom = ascii "/mnt/data/roms/chip8/a.ch8" := by rw [hplanned]
      refine ⟨plan, hplan, ?_, ?_, rfl, rfl, rfl, ?_, rfl⟩
      · rw [hrom]
        decide
      · rw [hrom]
        exact ⟨⟨ascii "1", List.mem_singleton_self _, by decide⟩, rfl, rfl, rfl, rfl, rfl, rfl⟩
      · refine ⟨⟨ascii "1", List.mem_singleton_self _, ?_⟩, rfl, rfl, rfl, rfl, rfl, rfl⟩
        rw [write_of_ne plan.data (by rw [hrom]; decide)]
        decide

theorem add_atomic_sample :
    installedStore.Atomic sampleFiles
        (installedStore.add sampleLibrary sampleFiles sampleRequest syncFaults) ↔
      ¬ installedStore.LateFault sampleLibrary sampleFiles sampleRequest syncFaults :=
  add_atomic_iff sampleFiles_consistent

/-- **An addition that is not atomic**: the directory of the catalog cannot be synchronised. -/
theorem add_not_atomic :
    installedStore.Consistent sampleFiles ∧
      ¬ installedStore.Atomic sampleFiles
        (installedStore.add sampleLibrary sampleFiles sampleRequest syncFaults) :=
  ⟨sampleFiles_consistent, not_atomic_of_lateFault sampleFiles_consistent sample_lateFault⟩

end NesDeck.Uploader.RomStore
