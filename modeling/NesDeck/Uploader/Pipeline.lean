/-
**From the uploads to the menu.**

The launcher puts the catalog of uploads behind the compiled manifest, and the menu loads the two
as one.  A single bad line would cost all the uploads.  Here the compiler, the uploader and the
menu meet: after any number of additions the menu accepts the manifest.

Main definitions:

* `NesDeck.Uploader.hostFile` — the files of the uploader as the menu meets them;
* `NesDeck.Uploader.RomStore.addAll` — additions, one after the other, all of which succeed;
* `NesDeck.Uploader.combine` — the launcher's manifest;
* `NesDeck.Uploader.Loadable` — what holds of the two catalogs between additions.

Main results:

* `NesDeck.Uploader.RomStore.Planned.good` — the entry of an addition is one that the menu accepts;
* `NesDeck.Uploader.Loadable.add` — an addition keeps the two catalogs loadable;
* `NesDeck.Uploader.addAll_loadManifest` — **the menu loads the manifest after any additions**.
-/

import NesDeck.CompileCatalog
import NesDeck.Uploader.Atomicity

set_option relaxedAutoImplicit false
set_option autoImplicit false

namespace NesDeck.Uploader

open HostFile
open FileStore
open MenuText

/-! ### The files of the menu -/

/-- A path without a file. -/
def absentFile : File :=
  { File.ofContent [] with
    statError := some Errno.enoent, openError := some Errno.enoent, isRegular := false }

/-- The files as the menu meets them. -/
def hostFile (files : Files) (path : Bytes) : File :=
  match files path with
  | some content => File.ofContent content
  | none => absentFile

theorem hostFile_of_some {files : Files} {path content : Bytes} (h : files path = some content) :
    hostFile files path = File.ofContent content := by rw [hostFile, h]

/-- The manifest that the launcher puts together, and its path. -/
def combinedManifest : Bytes := ascii "/mnt/data/nes-deck/state/combined-games.tsv"

def combine (store : RomStore) (files : Files) : Files :=
  write files combinedManifest
    ((files store.baseCatalog).getD [] ++ (files store.uploadCatalog).getD [])

/-- Additions, one after the other; there is no result unless all of them succeed. -/
def RomStore.addAll (store : RomStore) (library : Library) (files : Files) :
    List (Request × Faults) → Option Files
  | [] => some files
  | (request, faults) :: requests =>
      match store.add library files request faults with
      | ⟨files, _, none⟩ => RomStore.addAll store library files requests
      | ⟨_, _, some _⟩ => none

/-! ### Entries that stay good -/

/-- A good entry stays good as long as its ROM is not touched. -/
theorem good_congr {files files' : Bytes → File} {entry : CatalogEntry} (h : entry.Good files)
    (hsame : entry.system = ascii "deck" ∨ files' entry.rom = files entry.rom) :
    entry.Good files' := by
  refine ⟨{ h.game with content := ?_ }, h.color, h.short⟩
  have hcontent : validateRom entry.system entry.rom (files entry.rom) = .ok () := h.game.content
  change validateRom entry.system entry.rom (files' entry.rom) = .ok ()
  rcases hsame with hdeck | hfile
  · rw [hdeck] at hcontent ⊢
    rw [validateRom_deck_congr _ _ (files entry.rom)]
    exact hcontent
  · rw [hfile]
    exact hcontent

/-- Writing another file does not change a file. -/
theorem hostFile_write_of_ne {files : Files} {path other : Bytes} (content : Bytes)
    (h : other ≠ path) : hostFile (write files path content) other = hostFile files other := by
  rw [hostFile, hostFile, write_of_ne content h]

/-! ### The new entry -/

namespace RomStore.Planned

variable {library : Library} {files : Files} {request : Request} {faults : Faults} {plan : Plan}
  {spec : SystemSpec} {baseEntries : List CatalogEntry}

theorem slugShape_system {system : Bytes} {spec : SystemSpec}
    (h : supportedSystems system = some spec) :
    SlugShape false (ascii "pload-" ++ system ++ [0x2d]) ∧ system.length ≤ 5 := by
  rcases supportedSystems_eq_some h with ⟨rfl, -⟩ | ⟨rfl, -⟩ | ⟨rfl, -⟩ | ⟨rfl, -⟩ | ⟨rfl, -⟩
  all_goals exact ⟨by decide, by decide⟩

theorem xterm_color {system : Bytes} {spec : SystemSpec} (h : supportedSystems system = some spec) :
    ∃ color, parseColor spec.color = some color ∧ isXtermColor color = true ∧
      spec.color.length = 7 ∧ spec.extension.length ≤ 4 := by
  rcases supportedSystems_eq_some h with ⟨-, rfl⟩ | ⟨-, rfl⟩ | ⟨-, rfl⟩ | ⟨-, rfl⟩ | ⟨-, rfl⟩
  all_goals exact ⟨_, rfl, by decide +kernel, by decide, by decide⟩

/-- **The menu accepts the id of an upload.** -/
theorem validId_id (h : installedStore.Planned library files request faults plan spec baseEntries) :
    validId plan.entry.id = true ∧ plan.entry.id.length ≤ 45 := by
  have hslug := slugShape_slugify library.toLower request.title
  have hlength := length_slugify_le library.toLower request.title
  obtain ⟨hshape, hsystem⟩ := slugShape_system h.supported
  have hid : plan.entry.id = 0x75 ::
      (ascii "pload-" ++ request.system ++ 0x2d :: slugify library.toLower request.title) := by
    have hupload : ascii "upload-" = 0x75 :: ascii "pload-" := by decide
    have hhyphen : ascii "-" = [0x2d] := by decide
    rw [h.id_eq, hupload, hhyphen]
    simp
  have hpload : (ascii "pload-").length = 6 := by decide
  have hsize : plan.entry.id.length ≤ 45 := by
    rw [hid]
    simp only [List.length_cons, List.length_append]
    omega
  refine ⟨?_, hsize⟩
  rw [validId, if_neg, hid, validIdLoop, if_neg (by decide), if_neg (by decide),
    if_neg fun hyphen => absurd hyphen.1 (by decide)]
  · refine validIdLoop_of_slugShape (hshape.append hslug) ?_
    intro hne
    rw [List.getLast_append_of_right_ne_nil _ _ (List.cons_ne_nil _ _), List.getLast_cons h.slug]
    exact getLast_slugify library.toLower request.title h.slug
  · rintro (hnil | hlong)
    · rw [hid] at hnil
      cases hnil
    · omega

/-- The path of an upload. -/
theorem rom_spec (h : installedStore.Planned library files request faults plan spec baseEntries) :
    (∀ byte ∈ plan.entry.rom, 0x20 < byte ∧ byte < 0x7f) ∧ plan.entry.rom.length ≤ 57 ∧
      ascii "/mnt/data/roms/" <+: plan.entry.rom := by
  have hlength := length_slugify_le library.toLower request.title
  obtain ⟨-, hsystemLength⟩ := slugShape_system h.supported
  obtain ⟨-, -, -, -, hextension⟩ := xterm_color h.supported
  obtain ⟨hsystem, -⟩ := spec_bytes h.supported
  have hroot : ∀ byte ∈ ascii "/mnt/data/roms/", 0x20 < byte ∧ byte < 0x7f :=
    List.all_iff_forall_prop.1 (by decide)
  have hrootLength : (ascii "/mnt/data/roms/").length = 15 := by decide
  have hrom : plan.entry.rom = ascii "/mnt/data/roms/" ++ request.system ++
      0x2f :: (slugify library.toLower request.title ++ spec.extension) := by
    have hstore : ascii "/mnt/data/roms/" = installedStore.romRoot ++ [0x2f] := by decide
    rw [h.rom_eq, joinPath, joinPath, hstore]
    simp
  refine ⟨?_, ?_, ?_⟩
  · intro byte hmem
    rw [hrom, List.mem_append, List.mem_append, List.mem_cons] at hmem
    rcases hmem with (hmem | hmem) | rfl | hmem
    · exact hroot byte hmem
    · exact ⟨(hsystem byte hmem).1, (hsystem byte hmem).2.1⟩
    · decide
    · exact ⟨(h.mem_name hmem).1, (h.mem_name hmem).2.1⟩
  · rw [hrom]
    simp only [List.length_append, List.length_cons]
    omega
  · rw [hrom, List.append_assoc]
    exact List.prefix_append _ _

/-- The installed file passes the check of the menu. -/
theorem validateRom_installed
    (h : installedStore.Planned library files request faults plan spec baseEntries) {file : File}
    (hfile : file = File.ofContent plan.data) :
    validateRom request.system plan.entry.rom file = .ok () := by
  obtain ⟨-, hlength, rest, hrom⟩ := h.rom_spec
  obtain ⟨hsystem, hconsole⟩ := validSystem_of_supportedSystems h.supported
  have hpath : isAbsolutePath plan.entry.rom = true := by
    have hhead : (ascii "/mnt/data/roms/").head? = some 0x2f := by decide
    have hmax : pathMax = 4096 := rfl
    rw [isAbsolutePath, decide_eq_true_eq]
    refine ⟨?_, by omega⟩
    rw [← hrom, List.head?_append, hhead]
    rfl
  rw [hfile, validateRom_iff (File.readable_ofContent plan.data) hsystem hconsole hpath]
  exact ((validateROM_iff h.supported plan.data).1 (validateROM_of_decodeUpload h.data)).1

/-- The line of an upload is short. -/
theorem length_line_le
    (h : installedStore.Planned library files request faults plan spec baseEntries) :
    plan.entry.line.length ≤ 374 := by
  obtain ⟨-, hid⟩ := h.validId_id
  obtain ⟨-, hrom, -⟩ := h.rom_spec
  obtain ⟨-, hsystem⟩ := slugShape_system h.supported
  obtain ⟨-, -, -, hcolor, -⟩ := xterm_color h.supported
  have htitle := length_le_of_validTitle h.title
  have hentryTitle : plan.entry.title = request.title := by rw [h.entry]
  have hentrySystem : plan.entry.system = request.system := by rw [h.entry]
  have hentryColor : plan.entry.color = spec.color := by rw [h.entry]
  rw [CatalogEntry.line, hentryTitle, hentrySystem, hentryColor]
  simp only [List.length_append, List.length_cons]
  omega

/-- **The menu accepts the entry of an addition** once its ROM is installed. -/
theorem good (h : installedStore.Planned library files request faults plan spec baseEntries)
    {menuFiles : Bytes → File} (hfile : menuFiles plan.entry.rom = File.ofContent plan.data) :
    plan.entry.Good menuFiles := by
  obtain ⟨hprintable, hlength, hroot⟩ := h.rom_spec
  obtain ⟨color, hcolor, hxterm, -, -⟩ := xterm_color h.supported
  have hline := h.length_line_le
  have hentryTitle : plan.entry.title = request.title := by rw [h.entry]
  have hentrySystem : plan.entry.system = request.system := by rw [h.entry]
  have hentryColor : plan.entry.color = spec.color := by rw [h.entry]
  have hspace : ∀ byte : UInt8, 0x20 < byte → isSpace byte = false :=
    forall_byte (by decide +kernel)
  refine ⟨?_, ?_, by omega⟩
  · exact
      { id := h.validId_id.1
        title := by
          rw [CatalogEntry.game, hentryTitle]
          exact validUtf8Text_of_validTitle h.title
        titleTrimmed := by
          rw [CatalogEntry.game, hentryTitle]
          exact trimAsciiSpace_of_validTitle h.title
        system := by
          rw [CatalogEntry.game, hentrySystem]
          exact (validSystem_of_supportedSystems h.supported).1
        rom := by
          refine validUtf8Text_of_printable false ?_ (fun byte hmem =>
            ⟨UInt8.le_of_lt (hprintable byte hmem).1, (hprintable byte hmem).2⟩)
            (Nat.le_trans hlength (by decide))
          rintro hnil
          have hrom : plan.entry.rom = [] := hnil
          rw [hrom, List.prefix_nil] at hroot
          exact absurd hroot (by decide)
        romTrimmed := trimAsciiSpace_eq_self
          (fun first hfirst => hspace first (hprintable first (List.mem_of_mem_head? hfirst)).1)
          (fun last hlast => hspace last (hprintable last (List.mem_of_getLast? hlast)).1)
        color := by
          rw [CatalogEntry.game, hentryColor, hcolor, Option.getD_some]
          exact hxterm
        content := by
          rw [CatalogEntry.game, hentrySystem]
          exact h.validateRom_installed hfile
        cover := rfl }
  · rw [hentryColor, hcolor]
    rfl

end RomStore.Planned

/-! ### The two catalogs -/

/-- The bound on the lines for which 64 of them fit into a manifest. -/
def lineBound : ℕ := 1000

/-- The two catalogs are on the disk, and together the menu accepts them. -/
structure Loadable (baseEntries uploadEntries : List CatalogEntry) (files : Files) : Prop where
  baseFile : files installedStore.baseCatalog = some (encodeCatalog baseEntries)
  uploadFile : files installedStore.uploadCatalog = some (encodeCatalog uploadEntries) ∨
    files installedStore.uploadCatalog = none ∧ uploadEntries = []
  good : ∀ entry ∈ baseEntries ++ uploadEntries, entry.Good (hostFile files)
  short : ∀ entry ∈ baseEntries ++ uploadEntries, entry.line.length < lineBound
  placed : ∀ entry ∈ baseEntries ++ uploadEntries,
    entry.system = ascii "deck" ∨ ascii "/mnt/data/roms/" <+: entry.rom
  ids : ((baseEntries ++ uploadEntries).map (·.id)).Nodup
  roms : ((baseEntries ++ uploadEntries).map (·.rom)).Nodup
  room : (baseEntries ++ uploadEntries).length ≤ maximumGames

namespace Loadable

variable {baseEntries uploadEntries : List CatalogEntry} {files : Files}

/-- A file outside the ROMs is no ROM of the catalogs. -/
theorem good_write (h : Loadable baseEntries uploadEntries files) {path : Bytes}
    (hpath : ¬ ascii "/mnt/data/roms/" <+: path) (content : Bytes) :
    ∀ entry ∈ baseEntries ++ uploadEntries, entry.Good (hostFile (write files path content)) := by
  intro entry hmem
  refine good_congr (h.good entry hmem) ?_
  rcases h.placed entry hmem with hdeck | hroot
  · exact Or.inl hdeck
  · refine Or.inr (hostFile_write_of_ne content ?_)
    rintro rfl
    exact hpath hroot

theorem length_encodeCatalog_le (h : Loadable baseEntries uploadEntries files) :
    (encodeCatalog (baseEntries ++ uploadEntries)).length ≤ 64000 := by
  have hsize := NesDeck.length_encodeCatalog_le h.short
  have hroom := h.room
  have hmax : maximumGames = 64 := rfl
  have hbound : lineBound = 1000 := rfl
  rw [hbound] at hsize
  omega

/-- The launcher's manifest is that of the entries of both catalogs. -/
theorem combine_eq (h : Loadable baseEntries uploadEntries files) :
    combine installedStore files =
      write files combinedManifest (encodeCatalog (baseEntries ++ uploadEntries)) := by
  have happend : encodeCatalog (baseEntries ++ uploadEntries) =
      encodeCatalog baseEntries ++ encodeCatalog uploadEntries := List.flatMap_append
  rw [combine, h.baseFile, happend]
  rcases h.uploadFile with hfile | ⟨hfile, rfl⟩
  · rw [hfile]
    rfl
  · rw [hfile]
    rfl

/-- **The menu loads the launcher's manifest.** -/
theorem loadManifest (h : Loadable baseEntries uploadEntries files)
    (hne : baseEntries ++ uploadEntries ≠ []) :
    NesDeck.loadManifest (hostFile (combine installedStore files)) combinedManifest =
      .ok ((baseEntries ++ uploadEntries).map CatalogEntry.game) := by
  have hsize := h.length_encodeCatalog_le
  have hmax : kMaximumManifestBytes = 65536 := rfl
  have hfile : hostFile (combine installedStore files) combinedManifest =
      File.ofContent (encodeCatalog (baseEntries ++ uploadEntries)) := by
    rw [h.combine_eq]
    exact hostFile_of_some (write_same ..)
  refine loadManifest_encodeCatalog (by decide) ?_ ?_ (by omega) hne ?_ h.ids h.roms h.room
  · rw [hfile]
    exact File.readable_ofContent _
  · rw [hfile]
    rfl
  · rw [h.combine_eq]
    exact h.good_write (by decide) _

/-- The uploader reads the entries of a catalog that is on the disk. -/
theorem parseCatalog_eq {entries : List CatalogEntry} {menuFiles : Bytes → File}
    (hgood : ∀ entry ∈ entries, entry.Good menuFiles)
    (hshort : ∀ entry ∈ entries, entry.line.length < lineBound)
    (hroom : entries.length ≤ maximumGames) {fault missingOK : Bool} {result : List CatalogEntry}
    (h : parseCatalog (some (encodeCatalog entries)) fault missingOK = .ok result) :
    result = entries := by
  have hsize := NesDeck.length_encodeCatalog_le hshort
  have hmax : maximumGames = 64 := rfl
  have hbound : lineBound = 1000 := rfl
  have hbytes : maximumCatalogBytes = 64 * 1024 := rfl
  cases fault with
  | true =>
      rw [parseCatalog, if_pos rfl] at h
      cases h
  | false =>
      rw [parseCatalog_encodeCatalog (fun entry hmem => plain_of_good (hgood entry hmem))
        (fun entry hmem => (hgood entry hmem).short) hroom (by rw [hbound] at hsize; omega)] at h
      cases h
      rfl

/-- What the uploader reads are the two catalogs. -/
theorem planned (h : Loadable baseEntries uploadEntries files) {library : Library}
    {request : Request} {faults : Faults} {plan : Plan} {spec : SystemSpec}
    {readEntries : List CatalogEntry}
    (hplanned : installedStore.Planned library files request faults plan spec readEntries) :
    readEntries = baseEntries ∧ plan.uploadEntries = uploadEntries := by
  have hroom := h.room
  rw [List.length_append] at hroom
  constructor
  · have hbase := hplanned.base
    rw [h.baseFile] at hbase
    exact parseCatalog_eq (fun entry hmem => h.good entry (List.mem_append_left _ hmem))
      (fun entry hmem => h.short entry (List.mem_append_left _ hmem)) (by omega) hbase
  · have huploads := hplanned.uploads
    rcases h.uploadFile with hfile | ⟨hfile, rfl⟩
    · rw [hfile] at huploads
      exact parseCatalog_eq (fun entry hmem => h.good entry (List.mem_append_right _ hmem))
        (fun entry hmem => h.short entry (List.mem_append_right _ hmem)) (by omega) huploads
    · rw [hfile, parseCatalog.eq_def] at huploads
      split at huploads
      · cases huploads
      · exact (Except.ok.inj huploads).symm

/-- The catalogs after an addition: the new entry is sorted into the uploads. -/
theorem install (h : Loadable baseEntries uploadEntries files) {library : Library}
    {request : Request} {faults : Faults} {plan : Plan} {spec : SystemSpec}
    (hplanned : installedStore.Planned library files request faults plan spec baseEntries)
    (huploads : plan.uploadEntries = uploadEntries) :
    Loadable baseEntries (sortEntries (uploadEntries ++ [plan.entry]))
      (write (write files plan.entry.rom plan.data) installedStore.uploadCatalog
        (RomStore.newCatalog plan)) := by
  obtain ⟨-, -, hroot⟩ := hplanned.rom_spec
  have hapart : ∀ {path : Bytes}, ¬ ascii "/mnt/data/roms/" <+: path → path ≠ plan.entry.rom :=
    fun hpath heq => hpath (heq ▸ hroot)
  have hplace : ∀ {path : Bytes}, ascii "/mnt/data/roms/" <+: path →
      path ≠ installedStore.uploadCatalog := fun hpath heq =>
    absurd (heq ▸ hpath) (by decide)
  have hperm : (baseEntries ++ sortEntries (uploadEntries ++ [plan.entry])).Perm
      (plan.entry :: (baseEntries ++ uploadEntries)) := by
    refine ((List.mergeSort_perm _ _).append_left baseEntries).trans ?_
    rw [← List.append_assoc]
    exact List.perm_append_singleton _ _
  have hfresh := hplanned.fresh
  rw [huploads] at hfresh
  have hroom := hplanned.room
  rw [huploads, ← List.length_append] at hroom
  have hline := hplanned.length_line_le
  refine
    { baseFile := ?_
      uploadFile := Or.inl ?_
      good := fun entry hmem => ?_
      short := fun entry hmem => ?_
      placed := fun entry hmem => ?_
      ids := ((hperm.map _).nodup_iff).2 ?_
      roms := ((hperm.map _).nodup_iff).2 ?_
      room := ?_ }
  · rw [write_of_ne _ (by decide), write_of_ne _ (hapart (by decide)), h.baseFile]
  · rw [write_same, RomStore.newCatalog, huploads]
  · rcases List.mem_cons.1 (hperm.mem_iff.1 hmem) with rfl | hmem
    · refine hplanned.good (hostFile_of_some ?_)
      rw [write_of_ne _ (hplace hroot), write_same]
    · refine good_congr (h.good entry hmem) ?_
      rcases h.placed entry hmem with hdeck | hbelow
      · exact Or.inl hdeck
      · refine Or.inr ?_
        rw [hostFile_write_of_ne _ (hplace hbelow), hostFile_write_of_ne _ (hfresh entry hmem).2]
  · rcases List.mem_cons.1 (hperm.mem_iff.1 hmem) with rfl | hmem
    · have hbound : lineBound = 1000 := rfl
      omega
    · exact h.short entry hmem
  · rcases List.mem_cons.1 (hperm.mem_iff.1 hmem) with rfl | hmem
    · exact Or.inr hroot
    · exact h.placed entry hmem
  · rw [List.map_cons, List.nodup_cons]
    refine ⟨?_, h.ids⟩
    intro hmem
    obtain ⟨entry, hentry, heq⟩ := List.mem_map.1 hmem
    exact (hfresh entry hentry).1 heq
  · rw [List.map_cons, List.nodup_cons]
    refine ⟨?_, h.roms⟩
    intro hmem
    obtain ⟨entry, hentry, heq⟩ := List.mem_map.1 hmem
    exact (hfresh entry hentry).2 heq
  · rw [hperm.length_eq, List.length_cons]
    exact hroom

/-- **One addition** that succeeds keeps the catalogs loadable, and adds an entry. -/
theorem add (h : Loadable baseEntries uploadEntries files) {library : Library}
    {request : Request} {faults : Faults} {files' : Files} {entry : Option CatalogEntry}
    (hadd : installedStore.add library files request faults = ⟨files', entry, none⟩) :
    ∃ uploadEntries', Loadable baseEntries uploadEntries' files' ∧
      uploadEntries'.length = uploadEntries.length + 1 := by
  rcases RomStore.add_cases installedStore library files request faults with
    ⟨error, hcase, -⟩ | ⟨plan, hplan, -, ⟨error, hcase, -⟩ | ⟨error, hcase, -⟩⟩
  · rw [hcase] at hadd
    cases hadd
  · rw [hcase] at hadd
    cases hadd
    obtain ⟨spec, readEntries, hplanned⟩ := RomStore.plan_spec hplan
    obtain ⟨rfl, huploads⟩ := h.planned hplanned
    refine ⟨_, h.install hplanned huploads, ?_⟩
    rw [sortEntries, List.length_mergeSort, List.length_append, List.length_singleton]
  · rw [hcase] at hadd
    cases hadd

/-- **Any number of additions** keeps the catalogs loadable. -/
theorem addAll (h : Loadable baseEntries uploadEntries files) {library : Library}
    {requests : List (Request × Faults)} {files' : Files}
    (hrun : installedStore.addAll library files requests = some files') :
    ∃ uploadEntries', Loadable baseEntries uploadEntries' files' ∧
      uploadEntries'.length = uploadEntries.length + requests.length := by
  induction requests generalizing files uploadEntries with
  | nil =>
      cases hrun
      exact ⟨uploadEntries, h, rfl⟩
  | cons call requests ih =>
      obtain ⟨request, faults⟩ := call
      rw [RomStore.addAll.eq_def] at hrun
      dsimp only at hrun
      split at hrun
      · rename_i files₁ entry hadd
        obtain ⟨uploadEntries₁, h₁, hlength₁⟩ := h.add hadd
        obtain ⟨uploadEntries', h', hlength'⟩ := ih h₁ hrun
        refine ⟨uploadEntries', h', ?_⟩
        rw [List.length_cons]
        omega
      · cases hrun

end Loadable

/-! ### The manifest of the launcher -/

/-- A validated catalog whose ROMs are there, before the first upload. -/
theorem loadable_writeTsv {games : List CatalogCompiler.GameRow}
    (hgames : CatalogCompiler.IsCatalog games) {files : Files}
    (hbase : files installedStore.baseCatalog = some (CatalogCompiler.writeTsv games))
    (hroms : ∀ game ∈ games, game.entry.system ≠ ascii "deck" →
      validateRom game.entry.system game.entry.rom (hostFile files game.entry.rom) = .ok ())
    (hnone : files installedStore.uploadCatalog = none) :
    Loadable (games.map CatalogCompiler.GameRow.entry) [] files := by
  obtain ⟨hids, hpaths⟩ := hgames.nodup_entries
  have hmem : ∀ {entry : CatalogEntry},
      entry ∈ games.map CatalogCompiler.GameRow.entry ++ [] → ∃ game ∈ games, game.entry = entry :=
    fun hmem => List.mem_map.1 (List.append_nil (games.map CatalogCompiler.GameRow.entry) ▸ hmem)
  refine
    { baseFile := by rw [hbase, CatalogCompiler.writeTsv_eq]
      uploadFile := Or.inr ⟨hnone, rfl⟩
      good := fun entry hentry => ?_
      short := fun entry hentry => ?_
      placed := fun entry hentry => ?_
      ids := by rwa [List.append_nil]
      roms := by rwa [List.append_nil]
      room := by
        rw [List.append_nil, List.length_map]
        exact hgames.bounded }
  · obtain ⟨game, hgame, rfl⟩ := hmem hentry
    exact hgames.good hroms game hgame
  · obtain ⟨game, hgame, rfl⟩ := hmem hentry
    exact Nat.lt_of_le_of_lt (hgames.valid game hgame).length_line_le (by decide)
  · obtain ⟨game, hgame, rfl⟩ := hmem hentry
    exact (hgames.valid game hgame).rom_root

/-- **The menu loads the manifest after any additions**: if the compiler accepts the catalog and its
ROMs are valid, then after every sequence of successful additions the compiled manifest and the
catalog of uploads are accepted together, with an entry for every game and for every upload. -/
theorem addAll_loadManifest {form : CatalogCompiler.Form}
    {games : List CatalogCompiler.GameRow} {palette : List (List Char × List Char)}
    {library : Library} {files files' : Files} {requests : List (Request × Faults)}
    (hform : CatalogCompiler.validateCatalog form = .ok (games, palette))
    (hbase : files installedStore.baseCatalog = some (CatalogCompiler.writeTsv games))
    (hroms : ∀ game ∈ games, game.entry.system ≠ ascii "deck" →
      validateRom game.entry.system game.entry.rom (hostFile files game.entry.rom) = .ok ())
    (hnone : files installedStore.uploadCatalog = none)
    (hrun : installedStore.addAll library files requests = some files') :
    ∃ manifest entries,
      combine installedStore files' combinedManifest = some manifest ∧
      loadManifest (hostFile (combine installedStore files')) combinedManifest = .ok entries ∧
      entries.length = games.length + requests.length ∧
      IsCatalog (hostFile (combine installedStore files')) entries ∧
      (∀ line ∈ getlines manifest, (splitTabs line).length = 5) ∧
      manifest.length ≤ kMaximumManifestBytes := by
  have hgames := CatalogCompiler.validateCatalog_spec hform
  obtain ⟨uploadEntries, h, hlength⟩ :=
    (loadable_writeTsv hgames hbase hroms hnone).addAll hrun
  have hne : games.map CatalogCompiler.GameRow.entry ++ uploadEntries ≠ [] := by
    intro hnil
    exact hgames.nonempty (List.map_eq_nil_iff.1 (List.append_eq_nil_iff.1 hnil).1)
  have hload := h.loadManifest hne
  refine ⟨_, _, by rw [h.combine_eq, write_same], hload, ?_, (loadManifest_isCatalog hload).1, ?_,
    Nat.le_trans h.length_encodeCatalog_le (by decide)⟩
  · rw [List.length_map, List.length_append, List.length_map, hlength, List.length_nil,
      Nat.zero_add]
  · rw [getlines_encodeCatalog fun entry hmem => (h.good entry hmem).no_newline]
    intro line hmem
    obtain ⟨entry, hentry, rfl⟩ := List.mem_map.1 hmem
    rw [(h.good entry hentry).noTabs.splitTabs_line]
    rfl

/-! ### A catalog of one game, and one upload -/

section Sample

open CatalogCompiler

def sampleForm : Form :=
  .ofList
    [.keyword "VERSION", .integer 7, .keyword "PALETTE",
     .ofList (paletteKeys.flatMap fun key => [key, .string "#000000".toList]), .keyword "GAMES",
     .ofList
       [.ofList
         [.keyword "ID", .string "ten".toList, .keyword "TITLE", .string "TEN".toList,
          .keyword "SYSTEM", .keyword "DECK", .keyword "ROM",
          .string "/mnt/data/nes-deck/games/ten".toList, .keyword "COLOR",
          .string "#ff0000".toList]]]

def sampleGame : GameRow :=
  ⟨"ten".toList, "TEN".toList, "deck".toList, "/mnt/data/nes-deck/games/ten".toList,
    "#FF0000".toList⟩

theorem validateCatalog_sampleForm :
    validateCatalog sampleForm =
      .ok ([sampleGame], paletteKeys.map fun key => (symbolDowncase key, "#000000".toList)) := by
  decide +kernel

def sampleDeck : Files := fun path =>
  if path = installedStore.baseCatalog then some (writeTsv [sampleGame]) else none

def noFaults : Faults :=
  ⟨false, false, false, RomStore.noWriteFaults, false, false, RomStore.noWriteFaults, false⟩

theorem isSome_addAll_sampleDeck :
    (installedStore.addAll RomStore.sampleLibrary sampleDeck
      [(RomStore.sampleRequest, noFaults)]).isSome = true := by decide +kernel

/-- The menu loads the game and the upload. -/
theorem addAll_loadManifest_one :
    ∃ files', installedStore.addAll RomStore.sampleLibrary sampleDeck
        [(RomStore.sampleRequest, noFaults)] = some files' ∧
      ∃ manifest entries,
        combine installedStore files' combinedManifest = some manifest ∧
        loadManifest (hostFile (combine installedStore files')) combinedManifest = .ok entries ∧
        entries.length = [sampleGame].length + [(RomStore.sampleRequest, noFaults)].length ∧
        NesDeck.IsCatalog (hostFile (combine installedStore files')) entries ∧
        (∀ line ∈ getlines manifest, (splitTabs line).length = 5) ∧
        manifest.length ≤ kMaximumManifestBytes := by
  obtain ⟨files', hrun⟩ := Option.isSome_iff_exists.1 isSome_addAll_sampleDeck
  refine ⟨files', hrun, addAll_loadManifest validateCatalog_sampleForm (if_pos rfl) ?_
    (if_neg (by decide)) hrun⟩
  intro game hmem hconsole
  rw [List.mem_singleton] at hmem
  subst hmem
  exact absurd (by decide) hconsole

end Sample

end NesDeck.Uploader
