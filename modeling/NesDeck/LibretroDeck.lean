/-
**The libretro frontends: loading a cartridge and its save.**

`libretro_deck.cpp` is compiled three times, for the NES, the Game Boy and the ZX Spectrum core.
This module models the two functions that read files.  `read_rom` accepts a regular file of a
bounded size, on the NES only with an iNES header.  `load_memory_file` fills the save memory of
the core: a file of exactly the memory's size is taken as it stands, and the NES frontend tries
the legacy coder of `NesDeck.Sram` on a file of any other size.

Both ways of loading write into the memory of the core while they read, so a fault found later
leaves behind what was written before it.

Main definitions:

* `NesDeck.LibretroDeck.Frontend` — the three builds and their limits;
* `NesDeck.LibretroDeck.readRom`, `NesDeck.LibretroDeck.loadMemoryFile` — the two functions;
* `NesDeck.LibretroDeck.strayBytes` — what an ignored save leaves in the memory.

Main results:

* `NesDeck.LibretroDeck.loadMemoryFile_encoded_iff` — **a legacy save is restored exactly when its
  length gives it away as one**;
* `NesDeck.LibretroDeck.loadMemoryFile_ignored_iff` — **an ignored save leaves the memory alone
  exactly when it held the stray bytes already**.
-/

import NesDeck.Lib.HostFile
import NesDeck.Sram

set_option relaxedAutoImplicit false
set_option autoImplicit false

namespace NesDeck.LibretroDeck

open HostFile
open Sram (nesSramEncode nesSramDecode nesSramMaximumEncodedSize encoded decoded)

/-! ### The frontends -/

/-- The builds of the program. -/
inductive Frontend where
  | nes
  | gb
  | zx
  deriving DecidableEq

namespace Frontend

def kFrontendName : Frontend → Bytes
  | nes => ascii "nes-deck"
  | gb => ascii "gb-deck"
  | zx => ascii "zx-deck"

def kRomDescription : Frontend → Bytes
  | nes => ascii "NES"
  | gb => ascii "Game Boy"
  | zx => ascii "ZX Spectrum"

def kMinimumRomBytes : Frontend → ℕ
  | nes => 16
  | gb => 0x150
  | zx => 4

end Frontend

def kMaximumRomBytes : ℕ := 8 * 1024 * 1024

/-- The four bytes an iNES file starts with. -/
def inesMagic : Bytes := [0x4e, 0x45, 0x53, 0x1a]

/-! ### Reading a cartridge -/

/-- The reasons for which `read_rom` refuses a file. -/
inductive ReadRomError where
  | cannotStat (errno : Errno)
  | invalidSize
  | incomplete
  | noInesHeader
  deriving DecidableEq

/-- The text of the error. -/
def ReadRomError.message (strerror : Errno → Bytes) (frontend : Frontend) (path : Bytes) :
    ReadRomError → Bytes
  | cannotStat errno => ascii "cannot stat ROM " ++ path ++ ascii ": " ++ strerror errno
  | invalidSize => frontend.kRomDescription ++ ascii " ROM has an invalid size"
  | incomplete =>
      ascii "cannot read complete " ++ frontend.kRomDescription ++ ascii " ROM " ++ path
  | noInesHeader => ascii "NES ROM is missing its iNES header"

/-- `read_rom`: the bytes of the cartridge. -/
def readRom (frontend : Frontend) (file : File) : Except ReadRomError Bytes :=
  match file.statError with
  | some errno => .error (.cannotStat errno)
  | none =>
      if file.isRegular = false ∨ file.size < frontend.kMinimumRomBytes ∨
          kMaximumRomBytes < file.size then
        .error .invalidSize
      else
        match file.streamRead file.size with
        | none => .error .incomplete
        | some rom =>
            if frontend = .nes ∧ (rom.length < 4 ∨ rom.take 4 ≠ inesMagic) then
              .error .noInesHeader
            else .ok rom

/-- On a file that can be read, `read_rom` returns the content if the size is within the bounds
and, on the NES, the header is there. -/
theorem readRom_eq_ok_iff {frontend : Frontend} {file : File} (h : file.readable) (rom : Bytes) :
    readRom frontend file = .ok rom ↔
      rom = file.content ∧ frontend.kMinimumRomBytes ≤ file.size ∧
        file.size ≤ kMaximumRomBytes ∧
        (frontend = .nes → 4 ≤ file.size ∧ file.content.take 4 = inesMagic) := by
  rw [readRom, h.stat]
  dsimp only
  by_cases hsize : frontend.kMinimumRomBytes ≤ file.size ∧ file.size ≤ kMaximumRomBytes
  · rw [if_neg (by rw [h.regular]; simp; omega), File.streamRead_of_readable h]
    dsimp only
    by_cases hnes : frontend = .nes ∧
        (file.content.length < 4 ∨ file.content.take 4 ≠ inesMagic)
    · rw [if_pos hnes]
      constructor
      · intro heq
        cases heq
      · rintro ⟨-, -, -, hheader⟩
        obtain ⟨hlen, hmagic⟩ := hheader hnes.1
        rcases hnes.2 with hlt | hne
        · exact absurd hlen (Nat.not_le.2 hlt)
        · exact absurd hmagic hne
    · rw [if_neg hnes]
      constructor
      · intro heq
        cases heq
        refine ⟨rfl, hsize.1, hsize.2, fun hfrontend => ⟨?_, ?_⟩⟩
        · by_contra hlt
          exact hnes ⟨hfrontend, Or.inl (Nat.not_le.1 hlt)⟩
        · by_contra hne
          exact hnes ⟨hfrontend, Or.inr hne⟩
      · rintro ⟨rfl, -⟩
        rfl
  · rw [if_pos (by omega)]
    constructor
    · intro heq
      cases heq
    · rintro ⟨-, hmin, hmax, -⟩
      exact absurd ⟨hmin, hmax⟩ hsize

/-! ### Loading the save memory -/

/-- What `load_memory_file` prints. -/
inductive LoadReport where
  | cannotStat (errno : Errno)
  | notRegular
  | migrated
  | unexpectedSize
  | incompleteRead
  deriving DecidableEq

/-- The text of the report. -/
def LoadReport.message (strerror : Errno → Bytes) (frontend : Frontend) (path : Bytes) :
    LoadReport → Bytes
  | cannotStat errno =>
      frontend.kFrontendName ++ ascii ": cannot stat save " ++ path ++ ascii ": " ++
        strerror errno ++ ascii "\n"
  | notRegular =>
      frontend.kFrontendName ++ ascii ": save is not a regular file: " ++ path ++ ascii "\n"
  | migrated =>
      frontend.kFrontendName ++ ascii ": migrated encoded InfoNES save: " ++ path ++ ascii "\n"
  | unexpectedSize =>
      frontend.kFrontendName ++ ascii ": ignoring save with unexpected size: " ++ path ++
        ascii "\n"
  | incompleteRead =>
      frontend.kFrontendName ++ ascii ": incomplete save read: " ++ path ++ ascii "\n"

/-- The outcome of a load: the report, if one is printed, and the memory of the core. -/
structure Loaded where
  report : Option LoadReport
  memory : Bytes
  deriving DecidableEq

/-- The branch for a file that is not as long as the memory. -/
def migrateMemory (frontend : Frontend) (file : File) (memory : Bytes) : Loaded :=
  if frontend = .nes ∧ 0 < file.size ∧
      file.size ≤ nesSramMaximumEncodedSize memory.length then
    match file.streamRead file.size with
    | none => ⟨some .unexpectedSize, memory⟩
    | some written =>
        let result := nesSramDecode written memory
        ⟨some (if result.1 then .migrated else .unexpectedSize), result.2⟩
  else ⟨some .unexpectedSize, memory⟩

/-- `load_memory_file` on the memory of the core. -/
def loadMemoryFile (frontend : Frontend) (file : File) (memory : Bytes) : Loaded :=
  if memory.length = 0 then ⟨none, memory⟩
  else
    match file.statError with
    | some errno =>
        ⟨if errno = Errno.enoent then none else some (.cannotStat errno), memory⟩
    | none =>
        if file.isRegular = false then ⟨some .notRegular, memory⟩
        else if file.size ≠ memory.length then migrateMemory frontend file memory
        else
          match file.openError with
          | some _ => ⟨none, memory⟩
          | none =>
              let result := readLoop file.reads file.content memory 0 memory.length
              ⟨if result.2 ≠ 0 then some .incompleteRead else none, result.1⟩

/-- A file that can be read and is as long as the memory is loaded as it stands. -/
theorem loadMemoryFile_raw (frontend : Frontend) {file : File} (h : file.readable)
    {memory : Bytes} (hlen : file.size = memory.length) :
    loadMemoryFile frontend file memory = ⟨none, file.content⟩ := by
  by_cases hzero : memory.length = 0
  · have hmemory : memory = file.content := by
      rw [List.length_eq_zero_iff.1 hzero, List.length_eq_zero_iff.1 (hlen.trans hzero)]
    rw [loadMemoryFile, if_pos hzero, hmemory]
  · have hall : delivered file.reads file.content memory.length = file.content := by
      rw [delivered_eq_take h.reads, ← hlen]
      exact List.take_length
    rw [loadMemoryFile, if_neg hzero, h.stat]
    dsimp only
    rw [h.regular, if_neg (by simp), if_neg (by omega), h.opens]
    dsimp only
    rw [readLoop_eq, hall, Buffer.store_zero_of_length_eq hlen]
    have hmissing : memory.length - file.content.length = 0 := by
      have hsize : file.content.length = memory.length := hlen
      omega
    rw [hmissing]
    rfl

/-! ### Legacy saves -/

/-- A legacy save of another length than the memory is decoded. -/
theorem loadMemoryFile_encoded_of_length_ne {s : Bytes} (hs : s ≠ []) {file : File}
    (h : file.readable) (hcontent : file.content = encoded s) {memory : Bytes}
    (hmemory : memory.length = s.length) (hlen : (encoded s).length ≠ s.length) :
    loadMemoryFile .nes file memory = ⟨some .migrated, s⟩ := by
  have hzero : memory.length ≠ 0 := by
    rw [hmemory]
    simpa using hs
  have hsize : file.size = (encoded s).length := by rw [File.size, hcontent]
  have hpos : 0 < file.size := by
    rw [hsize, encoded, List.length_cons]
    omega
  have hcap : file.size ≤ nesSramMaximumEncodedSize memory.length := by
    rw [hsize, hmemory]
    exact Sram.length_encoded_le s
  rw [loadMemoryFile, if_neg hzero, h.stat]
  dsimp only
  rw [h.regular, if_neg (by simp), if_pos (by omega), migrateMemory,
    if_pos ⟨rfl, hpos, hcap⟩, File.streamRead_of_readable h]
  dsimp only
  rw [hcontent, Sram.nesSramDecode_encoded hs hmemory]
  rfl

/-- **Legacy migration**: what the encoder wrote for an image is restored exactly when it is not
as long as the image itself, or does not differ from it. -/
theorem loadMemoryFile_encoded_iff (s written memory : Bytes) (file : File) (hs : s ≠ [])
    (hwritten : nesSramEncode s (nesSramMaximumEncodedSize s.length) = some written)
    (hfile : file.readable) (hcontent : file.content = written)
    (hmemory : memory.length = s.length) :
    (loadMemoryFile .nes file memory).memory = s ↔
      written.length ≠ s.length ∨ written = s := by
  rw [Sram.nesSramEncode_eq hs] at hwritten
  cases hwritten
  by_cases hlen : (encoded s).length = s.length
  · have hsize : file.size = memory.length := by rw [File.size, hcontent, hlen, hmemory]
    rw [loadMemoryFile_raw .nes hfile hsize, hcontent]
    simp [hlen]
  · rw [loadMemoryFile_encoded_of_length_ne hs hfile hcontent hmemory hlen]
    simp [hlen]

/-- Eight equal bytes take four bytes of legacy code, and are restored. -/
theorem loadMemoryFile_encoded_eight :
    (loadMemoryFile .nes (.ofContent [0, 0, 1, 7]) (List.replicate 8 0)).memory =
        List.replicate 8 1 ↔
      [0, 0, 1, 7].length ≠ (List.replicate 8 (1 : UInt8)).length ∨
        [0, 0, 1, 7] = List.replicate 8 (1 : UInt8) :=
  loadMemoryFile_encoded_iff (List.replicate 8 1) [0, 0, 1, 7] (List.replicate 8 0)
    (.ofContent [0, 0, 1, 7]) (by decide)
    (by rw [Sram.nesSramEncode_eq (by decide), Sram.encoded_replicate] <;> decide)
    (File.readable_ofContent _) rfl rfl

/-- Four equal bytes take four bytes of legacy code as well: that code is taken for the image. -/
theorem loadMemoryFile_encoded_four :
    nesSramEncode [1, 1, 1, 1] (nesSramMaximumEncodedSize 4) = some [0, 0, 1, 3] ∧
      (loadMemoryFile .nes (.ofContent [0, 0, 1, 3]) [0, 0, 0, 0]).memory = [0, 0, 1, 3] ∧
      ([0, 0, 1, 3] : Bytes) ≠ [1, 1, 1, 1] := by
  have hwritten := Sram.nesSramEncode_eq (show List.replicate 4 (1 : UInt8) ≠ [] by decide)
  rw [Sram.encoded_replicate (by decide) (by omega) (by omega)] at hwritten
  exact ⟨hwritten, by decide, by decide⟩

/-! ### Saves that are ignored -/

/-- The bytes that an ignored save leaves in a memory of `n` bytes: what legacy data expands to
up to its first fault, or what is read before reading stops short. -/
def strayBytes (frontend : Frontend) (file : File) (n : ℕ) : Bytes :=
  if file.statError = none ∧ file.isRegular = true then
    if file.size ≠ n then
      if frontend = .nes ∧ 0 < file.size ∧ file.size ≤ nesSramMaximumEncodedSize n then
        match file.streamRead file.size with
        | some (tag :: rest) =>
            if (decoded tag rest n).2 = true then [] else (decoded tag rest n).1
        | _ => []
      else []
    else if file.openError = none ∧ (delivered file.reads file.content n).length < n then
      delivered file.reads file.content n
    else []
  else []

theorem strayBytes_zero (frontend : Frontend) (file : File) :
    strayBytes frontend file 0 = [] := by
  unfold strayBytes
  split
  · split
    · split
      · split
        · simp
        · rfl
      · rfl
    · rw [if_neg (by omega)]
  · rfl

/-- The branch for legacy data leaves the memory alone exactly when the stray bytes are there. -/
theorem migrateMemory_ignored_iff (frontend : Frontend) {file : File} {memory : Bytes}
    (hzero : memory.length ≠ 0) (hstat : file.statError = none) (hregular : file.isRegular = true)
    (hsize : file.size ≠ memory.length) :
    (∀ report, (migrateMemory frontend file memory).report = some report →
        report ≠ .migrated → (migrateMemory frontend file memory).memory = memory) ↔
      strayBytes frontend file memory.length <+: memory := by
  have hnonempty : memory ≠ [] := fun h => hzero (by simp [h])
  rw [strayBytes, if_pos ⟨hstat, hregular⟩, if_pos hsize, migrateMemory]
  by_cases hlegacy : frontend = .nes ∧ 0 < file.size ∧
      file.size ≤ nesSramMaximumEncodedSize memory.length
  · rw [if_pos hlegacy, if_pos hlegacy]
    cases file.streamRead file.size with
    | none => simp
    | some written =>
        cases written with
        | nil => simp [nesSramDecode]
        | cons tag rest =>
            dsimp only
            rw [Sram.nesSramDecode_eq tag rest hnonempty]
            have hle := (Sram.decoded_length tag rest memory.length).1
            cases hok : (decoded tag rest memory.length).2 with
            | true => simp
            | false => simpa using Buffer.store_zero_eq_self_iff hle
  · rw [if_neg hlegacy, if_neg hlegacy]
    simp

/-- The stray bytes of a file as long as the memory. -/
theorem strayBytes_of_size_eq (frontend : Frontend) {file : File} (hstat : file.statError = none)
    (hregular : file.isRegular = true) :
    strayBytes frontend file file.size =
      if file.openError = none ∧
          (delivered file.reads file.content file.size).length < file.size then
        delivered file.reads file.content file.size
      else [] := by
  rw [strayBytes, if_pos ⟨hstat, hregular⟩, if_neg (not_not_intro rfl)]

/-- The branch that reads the file as it stands, likewise. -/
theorem readLoop_ignored_iff (script : List ReadOutcome) (source memory : Bytes) (n : ℕ)
    (hn : memory.length = n) :
    ((readLoop script source memory 0 n).2 ≠ 0 →
        (readLoop script source memory 0 n).1 = memory) ↔
      (if (delivered script source n).length < n then delivered script source n else [])
        <+: memory := by
  have hle := length_delivered_le script source n
  rw [readLoop_eq]
  dsimp only
  by_cases hshort : (delivered script source n).length < n
  · rw [if_pos hshort, ← Buffer.store_zero_eq_self_iff (by omega)]
    exact ⟨fun h => h (by omega), fun h _ => h⟩
  · rw [if_neg hshort]
    constructor
    · intro _
      exact List.nil_prefix
    · intro _ hmissing
      omega

/-- **Ignored saves**: a load that reports something other than a migration leaves the memory as
it was exactly when the stray bytes are what the memory starts with. -/
theorem loadMemoryFile_ignored_iff (frontend : Frontend) (file : File) (memory : Bytes) :
    (∀ report, (loadMemoryFile frontend file memory).report = some report →
        report ≠ .migrated → (loadMemoryFile frontend file memory).memory = memory) ↔
      strayBytes frontend file memory.length <+: memory := by
  by_cases hzero : memory.length = 0
  · rw [loadMemoryFile, if_pos hzero, hzero, strayBytes_zero]
    simp
  rw [loadMemoryFile, if_neg hzero]
  cases hstat : file.statError with
  | some errno => simp [strayBytes, hstat]
  | none =>
      dsimp only
      cases hregular : file.isRegular with
      | false => simp [strayBytes, hregular]
      | true =>
          rw [if_neg (by simp)]
          by_cases hsize : file.size = memory.length
          · rw [← hsize, if_neg (not_not_intro rfl), strayBytes_of_size_eq frontend hstat hregular]
            cases hopen : file.openError with
            | some errno => simp
            | none =>
                have hread :=
                  readLoop_ignored_iff file.reads file.content memory file.size hsize.symm
                dsimp only
                simp only [true_and]
                rw [← hread]
                split
                · rename_i hmissing
                  simp [hmissing]
                · rename_i hmissing
                  simp [hmissing]
          · rw [if_pos hsize]
            exact migrateMemory_ignored_iff frontend hzero hstat hregular hsize

/-- A legacy file that ends inside the image: the memory has lost a byte. -/
theorem loadMemoryFile_ignored_truncated :
    loadMemoryFile .nes (.ofContent [0, 7]) [1, 2, 3] = ⟨some .unexpectedSize, [7, 2, 3]⟩ := by
  decide

end NesDeck.LibretroDeck
