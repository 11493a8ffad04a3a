/-
**The Ogg Vorbis file in memory.**

The decoder of the chiptune player reads an Ogg Vorbis file through callbacks (`vorbis_memory_read`,
`vorbis_memory_seek` and `vorbis_memory_tell` in `chiptune_deck.cpp`), behind which the file is a
vector of bytes and an offset. They are compared with a file that is read item by item.

The sizes are those of a platform of 32 or of 64 bits; the offset of a seek is one of 64 bits
everywhere. A seek in which a signed number overflows has no result.

Main definitions:

* `NesDeck.VorbisMemory.vorbisMemoryRead`, `NesDeck.VorbisMemory.vorbisMemorySeek`,
  `NesDeck.VorbisMemory.vorbisMemoryTell` — the callbacks;
* `NesDeck.VorbisMemory.serve` — one call, and `NesDeck.VorbisMemory.serveAll` — a run;
* `NesDeck.VorbisMemory.fileStep`, `NesDeck.VorbisMemory.fileRun` — what a file answers.

Main results:

* `NesDeck.VorbisMemory.serve_spec` — one call, on a stream that represents a file;
* `NesDeck.VorbisMemory.serveAll_refines_iff` — **the callbacks answer as the file exactly if no
  seek has the least offset**.
-/

import NesDeck.Lib.HostFile
import NesDeck.Lib.SeekFile
import NesDeck.Lib.Signed

set_option relaxedAutoImplicit false
set_option autoImplicit false

namespace NesDeck.VorbisMemory

open HostFile (Bytes)

/-! ### The stream -/

/-- A platform, by the bits of `size_t` and of `long`. -/
structure Platform where
  bits : ℕ
  width : bits = 32 ∨ bits = 64

def Platform.sizeMax (platform : Platform) : ℕ := 2 ^ platform.bits - 1

/-- `LONG_MAX`, which is also `PTRDIFF_MAX`. -/
def Platform.longMax (platform : Platform) : ℕ := 2 ^ (platform.bits - 1) - 1

/-- A `std::vector<unsigned char>`, which is not longer than `PTRDIFF_MAX`. -/
structure ByteVector (platform : Platform) where
  bytes : Bytes
  bounded : bytes.length ≤ platform.longMax

variable {platform : Platform}

def ByteVector.size (vector : ByteVector platform) : ℕ := vector.bytes.length

structure VorbisMemoryStream (platform : Platform) where
  bytes : Option (ByteVector platform)
  offset : ℕ

/-- The pointer that the callbacks get. -/
abbrev Datasource (platform : Platform) : Type := Option (VorbisMemoryStream platform)

/-! ### The callbacks -/

def memcpy (destination data : Bytes) : Bytes := data ++ destination.drop data.length

/-- The items that are returned, the memory at the destination, and the stream. -/
def vorbisMemoryRead (destination : Option Bytes) (size count : ℕ)
    (datasource : Datasource platform) :
    ℕ × Option Bytes × Datasource platform :=
  match datasource, destination with
  | some stream, some memory =>
      match stream.bytes with
      | none => (0, destination, datasource)
      | some vector =>
          if size = 0 ∨ count = 0 ∨ platform.sizeMax / size < count
            then (0, destination, datasource)
          else
            let requested := size * count % 2 ^ platform.bits
            let available := if stream.offset < vector.size then vector.size - stream.offset else 0
            let completeItems := min requested available / size
            let amount := completeItems * size % 2 ^ platform.bits
            if 0 < amount then
              (completeItems, some (memcpy memory ((vector.bytes.drop stream.offset).take amount)),
                some { stream with offset := (stream.offset + amount) % 2 ^ platform.bits })
            else (completeItems, destination, datasource)
  | _, _ => (0, destination, datasource)

def seekSet : ℤ := 0

def seekCur : ℤ := 1

def seekEnd : ℤ := 2

/-- What the offset of a seek is added to. -/
def seekBase (stream : VorbisMemoryStream platform) (vector : ByteVector platform)
    (whence : ℤ) : Option ℤ :=
  if whence = seekCur then some (Signed.cast 64 stream.offset)
  else if whence = seekEnd then some (Signed.cast 64 vector.size)
  else if whence = seekSet then some 0
  else none

/-- Whether the sum is seen to be outside, before it is computed. -/
def seekOutside (size base offset : ℤ) : Option Bool := do
  let below ←
    if offset < 0 then (Signed.neg 64 offset).map fun negated => decide (base < negated)
      else some false
  if below = true then some true
  else if 0 < offset then (Signed.sub 64 size offset).map fun room => decide (room < base)
  else some false

/-- The stream, and the status that is returned. -/
def vorbisMemorySeek (datasource : Datasource platform) (offset : Int64) (whence : ℤ) :
    Option (Datasource platform × ℤ) :=
  match datasource with
  | none => some (datasource, -1)
  | some stream =>
      match stream.bytes with
      | none => some (datasource, -1)
      | some vector =>
          match seekBase stream vector whence with
          | none => some (datasource, -1)
          | some base => do
              let size := Signed.cast 64 vector.size
              let outside ← seekOutside size base offset.toInt
              if outside = true then some (datasource, -1)
              else
                let target ← Signed.add 64 base offset.toInt
                if target < 0 ∨ size < target then some (datasource, -1)
                else some (some { stream with offset := (target % 2 ^ platform.bits).toNat }, 0)

def vorbisMemoryTell (datasource : Datasource platform) : ℤ :=
  match datasource with
  | none => -1
  | some stream =>
      if platform.longMax < stream.offset then -1 else Signed.cast platform.bits stream.offset

/-! ### Runs -/

/-- A read, with memory that has room for what is asked for. -/
structure ReadCall (platform : Platform) where
  size : ℕ
  count : ℕ
  destination : Bytes
  room : size * count ≤ platform.sizeMax → size * count ≤ destination.length

inductive Call (platform : Platform) where
  | read (call : ReadCall platform)
  | seek (offset : Int64) (whence : ℤ)
  | tell

inductive Answer where
  | items (count : ℕ) (destination : Option Bytes)
  | status (code : ℤ)
  | position (position : ℤ)

/-- One call; there is no result where a signed number overflows. -/
def serve (datasource : Datasource platform) : Call platform → Option (Answer × Datasource platform)
  | .read call =>
      let (items, destination, datasource) :=
        vorbisMemoryRead (some call.destination) call.size call.count datasource
      some (.items items destination, datasource)
  | .seek offset whence =>
      (vorbisMemorySeek datasource offset whence).map fun result => (.status result.2, result.1)
  | .tell => some (.position (vorbisMemoryTell datasource), datasource)

def serveAll (datasource : Datasource platform) :
    List (Call platform) → Option (List Answer × Datasource platform)
  | [] => some ([], datasource)
  | call :: calls => do
      let (answer, datasource) ← serve datasource call
      let (answers, datasource) ← serveAll datasource calls
      some (answer :: answers, datasource)

/-- The stream of a file that has just been read. -/
def opened (vector : ByteVector platform) : Datasource platform := some ⟨some vector, 0⟩

/-! ### What a file answers -/

def whenceOf (whence : ℤ) : Option SeekFile.Whence :=
  if whence = seekSet then some .start
  else if whence = seekCur then some .current
  else if whence = seekEnd then some .finish
  else none

/-- What a file answers. A request that is not a `size_t` gets nothing, and a seek that fails leaves
the file as it is. -/
def fileStep (file : SeekFile UInt8) : Call platform → Answer × SeekFile UInt8
  | .read call =>
      if call.size * call.count ≤ platform.sizeMax then
        (.items (file.items call.size call.count)
            (some (memcpy call.destination (file.read call.size call.count).1)),
          (file.read call.size call.count).2)
      else (.items 0 (some call.destination), file)
  | .seek offset whence =>
      match (whenceOf whence).bind fun whence => file.seek whence offset.toInt with
      | some file => (.status 0, file)
      | none => (.status (-1), file)
  | .tell => (.position file.position, file)

def fileRun (file : SeekFile UInt8) : List (Call platform) → List Answer × SeekFile UInt8
  | [] => ([], file)
  | call :: calls =>
      let (answer, file) := fileStep file call
      let (answers, file) := fileRun file calls
      (answer :: answers, file)

/-- The stream is the file, at the same position. -/
def Represents (datasource : Datasource platform) (file : SeekFile UInt8) : Prop :=
  ∃ vector : ByteVector platform,
    datasource = some ⟨some vector, file.position⟩ ∧ vector.bytes = file.content

/-- A seek with the least of all offsets. -/
def Call.Least : Call platform → Prop
  | .seek offset whence => offset = Int64.minValue ∧ (whenceOf whence).isSome = true
  | _ => False

instance (call : Call platform) : Decidable call.Least :=
  match call with
  | .read _ => isFalse id
  | .seek offset whence =>
      inferInstanceAs (Decidable (offset = Int64.minValue ∧ (whenceOf whence).isSome = true))
  | .tell => isFalse id

/-! ### Numbers of the platform -/

namespace Platform

theorem bits_pos (platform : Platform) : 0 < platform.bits := by
  rcases platform.width with h | h <;> omega

theorem longMax_lt (platform : Platform) : platform.longMax < 2 ^ 63 := by
  rcases platform.width with h | h <;> rw [longMax, h] <;> decide

theorem longMax_lt_pow (platform : Platform) : platform.longMax < 2 ^ platform.bits := by
  rcases platform.width with h | h <;> rw [longMax, h] <;> decide

theorem sizeMax_lt (platform : Platform) : platform.sizeMax < 2 ^ platform.bits := by
  rcases platform.width with h | h <;> rw [sizeMax, h] <;> decide

end Platform

theorem greatest_64 : Signed.greatest 64 = 2 ^ 63 - 1 := rfl

/-- What is not longer than a vector fits into 64 bits. -/
theorem fits_of_le {n : ℕ} (h : n ≤ platform.longMax) : Signed.Fits 64 n := by
  have hmax := platform.longMax_lt
  refine Signed.fits_of_nonneg ?_
  rw [greatest_64]
  omega

theorem cast_of_le {n : ℕ} (h : n ≤ platform.longMax) : Signed.cast 64 n = n :=
  Signed.cast_of_fits (by decide) (fits_of_le h)

theorem cast_long_of_le {n : ℕ} (h : n ≤ platform.longMax) : Signed.cast platform.bits n = n := by
  refine Signed.cast_of_fits platform.bits_pos (Signed.fits_of_nonneg ?_)
  have hpow : (0 : ℤ) < 2 ^ (platform.bits - 1) := pow_pos two_pos _
  have hmax : (platform.longMax : ℤ) = 2 ^ (platform.bits - 1) - 1 := by
    rw [Platform.longMax, Nat.cast_sub Nat.one_le_two_pow]
    push_cast
    rfl
  rw [Signed.greatest]
  omega

theorem fits_toInt (offset : Int64) : Signed.Fits 64 offset.toInt :=
  ⟨offset.le_toInt, Int.le_sub_one_of_lt offset.toInt_lt⟩

theorem toInt_eq_least {offset : Int64} : offset.toInt = Signed.least 64 ↔
    offset = Int64.minValue := by
  rw [← Int64.toInt_inj, Int64.toInt_minValue]
  rfl

/-! ### One call -/

section

variable {datasource : Datasource platform} {file : SeekFile UInt8}

theorem length_le_of_bytes {vector : ByteVector platform} (hbytes : vector.bytes = file.content) :
    file.content.length ≤ platform.longMax := by
  rw [← hbytes]
  exact vector.bounded

/-- The call is answered as the file answers it, and the stream is the file afterwards. -/
def Answers (datasource : Datasource platform) (file : SeekFile UInt8)
    (call : Call platform) : Prop :=
  ∃ datasource', serve datasource call = some ((fileStep file call).1, datasource') ∧
    Represents datasource' (fileStep file call).2

/-- The guard of the product. -/
theorem sizeMax_div_lt_iff {size : ℕ} (hsize : size ≠ 0) (count : ℕ) :
    platform.sizeMax / size < count ↔ ¬ size * count ≤ platform.sizeMax := by
  rw [Nat.div_lt_iff_lt_mul (Nat.pos_of_ne_zero hsize), Nat.mul_comm, Nat.not_le]

/-- **A read** returns the complete items that are left, and goes to the end of the last one. -/
theorem answers_read (call : ReadCall platform) (h : Represents datasource file) :
    Answers datasource file (.read call) := by
  obtain ⟨vector, rfl, hbytes⟩ := h
  rw [Answers, serve, vorbisMemoryRead]
  dsimp only
  by_cases hempty : call.size = 0 ∨ call.count = 0
  · -- nothing is asked for
    have hproduct : call.size * call.count = 0 := Nat.mul_eq_zero.2 hempty
    have hitems : file.items call.size call.count = 0 := by
      rw [SeekFile.items, hproduct, Nat.zero_min, Nat.zero_div]
    have hguard : call.size = 0 ∨ call.count = 0 ∨ platform.sizeMax / call.size < call.count := by
      tauto
    rw [if_pos hguard, fileStep, hproduct, if_pos (Nat.zero_le _), hitems,
      file.read_of_items_eq_zero hitems]
    exact ⟨_, rfl, vector, rfl, hbytes⟩
  obtain ⟨hsize, hcount⟩ := not_or.1 hempty
  by_cases hoverflow : call.size * call.count ≤ platform.sizeMax
  · have hguard : ¬ (call.size = 0 ∨ call.count = 0 ∨
        platform.sizeMax / call.size < call.count) := by
      rw [sizeMax_div_lt_iff hsize]
      tauto
    -- neither the product nor the new offset wraps around
    have hrequested : call.size * call.count % 2 ^ platform.bits = call.size * call.count :=
      Nat.mod_eq_of_lt (Nat.lt_of_le_of_lt hoverflow platform.sizeMax_lt)
    have havailable : (if file.position < vector.size then vector.size - file.position else 0) =
        file.remaining := by
      rw [ByteVector.size, hbytes, SeekFile.remaining]
      split <;> omega
    have hend : file.position + file.items call.size call.count * call.size < 2 ^ platform.bits :=
      Nat.lt_of_le_of_lt
        (Nat.le_trans (file.read call.size call.count).2.within (length_le_of_bytes hbytes))
        platform.longMax_lt_pow
    have hamount : file.items call.size call.count * call.size % 2 ^ platform.bits =
        file.items call.size call.count * call.size :=
      Nat.mod_eq_of_lt (Nat.lt_of_le_of_lt (Nat.le_add_left _ _) hend)
    rw [if_neg hguard, hrequested, havailable, ← SeekFile.items, hamount, fileStep,
      if_pos hoverflow]
    by_cases hnone : file.items call.size call.count = 0
    · rw [hnone, Nat.zero_mul, if_neg (Nat.lt_irrefl 0), file.read_of_items_eq_zero hnone]
      exact ⟨_, rfl, vector, rfl, hbytes⟩
    · rw [if_pos (Nat.mul_pos (Nat.pos_of_ne_zero hnone) (Nat.pos_of_ne_zero hsize)),
        Nat.mod_eq_of_lt hend, hbytes]
      exact ⟨_, rfl, vector, rfl, hbytes⟩
  · have hguard : call.size = 0 ∨ call.count = 0 ∨ platform.sizeMax / call.size < call.count :=
      .inr (.inr ((sizeMax_div_lt_iff hsize _).2 hoverflow))
    rw [if_pos hguard, fileStep, if_neg hoverflow]
    exact ⟨_, rfl, vector, rfl, hbytes⟩

/-- The guard tells whether the sum is outside, unless the offset has no negation. -/
theorem seekOutside_spec {size base offset : ℤ} (hsize : Signed.Fits 64 size)
    (hoffset : Signed.Fits 64 offset) (hbase : 0 ≤ base) (hle : base ≤ size) :
    seekOutside size base offset =
      if offset = Signed.least 64 then none
      else some (decide ¬ (0 ≤ base + offset ∧ base + offset ≤ size)) := by
  rw [seekOutside]
  by_cases hleast : offset = Signed.least 64
  · have hneg : offset < 0 := by rw [hleast]; decide
    rw [if_pos hneg, (Signed.neg_eq_none_iff hoffset).2 hleast, if_pos hleast]
    rfl
  rw [if_neg hleast]
  by_cases hneg : offset < 0
  · rw [if_pos hneg, Signed.neg_of_ne hoffset hleast]
    by_cases hbelow : base < -offset
    · simp [hbelow, show ¬ 0 ≤ base + offset by omega]
    · simp [hbelow, show ¬ 0 < offset by omega, show 0 ≤ base + offset by omega,
        show base + offset ≤ size by omega]
  · rw [if_neg hneg]
    by_cases hpos : 0 < offset
    · have hroom := Signed.sub_of_nonneg hsize hoffset (by omega) (by omega)
      by_cases habove : size - offset < base
      · simp [hpos, hroom, habove, show ¬ base + offset ≤ size by omega]
      · simp [hpos, hroom, habove, show 0 ≤ base + offset by omega,
          show base + offset ≤ size by omega]
    · simp [hpos, show 0 ≤ base + offset by omega, show base + offset ≤ size by omega]

theorem cast_size {vector : ByteVector platform} (hbytes : vector.bytes = file.content) :
    Signed.cast 64 vector.size = file.content.length := by
  rw [ByteVector.size, hbytes]
  exact cast_of_le (length_le_of_bytes hbytes)

/-- The guard, on a stream that is a file. -/
theorem seekOutside_file {vector : ByteVector platform} (hbytes : vector.bytes = file.content)
    (origin : SeekFile.Whence) (offset : Int64) :
    seekOutside file.content.length (file.origin origin) offset.toInt =
      if offset = Int64.minValue then none
      else some (decide ¬ (0 ≤ file.target origin offset.toInt ∧
        file.target origin offset.toInt ≤ file.content.length)) := by
  have hlength := fits_of_le (length_le_of_bytes hbytes)
  have horigin : (file.origin origin : ℤ) ≤ file.content.length :=
    Int.ofNat_le.2 (file.origin_le origin)
  rw [seekOutside_spec hlength (fits_toInt offset) (Int.natCast_nonneg _) horigin]
  by_cases hleast : offset = Int64.minValue
  · rw [if_pos (toInt_eq_least.2 hleast), if_pos hleast]
  · rw [if_neg (mt toInt_eq_least.1 hleast), if_neg hleast]
    rfl

/-- The sum that the guard lets through, and the offset that is stored. -/
theorem stored_target {file' : SeekFile UInt8} (hlength : file'.content.length ≤ platform.longMax)
    {base offset : ℤ} (hposition : (file'.position : ℤ) = base + offset) :
    Signed.add 64 base offset = some (file'.position : ℤ) ∧
      ((file'.position : ℤ) % 2 ^ platform.bits).toNat = file'.position := by
  have hle := Nat.le_trans file'.within hlength
  constructor
  · rw [Signed.add, ← hposition, Signed.exact_of_fits (fits_of_le hle)]
  · exact_mod_cast Nat.mod_eq_of_lt (Nat.lt_of_le_of_lt hle platform.longMax_lt_pow)

/-- What the offset is added to, on a stream that is a file. -/
theorem seekBase_spec {vector : ByteVector platform} (hbytes : vector.bytes = file.content)
    (whence : ℤ) :
    seekBase ⟨some vector, file.position⟩ vector whence =
      (whenceOf whence).map fun whence => (file.origin whence : ℤ) := by
  have hlength := length_le_of_bytes hbytes
  have hposition := cast_of_le (Nat.le_trans file.within hlength)
  rw [seekBase, whenceOf]
  split
  next h =>
    subst h
    exact congrArg some hposition
  split
  next h =>
    subst h
    exact congrArg some (cast_size hbytes)
  split <;> rfl

/-- **A seek** goes to a place of the file, unless it has the least offset. -/
theorem answers_seek (offset : Int64) (whence : ℤ) (h : Represents datasource file)
    (hleast : ¬ (Call.seek offset whence : Call platform).Least) :
    Answers datasource file (.seek offset whence) := by
  obtain ⟨vector, rfl, hbytes⟩ := h
  rw [Answers, serve, vorbisMemorySeek]
  dsimp only
  rw [seekBase_spec hbytes]
  cases hwhence : whenceOf whence with
  | none =>
      rw [fileStep, hwhence]
      exact ⟨_, rfl, vector, rfl, hbytes⟩
  | some origin =>
      have hnot : offset ≠ Int64.minValue := fun hoffset => hleast ⟨hoffset, by rw [hwhence]; rfl⟩
      rw [Option.map_some, cast_size hbytes]
      dsimp only
      rw [seekOutside_file hbytes, if_neg hnot, fileStep, hwhence]
      dsimp only [Option.bind_some]
      by_cases hin : 0 ≤ file.target origin offset.toInt ∧
          file.target origin offset.toInt ≤ file.content.length
      · obtain ⟨file', hseek, hcontent, hposition⟩ := SeekFile.seek_eq_some hin
        have hbytes' : vector.bytes = file'.content := hbytes.trans hcontent.symm
        obtain ⟨hsum, hword⟩ := stored_target (length_le_of_bytes hbytes') hposition
        have hwithin := file'.within
        rw [hcontent] at hwithin
        rw [hseek]
        refine ⟨some ⟨some vector, file'.position⟩, ?_, vector, rfl, hbytes'⟩
        simp [hin, hsum, hword, hwithin]
      · rw [SeekFile.seek_eq_none hin]
        refine ⟨_, ?_, vector, rfl, hbytes⟩
        simp [hin]

/-- A seek with the least offset has no result. -/
theorem serve_of_least {call : Call platform} (h : Represents datasource file)
    (hleast : call.Least) :
    serve datasource call = none := by
  obtain ⟨vector, rfl, hbytes⟩ := h
  cases call with
  | read call => exact hleast.elim
  | seek offset whence =>
      obtain ⟨hoffset, hwhence⟩ := hleast
      obtain ⟨origin, hwhence⟩ := Option.isSome_iff_exists.1 hwhence
      rw [serve, vorbisMemorySeek]
      dsimp only
      rw [seekBase_spec hbytes, hwhence, Option.map_some, cast_size hbytes]
      dsimp only
      rw [seekOutside_file hbytes, if_pos hoffset]
      rfl
  | tell => exact hleast.elim

/-- **One call**, on a stream that is a file. -/
theorem serve_spec (call : Call platform) (h : Represents datasource file) :
    (call.Least → serve datasource call = none) ∧
    (¬ call.Least → Answers datasource file call) := by
  refine ⟨serve_of_least h, ?_⟩
  intro hleast
  cases call with
  | read call => exact answers_read call h
  | seek offset whence => exact answers_seek offset whence h hleast
  | tell =>
      obtain ⟨vector, rfl, hbytes⟩ := h
      have hle : file.position ≤ platform.longMax :=
        Nat.le_trans file.within (length_le_of_bytes hbytes)
      rw [Answers, serve, vorbisMemoryTell]
      dsimp only
      rw [if_neg (Nat.not_lt.2 hle), cast_long_of_le hle]
      exact ⟨_, rfl, vector, rfl, hbytes⟩

end

/-! ### Whole runs -/

/-- The run is answered as the file answers it, and the stream is the file afterwards. -/
def AnswersAll (datasource : Datasource platform) (file : SeekFile UInt8)
    (calls : List (Call platform)) :
    Prop :=
  ∃ datasource', serveAll datasource calls = some ((fileRun file calls).1, datasource') ∧
    Represents datasource' (fileRun file calls).2

theorem represents_opened (vector : ByteVector platform) :
    Represents (opened vector) (SeekFile.opened vector.bytes) := ⟨vector, rfl, rfl⟩

theorem serveAll_cons {datasource next : Datasource platform} {call : Call platform}
    {answer : Answer}
    (h : serve datasource call = some (answer, next)) (calls : List (Call platform)) :
    serveAll datasource (call :: calls) =
      (serveAll next calls).map fun rest => (answer :: rest.1, rest.2) := by
  rw [serveAll, h, Option.bind_eq_bind, Option.bind_some]
  dsimp only
  cases serveAll next calls <;> rfl

/-- A run, from a stream that is a file. -/
theorem answersAll_iff {datasource : Datasource platform} {file : SeekFile UInt8}
    (h : Represents datasource file) (calls : List (Call platform)) :
    AnswersAll datasource file calls ↔ ∀ call ∈ calls, ¬ call.Least := by
  induction calls generalizing datasource file with
  | nil => exact iff_of_true ⟨datasource, rfl, h⟩ fun _ hmem => absurd hmem List.not_mem_nil
  | cons call calls ih =>
      obtain ⟨hundefined, hanswers⟩ := serve_spec call h
      rw [List.forall_mem_cons]
      by_cases hleast : call.Least
      · refine iff_of_false ?_ fun hall => hall.1 hleast
        rintro ⟨datasource', hserve, -⟩
        rw [serveAll, hundefined hleast] at hserve
        cases hserve
      · obtain ⟨next, hserve, hnext⟩ := hanswers hleast
        rw [← ih hnext]
        rw [AnswersAll, serveAll_cons hserve]
        constructor
        · rintro ⟨datasource', hrun, hafter⟩
          obtain ⟨⟨answers, last⟩, hrest, heq⟩ := Option.map_eq_some_iff.1 hrun
          obtain ⟨hanswers, rfl⟩ := Prod.mk.inj heq
          refine ⟨hleast, last, ?_, hafter⟩
          rw [hrest]
          exact congrArg (fun answers => some (answers, last)) (List.cons.inj hanswers).2
        · rintro ⟨-, datasource', hrun, hafter⟩
          refine ⟨datasource', ?_, hafter⟩
          rw [hrun]
          rfl

/-- **The callbacks answer as the file exactly if no seek has the least offset.** -/
theorem serveAll_refines_iff (vector : ByteVector platform) (calls : List (Call platform)) :
    AnswersAll (opened vector) (SeekFile.opened vector.bytes) calls ↔
      ∀ call ∈ calls, ¬ call.Least :=
  answersAll_iff (represents_opened vector) calls

/-- A seek with the least offset overflows. -/
theorem serveAll_not_refines :
    let vector : ByteVector ⟨32, .inl rfl⟩ := ⟨[0x4f], by decide⟩
    let calls : List (Call ⟨32, .inl rfl⟩) := [.seek Int64.minValue seekSet]
    serveAll (opened vector) calls = none ∧
      ¬ AnswersAll (opened vector) (SeekFile.opened vector.bytes) calls := by
  refine ⟨rfl, ?_⟩
  rintro ⟨datasource, hserve, -⟩
  cases hserve

end NesDeck.VorbisMemory
