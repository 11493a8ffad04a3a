/-
**Files as a program meets them.**

A program that opens a path sees the outcomes of a few calls: `stat`, `open`, a sequence of
`read` calls that may be interrupted, short or failing, and the bytes an input stream delivers
before it stops.  `HostFile.File` collects them, so that a function that reads a file is a pure
function of one such value, and "for every point at which reading fails" is a quantifier.

Main definitions:

* `HostFile.File` — what a path leads to and how the calls on it end;
* `HostFile.File.readable` — a regular file on which every call succeeds;
* `HostFile.delivered` — the bytes a loop of `read` calls obtains;
* `HostFile.readLoop` — the loop, storing into a buffer.

Main results:

* `HostFile.readLoop_eq` — the loop stores the delivered bytes and counts the missing ones;
* `HostFile.delivered_prefix_take` — what is delivered is a prefix of what was asked for;
* `HostFile.delivered_eq_take` — without a failing call everything asked for is delivered.
-/

import NesDeck.Lib.Buffer

set_option relaxedAutoImplicit false
set_option autoImplicit false

namespace HostFile

/-- The text of a program, as its bytes. -/
abbrev Bytes := List UInt8

/-- The equality test of texts, named so that every membership test uses the same instance. -/
instance : LawfulBEq Bytes := inferInstance

/-- The bytes of a literal. -/
def ascii (s : String) : Bytes := s.toUTF8.data.toList

/-! ### All bytes -/

/-- A statement about all bytes is one about 256 numbers. -/
theorem forall_byte {P : UInt8 → Prop} (h : ∀ n < 256, P (UInt8.ofNat n)) (byte : UInt8) :
    P byte := by
  have := h byte.toNat byte.toNat_lt
  rwa [UInt8.ofNat_toNat] at this

/-- A statement about all ASCII bytes is one about 128 numbers. -/
theorem forall_ascii {P : UInt8 → Prop} (h : ∀ n < 128, P (UInt8.ofNat n)) (byte : UInt8)
    (hbyte : byte < 0x80) : P byte := by
  have := h byte.toNat (UInt8.lt_iff_toNat_lt.1 hbyte)
  rwa [UInt8.ofNat_toNat] at this

/-! ### The outcomes of the calls -/

/-- The number a failing call leaves in `errno`. -/
structure Errno where
  code : ℕ
  deriving DecidableEq

/-- No such file or directory. -/
def Errno.enoent : Errno := ⟨2⟩

/-- The outcome of one `read` call. -/
inductive ReadOutcome where
  /-- Nothing was read because of a signal; the callers try again. -/
  | interrupted
  /-- The call failed for another reason. -/
  | failed
  /-- At most `limit + 1` bytes arrive, none at the end of the file. -/
  | transferred (limit : ℕ)
  deriving DecidableEq

/-- What a path leads to, and how the calls on it end. -/
structure File where
  /-- The error of `stat` and `fstat`, if they fail. -/
  statError : Option Errno
  /-- The error of `open`, if it fails. -/
  openError : Option Errno
  /-- Whether the file is a regular one. -/
  isRegular : Bool
  content : Bytes
  /-- The outcomes of the successive `read` calls; later ones deliver what they are asked for. -/
  reads : List ReadOutcome
  /-- The number of bytes after which an input stream on the file stops. -/
  streamed : ℕ
  /-- Whether the stream reports a loss of integrity. -/
  streamBad : Bool

namespace File

/-- The size that `stat` reports. -/
def size (file : File) : ℕ := file.content.length

/-- A regular file on which every call succeeds. -/
structure readable (file : File) : Prop where
  stat : file.statError = none
  opens : file.openError = none
  regular : file.isRegular = true
  reads : ReadOutcome.failed ∉ file.reads
  stream : file.size ≤ file.streamed
  good : file.streamBad = false

/-- A regular file with the given content, on which every call succeeds. -/
def ofContent (content : Bytes) : File where
  statError := none
  openError := none
  isRegular := true
  content := content
  reads := []
  streamed := content.length
  streamBad := false

theorem readable_ofContent (content : Bytes) : (ofContent content).readable where
  stat := rfl
  opens := rfl
  regular := rfl
  reads := List.not_mem_nil
  stream := Nat.le_refl _
  good := rfl

/-- `std::ifstream::read` of `amount` bytes: what arrives, and whether that is all of it. -/
def streamRead (file : File) (amount : ℕ) : Option Bytes :=
  let got := if file.openError.isSome then [] else (file.content.take file.streamed).take amount
  if got.length = amount ∧ file.streamBad = false then some got else none

theorem streamRead_of_readable {file : File} (h : file.readable) :
    file.streamRead file.size = some file.content := by
  have htake : (file.content.take file.streamed).take file.size = file.content := by
    rw [List.take_of_length_le h.stream]
    exact List.take_length
  have hopen : file.openError.isSome = false := by rw [h.opens]; rfl
  simp only [streamRead, hopen, Bool.false_eq_true, if_false, htake]
  exact if_pos ⟨rfl, h.good⟩

end File

/-! ### The loop of `read` calls -/

/-- The bytes that the loop obtains from the rest of the file when it asks for `remaining`. -/
def delivered : List ReadOutcome → Bytes → ℕ → Bytes
  | _, _, 0 => []
  | [], source, remaining + 1 => source.take (remaining + 1)
  | .interrupted :: script, source, remaining + 1 => delivered script source (remaining + 1)
  | .failed :: _, _, _ + 1 => []
  | .transferred limit :: script, source, remaining + 1 =>
      let got := source.take (min (limit + 1) (remaining + 1))
      if got = [] then []
      else got ++ delivered script (source.drop got.length) (remaining + 1 - got.length)

@[simp] theorem delivered_zero (script : List ReadOutcome) (source : Bytes) :
    delivered script source 0 = [] := by
  rw [delivered.eq_def]

/-- The loop itself: `buffer` is filled from `offset` on, and the number of bytes still missing
is returned with it. -/
def readLoop : List ReadOutcome → Bytes → Bytes → ℕ → ℕ → Bytes × ℕ
  | _, _, buffer, _, 0 => (buffer, 0)
  | [], source, buffer, offset, remaining + 1 =>
      let got := source.take (remaining + 1)
      (Buffer.store buffer offset got, remaining + 1 - got.length)
  | .interrupted :: script, source, buffer, offset, remaining + 1 =>
      readLoop script source buffer offset (remaining + 1)
  | .failed :: _, _, buffer, _, remaining + 1 => (buffer, remaining + 1)
  | .transferred limit :: script, source, buffer, offset, remaining + 1 =>
      let got := source.take (min (limit + 1) (remaining + 1))
      if got = [] then (buffer, remaining + 1)
      else readLoop script (source.drop got.length) (Buffer.store buffer offset got)
        (offset + got.length) (remaining + 1 - got.length)

/-- A short read splits what is asked for. -/
theorem take_eq_append_of_le {k n : ℕ} (h : k ≤ n) (source : Bytes) :
    source.take n =
      source.take k ++ (source.drop (source.take k).length).take (n - (source.take k).length) := by
  rcases Nat.le_total k source.length with hk | hk
  · have hlen : (source.take k).length = k := by rw [List.length_take]; omega
    have hn : n = k + (n - k) := by omega
    rw [hlen, ← List.take_add, ← hn]
  · have htake : source.take k = source := List.take_of_length_le hk
    rw [htake, List.drop_length, List.take_nil, List.append_nil,
      List.take_of_length_le (by omega)]

/-- Nothing is taken from a source only if nothing is there. -/
theorem eq_nil_of_take_eq_nil {limit remaining : ℕ} {source : Bytes}
    (h : source.take (min (limit + 1) (remaining + 1)) = []) : source = [] := by
  rcases List.take_eq_nil_iff.1 h with hzero | hnil
  · omega
  · exact hnil

/-- What is delivered is a prefix of what was asked for. -/
theorem delivered_prefix_take (script : List ReadOutcome) (source : Bytes) (remaining : ℕ) :
    delivered script source remaining <+: source.take remaining := by
  fun_induction delivered script source remaining with
  | case1 => simp
  | case2 => exact List.prefix_refl _
  | case3 script source remaining ih => exact ih
  | case4 => exact List.nil_prefix
  | case5 => exact List.nil_prefix
  | case6 limit script source remaining got hgot ih =>
      have hmin : min (limit + 1) (remaining + 1) ≤ remaining + 1 := Nat.min_le_right _ _
      rw [take_eq_append_of_le hmin source]
      exact (List.prefix_append_right_inj got).2 ih

theorem length_delivered_le (script : List ReadOutcome) (source : Bytes) (remaining : ℕ) :
    (delivered script source remaining).length ≤ remaining := by
  have h := (delivered_prefix_take script source remaining).length_le
  rw [List.length_take] at h
  omega

/-- Without a failing call everything that is asked for and there is delivered. -/
theorem delivered_eq_take {script : List ReadOutcome} (h : ReadOutcome.failed ∉ script)
    (source : Bytes) (remaining : ℕ) :
    delivered script source remaining = source.take remaining := by
  fun_induction delivered script source remaining with
  | case1 => simp
  | case2 => rfl
  | case3 script source remaining ih => exact ih fun hmem => h (List.mem_cons_of_mem _ hmem)
  | case4 => exact absurd (List.mem_cons_self ..) h
  | case5 limit script source remaining got hgot =>
      -- nothing arrives although something was asked for: the file is at its end
      simp [eq_nil_of_take_eq_nil hgot]
  | case6 limit script source remaining got hgot ih =>
      have hmin : min (limit + 1) (remaining + 1) ≤ remaining + 1 := Nat.min_le_right _ _
      rw [ih fun hmem => h (List.mem_cons_of_mem _ hmem), take_eq_append_of_le hmin source]

/-- The loop stores what is delivered and counts what is missing. -/
theorem readLoop_eq (script : List ReadOutcome) (source buffer : Bytes) (offset remaining : ℕ) :
    readLoop script source buffer offset remaining =
      (Buffer.store buffer offset (delivered script source remaining),
        remaining - (delivered script source remaining).length) := by
  fun_induction readLoop script source buffer offset remaining with
  | case1 => simp
  | case2 source buffer offset remaining got => rfl
  | case3 script source buffer offset remaining ih => rw [ih, delivered]
  | case4 => rfl
  | case5 limit script source buffer offset remaining got hgot =>
      rw [delivered, if_pos hgot]
      rfl
  | case6 limit script source buffer offset remaining got hgot ih =>
      rw [ih, delivered, if_neg hgot, Buffer.store_append, List.length_append, Nat.sub_sub]

end HostFile
