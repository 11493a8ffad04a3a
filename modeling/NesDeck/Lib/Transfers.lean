/-
**Loops of transfers that stop at the first failure.**

`read` and `write` may be interrupted by a signal, move fewer bytes than they were asked to, or
fail. A program that wants all its bytes calls them in a loop. `HostFile.readLoop` models a loop
that fills a buffer and does not tell a failure from the end of the file; the loops of this module
report it.

Main definitions:

* `HostFile.readAll` — reading up to a number of bytes, or up to the end of the file;
* `HostFile.WriteOutcome`, `HostFile.accepted` — how the `write` calls end, and what they take;
* `HostFile.overwrite`, `HostFile.writeFile` — the loop of `write` calls on a file.

Main results:

* `HostFile.readAll_eq_take` — **what is read without a failure is what is there**;
* `HostFile.accepted_eq` — the calls take everything exactly if none of them fails;
* `HostFile.writeFile_eq` — the loop overwrites the file with the bytes the calls take.
-/

import NesDeck.Lib.HostFile

set_option relaxedAutoImplicit false
set_option autoImplicit false

namespace HostFile

/-! ### Reading -/

/-- The bytes a loop of `read` calls obtains when it asks for `remaining`, unless a call fails. -/
def readAll : List ReadOutcome → Bytes → ℕ → Option Bytes
  | _, _, 0 => some []
  | [], source, remaining + 1 => some (source.take (remaining + 1))
  | .interrupted :: script, source, remaining + 1 => readAll script source (remaining + 1)
  | .failed :: _, _, _ + 1 => none
  | .transferred limit :: script, source, remaining + 1 =>
      let got := source.take (min (limit + 1) (remaining + 1))
      if got = [] then some []
      else (readAll script (source.drop got.length) (remaining + 1 - got.length)).map (got ++ ·)

/-- **What is read without a failure is what is there.** -/
theorem readAll_eq_take (script : List ReadOutcome) (source : Bytes) (remaining : ℕ) :
    ∀ bytes ∈ readAll script source remaining, bytes = source.take remaining := by
  fun_induction readAll script source remaining with
  | case1 => simp
  | case2 => simp
  | case3 script source remaining ih => exact ih
  | case4 => simp
  | case5 limit script source remaining got hgot =>
      -- nothing arrives although something was asked for: the file is at its end
      simp [eq_nil_of_take_eq_nil hgot]
  | case6 limit script source remaining got hgot ih =>
      intro bytes hbytes
      obtain ⟨rest, hrest, rfl⟩ := Option.map_eq_some_iff.1 hbytes
      have hmin : min (limit + 1) (remaining + 1) ≤ remaining + 1 := Nat.min_le_right _ _
      rw [ih rest hrest, take_eq_append_of_le hmin source]

/-- Without a failing call the loop succeeds. -/
theorem readAll_of_notMem {script : List ReadOutcome} (h : ReadOutcome.failed ∉ script)
    (source : Bytes) (remaining : ℕ) :
    readAll script source remaining = some (source.take remaining) := by
  have hsome : (readAll script source remaining).isSome = true := by
    fun_induction readAll script source remaining with
    | case1 => rfl
    | case2 => rfl
    | case3 script source remaining ih => exact ih fun hmem => h (List.mem_cons_of_mem _ hmem)
    | case4 => exact absurd List.mem_cons_self h
    | case5 => rfl
    | case6 limit script source remaining got hgot ih =>
        rw [Option.isSome_map]
        exact ih fun hmem => h (List.mem_cons_of_mem _ hmem)
  obtain ⟨bytes, hbytes⟩ := Option.isSome_iff_exists.1 hsome
  rw [hbytes, readAll_eq_take script source remaining bytes hbytes]

/-! ### Writing -/

/-- The outcome of one `write` call. -/
inductive WriteOutcome where
  /-- Nothing was written because of a signal; the callers try again. -/
  | interrupted
  /-- The call failed for another reason, or wrote nothing; `errno` holds the number. -/
  | failed (errno : Errno)
  /-- At most `limit + 1` bytes are taken. -/
  | transferred (limit : ℕ)
  deriving DecidableEq

/-- The bytes that the calls take, and the error that stops the loop.  Calls after the last outcome
take what they are given. -/
def accepted : List WriteOutcome → Bytes → Bytes × Option Errno
  | _, [] => ([], none)
  | [], first :: rest => (first :: rest, none)
  | .interrupted :: script, first :: rest => accepted script (first :: rest)
  | .failed errno :: _, _ :: _ => ([], some errno)
  | .transferred limit :: script, first :: rest =>
      let more := accepted script (rest.drop limit)
      (first :: rest.take limit ++ more.1, more.2)

/-- The bytes of a file after a `write` call at an offset inside it. -/
def overwrite (content : Bytes) (offset : ℕ) (bytes : Bytes) : Bytes :=
  content.take offset ++ bytes ++ content.drop (offset + bytes.length)

/-- The loop of `write` calls on a file that is at `offset`. -/
def writeFile : List WriteOutcome → Bytes → ℕ → Bytes → Bytes × Option Errno
  | _, content, _, [] => (content, none)
  | [], content, offset, first :: rest => (overwrite content offset (first :: rest), none)
  | .interrupted :: script, content, offset, first :: rest =>
      writeFile script content offset (first :: rest)
  | .failed errno :: _, content, _, _ :: _ => (content, some errno)
  | .transferred limit :: script, content, offset, first :: rest =>
      writeFile script (overwrite content offset (first :: rest.take limit))
        (offset + (first :: rest.take limit).length) (rest.drop limit)

theorem overwrite_nil (content : Bytes) (offset : ℕ) : overwrite content offset [] = content := by
  simp [overwrite]

/-- An empty file holds what is written to it. -/
theorem overwrite_empty (bytes : Bytes) : overwrite [] 0 bytes = bytes := by
  simp [overwrite]

/-- Two writes one behind the other are one write. -/
theorem overwrite_append {content : Bytes} {offset : ℕ} (h : offset ≤ content.length)
    (first second : Bytes) :
    overwrite (overwrite content offset first) (offset + first.length) second =
      overwrite content offset (first ++ second) := by
  have hlength : (content.take offset ++ first).length = offset + first.length := by
    rw [List.length_append, List.length_take, Nat.min_eq_left h]
  have hdrop : (content.take offset ++ first ++ content.drop (offset + first.length)).drop
      (offset + first.length + second.length) =
        content.drop (offset + (first.length + second.length)) := by
    rw [List.drop_append, List.drop_of_length_le (by omega), List.nil_append,
      List.drop_drop, hlength]
    congr 1
    omega
  rw [overwrite, overwrite, overwrite, hdrop, List.take_left' hlength, List.length_append,
    List.append_assoc (content.take offset)]

/-- A write at the start changes nothing exactly if the bytes are there already. -/
theorem overwrite_zero_eq_self_iff {content bytes : Bytes} :
    overwrite content 0 bytes = content ↔ bytes <+: content := by
  rw [overwrite, List.take_zero, List.nil_append, Nat.zero_add]
  constructor
  · intro h
    exact ⟨content.drop bytes.length, h⟩
  · rintro ⟨rest, rfl⟩
    rw [List.drop_left]

/-- A write at the start replaces the file exactly if it covers it. -/
theorem overwrite_zero_eq_bytes_iff {content bytes : Bytes} :
    overwrite content 0 bytes = bytes ↔ content.length ≤ bytes.length := by
  rw [overwrite, List.take_zero, List.nil_append, Nat.zero_add, List.append_right_eq_self,
    List.drop_eq_nil_iff]

theorem length_overwrite {content : Bytes} {offset : ℕ} (h : offset ≤ content.length)
    (bytes : Bytes) : offset + bytes.length ≤ (overwrite content offset bytes).length := by
  simp only [overwrite, List.length_append, List.length_take, List.length_drop]
  omega

/-- **The loop overwrites the file with the bytes the calls take.** -/
theorem writeFile_eq (script : List WriteOutcome) {content : Bytes} {offset : ℕ}
    (h : offset ≤ content.length) (bytes : Bytes) :
    writeFile script content offset bytes =
      (overwrite content offset (accepted script bytes).1, (accepted script bytes).2) := by
  fun_induction writeFile script content offset bytes with
  | case1 => simp [accepted, overwrite_nil]
  | case2 => rw [accepted]
  | case3 content offset first rest script ih => rw [accepted, ih h]
  | case4 => rw [accepted, overwrite_nil]
  | case5 content offset first rest limit script ih =>
      rw [accepted, ih (length_overwrite h _), overwrite_append h]

/-- What the calls take is the beginning of what they are given, and all of it exactly if no call
fails. -/
theorem accepted_eq (script : List WriteOutcome) (bytes : Bytes) :
    (accepted script bytes).1 <+: bytes ∧
      ((accepted script bytes).2 = none ↔ (accepted script bytes).1 = bytes) := by
  fun_induction accepted script bytes with
  | case1 => exact ⟨List.prefix_refl _, iff_of_true rfl rfl⟩
  | case2 => exact ⟨List.prefix_refl _, iff_of_true rfl rfl⟩
  | case3 script first rest ih => exact ih
  | case4 => exact ⟨List.nil_prefix, by simp⟩
  | case5 limit script first rest more ih =>
      have hsplit : first :: rest = first :: rest.take limit ++ rest.drop limit := by
        rw [List.cons_append, List.take_append_drop]
      constructor
      · rw [hsplit]
        exact (List.prefix_append_right_inj _).2 ih.1
      · rw [ih.2]
        conv_rhs => rw [hsplit]
        exact List.append_cancel_left_eq _ _ _ |>.symm.to_iff

/-- Without a failing call everything is taken. -/
theorem accepted_of_notMem {script : List WriteOutcome}
    (h : ∀ errno, WriteOutcome.failed errno ∉ script)
    (bytes : Bytes) : (accepted script bytes).2 = none := by
  fun_induction accepted script bytes with
  | case1 => rfl
  | case2 => rfl
  | case3 script first rest ih => exact ih fun errno hmem => h errno (List.mem_cons_of_mem _ hmem)
  | case4 script errno first rest => exact absurd List.mem_cons_self (h _)
  | case5 limit script first rest more ih =>
      exact ih fun errno hmem => h errno (List.mem_cons_of_mem _ hmem)

end HostFile
