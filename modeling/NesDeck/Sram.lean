/-
**The legacy save format: escaped run lengths.**

`nes_sram.h` holds the coder of the save files that the first NES frontend wrote.  An encoded
image starts with a *tag*, the byte that is least frequent in the data.  Behind it a run of four
or more equal bytes, and every run of the tag itself, is written as the tag, the byte and the
length minus one; any other run is written as it stands.  Sizes are natural numbers: each is the
size of an object in memory, so that `size_t` does not wrap.

The decoder writes into its output buffer as it goes, also when it gives up later, and the buffer
is the memory of the running core.  It is therefore modelled with the buffer as a state, and
compared with `NesDeck.Sram.decoded`, which says which bytes it writes.

Main definitions:

* `NesDeck.Sram.nesSramEncode`, `NesDeck.Sram.nesSramDecode` — the coder;
* `NesDeck.Sram.encodeRun` — the code of one run;
* `NesDeck.Sram.decoded` — the bytes an encoded image expands to, up to the first fault.

Main results:

* `NesDeck.Sram.nesSramEncode_eq` — the encoder writes the tag and the codes of the runs, and the
  advertised capacity suffices;
* `NesDeck.Sram.nesSramDecode_eq` — the decoder stores `NesDeck.Sram.decoded` at the start of the
  buffer;
* `NesDeck.Sram.nesSram_roundTrip` — **decoding inverts encoding**.
-/

import NesDeck.Lib.Buffer
import NesDeck.Lib.RunLength

set_option relaxedAutoImplicit false
set_option autoImplicit false

namespace NesDeck.Sram

open RunLength (leading runs)

/-! ### The encoder -/

/-- A capacity that suffices for every input of the given size. -/
def nesSramMaximumEncodedSize (inputSize : ℕ) : ℕ := inputSize * 3 + 1

/-- The least frequent byte, the smallest one if there are several. -/
def leastFrequent (input : List UInt8) : UInt8 :=
  (List.range' 1 255).foldl
    (fun tag value => if input.count value.toUInt8 < input.count tag then value.toUInt8 else tag) 0

/-- The loop over the runs of the input; `output` holds the bytes written so far. -/
def encodeLoop (tag : UInt8) (outputCapacity : ℕ) : List UInt8 → List UInt8 → Option (List UInt8)
  | [], output => some output
  | value :: rest, output =>
      let runLength := 1 + leading value 255 rest
      if 4 ≤ runLength ∨ value = tag then
        if outputCapacity - output.length < 3 then none
        else encodeLoop tag outputCapacity (rest.drop (leading value 255 rest))
          (output ++ [tag, value, (runLength - 1).toUInt8])
      else if outputCapacity - output.length < runLength then none
      else encodeLoop tag outputCapacity (rest.drop (leading value 255 rest))
        (output ++ List.replicate runLength value)
termination_by input => input.length
decreasing_by all_goals simp only [List.length_drop, List.length_cons]; omega

/-- The encoder: the bytes it writes, or `none` where it returns `false`. -/
def nesSramEncode (input : List UInt8) (outputCapacity : ℕ) : Option (List UInt8) :=
  if input.length = 0 ∨ outputCapacity = 0 then none
  else encodeLoop (leastFrequent input) outputCapacity input [leastFrequent input]

/-! ### The decoder -/

/-- The decoding loop on the rest of the input, the output buffer and the output index. -/
def decodeLoop (tag : UInt8) : List UInt8 → List UInt8 → ℕ → Bool × List UInt8
  | [], output, outputIndex =>
      if outputIndex < output.length then (false, output) else (true, output)
  | value :: rest, output, outputIndex =>
      if outputIndex < output.length then
        if value ≠ tag then
          decodeLoop tag rest (output.set outputIndex value) (outputIndex + 1)
        else
          match rest with
          | repeatedValue :: count :: rest =>
              let runLength := count.toNat + 1
              if output.length - outputIndex < runLength then (false, output)
              else decodeLoop tag rest
                (Buffer.store output outputIndex (List.replicate runLength repeatedValue))
                (outputIndex + runLength)
          | _ => (false, output)
      else (true, output)

/-- The decoder: whether it succeeds, and what the output buffer holds afterwards. -/
def nesSramDecode (input output : List UInt8) : Bool × List UInt8 :=
  match input with
  | [] => (false, output)
  | tag :: rest =>
      if output.length = 0 then (false, output) else decodeLoop tag rest output 0

/-! ### What the encoder writes -/

/-- The code of a run. -/
def encodeRun (tag : UInt8) (run : UInt8 × ℕ) : List UInt8 :=
  if 4 ≤ run.2 ∨ run.1 = tag then [tag, run.1, (run.2 - 1).toUInt8]
  else List.replicate run.2 run.1

theorem length_encodeRun_le (tag : UInt8) {run : UInt8 × ℕ} (h : 0 < run.2) :
    (encodeRun tag run).length ≤ 3 * run.2 := by
  unfold encodeRun
  split
  · simp only [List.length_cons, List.length_nil]; omega
  · simp only [List.length_replicate]; omega

/-- The code of a list of runs is at most three times as long as what they expand to. -/
theorem length_flatMap_encodeRun_le (tag : UInt8) (rs : List (UInt8 × ℕ))
    (h : ∀ r ∈ rs, 0 < r.2) :
    (rs.flatMap (encodeRun tag)).length ≤
      3 * (rs.flatMap fun r => List.replicate r.2 r.1).length := by
  induction rs with
  | nil => simp
  | cons r rs ih =>
      have hr := length_encodeRun_le tag (h r (List.mem_cons_self ..))
      have hrs := ih fun s hs => h s (List.mem_cons_of_mem _ hs)
      simp only [List.flatMap_cons, List.length_append, List.length_replicate]
      omega

/-- With enough capacity the loop appends the codes of the runs. -/
theorem encodeLoop_eq (tag : UInt8) (outputCapacity : ℕ) (input output : List UInt8)
    (h : output.length + ((runs 256 input).flatMap (encodeRun tag)).length ≤ outputCapacity) :
    encodeLoop tag outputCapacity input output =
      some (output ++ (runs 256 input).flatMap (encodeRun tag)) := by
  fun_induction runs 256 input generalizing output with
  | case1 => simp [encodeLoop]
  | case2 value rest ih =>
      rw [List.flatMap_cons] at h ⊢
      simp only [List.length_append] at h
      rw [encodeLoop]
      by_cases hrun : 4 ≤ 1 + leading value 255 rest ∨ value = tag
      · have hcode : encodeRun tag (value, 1 + leading value (256 - 1) rest)
            = [tag, value, (1 + leading value 255 rest - 1).toUInt8] := by
          simp [encodeRun, hrun]
        rw [hcode] at h ⊢
        simp only [List.length_cons, List.length_nil] at h
        rw [if_pos hrun, if_neg (by omega), ih, List.append_assoc]
        simp only [List.length_append, List.length_cons, List.length_nil]
        omega
      · have hcode : encodeRun tag (value, 1 + leading value (256 - 1) rest)
            = List.replicate (1 + leading value 255 rest) value := by
          simp [encodeRun, hrun]
        rw [hcode] at h ⊢
        simp only [List.length_replicate] at h
        rw [if_neg hrun, if_neg (by omega), ih, List.append_assoc]
        simp only [List.length_append, List.length_replicate]
        omega

/-- The encoded image: the tag and the codes of the runs. -/
def encoded (input : List UInt8) : List UInt8 :=
  leastFrequent input :: (runs 256 input).flatMap (encodeRun (leastFrequent input))

theorem length_encoded_le (input : List UInt8) :
    (encoded input).length ≤ nesSramMaximumEncodedSize input.length := by
  have h := length_flatMap_encodeRun_le (leastFrequent input) (runs 256 input)
    fun r hr => (RunLength.mem_runs (by omega) hr).1
  rw [RunLength.flatMap_runs] at h
  simp only [encoded, List.length_cons, nesSramMaximumEncodedSize]
  omega

/-- The encoder succeeds with the advertised capacity. -/
theorem nesSramEncode_eq {input : List UInt8} (h : input ≠ []) :
    nesSramEncode input (nesSramMaximumEncodedSize input.length) = some (encoded input) := by
  have hlen : input.length ≠ 0 := by simpa using h
  have hcap := length_encoded_le input
  simp only [encoded, List.length_cons] at hcap
  rw [nesSramEncode, if_neg (by simp [hlen, nesSramMaximumEncodedSize]), encodeLoop_eq]
  · rfl
  · simp only [List.length_cons, List.length_nil]
    omega

/-- A byte that does not occur in the data is not beaten as the tag. -/
theorem leastFrequent_of_zero_notMem {input : List UInt8} (h : 0 ∉ input) :
    leastFrequent input = 0 := by
  have hcount : input.count 0 = 0 := List.count_eq_zero.2 h
  unfold leastFrequent
  induction List.range' 1 255 with
  | nil => rfl
  | cons value values ih =>
      rw [List.foldl_cons, hcount, if_neg (Nat.not_lt_zero _)]
      exact ih

/-- A constant image takes four bytes. -/
theorem encoded_replicate {value : UInt8} (hvalue : value ≠ 0) {n : ℕ} (hn : 4 ≤ n)
    (hn' : n ≤ 256) :
    encoded (List.replicate n value) = [0, 0, value, (n - 1).toUInt8] := by
  have htag : leastFrequent (List.replicate n value) = 0 :=
    leastFrequent_of_zero_notMem fun h => hvalue (List.eq_of_mem_replicate h).symm
  rw [encoded, htag, RunLength.runs_replicate value (by omega) hn']
  simp [encodeRun, hn]

/-! ### What the decoder writes -/

/-- The bytes the input expands to in a room of `n` bytes, up to the first fault, and whether
there is none. -/
def decoded (tag : UInt8) : List UInt8 → ℕ → List UInt8 × Bool
  | _, 0 => ([], true)
  | [], _ + 1 => ([], false)
  | value :: rest, n + 1 =>
      if value ≠ tag then ((value :: (decoded tag rest n).1), (decoded tag rest n).2)
      else
        match rest with
        | repeatedValue :: count :: rest =>
            if n < count.toNat then ([], false)
            else (List.replicate (count.toNat + 1) repeatedValue ++
              (decoded tag rest (n - count.toNat)).1, (decoded tag rest (n - count.toNat)).2)
        | _ => ([], false)

@[simp] theorem decoded_zero (tag : UInt8) (input : List UInt8) :
    decoded tag input 0 = ([], true) := by
  cases input <;> rfl

@[simp] theorem decoded_nil (tag : UInt8) (n : ℕ) : decoded tag [] (n + 1) = ([], false) := rfl

/-- A literal byte. -/
theorem decoded_of_ne {tag value : UInt8} (h : value ≠ tag) (rest : List UInt8) (n : ℕ) :
    decoded tag (value :: rest) (n + 1) =
      (value :: (decoded tag rest n).1, (decoded tag rest n).2) := by
  rw [decoded.eq_def]
  simp only [if_pos h]

/-- A run that fits. -/
theorem decoded_run (tag repeatedValue : UInt8) {count : UInt8} (rest : List UInt8) {n : ℕ}
    (h : count.toNat ≤ n) :
    decoded tag (tag :: repeatedValue :: count :: rest) (n + 1) =
      (List.replicate (count.toNat + 1) repeatedValue ++ (decoded tag rest (n - count.toNat)).1,
        (decoded tag rest (n - count.toNat)).2) := by
  rw [decoded.eq_def]
  simp only [ne_eq, not_true_eq_false, if_false, if_neg (Nat.not_lt.2 h)]

/-- A run that is longer than the room. -/
theorem decoded_run_of_lt (tag repeatedValue : UInt8) {count : UInt8} (rest : List UInt8) {n : ℕ}
    (h : n < count.toNat) :
    decoded tag (tag :: repeatedValue :: count :: rest) (n + 1) = ([], false) := by
  rw [decoded.eq_def]
  simp only [ne_eq, not_true_eq_false, if_false, if_pos h]

/-- A run that is cut off. -/
theorem decoded_run_of_length_lt (tag : UInt8) {rest : List UInt8} (n : ℕ)
    (h : rest.length < 2) : decoded tag (tag :: rest) (n + 1) = ([], false) := by
  match rest with
  | [] => simp [decoded]
  | [_] => simp [decoded]
  | _ :: _ :: rest =>
      simp only [List.length_cons] at h
      omega

/-- The decoder succeeds exactly when it fills the room. -/
theorem decoded_length (tag : UInt8) (input : List UInt8) (n : ℕ) :
    (decoded tag input n).1.length ≤ n ∧
      ((decoded tag input n).2 = true ↔ (decoded tag input n).1.length = n) := by
  fun_induction decoded tag input n with
  | case1 => simp
  | case2 => simp
  | case3 value rest n hvalue ih =>
      simp only [List.length_cons, ih.2]
      omega
  | case4 => simp
  | case5 _ n _ repeatedValue count rest hroom ih =>
      simp only [List.length_append, List.length_replicate, ih.2]
      omega
  | case6 => simp

/-- The loop stores the decoded bytes behind the ones that are there. -/
theorem decodeLoop_eq (tag : UInt8) (input output : List UInt8) (outputIndex : ℕ)
    (h : outputIndex ≤ output.length) :
    decodeLoop tag input output outputIndex =
      ((decoded tag input (output.length - outputIndex)).2,
        Buffer.store output outputIndex (decoded tag input (output.length - outputIndex)).1) := by
  fun_induction decodeLoop tag input output outputIndex with
  | case1 output outputIndex hlt =>
      obtain ⟨n, hn⟩ : ∃ n, output.length - outputIndex = n + 1 :=
        ⟨output.length - outputIndex - 1, by omega⟩
      simp [hn]
  | case2 output outputIndex hge =>
      have hn : output.length - outputIndex = 0 := by omega
      simp [hn]
  | case3 value rest output outputIndex hlt hvalue ih =>
      obtain ⟨n, hn⟩ : ∃ n, output.length - outputIndex = n + 1 :=
        ⟨output.length - outputIndex - 1, by omega⟩
      have hn' : (output.set outputIndex value).length - (outputIndex + 1) = n := by
        rw [List.length_set]; omega
      rw [ih (by rw [List.length_set]; omega), hn', hn, decoded_of_ne hvalue, Buffer.store_cons]
  | case4 value output outputIndex hlt hvalue repeatedValue count rest runLength hroom =>
      obtain ⟨n, hn⟩ : ∃ n, output.length - outputIndex = n + 1 :=
        ⟨output.length - outputIndex - 1, by omega⟩
      rw [not_ne_iff] at hvalue
      rw [hvalue, hn, decoded_run_of_lt tag repeatedValue rest (by omega), Buffer.store_nil]
  | case5 value output outputIndex hlt hvalue repeatedValue count rest runLength hroom ih =>
      obtain ⟨n, hn⟩ : ∃ n, output.length - outputIndex = n + 1 :=
        ⟨output.length - outputIndex - 1, by omega⟩
      have hn' : (Buffer.store output outputIndex
          (List.replicate runLength repeatedValue)).length - (outputIndex + runLength)
          = n - count.toNat := by
        rw [Buffer.length_store]; omega
      rw [not_ne_iff] at hvalue
      rw [ih (by rw [Buffer.length_store]; omega), hn', hvalue, hn,
        decoded_run tag repeatedValue rest (by omega), Buffer.store_append, List.length_replicate]
  | case6 value rest output outputIndex hlt hvalue hrest =>
      obtain ⟨n, hn⟩ : ∃ n, output.length - outputIndex = n + 1 :=
        ⟨output.length - outputIndex - 1, by omega⟩
      have hshort : rest.length < 2 := by
        match rest, hrest with
        | [], _ => simp
        | [_], _ => simp
        | a :: b :: l, hrest => exact absurd rfl (hrest a b l)
      rw [not_ne_iff] at hvalue
      rw [hvalue, hn, decoded_run_of_length_lt tag n hshort, Buffer.store_nil]
  | case7 value rest output outputIndex hge =>
      have hn : output.length - outputIndex = 0 := by omega
      simp [hn]

/-- The decoder stores the decoded bytes at the start of the buffer. -/
theorem nesSramDecode_eq (tag : UInt8) (rest : List UInt8) {output : List UInt8}
    (h : output ≠ []) :
    nesSramDecode (tag :: rest) output =
      ((decoded tag rest output.length).2,
        Buffer.store output 0 (decoded tag rest output.length).1) := by
  have hlen : output.length ≠ 0 := by simpa using h
  rw [nesSramDecode, if_neg hlen, decodeLoop_eq tag rest output 0 (Nat.zero_le _), Nat.sub_zero]

/-! ### The round trip -/

/-- Bytes other than the tag decode to themselves. -/
theorem decoded_replicate_append {tag value : UInt8} (h : value ≠ tag) (k : ℕ)
    (rest : List UInt8) (n : ℕ) :
    decoded tag (List.replicate k value ++ rest) (k + n) =
      (List.replicate k value ++ (decoded tag rest n).1, (decoded tag rest n).2) := by
  induction k with
  | zero => simp
  | succ k ih =>
      have hroom : k + 1 + n = k + n + 1 := by omega
      rw [List.replicate_succ, List.cons_append, hroom, decoded_of_ne h, ih, List.cons_append]

/-- The code of a run decodes to the run. -/
theorem decoded_encodeRun_append (tag : UInt8) {run : UInt8 × ℕ} (h : 0 < run.2)
    (h' : run.2 ≤ 256) (rest : List UInt8) (n : ℕ) :
    decoded tag (encodeRun tag run ++ rest) (run.2 + n) =
      (List.replicate run.2 run.1 ++ (decoded tag rest n).1, (decoded tag rest n).2) := by
  unfold encodeRun
  split
  · -- the length minus one fits a byte, since no run is longer than 256
    have hcount : (run.2 - 1).toUInt8.toNat = run.2 - 1 := by
      rw [Nat.toUInt8_eq, UInt8.toNat_ofNat']
      omega
    have hn : run.2 + n = run.2 - 1 + n + 1 := by omega
    have hn' : run.2 - 1 + n - (run.2 - 1) = n := by omega
    have hrun : run.2 - 1 + 1 = run.2 := by omega
    rw [hn, List.cons_append, List.cons_append, List.cons_append, List.nil_append,
      decoded_run tag run.1 rest (by omega), hcount, hn', hrun]
  · rename_i hrun
    exact decoded_replicate_append (fun heq => hrun (Or.inr heq)) run.2 rest n

/-- The codes of runs decode to what the runs expand to. -/
theorem decoded_flatMap_encodeRun (tag : UInt8) (rs : List (UInt8 × ℕ))
    (h : ∀ r ∈ rs, 0 < r.2 ∧ r.2 ≤ 256) :
    decoded tag (rs.flatMap (encodeRun tag)) (rs.flatMap fun r => List.replicate r.2 r.1).length =
      (rs.flatMap fun r => List.replicate r.2 r.1, true) := by
  induction rs with
  | nil => simp
  | cons r rs ih =>
      have hr := h r (List.mem_cons_self ..)
      have hrs := ih fun s hs => h s (List.mem_cons_of_mem _ hs)
      simp only [List.flatMap_cons, List.length_append, List.length_replicate]
      rw [decoded_encodeRun_append tag hr.1 hr.2, hrs]

/-- An encoded image decodes to the image, whatever the buffer held. -/
theorem nesSramDecode_encoded {input output : List UInt8} (h : input ≠ [])
    (hlen : output.length = input.length) :
    nesSramDecode (encoded input) output = (true, input) := by
  have houtput : output ≠ [] := by
    rintro rfl
    exact h (List.length_eq_zero_iff.1 hlen.symm)
  have hdec := decoded_flatMap_encodeRun (leastFrequent input) (runs 256 input)
    fun r hr => RunLength.mem_runs (by omega) hr
  rw [RunLength.flatMap_runs] at hdec
  rw [encoded, nesSramDecode_eq _ _ houtput, hlen, hdec,
    Buffer.store_zero_of_length_eq hlen.symm]

/-- **Decoding inverts encoding**: for every non-empty image the encoder succeeds within the
advertised capacity, and the decoder restores the image in a buffer of its size. -/
theorem nesSram_roundTrip (x : List UInt8) (hx : x ≠ []) :
    ∃ written, nesSramEncode x (nesSramMaximumEncodedSize x.length) = some written ∧
      written.length ≤ nesSramMaximumEncodedSize x.length ∧
      ∀ output : List UInt8, output.length = x.length →
        nesSramDecode written output = (true, x) :=
  ⟨encoded x, nesSramEncode_eq hx, length_encoded_le x, fun _ h => nesSramDecode_encoded hx h⟩

/-- An image with a long run, a short run and a single byte. -/
theorem nesSram_roundTrip_sample :
    ∃ written, nesSramEncode [7, 7, 7, 7, 0, 0, 1] (nesSramMaximumEncodedSize 7) = some written ∧
      written.length ≤ nesSramMaximumEncodedSize 7 ∧
      ∀ output : List UInt8, output.length = 7 →
        nesSramDecode written output = (true, [7, 7, 7, 7, 0, 0, 1]) :=
  nesSram_roundTrip [7, 7, 7, 7, 0, 0, 1] (by decide)

end NesDeck.Sram
