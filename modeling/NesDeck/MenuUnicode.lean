/-
**The Unicode of the menu.**

`valid_utf8_text` accepts a title byte by byte, with masks and shifts, and `display_ascii` goes over
it with a decoder of its own that checks nothing.  What they are about are sequences of Unicode
scalar values and their UTF-8 encoding: a character has exactly one encoding that the menu accepts,
the text is shown with one character for each of them, and both decoders find the same sequences.

Main definitions:

* `NesDeck.MenuText.encode` — the encoding of a sequence of scalar values;
* `NesDeck.MenuText.IsPlain` — a character that is no control character of ASCII;
* `NesDeck.MenuText.shownAs` — the byte with which a character is shown.

Main results:

* `NesDeck.MenuText.utf8EncodeChar_spec`, `NesDeck.MenuText.exists_utf8EncodeChar` — **one sequence
  of bytes** and the character that it encodes;
* `NesDeck.MenuText.validUtf8Loop_iff` — the loop over the sequences;
* `NesDeck.MenuText.displayAscii_encode` — the reduced text, character by character;
* `NesDeck.MenuText.validUtf8Text_iff` — **the accepted texts, and how they are shown**.
-/

import NesDeck.MenuText

set_option relaxedAutoImplicit false
set_option autoImplicit false

namespace NesDeck.MenuText

open HostFile (Bytes)

/-! ### Characters -/

/-- The encoding of a sequence of scalar values. -/
def encode (characters : List Char) : Bytes := characters.flatMap String.utf8EncodeChar

/-- A character that is no control character of ASCII. -/
def IsPlain (character : Char) : Prop := 0x20 ≤ character.toNat ∧ character.toNat ≠ 0x7f

/-- ASCII is shown as it is, and anything else as a question mark. -/
def shownAs (character : Char) : UInt8 :=
  if character.toNat < 0x80 then .ofNat character.toNat else 0x3f

/-! ### Bytes -/

theorem leadingByte_ofNat : ∀ n < 256, leadingByte (.ofNat n) =
    if n < 0x80 then some (n, 1) else if n < 0xc0 then none
    else if n < 0xe0 then some (n - 0xc0, 2) else if n < 0xf0 then some (n - 0xe0, 3)
    else if n < 0xf8 then some (n - 0xf0, 4) else none := by
  decide +kernel

/-- **The leading bytes** of the four lengths. -/
theorem leadingByte_iff {first : UInt8} {payload length : ℕ} :
    leadingByte first = some (payload, length) ↔
      length = 1 ∧ first.toNat = payload ∧ payload < 0x80 ∨
        length = 2 ∧ first.toNat = 0xc0 + payload ∧ payload < 0x20 ∨
          length = 3 ∧ first.toNat = 0xe0 + payload ∧ payload < 0x10 ∨
            length = 4 ∧ first.toNat = 0xf0 + payload ∧ payload < 0x08 := by
  have hfirst := leadingByte_ofNat first.toNat first.toNat_lt
  have hlt := first.toNat_lt
  rw [UInt8.ofNat_toNat] at hfirst
  rw [hfirst]
  split_ifs <;> simp only [Option.some.injEq, Prod.mk.injEq, false_iff] <;> omega

/-- A continuation byte and its payload. -/
theorem continuation_ofNat : ∀ n < 256, (UInt8.ofNat n &&& 0xc0 = 0x80 ↔ 0x80 ≤ n ∧ n < 0xc0) ∧
    (UInt8.ofNat n &&& 0x3f).toNat = n % 64 := by
  decide +kernel

theorem continuationBytes_cons_iff {next : UInt8} {rest : Bytes} {codepoint result : ℕ} :
    continuationBytes (next :: rest) codepoint = some result ↔
      ∃ low < 64, next.toNat = 0x80 + low ∧
        continuationBytes rest (codepoint * 64 + low) = some result := by
  obtain ⟨hmark, hlow⟩ := continuation_ofNat next.toNat next.toNat_lt
  rw [UInt8.ofNat_toNat] at hmark hlow
  rw [continuationBytes, hlow]
  constructor
  · intro h
    split at h
    · cases h
    · rename_i hnext
      have hrange := hmark.1 (not_not.1 hnext)
      refine ⟨next.toNat - 0x80, by omega, by omega, ?_⟩
      have heq : next.toNat % 64 = next.toNat - 0x80 := by omega
      rwa [heq] at h
  · rintro ⟨low, hlt, heq, hrest⟩
    have hmod : next.toNat % 64 = low := by omega
    rw [if_neg (not_not.2 (hmark.2 (by omega))), hmod]
    exact hrest

theorem continuationBytes_nil_iff {codepoint result : ℕ} :
    continuationBytes [] codepoint = some result ↔ codepoint = result := by
  rw [continuationBytes, Option.some.injEq]

/-- A continuation byte that was built from its payload. -/
theorem continuationBytes_ofNat (n codepoint : ℕ) (rest : Bytes) :
    continuationBytes (.ofNat (n % 64 + 0x80) :: rest) codepoint =
      continuationBytes rest (codepoint * 64 + n % 64) := by
  refine Option.ext ?_
  intro result
  rw [continuationBytes_cons_iff, UInt8.toNat_ofNat', Nat.mod_eq_of_lt (by omega)]
  constructor
  · rintro ⟨low, -, heq, hrest⟩
    have hlow : n % 64 = low := by omega
    rwa [hlow]
  · intro hrest
    exact ⟨n % 64, by omega, by omega, hrest⟩

/-! ### One sequence -/

/-- **The encoding of a character** is one sequence of the shortest form. -/
theorem utf8EncodeChar_spec (character : Char) :
    ∃ first rest payload, String.utf8EncodeChar character = first :: rest ∧
      leadingByte first = some (payload, rest.length + 1) ∧
      continuationBytes rest payload = some character.toNat ∧
      (validCodepoint (rest.length + 1) character.toNat = true ↔ IsPlain character) := by
  have hvalid : character.toNat < 0xd800 ∨ 0xdfff < character.toNat ∧ character.toNat < 0x110000 :=
    character.valid
  have hval : character.val.toNat = character.toNat := rfl
  have hbyte : ∀ n < 256, (UInt8.ofNat n).toNat = n := fun n hn => by
    rw [UInt8.toNat_ofNat', Nat.mod_eq_of_lt hn]
  rw [String.utf8EncodeChar, hval]
  simp only [validCodepoint, IsPlain, decide_eq_true_eq]
  split_ifs with hone htwo hthree
  · refine ⟨_, _, character.toNat, rfl,
      leadingByte_iff.2 (Or.inl ⟨rfl, hbyte _ (by omega), by omega⟩),
      rfl, ?_⟩
    rw [List.length_nil]
    omega
  · refine ⟨_, _, character.toNat / 64 % 0x20, rfl,
      leadingByte_iff.2 (Or.inr (Or.inl ⟨rfl, ?_, by omega⟩)), ?_, ?_⟩
    · rw [hbyte _ (by omega), Nat.add_comm]
    · rw [continuationBytes_ofNat, continuationBytes_nil_iff]
      omega
    · rw [List.length_singleton]
      omega
  · refine ⟨_, _, character.toNat / 4096 % 0x10, rfl,
      leadingByte_iff.2 (Or.inr (Or.inr (Or.inl ⟨rfl, ?_, by omega⟩))), ?_, ?_⟩
    · rw [hbyte _ (by omega), Nat.add_comm]
    · rw [continuationBytes_ofNat, continuationBytes_ofNat, continuationBytes_nil_iff]
      omega
    · simp only [List.length_cons, List.length_nil]
      omega
  · refine ⟨_, _, character.toNat / 262144 % 0x08, rfl,
      leadingByte_iff.2 (Or.inr (Or.inr (Or.inr ⟨rfl, ?_, by omega⟩))), ?_, ?_⟩
    · rw [hbyte _ (by omega), Nat.add_comm]
    · rw [continuationBytes_ofNat, continuationBytes_ofNat, continuationBytes_ofNat,
        continuationBytes_nil_iff]
      omega
    · simp only [List.length_cons, List.length_nil]
      omega

/-- A code point that the menu accepts is a character. -/
theorem exists_char_of_validCodepoint {length codepoint : ℕ}
    (h : validCodepoint length codepoint = true) :
    ∃ character : Char, character.toNat = codepoint ∧ IsPlain character := by
  rw [validCodepoint, decide_eq_true_eq] at h
  have hvalid : codepoint.isValidChar := by
    rw [Nat.isValidChar]
    omega
  have hnat : (Char.ofNatAux codepoint hvalid).toNat = codepoint := rfl
  refine ⟨.ofNatAux codepoint hvalid, hnat, ?_⟩
  rw [IsPlain, hnat]
  omega

/-- **One accepted sequence** is the encoding of its character. -/
theorem exists_utf8EncodeChar {first : UInt8} {rest : Bytes} {payload codepoint : ℕ}
    (hfirst : leadingByte first = some (payload, rest.length + 1))
    (hrest : continuationBytes rest payload = some codepoint)
    (hvalid : validCodepoint (rest.length + 1) codepoint = true) :
    ∃ character, String.utf8EncodeChar character = first :: rest ∧ IsPlain character := by
  obtain ⟨character, rfl, hplain⟩ := exists_char_of_validCodepoint hvalid
  refine ⟨character, ?_, hplain⟩
  have hval : character.val.toNat = character.toNat := rfl
  have hbyte : ∀ (byte : UInt8) (n : ℕ), byte.toNat = n → UInt8.ofNat n = byte := by
    rintro byte _ rfl
    exact UInt8.ofNat_toNat
  rw [validCodepoint, decide_eq_true_eq] at hvalid
  rw [String.utf8EncodeChar, hval]
  rcases leadingByte_iff.1 hfirst with ⟨hlength, hlead, hpayload⟩ | ⟨hlength, hlead, hpayload⟩ |
    ⟨hlength, hlead, hpayload⟩ | ⟨hlength, hlead, hpayload⟩ <;> rw [hlength] at hvalid
  · obtain rfl := List.eq_nil_of_length_eq_zero (Nat.succ_injective hlength)
    rw [continuationBytes_nil_iff] at hrest
    rw [if_pos (by omega), hbyte first _ (by omega)]
  · obtain ⟨second, rfl⟩ := List.length_eq_one_iff.1 (Nat.succ_injective hlength)
    obtain ⟨low, hlow, hsecond, hend⟩ := continuationBytes_cons_iff.1 hrest
    rw [continuationBytes_nil_iff] at hend
    rw [if_neg (by omega), if_pos (by omega), hbyte first _ (by omega), hbyte second _ (by omega)]
  · obtain ⟨second, third, rfl⟩ := List.length_eq_two.1 (Nat.succ_injective hlength)
    obtain ⟨low, hlow, hsecond, hnext⟩ := continuationBytes_cons_iff.1 hrest
    obtain ⟨last, hlast, hthird, hend⟩ := continuationBytes_cons_iff.1 hnext
    rw [continuationBytes_nil_iff] at hend
    rw [if_neg (by omega), if_neg (by omega), if_pos (by omega), hbyte first _ (by omega),
      hbyte second _ (by omega), hbyte third _ (by omega)]
  · obtain ⟨second, third, fourth, rfl⟩ := List.length_eq_three.1 (Nat.succ_injective hlength)
    obtain ⟨low, hlow, hsecond, hnext⟩ := continuationBytes_cons_iff.1 hrest
    obtain ⟨mid, hmid, hthird, hnext⟩ := continuationBytes_cons_iff.1 hnext
    obtain ⟨last, hlast, hfourth, hend⟩ := continuationBytes_cons_iff.1 hnext
    rw [continuationBytes_nil_iff] at hend
    rw [if_neg (by omega), if_neg (by omega), if_neg (by omega), hbyte first _ (by omega),
      hbyte second _ (by omega), hbyte third _ (by omega), hbyte fourth _ (by omega)]

/-! ### All sequences -/

@[simp] theorem encode_nil : encode [] = [] := rfl

theorem encode_cons (character : Char) (characters : List Char) :
    encode (character :: characters) = String.utf8EncodeChar character ++ encode characters :=
  List.flatMap_cons

theorem encode_eq_nil_iff {characters : List Char} : encode characters = [] ↔ characters = [] := by
  constructor
  · intro h
    cases characters with
    | nil => rfl
    | cons character characters =>
        rw [encode_cons, List.append_eq_nil_iff] at h
        exact absurd h.1 String.utf8EncodeChar_ne_nil
  · rintro rfl
    rfl

/-- The loop over the encoding of one character and what comes after it. -/
theorem validUtf8Loop_utf8EncodeChar {maxCodepoints count : ℕ} {character : Char} {rest : Bytes}
    (hplain : IsPlain character) (hroom : count < maxCodepoints) :
    validUtf8Loop maxCodepoints (String.utf8EncodeChar character ++ rest) count =
      validUtf8Loop maxCodepoints rest (count + 1) := by
  obtain ⟨first, others, payload, hencode, hlead, hcontinue, hvalid⟩ :=
    utf8EncodeChar_spec character
  rw [hencode, List.cons_append, validUtf8Loop, hlead]
  dsimp only
  rw [if_neg (by rw [List.length_append]; omega), Nat.add_sub_cancel, List.take_left, hcontinue]
  dsimp only
  rw [hvalid.2 hplain, if_neg (by decide), if_neg (by omega), List.drop_left]

/-- **The loop** accepts the encodings of as many characters as there is room for. -/
theorem validUtf8Loop_iff {maxCodepoints count : ℕ} {text : Bytes}
    (hcount : count ≤ maxCodepoints) :
    validUtf8Loop maxCodepoints text count = true ↔
      ∃ characters, text = encode characters ∧ count + characters.length ≤ maxCodepoints ∧
        ∀ character ∈ characters, IsPlain character := by
  constructor
  · intro h
    fun_induction validUtf8Loop maxCodepoints text count with
    | case1 => exact ⟨[], rfl, hcount, fun _ hmem => absurd hmem List.not_mem_nil⟩
    | case2 => cases h
    | case3 => cases h
    | case4 => cases h
    | case5 => cases h
    | case6 => cases h
    | case7 first rest count payload length hlead hlength codepoint hcontinue hvalid hroom ih =>
        obtain ⟨characters, hrest, htotal, hplain⟩ := ih (Nat.not_lt.1 hroom) h
        have hpos : 0 < length := by
          rcases leadingByte_iff.1 hlead with h | h | h | h <;> omega
        have htake : (rest.take (length - 1)).length + 1 = length := by
          rw [List.length_take]
          omega
        rw [Bool.not_eq_false, ← htake] at hvalid
        rw [← htake] at hlead
        obtain ⟨character, hencode, hcharacter⟩ := exists_utf8EncodeChar hlead
          (by rwa [htake] at *) hvalid
        refine ⟨character :: characters, ?_, ?_, List.forall_mem_cons.2 ⟨hcharacter, hplain⟩⟩
        · rw [encode_cons, hencode, ← hrest, List.cons_append, List.take_append_drop]
        · rw [List.length_cons]
          omega
  · rintro ⟨characters, rfl, htotal, hplain⟩
    induction characters generalizing count with
    | nil => rw [encode_nil, validUtf8Loop]
    | cons character characters ih =>
        obtain ⟨hcharacter, hplain⟩ := List.forall_mem_cons.1 hplain
        rw [List.length_cons] at htotal
        rw [encode_cons, validUtf8Loop_utf8EncodeChar hcharacter (by omega)]
        exact ih (by omega) (by omega) hplain

/-! ### How a text is shown -/

/-- The encoding of one character is shown as one character. -/
theorem displayAscii_utf8EncodeChar (character : Char) (rest : Bytes) :
    displayAscii (String.utf8EncodeChar character ++ rest) =
      shownAs character :: displayAscii rest := by
  obtain ⟨first, others, payload, hencode, hlead, hcontinue, -⟩ := utf8EncodeChar_spec character
  rw [hencode, List.cons_append, displayAscii, shownAs]
  by_cases hfirst : first < 0x80
  · have hlt : first.toNat < 0x80 := UInt8.lt_iff_toNat_lt.1 hfirst
    have hone : others.length + 1 = 1 ∧ first.toNat = payload := by
      rcases leadingByte_iff.1 hlead with h | h | h | h <;> omega
    have hnil : others = [] := List.eq_nil_of_length_eq_zero (Nat.succ.inj hone.1)
    subst hnil
    rw [continuationBytes_nil_iff, ← hone.2] at hcontinue
    rw [if_pos hfirst, ← hcontinue, if_pos hlt, UInt8.ofNat_toNat, List.nil_append]
  · have hge : ¬character.toNat < 0x80 := by
      intro hlt
      have hascii : String.utf8EncodeChar character = [.ofNat character.toNat] := if_pos (by
        rw [show character.val.toNat = character.toNat from rfl]
        omega)
      rw [hascii] at hencode
      cases hencode
      rw [UInt8.lt_iff_toNat_lt, UInt8.toNat_ofNat', Nat.mod_eq_of_lt (by omega)] at hfirst
      exact hfirst hlt
    rw [if_neg hfirst, if_neg hge, sequenceLength_of_leadingByte hlead hfirst, Nat.add_sub_cancel,
      List.drop_left]

/-- **The reduced text**, character by character. -/
theorem displayAscii_encode (characters : List Char) :
    displayAscii (encode characters) = characters.map shownAs := by
  induction characters with
  | nil => exact displayAscii_nil
  | cons character characters ih => rw [encode_cons, displayAscii_utf8EncodeChar, ih, List.map_cons]

theorem shownAs_printable {character : Char} (h : IsPlain character) :
    0x20 ≤ shownAs character ∧ shownAs character < 0x7f := by
  rw [shownAs]
  obtain ⟨hlow, hdelete⟩ := h
  split
  · rename_i hascii
    rw [UInt8.le_iff_toNat_le, UInt8.lt_iff_toNat_lt, UInt8.toNat_ofNat',
      Nat.mod_eq_of_lt (by omega)]
    have h20 : (0x20 : UInt8).toNat = 0x20 := rfl
    have h7f : (0x7f : UInt8).toNat = 0x7f := rfl
    omega
  · decide

/-- **The accepted texts** are the encodings of one to as many characters as there is room for, none
of them a control character of ASCII, and the empty text where it is allowed. Such a text is shown
in printable ASCII, with one character for each of its own. -/
theorem validUtf8Text_iff (text : Bytes) (maxCodepoints : ℕ) (allowEmpty : Bool) :
    (validUtf8Text text maxCodepoints allowEmpty = true ↔
      ∃ characters, text = encode characters ∧
        (characters = [] ∧ allowEmpty = true ∨
          1 ≤ characters.length ∧ characters.length ≤ maxCodepoints) ∧
        ∀ character ∈ characters, IsPlain character) ∧
    (validUtf8Text text maxCodepoints allowEmpty = true →
      (∀ character ∈ displayAscii text, 0x20 ≤ character ∧ character < 0x7f) ∧
      ∀ characters, text = encode characters → (displayAscii text).length = characters.length) := by
  have hiff : validUtf8Text text maxCodepoints allowEmpty = true ↔
      ∃ characters, text = encode characters ∧
        (characters = [] ∧ allowEmpty = true ∨
          1 ≤ characters.length ∧ characters.length ≤ maxCodepoints) ∧
        ∀ character ∈ characters, IsPlain character := by
    rw [validUtf8Text]
    split
    · rename_i hnil
      subst hnil
      constructor
      · intro hallow
        exact ⟨[], rfl, Or.inl ⟨rfl, hallow⟩, fun _ hmem => absurd hmem List.not_mem_nil⟩
      · rintro ⟨characters, hencode, ⟨-, hallow⟩ | ⟨hpos, -⟩, -⟩
        · exact hallow
        · rw [encode_eq_nil_iff.1 hencode.symm] at hpos
          cases hpos
    · rename_i hne
      rw [validUtf8Loop_iff (Nat.zero_le _)]
      constructor
      · rintro ⟨characters, rfl, htotal, hplain⟩
        have hpos : characters ≠ [] := mt encode_eq_nil_iff.2 hne
        exact ⟨characters, rfl, Or.inr ⟨List.length_pos_iff.2 hpos, by omega⟩, hplain⟩
      · rintro ⟨characters, rfl, ⟨rfl, -⟩ | ⟨-, htotal⟩, hplain⟩
        · exact absurd rfl hne
        · exact ⟨characters, rfl, by omega, hplain⟩
  refine ⟨hiff, fun h => ⟨?_, ?_⟩⟩
  · obtain ⟨characters, rfl, -, hplain⟩ := hiff.1 h
    rw [displayAscii_encode]
    exact List.forall_mem_map.2 fun character hmem => shownAs_printable (hplain character hmem)
  · rintro characters rfl
    rw [displayAscii_encode, List.length_map]

end NesDeck.MenuText
