/-
**Titles and slugs of uploads.**

The uploader (`uploader/rom.go`) takes a title from a form, checks it, and makes a file name and an
id from it.  Its rules are those of Go, on the runes of a string; the menu checks the title again
with rules of its own, on the bytes.

`unicode/utf8` is modelled by its table of leading bytes: a sequence is valid if its second byte
lies in the range of the first one and the others are continuation bytes; an invalid byte is a
rune of its own.  `strings.ToLower` is a parameter, since the slug keeps ASCII alone.

Main definitions:

* `NesDeck.Uploader.leadingSequence`, `NesDeck.Uploader.runes`, `NesDeck.Uploader.validString` —
  the runes of a string;
* `NesDeck.Uploader.validTitle`, `NesDeck.Uploader.slugify` — the two functions of the uploader;
* `NesDeck.Uploader.SlugShape` — words joined by single hyphens.

Main results:

* `NesDeck.Uploader.validUtf8Text_of_validTitle`, `NesDeck.Uploader.trimAsciiSpace_of_validTitle` —
  **the menu accepts every title that the uploader accepts**;
* `NesDeck.Uploader.slugShape_slugify`, `NesDeck.Uploader.length_slugify_le` — what a slug looks
  like.
-/

import NesDeck.MenuCatalog

set_option relaxedAutoImplicit false
set_option autoImplicit false

namespace NesDeck.Uploader

open HostFile
open MenuText

/-! ### Runes -/

/-- The length of the sequence that a byte outside ASCII starts, and the range of its second
byte. -/
def acceptRange (first : UInt8) : Option (ℕ × UInt8 × UInt8) :=
  if first < 0xc2 then none
  else if first ≤ 0xdf then some (2, 0x80, 0xbf)
  else if first = 0xe0 then some (3, 0xa0, 0xbf)
  else if first = 0xed then some (3, 0x80, 0x9f)
  else if first ≤ 0xef then some (3, 0x80, 0xbf)
  else if first = 0xf0 then some (4, 0x90, 0xbf)
  else if first ≤ 0xf3 then some (4, 0x80, 0xbf)
  else if first = 0xf4 then some (4, 0x80, 0x8f)
  else none

def isContinuation (byte : UInt8) : Bool := 0x80 ≤ byte ∧ byte ≤ 0xbf

/-- The six bits of a continuation byte. -/
def low6 (byte : UInt8) : ℕ := (byte &&& 0x3f).toNat

/-- The rune of the valid sequence at the front of a string, and its width. -/
def leadingSequence : Bytes → Option (ℕ × ℕ)
  | [] => none
  | first :: rest =>
      if first < 0x80 then some (first.toNat, 1)
      else
        match acceptRange first, rest with
        | some (2, low, high), second :: _ =>
            if low ≤ second ∧ second ≤ high then
              some ((first &&& 0x1f).toNat * 64 + low6 second, 2)
            else none
        | some (3, low, high), second :: third :: _ =>
            if low ≤ second ∧ second ≤ high ∧ isContinuation third = true then
              some (((first &&& 0x0f).toNat * 64 + low6 second) * 64 + low6 third, 3)
            else none
        | some (4, low, high), second :: third :: fourth :: _ =>
            if low ≤ second ∧ second ≤ high ∧ isContinuation third = true ∧
                isContinuation fourth = true then
              some ((((first &&& 0x07).toNat * 64 + low6 second) * 64 + low6 third) * 64 +
                low6 fourth, 4)
            else none
        | _, _ => none

/-- What an invalid byte is read as. -/
def runeError : ℕ := 0xfffd

/-- The runes that a loop over a string sees. -/
def runes : Bytes → List ℕ
  | [] => []
  | first :: rest =>
      let (rune, width) := (leadingSequence (first :: rest)).getD (runeError, 1)
      rune :: runes (rest.drop (width - 1))
termination_by text => text.length
decreasing_by simp only [List.length_drop, List.length_cons]; omega

/-- `utf8.ValidString`. -/
def validString : Bytes → Bool
  | [] => true
  | first :: rest =>
      match leadingSequence (first :: rest) with
      | none => false
      | some (_, width) => validString (rest.drop (width - 1))
termination_by text => text.length
decreasing_by simp only [List.length_drop, List.length_cons]; omega

/-- `unicode.IsControl`. -/
def isControl (rune : ℕ) : Bool := rune < 0x20 ∨ 0x7f ≤ rune ∧ rune < 0xa0

/-- `unicode.IsSpace`. -/
def isUnicodeSpace (rune : ℕ) : Bool :=
  0x09 ≤ rune ∧ rune ≤ 0x0d ∨ 0x2000 ≤ rune ∧ rune ≤ 0x200a ∨
    rune ∈ [0x20, 0x85, 0xa0, 0x1680, 0x2028, 0x2029, 0x202f, 0x205f, 0x3000]

/-! ### Titles -/

/-- A string that `strings.TrimSpace` leaves alone. -/
def isTrimmed (text : Bytes) : Bool :=
  (runes text).head?.all (fun rune => !isUnicodeSpace rune) &&
    (runes text).getLast?.all fun rune => !isUnicodeSpace rune

def validTitle (title : Bytes) : Bool :=
  if isTrimmed title = false ∨ title = [] ∨ validString title = false ∨
      64 < (runes title).length then false
  else (runes title).all fun character => !(isControl character || character == 0x09)

theorem validTitle_iff (title : Bytes) :
    validTitle title = true ↔
      isTrimmed title = true ∧ title ≠ [] ∧ validString title = true ∧
        (runes title).length ≤ 64 ∧ ∀ character ∈ runes title, isControl character = false := by
  rw [validTitle]
  split
  · rename_i hbad
    constructor
    · exact fun h => (nomatch h)
    · rintro ⟨htrimmed, hne, hvalid, hcount, -⟩
      rw [htrimmed, hvalid] at hbad
      rcases hbad with h | h | h | h
      · cases h
      · exact absurd h hne
      · cases h
      · omega
  · rename_i hgood
    rw [not_or, not_or, not_or, Bool.not_eq_false, Bool.not_eq_false, not_lt] at hgood
    obtain ⟨htrimmed, hne, hvalid, hcount⟩ := hgood
    rw [List.all_eq_true]
    constructor
    · intro hall
      refine ⟨htrimmed, hne, hvalid, hcount, ?_⟩
      intro character hmem
      have := hall character hmem
      rw [Bool.not_eq_true', Bool.or_eq_false_iff] at this
      exact this.1
    · rintro ⟨-, -, -, -, hall⟩ character hmem
      have hcontrol := hall character hmem
      rw [hcontrol, Bool.false_or, Bool.not_eq_true', beq_eq_false_iff_ne]
      rintro rfl
      cases hcontrol

/-! ### The bits of a sequence -/

theorem continuation_bits : ∀ byte : UInt8, isContinuation byte = true →
    byte &&& 0xc0 = 0x80 ∧ low6 byte = byte.toNat - 0x80 :=
  forall_byte (by decide +kernel)

theorem leadingByte_ascii {first : UInt8} (h : first < 0x80) :
    leadingByte first = some (first.toNat, 1) := by
  rw [leadingByte, if_pos h]

theorem leadingByte_two : ∀ first : UInt8, 0xc2 ≤ first → first ≤ 0xdf →
    leadingByte first = some ((first &&& 0x1f).toNat, 2) ∧
      (first &&& 0x1f).toNat = first.toNat - 0xc0 :=
  forall_byte (by decide +kernel)

theorem leadingByte_three : ∀ first : UInt8, 0xe0 ≤ first → first ≤ 0xef →
    leadingByte first = some ((first &&& 0x0f).toNat, 3) ∧
      (first &&& 0x0f).toNat = first.toNat - 0xe0 :=
  forall_byte (by decide +kernel)

theorem leadingByte_four : ∀ first : UInt8, 0xf0 ≤ first → first ≤ 0xf4 →
    leadingByte first = some ((first &&& 0x07).toNat, 4) ∧
      (first &&& 0x07).toNat = first.toNat - 0xf0 :=
  forall_byte (by decide +kernel)

/-- The ranges of the second byte keep out long forms, surrogates and numbers beyond Unicode. -/
theorem acceptRange_spec : ∀ first : UInt8, ∀ range ∈ acceptRange first,
    0x80 ≤ range.2.1 ∧ range.2.2 ≤ 0xbf ∧
      (range.1 = 2 ∧ 0xc2 ≤ first ∧ first ≤ 0xdf ∨
        range.1 = 3 ∧ 0xe0 ≤ first ∧ first ≤ 0xef ∧ (first = 0xe0 → range.2.1 = 0xa0) ∧
          (first = 0xed → range.2.2 = 0x9f) ∨
        range.1 = 4 ∧ 0xf0 ≤ first ∧ first ≤ 0xf4 ∧ (first = 0xf0 → range.2.1 = 0x90) ∧
          (first = 0xf4 → range.2.2 = 0x8f)) :=
  forall_byte (by decide +kernel)

/-- A valid sequence is one that the menu decodes to the same number, and accepts unless it is a
control character. -/
structure Decodes (first : UInt8) (rest : Bytes) (rune width : ℕ) : Prop where
  leading : ∃ payload, leadingByte first = some (payload, width) ∧
    continuationBytes (rest.take (width - 1)) payload = some rune
  room : width ≤ rest.length + 1
  valid : isControl rune = false → validCodepoint width rune = true

theorem continuationBytes_cons {byte : UInt8} {rest : Bytes} {payload : ℕ}
    (h : isContinuation byte = true) :
    continuationBytes (byte :: rest) payload =
      continuationBytes rest (payload * 64 + low6 byte) := by
  rw [continuationBytes, if_neg (not_not.2 (continuation_bits byte h).1), low6]

theorem isContinuation_of_range {byte low high : UInt8} (hlow : 0x80 ≤ low) (hhigh : high ≤ 0xbf)
    (h : low ≤ byte ∧ byte ≤ high) : isContinuation byte = true :=
  decide_eq_true ⟨UInt8.le_trans hlow h.1, UInt8.le_trans h.2 hhigh⟩

theorem bounds_of_isContinuation {byte : UInt8} (h : isContinuation byte = true) :
    0x80 ≤ byte.toNat ∧ byte.toNat ≤ 0xbf := by
  have hrange := of_decide_eq_true h
  exact ⟨UInt8.le_iff_toNat_le.1 hrange.1, UInt8.le_iff_toNat_le.1 hrange.2⟩

theorem decodes_two {first second : UInt8} (rest : Bytes) (hfirst : 0xc2 ≤ first)
    (hfirst' : first ≤ 0xdf) (hsecond : isContinuation second = true) :
    Decodes first (second :: rest) ((first &&& 0x1f).toNat * 64 + low6 second) 2 := by
  obtain ⟨hleading, hpayload⟩ := leadingByte_two first hfirst hfirst'
  refine ⟨⟨_, hleading, ?_⟩, by simp, ?_⟩
  · rw [List.take_succ_cons, List.take_zero, continuationBytes_cons hsecond, continuationBytes]
  · intro _
    have hlow : 0xc2 ≤ first.toNat := UInt8.le_iff_toNat_le.1 hfirst
    have hhigh : first.toNat ≤ 0xdf := UInt8.le_iff_toNat_le.1 hfirst'
    have hbits := (continuation_bits second hsecond).2
    have hbounds := bounds_of_isContinuation hsecond
    rw [validCodepoint, decide_eq_true_eq, hpayload, hbits]
    omega

theorem decodes_three {first second third : UInt8} (rest : Bytes) (hfirst : 0xe0 ≤ first)
    (hfirst' : first ≤ 0xef) (hsecond : isContinuation second = true)
    (hthird : isContinuation third = true) (hlong : first = 0xe0 → 0xa0 ≤ second)
    (hsurrogate : first = 0xed → second ≤ 0x9f) :
    Decodes first (second :: third :: rest)
      (((first &&& 0x0f).toNat * 64 + low6 second) * 64 + low6 third) 3 := by
  obtain ⟨hleading, hpayload⟩ := leadingByte_three first hfirst hfirst'
  refine ⟨⟨_, hleading, ?_⟩, by simp, ?_⟩
  · rw [List.take_succ_cons, List.take_succ_cons, List.take_zero, continuationBytes_cons hsecond,
      continuationBytes_cons hthird, continuationBytes]
  · intro _
    have hlow : 0xe0 ≤ first.toNat := UInt8.le_iff_toNat_le.1 hfirst
    have hhigh : first.toNat ≤ 0xef := UInt8.le_iff_toNat_le.1 hfirst'
    have hlong' : first.toNat = 0xe0 → 0xa0 ≤ second.toNat := fun heq =>
      UInt8.le_iff_toNat_le.1 (hlong (UInt8.toNat_inj.1 heq))
    have hsurrogate' : first.toNat = 0xed → second.toNat ≤ 0x9f := fun heq =>
      UInt8.le_iff_toNat_le.1 (hsurrogate (UInt8.toNat_inj.1 heq))
    have hbits := (continuation_bits second hsecond).2
    have hbits' := (continuation_bits third hthird).2
    have hbounds := bounds_of_isContinuation hsecond
    have hbounds' := bounds_of_isContinuation hthird
    rw [validCodepoint, decide_eq_true_eq, hpayload, hbits, hbits']
    omega

theorem decodes_four {first second third fourth : UInt8} (rest : Bytes) (hfirst : 0xf0 ≤ first)
    (hfirst' : first ≤ 0xf4) (hsecond : isContinuation second = true)
    (hthird : isContinuation third = true) (hfourth : isContinuation fourth = true)
    (hlong : first = 0xf0 → 0x90 ≤ second) (hlarge : first = 0xf4 → second ≤ 0x8f) :
    Decodes first (second :: third :: fourth :: rest)
      ((((first &&& 0x07).toNat * 64 + low6 second) * 64 + low6 third) * 64 + low6 fourth) 4 := by
  obtain ⟨hleading, hpayload⟩ := leadingByte_four first hfirst hfirst'
  refine ⟨⟨_, hleading, ?_⟩, by simp, ?_⟩
  · rw [List.take_succ_cons, List.take_succ_cons, List.take_succ_cons, List.take_zero,
      continuationBytes_cons hsecond, continuationBytes_cons hthird,
      continuationBytes_cons hfourth, continuationBytes]
  · intro _
    have hlow : 0xf0 ≤ first.toNat := UInt8.le_iff_toNat_le.1 hfirst
    have hhigh : first.toNat ≤ 0xf4 := UInt8.le_iff_toNat_le.1 hfirst'
    have hlong' : first.toNat = 0xf0 → 0x90 ≤ second.toNat := fun heq =>
      UInt8.le_iff_toNat_le.1 (hlong (UInt8.toNat_inj.1 heq))
    have hlarge' : first.toNat = 0xf4 → second.toNat ≤ 0x8f := fun heq =>
      UInt8.le_iff_toNat_le.1 (hlarge (UInt8.toNat_inj.1 heq))
    have hbits := (continuation_bits second hsecond).2
    have hbits' := (continuation_bits third hthird).2
    have hbits'' := (continuation_bits fourth hfourth).2
    have hbounds := bounds_of_isContinuation hsecond
    have hbounds' := bounds_of_isContinuation hthird
    have hbounds'' := bounds_of_isContinuation hfourth
    rw [validCodepoint, decide_eq_true_eq, hpayload, hbits, hbits', hbits'']
    omega

/-- **Every valid sequence is decoded by the menu.** -/
theorem decodes_of_leadingSequence {first : UInt8} {rest : Bytes} {rune width : ℕ}
    (h : leadingSequence (first :: rest) = some (rune, width)) : Decodes first rest rune width := by
  rw [leadingSequence.eq_def] at h
  dsimp only at h
  by_cases hascii : first < 0x80
  · rw [if_pos hascii] at h
    cases h
    refine ⟨⟨first.toNat, leadingByte_ascii hascii, by simp [continuationBytes]⟩,
      Nat.succ_le_succ (Nat.zero_le _), ?_⟩
    intro hcontrol
    have hlt : first.toNat < 0x80 := UInt8.lt_iff_toNat_lt.1 hascii
    rw [isControl, decide_eq_false_iff_not] at hcontrol
    rw [validCodepoint, decide_eq_true_eq]
    omega
  rw [if_neg hascii] at h
  split at h
  · rename_i low high second rest hrange
    obtain ⟨hlow, hhigh, hcases⟩ := acceptRange_spec first _ hrange
    dsimp only at hlow hhigh hcases
    split at h
    · rename_i hsecond
      cases h
      have hfirst : 0xc2 ≤ first ∧ first ≤ 0xdf := by simpa using hcases
      exact decodes_two rest hfirst.1 hfirst.2 (isContinuation_of_range hlow hhigh hsecond)
    · cases h
  · rename_i low high second third rest hrange
    obtain ⟨hlow, hhigh, hcases⟩ := acceptRange_spec first _ hrange
    dsimp only at hlow hhigh hcases
    split at h
    · rename_i hbytes
      cases h
      obtain ⟨hsecond, hsecond', hthird⟩ := hbytes
      have hfirst : 0xe0 ≤ first ∧ first ≤ 0xef ∧ (first = 0xe0 → low = 0xa0) ∧
          (first = 0xed → high = 0x9f) := by simpa using hcases
      obtain ⟨hfirst, hfirst', hlong, hsurrogate⟩ := hfirst
      exact decodes_three rest hfirst hfirst'
        (isContinuation_of_range hlow hhigh ⟨hsecond, hsecond'⟩) hthird
        (fun heq => hlong heq ▸ hsecond) (fun heq => hsurrogate heq ▸ hsecond')
    · cases h
  · rename_i low high second third fourth rest hrange
    obtain ⟨hlow, hhigh, hcases⟩ := acceptRange_spec first _ hrange
    dsimp only at hlow hhigh hcases
    split at h
    · rename_i hbytes
      cases h
      obtain ⟨hsecond, hsecond', hthird, hfourth⟩ := hbytes
      have hfirst : 0xf0 ≤ first ∧ first ≤ 0xf4 ∧ (first = 0xf0 → low = 0x90) ∧
          (first = 0xf4 → high = 0x8f) := by simpa using hcases
      obtain ⟨hfirst, hfirst', hlong, hlarge⟩ := hfirst
      exact decodes_four rest hfirst hfirst'
        (isContinuation_of_range hlow hhigh ⟨hsecond, hsecond'⟩) hthird hfourth
        (fun heq => hlong heq ▸ hsecond) (fun heq => hlarge heq ▸ hsecond')
    · cases h
  · cases h

/-! ### The menu accepts the titles -/

theorem runes_of_valid {first : UInt8} {rest : Bytes} {rune width : ℕ}
    (h : leadingSequence (first :: rest) = some (rune, width)) :
    runes (first :: rest) = rune :: runes (rest.drop (width - 1)) := by
  rw [runes, h]
  rfl

/-- A valid string without control characters passes the loop of the menu. -/
theorem validUtf8Loop_of_validString {maxCodepoints : ℕ} {text : Bytes} {count : ℕ}
    (hvalid : validString text = true) (hcontrol : ∀ rune ∈ runes text, isControl rune = false)
    (hcount : count + (runes text).length ≤ maxCodepoints) :
    validUtf8Loop maxCodepoints text count = true := by
  fun_induction validString text generalizing count with
  | case1 => rw [validUtf8Loop]
  | case2 => cases hvalid
  | case3 first rest rune width hsequence ih =>
      rw [runes_of_valid hsequence] at hcontrol hcount
      obtain ⟨⟨payload, hleading, hcontinuation⟩, hroom, hcodepoint⟩ :=
        decodes_of_leadingSequence hsequence
      rw [List.length_cons] at hcount
      rw [validUtf8Loop, hleading]
      dsimp only
      rw [if_neg (by omega), hcontinuation]
      dsimp only
      rw [hcodepoint (hcontrol rune List.mem_cons_self), if_neg (by decide), if_neg (by omega)]
      exact ih hvalid (fun other hmem => hcontrol other (List.mem_cons_of_mem _ hmem)) (by omega)

/-- **The menu accepts the text of every title.** -/
theorem validUtf8Text_of_validTitle {title : Bytes} (h : validTitle title = true) :
    validUtf8Text title 64 false = true := by
  obtain ⟨-, hne, hvalid, hcount, hcontrol⟩ := (validTitle_iff title).1 h
  rw [validUtf8Text, if_neg hne]
  exact validUtf8Loop_of_validString hvalid hcontrol (by omega)

/-- A sequence of one byte is that byte. -/
theorem Decodes.eq_of_width_one {first : UInt8} {rest : Bytes} {rune : ℕ}
    (h : Decodes first rest rune 1) : rune = first.toNat := by
  obtain ⟨payload, hleading, hcontinuation⟩ := h.leading
  rw [Nat.sub_self, List.take_zero, continuationBytes] at hcontinuation
  cases hcontinuation
  rw [leadingByte] at hleading
  split at hleading
  · cases hleading
    rfl
  split at hleading
  · cases hleading
  split at hleading
  · cases hleading
  split at hleading
  · cases hleading
  · cases hleading

/-- A byte of ASCII at the end of a valid string is its last rune. -/
theorem getLast?_runes {text : Bytes} (hvalid : validString text = true) {last : UInt8}
    (hlast : text.getLast? = some last) (hascii : last < 0x80) :
    (runes text).getLast? = some last.toNat := by
  fun_induction validString text with
  | case1 => cases hlast
  | case2 => cases hvalid
  | case3 first rest rune width hsequence ih =>
      have hdecodes := decodes_of_leadingSequence hsequence
      rw [runes_of_valid hsequence]
      rw [List.getLast?_cons] at hlast
      by_cases hend : rest.length ≤ width - 1
      · -- the last sequence of the string
        rw [List.drop_of_length_le hend, runes]
        cases hbytes : rest.getLast? with
        | none =>
            rw [hbytes] at hlast
            cases hlast
            have hwidth : width = 1 := by
              have hroom := hdecodes.room
              rw [List.getLast?_eq_none_iff.1 hbytes] at hroom hend
              have hpos : width ≠ 0 := by
                rintro rfl
                obtain ⟨payload, hleading, -⟩ := hdecodes.leading
                rw [leadingByte] at hleading
                repeat' split at hleading
                all_goals cases hleading
              simp only [List.length_nil] at hroom
              omega
            subst hwidth
            rw [hdecodes.eq_of_width_one]
            rfl
        | some byte =>
            rw [hbytes] at hlast
            cases hlast
            obtain ⟨payload, -, hcontinuation⟩ := hdecodes.leading
            rw [List.take_of_length_le hend] at hcontinuation
            have hge := continuationBytes_ge hcontinuation byte (List.mem_of_getLast? hbytes)
            exact absurd hascii (UInt8.not_lt.2 hge)
      · have hdrop : (rest.drop (width - 1)).getLast? = some last := by
          rw [List.getLast?_drop, if_neg hend]
          cases hbytes : rest.getLast? with
          | none =>
              rw [List.getLast?_eq_none_iff.1 hbytes] at hend
              exact absurd (Nat.zero_le _) hend
          | some byte =>
              rw [hbytes] at hlast
              exact hlast
        rw [List.getLast?_cons, ih hvalid hdrop]
        rfl

/-- A byte of ASCII at the front of a string is its first rune. -/
theorem head?_runes {first : UInt8} (rest : Bytes) (hascii : first < 0x80) :
    (runes (first :: rest)).head? = some first.toNat := by
  rw [runes, leadingSequence.eq_def]
  dsimp only
  rw [if_pos hascii]
  rfl

/-- White space of ASCII is white space. -/
theorem isUnicodeSpace_of_isSpace : ∀ byte : UInt8, isSpace byte = true →
    byte < 0x80 ∧ isUnicodeSpace byte.toNat = true :=
  forall_byte (by decide +kernel)

/-- **A title has no white space at its ends.** -/
theorem trimAsciiSpace_of_validTitle {title : Bytes} (h : validTitle title = true) :
    trimAsciiSpace title = title := by
  obtain ⟨htrimmed, -, hvalid, -, -⟩ := (validTitle_iff title).1 h
  rw [isTrimmed, Bool.and_eq_true] at htrimmed
  obtain ⟨hhead, hlast⟩ := htrimmed
  refine trimAsciiSpace_eq_self ?_ ?_
  · intro first hfirst
    rw [← Bool.not_eq_true]
    intro hspace
    obtain ⟨hascii, hunicode⟩ := isUnicodeSpace_of_isSpace first hspace
    obtain ⟨rest, rfl⟩ := List.head?_eq_some_iff.1 hfirst
    rw [head?_runes rest hascii, Option.all_some, hunicode] at hhead
    cases hhead
  · intro last hend
    rw [← Bool.not_eq_true]
    intro hspace
    obtain ⟨hascii, hunicode⟩ := isUnicodeSpace_of_isSpace last hspace
    rw [getLast?_runes hvalid hend hascii, Option.all_some, hunicode] at hlast
    cases hlast

/-- A rune has at most four bytes. -/
theorem width_le_of_leadingSequence {text : Bytes} {rune width : ℕ}
    (h : leadingSequence text = some (rune, width)) : width ≤ 4 := by
  cases text with
  | nil => cases h
  | cons first rest =>
      obtain ⟨payload, hleading, -⟩ := (decodes_of_leadingSequence h).leading
      rw [leadingByte] at hleading
      split at hleading
      · cases hleading
        decide
      split at hleading
      · cases hleading
        decide
      split at hleading
      · cases hleading
        decide
      split at hleading
      · cases hleading
        decide
      · cases hleading

theorem length_le_runes (text : Bytes) : text.length ≤ 4 * (runes text).length := by
  fun_induction runes text with
  | case1 => simp
  | case2 first rest rune width hsequence ih =>
      have hwidth : width ≤ 4 := by
        cases hleading : leadingSequence (first :: rest) with
        | none =>
            rw [hleading] at hsequence
            cases hsequence
            decide
        | some sequence =>
            rw [hleading] at hsequence
            exact width_le_of_leadingSequence (hleading.trans (congrArg some hsequence))
      rw [List.length_drop] at ih
      rw [List.length_cons, List.length_cons]
      omega

/-- The size of a title. -/
theorem length_le_of_validTitle {title : Bytes} (h : validTitle title = true) :
    title.length ≤ 256 := by
  have hcount := ((validTitle_iff title).1 h).2.2.2.1
  have hlength := length_le_runes title
  omega

/-! ### Slugs -/

/-- The loop of `slugify`, with the number of bytes written so far: what it writes after them. -/
def slugLoop : List ℕ → (written : ℕ) → (lastHyphen : Bool) → Bytes
  | [], _, _ => []
  | character :: rest, written, lastHyphen =>
      if 0x61 ≤ character ∧ character ≤ 0x7a ∨ 0x30 ≤ character ∧ character ≤ 0x39 then
        if 32 ≤ written then []
        else UInt8.ofNat character :: slugLoop rest (written + 1) false
      else if 0 < written ∧ lastHyphen = false ∧ written < 32 then
        0x2d :: slugLoop rest (written + 1) true
      else slugLoop rest written lastHyphen

def isHyphen (byte : UInt8) : Bool := byte = 0x2d

def slugify (toLower : Bytes → Bytes) (title : Bytes) : Bytes :=
  ((slugLoop (runes (toLower title)) 0 false).dropWhile isHyphen).rdropWhile isHyphen

/-- Lower case letters, digits, and single hyphens between them or at the end. -/
def SlugShape (afterHyphen : Bool) : Bytes → Prop
  | [] => True
  | byte :: rest =>
      (isLower byte = true ∨ isDigit byte = true) ∧ SlugShape false rest ∨
        byte = 0x2d ∧ afterHyphen = false ∧ SlugShape true rest

theorem slugShape_slugLoop (list : List ℕ) (written : ℕ) (lastHyphen : Bool) :
    SlugShape (written == 0 || lastHyphen) (slugLoop list written lastHyphen) := by
  fun_induction slugLoop list written lastHyphen with
  | case1 => trivial
  | case2 => trivial
  | case3 character rest written lastHyphen hvalid hroom ih =>
      refine Or.inl ⟨?_, ?_⟩
      · have hsmall : character < 256 := by omega
        rw [isLower, isDigit, decide_eq_true_eq, decide_eq_true_eq, UInt8.le_iff_toNat_le,
          UInt8.le_iff_toNat_le, UInt8.le_iff_toNat_le, UInt8.le_iff_toNat_le,
          UInt8.toNat_ofNat_of_lt' hsmall]
        exact hvalid
      · have hfirst : (written + 1 == 0 || false) = false := by simp
        rw [← hfirst]
        exact ih
  | case4 character rest written lastHyphen _ hyphen ih =>
      refine Or.inr ⟨rfl, ?_, ?_⟩
      · rw [hyphen.2.1, Bool.or_false, beq_eq_false_iff_ne]
        exact Nat.ne_of_gt hyphen.1
      · rw [Bool.or_true] at ih
        exact ih
  | case5 character rest written lastHyphen _ _ ih => exact ih

theorem length_slugLoop_le (list : List ℕ) (written : ℕ) (lastHyphen : Bool) (h : written ≤ 32) :
    (slugLoop list written lastHyphen).length + written ≤ 32 := by
  fun_induction slugLoop list written lastHyphen with
  | case1 => simpa using h
  | case2 => simpa using h
  | case3 character rest written lastHyphen _ hroom ih =>
      have := ih (by omega)
      rw [List.length_cons]
      omega
  | case4 character rest written lastHyphen _ hyphen ih =>
      have := ih (by omega)
      rw [List.length_cons]
      omega
  | case5 character rest written lastHyphen _ _ ih => exact ih h

theorem SlugShape.of_front {afterHyphen : Bool} {text front : Bytes}
    (h : SlugShape afterHyphen text) (hfront : front <+: text) : SlugShape afterHyphen front := by
  induction front generalizing afterHyphen text with
  | nil => trivial
  | cons byte front ih =>
      obtain ⟨rest, rfl⟩ := hfront
      have hrest : front <+: front ++ rest := List.prefix_append front rest
      rcases h with ⟨hbyte, h⟩ | ⟨hbyte, hafter, h⟩
      · exact Or.inl ⟨hbyte, ih h hrest⟩
      · exact Or.inr ⟨hbyte, hafter, ih h hrest⟩

theorem isHyphen_of_alphanumeric {byte : UInt8} (h : isLower byte = true ∨ isDigit byte = true) :
    isHyphen byte = false := by
  rw [isHyphen, decide_eq_false_iff_not]
  rintro rfl
  revert h
  decide

instance decidableSlugShape : ∀ (afterHyphen : Bool) (text : Bytes),
    Decidable (SlugShape afterHyphen text)
  | _, [] => .isTrue trivial
  | afterHyphen, byte :: rest =>
      have := decidableSlugShape false rest
      have := decidableSlugShape true rest
      inferInstanceAs (Decidable ((isLower byte = true ∨ isDigit byte = true) ∧
        SlugShape false rest ∨ byte = 0x2d ∧ afterHyphen = false ∧ SlugShape true rest))

/-- Words that end with a hyphen are continued by a slug. -/
theorem SlugShape.append {afterHyphen : Bool} {front rest : Bytes}
    (hfront : SlugShape afterHyphen (front ++ [0x2d])) (hrest : SlugShape true rest) :
    SlugShape afterHyphen (front ++ 0x2d :: rest) := by
  induction front generalizing afterHyphen with
  | nil =>
      rcases hfront with ⟨hbyte, -⟩ | ⟨hbyte, hafter, -⟩
      · exact absurd hbyte (by decide)
      · exact Or.inr ⟨hbyte, hafter, hrest⟩
  | cons byte front ih =>
      rcases hfront with ⟨hbyte, h⟩ | ⟨hbyte, hafter, h⟩
      · exact Or.inl ⟨hbyte, ih h⟩
      · exact Or.inr ⟨hbyte, hafter, ih h⟩

/-- What is written first is no hyphen. -/
theorem SlugShape.dropWhile_eq {text : Bytes} (h : SlugShape true text) :
    text.dropWhile isHyphen = text := by
  cases text with
  | nil => rfl
  | cons byte rest =>
      rcases h with ⟨hbyte, -⟩ | ⟨-, hafter, -⟩
      · rw [List.dropWhile_cons_of_neg (by rw [isHyphen_of_alphanumeric hbyte]; decide)]
      · cases hafter

theorem slugify_eq (toLower : Bytes → Bytes) (title : Bytes) :
    slugify toLower title =
      (slugLoop (runes (toLower title)) 0 false).rdropWhile isHyphen := by
  rw [slugify, (slugShape_slugLoop (runes (toLower title)) 0 false).dropWhile_eq]

/-- **A slug** consists of words that are joined by single hyphens. -/
theorem slugShape_slugify (toLower : Bytes → Bytes) (title : Bytes) :
    SlugShape true (slugify toLower title) := by
  rw [slugify_eq]
  exact (slugShape_slugLoop (runes (toLower title)) 0 false).of_front
    ( List.rdropWhile_prefix _ _)

theorem length_slugify_le (toLower : Bytes → Bytes) (title : Bytes) :
    (slugify toLower title).length ≤ 32 := by
  rw [slugify_eq]
  exact Nat.le_trans ( List.rdropWhile_prefix _ _).length_le
    (length_slugLoop_le (runes (toLower title)) 0 false (Nat.zero_le 32))

/-- A slug does not end with a hyphen. -/
theorem getLast_slugify (toLower : Bytes → Bytes) (title : Bytes)
    (h : slugify toLower title ≠ []) : isHyphen ((slugify toLower title).getLast h) = false := by
  rw [← Bool.not_eq_true]
  exact List.rdropWhile_last_not isHyphen _ h

/-- Such words are accepted by the menu as the end of an id. -/
theorem validIdLoop_of_slugShape {text : Bytes} {previous : UInt8}
    (h : SlugShape (isHyphen previous) text)
    (hlast : ∀ hne : text ≠ [], isHyphen (text.getLast hne) = false) :
    validIdLoop text (some previous) = true := by
  induction text generalizing previous with
  | nil => rfl
  | cons byte rest ih =>
      have hrest : ∀ hne : rest ≠ [], isHyphen (rest.getLast hne) = false := by
        intro hne
        have := hlast (List.cons_ne_nil byte rest)
        rwa [List.getLast_cons hne] at this
      rw [validIdLoop]
      rcases h with ⟨hbyte, h⟩ | ⟨rfl, hafter, h⟩
      · have hnot := isHyphen_of_alphanumeric hbyte
        have hne : byte ≠ 0x2d := of_decide_eq_false hnot
        rw [if_neg (by tauto), if_neg (by simp), if_neg (fun h => hne h.1)]
        exact ih (hnot ▸ h) hrest
      · rw [if_neg (by simp), if_neg (by simp), if_neg]
        · exact ih h hrest
        · rintro ⟨-, hend | hprevious⟩
          · subst hend
            have := hlast (List.cons_ne_nil _ _)
            cases this
          · rw [Option.some.injEq] at hprevious
            rw [hprevious] at hafter
            cases hafter

end NesDeck.Uploader
