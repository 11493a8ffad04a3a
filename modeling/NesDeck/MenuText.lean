/-
**The text helpers of the menu.**

`menu_text.cpp` works on the bytes of a `std::string`.  It recognises absolute paths, trims ASCII
white space, accepts UTF-8 text without control characters, reduces such text to the ASCII that
the bitmap font can show, and splits a manifest line at its tabs.

Main definitions:

* `NesDeck.MenuText.isAbsolutePath`, `NesDeck.MenuText.trimAsciiSpace`,
  `NesDeck.MenuText.validUtf8Text`, `NesDeck.MenuText.displayAscii`, `NesDeck.MenuText.splitTabs`.

Main results:

* `NesDeck.MenuText.displayAscii_displayAscii` — reducing a text twice is reducing it once;
* `NesDeck.MenuText.length_displayAscii_le` — the reduced text is not longer;
* `NesDeck.MenuText.length_displayAscii_of_validUtf8Text` — an accepted text is shown with as many
  characters as it has code points.
-/

import Mathlib.Data.List.DropRight
import Mathlib.Data.Bool.AllAny
import NesDeck.Lib.HostFile

set_option relaxedAutoImplicit false
set_option autoImplicit false

namespace NesDeck.MenuText

open HostFile (Bytes ascii)

/-! ### Paths and white space -/

/-- The length limit of the system for a path, with the final zero byte. -/
def pathMax : ℕ := 4096

def isAbsolutePath (path : Bytes) : Bool :=
  path.head? = some 0x2f ∧ path.length < pathMax

/-- `std::isspace` in the C locale. -/
def isSpace (character : UInt8) : Bool := character = 0x20 ∨ 0x09 ≤ character ∧ character ≤ 0x0d

def trimAsciiSpace (text : Bytes) : Bytes := (text.dropWhile isSpace).rdropWhile isSpace

/-- A text without white space at its ends is left as it is. -/
theorem trimAsciiSpace_eq_self {text : Bytes}
    (hhead : ∀ first, text.head? = some first → isSpace first = false)
    (hlast : ∀ last, text.getLast? = some last → isSpace last = false) :
    trimAsciiSpace text = text := by
  have hdrop : text.dropWhile isSpace = text := by
    cases text with
    | nil => rfl
    | cons first rest => rw [List.dropWhile_cons_of_neg (by simp [hhead first rfl])]
  rw [trimAsciiSpace, hdrop, List.rdropWhile_eq_self_iff]
  intro hne
  rw [hlast _ (List.getLast?_eq_some_getLast hne)]
  exact Bool.false_ne_true

/-! ### UTF-8 -/

/-- The payload of a leading byte and the length of the sequence that it starts. -/
def leadingByte (first : UInt8) : Option (ℕ × ℕ) :=
  if first < 0x80 then some (first.toNat, 1)
  else if first &&& 0xe0 = 0xc0 then some ((first &&& 0x1f).toNat, 2)
  else if first &&& 0xf0 = 0xe0 then some ((first &&& 0x0f).toNat, 3)
  else if first &&& 0xf8 = 0xf0 then some ((first &&& 0x07).toNat, 4)
  else none

/-- The loop over the continuation bytes. -/
def continuationBytes : Bytes → ℕ → Option ℕ
  | [], codepoint => some codepoint
  | next :: rest, codepoint =>
      if next &&& 0xc0 ≠ 0x80 then none
      else continuationBytes rest (codepoint * 64 + (next &&& 0x3f).toNat)

/-- Whether a code point of a sequence of the given length is one the text may contain: in its
shortest form, not a surrogate, and not a control character. -/
def validCodepoint (length codepoint : ℕ) : Bool :=
  ¬ (length = 2 ∧ codepoint < 0x80 ∨ length = 3 ∧ codepoint < 0x800 ∨
      length = 4 ∧ codepoint < 0x10000 ∨ 0x10ffff < codepoint ∨
      0xd800 ≤ codepoint ∧ codepoint ≤ 0xdfff) ∧
    ¬ (codepoint < 0x20 ∨ codepoint = 0x7f)

/-- The loop over the sequences of the text, `count` of them being behind it. -/
def validUtf8Loop (maxCodepoints : ℕ) : Bytes → ℕ → Bool
  | [], _ => true
  | first :: rest, count =>
      match leadingByte first with
      | none => false
      | some (payload, length) =>
          if rest.length + 1 < length then false
          else
            match continuationBytes (rest.take (length - 1)) payload with
            | none => false
            | some codepoint =>
                if validCodepoint length codepoint = false then false
                else if maxCodepoints < count + 1 then false
                else validUtf8Loop maxCodepoints (rest.drop (length - 1)) (count + 1)
termination_by text => text.length
decreasing_by simp only [List.length_drop, List.length_cons]; omega

def validUtf8Text (text : Bytes) (maxCodepoints : ℕ) (allowEmpty : Bool) : Bool :=
  if text = [] then allowEmpty else validUtf8Loop maxCodepoints text 0

/-- Printable ASCII is accepted up to the length limit. -/
theorem validUtf8Loop_of_printable {maxCodepoints : ℕ} {text : Bytes} {count : ℕ}
    (h : ∀ character ∈ text, 0x20 ≤ character ∧ character < 0x7f)
    (hlength : count + text.length ≤ maxCodepoints) :
    validUtf8Loop maxCodepoints text count = true := by
  induction text generalizing count with
  | nil => rw [validUtf8Loop]
  | cons first rest ih =>
      obtain ⟨hlow, hhigh⟩ := h first (List.mem_cons_self ..)
      rw [List.length_cons] at hlength
      have hlead : leadingByte first = some (first.toNat, 1) := by
        rw [leadingByte, if_pos (UInt8.lt_trans hhigh (by decide))]
      have hcodepoint : validCodepoint 1 first.toNat = true := by
        have hlow' := UInt8.le_iff_toNat_le.1 hlow
        have hhigh' := UInt8.lt_iff_toNat_lt.1 hhigh
        have h20 : (0x20 : UInt8).toNat = 0x20 := rfl
        have h7f : (0x7f : UInt8).toNat = 0x7f := rfl
        rw [validCodepoint, decide_eq_true_eq]
        omega
      rw [validUtf8Loop, hlead]
      dsimp only
      rw [if_neg (by omega), Nat.sub_self, List.take_zero, continuationBytes]
      dsimp only
      rw [hcodepoint, if_neg (by decide), if_neg (by omega), List.drop_zero]
      exact ih (fun character hmem => h character (List.mem_cons_of_mem _ hmem)) (by omega)

theorem validUtf8Text_of_printable {text : Bytes} {maxCodepoints : ℕ} (allowEmpty : Bool)
    (hne : text ≠ []) (h : ∀ character ∈ text, 0x20 ≤ character ∧ character < 0x7f)
    (hlength : text.length ≤ maxCodepoints) :
    validUtf8Text text maxCodepoints allowEmpty = true := by
  rw [validUtf8Text, if_neg hne]
  exact validUtf8Loop_of_printable h (by omega)

/-- The continuation bytes of an accepted sequence lie outside ASCII. -/
theorem continuationBytes_ge {bytes : Bytes} {codepoint result : ℕ}
    (h : continuationBytes bytes codepoint = some result) :
    ∀ byte ∈ bytes, 0x80 ≤ byte := by
  fun_induction continuationBytes bytes codepoint with
  | case1 => simp
  | case2 => cases h
  | case3 codepoint next rest hnext ih =>
      rw [not_not] at hnext
      intro byte hmem
      rcases List.mem_cons.1 hmem with rfl | hmem
      · have hle : byte &&& 0xc0 ≤ byte := by
          rw [UInt8.le_iff_toNat_le, UInt8.toNat_and]
          exact Nat.and_le_left
        rw [hnext] at hle
        exact hle
      · exact ih h byte hmem

/-- An accepted text has no control characters of ASCII. -/
theorem ge_of_validUtf8Loop {maxCodepoints : ℕ} {text : Bytes} {count : ℕ}
    (h : validUtf8Loop maxCodepoints text count = true) : ∀ byte ∈ text, 0x20 ≤ byte := by
  fun_induction validUtf8Loop maxCodepoints text count with
  | case1 => simp
  | case2 => cases h
  | case3 => cases h
  | case4 => cases h
  | case5 => cases h
  | case6 => cases h
  | case7 first rest count payload length hleading hlength codepoint hcodepoint hvalid hroom ih =>
      have hfirst : 0x20 ≤ first := by
        rw [leadingByte] at hleading
        split at hleading
        · rename_i hascii
          cases hleading
          rw [Nat.sub_self, List.take_zero, continuationBytes] at hcodepoint
          cases hcodepoint
          rw [Bool.not_eq_false, validCodepoint, decide_eq_true_eq] at hvalid
          rw [UInt8.le_iff_toNat_le]
          have h20 : (0x20 : UInt8).toNat = 0x20 := rfl
          omega
        · rename_i hascii
          exact UInt8.le_trans (by decide) (UInt8.not_lt.1 hascii)
      intro byte hmem
      rcases List.mem_cons.1 hmem with rfl | hmem
      · exact hfirst
      · rw [← List.take_append_drop (length - 1) rest] at hmem
        rcases List.mem_append.1 hmem with hmem | hmem
        · exact UInt8.le_trans (by decide) (continuationBytes_ge hcodepoint byte hmem)
        · exact ih h byte hmem

theorem ge_of_validUtf8Text {text : Bytes} {maxCodepoints : ℕ} {allowEmpty : Bool}
    (h : validUtf8Text text maxCodepoints allowEmpty = true) : ∀ byte ∈ text, 0x20 ≤ byte := by
  rw [validUtf8Text] at h
  split at h
  · rename_i hnil
    simp [hnil]
  · exact ge_of_validUtf8Loop h

/-! ### Reducing a text to ASCII -/

/-- The length of the sequence that a byte outside ASCII announces. -/
def sequenceLength (first : UInt8) : ℕ :=
  if first &&& 0xe0 = 0xc0 then 2
  else if first &&& 0xf0 = 0xe0 then 3
  else if first &&& 0xf8 = 0xf0 then 4
  else 1

/-- A question mark stands for every sequence outside ASCII. -/
def displayAscii : Bytes → Bytes
  | [] => []
  | first :: rest =>
      if first < 0x80 then first :: displayAscii rest
      else 0x3f :: displayAscii (rest.drop (sequenceLength first - 1))
termination_by text => text.length
decreasing_by all_goals simp only [List.length_drop, List.length_cons]; omega

@[simp] theorem displayAscii_nil : displayAscii [] = [] := by rw [displayAscii]

/-- The reduced text is not longer. -/
theorem length_displayAscii_le (text : Bytes) : (displayAscii text).length ≤ text.length := by
  fun_induction displayAscii text with
  | case1 => simp
  | case2 first rest hfirst ih => simpa using ih
  | case3 first rest hfirst ih =>
      simp only [List.length_cons, List.length_drop] at ih ⊢
      omega

/-- The reduced text is ASCII. -/
theorem lt_of_mem_displayAscii {text : Bytes} {character : UInt8}
    (h : character ∈ displayAscii text) : character < 0x80 := by
  fun_induction displayAscii text with
  | case1 => simp at h
  | case2 first rest hfirst ih =>
      rcases List.mem_cons.1 h with rfl | h
      · exact hfirst
      · exact ih h
  | case3 first rest hfirst ih =>
      rcases List.mem_cons.1 h with rfl | h
      · decide
      · exact ih h

/-- An ASCII text is its own reduction. -/
theorem displayAscii_eq_self {text : Bytes} (h : ∀ character ∈ text, character < 0x80) :
    displayAscii text = text := by
  induction text with
  | nil => simp
  | cons first rest ih =>
      rw [displayAscii, if_pos (h first (List.mem_cons_self ..)),
        ih fun character hmem => h character (List.mem_cons_of_mem _ hmem)]

/-- Reducing a text twice is reducing it once. -/
@[simp] theorem displayAscii_displayAscii (text : Bytes) :
    displayAscii (displayAscii text) = displayAscii text :=
  displayAscii_eq_self fun _ h => lt_of_mem_displayAscii h

/-- The reduction of an ASCII front is that front. -/
theorem displayAscii_append_of_ascii {text : Bytes} (h : ∀ character ∈ text, character < 0x80)
    (rest : Bytes) : displayAscii (text ++ rest) = text ++ displayAscii rest := by
  induction text with
  | nil => rfl
  | cons first text ih =>
      rw [List.cons_append, displayAscii, if_pos (h first (List.mem_cons_self ..)),
        ih fun character hmem => h character (List.mem_cons_of_mem _ hmem), List.cons_append]

/-- A sequence at the end of the front may swallow some of the bytes behind it. -/
theorem length_displayAscii_append_le (text rest : Bytes) :
    (displayAscii (text ++ rest)).length ≤ (displayAscii text).length + rest.length := by
  fun_induction displayAscii text with
  | case1 =>
      have := length_displayAscii_le rest
      rw [List.nil_append]
      omega
  | case2 first text hfirst ih =>
      rw [List.cons_append, displayAscii, if_pos hfirst, List.length_cons, List.length_cons]
      omega
  | case3 first text hfirst ih =>
      rw [List.cons_append, displayAscii, if_neg hfirst, List.length_cons, List.length_cons]
      rcases Nat.le_total (sequenceLength first - 1) text.length with hle | hle
      · rw [List.drop_append_of_le_length hle]
        omega
      · have hdrop : (text ++ rest).drop (sequenceLength first - 1) =
            rest.drop (sequenceLength first - 1 - text.length) := by
          rw [List.drop_append, List.drop_of_length_le hle, List.nil_append]
        have := length_displayAscii_le (rest.drop (sequenceLength first - 1 - text.length))
        rw [List.length_drop] at this
        rw [hdrop]
        omega

/-- The two functions agree on the length of a sequence. -/
theorem sequenceLength_of_leadingByte {first : UInt8} {payload length : ℕ}
    (h : leadingByte first = some (payload, length)) (hfirst : ¬first < 0x80) :
    sequenceLength first = length := by
  rw [leadingByte, if_neg hfirst] at h
  rw [sequenceLength]
  split at h
  · rename_i htwo
    cases h
    rw [if_pos htwo]
  rename_i htwo
  split at h
  · rename_i hthree
    cases h
    rw [if_neg htwo, if_pos hthree]
  rename_i hthree
  split at h
  · rename_i hfour
    cases h
    rw [if_neg htwo, if_neg hthree, if_pos hfour]
  · cases h

/-- Every sequence is shown as one character. -/
theorem displayAscii_cons_of_leadingByte {first : UInt8} {payload length : ℕ} (rest : Bytes)
    (h : leadingByte first = some (payload, length)) :
    (displayAscii (first :: rest)).length = (displayAscii (rest.drop (length - 1))).length + 1 := by
  rw [displayAscii]
  split
  · rename_i hfirst
    rw [leadingByte, if_pos hfirst] at h
    cases h
    rw [Nat.sub_self, List.drop_zero, List.length_cons]
  · rename_i hfirst
    rw [sequenceLength_of_leadingByte h hfirst, List.length_cons]

theorem length_displayAscii_of_validUtf8Loop {maxCodepoints : ℕ} {text : Bytes} {count : ℕ}
    (h : validUtf8Loop maxCodepoints text count = true) (hcount : count ≤ maxCodepoints) :
    count + (displayAscii text).length ≤ maxCodepoints := by
  fun_induction validUtf8Loop maxCodepoints text count with
  | case1 => simpa using hcount
  | case2 => cases h
  | case3 => cases h
  | case4 => cases h
  | case5 => cases h
  | case6 => cases h
  | case7 first rest count payload length hleading _ codepoint _ _ hroom ih =>
      have := ih h (Nat.not_lt.1 hroom)
      rw [displayAscii_cons_of_leadingByte rest hleading]
      omega

/-- A text of at most `maxCodepoints` code points is shown with as many characters. -/
theorem length_displayAscii_of_validUtf8Text {text : Bytes} {maxCodepoints : ℕ}
    {allowEmpty : Bool} (h : validUtf8Text text maxCodepoints allowEmpty = true) :
    (displayAscii text).length ≤ maxCodepoints := by
  rw [validUtf8Text] at h
  split at h
  · rename_i hnil
    rw [hnil, displayAscii_nil]
    exact Nat.zero_le _
  · have := length_displayAscii_of_validUtf8Loop h (Nat.zero_le _)
    omega

/-! ### Splitting a line -/

/-- The fields of a line, cut at every tab. -/
def splitTabs (line : Bytes) : List Bytes := line.splitOn 0x09

/-- Tabs between the fields make the line again. -/
theorem intercalate_splitTabs (line : Bytes) : List.intercalate [0x09] (splitTabs line) = line :=
  List.intercalate_splitOn _

end NesDeck.MenuText
