/-
**Texts as awk compares them.**

A field, a record or a value given with `-v` that has the form of a number is compared as one when
the other side has that form, too: both are read as IEEE doubles.  All other texts are compared
byte by byte.  Two different texts may therefore be equal: because they spell one number in two
ways, or because both are rounded to the same double.

What becomes of a number that is out of the range of the doubles is left open, and the
implementations differ: one goes on with an infinity, another compares the texts, a third subtracts
two infinities and finds that a text is not even equal to itself.  It is a parameter here.

Main definitions:

* `Awk.number` — the number that a text has the form of;
* `Awk.toDouble` — the nearest double, ties to even;
* `Awk.Reading`, `Awk.Beyond` — what a text is compared as, and what an awk reads out of the range;
* `Awk.equal` — the comparison;
* `Awk.field` — the fields of a record;
* `Awk.assigned` — the value a variable has after `-v`, where a backslash starts an escape.

Main results:

* `Awk.equal_iff_key` — **the comparison is an equality of keys**, so that it is symmetric and
  transitive; a text without key is equal to none, not even to itself;
* `Awk.assigned_of_not_mem` — a text without backslash is assigned as it is.
-/

import Mathlib.Algebra.Group.Nat.Defs
import Mathlib.Data.Int.Notation
import Mathlib.Data.List.TakeWhile
import NesDeck.Lib.HostFile

set_option relaxedAutoImplicit false
set_option autoImplicit false

namespace Awk

open HostFile (Bytes)

/-! ### The form of a number -/

/-- A decimal number: its sign, its digits, and the power of ten they are multiplied by. -/
structure Decimal where
  negative : Bool
  mantissa : ℕ
  exponent : ℤ

def isDigit (c : UInt8) : Bool := 0x30 ≤ c && c ≤ 0x39

def isBlank (c : UInt8) : Bool := c = 0x20 || c = 0x09

/-- The number of some digits. -/
def digitsValue (digits : Bytes) : ℕ := digits.foldl (fun n c => 10 * n + (c.toNat - 0x30)) 0

/-- A text without the blanks on its two sides. -/
def trim (text : Bytes) : Bytes :=
  ((text.dropWhile isBlank).reverse.dropWhile isBlank).reverse

/-- The sign in front of a text, and what follows it. -/
def splitSign : Bytes → Bool × Bytes
  | [] => (false, [])
  | c :: text =>
      if c = 0x2b then (false, text) else if c = 0x2d then (true, text) else (false, c :: text)

/-- What follows the digits of a number: nothing, or an `e`, a sign and at least one digit. -/
def exponentPart : Bytes → Option ℤ
  | [] => some 0
  | c :: text =>
      let (negative, digits) := splitSign text
      if (c = 0x65 ∨ c = 0x45) ∧ digits ≠ [] ∧ digits.all isDigit then
        some (if negative then -(digitsValue digits : ℤ) else digitsValue digits)
      else none

/-- The digits after a point, if there is one, and what follows them. -/
def fractionPart : Bytes → Bytes × Bytes
  | [] => ([], [])
  | c :: text =>
      if c = 0x2e then (text.takeWhile isDigit, text.dropWhile isDigit) else ([], c :: text)

/-- The number that a text has the form of: digits with at most one point, perhaps a sign before
them and an exponent after them, between blanks. -/
def number (text : Bytes) : Option Decimal :=
  let (negative, body) := splitSign (trim text)
  let whole := body.takeWhile isDigit
  let (fraction, rest) := fractionPart (body.dropWhile isDigit)
  if whole = [] ∧ fraction = [] then none
  else
    (exponentPart rest).map fun exponent =>
      ⟨negative, digitsValue (whole ++ fraction), exponent - fraction.length⟩

/-! ### Doubles -/

/-- A double: `mantissa * 2 ^ exponent` with a mantissa of at most 53 bits, or an infinity. There is
one zero, since the two zeros compare equal. -/
inductive Double where
  | finite (negative : Bool) (mantissa : ℕ) (exponent : ℤ)
  | infinite (negative : Bool)
  deriving DecidableEq

def Double.zero : Double := .finite false 0 (-1074)

/-- `p / q` as a whole number, ties to even. -/
def halfEven (p q : ℕ) : ℕ :=
  if 2 * (p % q) < q ∨ 2 * (p % q) = q ∧ p / q % 2 = 0 then p / q else p / q + 1

/-- The fraction `p / q` divided by a power of two. -/
def scaled (p q : ℕ) (exponent : ℤ) : ℕ × ℕ :=
  if 0 ≤ exponent then (p, q * 2 ^ exponent.toNat) else (p * 2 ^ (-exponent).toNat, q)

/-- The double nearest to `p / q`, for positive `p` and `q`. -/
def nearest (negative : Bool) (p q : ℕ) : Double :=
  -- The quotient has 53 or 54 bits when it is scaled by the first guess.
  let guess : ℤ := Nat.log2 p - Nat.log2 q - 53
  let (a, b) := scaled p q guess
  let exponent := max (if a / b < 2 ^ 53 then guess else guess + 1) (-1074)
  let (a, b) := scaled p q exponent
  let mantissa := halfEven a b
  let (mantissa, exponent) :=
    if mantissa = 2 ^ 53 then (2 ^ 52, exponent + 1) else (mantissa, exponent)
  if mantissa = 0 then Double.zero
  else if 971 < exponent then .infinite negative
  else .finite negative mantissa exponent

/-- The double nearest to a decimal number.  Above `10 ^ 400` every number is infinite, below
`10 ^ (-400)` it is zero, so that no huge power has to be computed. -/
def toDouble (d : Decimal) : Double :=
  if d.mantissa = 0 then Double.zero
  else if 400 < d.exponent then .infinite d.negative
  else if d.exponent < -(400 + Nat.log2 d.mantissa : ℤ) then Double.zero
  else if 0 ≤ d.exponent then nearest d.negative (d.mantissa * 10 ^ d.exponent.toNat) 1
  else nearest d.negative d.mantissa (10 ^ (-d.exponent).toNat)

/-- The double has all its 53 bits: it is neither infinite nor too small. -/
def Double.isNormal : Double → Bool
  | .finite _ mantissa _ => 2 ^ 52 ≤ mantissa
  | .infinite _ => false

/-- The number is zero, or its double is in the range where the precision is the full one. -/
def Decimal.inRange (d : Decimal) : Bool := d.mantissa = 0 || (toDouble d).isNormal

/-! ### The comparison -/

/-- What a text is compared as: as a double, as a text, or as what is equal to nothing. -/
inductive Reading where
  | number (double : Double)
  | text
  | nan
  deriving DecidableEq

/-- What an awk reads in a text that has the form of a number out of the range. -/
abbrev Beyond : Type := Bytes → Reading

/-- What an awk reads in a text. -/
def read (beyond : Beyond) (text : Bytes) : Reading :=
  match number text with
  | some d => if d.inRange then .number (toDouble d) else beyond text
  | none => .text

/-- An awk that goes on with the double of any number, be it infinite or too small. -/
def ieee : Beyond := fun text => (number text).elim .text fun d => .number (toDouble d)

/-- Two texts are equal: as doubles when both are read as such, as bytes when one is read as a
text. -/
def equal (beyond : Beyond) (a b : Bytes) : Bool :=
  match read beyond a, read beyond b with
  | .number x, .number y => x = y
  | .text, _ => a = b
  | _, .text => a = b
  | _, _ => false

/-- What the comparison looks at. -/
def key (beyond : Beyond) (text : Bytes) : Option (Double ⊕ Bytes) :=
  match read beyond text with
  | .number x => some (.inl x)
  | .text => some (.inr text)
  | .nan => none

variable {beyond : Beyond}

/-- **The comparison is an equality of keys.** -/
theorem equal_iff_key (a b : Bytes) :
    equal beyond a b = true ↔ ∃ k, key beyond a = some k ∧ key beyond b = some k := by
  unfold equal key
  by_cases hread : read beyond b = read beyond a
  · rw [hread]
    cases read beyond a with
    | number x => simp
    | text => simp [eq_comm]
    | nan => simp
  · -- Two texts that are read in different ways are not the same.
    have hne : a ≠ b := by
      rintro rfl
      exact hread rfl
    cases ha : read beyond a <;> cases hb : read beyond b <;> rw [ha, hb] at hread <;>
      simp [hne, eq_comm] at hread ⊢

/-! ### Records and fields -/

/-- The records of a file: its lines, with or without a newline after the last one. -/
def records : Bytes → List Bytes
  | [] => []
  | c :: text =>
      if c = 0x0a then [] :: records text
      else
        match records text with
        | [] => [[c]]
        | line :: lines => (c :: line) :: lines

/-- The first field of a record with one-byte separators, and what follows its separator. -/
def cut (separator : UInt8) (record : Bytes) : Bytes × Bytes :=
  (record.takeWhile (· ≠ separator), (record.dropWhile (· ≠ separator)).drop 1)

/-- The first field of a record. -/
def field (separator : UInt8) (record : Bytes) : Bytes := (cut separator record).1

/-- The second field of a record. -/
def field₂ (separator : UInt8) (record : Bytes) : Bytes :=
  field separator (cut separator record).2

theorem field_append {separator : UInt8} {a b : Bytes} (h : separator ∉ a) :
    field separator (a ++ separator :: b) = a := by
  unfold field cut
  induction a with
  | nil => simp
  | cons c a ih =>
      rw [List.mem_cons, not_or] at h
      rw [List.cons_append, List.takeWhile_cons_of_pos (by simpa using Ne.symm h.1)]
      exact congrArg _ (ih h.2)

theorem cut_append {separator : UInt8} {a b : Bytes} (h : separator ∉ a) :
    (cut separator (a ++ separator :: b)).2 = b := by
  unfold cut
  induction a with
  | nil => simp
  | cons c a ih =>
      rw [List.mem_cons, not_or] at h
      rw [List.cons_append, List.dropWhile_cons_of_pos (by simpa using Ne.symm h.1)]
      exact ih h.2

/-- A line and its newline are one record. -/
theorem records_cons_line {line rest : Bytes} (h : 0x0a ∉ line) :
    records (line ++ 0x0a :: rest) = line :: records rest := by
  induction line with
  | nil => rfl
  | cons c line ih =>
      rw [List.mem_cons, not_or] at h
      rw [List.cons_append, records, if_neg (Ne.symm h.1), ih h.2]

/-! ### Assignments -/

def isOctal (c : UInt8) : Bool := 0x30 ≤ c && c ≤ 0x37

/-- The byte of an escape with one letter; other letters stand for themselves. -/
def escaped (c : UInt8) : UInt8 :=
  if c = 0x61 then 0x07 else if c = 0x62 then 0x08 else if c = 0x66 then 0x0c
  else if c = 0x6e then 0x0a else if c = 0x72 then 0x0d else if c = 0x74 then 0x09
  else if c = 0x76 then 0x0b else c

/-- What was read of an escape. -/
inductive Escape where
  | no
  | backslash
  | octal (value count : ℕ)

/-- Reading a text with escapes. -/
def unescape : Escape → Bytes → Bytes
  | .no, [] => []
  | .backslash, [] => [0x5c]
  | .octal value _, [] => [UInt8.ofNat value]
  | .no, c :: text => if c = 0x5c then unescape .backslash text else c :: unescape .no text
  | .backslash, c :: text =>
      if isOctal c then unescape (.octal (c.toNat - 0x30) 1) text
      else escaped c :: unescape .no text
  | .octal value count, c :: text =>
      if isOctal c ∧ count < 3
        then unescape (.octal (8 * value + (c.toNat - 0x30)) (count + 1)) text
      else if c = 0x5c then UInt8.ofNat value :: unescape .backslash text
      else UInt8.ofNat value :: c :: unescape .no text

/-- The value of a variable that is given with `-v`. -/
def assigned (text : Bytes) : Bytes := unescape .no text

/-- A text without backslash is assigned as it is. -/
theorem assigned_of_not_mem {text : Bytes} (h : 0x5c ∉ text) : assigned text = text := by
  unfold assigned
  induction text with
  | nil => rfl
  | cons c text ih =>
      rw [List.mem_cons, not_or] at h
      rw [unescape, if_neg (Ne.symm h.1), ih h.2]

end Awk
