/-
**The password of the upload service.**

The password is kept as the digest that PBKDF2 makes of it, with the salt and the number of rounds,
in a file of four lines. `--set-password` writes the file from a line on standard input, the service
reads it when it starts, and a login is right when the digest of what was typed is the one of the
file.

Main definitions:

* `NesDeck.Uploader.Mac` — the keyed hash, which stays a parameter;
* `NesDeck.Uploader.derivePassword`, `NesDeck.Uploader.PasswordConfig.accepts` — the digest of a
  password, and the comparison with it;
* `NesDeck.Uploader.encodePasswordConfig`, `NesDeck.Uploader.parsePasswordConfig` — the file;
* `NesDeck.Uploader.readPassword`, `NesDeck.Uploader.setPassword`,
  `NesDeck.Uploader.loadPasswordConfig` — the commands;
* `NesDeck.Uploader.IsPasswordFile` — what a file with a configuration looks like.

Main results:

* `NesDeck.Uploader.derivePassword_eq` — the digest is the sum of the rounds;
* `NesDeck.Uploader.parsePasswordConfig_iff` — **exactly the files of three fields, in any order,
  are read**;
* `NesDeck.Uploader.setPassword_spec` — **the password that was set is the one that is accepted**,
  and a failed command leaves the old file or the new one.
-/

import NesDeck.Lib.Base64
import NesDeck.Lib.Table
import NesDeck.Lib.Words
import NesDeck.Uploader.Store

set_option relaxedAutoImplicit false
set_option autoImplicit false

namespace NesDeck.Uploader

open HostFile (Bytes ascii)

def passwordIterations : ℕ := 210000

def minimumPasswordSize : ℕ := 8

def maximumPasswordSize : ℕ := 128

/-- HMAC with SHA-256: 32 bytes for a key and a message. -/
structure Mac where
  sum : (key message : Bytes) → Bytes
  length_sum : ∀ key message, (sum key message).length = 32

/-- `passwordConfig`. -/
structure PasswordConfig where
  iterations : ℤ
  salt : Bytes
  digest : Bytes
  deriving DecidableEq

/-! ### The digest of a password -/

section Digest

variable (mac : Mac)

/-- The rounds after the first one: the last `u`, and what the rounds before amount to. -/
def deriveLoop (password : Bytes) : (rounds : ℕ) → (u result : Bytes) → Bytes
  | 0, _, result => result
  | rounds + 1, u, result =>
      let u := mac.sum password u
      deriveLoop password rounds u (List.zipWith (· ^^^ ·) result u)

/-- `derivePassword`. -/
def derivePassword (password salt : Bytes) (iterations : ℤ) : Bytes :=
  let u := mac.sum password (salt ++ [0, 0, 0, 1])
  deriveLoop mac password (iterations - 1).toNat u u

/-- `newPasswordConfig`, with the random bytes of the salt if they can be read. -/
def newPasswordConfig (password : Bytes) (random : Option Bytes) : Option PasswordConfig :=
  if password.length < minimumPasswordSize ∨ maximumPasswordSize < password.length then none
  else random.map fun salt =>
    ⟨passwordIterations, salt, derivePassword mac password salt passwordIterations⟩

/-- `passwordConfig.matches`. -/
def PasswordConfig.accepts (config : PasswordConfig) (password : Bytes) : Bool :=
  if maximumPasswordSize < password.length ∨ config.digest.length ≠ 32 then false
  else derivePassword mac password config.salt config.iterations = config.digest

end Digest

/-! ### The file -/

/-- The characters of `base64.RawStdEncoding`. -/
def stdAlphabet : Bytes :=
  ascii "ABCDEFGHIJKLMNOPQRSTUVWXYZabcdefghijklmnopqrstuvwxyz0123456789+/"

def stdCharacter (n : ℕ) : UInt8 := stdAlphabet.getD n 0

def stdNumber (character : UInt8) : Option ℕ := stdAlphabet.findIdx? (· = character)

/-- `base64.RawStdEncoding.EncodeToString`. -/
def rawStdEncoding (bytes : Bytes) : Bytes := Base64.encode stdCharacter bytes

/-- `base64.RawStdEncoding.DecodeString`, which skips the ends of lines. -/
def rawStdDecoding (text : Bytes) : Option Bytes :=
  Base64.decode stdNumber (text.filter fun character => character ≠ 0x0a ∧ character ≠ 0x0d)

/-- A line of a field. -/
def fieldLine (key value : Bytes) : Bytes := key ++ 0x3d :: value

/-- The text of a list of lines. -/
def linesText (lines : List Bytes) : Bytes := lines.flatMap (· ++ [0x0a])

/-- `encodePasswordConfig`; the number of rounds is positive. -/
def encodePasswordConfig (config : PasswordConfig) : Bytes :=
  linesText [fieldLine (ascii "version") (ascii "1"),
    fieldLine (ascii "iterations") (decimal config.iterations.toNat),
    fieldLine (ascii "salt") (rawStdEncoding config.salt),
    fieldLine (ascii "digest") (rawStdEncoding config.digest)]

/-- The number of a text of digits. -/
def digitsNumber (digits : Bytes) : ℕ :=
  digits.foldl (fun n digit => 10 * n + (digit.toNat - 0x30)) 0

/-- `strconv.Atoi`.  A number that is too large for an integer is a number here, and refused like
the others that are too large. -/
def atoi (text : Bytes) : Option ℤ :=
  let digits := if text.head? = some 0x2b ∨ text.head? = some 0x2d then text.tail else text
  if digits = [] ∨ digits.all isDigit = false then none
  else if text.head? = some 0x2d then some (-(digitsNumber digits : ℤ))
  else some (digitsNumber digits : ℤ)

inductive PasswordError where
  | size
  | schema
  | field
  | iterations
  | salt
  | digest
  deriving DecidableEq

/-- The text of the error. -/
def PasswordError.message : PasswordError → Bytes
  | size => ascii "password configuration has an invalid size"
  | schema => ascii "password configuration has an invalid schema"
  | field => ascii "password configuration has duplicate or malformed fields"
  | iterations => ascii "password configuration has invalid iterations"
  | salt => ascii "password configuration has an invalid salt"
  | digest => ascii "password configuration has an invalid digest"

/-- `strings.SplitN` at the first equals sign. -/
def splitField (line : Bytes) : Option (Bytes × Bytes) :=
  if 0x3d ∈ line then
    some (line.takeWhile (· ≠ 0x3d), (line.dropWhile (· ≠ 0x3d)).tail)
  else none

/-- The value of a key that a map does not have is empty. -/
def valueOf (values : Table Bytes Bytes) (key : Bytes) : Bytes := (values.get key).getD []

/-- The loop over the lines of the fields. -/
def fieldLoop : (lines : List Bytes) → (values : Table Bytes Bytes) →
    Except PasswordError (Table Bytes Bytes)
  | [], values => .ok values
  | line :: lines, values =>
      match splitField line with
      | none => .error .field
      | some (key, value) =>
          if valueOf values key ≠ [] then .error .field
          else fieldLoop lines (values.set key value)

/-- `parsePasswordConfig`. -/
def parsePasswordConfig (contents : Bytes) : Except PasswordError PasswordConfig :=
  if contents.length = 0 ∨ 1024 < contents.length then .error .size
  else
    let lines := contents.splitOn 0x0a
    if lines.length ≠ 5 ∨ lines.head? ≠ some (ascii "version=1") ∨ lines.getLast? ≠ some [] then
      .error .schema
    else
      match fieldLoop ((lines.drop 1).take 3) Table.empty with
      | .error error => .error error
      | .ok values =>
          match atoi (valueOf values (ascii "iterations")) with
          | none => .error .iterations
          | some iterations =>
              if iterations < 100000 ∨ 1000000 < iterations then .error .iterations
              else
                match rawStdDecoding (valueOf values (ascii "salt")) with
                | none => .error .salt
                | some salt =>
                    if salt.length ≠ 16 then .error .salt
                    else
                      match rawStdDecoding (valueOf values (ascii "digest")) with
                      | none => .error .digest
                      | some digest =>
                          if digest.length ≠ 32 then .error .digest
                          else .ok ⟨iterations, salt, digest⟩

/-! ### The commands -/

inductive ReadPasswordError where
  | input
  | size
  | forbidden
  deriving DecidableEq

/-- `readPassword`: the first line of the standard input, of which `typed` can be read before it
ends or fails. -/
def readPassword (typed : Bytes) (fails : Bool) : Except ReadPasswordError Bytes :=
  let limited := typed.take (maximumPasswordSize + 2)
  -- A failure counts only where the bytes before it have no end of line.
  if fails = true ∧ typed.length < maximumPasswordSize + 2 ∧ 0x0a ∉ limited then .error .input
  else
    let password := stripCarriageReturn (limited.takeWhile (· ≠ 0x0a))
    if password.length < minimumPasswordSize ∨ maximumPasswordSize < password.length then
      .error .size
    else if 0x0d ∈ password ∨ 0x0a ∈ password ∨ 0x00 ∈ password then .error .forbidden
    else .ok password

inductive SetPasswordError where
  | read (error : ReadPasswordError)
  | config
  | write (error : WriteError)

/-- `setPassword`. -/
def setPassword (mac : Mac) (files : Files) (path typed : Bytes) (fails : Bool)
    (random : Option Bytes) (mkdir lstat : Bool) (faults : WriteFaults) :
    Files × Option SetPasswordError :=
  match readPassword typed fails with
  | .error error => (files, some (.read error))
  | .ok password =>
      match newPasswordConfig mac password random with
      | none => (files, some .config)
      | some config =>
          match atomicWrite files path (encodePasswordConfig config) mkdir lstat faults with
          | (files, error) => (files, error.map .write)

/-- What `Lstat` says of a file, and what can be read of it. -/
structure PasswordFile where
  isRegular : Bool
  permissions : ℕ
  owner : ℕ
  contents : Option Bytes

inductive LoadPasswordError where
  | inspect
  | notPrivate
  | owner
  | read
  | parse (error : PasswordError)

/-- `loadPasswordConfig` for the user `euid`. -/
def loadPasswordConfig (file : Option PasswordFile) (euid : ℕ) :
    Except LoadPasswordError PasswordConfig :=
  match file with
  | none => .error .inspect
  | some file =>
      if file.isRegular = false ∨ file.permissions % 64 ≠ 0 then .error .notPrivate
      else if euid = 0 ∧ file.owner ≠ 0 then .error .owner
      else
        match file.contents with
        | none => .error .read
        | some contents =>
            match parsePasswordConfig contents with
            | .error error => .error (.parse error)
            | .ok config => .ok config

/-! ### The digest of a password -/

section Digest

variable (mac : Mac)

theorem length_deriveLoop {password u result : Bytes} (hresult : result.length = 32) (rounds : ℕ) :
    (deriveLoop mac password rounds u result).length = 32 := by
  induction rounds generalizing u result with
  | zero => exact hresult
  | succ rounds ih =>
      refine ih ?_
      rw [List.length_zipWith, hresult, mac.length_sum]
      rfl

theorem length_derivePassword (password salt : Bytes) (iterations : ℤ) :
    (derivePassword mac password salt iterations).length = 32 :=
  length_deriveLoop mac (mac.length_sum _ _) _

theorem deriveLoop_eq (password : Bytes) (rounds : ℕ) (u result : Bytes) :
    deriveLoop mac password rounds u result =
      ((List.range rounds).map fun k => (mac.sum password)^[k + 1] u).foldl
        (List.zipWith (· ^^^ ·)) result := by
  induction rounds generalizing u result with
  | zero => rfl
  | succ rounds ih =>
      rw [deriveLoop, ih, List.range_succ_eq_map, List.map_cons, List.map_map, List.foldl_cons]
      rfl

/-- **The digest is the sum of the rounds**, each the keyed hash of the one before it. -/
theorem derivePassword_eq (password salt : Bytes) {iterations : ℕ} (h : 0 < iterations) :
    derivePassword mac password salt iterations =
      ((List.range (iterations - 1)).map fun k =>
          (mac.sum password)^[k + 2] (salt ++ [0, 0, 0, 1])).foldl
        (List.zipWith (· ^^^ ·)) (mac.sum password (salt ++ [0, 0, 0, 1])) := by
  have hrounds : ((iterations : ℤ) - 1).toNat = iterations - 1 := by omega
  rw [derivePassword, deriveLoop_eq, hrounds]
  rfl

/-- A configuration accepts the passwords with its digest. -/
theorem accepts_iff {config : PasswordConfig} (h : config.digest.length = 32) (password : Bytes) :
    config.accepts mac password = true ↔
      password.length ≤ maximumPasswordSize ∧
        derivePassword mac password config.salt config.iterations = config.digest := by
  rw [PasswordConfig.accepts]
  by_cases hlong : maximumPasswordSize < password.length
  · rw [if_pos (Or.inl hlong)]
    constructor
    · intro hfalse
      cases hfalse
    · rintro ⟨hshort, -⟩
      exact absurd hlong (Nat.not_lt.2 hshort)
  · rw [if_neg (not_or.2 ⟨hlong, not_not.2 h⟩), decide_eq_true_eq]
    exact (and_iff_right (Nat.not_lt.1 hlong)).symm

end Digest

/-! ### The fields -/

theorem stdNumber_stdCharacter : ∀ n < 64, stdNumber (stdCharacter n) = some n := by decide +kernel

/-- No character of the alphabet ends a line, or a key. -/
theorem stdCharacter_spec : ∀ n < 64, stdCharacter n ≠ 0x0a ∧ stdCharacter n ≠ 0x0d := by
  decide +kernel

theorem mem_rawStdEncoding {bytes : Bytes} {character : UInt8}
    (h : character ∈ rawStdEncoding bytes) :
    character ≠ 0x0a ∧ character ≠ 0x0d := by
  obtain ⟨n, hn, rfl⟩ := Base64.mem_encode h
  exact stdCharacter_spec n hn

/-- What was written is read back. -/
theorem rawStdDecoding_rawStdEncoding (bytes : Bytes) :
    rawStdDecoding (rawStdEncoding bytes) = some bytes := by
  have hfilter : (rawStdEncoding bytes).filter (fun c => c ≠ 0x0a ∧ c ≠ 0x0d) =
      rawStdEncoding bytes := by
    refine List.filter_eq_self.2 ?_
    intro character hcharacter
    simpa using mem_rawStdEncoding hcharacter
  rw [rawStdDecoding, hfilter]
  exact Base64.decode_encode stdNumber_stdCharacter bytes

theorem digitsNumber_append (digits : Bytes) (digit : UInt8) :
    digitsNumber (digits ++ [digit]) = 10 * digitsNumber digits + (digit.toNat - 0x30) := by
  rw [digitsNumber, List.foldl_append]
  rfl

theorem digitsNumber_decimal (n : ℕ) : digitsNumber (decimal n) = n := by
  refine decimal_induction (P := fun n text => digitsNumber text = n) ?_ ?_ n
  · intro value digit h
    simp [digitsNumber, h.toNat]
  · intro n text value digit htext h
    rw [digitsNumber_append, htext, h.toNat]
    omega

/-- A number that was written is read back. -/
theorem atoi_decimal (n : ℕ) : atoi (decimal n) = some (n : ℤ) := by
  obtain ⟨digit, digits, hdecimal⟩ := List.exists_cons_of_ne_nil (decimal_ne_nil n)
  have hdigits := digits_decimal n
  have hall : (decimal n).all isDigit = true := by
    rw [List.all_eq_true]
    intro c hc
    simpa [isDigit] using hdigits c hc
  obtain ⟨hlow, -⟩ := hdigits digit (by rw [hdecimal]; exact List.mem_cons_self)
  have hsign : ¬((decimal n).head? = some 0x2b ∨ (decimal n).head? = some 0x2d) := by
    rw [hdecimal, List.head?_cons]
    rintro (h | h)
    · cases h
      exact absurd hlow (by decide)
    · cases h
      exact absurd hlow (by decide)
  rw [atoi, if_neg hsign]
  rw [if_neg (by simp [decimal_ne_nil n, hall]), if_neg (not_or.1 hsign).2, digitsNumber_decimal]

theorem atoi_nil : atoi [] = none := rfl

/-- A field is cut at its first equals sign. -/
theorem splitField_eq_some {line key value : Bytes} :
    splitField line = some (key, value) ↔ line = fieldLine key value ∧ 0x3d ∉ key := by
  rw [splitField, fieldLine]
  constructor
  · intro h
    split at h
    · next hmem =>
        obtain ⟨rfl, rfl⟩ := Prod.mk.inj (Option.some.inj h)
        have hne : line.dropWhile (· ≠ 0x3d) ≠ [] := by
          rw [Ne, List.dropWhile_eq_nil_iff]
          intro hall
          simpa using hall _ hmem
        obtain ⟨before, after, hbefore, hdrop, hline⟩ := Words.Spacing.exists_line line hne
        have htake : line.takeWhile (· ≠ 0x3d) = before := by
          have hsplit := List.takeWhile_append_dropWhile (p := (· ≠ 0x3d)) (l := line)
          rw [hdrop] at hsplit
          exact List.append_cancel_right (hsplit.trans hline)
        rw [htake, hdrop]
        exact ⟨hline, hbefore⟩
    · cases h
  · rintro ⟨rfl, hkey⟩
    have hdrop := Words.Spacing.dropWhile_line hkey value
    have htake : (key ++ 0x3d :: value).takeWhile (· ≠ 0x3d) = key := by
      have hsplit := List.takeWhile_append_dropWhile (p := (· ≠ 0x3d)) (l := key ++ 0x3d :: value)
      rw [hdrop] at hsplit
      exact List.append_cancel_right hsplit
    rw [if_pos (List.mem_append_right _ List.mem_cons_self), htake, hdrop, List.tail_cons]

theorem splitOn_linesText {lines : List Bytes} (h : ∀ line ∈ lines, 0x0a ∉ line) :
    (linesText lines).splitOn 0x0a = lines ++ [[]] := by
  induction lines with
  | nil => rfl
  | cons line lines ih =>
      rw [List.forall_mem_cons] at h
      rw [linesText, List.flatMap_cons, List.append_assoc, List.singleton_append,
        List.splitOn_append_cons_self_of_not_mem h.1]
      exact congrArg (line :: ·) (ih h.2)

/-- A text whose last line is empty is the text of the others. -/
theorem eq_linesText {contents : Bytes} {lines : List Bytes}
    (h : contents.splitOn 0x0a = lines ++ [[]]) :
    contents = linesText lines ∧ ∀ line ∈ lines, 0x0a ∉ line := by
  refine ⟨?_, ?_⟩
  · have hcontents : [0x0a].intercalate (contents.splitOn 0x0a) = contents :=
      List.intercalate_splitOn 0x0a
    rw [← hcontents, h]
    clear hcontents h
    induction lines with
    | nil => rfl
    | cons line lines ih =>
        obtain ⟨first, rest, hrest⟩ := List.exists_cons_of_ne_nil
          (List.append_ne_nil_of_right_ne_nil lines (List.cons_ne_nil ([] : Bytes) []))
        rw [List.cons_append, hrest, List.intercalate_cons_cons, ← hrest, ih, linesText, linesText,
          List.flatMap_cons, List.append_assoc]
  · intro line hline
    exact not_mem_of_mem_splitOn (h ▸ List.mem_append_left _ hline)

/-- The values of the fields of some lines. -/
def fieldValues (fields : List (Bytes × Bytes)) (values : Table Bytes Bytes) : Table Bytes Bytes :=
  fields.foldl (fun values field => values.set field.1 field.2) values

theorem fieldLoop_spec {lines : List Bytes} {values result : Table Bytes Bytes}
    (h : fieldLoop lines values = .ok result) :
    ∃ fields : List (Bytes × Bytes), lines = fields.map (fun field => fieldLine field.1 field.2) ∧
      (∀ field ∈ fields, 0x3d ∉ field.1) ∧ result = fieldValues fields values := by
  induction lines generalizing values with
  | nil =>
      cases h
      exact ⟨[], rfl, List.forall_mem_nil _, rfl⟩
  | cons line lines ih =>
      rw [fieldLoop] at h
      split at h
      · cases h
      next key value hsplit =>
      split at h
      · cases h
      obtain ⟨fields, rfl, hkeys, rfl⟩ := ih h
      obtain ⟨rfl, hkey⟩ := splitField_eq_some.1 hsplit
      exact ⟨(key, value) :: fields, rfl, List.forall_mem_cons.2 ⟨hkey, hkeys⟩, rfl⟩

theorem fieldLoop_fields {fields : List (Bytes × Bytes)} {values : Table Bytes Bytes}
    (hkeys : ∀ field ∈ fields, 0x3d ∉ field.1) (hnodup : (fields.map Prod.fst).Nodup)
    (hnew : ∀ field ∈ fields, valueOf values field.1 = []) :
    fieldLoop (fields.map fun field => fieldLine field.1 field.2) values =
      .ok (fieldValues fields values) := by
  induction fields generalizing values with
  | nil => rfl
  | cons field fields ih =>
      rw [List.forall_mem_cons] at hkeys hnew
      rw [List.map_cons, List.nodup_cons] at hnodup
      rw [List.map_cons, fieldLoop, splitField_eq_some.2 ⟨rfl, hkeys.1⟩]
      dsimp only
      rw [if_neg (not_not.2 hnew.1)]
      refine ih hkeys.2 hnodup.2 ?_
      intro other hother
      have hne : other.1 ≠ field.1 := by
        intro heq
        exact hnodup.1 (heq ▸ List.mem_map_of_mem hother)
      rw [valueOf, Table.get_set_of_ne _ _ hne]
      exact hnew.2 other hother

/-! ### What is read -/

/-- The fields of a configuration, with their texts. -/
def configFields (iterations salt digest : Bytes) : List (Bytes × Bytes) :=
  [(ascii "iterations", iterations), (ascii "salt", salt), (ascii "digest", digest)]

/-- A file with a configuration: the version, and the three fields in any order. -/
structure IsPasswordFile (contents : Bytes) (config : PasswordConfig)
    (fields : List (Bytes × Bytes)) (iterations salt digest : Bytes) : Prop where
  contents_eq : contents =
    linesText (ascii "version=1" :: fields.map fun field => fieldLine field.1 field.2)
  length_le : contents.length ≤ 1024
  perm : fields.Perm (configFields iterations salt digest)
  noNewline : ∀ field ∈ fields, 0x0a ∉ field.2
  iterations_eq : atoi iterations = some config.iterations
  enough : 100000 ≤ config.iterations
  few : config.iterations ≤ 1000000
  salt_eq : rawStdDecoding salt = some config.salt
  length_salt : config.salt.length = 16
  digest_eq : rawStdDecoding digest = some config.digest
  length_digest : config.digest.length = 32

theorem nodup_configKeys (iterations salt digest : Bytes) :
    ((configFields iterations salt digest).map Prod.fst).Nodup := by
  have hkeys : [ascii "iterations", ascii "salt", ascii "digest"].Nodup := by decide
  exact hkeys

theorem configKeys_spec {iterations salt digest : Bytes} {field : Bytes × Bytes}
    (h : field ∈ configFields iterations salt digest) : 0x3d ∉ field.1 ∧ 0x0a ∉ field.1 := by
  have hkeys : ∀ key ∈ [ascii "iterations", ascii "salt", ascii "digest"],
      0x3d ∉ key ∧ 0x0a ∉ key := by decide
  exact hkeys _ (List.mem_map_of_mem (f := Prod.fst) h)

/-- The value of a field whose key is on no other line. -/
theorem valueOf_fieldValues {fields : List (Bytes × Bytes)} (hnodup : (fields.map Prod.fst).Nodup)
    {field : Bytes × Bytes} (h : field ∈ fields) :
    valueOf (fieldValues fields Table.empty) field.1 = field.2 := by
  rw [valueOf, fieldValues, (Table.get_foldl_set hnodup Table.empty field.1).1 field h rfl]
  rfl

/-- A key with a value is on one of the lines. -/
theorem mem_keys_of_valueOf {fields : List (Bytes × Bytes)} {key : Bytes}
    (h : valueOf (fieldValues fields Table.empty) key ≠ []) : key ∈ fields.map Prod.fst := by
  by_contra hnot
  refine h ?_
  have hget : (fieldValues fields Table.empty).get key = none := by
    have hkeep : ∀ (fields : List (Bytes × Bytes)) (values : Table Bytes Bytes),
        key ∉ fields.map Prod.fst → (fieldValues fields values).get key = values.get key := by
      intro fields
      induction fields with
      | nil => exact fun _ _ => rfl
      | cons field fields ih =>
          intro values hnot
          rw [List.map_cons, List.mem_cons, not_or] at hnot
          exact (ih _ hnot.2).trans (Table.get_set_of_ne _ _ hnot.1)
    exact hkeep fields Table.empty hnot
  rw [valueOf, hget]
  rfl

/-- Three lines with the three keys have each of them once. -/
theorem perm_configFields {fields : List (Bytes × Bytes)} (hlength : fields.length = 3)
    (hkeys : ∀ key ∈ [ascii "iterations", ascii "salt", ascii "digest"],
      valueOf (fieldValues fields Table.empty) key ≠ []) :
    fields.Perm (configFields (valueOf (fieldValues fields Table.empty) (ascii "iterations"))
      (valueOf (fieldValues fields Table.empty) (ascii "salt"))
      (valueOf (fieldValues fields Table.empty) (ascii "digest"))) := by
  have hnames : [ascii "iterations", ascii "salt", ascii "digest"].Nodup := by decide
  have hperm : [ascii "iterations", ascii "salt", ascii "digest"].Perm (fields.map Prod.fst) := by
    refine (List.subperm_of_subset hnames fun key hkey =>
      mem_keys_of_valueOf (hkeys key hkey)).perm_of_length_le ?_
    rw [List.length_map, hlength]
    rfl
  have hnodup : (fields.map Prod.fst).Nodup := hperm.nodup_iff.1 hnames
  refine ((List.subperm_of_subset (nodup_configKeys _ _ _).of_map ?_).perm_of_length_le ?_).symm
  · intro field hfield
    -- The key is on a line, and the value of the line is the one that was kept.
    have hmem : field.1 ∈ fields.map Prod.fst :=
      hperm.mem_iff.1 (List.mem_map_of_mem (f := Prod.fst) hfield)
    obtain ⟨line, hline, hkey⟩ := List.mem_map.1 hmem
    have hvalue := valueOf_fieldValues hnodup hline
    have hfieldValue : field.2 = valueOf (fieldValues fields Table.empty) field.1 := by
      simp only [configFields, List.mem_cons, List.not_mem_nil, or_false] at hfield
      rcases hfield with rfl | rfl | rfl
      · rfl
      · rfl
      · rfl
    have heq : field = line := by
      refine Prod.ext hkey.symm ?_
      rw [hfieldValue, ← hkey, hvalue]
    rw [heq]
    exact hline
  · rw [hlength]
    rfl

/-- **Exactly the files of three fields, in any order, are read.** -/
theorem parsePasswordConfig_iff {contents : Bytes} {config : PasswordConfig} :
    parsePasswordConfig contents = .ok config ↔
      ∃ fields iterations salt digest,
        IsPasswordFile contents config fields iterations salt digest := by
  constructor
  · intro h
    rw [parsePasswordConfig] at h
    split at h
    · cases h
    next hsize =>
    dsimp only at h
    split at h
    · cases h
    next hschema =>
    split at h
    · cases h
    next values hvalues =>
    split at h
    · cases h
    next iterations hiterations =>
    split at h
    · cases h
    next hrange =>
    split at h
    · cases h
    next salt hsalt =>
    split at h
    · cases h
    next hlengthSalt =>
    split at h
    · cases h
    next digest hdigest =>
    split at h
    · cases h
    next hlengthDigest =>
    obtain rfl := Except.ok.inj h
    simp only [not_or, not_not, Nat.not_lt, Int.not_lt]
      at hsize hschema hrange hlengthSalt hlengthDigest
    obtain ⟨lines, hlines, hlength⟩ : ∃ lines : List Bytes,
        contents.splitOn 0x0a = ascii "version=1" :: lines ++ [[]] ∧ lines.length = 3 := by
      obtain ⟨hfive, hfirst, hlast⟩ := hschema
      obtain ⟨rest, hrest⟩ := List.head?_eq_some_iff.1 hfirst
      obtain ⟨front, hfront⟩ := List.getLast?_eq_some_iff.1 hlast
      rw [hfront] at hfive hrest
      cases front with
      | nil => cases hfive
      | cons first lines =>
          obtain ⟨rfl, rfl⟩ := List.cons.inj hrest
          refine ⟨lines, hfront, ?_⟩
          simpa using hfive
    have hmiddle : ((contents.splitOn 0x0a).drop 1).take 3 = lines := by
      rw [hlines, List.cons_append, List.drop_one, List.tail_cons, ← hlength, List.take_left]
    rw [hmiddle] at hvalues
    obtain ⟨fields, rfl, hkeys, rfl⟩ := fieldLoop_spec hvalues
    obtain ⟨hcontents, hnoNewline⟩ := eq_linesText hlines
    rw [List.length_map] at hlength
    refine ⟨fields, _, _, _, hcontents, hsize.2, perm_configFields hlength ?_, ?_,
      hiterations, hrange.1,
      hrange.2, hsalt, hlengthSalt, hdigest, hlengthDigest⟩
    · intro key hkey hempty
      simp only [List.mem_cons, List.not_mem_nil, or_false] at hkey
      rcases hkey with rfl | rfl | rfl
      · rw [hempty, atoi_nil] at hiterations
        cases hiterations
      · rw [hempty] at hsalt
        obtain rfl := Option.some.inj hsalt
        cases hlengthSalt
      · rw [hempty] at hdigest
        obtain rfl := Option.some.inj hdigest
        cases hlengthDigest
    · intro field hfield hmem
      refine hnoNewline (fieldLine field.1 field.2) ?_ ?_
      · exact List.mem_cons_of_mem _ (List.mem_map_of_mem hfield)
      · exact List.mem_append_right _ (List.mem_cons_of_mem _ hmem)
  · rintro ⟨fields, iterations, salt, digest, h⟩
    have hkeys : ∀ field ∈ fields, 0x3d ∉ field.1 ∧ 0x0a ∉ field.1 :=
      fun field hfield => configKeys_spec (h.perm.mem_iff.1 hfield)
    have hnodup : (fields.map Prod.fst).Nodup :=
      (h.perm.map Prod.fst).nodup_iff.2 (nodup_configKeys iterations salt digest)
    have hlength : fields.length = 3 := h.perm.length_eq
    have hsplit : contents.splitOn 0x0a =
        ascii "version=1" :: (fields.map fun field => fieldLine field.1 field.2) ++ [[]] := by
      rw [h.contents_eq]
      refine splitOn_linesText ?_
      intro line hline
      rcases List.mem_cons.1 hline with rfl | hline
      · decide
      · obtain ⟨field, hfield, rfl⟩ := List.mem_map.1 hline
        rw [fieldLine, List.mem_append, List.mem_cons, not_or, not_or]
        exact ⟨(hkeys field hfield).2, by decide, h.noNewline field hfield⟩
    have hvalue : ∀ field ∈ configFields iterations salt digest,
        valueOf (fieldValues fields Table.empty) field.1 = field.2 :=
      fun field hfield => valueOf_fieldValues hnodup (h.perm.mem_iff.2 hfield)
    have hiterations := hvalue (ascii "iterations", iterations) (by simp [configFields])
    have hsalt := hvalue (ascii "salt", salt) (by simp [configFields])
    have hdigest := hvalue (ascii "digest", digest) (by simp [configFields])
    have hne : contents.length ≠ 0 := by
      rw [h.contents_eq, linesText, List.flatMap_cons]
      simp
    have hmiddle : ((contents.splitOn 0x0a).drop 1).take 3 =
        fields.map fun field => fieldLine field.1 field.2 := by
      rw [hsplit, List.cons_append, List.drop_one, List.tail_cons, ← hlength,
        ← List.length_map (f := fun field : Bytes × Bytes => fieldLine field.1 field.2),
        List.take_left]
    have hschema : ¬((contents.splitOn 0x0a).length ≠ 5 ∨
        (contents.splitOn 0x0a).head? ≠ some (ascii "version=1") ∨
          (contents.splitOn 0x0a).getLast? ≠ some []) := by
      rw [hsplit, List.getLast?_concat]
      simp [hlength]
    rw [parsePasswordConfig, if_neg (not_or.2 ⟨hne, Nat.not_lt.2 h.length_le⟩)]
    dsimp only
    rw [if_neg hschema, hmiddle,
      fieldLoop_fields (fun field hfield => (hkeys field hfield).1) hnodup
      fun _ _ => rfl]
    dsimp only at hiterations hsalt hdigest ⊢
    rw [hiterations, hsalt, hdigest, h.iterations_eq]
    dsimp only
    rw [if_neg (not_or.2 ⟨Int.not_lt.2 h.enough, Int.not_lt.2 h.few⟩), h.salt_eq]
    dsimp only
    rw [if_neg (not_not.2 h.length_salt), h.digest_eq]
    dsimp only
    rw [if_neg (not_not.2 h.length_digest)]

/-! ### What is set -/

/-- A configuration as `newPasswordConfig` makes it. -/
structure PasswordConfig.Proper (config : PasswordConfig) : Prop where
  enough : 100000 ≤ config.iterations
  few : config.iterations ≤ 1000000
  length_salt : config.salt.length = 16
  length_digest : config.digest.length = 32

theorem length_rawStdEncoding (bytes : Bytes) :
    (rawStdEncoding bytes).length = (8 * bytes.length + 5) / 6 := Base64.length_encode _ _

/-- **A configuration that was written is read back.** -/
theorem parsePasswordConfig_encode {config : PasswordConfig} (h : config.Proper) :
    parsePasswordConfig (encodePasswordConfig config) = .ok config := by
  have hnumber : (config.iterations.toNat : ℤ) = config.iterations :=
    Int.toNat_of_nonneg (Int.le_trans (by decide) h.enough)
  have hdecimal : (decimal config.iterations.toNat).length ≤ 10 :=
    length_decimal (by have := h.few; omega)
  refine parsePasswordConfig_iff.2 ⟨_, _, _, _,
    { contents_eq := rfl
      length_le := ?_
      perm := List.Perm.refl (configFields (decimal config.iterations.toNat)
        (rawStdEncoding config.salt) (rawStdEncoding config.digest))
      noNewline := ?_
      iterations_eq := by rw [atoi_decimal, hnumber]
      enough := h.enough
      few := h.few
      salt_eq := rawStdDecoding_rawStdEncoding config.salt
      length_salt := h.length_salt
      digest_eq := rawStdDecoding_rawStdEncoding config.digest
      length_digest := h.length_digest }⟩
  · have hsalt := length_rawStdEncoding config.salt
    have hdigest := length_rawStdEncoding config.digest
    have hkeys : (ascii "version").length = 7 ∧ (ascii "1").length = 1 ∧
        (ascii "iterations").length = 10 ∧ (ascii "salt").length = 4 ∧
          (ascii "digest").length = 6 := by decide
    rw [h.length_salt] at hsalt
    rw [h.length_digest] at hdigest
    simp only [encodePasswordConfig, linesText, fieldLine, List.flatMap_cons, List.flatMap_nil,
      List.length_append, List.length_cons, List.length_nil]
    omega
  · intro field hfield
    simp only [configFields, List.mem_cons, List.not_mem_nil, or_false] at hfield
    rcases hfield with rfl | rfl | rfl
    · intro hmem
      exact absurd (digits_decimal _ _ hmem).1 (by decide)
    · exact fun hmem => (mem_rawStdEncoding hmem).1 rfl
    · exact fun hmem => (mem_rawStdEncoding hmem).1 rfl

/-- A new configuration is proper, and has the digest of its password. -/
theorem newPasswordConfig_eq_some {mac : Mac} {password : Bytes} {random : Option Bytes}
    (hrandom : ∀ salt, random = some salt → salt.length = 16) {config : PasswordConfig}
    (h : newPasswordConfig mac password random = some config) :
    config.Proper ∧ password.length ≤ maximumPasswordSize ∧
      derivePassword mac password config.salt config.iterations = config.digest := by
  rw [newPasswordConfig] at h
  split at h
  · cases h
  next hlength =>
  obtain ⟨salt, hsalt, rfl⟩ := Option.map_eq_some_iff.1 h
  have hrounds : (100000 : ℤ) ≤ passwordIterations ∧ (passwordIterations : ℤ) ≤ 1000000 := by
    rw [passwordIterations]
    omega
  refine ⟨⟨hrounds.1, hrounds.2, hrandom salt hsalt, ?_⟩, Nat.not_lt.1 (not_or.1 hlength).2, ?_⟩
  · dsimp only
    rw [length_derivePassword]
  · dsimp only

/-- A file with mode 0600, as `atomicWrite` leaves it. -/
def privateFile (files : Files) (path : Bytes) (owner : ℕ) : Option PasswordFile :=
  (files path).map fun contents => ⟨true, 0o600, owner, some contents⟩

/-- The service takes its passwords from a file that was written for one password. -/
structure Guards (mac : Mac) (files : Files) (path password : Bytes) (config : PasswordConfig) :
    Prop where
  loads : ∀ owner euid, (euid = 0 → owner = 0) →
    loadPasswordConfig (privateFile files path owner) euid = .ok config
  accepts : config.accepts mac password = true
  accepts_iff : ∀ other, config.accepts mac other = true ↔
    other.length ≤ maximumPasswordSize ∧
      derivePassword mac other config.salt config.iterations =
        derivePassword mac password config.salt config.iterations

theorem guards_write {mac : Mac} {password : Bytes} {config : PasswordConfig} (h : config.Proper)
    (hlength : password.length ≤ maximumPasswordSize)
    (hdigest : derivePassword mac password config.salt config.iterations = config.digest)
    (files : Files) (path : Bytes) :
    Guards mac (FileStore.write files path (encodePasswordConfig config)) path password config where
  loads := by
    intro owner euid howner
    have hfile : privateFile (FileStore.write files path (encodePasswordConfig config)) path owner =
        some ⟨true, 0o600, owner, some (encodePasswordConfig config)⟩ := by
      rw [privateFile, FileStore.write_same]
      rfl
    rw [hfile, loadPasswordConfig]
    dsimp only
    rw [if_neg (by decide), if_neg (by rintro ⟨hroot, hne⟩; exact hne (howner hroot)),
      parsePasswordConfig_encode h]
  accepts := (accepts_iff mac h.length_digest password).2 ⟨hlength, hdigest⟩
  accepts_iff := fun other => by rw [accepts_iff mac h.length_digest, hdigest]

/-- **The password that was set is the one that is accepted.** A command that succeeds leaves a file
for the password it read; one that fails leaves the old file, or a file for the password it read. -/
theorem setPassword_spec (mac : Mac) (files : Files) (directory typed : Bytes) (fails : Bool)
    (random : Option Bytes) (hrandom : ∀ salt, random = some salt → salt.length = 16)
    (mkdir lstat : Bool) (faults : WriteFaults) :
    let path := joinPath directory (ascii "password.conf")
    let result := setPassword mac files path typed fails random mkdir lstat faults
    (∃ password config, readPassword typed fails = .ok password ∧
        result.1 = FileStore.write files path (encodePasswordConfig config) ∧
          Guards mac result.1 path password config ∧ result.2.isSome = faults.late) ∨
      result.1 = files ∧ result.2.isSome = true := by
  intro path result
  have hresult : result = setPassword mac files path typed fails random mkdir lstat faults := rfl
  have hname : ∀ random, joinPath (pathDir path) (ascii ".rom-uploader-" ++ random) ≠ path := by
    intro random
    rw [pathDir_joinPath directory (by decide)]
    exact joinPath_ne (by decide) (by decide)
  rw [setPassword] at hresult
  split at hresult
  · exact Or.inr ⟨by rw [hresult], by rw [hresult]; rfl⟩
  next password hread =>
  split at hresult
  · exact Or.inr ⟨by rw [hresult], by rw [hresult]; rfl⟩
  next config hconfig =>
  obtain ⟨hproper, hlength, hdigest⟩ := newPasswordConfig_eq_some hrandom hconfig
  rcases atomicWrite_spec files (encodePasswordConfig config) mkdir lstat faults hname with
    ⟨hwrite, -⟩ | ⟨⟨error, hwrite⟩, -⟩
  · rw [hwrite] at hresult
    refine Or.inl ⟨password, config, hread, by rw [hresult], ?_, ?_⟩
    · rw [hresult]
      exact guards_write hproper hlength hdigest files path
    · rw [hresult]
      cases faults.late with
      | true => rfl
      | false => rfl
  · rw [hwrite] at hresult
    exact Or.inr ⟨by rw [hresult], by rw [hresult]; rfl⟩

/-- A keyed hash that copies its input. -/
def copyingMac : Mac where
  sum key message := (key ++ message ++ List.replicate 32 0).take 32
  length_sum key message := by
    simp only [List.length_take, List.length_append, List.length_replicate]
    omega

/-- No call fails. -/
def plainFaults : WriteFaults :=
  ⟨[ascii "1"], false, false, none, false, false, false, false, false⟩

/-- A password is typed, and nothing fails. -/
theorem setPassword_spec_typed :
    let path := joinPath (ascii "/etc/uploader") (ascii "password.conf")
    let result := setPassword copyingMac (fun _ => none) path (ascii "ten seconds\n") false
      (some (List.replicate 16 7)) false false plainFaults
    (∃ password config, readPassword (ascii "ten seconds\n") false = .ok password ∧
        result.1 = FileStore.write (fun _ => none) path (encodePasswordConfig config) ∧
          Guards copyingMac result.1 path password config ∧
            result.2.isSome = plainFaults.late) ∨
      result.1 = (fun _ => none) ∧ result.2.isSome = true := by
  refine setPassword_spec copyingMac (fun _ => none) (ascii "/etc/uploader") (ascii "ten seconds\n")
    false (some (List.replicate 16 7)) ?_ false false plainFaults
  intro salt hsalt
  obtain rfl := Option.some.inj hsalt
  exact List.length_replicate

end NesDeck.Uploader
