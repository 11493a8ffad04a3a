/-
**The covers of the games.**

A cover is a picture in the binary PPM format, all of whose pixels have xterm colours. The header is
read token by token (`next_ppm_token`, `parse_positive_dimension` and `load_ppm_cover_image` in
`deck_menu.cpp`), with white space and comments between the tokens. After the last token one byte of
white space is skipped, or two where they are a carriage return and a line feed, although a line
feed might be the first byte of the pixels.

Main definitions:

* `NesDeck.PpmCover.loadPpmCoverImage` — the reader;
* `NesDeck.PpmCover.Picture`, `NesDeck.PpmCover.PpmHeader` — the pictures, and the headers that a
  picture may have.

Main results:

* `NesDeck.PpmCover.parseHeader_eq_some` — the headers that are read;
* `NesDeck.PpmCover.Picture.head?_bytes` — no picture starts with a line feed;
* `NesDeck.PpmCover.loadPpmCoverImage_eq_ok` — **a file is accepted exactly if it is a header and a
  picture, and its pixels are those of the picture**.
-/

import NesDeck.Lib.Words
import NesDeck.ManifestRows

set_option relaxedAutoImplicit false
set_option autoImplicit false

namespace NesDeck.PpmCover

open HostFile
open MenuText (isSpace)

/-! ### The reader -/

def kMaximumCoverWidth : ℕ := 600

def kMaximumCoverHeight : ℕ := 378

def kMaximumCoverBytes : ℕ := 1024 + kMaximumCoverWidth * kMaximumCoverHeight * 3

/-- The reasons for which there is no cover. -/
inductive CoverError where
  | missing
  | cannotOpen (errno : Errno)
  | notSmallRegular
  | cannotRead (errno : Errno)
  | invalidHeader
  | wrongSize
  | outsidePalette
  deriving DecidableEq

/-- The text of the error; a missing cover is none. -/
def CoverError.message (strerror : Errno → Bytes) (path : Bytes) : CoverError → Option Bytes
  | missing => none
  | cannotOpen errno => some (errnoMessage strerror (ascii "cannot open cover " ++ path) errno)
  | notSmallRegular => some (ascii "cover must be a small regular PPM file: " ++ path)
  | cannotRead errno => some (errnoMessage strerror (ascii "cannot read cover " ++ path) errno)
  | invalidHeader => some (ascii "cover has an invalid P6 PPM header: " ++ path)
  | wrongSize => some (ascii "cover PPM pixel data has the wrong size: " ++ path)
  | outsidePalette => some (ascii "cover contains a color outside xterm-256: " ++ path)

/-- White space and comments between the tokens. -/
def ppmSpacing : Words.Spacing UInt8 where
  isSpace := isSpace
  mark := 0x23
  stop := 0x0a
  isSpace_stop := by decide
  isSpace_mark := by decide

/-- The next token, and the bytes from the one behind it on. -/
def nextPpmToken (bytes : Bytes) : Option (Bytes × Bytes) :=
  let (token, rest) := ppmSpacing.next bytes
  if token = [] ∨ 32 < token.length then none else some (token, rest)

/-- The loop over the digits. -/
def dimensionLoop (maximum : ℕ) : Bytes → ℕ → Option ℕ
  | [], parsed => some parsed
  | character :: rest, parsed =>
      if character < 0x30 ∨ 0x39 < character then none
      else if maximum < parsed * 10 + (character.toNat - 0x30) then none
      else dimensionLoop maximum rest (parsed * 10 + (character.toNat - 0x30))

def parsePositiveDimension (text : Bytes) (maximum : ℕ) : Option ℕ :=
  if text = [] then none
  else (dimensionLoop maximum text 0).filter fun parsed => 1 ≤ parsed ∧ decimal parsed = text

/-- What is behind the white space that ends the last token. -/
def skipEnding : Bytes → Option Bytes
  | [] => none
  | byte :: rest =>
      if isSpace byte = false then none
      else if byte = 0x0d ∧ rest.head? = some 0x0a then some (rest.drop 1)
      else some rest

/-- The width, the height and the bytes of the pixels. -/
def parseHeader (bytes : Bytes) : Option (ℕ × ℕ × Bytes) := do
  let (magic, bytes) ← nextPpmToken bytes
  guard (magic = ascii "P6")
  let (widthText, bytes) ← nextPpmToken bytes
  let width ← parsePositiveDimension widthText kMaximumCoverWidth
  let (heightText, bytes) ← nextPpmToken bytes
  let height ← parsePositiveDimension heightText kMaximumCoverHeight
  let (maximumText, bytes) ← nextPpmToken bytes
  guard (maximumText = ascii "255")
  let rest ← skipEnding bytes
  some (width, height, rest)

/-- The loop over the pixels, with those that it has stored. -/
def pixelLoop : Bytes → List UInt16 → Option (List UInt16)
  | red :: green :: blue :: rest, pixels =>
      let color : RgbColor := ⟨red.toNat, green.toNat, blue.toNat⟩
      if isXtermColor color = false then none else pixelLoop rest (pixels ++ [color.pixel])
  | _, pixels => some pixels

/-- The decoding of what was read. -/
def decodeCover (bytes : Bytes) : Except CoverError CoverImage :=
  match parseHeader bytes with
  | none => .error .invalidHeader
  | some (width, height, rest) =>
      if rest.length ≠ width * height * 3 then .error .wrongSize
      else
        match pixelLoop rest [] with
        | none => .error .outsidePalette
        | some pixels => .ok ⟨width, height, pixels⟩

/-- Whether `close` fails, and what `errno` holds after the reading. -/
structure CoverCalls where
  close : Bool
  readErrno : Errno

def loadPpmCoverImage (file : File) (calls : CoverCalls) : Except CoverError CoverImage :=
  match file.openError with
  | some errno => .error (if errno = Errno.enoent then .missing else .cannotOpen errno)
  | none =>
      if file.statError ≠ none ∨ file.isRegular = false ∨ file.size < 12 ∨
          kMaximumCoverBytes < file.size then
        .error .notSmallRegular
      else
        let (bytes, missing) :=
          readLoop file.reads file.content (List.replicate file.size 0) 0 file.size
        if missing ≠ 0 ∨ calls.close = true then .error (.cannotRead calls.readErrno)
        else decodeCover bytes

/-! ### Pictures and headers -/

/-- A picture in xterm colours. -/
structure Picture where
  width : ℕ
  height : ℕ
  width_pos : 1 ≤ width
  width_le : width ≤ 600
  height_pos : 1 ≤ height
  height_le : height ≤ 378
  colors : List RgbColor
  length_colors : colors.length = width * height
  xterm : ∀ color ∈ colors, ∃ index < 256, xtermColor index = color

/-- The three bytes of a pixel. -/
def colorBytes (color : RgbColor) : Bytes :=
  [.ofNat color.red, .ofNat color.green, .ofNat color.blue]

namespace Picture

variable (picture : Picture)

def bytes : Bytes := picture.colors.flatMap colorBytes

/-- The picture as the menu shows it. -/
def cover : CoverImage := ⟨picture.width, picture.height, picture.colors.map RgbColor.pixel⟩

end Picture

/-- What ends the last token: a byte of white space, or a carriage return and a line feed. -/
inductive Ending where
  | space (byte : UInt8) (hspace : isSpace byte = true)
  | crlf

def Ending.bytes : Ending → Bytes
  | .space byte _ => [byte]
  | .crlf => [0x0d, 0x0a]

/-- A header, by what stands before and between the tokens. -/
structure PpmHeader (width height : ℕ) where
  before : Bytes
  first : Bytes
  second : Bytes
  third : Bytes
  ending : Ending
  gap_before : ppmSpacing.Gap before
  gap_first : ppmSpacing.Gap first
  gap_second : ppmSpacing.Gap second
  gap_third : ppmSpacing.Gap third
  first_ne : first ≠ []
  second_ne : second ≠ []
  third_ne : third ≠ []

def PpmHeader.bytes {width height : ℕ} (header : PpmHeader width height) : Bytes :=
  header.before ++ ascii "P6" ++ header.first ++ decimal width ++ header.second ++ decimal height ++
    header.third ++ ascii "255" ++ header.ending.bytes

/-- The file can be opened, examined, read as a whole and closed. -/
structure Loads (file : File) (calls : CoverCalls) : Prop where
  opens : file.openError = none
  stat : file.statError = none
  regular : file.isRegular = true
  reads : (delivered file.reads file.content file.size).length = file.size
  close : calls.close = false

/-! ### Tokens -/

theorem nextPpmToken_eq_some {bytes token rest : Bytes} :
    nextPpmToken bytes = some (token, rest) ↔
      ppmSpacing.next bytes = (token, rest) ∧ token ≠ [] ∧ token.length ≤ 32 := by
  rw [nextPpmToken]
  cases hnext : ppmSpacing.next bytes with
  | mk found after =>
      dsimp only
      split
      next hbad =>
        refine iff_of_false (by simp) ?_
        rintro ⟨heq, hne, hle⟩
        obtain ⟨rfl, rfl⟩ := Prod.mk.inj heq
        rcases hbad with rfl | hlong
        · exact hne rfl
        · omega
      next hgood =>
        rw [not_or, Nat.not_lt] at hgood
        constructor
        · intro h
          obtain ⟨rfl, rfl⟩ := Prod.mk.inj (Option.some.inj h)
          exact ⟨rfl, hgood⟩
        · rintro ⟨heq, -⟩
          rw [heq]

/-- The token is a word of the text. -/
theorem nextPpmToken_of_gap {gap token rest : Bytes} (hgap : ppmSpacing.Gap gap) (hne : token ≠ [])
    (hle : token.length ≤ 32) (hletters : ∀ byte ∈ token, ppmSpacing.isLetter byte = true)
    (hrest : ppmSpacing.Ends rest) : nextPpmToken (gap ++ (token ++ rest)) = some (token, rest) :=
  nextPpmToken_eq_some.2 ⟨Words.Spacing.next_of_gap hgap hne hletters hrest, hne, hle⟩

theorem exists_gap_of_nextPpmToken {bytes token rest : Bytes}
    (h : nextPpmToken bytes = some (token, rest)) :
    ∃ gap, ppmSpacing.Gap gap ∧ bytes = gap ++ (token ++ rest) ∧ token ≠ [] ∧
      (∀ byte ∈ token, ppmSpacing.isLetter byte = true) ∧ ppmSpacing.Ends rest := by
  obtain ⟨hnext, hne, -⟩ := nextPpmToken_eq_some.1 h
  obtain ⟨gap, hgap, hbytes, hletters, hrest⟩ := Words.Spacing.exists_gap_of_next hnext hne
  exact ⟨gap, hgap, hbytes, hne, hletters, hrest⟩

theorem isLetter_decimal (n : ℕ) : ∀ byte ∈ decimal n, ppmSpacing.isLetter byte = true := by
  have hdigit : ∀ byte : UInt8, 0x30 ≤ byte ∧ byte ≤ 0x39 → ppmSpacing.isLetter byte = true :=
    forall_byte (by decide +kernel)
  exact fun byte hmem => hdigit byte (digits_decimal n byte hmem)

/-! ### Dimensions -/

theorem dimensionLoop_append (maximum : ℕ) (first second : Bytes) (parsed : ℕ) :
    dimensionLoop maximum (first ++ second) parsed =
      (dimensionLoop maximum first parsed).bind (dimensionLoop maximum second) := by
  fun_induction dimensionLoop maximum first parsed with
  | case1 => rfl
  | case2 character rest parsed hdigit =>
      rw [List.cons_append, dimensionLoop, if_pos hdigit]
      rfl
  | case3 character rest parsed hdigit hlarge =>
      rw [List.cons_append, dimensionLoop, if_neg hdigit, if_pos hlarge]
      rfl
  | case4 character rest parsed hdigit hlarge ih =>
      rw [List.cons_append, dimensionLoop, if_neg hdigit, if_neg hlarge, ih]

/-- A number is read as it is written. -/
theorem dimensionLoop_decimal (maximum n : ℕ) :
    n ≤ maximum → dimensionLoop maximum (decimal n) 0 = some n := by
  refine decimal_induction (P := fun n text => n ≤ maximum →
    dimensionLoop maximum text 0 = some n) ?_ ?_ n
  · intro value digit hdigit hle
    rw [dimensionLoop, if_neg (by simp [UInt8.not_lt, hdigit.low, hdigit.high]), hdigit.toNat,
      Nat.zero_mul,
      Nat.zero_add, if_neg (Nat.not_lt.2 hle), dimensionLoop]
  · intro n text value digit ih hdigit hle
    rw [dimensionLoop_append, ih (by omega)]
    show dimensionLoop maximum [digit] n = some (n * 10 + value)
    rw [dimensionLoop, if_neg (by simp [UInt8.not_lt, hdigit.low, hdigit.high]), hdigit.toNat,
      if_neg (Nat.not_lt.2 hle), dimensionLoop]

theorem dimensionLoop_le {maximum : ℕ} {text : Bytes} {parsed value : ℕ}
    (hparsed : parsed ≤ maximum)
    (h : dimensionLoop maximum text parsed = some value) : value ≤ maximum := by
  fun_induction dimensionLoop maximum text parsed with
  | case1 => exact Option.some.inj h ▸ hparsed
  | case2 => cases h
  | case3 => cases h
  | case4 character rest parsed hdigit hlarge ih => exact ih (Nat.not_lt.1 hlarge) h

/-- **A dimension** is a number in canonical decimal. -/
theorem parsePositiveDimension_eq_some {text : Bytes} {maximum value : ℕ} :
    parsePositiveDimension text maximum = some value ↔
      1 ≤ value ∧ value ≤ maximum ∧ text = decimal value := by
  rw [parsePositiveDimension]
  split
  next hempty =>
    refine iff_of_false (by simp) ?_
    rintro ⟨-, -, rfl⟩
    exact decimal_ne_nil value hempty
  rw [Option.filter_eq_some_iff, decide_eq_true_eq]
  constructor
  · rintro ⟨hloop, hpos, htext⟩
    exact ⟨hpos, dimensionLoop_le (Nat.zero_le _) hloop, htext.symm⟩
  · rintro ⟨hpos, hle, rfl⟩
    exact ⟨dimensionLoop_decimal maximum value hle, hpos, rfl⟩

/-! ### Headers -/

theorem Ending.ends (ending : Ending) (rest : Bytes) : ppmSpacing.Ends (ending.bytes ++ rest) := by
  cases ending with
  | space byte hspace =>
      exact Words.Spacing.Gap.ends (.space hspace .nil) (List.cons_ne_nil _ _) rest
  | crlf =>
      have hgap : ppmSpacing.Gap Ending.crlf.bytes := .space (by decide) (.space (by decide) .nil)
      exact hgap.ends (List.cons_ne_nil _ _) rest

/-- **The end of the last token**, which a line feed behind it does not change unless it is a
carriage return. -/
theorem skipEnding_eq_some {bytes rest : Bytes} :
    skipEnding bytes = some rest ↔
      ∃ ending : Ending, bytes = ending.bytes ++ rest ∧
        (ending.bytes = [0x0d] → rest.head? ≠ some 0x0a) := by
  constructor
  · intro h
    cases bytes with
    | nil => cases h
    | cons byte bytes =>
        rw [skipEnding] at h
        split at h
        · cases h
        next hspace =>
        rw [Bool.not_eq_false] at hspace
        split at h
        next hcrlf =>
          obtain ⟨rfl, hfeed⟩ := hcrlf
          obtain ⟨after, rfl⟩ := List.head?_eq_some_iff.1 hfeed
          obtain rfl : after = rest := Option.some.inj h
          exact ⟨.crlf, rfl, by simp [Ending.bytes]⟩
        next hcrlf =>
          obtain rfl : bytes = rest := Option.some.inj h
          refine ⟨.space byte hspace, rfl, fun hreturn hfeed => hcrlf ⟨?_, hfeed⟩⟩
          exact (List.cons.inj hreturn).1
  · rintro ⟨ending, rfl, hclear⟩
    cases ending with
    | space byte hspace =>
        rw [Ending.bytes, List.singleton_append, skipEnding, if_neg (by simp [hspace]), if_neg]
        rintro ⟨rfl, hfeed⟩
        exact hclear rfl hfeed
    | crlf =>
        rw [Ending.bytes, List.cons_append, skipEnding, if_neg (by decide), if_pos ⟨rfl, rfl⟩]
        rfl

/-- The header, token by token. -/
theorem parseHeader_iff_tokens {bytes rest : Bytes} {width height : ℕ} :
    parseHeader bytes = some (width, height, rest) ↔
      (1 ≤ width ∧ width ≤ 600) ∧ (1 ≤ height ∧ height ≤ 378) ∧
        ∃ first second third last, nextPpmToken bytes = some (ascii "P6", first) ∧
          nextPpmToken first = some (decimal width, second) ∧
          nextPpmToken second = some (decimal height, third) ∧
          nextPpmToken third = some (ascii "255", last) ∧ skipEnding last = some rest := by
  constructor
  · intro h
    simp only [parseHeader, Option.bind_eq_bind, Option.bind_eq_some_iff, Option.guard_eq_some']
      at h
    obtain ⟨⟨magic, first⟩, hfirst, -, rfl, ⟨widthText, second⟩, hsecond, width', hwidth,
      ⟨heightText, third⟩,
      hthird, height', hheight, ⟨maximumText, last⟩, hlast, -, rfl, rest', hrest, heq⟩ := h
    obtain ⟨rfl, rfl, rfl⟩ : width' = width ∧ height' = height ∧ rest' = rest := by simpa using heq
    obtain ⟨hpos, hle, rfl⟩ := parsePositiveDimension_eq_some.1 hwidth
    obtain ⟨hpos', hle', rfl⟩ := parsePositiveDimension_eq_some.1 hheight
    exact ⟨⟨hpos, hle⟩, ⟨hpos', hle'⟩, first, second, third, last, hfirst, hsecond, hthird,
      hlast, hrest⟩
  · rintro ⟨⟨hpos, hle⟩, ⟨hpos', hle'⟩, first, second, third, last, hfirst, hsecond, hthird,
      hlast, hrest⟩
    have hwidth := parsePositiveDimension_eq_some.2 ⟨hpos, hle, rfl⟩
    have hheight := parsePositiveDimension_eq_some.2 ⟨hpos', hle', rfl⟩
    simp [parseHeader, hfirst, hsecond, hthird, hlast, hrest, kMaximumCoverWidth,
      kMaximumCoverHeight, hwidth,
      hheight]

/-- **The headers that are read.** -/
theorem parseHeader_eq_some {bytes rest : Bytes} {width height : ℕ} :
    parseHeader bytes = some (width, height, rest) ↔
      (1 ≤ width ∧ width ≤ 600) ∧ (1 ≤ height ∧ height ≤ 378) ∧
        ∃ header : PpmHeader width height, bytes = header.bytes ++ rest ∧
          (header.ending.bytes = [0x0d] → rest.head? ≠ some 0x0a) := by
  rw [parseHeader_iff_tokens]
  refine and_congr_right ?_
  intro hwidth
  refine and_congr_right ?_
  intro hheight
  constructor
  · rintro ⟨first, second, third, last, hfirst, hsecond, hthird, hlast, hrest⟩
    obtain ⟨before, hbefore, rfl, -, -, hends⟩ := exists_gap_of_nextPpmToken hfirst
    obtain ⟨gap, hgap, rfl, hne, hletters, hends'⟩ := exists_gap_of_nextPpmToken hsecond
    obtain ⟨gap', hgap', rfl, hne', hletters', hends''⟩ := exists_gap_of_nextPpmToken hthird
    obtain ⟨gap'', hgap'', rfl, hne'', hletters'', -⟩ := exists_gap_of_nextPpmToken hlast
    obtain ⟨ending, rfl, hclear⟩ := skipEnding_eq_some.1 hrest
    exact ⟨⟨before, gap, gap', gap'', ending, hbefore, hgap, hgap', hgap'',
      Words.Spacing.gap_ne_nil hends hne hletters, Words.Spacing.gap_ne_nil hends' hne' hletters',
      Words.Spacing.gap_ne_nil hends'' hne'' hletters''⟩, by simp [PpmHeader.bytes], hclear⟩
  · rintro ⟨header, rfl, hclear⟩
    have hshort : ∀ n ≤ 600, (decimal n).length ≤ 32 := by
      intro n hn
      have hdigits := length_decimal (show n < 2 ^ 32 by omega)
      omega
    let last := header.ending.bytes ++ rest
    let third := header.third ++ (ascii "255" ++ last)
    let second := header.second ++ (decimal height ++ third)
    let first := header.first ++ (decimal width ++ second)
    have hlast : nextPpmToken third = some (ascii "255", last) :=
      nextPpmToken_of_gap header.gap_third (by decide) (by decide) (List.all_eq_true.1 rfl)
        (header.ending.ends rest)
    have hthird : nextPpmToken second = some (decimal height, third) :=
      nextPpmToken_of_gap header.gap_second (decimal_ne_nil height) (hshort height (by omega))
        (isLetter_decimal height) (header.gap_third.ends header.third_ne _)
    have hsecond : nextPpmToken first = some (decimal width, second) :=
      nextPpmToken_of_gap header.gap_first (decimal_ne_nil width) (hshort width hwidth.2)
        (isLetter_decimal width) (header.gap_second.ends header.second_ne _)
    have hfirst : nextPpmToken (header.before ++ (ascii "P6" ++ first)) =
        some (ascii "P6", first) :=
      nextPpmToken_of_gap header.gap_before (by decide) (by decide) (List.all_eq_true.1 rfl)
        (header.gap_first.ends header.first_ne _)
    refine ⟨first, second, third, last, ?_, hsecond, hthird, hlast,
      skipEnding_eq_some.2 ⟨header.ending, rfl, hclear⟩⟩
    rw [← hfirst]
    simp [PpmHeader.bytes, first, second, third, last]

/-! ### Pixels -/

/-- The components of an xterm colour are bytes, and no component is a line feed. -/
theorem xtermColor_bytes : ∀ index < 256, (xtermColor index).red < 256 ∧
    (xtermColor index).green < 256 ∧
    (xtermColor index).blue < 256 ∧ (xtermColor index).red ≠ 10 := by
  decide +kernel

theorem isXtermColor_iff (color : RgbColor) :
    isXtermColor color = true ↔ ∃ index < 256, xtermColor index = color := by
  simp [isXtermColor]

/-- A colour, as the reader puts it together from its bytes. -/
theorem ofBytes_xterm {color : RgbColor} (h : ∃ index < 256, xtermColor index = color) :
    (⟨(UInt8.ofNat color.red).toNat, (UInt8.ofNat color.green).toNat,
      (UInt8.ofNat color.blue).toNat⟩ :
      RgbColor) = color := by
  obtain ⟨index, hindex, rfl⟩ := h
  obtain ⟨hred, hgreen, hblue, -⟩ := xtermColor_bytes index hindex
  simp only [UInt8.toNat_ofNat', Nat.mod_eq_of_lt hred, Nat.mod_eq_of_lt hgreen,
    Nat.mod_eq_of_lt hblue]

/-- The pixels of a picture are read. -/
theorem pixelLoop_colors {colors : List RgbColor}
    (h : ∀ color ∈ colors, ∃ index < 256, xtermColor index = color) (pixels : List UInt16) :
    pixelLoop (colors.flatMap colorBytes) pixels = some (pixels ++ colors.map RgbColor.pixel) := by
  induction colors generalizing pixels with
  | nil => simp [pixelLoop]
  | cons color colors ih =>
      have hcolor := h color List.mem_cons_self
      rw [List.flatMap_cons, colorBytes, List.cons_append, List.cons_append, List.cons_append,
        List.nil_append,
        pixelLoop, ofBytes_xterm hcolor, if_neg (by simp [(isXtermColor_iff color).2 hcolor]),
        ih fun other hmem => h other (List.mem_cons_of_mem _ hmem)]
      simp

/-- The pixels that are read are those of a picture. -/
theorem exists_colors_of_pixelLoop {bytes : Bytes} {count : ℕ} (hlength : bytes.length = count * 3)
    {pixels result : List UInt16} (h : pixelLoop bytes pixels = some result) :
    ∃ colors : List RgbColor, colors.length = count ∧
      (∀ color ∈ colors, ∃ index < 256, xtermColor index = color) ∧
      bytes = colors.flatMap colorBytes ∧ result = pixels ++ colors.map RgbColor.pixel := by
  fun_induction pixelLoop bytes pixels generalizing count with
  | case1 => cases h
  | case2 red green blue rest pixels color hxterm =>
      rename_i ih
      cases count with
      | zero => cases hlength
      | succ count =>
          rw [Bool.not_eq_false, isXtermColor_iff] at hxterm
          have hrest : rest.length = count * 3 := by
            simp only [List.length_cons] at hlength
            omega
          obtain ⟨colors, hcount, hcolors, rfl, rfl⟩ := ih hrest h
          refine ⟨color :: colors, by simp [hcount],
            List.forall_mem_cons.2 ⟨hxterm, hcolors⟩, ?_, ?_⟩
          · simp [colorBytes, color]
          · simp
  | case3 bytes pixels hshort =>
      -- fewer than three bytes are left, and so none
      have hnil : bytes = [] := by
        match bytes, hlength, hshort with
        | [], _, _ => rfl
        | [_], hlength, _ => exact absurd hlength (by simp; omega)
        | [_, _], hlength, _ => exact absurd hlength (by simp; omega)
        | _ :: _ :: _ :: _, _, hshort => exact (hshort _ _ _ _ rfl).elim
      subst hnil
      refine ⟨[], ?_, by simp, rfl, by simpa using (Option.some.inj h).symm⟩
      simp only [List.length_nil] at hlength ⊢
      omega

theorem length_flatMap_colorBytes (colors : List RgbColor) :
    (colors.flatMap colorBytes).length = colors.length * 3 := by
  induction colors with
  | nil => rfl
  | cons color colors ih =>
      rw [List.flatMap_cons, List.length_append, ih, colorBytes, List.length_cons]
      simp only [List.length_cons, List.length_nil]
      omega

namespace Picture

variable (picture : Picture)

theorem length_bytes : picture.bytes.length = picture.width * picture.height * 3 := by
  rw [bytes, length_flatMap_colorBytes, picture.length_colors]

/-- **No picture starts with a line feed.** -/
theorem head?_bytes : picture.bytes.head? ≠ some 0x0a := by
  intro h
  rw [bytes] at h
  cases hcolors : picture.colors with
  | nil => rw [hcolors] at h; cases h
  | cons color colors =>
      obtain ⟨index, hindex, heq⟩ := picture.xterm color (by rw [hcolors]; exact List.mem_cons_self)
      obtain ⟨hred, -, -, hfeed⟩ := xtermColor_bytes index hindex
      rw [hcolors] at h
      have hbyte : UInt8.ofNat color.red = 0x0a := by simpa [colorBytes] using h
      have htoNat := congrArg UInt8.toNat hbyte
      rw [UInt8.toNat_ofNat', ← heq, Nat.mod_eq_of_lt hred] at htoNat
      exact hfeed htoNat

end Picture

/-! ### Covers -/

/-- The loop of `read` calls, on a file all of which is delivered. -/
theorem readLoop_of_delivered {file : File}
    (h : (delivered file.reads file.content file.size).length = file.size) :
    readLoop file.reads file.content (List.replicate file.size 0) 0 file.size =
      (file.content, 0) := by
  have hinitial := delivered_prefix_take file.reads file.content file.size
  rw [File.size, List.take_length] at hinitial
  have hall : delivered file.reads file.content file.size = file.content := hinitial.eq_of_length h
  rw [readLoop_eq, hall, Buffer.store_zero_of_length_eq
    (by rw [List.length_replicate, File.size]), File.size,
    Nat.sub_self]

/-- **What is decoded** is a header and a picture. -/
theorem decodeCover_eq_ok {bytes : Bytes} {cover : CoverImage} :
    decodeCover bytes = .ok cover ↔
      ∃ (picture : Picture) (header : PpmHeader picture.width picture.height),
        bytes = header.bytes ++ picture.bytes ∧ cover = picture.cover := by
  constructor
  · intro h
    rw [decodeCover] at h
    split at h
    · cases h
    next width height rest hheader =>
    split at h
    · cases h
    next hsize =>
    split at h
    · cases h
    next pixels hpixels =>
    obtain ⟨hwidth, hheight, header, rfl, -⟩ := parseHeader_eq_some.1 hheader
    obtain ⟨colors, hcount, hcolors, rfl, rfl⟩ :=
      exists_colors_of_pixelLoop (Decidable.not_not.1 hsize) hpixels
    exact ⟨⟨width, height, hwidth.1, hwidth.2, hheight.1, hheight.2, colors, hcount, hcolors⟩,
      header, rfl,
      (Except.ok.inj h).symm⟩
  · rintro ⟨picture, header, rfl, rfl⟩
    have hheader := parseHeader_eq_some.2 ⟨⟨picture.width_pos, picture.width_le⟩,
      ⟨picture.height_pos, picture.height_le⟩, header, rfl, fun _ => picture.head?_bytes⟩
    have hpixels := pixelLoop_colors picture.xterm []
    rw [decodeCover, hheader]
    dsimp only
    rw [if_neg (Decidable.not_not.2 picture.length_bytes), Picture.bytes, hpixels]
    rfl

/-- A header and a picture are not too small. -/
theorem twelve_le_length (picture : Picture) (header : PpmHeader picture.width picture.height) :
    12 ≤ (header.bytes ++ picture.bytes).length := by
  have hfirst := List.length_pos_of_ne_nil header.first_ne
  have hsecond := List.length_pos_of_ne_nil header.second_ne
  have hthird := List.length_pos_of_ne_nil header.third_ne
  have hwidth := List.length_pos_of_ne_nil (decimal_ne_nil picture.width)
  have hheight := List.length_pos_of_ne_nil (decimal_ne_nil picture.height)
  have hpixels : 1 * 1 * 3 ≤ picture.width * picture.height * 3 :=
    Nat.mul_le_mul_right 3 (Nat.mul_le_mul picture.width_pos picture.height_pos)
  have hmagic : (ascii "P6").length = 2 := rfl
  have hmaximum : (ascii "255").length = 3 := rfl
  simp only [PpmHeader.bytes, List.length_append, picture.length_bytes, hmagic, hmaximum]
  omega

/-- **A file is accepted exactly if it is a header and a picture**, and not too large; its pixels
are those of the picture. -/
theorem loadPpmCoverImage_eq_ok (file : File) (calls : CoverCalls) (cover : CoverImage) :
    loadPpmCoverImage file calls = .ok cover ↔
      Loads file calls ∧ file.size ≤ kMaximumCoverBytes ∧
        ∃ (picture : Picture) (header : PpmHeader picture.width picture.height),
          file.content = header.bytes ++ picture.bytes ∧ cover = picture.cover := by
  rw [← decodeCover_eq_ok]
  constructor
  · intro h
    rw [loadPpmCoverImage] at h
    split at h
    · cases h
    next hopens =>
    split at h
    · cases h
    next hsmall =>
    simp only [not_or, Decidable.not_not, Bool.not_eq_false, Nat.not_lt] at hsmall
    obtain ⟨hstat, hregular, -, hsize⟩ := hsmall
    dsimp only at h
    split at h
    · cases h
    next hread =>
    rw [not_or, Decidable.not_not, Bool.not_eq_true, readLoop_eq] at hread
    have hdelivered : (delivered file.reads file.content file.size).length = file.size := by
      have hle := length_delivered_le file.reads file.content file.size
      have hmissing := hread.1
      dsimp only at hmissing
      omega
    rw [readLoop_of_delivered hdelivered] at h
    exact ⟨⟨hopens, hstat, hregular, hdelivered, hread.2⟩, hsize, h⟩
  · rintro ⟨hloads, hsize, hcover⟩
    have hlarge : 12 ≤ file.size := by
      obtain ⟨picture, header, hcontent, -⟩ := decodeCover_eq_ok.1 hcover
      rw [File.size, hcontent]
      exact twelve_le_length picture header
    rw [loadPpmCoverImage, hloads.opens]
    dsimp only
    rw [if_neg (by simp [hloads.stat, hloads.regular]; omega), readLoop_of_delivered hloads.reads]
    dsimp only
    rw [if_neg (by simp [hloads.close])]
    exact hcover

end NesDeck.PpmCover
