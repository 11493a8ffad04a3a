/-
**The catalogs of the uploader.**

The uploader reads the catalog of the menu and its own one with `parseCatalog` (`uploader/rom.go`),
and writes its own one back.  It only separates the lines and the fields; the menu checks them
later.  A line is cut off at carriage returns twice, once by the scanner and once by the parser.

Main definitions:

* `NesDeck.Uploader.rowEntry` — the entry of a line;
* `NesDeck.Uploader.parseCatalog` — the parser, with its errors;
* `NesDeck.Uploader.diskEntries` — the entries that a file contains, without the limits of the
  parser.

Main results:

* `NesDeck.Uploader.parseCatalog_eq_diskEntries` — the parser returns the entries of the file;
* `NesDeck.Uploader.parseCatalog_encodeCatalog` — **a catalog is read back as it was written**;
* `NesDeck.Uploader.mem_diskEntries_encodeCatalog` — a catalog that was read and is written again
  names the same ROMs.
-/

import NesDeck.ManifestRows

set_option relaxedAutoImplicit false
set_option autoImplicit false

namespace NesDeck.Uploader

open HostFile
open MenuText

def maximumCatalogBytes : ℕ := 64 * 1024

def maximumGames : ℕ := 64

/-! ### Lines and files -/

/-- A line as the parser sees it. -/
def trimLine (raw : Bytes) : Bytes := stripCarriageReturn (stripCarriageReturn raw)

/-- The entry of a line, if it is neither blank nor a comment and has five fields. -/
def rowEntry (raw : Bytes) : Option CatalogEntry :=
  let line := trimLine raw
  if line = [] ∨ line.head? = some 0x23 then none
  else
    match splitTabs line with
    | [id, title, system, rom, color] => some ⟨id, title, system, rom, color⟩
    | _ => none

/-- The reasons for which `parseCatalog` refuses a file. -/
inductive CatalogError where
  | fault
  | missing
  | notBounded
  | malformedLine
  | tooManyGames
  | tokenTooLong
  deriving DecidableEq

/-- The text of the error; that of a failing call is the one of the system. -/
def CatalogError.message (osText : Bytes) : CatalogError → Bytes
  | fault => osText
  | missing => osText
  | notBounded => ascii "catalog is not a bounded regular file"
  | malformedLine => ascii "catalog contains a malformed line"
  | tooManyGames => ascii "catalog contains too many games"
  | tokenTooLong => ascii "bufio.Scanner: token too long"

/-- The loop over the lines.  The buffer of the scanner holds lines of up to 4096 bytes. -/
def parseLines : (lines : List Bytes) → (entries : List CatalogEntry) →
    Except CatalogError (List CatalogEntry)
  | [], entries => .ok entries
  | raw :: lines, entries =>
      if 4096 < raw.length then .error .tokenTooLong
      else
        let line := trimLine raw
        if line = [] ∨ line.head? = some 0x23 then parseLines lines entries
        else
          match splitTabs line with
          | [id, title, system, rom, color] =>
              if maximumGames < entries.length + 1 then .error .tooManyGames
              else parseLines lines (entries ++ [⟨id, title, system, rom, color⟩])
          | _ => .error .malformedLine

/-- `parseCatalog`: the content of the file, if there is one, and whether a call on it fails. -/
def parseCatalog (file : Option Bytes) (fault missingOK : Bool) :
    Except CatalogError (List CatalogEntry) :=
  if fault = true then .error .fault
  else
    match file with
    | none => if missingOK = true then .ok [] else .error .missing
    | some content =>
        if maximumCatalogBytes < content.length then .error .notBounded
        else parseLines (getlines content) []

/-- The entries that a file contains. -/
def diskEntries (content : Bytes) : List CatalogEntry := (getlines content).filterMap rowEntry

theorem parseLines_eq {lines : List Bytes} {entries result : List CatalogEntry}
    (h : parseLines lines entries = .ok result) : result = entries ++ lines.filterMap rowEntry := by
  fun_induction parseLines lines entries with
  | case1 entries =>
      cases h
      rw [List.filterMap_nil, List.append_nil]
  | case2 => cases h
  | case3 raw lines entries hshort line hskip ih =>
      rw [List.filterMap_cons, rowEntry, if_pos hskip]
      exact ih h
  | case4 => cases h
  | case5 raw lines entries hshort line hline id title system rom color hfields hroom ih =>
      have hrow : rowEntry raw = some ⟨id, title, system, rom, color⟩ := by
        rw [rowEntry, if_neg hline, hfields]
      rw [List.filterMap_cons, hrow, ih h, List.append_assoc, List.singleton_append]
  | case6 => cases h

/-- The parser returns the entries of the file. -/
theorem parseCatalog_eq_diskEntries {content : Bytes} {fault missingOK : Bool}
    {entries : List CatalogEntry} (h : parseCatalog (some content) fault missingOK = .ok entries) :
    entries = diskEntries content := by
  rw [parseCatalog] at h
  split at h
  · cases h
  split at h
  · cases h
  · exact parseLines_eq h

/-! ### The fields of a line -/

/-- No piece of a list contains the separator. -/
theorem not_mem_of_mem_splitOn {α : Type} [DecidableEq α] {separator : α} {list piece : List α}
    (h : piece ∈ list.splitOn separator) : separator ∉ piece := by
  induction list generalizing piece with
  | nil =>
      rw [List.splitOn_nil, List.mem_singleton] at h
      rw [h]
      exact List.not_mem_nil
  | cons first rest ih =>
      rw [List.splitOn_cons_eq_if_modifyHead] at h
      split at h
      · rcases List.mem_cons.1 h with rfl | h
        · exact List.not_mem_nil
        · exact ih h
      · rename_i hne
        obtain ⟨head, tail, hsplit⟩ :=
          List.exists_cons_of_ne_nil (List.splitOn_ne_nil separator rest)
        rw [hsplit, List.modifyHead_cons] at h
        rw [hsplit] at ih
        rcases List.mem_cons.1 h with rfl | h
        · rw [List.mem_cons, not_or]
          exact ⟨fun heq => hne (beq_iff_eq.2 heq.symm), ih List.mem_cons_self⟩
        · exact ih (List.mem_cons_of_mem _ h)

/-- An entry that can be written as one line. -/
structure Writable (entry : CatalogEntry) : Prop where
  noTabs : entry.NoTabs
  noNewline : (0x0a : UInt8) ∉ entry.line

theorem stripCarriageReturn_sublist (line : Bytes) : (stripCarriageReturn line).Sublist line := by
  rw [stripCarriageReturn]
  split
  · exact List.dropLast_sublist line
  · exact List.Sublist.refl line

theorem trimLine_sublist (line : Bytes) : (trimLine line).Sublist line :=
  (stripCarriageReturn_sublist _).trans (stripCarriageReturn_sublist _)

/-- A line of five fields is the line of their entry. -/
theorem eq_line_of_splitTabs {line id title system rom color : Bytes}
    (h : splitTabs line = [id, title, system, rom, color]) :
    line = (⟨id, title, system, rom, color⟩ : CatalogEntry).line := by
  rw [← intercalate_splitTabs line, h]
  simp [List.intercalate, CatalogEntry.line]

/-- The entry of a line of a file can be written as a line. -/
theorem writable_of_rowEntry {raw : Bytes} {entry : CatalogEntry} (h : rowEntry raw = some entry)
    (hraw : (0x0a : UInt8) ∉ raw) : Writable entry := by
  rw [rowEntry] at h
  split at h
  · cases h
  split at h
  · rename_i id title system rom color hfields
    cases h
    have hfree : ∀ field ∈ [id, title, system, rom, color], (0x09 : UInt8) ∉ field := by
      intro field hmem
      rw [← hfields, splitTabs] at hmem
      exact not_mem_of_mem_splitOn hmem
    simp only [List.forall_mem_cons] at hfree
    obtain ⟨hid, htitle, hsystem, hrom, hcolor, -⟩ := hfree
    refine ⟨⟨hid, htitle, hsystem, hrom, hcolor⟩, ?_⟩
    rw [← eq_line_of_splitTabs hfields]
    exact fun hmem => hraw ((trimLine_sublist raw).subset hmem)
  · cases h

/-- The fields before the last one, with their tabs. -/
def front (entry : CatalogEntry) : Bytes :=
  entry.id ++ 0x09 :: (entry.title ++ 0x09 :: (entry.system ++ 0x09 :: entry.rom)) ++ [0x09]

theorem line_eq_front (entry : CatalogEntry) : entry.line = front entry ++ entry.color := by
  simp [front, CatalogEntry.line]

/-- A carriage return is cut off the last field. -/
theorem stripCarriageReturn_line (entry : CatalogEntry) :
    stripCarriageReturn entry.line =
      { entry with color := stripCarriageReturn entry.color }.line := by
  rw [line_eq_front, line_eq_front]
  cases hcolor : entry.color.getLast? with
  | none =>
      have hnil := List.getLast?_eq_none_iff.1 hcolor
      have hlast : (front entry).getLast? = some 0x09 := by rw [front, List.getLast?_concat]
      rw [hnil, List.append_nil, stripCarriageReturn, hlast, if_neg (by decide)]
      exact (List.append_nil _).symm
  | some last =>
      have hne : entry.color ≠ [] := by
        rintro heq
        rw [heq] at hcolor
        cases hcolor
      have hlast : (front entry ++ entry.color).getLast? = some last := by
        rw [List.getLast?_append, hcolor]
        rfl
      rw [stripCarriageReturn, hlast, stripCarriageReturn, hcolor]
      split
      · rw [List.dropLast_append_of_ne_nil hne]
        rfl
      · rfl

theorem trimLine_line (entry : CatalogEntry) :
    trimLine entry.line = { entry with color := trimLine entry.color }.line := by
  rw [trimLine, stripCarriageReturn_line, stripCarriageReturn_line]
  rfl

/-- The line of a writable entry is a comment, or the entry up to its last field. -/
theorem rowEntry_line_eq {entry : CatalogEntry} (h : Writable entry) :
    rowEntry entry.line =
      if entry.line.head? = some 0x23 then none
      else some { entry with color := trimLine entry.color } := by
  have htabs : ({ entry with color := trimLine entry.color } : CatalogEntry).NoTabs :=
    ⟨h.noTabs.id, h.noTabs.title, h.noTabs.system, h.noTabs.rom,
      fun hmem => h.noTabs.color ((trimLine_sublist entry.color).subset hmem)⟩
  have hhead : ({ entry with color := trimLine entry.color } : CatalogEntry).line.head? =
      entry.line.head? := by
    rw [line_eq_front, line_eq_front, List.head?_append, List.head?_append]
    have hne : front entry ≠ [] := by simp [front]
    obtain ⟨first, rest, hfront⟩ := List.exists_cons_of_ne_nil hne
    have hfront' : front { entry with color := trimLine entry.color } = first :: rest := hfront
    rw [hfront, hfront']
    rfl
  have hne : ({ entry with color := trimLine entry.color } : CatalogEntry).line ≠ [] := by
    rw [line_eq_front]
    simp [front]
  rw [rowEntry, trimLine_line, htabs.splitTabs_line, hhead]
  simp only [hne, false_or]

/-- **A catalog that is written names the ROMs of its entries**, and no others. -/
theorem mem_diskEntries_encodeCatalog {entries : List CatalogEntry}
    (h : ∀ entry ∈ entries, Writable entry) {entry : CatalogEntry}
    (hmem : entry ∈ diskEntries (encodeCatalog entries)) :
    ∃ written ∈ entries, entry.rom = written.rom := by
  rw [diskEntries, getlines_encodeCatalog fun entry hmem => (h entry hmem).noNewline,
    List.mem_filterMap] at hmem
  obtain ⟨raw, hraw, hrow⟩ := hmem
  obtain ⟨written, hwritten, rfl⟩ := List.mem_map.1 hraw
  rw [rowEntry_line_eq (h written hwritten)] at hrow
  split at hrow
  · cases hrow
  · cases hrow
    exact ⟨written, hwritten, rfl⟩

/-- The entries of a file can be written. -/
theorem writable_of_mem_diskEntries {content : Bytes} {entry : CatalogEntry}
    (h : entry ∈ diskEntries content) : Writable entry := by
  rw [diskEntries, List.mem_filterMap] at h
  obtain ⟨raw, hraw, hrow⟩ := h
  refine writable_of_rowEntry hrow ?_
  rw [getlines] at hraw
  split at hraw
  · exact not_mem_of_mem_splitOn ((List.dropLast_sublist _).subset hraw)
  · exact not_mem_of_mem_splitOn hraw

/-! ### Reading a catalog back -/

/-- An entry whose line is read as it is written. -/
structure Plain (entry : CatalogEntry) : Prop extends Writable entry where
  trimmed : trimLine entry.color = entry.color
  shown : entry.line.head? ≠ some 0x23

theorem rowEntry_line {entry : CatalogEntry} (h : Plain entry) :
    rowEntry entry.line = some entry := by
  rw [rowEntry_line_eq h.toWritable, if_neg h.shown, h.trimmed]

/-- An entry that is written plainly is found on the disk. -/
theorem mem_diskEntries_of_plain {entries : List CatalogEntry}
    (h : ∀ entry ∈ entries, Writable entry) {entry : CatalogEntry} (hmem : entry ∈ entries)
    (hplain : Plain entry) : entry ∈ diskEntries (encodeCatalog entries) := by
  rw [diskEntries, getlines_encodeCatalog fun entry hmem => (h entry hmem).noNewline,
    List.mem_filterMap]
  exact ⟨entry.line, List.mem_map_of_mem hmem, rowEntry_line hplain⟩

theorem plain_of_good {files : Bytes → File} {entry : CatalogEntry} (h : entry.Good files) :
    Plain entry where
  noTabs := h.noTabs
  noNewline := h.no_newline
  trimmed := by
    have hstrip : stripCarriageReturn entry.color = entry.color := by
      rw [stripCarriageReturn, if_neg]
      intro hlast
      exact absurd (ge_of_parseColor h.color _ (List.mem_of_getLast? hlast)) (by decide)
    rw [trimLine, hstrip, hstrip]
  shown := fun hhead => h.line_ne (Or.inr hhead)

theorem parseLines_lines {entries : List CatalogEntry} (hplain : ∀ entry ∈ entries, Plain entry)
    (hshort : ∀ entry ∈ entries, entry.line.length ≤ 4096) {before : List CatalogEntry}
    (hroom : before.length + entries.length ≤ maximumGames) :
    parseLines (entries.map CatalogEntry.line) before = .ok (before ++ entries) := by
  induction entries generalizing before with
  | nil => rw [List.map_nil, parseLines, List.append_nil]
  | cons entry entries ih =>
      have hentry := hplain entry List.mem_cons_self
      have htrim : trimLine entry.line = entry.line := by rw [trimLine_line, hentry.trimmed]
      have hne : ¬ (entry.line = [] ∨ entry.line.head? = some 0x23) := by
        rintro (hnil | hhead)
        · rw [line_eq_front] at hnil
          simp [front] at hnil
        · exact hentry.shown hhead
      rw [List.length_cons] at hroom
      rw [List.map_cons, parseLines, if_neg (Nat.not_lt.2 (hshort entry List.mem_cons_self))]
      dsimp only
      rw [htrim, if_neg hne, hentry.noTabs.splitTabs_line]
      dsimp only
      rw [if_neg (by omega), ih (fun other hmem => hplain other (List.mem_cons_of_mem _ hmem))
        (fun other hmem => hshort other (List.mem_cons_of_mem _ hmem))
        (by rw [List.length_append, List.length_singleton]; omega), List.append_assoc,
        List.singleton_append]

/-- **A catalog is read back as it was written.** -/
theorem parseCatalog_encodeCatalog {entries : List CatalogEntry}
    (hplain : ∀ entry ∈ entries, Plain entry)
    (hshort : ∀ entry ∈ entries, entry.line.length ≤ 4096)
    (hroom : entries.length ≤ maximumGames)
    (hsize : (encodeCatalog entries).length ≤ maximumCatalogBytes) (missingOK : Bool) :
    parseCatalog (some (encodeCatalog entries)) false missingOK = .ok entries := by
  rw [parseCatalog, if_neg (by decide), if_neg (Nat.not_lt.2 hsize),
    getlines_encodeCatalog fun entry hmem => (hplain entry hmem).noNewline]
  exact @parseLines_lines entries hplain hshort [] (by simpa using hroom)

end NesDeck.Uploader
