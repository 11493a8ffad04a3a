/-
**Writing a manifest.**

The catalog compiler and the uploader write manifests: a line of five fields for every game, with
a tab between the fields and a newline at the end.  `load_manifest` reads such a file back as long
as every line stands for a good entry, the ids and the ROM paths differ, and there is room for all
of them.

Main definitions:

* `NesDeck.CatalogEntry` — the five fields of a line;
* `NesDeck.encodeCatalog` — the manifest of a list of lines;
* `NesDeck.CatalogEntry.Good` — a line that the menu accepts.

Main results:

* `NesDeck.CatalogEntry.Good.splitTabs_line` — a good line is split into its fields;
* `NesDeck.getlines_encodeCatalog` — a manifest is read line by line;
* `NesDeck.loadManifest_encodeCatalog` — **a manifest of good lines is loaded**.
-/

import Mathlib.Data.Nat.Digits.Defs
import NesDeck.MenuCatalog

set_option relaxedAutoImplicit false
set_option autoImplicit false

namespace NesDeck

open HostFile
open MenuText

/-! ### Lines -/

/-- The fields of a line; the `catalogEntry` of the uploader. -/
structure CatalogEntry where
  id : Bytes
  title : Bytes
  system : Bytes
  rom : Bytes
  color : Bytes
  deriving DecidableEq

namespace CatalogEntry

/-- The line, without its newline. -/
def line (entry : CatalogEntry) : Bytes :=
  entry.id ++ 0x09 :: (entry.title ++ 0x09 :: (entry.system ++ 0x09 :: (entry.rom ++
    0x09 :: entry.color)))

/-- The entry of the menu that the line stands for. -/
def game (entry : CatalogEntry) : GameEntry :=
  ⟨entry.id, entry.title, entry.system, entry.rom, (parseColor entry.color).getD ⟨0, 0, 0⟩, .none⟩

/-- A line that the menu accepts. -/
structure Good (files : Bytes → File) (entry : CatalogEntry) : Prop where
  game : entry.game.Good files
  color : (parseColor entry.color).isSome = true
  short : entry.line.length ≤ 4096

/-- No field contains a tab. -/
structure NoTabs (entry : CatalogEntry) : Prop where
  id : (0x09 : UInt8) ∉ entry.id
  title : (0x09 : UInt8) ∉ entry.title
  system : (0x09 : UInt8) ∉ entry.system
  rom : (0x09 : UInt8) ∉ entry.rom
  color : (0x09 : UInt8) ∉ entry.color

/-- A line is split into the fields it was written from. -/
theorem NoTabs.splitTabs_line {entry : CatalogEntry} (h : entry.NoTabs) :
    splitTabs entry.line = [entry.id, entry.title, entry.system, entry.rom, entry.color] := by
  rw [splitTabs, line, List.splitOn_append_cons_self_of_not_mem h.id,
    List.splitOn_append_cons_self_of_not_mem h.title,
    List.splitOn_append_cons_self_of_not_mem h.system,
    List.splitOn_append_cons_self_of_not_mem h.rom, List.splitOn_eq_singleton h.color]

/-- A byte of a line is a tab or a byte of a field. -/
theorem mem_line {entry : CatalogEntry} {byte : UInt8} (h : byte ∈ entry.line) :
    byte = 0x09 ∨ byte ∈ entry.id ∨ byte ∈ entry.title ∨ byte ∈ entry.system ∨
      byte ∈ entry.rom ∨ byte ∈ entry.color := by
  simp only [line, List.mem_append, List.mem_cons] at h
  tauto

end CatalogEntry

/-- The lines with their newlines. -/
def encodeCatalog (entries : List CatalogEntry) : Bytes :=
  entries.flatMap fun entry => entry.line ++ [0x0a]

/-- The size of a text of short lines. -/
theorem length_lines_le {lines : List Bytes} {m : ℕ} (h : ∀ line ∈ lines, line.length < m) :
    (lines.flatMap fun line => line ++ [0x0a]).length ≤ lines.length * m := by
  induction lines with
  | nil => simp
  | cons line lines ih =>
      have hrest := ih fun other hmem => h other (List.mem_cons_of_mem _ hmem)
      have hfirst := h line (List.mem_cons_self ..)
      rw [List.flatMap_cons, List.length_append, List.length_append, List.length_singleton,
        List.length_cons, Nat.succ_mul]
      omega

theorem length_encodeCatalog_le {entries : List CatalogEntry} {m : ℕ}
    (h : ∀ entry ∈ entries, entry.line.length < m) :
    (encodeCatalog entries).length ≤ entries.length * m := by
  have hlength := length_lines_le (List.forall_mem_map.2 h)
  rwa [List.flatMap_map, List.length_map] at hlength

/-- Lines that are written with newlines are read back. -/
theorem getlines_lines {lines : List Bytes} (h : ∀ line ∈ lines, (0x0a : UInt8) ∉ line) :
    getlines (lines.flatMap fun line => line ++ [0x0a]) = lines := by
  have hsplit : (lines.flatMap fun line => line ++ [0x0a]).splitOn 0x0a = lines ++ [[]] := by
    induction lines with
    | nil => simp
    | cons line lines ih =>
        have hrest := ih fun other hmem => h other (List.mem_cons_of_mem _ hmem)
        rw [List.flatMap_cons, List.append_assoc, List.singleton_append,
          List.splitOn_append_cons_self_of_not_mem (h line (List.mem_cons_self ..)), hrest,
          List.cons_append]
  rw [getlines, hsplit, List.getLast?_append, List.getLast?_singleton]
  simp

/-- The lines of a manifest are read back. -/
theorem getlines_encodeCatalog {entries : List CatalogEntry}
    (h : ∀ entry ∈ entries, (0x0a : UInt8) ∉ entry.line) :
    getlines (encodeCatalog entries) = entries.map CatalogEntry.line := by
  have hlines := getlines_lines (List.forall_mem_map.2 h)
  rwa [List.flatMap_map] at hlines

/-! ### The bytes of good fields -/

theorem ge_of_validIdLoop {id : Bytes} {previous : Option UInt8}
    (h : validIdLoop id previous = true) : ∀ byte ∈ id, 0x20 ≤ byte := by
  fun_induction validIdLoop id previous with
  | case1 => simp
  | case2 => cases h
  | case3 => cases h
  | case4 => cases h
  | case5 character rest previous hvalid _ _ ih =>
      rw [not_not] at hvalid
      intro byte hmem
      rcases List.mem_cons.1 hmem with rfl | hmem
      · rcases hvalid with hlower | hdigit | rfl
        · rw [isLower, decide_eq_true_eq] at hlower
          exact UInt8.le_trans (by decide) hlower.1
        · rw [isDigit, decide_eq_true_eq] at hdigit
          exact UInt8.le_trans (by decide) hdigit.1
        · decide
      · exact ih h byte hmem

theorem ge_of_validId {id : Bytes} (h : validId id = true) : ∀ byte ∈ id, 0x20 ≤ byte := by
  rw [validId] at h
  split at h
  · cases h
  · exact ge_of_validIdLoop h

/-- An id starts with a letter or a digit. -/
theorem head_of_validId {id : Bytes} (h : validId id = true) :
    ∃ first rest, id = first :: rest ∧ first ≠ 0x23 := by
  rw [validId] at h
  split at h
  · cases h
  rename_i hid
  rw [not_or] at hid
  obtain ⟨first, rest, rfl⟩ := List.exists_cons_of_ne_nil hid.1
  refine ⟨first, rest, rfl, ?_⟩
  rintro rfl
  rw [validIdLoop] at h
  split at h
  · cases h
  · rename_i hvalid
    exact hvalid (by decide)

theorem ge_of_validSystem {system : Bytes} (h : validSystem system = true) :
    ∀ byte ∈ system, 0x20 ≤ byte := by
  rcases validSystem_iff.1 h with rfl | rfl | rfl | rfl | rfl | rfl
  all_goals exact List.all_iff_forall_prop.1 (by decide)

theorem ge_of_nibble {character : UInt8} (h : (nibble character).isSome = true) :
    0x20 ≤ character := by
  rw [nibble] at h
  split at h
  · rename_i hdigit
    exact UInt8.le_trans (by decide) hdigit.1
  split at h
  · rename_i hlower
    exact UInt8.le_trans (by decide) hlower.1
  split at h
  · rename_i hupper
    exact UInt8.le_trans (by decide) hupper.1
  · cases h

theorem ge_of_colorValue {digits : Bytes} {value result : ℕ}
    (h : colorValue digits value = some result) : ∀ byte ∈ digits, 0x20 ≤ byte := by
  fun_induction colorValue digits value with
  | case1 => simp
  | case2 => cases h
  | case3 value character rest digit hdigit ih =>
      intro byte hmem
      rcases List.mem_cons.1 hmem with rfl | hmem
      · exact ge_of_nibble (by rw [hdigit]; rfl)
      · exact ih h byte hmem

theorem ge_of_parseColor {text : Bytes} (h : (parseColor text).isSome = true) :
    ∀ byte ∈ text, 0x20 ≤ byte := by
  rw [parseColor] at h
  split at h
  · cases h
  rename_i hshape
  rw [not_or, not_not, not_not] at hshape
  split at h
  · cases h
  rename_i value hvalue
  intro byte hmem
  cases text with
  | nil => exact absurd hmem List.not_mem_nil
  | cons first rest =>
      rcases List.mem_cons.1 hmem with rfl | hmem
      · cases hshape.2
        decide
      · exact ge_of_colorValue hvalue byte hmem

namespace CatalogEntry

variable {files : Bytes → File} {entry : CatalogEntry}

/-- A good line has no control characters but its tabs. -/
theorem Good.ge_of_mem_line (h : entry.Good files) {byte : UInt8} (hmem : byte ∈ entry.line) :
    byte = 0x09 ∨ 0x20 ≤ byte := by
  rcases mem_line hmem with rfl | hid | htitle | hsystem | hrom | hcolor
  · exact Or.inl rfl
  · exact Or.inr (ge_of_validId h.game.id byte hid)
  · exact Or.inr (ge_of_validUtf8Text h.game.title byte htitle)
  · exact Or.inr (ge_of_validSystem h.game.system byte hsystem)
  · exact Or.inr (ge_of_validUtf8Text h.game.rom byte hrom)
  · exact Or.inr (ge_of_parseColor h.color byte hcolor)

theorem Good.noTabs (h : entry.Good files) : entry.NoTabs where
  id := fun hmem => absurd (ge_of_validId h.game.id _ hmem) (by decide)
  title := fun hmem => absurd (ge_of_validUtf8Text h.game.title _ hmem) (by decide)
  system := fun hmem => absurd (ge_of_validSystem h.game.system _ hmem) (by decide)
  rom := fun hmem => absurd (ge_of_validUtf8Text h.game.rom _ hmem) (by decide)
  color := fun hmem => absurd (ge_of_parseColor h.color _ hmem) (by decide)

theorem Good.no_newline (h : entry.Good files) : (0x0a : UInt8) ∉ entry.line := by
  intro hmem
  rcases h.ge_of_mem_line hmem with heq | hge
  · exact absurd heq (by decide)
  · exact absurd hge (by decide)

theorem Good.stripCarriageReturn_line (h : entry.Good files) :
    stripCarriageReturn entry.line = entry.line := by
  rw [stripCarriageReturn, if_neg]
  intro hlast
  rcases h.ge_of_mem_line (List.mem_of_getLast? hlast) with heq | hge
  · exact absurd heq (by decide)
  · exact absurd hge (by decide)

/-- A good line is neither blank nor a comment. -/
theorem Good.line_ne (h : entry.Good files) :
    ¬ (entry.line = [] ∨ entry.line.head? = some 0x23) := by
  obtain ⟨first, rest, hid, hne⟩ := head_of_validId h.game.id
  have hentry : entry.id = first :: rest := hid
  rw [line, hentry]
  rintro (hnil | hhead)
  · cases hnil
  · exact hne (Option.some.inj hhead)

/-- A good line is not the header. -/
theorem Good.not_header (h : entry.Good files) :
    isOptionalHeader [entry.id, entry.title, entry.system, entry.rom, entry.color] = false := by
  have hsystem : entry.system ≠ ascii "system" := by
    intro heq
    have hvalid : validSystem entry.system = true := h.game.system
    rw [heq] at hvalid
    exact absurd hvalid (by decide)
  simp [isOptionalHeader, hsystem]

end CatalogEntry

/-! ### Loading -/

/-- The loop over good lines appends their entries. -/
theorem manifestLoop_lines {files : Bytes → File} {entries : List CatalogEntry}
    {games : List GameEntry} (hgood : ∀ entry ∈ entries, entry.Good files)
    (hids : (games.map (·.id) ++ entries.map (·.id)).Nodup)
    (hroms : (games.map (·.rom) ++ entries.map (·.rom)).Nodup)
    (hroom : games.length + entries.length ≤ kMaximumCatalogGames) (lineNumber : ℕ)
    (sawData : Bool) :
    manifestLoop files (entries.map CatalogEntry.line) lineNumber sawData games =
      .ok (games ++ entries.map CatalogEntry.game) := by
  induction entries generalizing games lineNumber sawData with
  | nil => simp [manifestLoop]
  | cons entry entries ih =>
      have hentry := hgood entry (List.mem_cons_self ..)
      obtain ⟨color, hcolor⟩ := Option.isSome_iff_exists.1 hentry.color
      have hid : entry.id ∉ games.map (·.id) := by
        intro hmem
        rw [List.map_cons] at hids
        exact (List.disjoint_of_nodup_append hids) hmem (List.mem_cons_self ..)
      have hrom : entry.rom ∉ games.map (·.rom) := by
        intro hmem
        rw [List.map_cons] at hroms
        exact (List.disjoint_of_nodup_append hroms) hmem (List.mem_cons_self ..)
      have hparsed : manifestEntry files games (lineNumber + 1)
          [entry.id, entry.title, entry.system, entry.rom, entry.color] = .ok entry.game := by
        refine (manifestEntry_iff ..).2 ⟨entry.color, rfl, ?_, hentry.game, hid, hrom⟩
        rw [CatalogEntry.game, hcolor]
        rfl
      rw [List.length_cons] at hroom
      rw [List.map_cons, manifestLoop, if_neg (Nat.not_lt.2 hentry.short)]
      dsimp only
      rw [hentry.stripCarriageReturn_line, if_neg hentry.line_ne,
        hentry.noTabs.splitTabs_line, hentry.not_header, if_neg (by simp), hparsed]
      dsimp only
      rw [if_neg (by omega), ih]
      · rw [List.append_assoc, List.map_cons, List.singleton_append]
      · exact fun other hmem => hgood other (List.mem_cons_of_mem _ hmem)
      · rw [List.map_append, List.append_assoc]
        exact hids
      · rw [List.map_append, List.append_assoc]
        exact hroms
      · rw [List.length_append, List.length_singleton]
        omega

/-- **A manifest of good lines is loaded**, entry by entry. -/
theorem loadManifest_encodeCatalog {files : Bytes → File} {path : Bytes}
    {entries : List CatalogEntry} (hpath : isAbsolutePath path = true)
    (hfile : (files path).readable) (hcontent : (files path).content = encodeCatalog entries)
    (hsize : (encodeCatalog entries).length ≤ kMaximumManifestBytes) (hne : entries ≠ [])
    (hgood : ∀ entry ∈ entries, entry.Good files) (hids : (entries.map (·.id)).Nodup)
    (hroms : (entries.map (·.rom)).Nodup) (hroom : entries.length ≤ kMaximumCatalogGames) :
    loadManifest files path = .ok (entries.map CatalogEntry.game) := by
  have hall : (files path).content.take (files path).streamed = encodeCatalog entries := by
    rw [← hcontent]
    exact List.take_of_length_le hfile.stream
  have hlines := getlines_encodeCatalog fun entry hmem => (hgood entry hmem).no_newline
  have hloop : manifestLoop files (entries.map CatalogEntry.line) 0 false [] =
      .ok ([] ++ entries.map CatalogEntry.game) :=
    @manifestLoop_lines files entries [] hgood hids hroms (by simpa using hroom) 0 false
  rw [loadManifest, if_neg (by simp [hpath]), hfile.stat]
  dsimp only
  rw [if_neg (by simp [hfile.regular, File.size, hcontent, hsize]), hfile.opens]
  dsimp only
  rw [hall, hlines, hloop]
  dsimp only
  rw [if_neg (by simp [hfile.good]), List.nil_append, if_neg]
  rw [List.map_eq_nil_iff]
  exact hne

/-! ### Manifests of deck games -/

/-- A number in decimal digits. -/
def decimal (n : ℕ) : Bytes := (Nat.toDigits 10 n).map fun digit => digit.toUInt8

theorem length_decimal {n : ℕ} (h : n < 2 ^ 32) : (decimal n).length ≤ 10 := by
  rw [decimal, List.length_map]
  exact Nat.toDigits_length 10 n 10 (by decide) (Nat.lt_trans h (by decide))

theorem decimal_ne_nil (n : ℕ) : decimal n ≠ [] := by
  rw [decimal, Ne, List.map_eq_nil_iff]
  exact Nat.toDigits_ne_nil

/-- A digit and its value. -/
structure IsDecimalDigit (value : ℕ) (digit : UInt8) : Prop where
  lt : value < 10
  low : 0x30 ≤ digit
  high : digit ≤ 0x39
  toNat : digit.toNat - 0x30 = value

/-- The digits of a number, from the first one to the last. -/
theorem decimal_induction {P : ℕ → Bytes → Prop}
    (hdigit : ∀ value digit, IsDecimalDigit value digit → P value [digit])
    (happend : ∀ n text value digit, P n text → IsDecimalDigit value digit →
      P (n * 10 + value) (text ++ [digit])) (n : ℕ) : P n (decimal n) := by
  have hone : ∀ value < 10, decimal value = [UInt8.ofNat (0x30 + value)] ∧
      0x30 ≤ UInt8.ofNat (0x30 + value) ∧ UInt8.ofNat (0x30 + value) ≤ 0x39 ∧
      (UInt8.ofNat (0x30 + value)).toNat - 0x30 = value := by decide
  induction n using Nat.strongRecOn with
  | ind n ih =>
      rcases Nat.lt_or_ge n 10 with hn | hn
      · obtain ⟨hdecimal, hlow, hhigh, hvalue⟩ := hone n hn
        rw [hdecimal]
        exact hdigit n _ ⟨hn, hlow, hhigh, hvalue⟩
      · have hlast : n % 10 < 10 := Nat.mod_lt n (by omega)
        obtain ⟨hdecimal, hlow, hhigh, hvalue⟩ := hone (n % 10) hlast
        have hsplit : decimal n = decimal (n / 10) ++ decimal (n % 10) := by
          rw [decimal, Nat.toDigits_of_base_le (by omega) hn, List.map_append]
          rw [decimal, decimal, Nat.toDigits_of_lt_base hlast]
        have hsum : n / 10 * 10 + n % 10 = n := by omega
        have hwhole :=
          happend (n / 10) _ (n % 10) _ (ih (n / 10) (by omega)) ⟨hlast, hlow, hhigh, hvalue⟩
        rwa [hsum, ← hdecimal, ← hsplit] at hwhole

theorem digits_decimal (n : ℕ) : ∀ digit ∈ decimal n, 0x30 ≤ digit ∧ digit ≤ 0x39 := by
  refine decimal_induction (P := fun _ text => ∀ digit ∈ text, 0x30 ≤ digit ∧ digit ≤ 0x39) ?_ ?_ n
  · intro value digit hdigit
    simp [hdigit.low, hdigit.high]
  · intro n text value digit htext hdigit
    exact List.forall_mem_append.2 ⟨htext, by simp [hdigit.low, hdigit.high]⟩

/-- A deck game, which needs no file. -/
def deckEntry (n : ℕ) : CatalogEntry :=
  ⟨ascii "g" ++ decimal n, ascii "GAME", ascii "deck", ascii "/g" ++ decimal n, ascii "#000000"⟩

def deckManifest (count : ℕ) : List CatalogEntry := (List.range count).map deckEntry

theorem good_deckEntry (files : Bytes → File) {n : ℕ} (h : n < 64) : (deckEntry n).Good files := by
  have hid : ∀ n < 64, validId (deckEntry n).id = true := by decide +kernel
  have hprintable : ∀ n < 64,
      ((deckEntry n).rom.all fun byte => 0x20 ≤ byte ∧ byte < 0x7f) = true := by decide +kernel
  have hrom : ∀ n < 64, (deckEntry n).rom ≠ [] ∧
      trimAsciiSpace (deckEntry n).rom = (deckEntry n).rom ∧
      (deckEntry n).rom.length ≤ 4095 ∧ isAbsolutePath (deckEntry n).rom = true ∧
      (deckEntry n).line.length ≤ 4096 := by decide +kernel
  obtain ⟨hne, htrim, hlength, hpath, hline⟩ := hrom n h
  have htitle : validUtf8Text (ascii "GAME") 64 false = true :=
    validUtf8Text_of_printable false (by decide)
      (List.all_iff_forall_prop.1 (by decide)) (by decide)
  have htitleTrimmed : trimAsciiSpace (ascii "GAME") = ascii "GAME" := by decide
  have hsystem : validSystem (ascii "deck") = true := by decide
  have hcolor : parseColor (ascii "#000000") = some ⟨0, 0, 0⟩ := by decide
  have hxterm : isXtermColor ⟨0, 0, 0⟩ = true := by decide
  exact
    { game :=
        { id := hid n h
          title := htitle
          titleTrimmed := htitleTrimmed
          system := hsystem
          rom := validUtf8Text_of_printable false hne
            (List.all_iff_forall_prop.1 (hprintable n h)) hlength
          romTrimmed := htrim
          color := hxterm
          content := validateRom_deck hpath _
          cover := rfl }
      color := Option.isSome_iff_exists.2 ⟨_, hcolor⟩
      short := hline }

/-- Every manifest of up to 64 deck games is loaded. -/
theorem loadManifest_deckManifest {count : ℕ} (hpos : 0 < count) (hle : count ≤ 64) :
    loadManifest (fun _ => File.ofContent (encodeCatalog (deckManifest count)))
        (ascii "/games.tsv") =
      .ok ((deckManifest count).map CatalogEntry.game) := by
  have hsublist : (deckManifest count).Sublist (deckManifest 64) :=
    (List.range_sublist.2 hle).map deckEntry
  have hlength : (deckManifest count).length = count := by
    rw [deckManifest, List.length_map, List.length_range]
  have hgood : ∀ entry ∈ deckManifest count, entry.Good
      fun _ => File.ofContent (encodeCatalog (deckManifest count)) := by
    intro entry hmem
    obtain ⟨n, hn, rfl⟩ := List.mem_map.1 hmem
    rw [List.mem_range] at hn
    exact good_deckEntry _ (Nat.lt_of_lt_of_le hn hle)
  have hline : ∀ entry ∈ deckManifest count, entry.line.length < 64 := by
    have hall : ∀ entry ∈ deckManifest 64, entry.line.length < 64 := by decide +kernel
    exact fun entry hmem => hall entry (hsublist.subset hmem)
  have hids : ((deckManifest 64).map (·.id)).Nodup := by decide +kernel
  have hroms : ((deckManifest 64).map (·.rom)).Nodup := by decide +kernel
  refine loadManifest_encodeCatalog (by decide) (File.readable_ofContent _) rfl ?_ ?_ hgood
    (hids.sublist (hsublist.map _)) (hroms.sublist (hsublist.map _)) ?_
  · have hsize := length_encodeCatalog_le hline
    rw [hlength] at hsize
    rw [kMaximumManifestBytes]
    omega
  · intro hnil
    rw [hnil, List.length_nil] at hlength
    omega
  · rw [hlength, kMaximumCatalogGames]
    exact hle

end NesDeck
