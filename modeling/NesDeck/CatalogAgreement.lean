/-
**The catalog that the menu shows and the one that the uploader counts.**

Before it adds a game, the uploader reads the catalog of the menu with its own `parseCatalog`, looks
for collisions, and counts against the same limit of 64 games. Both readers pass over blank lines
and comments, cut off a carriage return at the end of a line and take lines of up to 4096 bytes. The
menu accepts a header before the first game, too. The uploader does not know headers and takes it
for a game.

Main definitions:

* `NesDeck.rows` — the lines of a manifest that are neither blank nor comments;
* `NesDeck.HasHeader` — the first of them is a header;
* `NesDeck.SameGame` — a game of the menu and an entry of the uploader that say the same;
* `NesDeck.ReadAlike` — the uploader reads the games that the menu reads.

Main results:

* `NesDeck.manifestLoop_rows` — the rows of a manifest that the menu accepts, as the uploader sees
  them;
* `NesDeck.parseLines_of_isRow` — what the uploader makes of such rows;
* `NesDeck.readAlike_iff` — **the uploader reads the games of an accepted manifest exactly when it
  has no header**.
-/

import NesDeck.Uploader.Catalog

set_option relaxedAutoImplicit false
set_option autoImplicit false

namespace NesDeck

open HostFile
open MenuText (splitTabs isAbsolutePath)
open Uploader (trimLine rowEntry parseLines parseCatalog maximumGames)

/-! ### Rows -/

/-- Blank lines and comments are passed over. -/
def IsSkipped (line : Bytes) : Prop := line = [] ∨ line.head? = some 0x23

instance (line : Bytes) : Decidable (IsSkipped line) := inferInstanceAs (Decidable (_ ∨ _))

/-- The other lines, without the carriage returns of their ends. -/
def rows (lines : List Bytes) : List Bytes :=
  (lines.map stripCarriageReturn).filter fun line => ¬IsSkipped line

/-- The first row is a header. -/
def HasHeader (lines : List Bytes) : Prop :=
  ∃ row ∈ (rows lines).head?, isOptionalHeader (splitTabs row) = true

instance (lines : List Bytes) : Decidable (HasHeader lines) :=
  inferInstanceAs (Decidable (∃ row ∈ _, _))

/-- A game of the menu, and an entry of the uploader with the same id, title, system, path and
colour. -/
structure SameGame (game : GameEntry) (entry : CatalogEntry) : Prop where
  id : entry.id = game.id
  title : entry.title = game.title
  system : entry.system = game.system
  rom : entry.rom = game.rom
  color : parseColor entry.color = some game.color

/-- The uploader accepts the content and reads the given games, in their order. -/
def ReadAlike (games : List GameEntry) (content : Bytes) : Prop :=
  ∀ missingOK, ∃ entries, parseCatalog (some content) false missingOK = .ok entries ∧
    List.Forall₂ SameGame games entries

/-! ### One line -/

theorem rows_cons (line : Bytes) (lines : List Bytes) :
    rows (line :: lines) =
      if IsSkipped (stripCarriageReturn line) then rows lines
      else stripCarriageReturn line :: rows lines := by
  rw [rows, List.map_cons]
  by_cases hskip : IsSkipped (stripCarriageReturn line)
  · rw [if_pos hskip, List.filter_cons_of_neg (by simpa using hskip), rows]
  · rw [if_neg hskip, List.filter_cons_of_pos (by simpa using hskip), rows]

/-- The second carriage return of a blank line or of a comment changes nothing. -/
theorem IsSkipped.stripCarriageReturn {line : Bytes} (h : IsSkipped line) :
    IsSkipped (stripCarriageReturn line) := by
  rcases h with rfl | hhead
  · exact Or.inl rfl
  · rw [NesDeck.stripCarriageReturn]
    split
    · cases line with
      | nil => cases hhead
      | cons first rest =>
          cases rest with
          | nil => exact Or.inl rfl
          | cons second rest => exact Or.inr hhead
    · exact Or.inr hhead

/-- The uploader makes an entry of five fields, the last of which does not end in a carriage
return. -/
theorem rowEntry_of_splitTabs {raw id title system rom color : Bytes}
    (hshown : ¬IsSkipped (stripCarriageReturn raw))
    (hfields : splitTabs (stripCarriageReturn raw) = [id, title, system, rom, color])
    (hcolor : color.getLast? ≠ some 0x0d) :
    rowEntry raw = some ⟨id, title, system, rom, color⟩ := by
  have hstrip : stripCarriageReturn color = color := if_neg hcolor
  have htrim : trimLine raw = stripCarriageReturn raw := by
    rw [trimLine, Uploader.eq_line_of_splitTabs hfields, Uploader.stripCarriageReturn_line]
    dsimp only
    rw [hstrip]
  rw [IsSkipped] at hshown
  rw [rowEntry, htrim, if_neg hshown, hfields]

/-- A header is an entry of the uploader. -/
theorem rowEntry_of_isOptionalHeader {raw : Bytes} (hshown : ¬IsSkipped (stripCarriageReturn raw))
    (h : isOptionalHeader (splitTabs (stripCarriageReturn raw)) = true) :
    (rowEntry raw).isSome = true := by
  rw [isOptionalHeader, decide_eq_true_eq] at h
  obtain ⟨-, hfront, hcolor⟩ := h
  obtain ⟨color, hfields, hlast⟩ : ∃ color : Bytes,
      splitTabs (stripCarriageReturn raw) =
          [ascii "id", ascii "title", ascii "system", ascii "rom", color] ∧
        color.getLast? ≠ some 0x0d := by
    rw [← List.take_append_drop 4 (splitTabs (stripCarriageReturn raw)), hfront]
    rcases hcolor with hcolor | hcolor
    · exact ⟨_, congrArg _ hcolor, by decide⟩
    · exact ⟨_, congrArg _ hcolor, by decide⟩
  rw [rowEntry_of_splitTabs hshown hfields hlast]
  rfl

/-- A game of the menu is the same game for the uploader. -/
theorem rowEntry_of_manifestEntry {files : Bytes → File} {games : List GameEntry} {lineNumber : ℕ}
    {raw : Bytes} {game : GameEntry} (hshown : ¬IsSkipped (stripCarriageReturn raw))
    (h : manifestEntry files games lineNumber (splitTabs (stripCarriageReturn raw)) = .ok game) :
    ∃ entry, rowEntry raw = some entry ∧ SameGame game entry := by
  obtain ⟨color, hfields, hcolor, -⟩ := (manifestEntry_iff ..).1 h
  have hlast : color.getLast? ≠ some 0x0d := by
    intro hlast
    have hge := ge_of_parseColor (by rw [hcolor]; rfl) _ (List.mem_of_getLast? hlast)
    exact absurd hge (by decide)
  exact ⟨_, rowEntry_of_splitTabs hshown hfields hlast, rfl, rfl, rfl, rfl, hcolor⟩

/-! ### All lines -/

/-- A line that does not stop the uploader. -/
def IsRow (raw : Bytes) : Prop :=
  raw.length ≤ 4096 ∧ (IsSkipped (trimLine raw) ∨ (rowEntry raw).isSome = true)

/-- **The uploader reads the entries of such lines**, as long as there is room for them. -/
theorem parseLines_of_isRow {lines : List Bytes} {before : List CatalogEntry}
    (h : ∀ raw ∈ lines, IsRow raw)
    (hroom : before.length + (lines.filterMap rowEntry).length ≤ maximumGames) :
    parseLines lines before = .ok (before ++ lines.filterMap rowEntry) := by
  fun_induction parseLines lines before with
  | case1 before => rw [List.filterMap_nil, List.append_nil]
  | case2 raw lines before hlong => exact absurd (h raw List.mem_cons_self).1 (Nat.not_le.2 hlong)
  | case3 raw lines before hshort line hskip ih =>
      have hrow : rowEntry raw = none := if_pos hskip
      rw [List.filterMap_cons, hrow] at hroom ⊢
      exact ih (fun other hmem => h other (List.mem_cons_of_mem _ hmem)) hroom
  | case4 raw lines before hshort line hshown id title system rom color hfields hfull =>
      have hrow : rowEntry raw = some ⟨id, title, system, rom, color⟩ := by
        rw [rowEntry, if_neg hshown, hfields]
      rw [List.filterMap_cons, hrow, List.length_cons] at hroom
      omega
  | case5 raw lines before hshort line hshown id title system rom color hfields hfree ih =>
      have hrow : rowEntry raw = some ⟨id, title, system, rom, color⟩ := by
        rw [rowEntry, if_neg hshown, hfields]
      rw [List.filterMap_cons, hrow] at hroom ⊢
      rw [ih (fun other hmem => h other (List.mem_cons_of_mem _ hmem))
        (by rw [List.length_append, List.length_singleton]; rw [List.length_cons] at hroom; omega),
        List.append_assoc, List.singleton_append]
  | case6 raw lines before hshort line hshown hfields =>
      rcases (h raw List.mem_cons_self).2 with hskip | hrow
      · exact absurd hskip hshown
      · rw [rowEntry, if_neg hshown] at hrow
        split at hrow
        · rename_i heq
          exact absurd heq (hfields _ _ _ _ _)
        · cases hrow

/-- The lines of a manifest that the menu accepts: the uploader finds the same games, after the
header if there is one. -/
structure ReadsRows (lines : List Bytes) (headed : Prop) (games : List GameEntry) : Prop where
  isRow : ∀ raw ∈ lines, IsRow raw
  same : ∃ header entries, lines.filterMap rowEntry = header ++ entries ∧
    (header = [] ↔ ¬headed) ∧ List.Forall₂ SameGame games entries

/-- **The rows of an accepted manifest**, from the middle of it on. -/
theorem manifestLoop_rows {files : Bytes → File} {lines : List Bytes} {lineNumber : ℕ}
    {sawData : Bool} {games result : List GameEntry}
    (h : manifestLoop files lines lineNumber sawData games = .ok result) :
    ∃ new, result = games ++ new ∧ ReadsRows lines (sawData = false ∧ HasHeader lines) new := by
  fun_induction manifestLoop files lines lineNumber sawData games with
  | case1 lineNumber sawData games =>
      cases h
      refine ⟨[], (List.append_nil _).symm, fun _ hmem =>
        absurd hmem List.not_mem_nil, [], [], rfl, ?_,
        .nil⟩
      simp [HasHeader, rows]
  | case2 => cases h
  | case3 raw lines lineNumber sawData games hshort line hskip ih =>
      obtain ⟨new, hresult, hrows⟩ := ih h
      have hline : IsSkipped (stripCarriageReturn raw) := hskip
      have htrim : IsSkipped (trimLine raw) := hline.stripCarriageReturn
      have hrow : rowEntry raw = none := if_pos htrim
      refine ⟨new, hresult,
        List.forall_mem_cons.2 ⟨⟨Nat.not_lt.1 hshort, Or.inl htrim⟩, hrows.isRow⟩, ?_⟩
      rw [List.filterMap_cons, hrow, HasHeader, rows_cons, if_pos hline]
      exact hrows.same
  | case4 raw lines lineNumber sawData games hshort line hshown fields hheader ih =>
      -- The menu passes over the header, and the uploader reads it.
      obtain ⟨new, hresult, hrows⟩ := ih h
      have hline : ¬IsSkipped (stripCarriageReturn raw) := hshown
      have hrow := rowEntry_of_isOptionalHeader hshown hheader.2
      obtain ⟨entry, hentry⟩ := Option.isSome_iff_exists.1 hrow
      obtain ⟨header, entries, hfilter, hnone, hsame⟩ := hrows.same
      have hnil : header = [] := hnone.2 (by simp)
      refine ⟨new, hresult,
        List.forall_mem_cons.2 ⟨⟨Nat.not_lt.1 hshort, Or.inr hrow⟩, hrows.isRow⟩,
        [entry], entries, ?_, ?_, hsame⟩
      · rw [List.filterMap_cons, hentry, hfilter, hnil]
        rfl
      · refine iff_of_false (List.cons_ne_nil _ _) (not_not.2 ⟨hheader.1, ?_⟩)
        rw [HasHeader, rows_cons, if_neg hline]
        exact ⟨_, rfl, hheader.2⟩
  | case5 => cases h
  | case6 => cases h
  | case7 raw lines lineNumber sawData games hshort line hshown fields hdata game hentry hroom ih =>
      obtain ⟨new, hresult, hrows⟩ := ih h
      have hline : ¬IsSkipped (stripCarriageReturn raw) := hshown
      obtain ⟨entry, hrow, hgame⟩ := rowEntry_of_manifestEntry hshown hentry
      obtain ⟨header, entries, hfilter, hnone, hsame⟩ := hrows.same
      have hnil : header = [] := hnone.2 (by simp)
      refine ⟨game :: new, ?_, List.forall_mem_cons.2
        ⟨⟨Nat.not_lt.1 hshort, Or.inr (by rw [hrow]; rfl)⟩, hrows.isRow⟩, [],
        entry :: entries, ?_, ?_,
        .cons hgame hsame⟩
      · rw [hresult, List.append_assoc, List.singleton_append]
      · rw [List.filterMap_cons, hrow, hfilter, hnil]
        rfl
      · refine iff_of_true rfl fun hheaded => hdata ⟨hheaded.1, ?_⟩
        obtain ⟨row, hmem, hoptional⟩ := hheaded.2
        rw [rows_cons, if_neg hline, List.head?_cons, Option.mem_some_iff] at hmem
        rw [← hmem] at hoptional
        exact hoptional

/-- **The uploader reads the games of a manifest that the menu accepts exactly when no header comes
before them.** -/
theorem readAlike_iff {files : Bytes → File} {path : Bytes} {games : List GameEntry}
    (hfile : (files path).readable) (hload : loadManifest files path = .ok games) :
    ReadAlike games (files path).content ↔ ¬HasHeader (getlines (files path).content) := by
  have hbounded := (loadManifest_isCatalog hload).1.bounded
  obtain ⟨hsmall, -, hloop⟩ := loadManifest_spec hload
  have hsize : (files path).content.length ≤ Uploader.maximumCatalogBytes := hsmall
  rw [List.take_of_length_le hfile.stream] at hloop
  obtain ⟨new, rfl, hrows⟩ := manifestLoop_rows hloop
  obtain ⟨header, entries, hfilter, hnone, hsame⟩ := hrows.same
  rw [eq_self, true_and] at hnone
  rw [← hnone]
  constructor
  · intro halike
    obtain ⟨read, hread, hforall⟩ := halike false
    rw [Uploader.parseCatalog_eq_diskEntries hread, Uploader.diskEntries, hfilter] at hforall
    have hlength := hforall.length_eq
    rw [hsame.length_eq, List.length_append] at hlength
    exact List.eq_nil_of_length_eq_zero (by omega)
  · intro hnil missingOK
    rw [hnil, List.nil_append] at hfilter
    refine ⟨entries, ?_, hsame⟩
    rw [parseCatalog, if_neg Bool.false_ne_true, if_neg (Nat.not_lt.2 hsize),
      parseLines_of_isRow hrows.isRow, List.nil_append, hfilter]
    rw [hfilter, ← hsame.length_eq, List.length_nil, Nat.zero_add]
    exact hbounded

/-! ### A manifest with a header -/

section Sample

def sampleRow : CatalogEntry :=
  ⟨ascii "ten", ascii "TEN SECONDS", ascii "deck", ascii "/mnt/data/nes-deck/games/ten.sexp",
    ascii "#D78787"⟩

def headerRow : CatalogEntry :=
  ⟨ascii "id", ascii "title", ascii "system", ascii "rom", ascii "color"⟩

/-- The manifest of some rows, at every path. -/
def manifestOf (entries : List CatalogEntry) (_ : Bytes) : File :=
  .ofContent (encodeCatalog entries)

deriving instance DecidableEq for CoverImage, GameEntry

theorem loadManifest_sampleRow {entries : List CatalogEntry}
    (h : entries = [sampleRow] ∨ entries = [headerRow, sampleRow]) :
    loadManifest (manifestOf entries) (ascii "/games.tsv") = .ok [sampleRow.game] := by
  rcases h with rfl | rfl
  · decide +kernel
  · decide +kernel

/-- The menu shows one game, and the uploader counts two. -/
theorem not_readAlike_header :
    (manifestOf [headerRow, sampleRow] (ascii "/games.tsv")).readable ∧
      loadManifest (manifestOf [headerRow, sampleRow]) (ascii "/games.tsv") = .ok [sampleRow.game] ∧
      ¬ReadAlike [sampleRow.game] (encodeCatalog [headerRow, sampleRow]) := by
  refine ⟨File.readable_ofContent _, loadManifest_sampleRow (Or.inr rfl), ?_⟩
  intro halike
  obtain ⟨entries, hread, hsame⟩ := halike false
  have hboth : parseCatalog (some (encodeCatalog [headerRow, sampleRow])) false false =
      .ok [headerRow, sampleRow] := by
    decide +kernel
  rw [hboth] at hread
  cases hread
  exact absurd hsame.length_eq (by decide)

theorem readAlike_iff_sampleRow :
    ReadAlike [sampleRow.game] (encodeCatalog [sampleRow]) ↔
      ¬HasHeader (getlines (encodeCatalog [sampleRow])) :=
  @readAlike_iff (manifestOf [sampleRow]) _ _ (File.readable_ofContent _)
    (loadManifest_sampleRow (Or.inl rfl))

end Sample

end NesDeck
