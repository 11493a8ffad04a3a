/-
**The palette of the dashboard.**

`load_dashboard_palette` of `deck_menu.cpp` reads the table of the catalog compiler: a line for
every role of the dashboard, with its colour. This is the last of five steps from the form of the
uploader to the screen, each with a list of the roles of its own, and no step changes a colour.

Main definitions:

* `NesDeck.kPaletteTokens` — the roles of the dashboard;
* `NesDeck.paletteLoop`, `NesDeck.loadDashboardPalette` — the reader.

Main results:

* `NesDeck.paletteLoop_lines` — the loop over a line for every role;
* `NesDeck.loadDashboardPalette_lines` — such a table is loaded;
* `NesDeck.palette_round_trip` — **the dashboard shows the palette that the uploader saves**.
-/

import NesDeck.AppearanceOverride

set_option relaxedAutoImplicit false
set_option autoImplicit false

namespace NesDeck

open HostFile
open MenuText (isAbsolutePath splitTabs)

/-! ### The reader -/

def kMaximumPaletteBytes : ℕ := 4096

/-- The names of the roles; the table of the source has a variable for each. -/
def kPaletteTokens : List Bytes :=
  [ascii "background", ascii "text-dark", ascii "field", ascii "surface", ascii "inactive-border",
   ascii "control-border", ascii "footer", ascii "inactive-text", ascii "text", ascii "white",
   ascii "title", ascii "volume-off", ascii "volume-on", ascii "selected", ascii "wifi-active",
   ascii "wifi-focus", ascii "wifi-active-border", ascii "field-label", ascii "accent",
   ascii "active", ascii "control-surface", ascii "muted"]

/-- The reasons for which the dashboard keeps the palette that it has. -/
inductive DashboardPaletteError where
  | notAbsolute
  | cannotStat (errno : Errno)
  | notSmallRegular
  | cannotOpen (errno : Errno)
  | fieldCount (line : ℕ)
  | invalidIcon (line : ℕ)
  | unknownRole (line : ℕ)
  | duplicateRole (line : ℕ)
  | invalidColor (line : ℕ)
  | readError
  | missingRole (name : Bytes)
  deriving DecidableEq

/-- The text of the error. -/
def DashboardPaletteError.message (strerror : Errno → Bytes) (path : Bytes) :
    DashboardPaletteError → Bytes
  | notAbsolute => ascii "palette path must be absolute"
  | cannotStat errno => errnoMessage strerror (ascii "cannot stat palette " ++ path) errno
  | notSmallRegular => ascii "palette must be a regular file no larger than 4096 bytes"
  | cannotOpen errno => errnoMessage strerror (ascii "cannot open palette " ++ path) errno
  | fieldCount line => ascii ("palette line " ++ toString line ++ " must have exactly 2 TSV fields")
  | invalidIcon line => ascii ("invalid legacy settings icon on line " ++ toString line)
  | unknownRole line => ascii ("unknown palette role on line " ++ toString line)
  | duplicateRole line => ascii ("duplicate palette role on line " ++ toString line)
  | invalidColor line =>
      ascii ("palette color on line " ++ toString line ++ " must have the form #RRGGBB")
  | readError => ascii "error while reading palette " ++ path
  | missingRole name => ascii "palette is missing role " ++ name

def validLegacySettingsIcon (name : Bytes) : Bool :=
  if name = [] ∨ 64 < name.length then false
  else name.all fun character =>
    isLower character = true ∨ isDigit character = true ∨ character = 0x2d

/-- The loop over the lines: the colours of the roles and the roles that were seen. -/
def paletteLoop : (lines : List Bytes) → (lineNumber : ℕ) → (sawLegacySettingsIcon : Bool) →
    (values : List RgbColor) → (seen : List Bool) →
      Except DashboardPaletteError (List RgbColor × List Bool)
  | [], _, _, values, seen => .ok (values, seen)
  | line :: lines, lineNumber, sawLegacySettingsIcon, values, seen =>
      let line := stripCarriageReturn line
      if line = [] ∨ line.head? = some 0x23 then
        paletteLoop lines (lineNumber + 1) sawLegacySettingsIcon values seen
      else
        match splitTabs line with
        | [name, text] =>
            if name = ascii "settings-icon" then
              if sawLegacySettingsIcon = true ∨ validLegacySettingsIcon text = false then
                .error (.invalidIcon (lineNumber + 1))
              else paletteLoop lines (lineNumber + 1) true values seen
            else
              let token := kPaletteTokens.idxOf name
              if token = kPaletteTokens.length then .error (.unknownRole (lineNumber + 1))
              else if seen.getD token false = true then .error (.duplicateRole (lineNumber + 1))
              else
                match parseColor text with
                | none => .error (.invalidColor (lineNumber + 1))
                | some color =>
                    paletteLoop lines (lineNumber + 1) sawLegacySettingsIcon
                      (values.set token color) (seen.set token true)
        | _ => .error (.fieldCount (lineNumber + 1))

/-- `load_dashboard_palette`: the colours that the variables of the roles get, in their order.  The
status of the file is that of `lstat`, so that a link is no regular file. -/
def loadDashboardPalette (files : Bytes → File) (path : Bytes) :
    Except DashboardPaletteError (List RgbColor) :=
  let palette := files path
  if isAbsolutePath path = false then .error .notAbsolute
  else
    match palette.statError with
    | some errno => .error (.cannotStat errno)
    | none =>
        if palette.isRegular = false ∨ kMaximumPaletteBytes < palette.size then
          .error .notSmallRegular
        else
          match palette.openError with
          | some errno => .error (.cannotOpen errno)
          | none =>
              match paletteLoop (getlines (palette.content.take palette.streamed)) 0 false
                  (List.replicate kPaletteTokens.length ⟨0, 0, 0⟩)
                  (List.replicate kPaletteTokens.length false) with
              | .error error => .error error
              | .ok (values, seen) =>
                  if palette.streamBad = true then .error .readError
                  else
                    match (kPaletteTokens.zip seen).find? fun token => token.2 = false with
                    | some token => .error (.missingRole token.1)
                    | none => .ok values

/-! ### A table with a line for every role -/

theorem kPaletteTokens_spec : kPaletteTokens = Uploader.paletteNames ∧ kPaletteTokens.Nodup :=
  ⟨rfl, Uploader.nodup_paletteNames⟩

open Uploader (normalizeRGB paletteLine)

/-- The colours of a palette that the loop finds. -/
structure HasColors (text : Bytes → Bytes) (color : Bytes → RgbColor) : Prop where
  canonical : ∀ role ∈ kPaletteTokens, (normalizeRGB (text role)).isSome = true
  parsed : ∀ role ∈ kPaletteTokens, parseColor (text role) = some (color role)

/-- The first of the values that are not there yet. -/
theorem set_replicate {α : Type} {front : List α} {k : ℕ} (hk : front.length = k) (new old : α)
    (n : ℕ) :
    (front ++ List.replicate (n + 1) old).set k new = front ++ [new] ++ List.replicate n old := by
  rw [List.set_append_right _ _ (Nat.le_of_eq hk), hk, Nat.sub_self, List.replicate_succ,
    List.set_cons_zero, List.append_assoc, List.singleton_append]

/-- The loop over the lines of the roles that are left. -/
theorem paletteLoop_lines {text : Bytes → Bytes} {color : Bytes → RgbColor}
    (h : HasColors text color) {done rest : List Bytes} (hsplit : done ++ rest = kPaletteTokens)
    (lineNumber : ℕ) (sawLegacySettingsIcon : Bool) :
    paletteLoop (rest.map fun role => paletteLine (role, text role)) lineNumber
        sawLegacySettingsIcon (done.map color ++ List.replicate rest.length ⟨0, 0, 0⟩)
        (List.replicate done.length true ++ List.replicate rest.length false) =
      .ok (kPaletteTokens.map color, List.replicate kPaletteTokens.length true) := by
  induction rest generalizing done lineNumber with
  | nil =>
      rw [List.append_nil] at hsplit
      subst hsplit
      simp [paletteLoop]
  | cons role rest ih =>
      have hrole : role ∈ kPaletteTokens := by
        rw [← hsplit]
        exact List.mem_append_right _ List.mem_cons_self
      obtain ⟨canonical, hcanonical⟩ := Option.isSome_iff_exists.1 (h.canonical role hrole)
      obtain ⟨-, -, hfields, hstrip⟩ := Uploader.paletteLine_spec hrole hcanonical
      obtain ⟨-, -, hicon, hcomment, hne⟩ := Uploader.paletteNames_spec role hrole
      have hnodup := kPaletteTokens_spec.2
      rw [← hsplit] at hnodup
      have hnew : role ∉ done := fun hmem =>
        List.disjoint_of_nodup_append hnodup hmem List.mem_cons_self
      have htoken : kPaletteTokens.idxOf role = done.length := by
        rw [← hsplit, List.idxOf_append_of_notMem hnew, List.idxOf_cons_self, Nat.add_zero]
      have hlength : done.length < kPaletteTokens.length := by
        rw [← hsplit, List.length_append, List.length_cons]
        omega
      have hline : ¬ (paletteLine (role, text role) = [] ∨
          (paletteLine (role, text role)).head? = some 0x23) := by
        obtain ⟨first, letters, rfl⟩ := List.exists_cons_of_ne_nil hne
        rintro (hnil | hhead)
        · cases hnil
        · exact hcomment hhead
      have hnext := @ih (done ++ [role]) (by rw [List.append_assoc]; exact hsplit) (lineNumber + 1)
      rw [List.map_cons, paletteLoop]
      dsimp only
      rw [hstrip, if_neg hline, hfields]
      dsimp only
      rw [if_neg hicon, htoken, if_neg (by omega), if_neg, h.parsed role hrole]
      · dsimp only
        rw [List.length_cons, set_replicate (List.length_map _),
          set_replicate List.length_replicate,
          ← hnext, List.map_append, List.map_singleton, List.length_append, List.length_singleton,
          List.replicate_succ']
      · -- The role was not seen.
        rw [List.getD_append_right _ _ _ _ (by rw [List.length_replicate]), List.length_replicate,
          Nat.sub_self, List.length_cons, List.replicate_succ, List.getD_cons_zero]
        decide

/-- **A table with a line for every role is loaded.** -/
theorem loadDashboardPalette_lines {files : Bytes → File} {path : Bytes} {text : Bytes → Bytes}
    {color : Bytes → RgbColor} (h : HasColors text color) (hpath : isAbsolutePath path = true)
    (hfile : (files path).readable)
    (hcontent : (files path).content =
      (kPaletteTokens.map fun role => paletteLine (role, text role)).flatMap fun line =>
        line ++ [0x0a])
    (hsize : (files path).content.length ≤ kMaximumPaletteBytes) :
    loadDashboardPalette files path = .ok (kPaletteTokens.map color) := by
  have hall : (files path).content.take (files path).streamed = (files path).content :=
    List.take_of_length_le hfile.stream
  have hlines : getlines (files path).content =
      kPaletteTokens.map fun role => paletteLine (role, text role) := by
    rw [hcontent]
    refine getlines_lines (List.forall_mem_map.2 ?_)
    intro role hrole
    obtain ⟨canonical, hcanonical⟩ := Option.isSome_iff_exists.1 (h.canonical role hrole)
    exact (Uploader.paletteLine_spec hrole hcanonical).1
  have hloop := @paletteLoop_lines text color h [] kPaletteTokens rfl 0 false
  have hseen : ((kPaletteTokens.zip (List.replicate kPaletteTokens.length true)).find? fun token =>
      token.2 = false) = none := by decide
  rw [List.map_nil, List.nil_append, List.length_nil, List.replicate_zero, List.nil_append] at hloop
  rw [loadDashboardPalette, if_neg (by simp [hpath]), hfile.stat]
  dsimp only
  rw [if_neg (by simp [hfile.regular, File.size, hsize]), hfile.opens]
  dsimp only
  rw [hall, hlines, hloop]
  dsimp only
  rw [if_neg (by simp [hfile.good]), hseen]

/-! ### From the form of the uploader to the screen -/

open CatalogCompiler (ExternalFormat readCatalog validateAppearanceOverride writePaletteTsv)
open Uploader (Palette addColors encodePaletteOverride isEntries_paletteEntries maximumPaletteBytes
  paletteEntries paletteNames parsePaletteOverride parsePaletteTSV validatePalette)

/-- The colour that the dashboard shows for a role. -/
def shownColor (values : Palette) (role : Bytes) : RgbColor :=
  (parseColor ((values.get role).getD [])).getD ⟨0, 0, 0⟩

/-- The dashboard parses the colours of a valid palette. -/
theorem hasColors_shownColor {values : Palette} (h : validatePalette values = .ok ()) :
    HasColors (fun role => (values.get role).getD []) (shownColor values) := by
  have hcanonical : ∀ role ∈ kPaletteTokens, normalizeRGB ((values.get role).getD []) =
      some ((values.get role).getD []) := fun role hrole =>
        (Uploader.get_of_validatePalette h hrole).2
  refine ⟨?_, ?_⟩
  · intro role hrole
    rw [hcanonical role hrole]
    rfl
  · intro role hrole
    obtain ⟨hshape, hwritten⟩ := CatalogCompiler.isRgbText_of_normalizeRGB (hcanonical role hrole)
    have hparse := CatalogCompiler.parseColor_of_isRgbText hshape
    rw [hwritten] at hparse
    rw [shownColor, hparse]
    rfl

/-- The entries of a palette are those of what is read back from them. -/
theorem paletteEntries_addColors {values : Palette} (h : validatePalette values = .ok ()) :
    paletteEntries (addColors (paletteEntries values) .empty) = paletteEntries values := by
  rw [paletteEntries, paletteEntries]
  refine List.map_congr_left ?_
  intro role _
  rw [← paletteEntries, Uploader.get_addColors_paletteEntries h]

/-- The table of a palette is small. -/
theorem length_table_le {values : Palette} (h : validatePalette values = .ok ()) :
    (((paletteEntries values).map paletteLine).flatMap fun line => line ++ [0x0a]).length ≤
      kMaximumPaletteBytes := by
  have hentries := isEntries_paletteEntries h
  have hlines : ∀ line ∈ (paletteEntries values).map paletteLine, line.length < 41 :=
    List.forall_mem_map.2 fun entry hentry =>
      Nat.lt_succ_of_le (Uploader.paletteLine_spec (hentries.known entry hentry)
        (hentries.colors entry hentry)).2.1
  have hlength := length_lines_le hlines
  have hnumber : ((paletteEntries values).map paletteLine).length = 22 := by
    rw [List.length_map, paletteEntries, List.length_map]
    rfl
  rw [hnumber] at hlength
  exact Nat.le_trans hlength (by decide)

/-- **The dashboard shows the palette that the uploader saves.** The override is read back by the
uploader, read and accepted by the compiler, and the table that the compiler writes for it is read
by the dashboard and by the uploader, always with the colours of the palette. -/
theorem palette_round_trip (format : ExternalFormat) {values : Palette}
    (h : validatePalette values = .ok ()) :
    (∃ parsed, parsePaletteOverride (encodePaletteOverride values) = .ok parsed ∧
      ∀ role, parsed.get role = values.get role) ∧
    ∃ form palette, readCatalog format (encodePaletteOverride values) = .ok form ∧
      validateAppearanceOverride form = .ok palette ∧
      (∀ files path, isAbsolutePath path = true → (files path).readable →
        (files path).content = writePaletteTsv palette →
          ∃ colors, loadDashboardPalette files path = .ok colors ∧
            colors.map some = kPaletteTokens.map fun role => (values.get role).bind parseColor) ∧
      (writePaletteTsv palette).length ≤ maximumPaletteBytes ∧
      ∃ table, parsePaletteTSV (writePaletteTsv palette) = .ok table ∧
        ∀ role, table.get role = values.get role := by
  have hoverride := Uploader.isOverride_encodePaletteOverride h
  have hget := Uploader.get_addColors_paletteEntries h
  obtain ⟨palette, hpalette, hwritten⟩ :=
    CatalogCompiler.validateAppearanceOverride_overrideForm hoverride
  rw [paletteEntries_addColors h] at hwritten
  have htable : writePaletteTsv palette =
      ((paletteEntries values).map paletteLine).flatMap fun line => line ++ [0x0a] := by
    rw [CatalogCompiler.writePaletteTsv_eq, hwritten]
  have hsize := length_table_le h
  rw [← htable] at hsize
  refine ⟨⟨_, Uploader.parsePaletteOverride_encodePaletteOverride h, hget⟩, _, palette,
    CatalogCompiler.readCatalog_of_isOverride format hoverride, hpalette, ?_, hsize, _, ?_, hget⟩
  · intro files path hpath hfile hcontent
    have hcolors := hasColors_shownColor h
    have hlines : (files path).content =
        (kPaletteTokens.map fun role => paletteLine (role, (values.get role).getD [])).flatMap
          fun line => line ++ [0x0a] := by
      rw [hcontent, htable, paletteEntries, List.map_map]
      rfl
    refine ⟨_, loadDashboardPalette_lines hcolors hpath hfile hlines
      (by rw [hcontent]; exact hsize),
      ?_⟩
    rw [List.map_map]
    refine List.map_congr_left ?_
    intro role hrole
    obtain ⟨hvalue, -⟩ := Uploader.get_of_validatePalette h hrole
    have hparsed := hcolors.parsed role hrole
    rw [hvalue, Option.bind_some]
    exact hparsed.symm
  · rw [htable]
    exact Uploader.parsePaletteTSV_entries (isEntries_paletteEntries h) (List.length_map _)

/-! ### A palette of two colours -/

def orangePalette : Palette :=
  addColors (paletteNames.map fun name =>
    (name, if name = ascii "background" then ascii "#000000" else ascii "#FE6C27")) .empty

def orangeFiles (contents : Bytes) : Bytes → File := fun _ => .ofContent contents

/-- A black background, and orange for everything else. -/
theorem palette_round_trip_orange :
    (∃ parsed, parsePaletteOverride (encodePaletteOverride orangePalette) = .ok parsed ∧
      ∀ role, parsed.get role = orangePalette.get role) ∧
    ∃ form palette, readCatalog .latin1 (encodePaletteOverride orangePalette) = .ok form ∧
      validateAppearanceOverride form = .ok palette ∧
      ∃ colors, loadDashboardPalette (orangeFiles (writePaletteTsv palette))
        (ascii "/palette.tsv") =
          .ok colors ∧
        colors.map some = kPaletteTokens.map fun role =>
          (orangePalette.get role).bind parseColor := by
  have hvalid : validatePalette orangePalette = .ok () := by decide +kernel
  obtain ⟨hparsed, form, palette, hform, hpalette, hload, -⟩ :=
    palette_round_trip .latin1 hvalid
  exact ⟨hparsed, form, palette, hform, hpalette,
    hload (orangeFiles (writePaletteTsv palette)) (ascii "/palette.tsv") (by decide)
      (File.readable_ofContent _) rfl⟩

end NesDeck
