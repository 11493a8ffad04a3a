/-
**The palette that the dashboard shows and the one that the uploader offers.**

The table of the palette has two readers. `load_dashboard_palette` passes over blank lines and
comments, as every other reader of a table does, and cuts one carriage return off a line.
`parsePaletteTSV` takes every line for an entry and cuts off two carriage returns: one that the
scanner removes, and one of its own. Apart from these differences both accept the same tables: a row
for every role, with a colour in digits of either case, and at most one row for an icon of the past.

Main definitions:

* `NesDeck.TableOf` — the rows of some entries, and of an icon;
* `NesDeck.IsTable` — such rows with a colour for every role;
* `NesDeck.tableRows` — the rows that a table has for a reader without these differences;
* `NesDeck.HasSkipped`, `NesDeck.EndsTwice` — the two differences;
* `NesDeck.AgreeOn` — both readers accept, with the same colours, or both refuse.

Main results:

* `NesDeck.accepted_cons_iff` — what both loops check of one row;
* `NesDeck.paletteLines_iff`, `NesDeck.paletteLoop_iff` — the two loops;
* `NesDeck.parsePaletteTSV_iff`, `NesDeck.loadDashboardPalette_iff` — the two readers;
* `NesDeck.agreeOn_iff` — **the readers agree exactly where a table has both differences or none**.
-/

import NesDeck.CatalogAgreement
import NesDeck.DashboardPalette

set_option relaxedAutoImplicit false
set_option autoImplicit false

namespace NesDeck

open HostFile
open MenuText (intercalate_splitTabs isAbsolutePath splitTabs)
open Uploader
  (IsEntries Palette PaletteError addColors isEntries_cons_iff isEntries_nil isHexadecimal
  normalizeRGB paletteLine paletteLines paletteNames parsePaletteTSV toUpper trimLine
    validPaletteName
  validatePalette)

/-! ### Colours -/

/-- The dashboard parses digits of either case. -/
theorem nibble_spec : ∀ character : UInt8,
    nibble (toUpper character) = nibble character ∧
      (nibble character).isSome = isHexadecimal character :=
  forall_byte (by decide +kernel)

theorem colorValue_spec (digits : Bytes) (value : ℕ) :
    colorValue (digits.map toUpper) value = colorValue digits value ∧
      (colorValue digits value).isSome = digits.all isHexadecimal := by
  induction digits generalizing value with
  | nil => exact ⟨rfl, rfl⟩
  | cons digit digits ih =>
      obtain ⟨hupper, hdigit⟩ := nibble_spec digit
      rw [List.map_cons, colorValue, colorValue, hupper, List.all_cons, ← hdigit]
      cases nibble digit with
      | none => exact ⟨rfl, rfl⟩
      | some next =>
          obtain ⟨hmap, hsome⟩ := ih (value <<< 4 ||| next)
          exact ⟨hmap, hsome.trans (Bool.true_and _).symm⟩

/-- **The readers accept the same colours**, and the case of the digits does not matter. -/
theorem parseColor_spec (text : Bytes) :
    ((parseColor text).isSome = true ↔ normalizeRGB text = some (text.map toUpper)) ∧
      ((parseColor text).isSome = true → parseColor (text.map toUpper) = parseColor text) := by
  obtain ⟨hmap, hsome⟩ := colorValue_spec text.tail 0
  rw [Uploader.normalizeRGB_eq_some_iff, parseColor, parseColor]
  by_cases hshape : text.length ≠ 7 ∨ text.head? ≠ some 0x23
  · rw [if_pos hshape]
    refine ⟨iff_of_false Bool.false_ne_true ?_, fun h => absurd h Bool.false_ne_true⟩
    rintro ⟨hlength, hhead, -⟩
    rcases hshape with hne | hne
    · exact hne hlength
    · exact hne hhead
  · rw [if_neg hshape]
    rw [not_or, not_not, not_not] at hshape
    obtain ⟨hlength, hhead⟩ := hshape
    have hupper : ¬((text.map toUpper).length ≠ 7 ∨ (text.map toUpper).head? ≠ some 0x23) := by
      obtain ⟨digits, rfl⟩ := List.head?_eq_some_iff.1 hhead
      rw [List.length_map, not_or, not_not, not_not]
      exact ⟨hlength, rfl⟩
    rw [if_neg hupper, List.map_tail.symm, hmap]
    refine ⟨?_, fun _ => rfl⟩
    rw [← hsome]
    cases colorValue text.tail 0 with
    | none => simp
    | some value => simp [hlength, hhead]

/-! ### Rows of a table -/

/-- The key of the icon that the dashboard once had. -/
def iconKey : Bytes := ascii "settings-icon"

/-- The rows of some entries, with at most one row for an icon between them and none if one came
before. -/
inductive TableOf : (sawIcon : Bool) → (rows : List Bytes) →
    (entries : List (Bytes × Bytes)) → Prop where
  | nil {sawIcon : Bool} : TableOf sawIcon [] []
  | icon {text : Bytes} {rows : List Bytes} {entries : List (Bytes × Bytes)} :
      validLegacySettingsIcon text = true → TableOf true rows entries →
        TableOf false (paletteLine (iconKey, text) :: rows) entries
  | entry {sawIcon : Bool} {entry : Bytes × Bytes} {rows : List Bytes}
    {entries : List (Bytes × Bytes)} :
      TableOf sawIcon rows entries → TableOf sawIcon (paletteLine entry :: rows) (entry :: entries)

/-- The rows of a table: roles that exist, each of them once, with a colour. -/
structure IsTable (rows : List Bytes) (entries : List (Bytes × Bytes)) : Prop where
  rows : TableOf false rows entries
  valid : IsEntries .empty entries
  complete : entries.length = paletteNames.length

/-- A row of two fields is the line of an entry. -/
theorem eq_paletteLine_of_splitTabs {row name text : Bytes} (h : splitTabs row = [name, text]) :
    row = paletteLine (name, text) := by
  rw [← intercalate_splitTabs row, h]
  simp [List.intercalate, paletteLine]

/-- Both readers accept the same icons. -/
theorem validLegacySettingsIcon_eq (text : Bytes) :
    Uploader.validLegacySettingsIcon text = validLegacySettingsIcon text := by
  rw [Uploader.validLegacySettingsIcon, validLegacySettingsIcon]
  simp only [List.length_eq_zero_iff]

/-- No character of the name of an icon is below a blank. -/
theorem ge_of_validLegacySettingsIcon {text : Bytes} (h : validLegacySettingsIcon text = true) :
    text ≠ [] ∧ ∀ character ∈ text, (0x20 : UInt8) ≤ character := by
  have hall : ∀ character : UInt8, isLower character = true ∨ isDigit character = true ∨
      character = 0x2d → 0x20 ≤ character :=
    forall_byte (by decide +kernel)
  rw [validLegacySettingsIcon] at h
  split at h
  · cases h
  · rename_i hshape
    rw [not_or] at hshape
    refine ⟨hshape.1, ?_⟩
    intro character hmem
    exact hall character (of_decide_eq_true (List.all_eq_true.1 h character hmem))

theorem splitTabs_iconLine {text : Bytes} (h : validLegacySettingsIcon text = true) :
    splitTabs (paletteLine (iconKey, text)) = [iconKey, text] := by
  have hkey : (0x09 : UInt8) ∉ iconKey := by decide
  have htext : (0x09 : UInt8) ∉ text := fun hmem =>
    absurd ((ge_of_validLegacySettingsIcon h).2 _ hmem) (by decide)
  rw [splitTabs, paletteLine, List.splitOn_append_cons_self_of_not_mem hkey,
    List.splitOn_eq_singleton htext]

/-- The rows that both loops accept, and the palette that they lead to. -/
def Accepts (sawIcon : Bool) (values : Palette) (rows : List Bytes) (result : Palette) : Prop :=
  ∃ entries, TableOf sawIcon rows entries ∧ IsEntries values entries ∧
    result = addColors entries values

theorem accepts_nil_iff {sawIcon : Bool} {values result : Palette} :
    Accepts sawIcon values [] result ↔ result = values := by
  constructor
  · rintro ⟨entries, htable, -, rfl⟩
    cases htable
    rfl
  · rintro rfl
    exact ⟨[], .nil, isEntries_nil _, rfl⟩

/-- What both loops check of a row for an icon. -/
theorem accepts_icon_iff {sawIcon : Bool} {values result : Palette} {row text : Bytes}
    {rows : List Bytes} (hfields : splitTabs row = [iconKey, text]) :
    Accepts sawIcon values (row :: rows) result ↔
      (sawIcon = false ∧ validLegacySettingsIcon text = true) ∧
        Accepts true values rows result := by
  constructor
  · rintro ⟨entries, htable, hentries, hresult⟩
    cases htable with
    | icon hicon htable =>
        rw [splitTabs_iconLine hicon] at hfields
        cases hfields
        exact ⟨⟨rfl, hicon⟩, entries, htable, hentries, hresult⟩
    | @entry _ entry _ rest htable =>
        obtain ⟨hname, htext, -⟩ := isEntries_cons_iff.1 hentries
        rw [(Uploader.paletteLine_spec hname htext).2.2.1] at hfields
        have hkey : entry.1 = iconKey := (List.cons.inj hfields).1
        exact absurd hkey (Uploader.paletteNames_spec _ hname).2.2.1
  · rintro ⟨⟨rfl, hicon⟩, entries, htable, hentries, hresult⟩
    rw [eq_paletteLine_of_splitTabs hfields]
    exact ⟨entries, .icon hicon htable, hentries, hresult⟩

/-- What both loops check of a row for a role. -/
theorem accepts_role_iff {sawIcon : Bool} {values result : Palette} {row name text : Bytes}
    {rows : List Bytes} (hfields : splitTabs row = [name, text]) (hkey : name ≠ iconKey) :
    Accepts sawIcon values (row :: rows) result ↔
      (name ∈ paletteNames ∧ values.get name = none ∧ normalizeRGB text = some (text.map toUpper)) ∧
        Accepts sawIcon (values.set name (text.map toUpper)) rows result := by
  constructor
  · rintro ⟨entries, htable, hentries, hresult⟩
    cases htable with
    | icon hicon htable =>
        rw [splitTabs_iconLine hicon] at hfields
        cases hfields
        exact absurd rfl hkey
    | @entry _ entry _ rest htable =>
        obtain ⟨hname, htext, hnew, hrest⟩ := isEntries_cons_iff.1 hentries
        rw [(Uploader.paletteLine_spec hname htext).2.2.1] at hfields
        cases hfields
        exact ⟨⟨hname, hnew, htext⟩, rest, htable, hrest, hresult⟩
  · rintro ⟨⟨hname, hnew, htext⟩, rest, htable, hrest, hresult⟩
    rw [eq_paletteLine_of_splitTabs hfields]
    exact ⟨(name, text) :: rest, .entry htable, isEntries_cons_iff.2 ⟨hname, htext, hnew, hrest⟩,
      hresult⟩

/-- Both loops refuse a row that does not have two fields. -/
theorem splitTabs_of_accepts {sawIcon : Bool} {values result : Palette} {row : Bytes}
    {rows : List Bytes} (h : Accepts sawIcon values (row :: rows) result) :
    ∃ name text, splitTabs row = [name, text] := by
  obtain ⟨entries, htable, hentries, -⟩ := h
  cases htable with
  | icon hicon => exact ⟨_, _, splitTabs_iconLine hicon⟩
  | entry =>
      obtain ⟨hname, htext, -⟩ := isEntries_cons_iff.1 hentries
      exact ⟨_, _, (Uploader.paletteLine_spec hname htext).2.2.1⟩

/-- Both loops refuse a second icon, and an invalid one. -/
theorem not_accepts_icon {sawIcon : Bool} {values result : Palette} {row text : Bytes}
    {rows : List Bytes} (hfields : splitTabs row = [iconKey, text])
    (hbad : sawIcon = true ∨ validLegacySettingsIcon text = false) :
    ¬Accepts sawIcon values (row :: rows) result := by
  intro h
  obtain ⟨⟨hsaw, hicon⟩, -⟩ := (accepts_icon_iff hfields).1 h
  rw [hsaw, hicon] at hbad
  rcases hbad with hbad | hbad
  · cases hbad
  · cases hbad

/-- Both loops refuse an unknown role, a role that was there before, and a text that is no
colour. -/
theorem not_accepts_role {sawIcon : Bool} {values result : Palette} {row name text : Bytes}
    {rows : List Bytes} (hfields : splitTabs row = [name, text]) (hkey : name ≠ iconKey)
    (hbad : name ∉ paletteNames ∨ (values.get name).isSome = true ∨
      normalizeRGB text ≠ some (text.map toUpper)) :
    ¬Accepts sawIcon values (row :: rows) result := by
  intro h
  obtain ⟨⟨hname, hnew, htext⟩, -⟩ := (accepts_role_iff hfields hkey).1 h
  rw [hnew] at hbad
  rcases hbad with hunknown | hagain | hcolor
  · exact hunknown hname
  · cases hagain
  · exact hcolor htext

/-! ### The loop of the uploader -/

/-- **The loop of the uploader** accepts the rows of a table, and adds their colours. -/
theorem paletteLines_iff {lines : List Bytes} (hshort : ∀ raw ∈ lines, raw.length ≤ 4096)
    {sawIcon : Bool} {values result : Palette} :
    paletteLines lines sawIcon values = .ok result ↔
      Accepts sawIcon values (lines.map trimLine) result := by
  induction lines generalizing sawIcon values with
  | nil =>
      rw [List.map_nil, accepts_nil_iff, paletteLines, Except.ok.injEq]
      exact eq_comm
  | cons raw lines ih =>
      obtain ⟨hraw, hrest⟩ := List.forall_mem_cons.1 hshort
      rw [List.map_cons, paletteLines, if_neg (Nat.not_lt.2 hraw)]
      split
      · rename_i name text hfields
        split
        · -- The icon.
          rename_i hname
          subst hname
          rw [validLegacySettingsIcon_eq]
          split
          · rename_i hbad
            exact iff_of_false (by simp) (not_accepts_icon hfields hbad)
          · rename_i hgood
            rw [not_or, Bool.not_eq_true, Bool.not_eq_false] at hgood
            rw [ih hrest, accepts_icon_iff hfields]
            exact (and_iff_right hgood).symm
        · rename_i hname
          split
          · rename_i hunknown
            rw [← Bool.not_eq_true, Uploader.validPaletteName_iff] at hunknown
            exact iff_of_false (by simp) (not_accepts_role hfields hname (Or.inl hunknown))
          · rename_i hknown
            rw [Bool.not_eq_false, Uploader.validPaletteName_iff] at hknown
            split
            · rename_i hagain
              exact iff_of_false (by simp) (not_accepts_role hfields hname (Or.inr (Or.inl hagain)))
            · rename_i hnew
              rw [Option.not_isSome_iff_eq_none] at hnew
              split
              · rename_i htext
                have hcolor : normalizeRGB text ≠ some (text.map toUpper) := by
                  rw [htext]
                  exact (Option.some_ne_none _).symm
                exact iff_of_false (by simp)
                  (not_accepts_role hfields hname (Or.inr (Or.inr hcolor)))
              · rename_i value htext
                have hupper := (Uploader.normalizeRGB_eq_some_iff.1 htext).2.2.2
                subst hupper
                rw [ih hrest, accepts_role_iff hfields hname]
                exact (and_iff_right ⟨hknown, hnew, htext⟩).symm
      · rename_i hfields
        refine iff_of_false (by simp) ?_
        intro h
        obtain ⟨name, text, htwo⟩ := splitTabs_of_accepts h
        exact hfields name text htwo

/-! ### The loop of the dashboard -/

/-- The colours of the roles. -/
def shownColors (values : Palette) : List RgbColor := kPaletteTokens.map (shownColor values)

/-- The roles that have a colour. -/
def seenRoles (values : Palette) : List Bool :=
  kPaletteTokens.map fun role => (values.get role).isSome

/-- A new value at the index of one element. -/
theorem map_set_idxOf {α β : Type} [BEq α] [LawfulBEq α] {list : List α}
    (hnodup : list.Nodup) {a : α} (ha : a ∈ list) {f g : α → β} (hother : ∀ b ≠ a, g b = f b) :
    (list.map f).set (list.idxOf a) (g a) = list.map g := by
  induction list with
  | nil => cases ha
  | cons b list ih =>
      obtain ⟨hfirst, hrest⟩ := List.nodup_cons.1 hnodup
      by_cases heq : b = a
      · subst heq
        rw [List.idxOf_cons_self, List.map_cons, List.set_cons_zero, List.map_cons]
        refine congrArg _ (List.map_congr_left fun c hc => (hother c ?_).symm)
        rintro rfl
        exact hfirst hc
      · have hmem : a ∈ list := (List.mem_cons.1 ha).resolve_left (Ne.symm heq)
        rw [List.idxOf_cons_ne _ heq, List.map_cons, List.set_cons_succ, ih hrest hmem,
          List.map_cons,
          hother b heq]

/-- The dashboard stores the colour of a role. -/
theorem shownColors_set {values : Palette} {name text : Bytes} {color : RgbColor}
    (hname : name ∈ kPaletteTokens) (hcolor : parseColor text = some color) :
    (shownColors values).set (kPaletteTokens.idxOf name) color =
      shownColors (values.set name (text.map toUpper)) := by
  have hself : shownColor (values.set name (text.map toUpper)) name = color := by
    rw [shownColor, Table.get_set_self, Option.getD_some,
      (parseColor_spec text).2 (by rw [hcolor]; rfl),
      hcolor, Option.getD_some]
  rw [← hself]
  refine map_set_idxOf kPaletteTokens_spec.2 hname ?_
  intro role hne
  rw [shownColor, shownColor, Table.get_set_of_ne _ _ hne]

theorem seenRoles_set {values : Palette} {name text : Bytes} (hname : name ∈ kPaletteTokens) :
    (seenRoles values).set (kPaletteTokens.idxOf name) true = seenRoles (values.set name text) := by
  have hself : ((values.set name text).get name).isSome = true := by
    rw [Table.get_set_self]
    rfl
  rw [← hself]
  refine map_set_idxOf kPaletteTokens_spec.2 hname
    (g := fun role => ((values.set name text).get role).isSome) ?_
  intro role hne
  rw [Table.get_set_of_ne _ _ hne]

theorem seenRoles_idxOf {values : Palette} {name : Bytes} (hname : name ∈ kPaletteTokens) :
    (seenRoles values).getD (kPaletteTokens.idxOf name) false = (values.get name).isSome := by
  rw [seenRoles, List.getD_eq_getElem?_getD, List.getElem?_map, List.getElem?_idxOf hname]
  rfl

/-- **The loop of the dashboard** accepts the rows of a table, too, and stores their colours. -/
theorem paletteLoop_iff {lines : List Bytes} {lineNumber : ℕ} {sawIcon : Bool} {values : Palette}
    {result : List RgbColor × List Bool} :
    paletteLoop lines lineNumber sawIcon (shownColors values) (seenRoles values) = .ok result ↔
      ∃ palette, Accepts sawIcon values (rows lines) palette ∧
        result = (shownColors palette, seenRoles palette) := by
  induction lines generalizing lineNumber sawIcon values with
  | nil =>
      rw [paletteLoop, Except.ok.injEq]
      simp only [rows, List.map_nil, List.filter_nil, accepts_nil_iff, exists_eq_left]
      exact eq_comm
  | cons raw lines ih =>
      rw [paletteLoop, rows_cons]
      dsimp only
      by_cases hskip : IsSkipped (stripCarriageReturn raw)
      · have hline : stripCarriageReturn raw = [] ∨ (stripCarriageReturn raw).head? = some 0x23 :=
          hskip
        rw [if_pos hline, if_pos hskip]
        exact ih
      · have hline : ¬(stripCarriageReturn raw = [] ∨
            (stripCarriageReturn raw).head? = some 0x23) :=
          hskip
        rw [if_neg hline, if_neg hskip]
        have hrejected : ∀ error : DashboardPaletteError,
            (∀ palette, ¬Accepts sawIcon values (stripCarriageReturn raw :: rows lines) palette) →
              (Except.error error = Except.ok result ↔
                ∃ palette, Accepts sawIcon values (stripCarriageReturn raw :: rows lines) palette ∧
                  result = (shownColors palette, seenRoles palette)) := by
          intro error hnone
          refine iff_of_false (fun h => by cases h) ?_
          rintro ⟨palette, haccepts, -⟩
          exact hnone palette haccepts
        split
        · rename_i name text hfields
          split
          · -- The icon.
            rename_i hname
            subst hname
            split
            · rename_i hbad
              exact hrejected _ fun _ => not_accepts_icon hfields hbad
            · rename_i hgood
              rw [not_or, Bool.not_eq_true, Bool.not_eq_false] at hgood
              simp only [accepts_icon_iff hfields, and_iff_right hgood]
              exact ih
          · rename_i hname
            split
            · rename_i hunknown
              rw [List.idxOf_eq_length_iff, kPaletteTokens_spec.1] at hunknown
              exact hrejected _ fun _ => not_accepts_role hfields hname (Or.inl hunknown)
            · rename_i hknown
              rw [List.idxOf_eq_length_iff, not_not] at hknown
              rw [seenRoles_idxOf hknown]
              split
              · rename_i hagain
                exact hrejected _ fun _ => not_accepts_role hfields hname (Or.inr (Or.inl hagain))
              · rename_i hnew
                rw [Option.not_isSome_iff_eq_none] at hnew
                split
                · rename_i hcolor
                  have htext :=
                    mt (parseColor_spec text).1.2 (by rw [hcolor]; exact Bool.false_ne_true)
                  exact hrejected _ fun _ => not_accepts_role hfields hname (Or.inr (Or.inr htext))
                · rename_i color hcolor
                  have htext := (parseColor_spec text).1.1 (by rw [hcolor]; rfl)
                  have hrole := And.intro (kPaletteTokens_spec.1 ▸ hknown) (And.intro hnew htext)
                  simp only [accepts_role_iff hfields hname, and_iff_right hrole]
                  rw [shownColors_set hknown hcolor, seenRoles_set hknown]
                  exact ih
        · rename_i hfields
          refine hrejected _ ?_
          intro palette haccepts
          obtain ⟨name, text, htwo⟩ := splitTabs_of_accepts haccepts
          exact hfields name text htwo

/-! ### The readers -/

/-- A piece is no longer than the joined pieces. -/
theorem length_le_length_intercalate {separator text : Bytes} {texts : List Bytes}
    (h : text ∈ texts) :
    text.length ≤ (separator.intercalate texts).length := by
  induction texts with
  | nil => cases h
  | cons first texts ih =>
      by_cases hlast : texts = []
      · subst hlast
        rw [List.mem_singleton.1 h, List.intercalate_singleton]
      · rw [List.intercalate_cons_of_ne_nil hlast, List.length_append, List.length_append]
        rcases List.mem_cons.1 h with rfl | hmem
        · omega
        · have hrest := ih hmem
          omega

/-- A line is no longer than the content. -/
theorem length_le_of_mem_getlines {content line : Bytes} (h : line ∈ getlines content) :
    line.length ≤ content.length := by
  have hsplit : line ∈ content.splitOn 0x0a := by
    rw [getlines] at h
    split at h
    · exact (List.dropLast_sublist _).subset h
    · exact h
  have hlength := @length_le_length_intercalate [0x0a] _ _ hsplit
  rwa [List.intercalate_splitOn] at hlength

/-- A table with a row for every role has a colour for every role. -/
theorem length_eq_iff {entries : List (Bytes × Bytes)} (h : IsEntries .empty entries) :
    entries.length = paletteNames.length ↔
      ∀ role ∈ paletteNames, ((addColors entries .empty).get role).isSome = true := by
  constructor
  · intro hlength role hrole
    rw [(Uploader.get_of_validatePalette
      ((Uploader.validatePalette_addColors_iff h).2 hlength) hrole).1]
    rfl
  · intro hall
    have hknown : entries.map Prod.fst ⊆ paletteNames := fun role hrole => by
      obtain ⟨entry, hentry, rfl⟩ := List.mem_map.1 hrole
      exact h.known entry hentry
    have hroles : paletteNames ⊆ entries.map Prod.fst := fun role hrole => by
      obtain ⟨color, hget⟩ := Option.isSome_iff_exists.1 (hall role hrole)
      rcases (Uploader.get_addColors h role color).1 hget with ⟨text, hmem, -⟩ | hempty
      · exact List.mem_map.2 ⟨_, hmem, rfl⟩
      · cases hempty
    have hle := (List.subperm_of_subset h.nodup hknown).length_le
    have hge := (List.subperm_of_subset Uploader.nodup_paletteNames hroles).length_le
    rw [List.length_map] at hle hge
    exact Nat.le_antisymm hle hge

/-- **What the uploader accepts**, of the size of a palette. -/
theorem parsePaletteTSV_iff {contents : Bytes} (hsize : contents.length ≤ 4096) {values : Palette} :
    parsePaletteTSV contents = .ok values ↔
      ∃ entries, IsTable ((getlines contents).map trimLine) entries ∧
        values = addColors entries .empty := by
  have hloop : ∀ result, paletteLines (getlines contents) false .empty = .ok result ↔
      Accepts false .empty ((getlines contents).map trimLine) result := fun result =>
    paletteLines_iff fun raw hraw => Nat.le_trans (length_le_of_mem_getlines hraw) hsize
  rw [parsePaletteTSV]
  constructor
  · intro h
    split at h
    · cases h
    · rename_i palette hpalette
      obtain ⟨entries, htable, hentries, rfl⟩ := (hloop palette).1 hpalette
      split at h
      · cases h
      · rename_i hvalid
        cases h
        exact ⟨entries,
          ⟨htable, hentries, (Uploader.validatePalette_addColors_iff hentries).1 hvalid⟩,
          rfl⟩
  · rintro ⟨entries, htable, rfl⟩
    rw [(hloop _).2 ⟨entries, htable.rows, htable.valid, rfl⟩]
    dsimp only
    rw [(Uploader.validatePalette_addColors_iff htable.valid).2 htable.complete]

/-- No role is missing if every one has a colour. -/
theorem find?_seenRoles_iff {values : Palette} :
    ((kPaletteTokens.zip (seenRoles values)).find? fun token => token.2 = false) = none ↔
      ∀ role ∈ kPaletteTokens, (values.get role).isSome = true := by
  rw [seenRoles, ← List.map_prod_left_eq_zip, List.find?_eq_none, List.forall_mem_map]
  simp only [decide_eq_true_eq, Bool.not_eq_false]

/-- **What the dashboard accepts**, of the same size. -/
theorem loadDashboardPalette_iff {files : Bytes → File} {path : Bytes}
    (hpath : isAbsolutePath path = true) (hfile : (files path).readable)
    (hsize : (files path).content.length ≤ 4096) {colors : List RgbColor} :
    loadDashboardPalette files path = .ok colors ↔
      ∃ entries, IsTable (rows (getlines (files path).content)) entries ∧
        colors = shownColors (addColors entries .empty) := by
  have hall : (files path).content.take (files path).streamed = (files path).content :=
    List.take_of_length_le hfile.stream
  have hnames := kPaletteTokens_spec.1
  rw [loadDashboardPalette, if_neg (by simp [hpath]), hfile.stat]
  dsimp only
  rw [if_neg (by simp [hfile.regular, File.size, kMaximumPaletteBytes, hsize]), hfile.opens, hall]
  dsimp only
  have hloop := @paletteLoop_iff (getlines (files path).content) 0 false .empty
  have hvalues : List.replicate kPaletteTokens.length ⟨0, 0, 0⟩ = shownColors .empty := by decide
  have hseen : List.replicate kPaletteTokens.length false = seenRoles .empty := by decide
  rw [hvalues, hseen]
  constructor
  · intro h
    split at h
    · cases h
    · rename_i values seen hresult
      obtain ⟨palette, ⟨entries, htable, hentries, rfl⟩, hpair⟩ := hloop.1 hresult
      cases hpair
      rw [if_neg (by simp [hfile.good])] at h
      split at h
      · cases h
      · rename_i hfind
        cases h
        refine ⟨entries, ⟨htable, hentries, ?_⟩, rfl⟩
        rw [length_eq_iff hentries, ← hnames]
        exact find?_seenRoles_iff.1 hfind
  · rintro ⟨entries, htable, rfl⟩
    have hcomplete := (length_eq_iff htable.valid).1 htable.complete
    rw [← hnames] at hcomplete
    rw [hloop.2 ⟨_, ⟨entries, htable.rows, htable.valid, rfl⟩, rfl⟩]
    dsimp only
    rw [if_neg (by simp [hfile.good]), find?_seenRoles_iff.2 hcomplete]

/-! ### Where they agree -/

/-- The rows without the carriage returns that only one of the readers cuts off. -/
def tableRows (lines : List Bytes) : List Bytes := (rows lines).map stripCarriageReturn

/-- A line is blank or a comment. -/
def HasSkipped (lines : List Bytes) : Prop := ∃ raw ∈ lines, IsSkipped (stripCarriageReturn raw)

/-- A row has another carriage return before the one of its end. -/
def EndsTwice (lines : List Bytes) : Prop := ∃ row ∈ rows lines, row.getLast? = some 0x0d

instance (lines : List Bytes) : Decidable (HasSkipped lines) :=
  inferInstanceAs (Decidable (∃ raw ∈ lines, IsSkipped (stripCarriageReturn raw)))

instance (lines : List Bytes) : Decidable (EndsTwice lines) :=
  inferInstanceAs (Decidable (∃ row ∈ rows lines, row.getLast? = some 0x0d))

/-- Both readers accept and have the same colour for every role, or both refuse. -/
structure AgreeOn (read : Except PaletteError Palette)
    (loaded : Except DashboardPaletteError (List RgbColor)) : Prop where
  accepted : (∃ values, read = .ok values) ↔ ∃ colors, loaded = .ok colors
  colors : ∀ values colors, read = .ok values → loaded = .ok colors →
    colors.map some = kPaletteTokens.map fun role => (values.get role).bind parseColor

/-- A row for a key, with a text that has no control characters. -/
theorem paletteLine_shown {key text : Bytes} (hkey : key ≠ []) (hcomment : key.head? ≠ some 0x23)
    (htext : ∀ character ∈ text, (0x20 : UInt8) ≤ character) :
    ¬IsSkipped (paletteLine (key, text)) ∧ (paletteLine (key, text)).getLast? ≠ some 0x0d := by
  constructor
  · obtain ⟨first, letters, rfl⟩ := List.exists_cons_of_ne_nil hkey
    rintro (hnil | hhead)
    · cases hnil
    · exact hcomment hhead
  · intro hlast
    rw [paletteLine, List.getLast?_append_of_ne_nil _ (List.cons_ne_nil _ _)] at hlast
    rcases List.mem_cons.1 (List.mem_of_getLast? hlast) with heq | hmem
    · exact absurd heq (by decide)
    · exact absurd (htext _ hmem) (by decide)

/-- The rows of a table are neither blank nor comments, and end in no carriage return. -/
theorem IsTable.row_spec {rows : List Bytes} {entries : List (Bytes × Bytes)}
    (h : IsTable rows entries) :
    ∀ row ∈ rows, ¬IsSkipped row ∧ row.getLast? ≠ some 0x0d := by
  obtain ⟨htable, hentries, -⟩ := h
  have hknown := hentries.known
  have hcolors := hentries.colors
  clear hentries
  generalize false = sawIcon at htable
  induction htable with
  | nil => exact fun _ hmem => absurd hmem List.not_mem_nil
  | icon hicon _ ih =>
      exact List.forall_mem_cons.2 ⟨paletteLine_shown (by decide) (by decide)
        (ge_of_validLegacySettingsIcon hicon).2, ih hknown hcolors⟩
  | entry _ ih =>
      obtain ⟨hname, hknown⟩ := List.forall_mem_cons.1 hknown
      obtain ⟨htext, hcolors⟩ := List.forall_mem_cons.1 hcolors
      obtain ⟨-, -, -, hcomment, hne⟩ := Uploader.paletteNames_spec _ hname
      exact List.forall_mem_cons.2
        ⟨paletteLine_shown hne hcomment (Uploader.ge_of_normalizeRGB htext),
        ih hknown hcolors⟩

theorem map_stripCarriageReturn {rows : List Bytes} (h : ∀ row ∈ rows, row.getLast? ≠ some 0x0d) :
    rows.map stripCarriageReturn = rows := by
  conv_rhs => rw [← List.map_id rows]
  exact List.map_congr_left fun row hrow => if_neg (h row hrow)

/-- Without blank lines and comments the uploader sees the rows. -/
theorem map_trimLine_eq {lines : List Bytes} (h : ¬HasSkipped lines) :
    lines.map trimLine = tableRows lines := by
  have hrows : rows lines = lines.map stripCarriageReturn := by
    refine List.filter_eq_self.2 (List.forall_mem_map.2 ?_)
    intro raw hraw
    exact decide_eq_true fun hskip => h ⟨raw, hraw, hskip⟩
  rw [tableRows, hrows, List.map_map]
  rfl

/-- **The uploader** refuses a table with a blank line or a comment. -/
theorem isTable_trimLine_iff {lines : List Bytes} {entries : List (Bytes × Bytes)} :
    IsTable (lines.map trimLine) entries ↔ ¬HasSkipped lines ∧
      IsTable (tableRows lines) entries := by
  constructor
  · intro h
    have hshown : ¬HasSkipped lines := by
      rintro ⟨raw, hraw, hskip⟩
      exact (h.row_spec _ (List.mem_map_of_mem hraw)).1 hskip.stripCarriageReturn
    exact ⟨hshown, map_trimLine_eq hshown ▸ h⟩
  · rintro ⟨hshown, h⟩
    rwa [map_trimLine_eq hshown]

/-- **The dashboard** refuses a table with a second carriage return at the end of a row. -/
theorem isTable_rows_iff {lines : List Bytes} {entries : List (Bytes × Bytes)} :
    IsTable (rows lines) entries ↔ ¬EndsTwice lines ∧ IsTable (tableRows lines) entries := by
  constructor
  · intro h
    have honce : ∀ row ∈ rows lines, row.getLast? ≠ some 0x0d :=
      fun row hrow => (h.row_spec row hrow).2
    refine ⟨fun ⟨row, hrow, hlast⟩ => honce row hrow hlast, ?_⟩
    rwa [tableRows, map_stripCarriageReturn honce]
  · rintro ⟨honce, h⟩
    rwa [tableRows, map_stripCarriageReturn fun row hrow hlast => honce ⟨row, hrow, hlast⟩] at h

/-- The colours of a table are the ones that the uploader reads. -/
theorem shownColors_addColors {rows : List Bytes} {entries : List (Bytes × Bytes)}
    (h : IsTable rows entries) :
    (shownColors (addColors entries .empty)).map some =
      kPaletteTokens.map fun role => ((addColors entries .empty).get role).bind parseColor := by
  have hvalid := (Uploader.validatePalette_addColors_iff h.valid).2 h.complete
  rw [shownColors, List.map_map]
  refine List.map_congr_left ?_
  intro role hrole
  rw [(Uploader.get_of_validatePalette hvalid hrole).1, Option.bind_some]
  exact ((hasColors_shownColor hvalid).parsed role hrole).symm

/-- **The readers agree on a palette exactly when its rows are no table for any of them, or it has
blank lines and comments just as it has rows with two carriage returns at the end.** -/
theorem agreeOn_iff {files : Bytes → File} {path : Bytes} (hpath : isAbsolutePath path = true)
    (hfile : (files path).readable) (hsize : (files path).content.length ≤ 4096) :
    AgreeOn (parsePaletteTSV (files path).content) (loadDashboardPalette files path) ↔
      ((∃ entries, IsTable (tableRows (getlines (files path).content)) entries) →
        (HasSkipped (getlines (files path).content) ↔
          EndsTwice (getlines (files path).content))) := by
  have hread := @parsePaletteTSV_iff _ hsize
  have hload := @loadDashboardPalette_iff _ _ hpath hfile hsize
  simp only [isTable_trimLine_iff] at hread
  simp only [isTable_rows_iff] at hload
  constructor
  · rintro ⟨haccepted, -⟩ ⟨entries, htable⟩
    rw [← not_iff_not]
    constructor
    · intro hshown
      obtain ⟨colors, hcolors⟩ := haccepted.1 ⟨_, hread.2 ⟨entries, ⟨hshown, htable⟩, rfl⟩⟩
      obtain ⟨-, ⟨honce, -⟩, -⟩ := hload.1 hcolors
      exact honce
    · intro honce
      obtain ⟨values, hvalues⟩ := haccepted.2 ⟨_, hload.2 ⟨entries, ⟨honce, htable⟩, rfl⟩⟩
      obtain ⟨-, ⟨hshown, -⟩, -⟩ := hread.1 hvalues
      exact hshown
  · intro hboth
    refine ⟨⟨?_, ?_⟩, ?_⟩
    · rintro ⟨values, hvalues⟩
      obtain ⟨entries, ⟨hshown, htable⟩, -⟩ := hread.1 hvalues
      exact ⟨_, hload.2 ⟨entries, ⟨mt (hboth ⟨entries, htable⟩).2 hshown, htable⟩, rfl⟩⟩
    · rintro ⟨colors, hcolors⟩
      obtain ⟨entries, ⟨honce, htable⟩, -⟩ := hload.1 hcolors
      exact ⟨_, hread.2 ⟨entries, ⟨mt (hboth ⟨entries, htable⟩).1 honce, htable⟩, rfl⟩⟩
    · intro values colors hvalues hcolors
      obtain ⟨entries, ⟨hshown, htable⟩, rfl⟩ := hread.1 hvalues
      have honce := mt (hboth ⟨entries, htable⟩).2 hshown
      have hshownColors := hload.2 ⟨entries, ⟨honce, htable⟩, rfl⟩
      rw [hcolors] at hshownColors
      rw [Except.ok.inj hshownColors]
      exact shownColors_addColors htable

/-! ### A palette with a comment -/

section Sample

/-- A line for every role, all of them of one colour. -/
def orangeLines : List Bytes := kPaletteTokens.map fun role => paletteLine (role, ascii "#fe6c27")

/-- The content of some lines. -/
def contentOf (lines : List Bytes) : Bytes := lines.flatMap fun line => line ++ [0x0a]

/-- The dashboard shows a palette with a comment, and the uploader refuses it. -/
theorem not_agreeOn_comment :
    (contentOf (ascii "# orange" :: orangeLines)).length ≤ 4096 ∧
      ¬AgreeOn (parsePaletteTSV (contentOf (ascii "# orange" :: orangeLines)))
        (loadDashboardPalette (orangeFiles (contentOf (ascii "# orange" :: orangeLines)))
          (ascii "/palette.tsv")) := by
  have hload : ∃ colors, loadDashboardPalette
      (orangeFiles (contentOf (ascii "# orange" :: orangeLines))) (ascii "/palette.tsv") =
        .ok colors :=
    ⟨List.replicate 22 ⟨0xfe, 0x6c, 0x27⟩, by decide +kernel⟩
  have hsize : (contentOf (ascii "# orange" :: orangeLines)).length ≤ 4096 := by decide +kernel
  have hcomment : HasSkipped (getlines (contentOf (ascii "# orange" :: orangeLines))) := by
    decide +kernel
  refine ⟨hsize, ?_⟩
  intro h
  obtain ⟨values, hvalues⟩ := h.accepted.2 hload
  obtain ⟨entries, htable, -⟩ := (parsePaletteTSV_iff hsize).1 hvalues
  exact (isTable_trimLine_iff.1 htable).1 hcomment

theorem agreeOn_iff_orange :
    AgreeOn (parsePaletteTSV (contentOf orangeLines))
        (loadDashboardPalette (orangeFiles (contentOf orangeLines)) (ascii "/palette.tsv")) ↔
      ((∃ entries, IsTable (tableRows (getlines (contentOf orangeLines))) entries) →
        (HasSkipped (getlines (contentOf orangeLines)) ↔
          EndsTwice (getlines (contentOf orangeLines)))) := by
  have hcontent : (orangeFiles (contentOf orangeLines) (ascii "/palette.tsv")).content =
      contentOf orangeLines := by rw [orangeFiles, File.ofContent]
  have hagree :=
    @agreeOn_iff (orangeFiles (contentOf orangeLines)) (ascii "/palette.tsv") (by decide)
    (File.readable_ofContent _) (by rw [hcontent]; decide +kernel)
  rwa [hcontent] at hagree

end Sample

end NesDeck
