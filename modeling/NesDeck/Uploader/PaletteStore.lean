/-
**The colours of the dashboard, as the upload service shows and saves them.**

The form of the service has one field for every colour. It shows the colours of the checked-in
appearance, or of the generated one where that cannot be read, unless an override can be read; and
it saves an override.

Main definitions:

* `NesDeck.Uploader.PaletteStore` — the paths;
* `NesDeck.Uploader.PaletteStore.current`, `NesDeck.Uploader.PaletteStore.save` — what is shown, and
  what is saved;
* `NesDeck.Uploader.formPalette` — the colours of a form.

Main results:

* `NesDeck.Uploader.formPalette_eq_ok_iff` — the forms that are taken, whatever the order in which
  their fields are visited;
* `NesDeck.Uploader.PaletteStore.current_of_save` — **the colours that were saved are the ones that
  are shown**.
-/

import NesDeck.Uploader.Palette
import NesDeck.Uploader.Store

set_option relaxedAutoImplicit false
set_option autoImplicit false

namespace NesDeck.Uploader

open HostFile (Bytes ascii)

/-- `dashboardPaletteSpecs`: the roles with their labels. -/
def dashboardPaletteSpecs : List (Bytes × Bytes) :=
  [(ascii "background", ascii "Background"), (ascii "text-dark", ascii "Dark text"),
    (ascii "field", ascii "Field"), (ascii "surface", ascii "Surface"),
    (ascii "inactive-border", ascii "Inactive border"),
    (ascii "control-border", ascii "Control border"), (ascii "footer", ascii "Footer"),
    (ascii "inactive-text", ascii "Inactive text"), (ascii "text", ascii "Text"),
    (ascii "white", ascii "Bright white"), (ascii "title", ascii "Title"),
    (ascii "volume-off", ascii "Volume off"), (ascii "volume-on", ascii "Volume on"),
    (ascii "selected", ascii "Selected item"), (ascii "wifi-active", ascii "Wi-Fi active"),
    (ascii "wifi-focus", ascii "Wi-Fi focus"),
    (ascii "wifi-active-border", ascii "Wi-Fi active border"),
    (ascii "field-label", ascii "Field label"), (ascii "accent", ascii "Accent"),
    (ascii "active", ascii "Active control"), (ascii "control-surface", ascii "Control surface"),
    (ascii "muted", ascii "Muted control")]

/-- `paletteField`. -/
structure PaletteField where
  name : Bytes
  label : Bytes
  value : Bytes
  deriving DecidableEq

/-- `paletteFields`; a role without a colour has an empty one. -/
def paletteFields (values : Palette) : List PaletteField :=
  dashboardPaletteSpecs.map fun spec => ⟨spec.1, spec.2, (values.get spec.1).getD []⟩

/-- `readBoundedRegular`: the content of the file, unless a call on it fails. -/
def readBoundedRegular (files : Files) (path : Bytes) (fails : Bool) (maximum : ℕ) : Option Bytes :=
  if fails = true then none
  else (files path).filter fun contents => contents.length ≤ maximum

/-- The paths of a palette store. -/
structure PaletteStore where
  activePath : Bytes
  fallbackPath : Bytes
  overridePath : Bytes

/-- The palette store of the service. -/
def installedPaletteStore : PaletteStore where
  activePath := ascii "/mnt/data/nes-deck/state/palette.tsv"
  fallbackPath := ascii "/mnt/data/nes-deck/menu/palette.tsv"
  overridePath := ascii "/mnt/data/nes-deck/state/dashboard-palette.sexp"

/-- The reads of a palette store that fail. -/
structure PaletteReads where
  fallback : Bool
  active : Bool
  override : Bool

/-- The calls of a save that fail. -/
structure PaletteFaults where
  mkdir : Bool
  lstat : Bool
  write : WriteFaults
  restart : Bool

inductive PaletteSaveError where
  | invalid (error : PaletteError)
  | write (error : WriteError)
  | restart

/-- The text of the error; that of a failing call is the one of the system. -/
def PaletteSaveError.message (osText : Bytes) : PaletteSaveError → Bytes
  | invalid error => error.message
  | write error => ascii "save dashboard appearance: " ++ error.message osText
  | restart => ascii "appearance was saved, but the dashboard could not reload: " ++ osText

namespace PaletteStore

variable (store : PaletteStore)

/-- An appearance that can be read. -/
def appearance (files : Files) (path : Bytes) (fails : Bool) : Option Palette :=
  (readBoundedRegular files path fails maximumPaletteBytes).bind fun contents =>
    (parsePaletteTSV contents).toOption

/-- `current`: the first appearance that can be read, with the colours of the override if that can
be read, too. -/
def current (files : Files) (reads : PaletteReads) : Option (List PaletteField) :=
  match (appearance files store.fallbackPath reads.fallback).orElse fun _ =>
      appearance files store.activePath reads.active with
  | none => none
  | some palette =>
      match readBoundedRegular files store.overridePath reads.override maximumPaletteBytes with
      | none => some (paletteFields palette)
      | some contents =>
          match parsePaletteOverride contents with
          | .error _ => some (paletteFields palette)
          | .ok override => some (paletteFields override)

/-- `save`. -/
def save (files : Files) (values : Palette) (faults : PaletteFaults) :
    Files × Option PaletteSaveError :=
  match validatePalette values with
  | .error error => (files, some (.invalid error))
  | .ok () =>
      match atomicWrite files store.overridePath (encodePaletteOverride values) faults.mkdir
          faults.lstat faults.write with
      | (files, some error) => (files, some (.write error))
      | (files, none) => (files, if faults.restart = true then some .restart else none)

end PaletteStore

/-! ### The form -/

inductive PaletteFormError where
  | rejected
  | unknownOrRepeated
  | notFullColor
  deriving DecidableEq

/-- The text of the error; a form that is rejected gets no page. -/
def PaletteFormError.message : PaletteFormError → Bytes
  | rejected => ascii "Request rejected"
  | unknownOrRepeated => ascii "The appearance form contains an unknown or repeated field."
  | notFullColor => ascii "Every color must be a full RGB value like #12ABEF."

/-- The loop of `handlePalette` over the fields of the form, which are visited in any order. -/
def formLoop : (fields : List (Bytes × List Bytes)) → (values : Palette) →
    Except PaletteFormError Palette
  | [], values => .ok values
  | (key, texts) :: fields, values =>
      if key = ascii "csrf" then
        if texts.length ≠ 1 then .error .rejected else formLoop fields values
      else
        match texts with
        | [text] =>
            if validPaletteName key = false then .error .unknownOrRepeated
            else
              match normalizeRGB text with
              | none => .error .notFullColor
              | some value => formLoop fields (values.set key value)
        | _ => .error .unknownOrRepeated

/-- The colours of a form. -/
def formPalette (fields : List (Bytes × List Bytes)) : Except PaletteFormError Palette :=
  formLoop fields Table.empty

/-! ### What a form says -/

/-- The fields of a form, without the one of the token. -/
def colorFields (fields : List (Bytes × List Bytes)) : List (Bytes × List Bytes) :=
  fields.filter fun field => field.1 ≠ ascii "csrf"

/-- The fields of some colours. -/
def fieldsOf (colors : List (Bytes × Bytes)) : List (Bytes × List Bytes) :=
  colors.map fun color => (color.1, [color.2])

/-- A form that is taken: one token at most, and one colour for every other field. -/
structure IsForm (fields : List (Bytes × List Bytes)) (colors : List (Bytes × Bytes)) : Prop where
  token : ∀ texts, (ascii "csrf", texts) ∈ fields → texts.length = 1
  fields_eq : colorFields fields = fieldsOf colors
  known : ∀ color ∈ colors, color.1 ∈ paletteNames
  canonical : ∀ color ∈ colors, normalizeRGB color.2 = some (color.2.map toUpper)

theorem isForm_nil : IsForm [] [] where
  token := fun _ h => absurd h List.not_mem_nil
  fields_eq := rfl
  known := List.forall_mem_nil _
  canonical := List.forall_mem_nil _

theorem isForm_token {texts : List Bytes} {fields : List (Bytes × List Bytes)}
    {colors : List (Bytes × Bytes)} :
    IsForm ((ascii "csrf", texts) :: fields) colors ↔ texts.length = 1 ∧ IsForm fields colors := by
  have hfields : colorFields ((ascii "csrf", texts) :: fields) = colorFields fields :=
    List.filter_cons_of_neg (by simp)
  constructor
  · intro h
    exact ⟨h.token texts List.mem_cons_self,
      ⟨fun other hother => h.token other (List.mem_cons_of_mem _ hother), hfields ▸ h.fields_eq,
        h.known, h.canonical⟩⟩
  · rintro ⟨hone, h⟩
    refine ⟨?_, hfields.trans h.fields_eq, h.known, h.canonical⟩
    intro other hother
    rcases List.mem_cons.1 hother with heq | hother
    · rw [(Prod.mk.inj heq).2]
      exact hone
    · exact h.token other hother

theorem isForm_color {key : Bytes} (hkey : key ≠ ascii "csrf") {texts : List Bytes}
    {fields : List (Bytes × List Bytes)} {colors : List (Bytes × Bytes)} :
    IsForm ((key, texts) :: fields) colors ↔
      ∃ text rest, colors = (key, text) :: rest ∧ texts = [text] ∧ key ∈ paletteNames ∧
        normalizeRGB text = some (text.map toUpper) ∧ IsForm fields rest := by
  have hfields : colorFields ((key, texts) :: fields) = (key, texts) :: colorFields fields :=
    List.filter_cons_of_pos (by simpa using hkey)
  constructor
  · rintro ⟨htoken, heq, hknown, hcanonical⟩
    rw [hfields] at heq
    cases colors with
    | nil => cases heq
    | cons color rest =>
        obtain ⟨hfirst, hrest⟩ := List.cons.inj heq
        obtain ⟨rfl, rfl⟩ := Prod.mk.inj hfirst
        rw [List.forall_mem_cons] at hknown hcanonical
        exact ⟨color.2, rest, rfl, rfl, hknown.1, hcanonical.1,
          fun other hother => htoken other (List.mem_cons_of_mem _ hother), hrest, hknown.2,
          hcanonical.2⟩
  · rintro ⟨text, rest, rfl, rfl, hknown, hcanonical, h⟩
    refine ⟨?_, ?_, List.forall_mem_cons.2 ⟨hknown, h.known⟩,
      List.forall_mem_cons.2 ⟨hcanonical, h.canonical⟩⟩
    · intro other hother
      rcases List.mem_cons.1 hother with heq | hother
      · exact absurd (Prod.mk.inj heq).1.symm hkey
      · exact h.token other hother
    · rw [hfields, h.fields_eq]
      rfl

theorem formLoop_eq_ok_iff {fields : List (Bytes × List Bytes)} {values result : Palette} :
    formLoop fields values = .ok result ↔
      ∃ colors, IsForm fields colors ∧ result = addColors colors values := by
  induction fields generalizing values with
  | nil =>
      constructor
      · intro h
        cases h
        exact ⟨[], isForm_nil, rfl⟩
      · rintro ⟨colors, h, rfl⟩
        obtain rfl : colors = [] := List.map_eq_nil_iff.1 h.fields_eq.symm
        rfl
  | cons field fields ih =>
      obtain ⟨key, texts⟩ := field
      unfold formLoop
      by_cases hkey : key = ascii "csrf"
      · subst hkey
        rw [if_pos rfl]
        simp only [isForm_token]
        by_cases hone : texts.length = 1
        · rw [if_neg (not_not.2 hone), ih]
          simp [hone]
        · rw [if_pos hone]
          simp [hone]
      · rw [if_neg hkey]
        simp only [isForm_color hkey]
        split
        · next text =>
            by_cases hname : validPaletteName key = false
            · rw [if_pos hname]
              simp [← validPaletteName_iff, hname]
            · rw [if_neg hname]
              rw [Bool.not_eq_false, validPaletteName_iff] at hname
              split
              · next hcolor => simp [hcolor]
              · next color hcolor =>
                  obtain rfl : color = text.map toUpper := (normalizeRGB_eq_some_iff.1 hcolor).2.2.2
                  rw [ih]
                  constructor
                  · rintro ⟨colors, h, rfl⟩
                    exact ⟨_, ⟨text, colors, rfl, rfl, hname, hcolor, h⟩, rfl⟩
                  · rintro ⟨_, ⟨other, colors, rfl, hother, -, -, h⟩, rfl⟩
                    obtain rfl := (List.cons.inj hother).1
                    exact ⟨colors, h, rfl⟩
        · next hmany =>
            constructor
            · intro h
              cases h
            · rintro ⟨_, ⟨text, colors, rfl, rfl, -⟩, -⟩
              exact absurd rfl (hmany text)

/-- **The forms that are taken**, whatever the order in which their fields are visited: one token at
most, and one colour for every other field, which is a role. -/
theorem formPalette_eq_ok_iff {fields : List (Bytes × List Bytes)}
    (hnodup : (fields.map Prod.fst).Nodup) {values : Palette} :
    formPalette fields = .ok values ↔
      ∃ colors, IsForm fields colors ∧ IsEntries .empty colors ∧
        values = addColors colors .empty := by
  rw [formPalette, formLoop_eq_ok_iff]
  refine exists_congr ?_
  intro colors
  constructor
  · rintro ⟨h, rfl⟩
    refine ⟨h, ⟨h.known, h.canonical, fun _ _ => rfl, ?_⟩, rfl⟩
    have hfields : colors.map Prod.fst = (colorFields fields).map Prod.fst := by
      rw [h.fields_eq, fieldsOf, List.map_map]
      rfl
    rw [hfields]
    exact hnodup.sublist (List.filter_sublist.map Prod.fst)
  · rintro ⟨h, -, rfl⟩
    exact ⟨h, rfl⟩

/-- A role has the colour of its field. -/
theorem get_formPalette {fields : List (Bytes × List Bytes)} (hnodup : (fields.map Prod.fst).Nodup)
    {values : Palette} (h : formPalette fields = .ok values) {name value : Bytes}
    (hget : values.get name = some value) :
    ∃ text, (name, [text]) ∈ fields ∧ normalizeRGB text = some value := by
  obtain ⟨colors, hform, hentries, rfl⟩ := (formPalette_eq_ok_iff hnodup).1 h
  rcases (get_addColors hentries name value).1 hget with ⟨text, hmem, rfl⟩ | hempty
  · refine ⟨text, ?_, hform.canonical _ hmem⟩
    have hfield : (name, [text]) ∈ colorFields fields := by
      rw [hform.fields_eq]
      exact List.mem_map_of_mem (f := fun color : Bytes × Bytes => (color.1, [color.2])) hmem
    exact (List.mem_filter.1 hfield).1
  · cases hempty

/-! ### What is shown after a save -/

theorem names_dashboardPaletteSpecs : dashboardPaletteSpecs.map Prod.fst = paletteNames := rfl

theorem paletteFields_congr {values values' : Palette}
    (h : ∀ name, values.get name = values'.get name) :
    paletteFields values = paletteFields values' := by
  rw [paletteFields, paletteFields]
  exact List.map_congr_left fun spec _ => by rw [h spec.1]

namespace PaletteStore

variable (store : PaletteStore)

/-- A save that is not refused writes the override, or changes nothing and says so. -/
theorem save_eq_none {files files' : Files} {values : Palette} {faults : PaletteFaults}
    (h : store.save files values faults = (files', none)) :
    validatePalette values = .ok () ∧
      files' = FileStore.write files store.overridePath (encodePaletteOverride values) := by
  rw [save] at h
  split at h
  · cases h
  next hvalid =>
  split at h
  · cases h
  next files'' hwrite =>
  obtain ⟨rfl, -⟩ := Prod.mk.inj h
  exact ⟨hvalid, atomicWrite_ok hwrite⟩

/-- An override that is there is shown, over any appearance that can be read. -/
theorem current_override {files : Files} {values : Palette} (h : validatePalette values = .ok ())
    (hoverride : files store.overridePath = some (encodePaletteOverride values))
    {reads : PaletteReads} (hreads : reads.override = false) {shown : List PaletteField}
    (hshown : store.current files reads = some shown) : shown = paletteFields values := by
  have hread : readBoundedRegular files store.overridePath reads.override maximumPaletteBytes =
      some (encodePaletteOverride values) := by
    rw [readBoundedRegular, hreads, if_neg Bool.false_ne_true, hoverride, Option.filter_some,
      if_pos (decide_eq_true (isOverride_encodePaletteOverride h).size)]
  rw [current] at hshown
  split at hshown
  · cases hshown
  rw [hread] at hshown
  dsimp only at hshown
  rw [parsePaletteOverride_encodePaletteOverride h] at hshown
  rw [← Option.some.inj hshown]
  exact paletteFields_congr (get_addColors_paletteEntries h)

/-- **The colours that were saved are the ones that are shown**: after a form was taken and saved,
the page has every role once, with the colour of its field. -/
theorem current_of_save {fields : List (Bytes × List Bytes)} (hnodup : (fields.map Prod.fst).Nodup)
    {values : Palette} (hform : formPalette fields = .ok values) {files files' : Files}
    {faults : PaletteFaults} (hsave : store.save files values faults = (files', none))
    {reads : PaletteReads} (hreads : reads.override = false) {shown : List PaletteField}
    (hshown : store.current files' reads = some shown) :
    shown.map PaletteField.name = paletteNames ∧
      ∀ field ∈ shown, ∃ text, (field.name, [text]) ∈ fields ∧
        normalizeRGB text = some field.value := by
  obtain ⟨hvalid, rfl⟩ := store.save_eq_none hsave
  obtain rfl := store.current_override hvalid (FileStore.write_same _ _ _) hreads hshown
  refine ⟨?_, ?_⟩
  · rw [paletteFields, List.map_map, ← names_dashboardPaletteSpecs]
    rfl
  · intro field hfield
    obtain ⟨spec, hspec, rfl⟩ := List.mem_map.1 hfield
    have hname : spec.1 ∈ paletteNames := by
      rw [← names_dashboardPaletteSpecs]
      exact List.mem_map_of_mem hspec
    obtain ⟨value, hvalue, -⟩ := (validatePalette_iff.1 hvalid).2 spec.1 hname
    obtain ⟨text, htext, hcolor⟩ := get_formPalette hnodup hform hvalue
    refine ⟨text, htext, ?_⟩
    dsimp only
    rw [hvalue]
    exact hcolor

/-- A form with one colour for every role. -/
def plainForm : List (Bytes × List Bytes) :=
  (ascii "csrf", [ascii "token"]) :: paletteNames.map fun name => (name, [ascii "#ff8700"])

/-- The checked-in appearance, with another colour for every role. -/
def plainFiles : Files := fun path =>
  if path = installedPaletteStore.fallbackPath then
    some (paletteNames.flatMap fun name => name ++ 0x09 :: ascii "#5F0000" ++ [0x0a])
  else none

/-- No call of a save fails. -/
def savedFaults : PaletteFaults :=
  ⟨false, false, ⟨[ascii "1"], false, false, none, false, false, false, false, false⟩, false⟩

/-- The colours of the form are saved, and they can be shown. -/
theorem save_plainForm :
    (formPalette plainForm).toOption.any (fun values =>
      (installedPaletteStore.save plainFiles values savedFaults).2.isNone &&
        (installedPaletteStore.current (installedPaletteStore.save plainFiles values savedFaults).1
          ⟨false, false, false⟩).isSome) = true := by
  decide +kernel

theorem current_of_save_plain :
    ∃ values shown, formPalette plainForm = .ok values ∧
      installedPaletteStore.current (installedPaletteStore.save plainFiles values savedFaults).1
          ⟨false, false, false⟩ = some shown ∧
        shown.map PaletteField.name = paletteNames ∧
          ∀ field ∈ shown, ∃ text, (field.name, [text]) ∈ plainForm ∧
            normalizeRGB text = some field.value := by
  have hnodup : (plainForm.map Prod.fst).Nodup := by decide +kernel
  obtain ⟨values, hvalues, hsaved⟩ := (Option.any_eq_true _ _).1 save_plainForm
  obtain ⟨hsave, hcurrent⟩ := Bool.and_eq_true_iff.1 hsaved
  obtain ⟨shown, hshown⟩ := Option.isSome_iff_exists.1 hcurrent
  have hform : formPalette plainForm = .ok values := by
    cases hform : formPalette plainForm with
    | error error =>
        rw [hform] at hvalues
        cases hvalues
    | ok palette =>
        rw [hform] at hvalues
        rw [Option.some.inj hvalues]
  have herror := Option.isNone_iff_eq_none.1 hsave
  refine ⟨values, shown, hform, hshown, ?_⟩
  exact current_of_save installedPaletteStore hnodup hform (Prod.ext rfl herror) rfl hshown

end PaletteStore

end NesDeck.Uploader
