/-
**The text that the Wi-Fi editor holds.**

The editor knows a key only by its number: `render_wifi` lays the keys of the active layer out and
draws them, `wifi_target_at` finds the number under a finger, and `apply_wifi_target` looks the
number up in the layout again. The lengths are limited in the editor, and checked in
`save_wifi_profile`.

Main definitions:

* `NesDeck.WifiEditing.drawWifiButton`, `NesDeck.WifiEditing.drawWifiKeys` — the keys as they are
  drawn;
* `NesDeck.WifiEditing.Shows` — a character that is drawn inside a button;
* `NesDeck.WifiEditing.Bounded` — texts that are printable and within the limits.

Main results:

* `NesDeck.WifiEditing.keys_spec` — the keys are printable, and lie apart from each other and from
  the buttons;
* `NesDeck.WifiEditing.targetAt_of_key` — a finger on a key finds the key;
* `NesDeck.WifiEditing.glyphRows_injective` — no two printable characters look the same;
* `NesDeck.WifiEditing.editor_bounded` — **after any targets the texts are within the limits, and a
  key enters what it shows**.
-/

import NesDeck.Lib.Run
import NesDeck.MenuTouch

set_option relaxedAutoImplicit false
set_option autoImplicit false

namespace NesDeck.WifiEditing

open HostFile (Bytes ascii)
open MenuText MenuUi MenuLoop MenuTouch

/-! ### Drawing the keys -/

/-- The colours of a button. -/
structure ButtonColors where
  surface : UInt16
  controlBorder : UInt16
  wifiActive : UInt16
  wifiActiveBorder : UInt16
  white : UInt16

def drawWifiButton (colors : ButtonColors) (bounds : Rect) (label : Bytes) (active : Bool) :
    List Fill :=
  let background := if active = true then colors.wifiActive else colors.surface
  let border := if active = true then colors.wifiActiveBorder else colors.controlBorder
  let scale := fitTextScale label (bounds.width - 12) 3 1
  ⟨bounds, background⟩ :: strokeRect bounds 3 border ++
    drawCenteredText bounds label scale colors.white

/-- What `add_wifi_key_row` draws for a key. -/
def drawWifiKey (colors : ButtonColors) (key : WifiKey) : List Fill :=
  drawWifiButton colors key.bounds [key.value] false

/-- What `render_wifi` draws for the keys, row by row. -/
def drawWifiKeys (colors : ButtonColors) (state : WifiState) : List Fill :=
  (wifiKeys state).flatMap (drawWifiKey colors)

/-- A character that is printable ASCII. -/
def Printable (character : UInt8) : Prop := 0x20 ≤ character ∧ character ≤ 0x7e

instance (character : UInt8) : Decidable (Printable character) :=
  inferInstanceAs (Decidable (_ ∧ _))

/-- The button is painted in one colour with a border, and the character is drawn over it,
inside. -/
def Shows (fills : List Fill) (bounds : Rect) (character : UInt8) : Prop :=
  ∃ (background border ink : UInt16) (x y : ℤ),
    fills = ⟨bounds, background⟩ :: strokeRect bounds 3 border ++
      drawCharacter x y character 3 ink ∧
      bounds.x + 3 ≤ x ∧ x + kBitmapGlyphWidth * 3 ≤ bounds.x + bounds.width - 3 ∧
      bounds.y + 3 ≤ y ∧ y + kBitmapGlyphHeight * 3 ≤ bounds.y + bounds.height - 3

theorem displayAscii_singleton {character : UInt8} (h : Printable character) :
    displayAscii [character] = [character] := by
  refine displayAscii_eq_self ?_
  intro c hc
  rw [List.mem_singleton.1 hc]
  exact UInt8.lt_of_le_of_lt h.2 (by decide)

theorem fitTextScale_singleton {character : UInt8} (h : Printable character) {width : ℤ}
    (hwidth : 15 ≤ width) : fitTextScale [character] width 3 1 = 3 := by
  have hfits : textWidth [character] 3 ≤ width := hwidth
  rw [fitTextScale, displayAscii_singleton h,
    show (List.range' 1 (3 + 1 - 1)).reverse = [3, 2, 1] from rfl,
    List.find?_cons_of_pos (by simpa using hfits), Option.getD_some]

theorem drawText_singleton (x y : ℤ) {character : UInt8} (h : Printable character) (scale : ℕ)
    (color : UInt16) :
    drawText x y [character] scale color = drawCharacter x y character scale color := by
  rw [drawText, displayAscii_singleton h, List.zipIdx_singleton, List.flatMap_singleton]
  simp

/-- A large enough button shows a label of one character. -/
theorem shows_drawWifiButton (colors : ButtonColors) {bounds : Rect} {character : UInt8}
    (h : Printable character) (hwidth : 27 ≤ bounds.width) (hheight : 27 ≤ bounds.height) :
    Shows (drawWifiButton colors bounds [character] false) bounds character := by
  have htext : textWidth [character] 3 = 15 := rfl
  have hx : (bounds.width - 15).tdiv 2 = (bounds.width - 15) / 2 :=
    Int.tdiv_eq_ediv_of_nonneg (by omega)
  have hy : (bounds.height - (kBitmapGlyphHeight : ℤ) * (3 : ℕ)).tdiv 2 =
      (bounds.height - 21) / 2 :=
    Int.tdiv_eq_ediv_of_nonneg (by simp only [kBitmapGlyphHeight]; omega)
  refine ⟨colors.surface, colors.controlBorder, colors.white,
    bounds.x + max 0 ((bounds.width - 15) / 2), bounds.y + max 0 ((bounds.height - 21) / 2), ?_, ?_⟩
  · rw [drawWifiButton, fitTextScale_singleton h (by omega), drawCenteredText,
      displayAscii_singleton h]
    rw [drawText_singleton _ _ h, htext, hx, hy]
    rfl
  · simp only [kBitmapGlyphWidth, kBitmapGlyphHeight]
    omega

/-- A key is drawn as a whole. -/
theorem drawWifiKey_infix (colors : ButtonColors) {state : WifiState} {key : WifiKey}
    (h : key ∈ wifiKeys state) : drawWifiKey colors key <:+: drawWifiKeys colors state := by
  obtain ⟨before, after, hkeys⟩ := List.append_of_mem h
  refine ⟨before.flatMap (drawWifiKey colors), after.flatMap (drawWifiKey colors), ?_⟩
  rw [drawWifiKeys, hkeys, List.flatMap_append, List.flatMap_cons, List.append_assoc]

/-- **No two printable characters look the same.** -/
theorem glyphRows_injective {character other : UInt8} (h : Printable character)
    (h' : Printable other) (hrows : glyphRows character = glyphRows other) : character = other := by
  have hnodup : ((List.range 95).map fun i => glyphRows (UInt8.ofNat (i + 32))).Nodup := by
    decide +kernel
  have hplace : ∀ {c : UInt8}, Printable c →
      c.toNat - 32 ∈ List.range 95 ∧ UInt8.ofNat (c.toNat - 32 + 32) = c := by
    intro c hc
    have hlow : 32 ≤ c.toNat := UInt8.le_iff_toNat_le.1 hc.1
    have hhigh : c.toNat ≤ 126 := UInt8.le_iff_toNat_le.1 hc.2
    refine ⟨List.mem_range.2 (by omega), ?_⟩
    rw [Nat.sub_add_cancel hlow, UInt8.ofNat_toNat]
  obtain ⟨hmem, hcharacter⟩ := hplace h
  obtain ⟨hmem', hother⟩ := hplace h'
  have hsame : character.toNat - 32 = other.toNat - 32 := by
    refine List.inj_on_of_nodup_map hnodup hmem hmem' ?_
    rw [hcharacter, hother, hrows]
  rw [← hcharacter, ← hother, hsame]

/-! ### The keys -/

/-- Two rectangles without a common point. -/
def Apart (first second : Rect) : Prop :=
  first.x + first.width ≤ second.x ∨ second.x + second.width ≤ first.x ∨
    first.y + first.height ≤ second.y ∨ second.y + second.height ≤ first.y

instance : DecidableRel Apart := fun _ _ => inferInstanceAs (Decidable (_ ∨ _))

theorem Apart.contains {first second : Rect} (h : Apart first second) {x y : ℤ}
    (hfirst : first.contains x y = true) : second.contains x y = false := by
  rw [← Bool.not_eq_true]
  intro hsecond
  rw [Rect.contains, decide_eq_true_eq] at hfirst hsecond
  rw [Apart] at h
  omega

/-- The back button and the other buttons of the editor. -/
def fixedButtons : List Rect := ⟨16, 10, 120, 62⟩ :: wifiButtons.map Prod.fst

/-- **The keys** of each layer, in either case: each is printable and large enough to show it, and
they lie apart from each other and from the buttons. -/
theorem keys_spec (state : WifiState) :
    (wifiKeys state).Pairwise (fun key other => Apart key.bounds other.bounds) ∧
      ∀ key ∈ wifiKeys state, Printable key.value ∧
        (27 ≤ key.bounds.width ∧ key.bounds.height = 62) ∧
        ∀ button ∈ fixedButtons, Apart key.bounds button := by
  obtain ⟨ssid, passphrase, field, uppercase, symbols⟩ := state
  -- the texts and the field make no difference
  change (wifiKeys ⟨[], [], .ssid, uppercase, symbols⟩).Pairwise _ ∧
    ∀ key ∈ wifiKeys ⟨[], [], .ssid, uppercase, symbols⟩, _ ∧ _
  cases symbols <;> cases uppercase <;> decide +kernel

/-- A point is on one key at most. -/
theorem key_unique {state : WifiState} {index index' : ℕ} {key other : WifiKey}
    (hkey : (wifiKeys state)[index]? = some key) (hother : (wifiKeys state)[index']? = some other)
    {x y : ℤ} (h : key.bounds.contains x y = true) (h' : other.bounds.contains x y = true) :
    index = index' := by
  have hapart := List.pairwise_iff_getElem.1 (keys_spec state).1
  obtain ⟨hindex, rfl⟩ := List.getElem?_eq_some_iff.1 hkey
  obtain ⟨hindex', rfl⟩ := List.getElem?_eq_some_iff.1 hother
  rcases Nat.lt_trichotomy index index' with hlt | heq | hgt
  · rw [(hapart index index' hindex hindex' hlt).contains h] at h'
    cases h'
  · exact heq
  · rw [(hapart index' index hindex' hindex hgt).contains h'] at h
    cases h

/-- **A finger on a key finds the key**, and none of the buttons. -/
theorem targetAt_of_key {state : WifiState} {index : ℕ} {key : WifiKey}
    (hkey : (wifiKeys state)[index]? = some key) {x y : ℤ} (h : key.bounds.contains x y = true) :
    (∀ button ∈ fixedButtons, button.contains x y = false) ∧
      wifiEditorTargetAt state x y = wifiTargetKeyBase + index := by
  have hbuttons : ∀ button ∈ fixedButtons, button.contains x y = false := by
    intro button hbutton
    exact (((keys_spec state).2 key (List.mem_of_getElem? hkey)).2.2 button hbutton).contains h
  refine ⟨hbuttons, ?_⟩
  have hnone : hit wifiButtons x y = none := by
    refine hit_eq_none fun button hbutton => hbuttons button.1 ?_
    exact List.mem_cons_of_mem _ (List.mem_map_of_mem hbutton)
  have hsome : hit ((wifiKeys state).map WifiKey.bounds).zipIdx x y = some index := by
    have hbounds : ((wifiKeys state).map WifiKey.bounds)[index]? = some key.bounds := by
      rw [List.getElem?_map, hkey, Option.map_some]
    refine @hit_eq_some ℕ _ (key.bounds, index) (List.mem_zipIdx_iff_getElem?.2 hbounds) x y h ?_
    rintro ⟨bounds, index'⟩ hother hpoint
    have hfound := List.mem_zipIdx_iff_getElem?.1 hother
    rw [List.getElem?_map, Option.map_eq_some_iff] at hfound
    obtain ⟨other, hget, rfl⟩ := hfound
    obtain rfl := key_unique hkey hget h hpoint
    rw [Option.some.inj (hkey.symm.trans hget)]
  rw [wifiEditorTargetAt, hnone]
  dsimp only
  rw [hsome]

/-! ### The limits -/

/-- The texts are within the limits of the editor, and printable. -/
structure Bounded (state : WifiState) : Prop where
  ssid : state.ssid.length ≤ 32
  passphrase : state.passphrase.length ≤ 63
  ssidPrintable : ∀ character ∈ state.ssid, Printable character
  passphrasePrintable : ∀ character ∈ state.passphrase, Printable character

theorem bounded_initial : Bounded .initial where
  ssid := Nat.zero_le 32
  passphrase := Nat.zero_le 63
  ssidPrintable := fun _ h => absurd h List.not_mem_nil
  passphrasePrintable := fun _ h => absurd h List.not_mem_nil

namespace Bounded

variable {state : WifiState}

/-- The text that is edited. -/
theorem text (h : Bounded state) :
    state.text.length ≤ state.limit ∧ ∀ character ∈ state.text, Printable character := by
  rw [WifiState.text, WifiState.limit]
  cases state.field with
  | ssid => exact ⟨h.ssid, h.ssidPrintable⟩
  | passphrase => exact ⟨h.passphrase, h.passphrasePrintable⟩

/-- A good text may take its place. -/
theorem setText (h : Bounded state) {text : Bytes} (hlength : text.length ≤ state.limit)
    (hprintable : ∀ character ∈ text, Printable character) : Bounded (state.setText text) := by
  rw [WifiState.limit] at hlength
  rw [WifiState.setText]
  cases hfield : state.field with
  | ssid =>
      rw [hfield] at hlength
      exact ⟨hlength, h.passphrase, hprintable, h.passphrasePrintable⟩
  | passphrase =>
      rw [hfield] at hlength
      exact ⟨h.ssid, hlength, h.ssidPrintable, hprintable⟩

/-- A character is entered only below the limit. -/
theorem pushBack (h : Bounded state) {value : UInt8} (hvalue : Printable value) :
    Bounded (state.pushBack value) := by
  rw [WifiState.pushBack]
  split
  · next hroom =>
      refine h.setText ?_ ?_
      · rw [List.length_append, List.length_singleton]
        omega
      · intro character hmem
        rcases List.mem_append.1 hmem with hold | hnew
        · exact h.text.2 character hold
        · rw [List.mem_singleton.1 hnew]
          exact hvalue
  · exact h

/-- A character is taken away at the end. -/
theorem dropLast (h : Bounded state) : Bounded (state.setText state.text.dropLast) := by
  refine h.setText ?_ ?_
  · rw [List.length_dropLast]
    exact Nat.le_trans (Nat.sub_le _ _) h.text.1
  · intro character hmem
    exact h.text.2 character ((List.dropLast_sublist _).subset hmem)

/-- **No target breaks the limits.** -/
theorem applyWifiTarget (h : Bounded state) {target : ℤ} {state' : WifiState}
    (happly : MenuTouch.applyWifiTarget target state = some state') : Bounded state' := by
  rw [MenuTouch.applyWifiTarget] at happly
  split at happly
  · obtain rfl := Option.some.inj happly
    exact ⟨h.ssid, h.passphrase, h.ssidPrintable, h.passphrasePrintable⟩
  split at happly
  · obtain rfl := Option.some.inj happly
    exact ⟨h.ssid, h.passphrase, h.ssidPrintable, h.passphrasePrintable⟩
  split at happly
  · obtain rfl := Option.some.inj happly
    exact ⟨h.ssid, h.passphrase, h.ssidPrintable, h.passphrasePrintable⟩
  split at happly
  · obtain rfl := Option.some.inj happly
    exact ⟨h.ssid, h.passphrase, h.ssidPrintable, h.passphrasePrintable⟩
  split at happly
  · obtain rfl := Option.some.inj happly
    exact h.dropLast
  split at happly
  · obtain rfl := Option.some.inj happly
    exact h.pushBack (by decide)
  split at happly
  · obtain ⟨key, hkey, rfl⟩ := Option.map_eq_some_iff.1 happly
    exact h.pushBack ((keys_spec state).2 key (List.mem_of_getElem? hkey)).1
  · cases happly

/-- Saving clears the passphrase or leaves the texts alone. -/
theorem saveTarget {screen : WifiScreen} (h : Bounded screen.state) (helper : ℕ → Bytes → Bool) :
    Bounded (MenuTouch.saveTarget helper screen).state := by
  rw [MenuTouch.saveTarget]
  split
  · exact h
  split
  · exact h
  dsimp only
  split
  · exact ⟨h.ssid, Nat.zero_le 63, h.ssidPrintable, fun _ hmem => absurd hmem List.not_mem_nil⟩
  · exact h

theorem apply {screen : WifiScreen} (h : Bounded screen.state) (helper : ℕ → Bytes → Bool)
    (target : ℤ) : Bounded ((wifiEditor helper).apply target screen).state := by
  simp only [wifiEditor]
  split
  · exact h.saveTarget helper
  · dsimp only
    cases happly : MenuTouch.applyWifiTarget target screen.state with
    | none => exact h
    | some state => exact h.applyWifiTarget happly

/-- The check of a text within its limit can only find it too short. -/
theorem validWifiText_eq_false {value : Bytes} {minimum maximum : ℕ}
    (hlength : value.length ≤ maximum) (hprintable : ∀ character ∈ value, Printable character) :
    validWifiText value minimum maximum = false ↔ value.length < minimum := by
  rw [← Bool.not_eq_true, validWifiText_iff, not_and_or]
  constructor
  · rintro (hbounds | hbad)
    · omega
    · exact absurd hprintable hbad
  · intro hshort
    exact Or.inl fun hbounds => by omega

end Bounded

/-! ### Whole runs -/

/-- The editor after some targets, from its empty state. -/
def afterTargets (helper : ℕ → Bytes → Bool) (targets : List ℤ) : WifiScreen :=
  targets.foldl (fun screen target => (wifiEditor helper).apply target screen) ⟨.initial, 0⟩

theorem bounded_afterTargets (helper : ℕ → Bytes → Bool) (targets : List ℤ) :
    Bounded (afterTargets helper targets).state :=
  Run.invariant (I := fun screen : WifiScreen => Bounded screen.state)
    (fun _ target h => h.apply helper target) bounded_initial targets

/-- The target of a key enters the character of the key where there is room. -/
theorem apply_key (helper : ℕ → Bytes → Bool) {screen : WifiScreen} {index : ℕ} {key : WifiKey}
    (hkey : (wifiKeys screen.state)[index]? = some key) :
    (wifiEditor helper).apply (wifiTargetKeyBase + index) screen =
      { screen with state := screen.state.pushBack key.value } := by
  have hindex : (wifiTargetKeyBase + (index : ℤ) - wifiTargetKeyBase).toNat = index := by omega
  have hbase : wifiTargetKeyBase = 200 := rfl
  have hne : ∀ {target : ℤ}, target < 200 → ¬ wifiTargetKeyBase + (index : ℤ) = target := by
    intro target htarget heq
    omega
  have happly : applyWifiTarget (wifiTargetKeyBase + index) screen.state =
      some (screen.state.pushBack key.value) := by
    rw [applyWifiTarget, if_neg (hne (by decide)), if_neg (hne (by decide)),
      if_neg (hne (by decide)),
      if_neg fun hshift => hne (by decide) hshift.1, if_neg (hne (by decide)),
      if_neg (hne (by decide)), if_pos (by omega), hindex, hkey, Option.map_some]
  simp only [wifiEditor]
  rw [if_neg (hne (by decide)), happly, Option.getD_some]

/-- **After any targets the texts are within the limits**, so that the check before saving rejects a
text only for being too short; and every key lies where its target is found, shows a character that
looks like no other, and enters this character, and nothing else, while the text that is edited is
below its limit. -/
theorem editor_bounded (helper : ℕ → Bytes → Bool) (colors : ButtonColors) (targets : List ℤ) :
    let screen := afterTargets helper targets
    Bounded screen.state ∧
      (validWifiText screen.state.ssid 1 32 = false ↔ screen.state.ssid.length < 1) ∧
      (validWifiText screen.state.passphrase 8 63 = false ↔ screen.state.passphrase.length < 8) ∧
      ∀ (index : ℕ) (key : WifiKey), (wifiKeys screen.state)[index]? = some key →
        (∀ x y, key.bounds.contains x y = true →
          (∀ button ∈ fixedButtons, button.contains x y = false) ∧
            wifiEditorTargetAt screen.state x y = wifiTargetKeyBase + index) ∧
        (drawWifiKey colors key <:+: drawWifiKeys colors screen.state ∧
          Shows (drawWifiKey colors key) key.bounds key.value ∧
          ∀ other, Printable other → glyphRows other = glyphRows key.value → other = key.value) ∧
        (wifiEditor helper).apply (wifiTargetKeyBase + index) screen =
          { screen with
            state :=
              if screen.state.text.length < screen.state.limit then
                screen.state.setText (screen.state.text ++ [key.value])
              else screen.state } := by
  intro screen
  have hbounded : Bounded screen.state := bounded_afterTargets helper targets
  refine ⟨hbounded, Bounded.validWifiText_eq_false hbounded.ssid hbounded.ssidPrintable,
    Bounded.validWifiText_eq_false hbounded.passphrase hbounded.passphrasePrintable, ?_⟩
  intro index key hkey
  obtain ⟨hprintable, ⟨hwidth, hheight⟩, -⟩ :=
    (keys_spec screen.state).2 key (List.mem_of_getElem? hkey)
  refine ⟨fun x y hpoint => targetAt_of_key hkey hpoint, ⟨?_, ?_, ?_⟩, apply_key helper hkey⟩
  · exact drawWifiKey_infix colors (List.mem_of_getElem? hkey)
  · exact shows_drawWifiButton colors hprintable hwidth (by omega)
  · intro other hother hrows
    exact glyphRows_injective hother hprintable hrows

end NesDeck.WifiEditing
