/-
**Where the ROM paths of the catalog lead.**

The catalog compiler keeps the path of every game below the root of its system, by its prefix, its
extension and three pieces that it must not contain. A path of a console ends with its extension, so
that its last component is a name, too. A path of a deck game has no extension to end with: it may
end with dots, and may be the root itself or even lead out of it.

Main definitions:

* `NesDeck.CatalogCompiler.permittedRoot` — the root of a system;
* `NesDeck.CatalogCompiler.GameRow.Confined` — the path of the game leads below the root of its
  system;
* `NesDeck.CatalogCompiler.GameRow.EndsDotted` — the path of a deck game whose rest is dotted.

Main results:

* `NesDeck.CatalogCompiler.getLast?_of_dotted` — what a dotted path ends with;
* `NesDeck.CatalogCompiler.confined_iff` — **a validated path leads below its root unless it is a
  dotted path of a deck game**.
-/

import NesDeck.CompileCatalog
import NesDeck.Lib.LexicalPath

set_option relaxedAutoImplicit false
set_option autoImplicit false

namespace NesDeck.CatalogCompiler

/-! ### Roots -/

/-- What the catalog promises for a system: `/mnt/data/roms/<system>/`, or the root of the deck
games. -/
def permittedRoot (system : List Char) : List Char :=
  if system = "deck".toList then deckGameRoot else consoleRomRoot ++ system ++ "/".toList

/-- The path leads, without its dots, to something strictly below the root of the system. -/
def GameRow.Confined (game : GameRow) : Prop :=
  LexicalPath.Below '/' '.' (permittedRoot game.system) game.rom

/-- What follows the root of the deck games is nothing, dots, or one name and two dots. -/
def GameRow.EndsDotted (game : GameRow) : Prop :=
  game.system = "deck".toList ∧ LexicalPath.Dotted '/' '.' (game.rom.drop deckGameRoot.length)

/-- The compiler looks for the root of the system, and every root ends with a slash. -/
theorem expectedRoot_spec : ∀ system ∈ systemKeys,
    expectedRoot system = permittedRoot (symbolDowncase system) ∧
      expectedRoot system = (expectedRoot system).dropLast ++ ['/'] := by
  decide

/-- The extension of a console ends with a letter or a digit. -/
theorem expectedExtension_spec : ∀ system ∈ systemKeys, symbolDowncase system ≠ "deck".toList →
    ∀ extension ∈ expectedExtension system, extension.getD [] ≠ [] ∧
      (extension.getD []).getLast? ≠ some '/' ∧ (extension.getD []).getLast? ≠ some '.' := by
  decide

/-! ### Paths -/

/-- A dotted path ends with the slash of its root or with a dot. -/
theorem getLast?_of_dotted {root rest : List Char} (h : LexicalPath.Dotted '/' '.' rest) :
    (root ++ '/' :: rest).getLast? = some '/' ∨ (root ++ '/' :: rest).getLast? = some '.' := by
  rcases h with rfl | rfl | rfl | ⟨name, -, rfl⟩
  · exact Or.inl (by simp)
  · exact Or.inr (by simp)
  · exact Or.inr (by simp)
  · have hend : root ++ '/' :: (name ++ ['/', '.', '.']) =
        (root ++ '/' :: name ++ ['/', '.']) ++ ['.'] := by
      simp
    exact Or.inr (by rw [hend, List.getLast?_concat])

/-- **A validated path leads below its root unless it is a dotted path of a deck game.** -/
theorem confined_iff {form : Form} {position : ℕ} {game : GameRow}
    (h : validateGame form position = .ok game) : game.Confined ↔ ¬game.EndsDotted := by
  obtain ⟨system, hkey, hsystem, hrom⟩ := (validateGame_spec h).rom
  obtain ⟨hroot, hslash⟩ := expectedRoot_spec system hkey
  obtain ⟨rest, hrest⟩ := hrom.root
  generalize (expectedRoot system).dropLast = root at hslash
  have hpath : game.rom = root ++ '/' :: rest := by
    rw [← hrest, hslash, List.append_assoc, List.singleton_append]
  have hsuffix : '/' :: rest <:+: game.rom := hpath ▸ (List.suffix_append root _).isInfix
  have hnormal : LexicalPath.IsNormalized '/' '.' ('/' :: rest) :=
    ⟨fun hpiece => hrom.slashes (hpiece.trans hsuffix), fun hpiece =>
      hrom.dot (hpiece.trans hsuffix),
      fun hpiece => hrom.dots (hpiece.trans hsuffix)⟩
  rw [GameRow.Confined, hsystem, ← hroot, hslash, hpath, LexicalPath.below_iff (by decide) hnormal,
    GameRow.EndsDotted, hsystem]
  by_cases hdeck : symbolDowncase system = "deck".toList
  · have hdrop : game.rom.drop deckGameRoot.length = rest := by
      rw [hdeck, permittedRoot, if_pos rfl] at hroot
      rw [← hrest, hroot, List.drop_left]
    rw [hdrop, and_iff_right hdeck]
  · -- The extension rules the dots out.
    obtain ⟨extension, hextension, hend⟩ := hrom.extension
    obtain ⟨hne, hnotSlash, hnotDot⟩ :=
      expectedExtension_spec system hkey hdeck extension hextension
    refine iff_of_true ?_ fun hends => hdeck hends.1
    intro hdotted
    obtain ⟨front, hfront⟩ := hend
    have hlast : game.rom.getLast? = (extension.getD []).getLast? := by
      rw [← hfront, List.getLast?_append_of_ne_nil _ hne]
    rw [hpath] at hlast
    rcases getLast?_of_dotted hdotted with heq | heq
    · exact hnotSlash (hlast ▸ heq)
    · exact hnotDot (hlast ▸ heq)

/-! ### A way out -/

section Sample

/-- A deck game with the given rest of its path. -/
def deckForm (rest : String) : Form :=
  .ofList
    [.keyword "ID", .string "ten".toList, .keyword "TITLE", .string "TEN".toList,
     .keyword "SYSTEM", .keyword "DECK", .keyword "ROM", .string (deckGameRoot ++ rest.toList),
     .keyword "COLOR", .string "#FFFFFF".toList]

def deckRow (rest : String) : GameRow :=
  ⟨"ten".toList, "TEN".toList, "deck".toList, deckGameRoot ++ rest.toList, "#FFFFFF".toList⟩

/-- Two dots lead to the parent of the root. -/
theorem not_confined_parent :
    validateGame (deckForm "..") 1 = .ok (deckRow "..") ∧ ¬(deckRow "..").Confined := by
  refine ⟨by decide +kernel, ?_⟩
  rintro ⟨names, -, heq⟩
  have hbelow : LexicalPath.resolve '/' '.' (permittedRoot (deckRow "..").system) <+:
      LexicalPath.resolve '/' '.' (deckRow "..").rom := ⟨names, heq.symm⟩
  exact absurd hbelow (by decide +kernel)

theorem confined_iff_ten : (deckRow "ten").Confined ↔ ¬(deckRow "ten").EndsDotted :=
  confined_iff (show validateGame (deckForm "ten") 1 = .ok (deckRow "ten") by decide +kernel)

end Sample

end NesDeck.CatalogCompiler
