/-
**The catalog cache of the launcher.**

`deck-menu-launcher` starts the menu with a manifest and a palette that the catalog compiler made
from `games.sexp` and from the palette override of the uploader. It does not compile them again as
long as no input is newer than what was generated, by the modification times of the files.

The inputs change between the launches. A deployment (`activate.sh`) copies the catalog and the
compiler with the times of the staging machine; the uploader writes the override (`palette.go`) with
the time of the Deck; the override may be removed. A time counts in units of the clock that `-nt`
compares, and the clocks may show anything.

What the Lisp runtime makes of a compiler is a parameter: the compiler of this repository makes
`compileCatalog` of its inputs.

Main definitions:

* `NesDeck.CatalogCompiler.compileCatalog` — what the compiler makes of its inputs;
* `NesDeck.Launcher`, `NesDeck.Launcher.launch` — the files, and what a launch does with them;
* `NesDeck.Launcher.apply` — deployments, saves, removals and launches;
* `NesDeck.Launcher.History` — the files, with the inputs that each generated file was made from;
* `NesDeck.Launcher.ReuseCoherent` — what is used again is what the compiler would make;
* `NesDeck.Launcher.History.ChangesShow` — a change of the inputs shows in the times.

Main results:

* `NesDeck.Launcher.honest_step` — a generated file stays what the compiler made of its inputs;
* `NesDeck.Launcher.reuseCoherent_run` — **where every change shows in the times, whatever is used
  again is what the compiler would make**;
* `NesDeck.Launcher.changesShow_run` — which deployments, saves and removals show.
-/

import NesDeck.AppearanceOverride
import NesDeck.Lib.Run

set_option relaxedAutoImplicit false
set_option autoImplicit false

namespace NesDeck

open HostFile (Bytes ascii)

/-! ### The compiler -/

namespace CatalogCompiler

/-- The manifest and the palette that `main` of `compile-catalog.lisp` writes. -/
def compileCatalog (format : ExternalFormat) (catalog : Bytes) (override : Option Bytes) :
    Option (Bytes × Bytes) :=
  match readCatalog format catalog with
  | .error _ => none
  | .ok form =>
      match validateCatalog form with
      | .error _ => none
      | .ok (games, basePalette) =>
          match override with
          | none => some (writeTsv games, writePaletteTsv basePalette)
          | some contents =>
              match readCatalog format contents with
              | .error _ => none
              | .ok form =>
                  match validateAppearanceOverride form with
                  | .error _ => none
                  | .ok palette => some (writeTsv games, writePaletteTsv palette)

end CatalogCompiler

/-! ### Files and times -/

/-- A file with the time of its last modification. -/
structure StampedFile where
  content : Bytes
  mtime : ℕ

/-- The contents from which the manifest and the palette are made. -/
structure CatalogInputs where
  compiler : Option Bytes
  catalog : Option Bytes
  override : Option Bytes
  deriving DecidableEq

/-- What becomes of the outputs of a compiler that has something to write.  The palette is renamed
first. -/
inductive Emission where
  | nothing
  | paletteOnly (paletteTime : ℕ)
  | both (manifestTime paletteTime : ℕ)

/-- The time of a new palette. -/
def Emission.paletteTime : Emission → Option ℕ
  | nothing => none
  | paletteOnly time => some time
  | both _ time => some time

/-- The time of a new manifest. -/
def Emission.manifestTime : Emission → Option ℕ
  | both time _ => some time
  | _ => none

/-- The answers of the system to one launch. -/
structure LaunchAnswers where
  manifestValid : Bool
  paletteValid : Bool
  eclExecutable : Bool
  emission : Emission
  /-- The exit status of the compiler is zero. -/
  succeeds : Bool

/-- The files with which the menu starts: what was generated before, what this launch generated, or
the checked-in ones. -/
inductive LaunchChoice where
  | reused
  | generated
  | checkedIn
  deriving DecidableEq

/-- The files of the launcher. -/
structure Launcher where
  compiler : Option StampedFile
  catalog : Option StampedFile
  override : Option StampedFile
  manifest : Option StampedFile
  palette : Option StampedFile

namespace Launcher

/-- `[ -e input ] && [ input -nt target ]`. -/
def newer (input : Option StampedFile) (target : StampedFile) : Bool :=
  input.any fun input => target.mtime < input.mtime

/-- One of the inputs is newer than what was generated. -/
def outdates (launcher : Launcher) (manifest palette : StampedFile) : Bool :=
  [launcher.catalog, launcher.compiler].any (fun input =>
    newer input manifest || newer input palette) ||
    newer launcher.override palette

/-- `catalog_cache_current`. -/
def catalogCacheCurrent (launcher : Launcher) (answers : LaunchAnswers) : Bool :=
  match launcher.manifest, launcher.palette with
  | some manifest, some palette =>
      manifest.content ≠ [] ∧ palette.content ≠ [] ∧ launcher.outdates manifest palette = false ∧
        answers.manifestValid = true ∧ answers.paletteValid = true
  | _, _ => false

/-- Something was not generated, or one of the inputs is newer. -/
def outdated (launcher : Launcher) : Bool :=
  match launcher.manifest, launcher.palette with
  | some manifest, some palette => launcher.outdates manifest palette
  | _, _ => true

/-- What is generated. -/
def generated (launcher : Launcher) : Option (Bytes × Bytes) :=
  match launcher.manifest, launcher.palette with
  | some manifest, some palette => some (manifest.content, palette.content)
  | _, _ => none

/-- The contents of the inputs. -/
def inputs (launcher : Launcher) : CatalogInputs where
  compiler := launcher.compiler.map StampedFile.content
  catalog := launcher.catalog.map StampedFile.content
  override := launcher.override.map StampedFile.content

/-- What is generated is there, and not empty. -/
def hasGenerated (launcher : Launcher) : Bool :=
  launcher.manifest.any (·.content ≠ []) && launcher.palette.any (·.content ≠ [])

/-- The outputs are renamed. -/
def emit (launcher : Launcher) (outputs : Bytes × Bytes) (emission : Emission) : Launcher :=
  { launcher with
    palette := (emission.paletteTime.map (StampedFile.mk outputs.2)).or launcher.palette
    manifest := (emission.manifestTime.map (StampedFile.mk outputs.1)).or launcher.manifest }

end Launcher

/-- What a Lisp runtime writes when it runs a compiler on a catalog and an override. -/
abbrev LispRuntime := (compiler catalog : Bytes) → (override : Option Bytes) →
    Option (Bytes × Bytes)

/-- What the compiler would produce from some inputs. -/
def CatalogInputs.compiled (ecl : LispRuntime) (inputs : CatalogInputs) : Option (Bytes × Bytes) :=
  match inputs.compiler, inputs.catalog with
  | some compiler, some catalog => ecl compiler catalog inputs.override
  | _, _ => none

namespace Launcher

variable (ecl : LispRuntime)

/-- The choice of the launcher, and the files after it. -/
def launch (launcher : Launcher) (answers : LaunchAnswers) : Launcher × LaunchChoice :=
  if launcher.catalogCacheCurrent answers = true then (launcher, .reused)
  else if answers.eclExecutable = true then
    match launcher.inputs.compiled ecl with
    | none => (launcher, .checkedIn)
    | some outputs =>
        let launcher := launcher.emit outputs answers.emission
        (launcher,
          if answers.succeeds = true ∧ launcher.hasGenerated = true then .generated else .checkedIn)
  else (launcher, .checkedIn)

/-- What happens to the files. -/
inductive Event where
  | deploy (compiler catalog : StampedFile)
  | save (override : Bytes) (now : ℕ)
  | remove
  | launch (answers : LaunchAnswers)

/-- The files after an event. -/
def apply (launcher : Launcher) : Event → Launcher
  | .deploy compiler catalog => { launcher with compiler := some compiler, catalog := some catalog }
  | .save override now => { launcher with override := some ⟨override, now⟩ }
  | .remove => { launcher with override := none }
  | .launch answers => (launcher.launch ecl answers).1

/-- Nothing is installed. -/
def empty : Launcher := ⟨none, none, none, none, none⟩

/-! ### Where the generated files come from -/

/-- The files, with the inputs that each generated file was made from. -/
structure History where
  launcher : Launcher
  manifestFrom : CatalogInputs
  paletteFrom : CatalogInputs

namespace History

/-- Nothing is installed, and nothing generated. -/
def empty : History := ⟨.empty, .mk none none none, .mk none none none⟩

/-- A launch compiles: nothing is used again, and the compiler has something to write. -/
def compiles (history : History) (answers : LaunchAnswers) : Bool :=
  history.launcher.catalogCacheCurrent answers = false ∧ answers.eclExecutable = true ∧
    (history.launcher.inputs.compiled ecl).isSome = true

/-- The history after an event. -/
def step (history : History) (event : Event) : History where
  launcher := history.launcher.apply ecl event
  manifestFrom :=
    match event with
    | .launch answers =>
        if history.compiles ecl answers = true ∧ answers.emission.manifestTime.isSome = true then
          history.launcher.inputs
        else history.manifestFrom
    | _ => history.manifestFrom
  paletteFrom :=
    match event with
    | .launch answers =>
        if history.compiles ecl answers = true ∧ answers.emission.paletteTime.isSome = true then
          history.launcher.inputs
        else history.paletteFrom
    | _ => history.paletteFrom

end History

/-- **What a launch uses again is what the compiler would produce** from the inputs that are
there. -/
def ReuseCoherent (history : History) : Event → Prop
  | .launch answers =>
      (history.launcher.launch ecl answers).2 = .reused →
        history.launcher.generated = history.launcher.inputs.compiled ecl
  | _ => True

/-- **A change of the inputs shows**: unless one of them is newer than what was generated, they are
those that both files were made from. -/
def History.ChangesShow (history : History) : Event → Prop
  | .launch _ =>
      history.launcher.outdated = true ∨
        (history.manifestFrom = history.launcher.inputs ∧
          history.paletteFrom = history.launcher.inputs)
  | _ => True

instance (history : History) (event : Event) : Decidable (ReuseCoherent ecl history event) :=
  match event with
  | .launch _ => inferInstanceAs (Decidable (_ → _))
  | .deploy _ _ => inferInstanceAs (Decidable True)
  | .save _ _ => inferInstanceAs (Decidable True)
  | .remove => inferInstanceAs (Decidable True)

instance (history : History) (event : Event) : Decidable (history.ChangesShow event) :=
  match event with
  | .launch _ => inferInstanceAs (Decidable (_ ∨ _))
  | .deploy _ _ => inferInstanceAs (Decidable True)
  | .save _ _ => inferInstanceAs (Decidable True)
  | .remove => inferInstanceAs (Decidable True)

variable {ecl : LispRuntime} {history : History} {launcher : Launcher} {answers : LaunchAnswers}

/-! ### What a launch does -/

/-- Files that are taken to be current are there, and no input is newer. -/
theorem catalogCacheCurrent_spec (h : launcher.catalogCacheCurrent answers = true) :
    ∃ manifest palette, launcher.manifest = some manifest ∧ launcher.palette = some palette ∧
      launcher.outdated = false := by
  rw [catalogCacheCurrent] at h
  split at h
  · rename_i manifest palette hmanifest hpalette
    rw [decide_eq_true_eq] at h
    refine ⟨manifest, palette, hmanifest, hpalette, ?_⟩
    rw [outdated, hmanifest, hpalette]
    exact h.2.2.1
  · cases h

/-- Only files that are current are used again. -/
theorem current_of_reused (h : (launcher.launch ecl answers).2 = .reused) :
    launcher.catalogCacheCurrent answers = true := by
  by_contra hstale
  rw [launch, if_neg hstale] at h
  split at h
  · split at h
    · cases h
    · dsimp only at h
      split at h
      · cases h
      · cases h
  · cases h

/-- A launch that compiles renames its outputs, and any other leaves the files alone. -/
theorem launch_fst (history : History) (answers : LaunchAnswers) :
    (history.compiles ecl answers = true ∧
      ∃ outputs, history.launcher.inputs.compiled ecl = some outputs ∧
        (history.launcher.launch ecl answers).1 = history.launcher.emit outputs answers.emission) ∨
    (history.compiles ecl answers = false ∧
      (history.launcher.launch ecl answers).1 = history.launcher) := by
  rw [History.compiles, launch]
  by_cases hcurrent : history.launcher.catalogCacheCurrent answers = true
  · right
    simp [hcurrent]
  · rw [if_neg hcurrent]
    by_cases hecl : answers.eclExecutable = true
    · rw [if_pos hecl]
      cases houtputs : history.launcher.inputs.compiled ecl with
      | none => right; simp
      | some outputs => left; simp [hcurrent, hecl]
    · right
      simp [hecl]

/-! ### A generated file and its inputs -/

/-- A file has what some inputs are made into. -/
def Made (output : CatalogInputs → Option Bytes) (source : CatalogInputs)
    (file : Option StampedFile) :
    Prop :=
  ∀ made, file = some made → output source = some made.content

/-- It still has it when it was written again, or left alone. -/
theorem Made.renew {output : CatalogInputs → Option Bytes} {source inputs : CatalogInputs}
    {file : Option StampedFile} (h : Made output source file) {content : Bytes}
    (houtput : output inputs = some content) (time : Option ℕ) :
    Made output (if time.isSome = true then inputs else source)
      ((time.map (StampedFile.mk content)).or file) := by
  cases time with
  | none => exact h
  | some time =>
      rintro made ⟨⟩
      exact houtput

/-- **A generated file is what the compiler made of its inputs.** -/
structure Honest (ecl : LispRuntime) (history : History) : Prop where
  manifest : Made (fun inputs => (inputs.compiled ecl).map Prod.fst) history.manifestFrom
    history.launcher.manifest
  palette : Made (fun inputs => (inputs.compiled ecl).map Prod.snd) history.paletteFrom
    history.launcher.palette

theorem honest_empty : Honest ecl .empty where
  manifest := by
    rintro made ⟨⟩
  palette := by
    rintro made ⟨⟩

/-- A launch that compiles, and one that does not. -/
theorem step_launch (history : History) (answers : LaunchAnswers) :
    (∃ outputs, history.launcher.inputs.compiled ecl = some outputs ∧
      history.step ecl (.launch answers) =
        { launcher := history.launcher.emit outputs answers.emission
          manifestFrom :=
            if answers.emission.manifestTime.isSome = true then history.launcher.inputs
            else history.manifestFrom
          paletteFrom :=
            if answers.emission.paletteTime.isSome = true then history.launcher.inputs
            else history.paletteFrom }) ∨
    history.step ecl (.launch answers) = history := by
  rcases @launch_fst ecl history answers
    with ⟨hcompiles, outputs, houtputs, hfiles⟩ | ⟨hcompiles, hfiles⟩
  · left
    refine ⟨outputs, houtputs, ?_⟩
    simp only [History.step, apply, hfiles, hcompiles, true_and]
  · right
    simp only [History.step, apply, hfiles, hcompiles, Bool.false_eq_true, false_and, if_false]

/-- **Every event keeps it.** -/
theorem honest_step (h : Honest ecl history) (event : Event) :
    Honest ecl (history.step ecl event) := by
  cases event with
  | deploy compiler catalog => exact ⟨h.manifest, h.palette⟩
  | save override now => exact ⟨h.manifest, h.palette⟩
  | remove => exact ⟨h.manifest, h.palette⟩
  | launch answers =>
      rcases @step_launch ecl history answers with ⟨outputs, houtputs, hstep⟩ | hstep
      · rw [hstep]
        exact ⟨h.manifest.renew (by rw [houtputs]; rfl) _,
          h.palette.renew (by rw [houtputs]; rfl) _⟩
      · rwa [hstep]

/-! ### What is used again -/

/-- One launch: where the changes show, what is used again is what the compiler would produce. -/
theorem reuseCoherent_of_changesShow (h : Honest ecl history) {event : Event}
    (hshow : history.ChangesShow event) : ReuseCoherent ecl history event := by
  cases event with
  | deploy compiler catalog => trivial
  | save override now => trivial
  | remove => trivial
  | launch answers =>
      intro hreused
      obtain ⟨manifest, palette, hmanifest, hpalette, hnewer⟩ :=
        catalogCacheCurrent_spec (current_of_reused hreused)
      rcases hshow with hnew | ⟨hfrom, hpaletteFrom⟩
      · rw [hnewer] at hnew
        cases hnew
      · -- Both files were made from the inputs that are there.
        have hfirst : (history.launcher.inputs.compiled ecl).map Prod.fst = some manifest.content :=
          hfrom ▸ h.manifest manifest hmanifest
        have hsecond : (history.launcher.inputs.compiled ecl).map Prod.snd = some palette.content :=
          hpaletteFrom ▸ h.palette palette hpalette
        obtain ⟨outputs, hcompiled, hcontent⟩ := Option.map_eq_some_iff.1 hfirst
        rw [hcompiled, Option.map_some, Option.some_inj] at hsecond
        rw [generated, hmanifest, hpalette, hcompiled]
        exact congrArg some (Prod.ext hcontent.symm hsecond.symm)

/-- **Where every change shows in the times, whatever is used again is what the compiler would
produce** from the inputs that are there. -/
theorem reuseCoherent_run (ecl : LispRuntime) (events : List Event)
    (h : Run.Each (History.step ecl) History.ChangesShow .empty events) :
    Run.Each (History.step ecl) (ReuseCoherent ecl) .empty events :=
  Run.each_mono (J := Honest ecl) (fun _ _ hhonest => reuseCoherent_of_changesShow hhonest)
    (fun _ event hhonest _ => honest_step hhonest event) honest_empty events h

/-! ### Which changes show -/

/-- An input has the content that was compiled, or is newer than one of the files that were
generated. -/
def Dated (before : Option Bytes) (targets : List StampedFile)
    (input : Option StampedFile) : Prop :=
  input.map StampedFile.content = before ∨ ∃ target ∈ targets, newer input target = true

/-- Every input is dated, and both files were made from the same inputs. -/
structure History.AllDated (history : History) : Prop where
  same : history.paletteFrom = history.manifestFrom
  dated : ∀ manifest palette, history.launcher.manifest = some manifest →
    history.launcher.palette = some palette →
      Dated history.manifestFrom.compiler [manifest, palette] history.launcher.compiler ∧
      Dated history.manifestFrom.catalog [manifest, palette] history.launcher.catalog ∧
      Dated history.manifestFrom.override [palette] history.launcher.override

/-- **The events that date what they change**: a deployed file has the content that was compiled
last, or is newer than a generated file; so has an override that is saved; none is removed that was
compiled; and the compiler is not stopped between its two outputs. -/
def History.Dates (history : History) : Event → Prop
  | .deploy compiler catalog =>
      ∀ manifest palette, history.launcher.manifest = some manifest →
        history.launcher.palette = some palette →
          Dated history.manifestFrom.compiler [manifest, palette] (some compiler) ∧
            Dated history.manifestFrom.catalog [manifest, palette] (some catalog)
  | .save override now =>
      ∀ palette, history.launcher.palette = some palette →
        Dated history.manifestFrom.override [palette] (some ⟨override, now⟩)
  | .remove => history.manifestFrom.override = none
  | .launch answers => answers.emission.manifestTime.isSome = answers.emission.paletteTime.isSome

theorem History.allDated_empty : History.empty.AllDated where
  same := rfl
  dated := by
    intro manifest palette hmanifest
    cases hmanifest

/-- Such an event leaves every input dated. -/
theorem History.AllDated.step (h : history.AllDated) {event : Event}
    (hdates : history.Dates event) :
    (history.step ecl event).AllDated := by
  cases event with
  | deploy compiler catalog =>
      refine ⟨h.same, ?_⟩
      intro manifest palette hmanifest hpalette
      obtain ⟨hcompiler, hcatalog⟩ := hdates manifest palette hmanifest hpalette
      exact ⟨hcompiler, hcatalog, (h.dated manifest palette hmanifest hpalette).2.2⟩
  | save override now =>
      refine ⟨h.same, ?_⟩
      intro manifest palette hmanifest hpalette
      obtain ⟨hcompiler, hcatalog, -⟩ := h.dated manifest palette hmanifest hpalette
      exact ⟨hcompiler, hcatalog, hdates palette hpalette⟩
  | remove =>
      refine ⟨h.same, ?_⟩
      intro manifest palette hmanifest hpalette
      obtain ⟨hcompiler, hcatalog, -⟩ := h.dated manifest palette hmanifest hpalette
      exact ⟨hcompiler, hcatalog, Or.inl hdates.symm⟩
  | launch answers =>
      rcases @step_launch ecl history answers with ⟨outputs, -, hstep⟩ | hstep
      · rw [hstep]
        cases hemission : answers.emission with
        | nothing => exact ⟨h.same, h.dated⟩
        | paletteOnly time =>
            rw [Dates, hemission] at hdates
            cases hdates
        | both manifestTime paletteTime =>
            exact ⟨rfl, fun _ _ _ _ => ⟨Or.inl rfl, Or.inl rfl, Or.inl rfl⟩⟩
      · rwa [hstep]

/-- An input that is not newer has the content that was compiled. -/
theorem Dated.content {before : Option Bytes} {targets : List StampedFile}
    {input : Option StampedFile}
    (h : Dated before targets input) (hold : ∀ target ∈ targets, newer input target = false) :
    before = input.map StampedFile.content := by
  rcases h with hcontent | ⟨target, hmem, hnewer⟩
  · exact hcontent.symm
  · rw [hold target hmem] at hnewer
    cases hnewer

/-- Where every input is dated, a change shows. -/
theorem History.AllDated.changesShow (h : history.AllDated) (event : Event) :
    history.ChangesShow event := by
  cases event with
  | deploy compiler catalog => trivial
  | save override now => trivial
  | remove => trivial
  | launch answers =>
      rw [ChangesShow, h.same, and_self, or_iff_not_imp_left, Bool.not_eq_true, outdated]
      intro hnewer
      split at hnewer
      · rename_i manifest palette hmanifest hpalette
        obtain ⟨hcompiler, hcatalog, hoverride⟩ := h.dated manifest palette hmanifest hpalette
        simp only [outdates, List.any_cons, List.any_nil, Bool.or_eq_false_iff] at hnewer
        obtain ⟨⟨⟨hcatalogOld, hcatalogOld'⟩, ⟨hcompilerOld, hcompilerOld'⟩, -⟩, hoverrideOld⟩ :=
          hnewer
        rw [inputs, ← hcompiler.content (by simp [hcompilerOld, hcompilerOld']),
          ← hcatalog.content (by simp [hcatalogOld, hcatalogOld']),
          ← hoverride.content (by simp [hoverrideOld])]
      · cases hnewer

/-- **Where all events date what they change, every change shows.** -/
theorem changesShow_run (ecl : LispRuntime) (events : List Event)
    (h : Run.Each (History.step ecl) History.Dates .empty events) :
    Run.Each (History.step ecl) History.ChangesShow .empty events :=
  Run.each_mono (J := History.AllDated) (fun _ event hdated _ => hdated.changesShow event)
    (fun _ _ hdated => hdated.step)
    History.allDated_empty events h

/-! ### A checkout that is older than the launch -/

section Sample

/-- A catalog of one game. -/
def catalogText (title : String) : Bytes :=
  ascii "(:version 7 :palette (" ++
    (Uploader.paletteNames.flatMap fun name => ascii ":" ++ name ++ ascii " \"#000000\" ") ++
    ascii ") :games ((:id \"pong\" :title \"" ++ ascii title ++
    ascii "\" :system :chip8 :rom \"/mnt/data/roms/chip8/pong.ch8\" :color \"#5f87ff\")))"

/-- A runtime that knows the compiler of this repository only. -/
def deckRuntime : LispRuntime := fun _ catalog override =>
  CatalogCompiler.compileCatalog .latin1 catalog override

def deployed (title : String) (mtime : ℕ) : Event :=
  .deploy ⟨ascii "compiler", 100⟩ ⟨catalogText title, mtime⟩

/-- A launch in which nothing goes wrong. -/
def launchedAt (now : ℕ) : Event := .launch ⟨true, true, true, .both now now, true⟩

/-- A game gets another title in a file that was last modified before the first launch, and the menu
goes on showing the old one. -/
theorem not_reuseCoherent_older :
    ¬Run.Each (History.step deckRuntime) (ReuseCoherent deckRuntime) .empty
      [deployed "PONG" 100, launchedAt 200, deployed "TENNIS" 150, launchedAt 300] := by
  decide +kernel

/-- The file was modified after it. -/
theorem reuseCoherent_newer :
    Run.Each (History.step deckRuntime) (ReuseCoherent deckRuntime) .empty
      [deployed "PONG" 100, launchedAt 200, deployed "TENNIS" 250, launchedAt 300,
        launchedAt 400] :=
  reuseCoherent_run deckRuntime _ (by decide +kernel)

end Sample

end Launcher

end NesDeck
