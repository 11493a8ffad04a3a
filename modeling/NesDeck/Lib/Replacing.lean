/-
**A file that is replaced at once.**

A program writes the new content of a file into a temporary one, draft after draft, and renames that
in the end, or removes it, or cannot even do that. It may be killed after any of its calls: what it
leaves then is one of the states between them.

Main definitions:

* `Replacing.Ending` — what becomes of the temporary file;
* `Replacing.states` — the files after each of the calls;
* `Replacing.after` — the files in the end.

Main results:

* `Replacing.mem_states` — **whenever the program is killed, the file has its old content or all of
  the new one**, and no other file but the temporary one is touched;
* `Replacing.after_spec` — what is there in the end.
-/

import NesDeck.Lib.FileStore

set_option relaxedAutoImplicit false
set_option autoImplicit false

namespace Replacing

open FileStore (Files write remove rename)

variable {Path Content : Type} [DecidableEq Path]

inductive Ending where
  | publish
  | discard
  | leave
  deriving DecidableEq

/-- The files after the last call, when the temporary file has its last draft. -/
def close (staged : Files Path Content) (temporary path : Path) : Ending → List (Files Path Content)
  | .publish => [(rename staged temporary path).getD staged]
  | .discard => [remove staged temporary]
  | .leave => []

/-- The files after each of the calls, with at least one draft. -/
def states (files : Files Path Content) (temporary path : Path) (ending : Ending) :
    (draft : Content) → (drafts : List Content) → List (Files Path Content)
  | draft, [] =>
      write files temporary draft :: close (write files temporary draft) temporary path ending
  | draft, next :: drafts =>
      write files temporary draft :: states files temporary path ending next drafts

/-- The files in the end. -/
def after (files : Files Path Content) (visited : List (Files Path Content)) : Files Path Content :=
  visited.getLast?.getD files

omit [DecidableEq Path] in
/-- What is there in the end was there after the last call. -/
theorem after_mem (files : Files Path Content) (visited : List (Files Path Content)) :
    after files visited ∈ files :: visited := by
  rw [after]
  cases hlast : visited.getLast? with
  | none => exact List.mem_cons_self
  | some last => exact List.mem_cons_of_mem _ (List.mem_of_getLast? hlast)

omit [DecidableEq Path] in
/-- One replacement after the other. -/
theorem after_append (files : Files Path Content) (first second : List (Files Path Content)) :
    after files (first ++ second) = after (after files first) second := by
  rw [after, after, after, List.getLast?_append]
  cases second.getLast? with
  | none => rfl
  | some last => rfl

section Spec

variable {files : Files Path Content} {temporary path : Path} {ending : Ending} {draft : Content}
  {drafts : List Content}

/-- **Whenever the program is killed**, the file has its old content or the last draft, and the
others are as they were. -/
theorem mem_states (hne : temporary ≠ path) (hfree : files temporary = none)
    {state : Files Path Content} (h : state ∈ states files temporary path ending draft drafts) :
    (state path = files path ∨
        ending = .publish ∧ state path = some ((draft :: drafts).getLast (List.cons_ne_nil _ _))) ∧
      ∀ other, other ≠ path → other ≠ temporary → state other = files other := by
  have hwrite : ∀ content : Content, write files temporary content path = files path :=
    fun content => FileStore.write_of_ne content (Ne.symm hne)
  have hothers : ∀ (content : Content) (other : Path), other ≠ temporary →
      write files temporary content other = files other :=
    fun content other hother => FileStore.write_of_ne content hother
  induction drafts generalizing draft with
  | nil =>
      rcases List.mem_cons.1 h with rfl | h
      · exact ⟨Or.inl (hwrite draft), fun other _ => hothers draft other⟩
      · cases ending with
        | publish =>
            obtain rfl := List.mem_singleton.1 h
            rw [FileStore.rename_temporary hfree hne, Option.getD_some]
            exact ⟨Or.inr ⟨rfl, FileStore.write_same _ _ _⟩,
              fun other hother _ => FileStore.write_of_ne draft hother⟩
        | discard =>
            obtain rfl := List.mem_singleton.1 h
            rw [FileStore.remove_write draft hfree]
            exact ⟨Or.inl rfl, fun _ _ _ => rfl⟩
        | leave => cases h
  | cons next drafts ih =>
      rcases List.mem_cons.1 h with rfl | h
      · exact ⟨Or.inl (hwrite draft), fun other _ => hothers draft other⟩
      · rw [List.getLast_cons (List.cons_ne_nil next drafts)]
        exact ih h

/-- **What is there in the end**: the last draft, or nothing new but a temporary file that could not
be removed. -/
theorem after_spec (hne : temporary ≠ path) (hfree : files temporary = none) :
    after files (states files temporary path ending draft drafts) =
      match ending with
      | .publish => write files path ((draft :: drafts).getLast (List.cons_ne_nil _ _))
      | .discard => files
      | .leave => write files temporary ((draft :: drafts).getLast (List.cons_ne_nil _ _)) := by
  induction drafts generalizing draft with
  | nil =>
      cases ending with
      | publish => exact congrArg (Option.getD · _) (FileStore.rename_temporary hfree hne)
      | discard => exact FileStore.remove_write draft hfree
      | leave => rfl
  | cons next drafts ih =>
      have hstates : states files temporary path ending next drafts ≠ [] := by
        cases drafts with
        | nil => exact List.cons_ne_nil _ _
        | cons third drafts => exact List.cons_ne_nil _ _
      have hlast : after files (states files temporary path ending draft (next :: drafts)) =
          after files (states files temporary path ending next drafts) := by
        rw [after, after, states, List.getLast?_cons, List.getLast?_eq_some_getLast hstates]
        rfl
      rw [hlast, ih, List.getLast_cons (List.cons_ne_nil next drafts)]

end Spec

end Replacing
