/-
**Scripts of commands that may fail.**

A command of a shell script changes the state and reports a status.  In a chain of commands each of
which is followed by `|| return 1`, the first one that fails ends the chain; in a search, a body is
run for one item after the other until it reports success.

A triple says what is true after a command that succeeded and what is true after one that failed, so
that a chain is verified command by command although every one of them may be the last.

Main definitions:

* `Script.Command` — a command; `Script.chain`, `Script.orTrue`, `Script.branch`, `Script.search` —
  their composition;
* `Script.Triple` — what is true before a command and after it.

Main results:

* `Script.Triple.cons` — **the rule of a chain**;
* `Script.Keeps.chain` — what every command keeps, the chain keeps;
* `Script.chain_chain` — a chain in a chain;
* `Script.search_invariant` — what every body keeps, the search keeps;
* `Script.search_eq_false` — a search of which no body succeeds does not succeed.
-/

import Mathlib.Data.List.Basic

set_option relaxedAutoImplicit false
set_option autoImplicit false

namespace Script

variable {σ α : Type}

/-- A command: the state after it, and whether it succeeded. -/
abbrev Command (σ : Type) : Type := σ → σ × Bool

/-- `c₁ || return 1; c₂ || return 1; …`. -/
def chain : List (Command σ) → Command σ
  | [], s => (s, true)
  | c :: cs, s => if (c s).2 then chain cs (c s).1 else ((c s).1, false)

/-- `c || true`. -/
def orTrue (c : Command σ) : Command σ := fun s => ((c s).1, true)

/-- `if condition; then …; else …; fi`. -/
def branch (condition body other : Command σ) : Command σ := fun s =>
  if (condition s).2 = true then body (condition s).1 else other (condition s).1

/-- `! command`. -/
def negate (command : Command σ) : Command σ := fun s => ((command s).1, !(command s).2)

def skip : Command σ := fun s => (s, true)

/-- `exit 1`. -/
def exit : Command σ := fun s => (s, false)

/-- A body is run for one item after the other until it succeeds. -/
def search (body : α → Command σ) : List α → Command σ
  | [], s => (s, false)
  | x :: xs, s => if (body x s).2 then ((body x s).1, true) else search body xs (body x s).1

/-! ### Triples -/

/-- From a state with `P`, the command succeeds in a state with `Q` or fails in one with `E`. -/
structure Triple (P : σ → Prop) (c : Command σ) (Q E : σ → Prop) : Prop where
  success : ∀ s, P s → (c s).2 = true → Q (c s).1
  failure : ∀ s, P s → (c s).2 = false → E (c s).1

namespace Triple

variable {P Q R E : σ → Prop} {c : Command σ} {cs : List (Command σ)}

/-- Nothing is done. -/
theorem nil : Triple P (chain []) P E where
  success := fun _ h _ => h
  failure := by
    intro s _ hfail
    cases hfail

/-- **The rule of a chain.** -/
theorem cons (hc : Triple P c Q E) (hcs : Triple Q (chain cs) R E) :
    Triple P (chain (c :: cs)) R E where
  success := by
    intro s hs hok
    unfold chain at hok ⊢
    cases hstatus : (c s).2 with
    | true =>
        simp only [hstatus, if_true] at hok ⊢
        exact hcs.success _ (hc.success s hs hstatus) hok
    | false =>
        rw [hstatus] at hok
        cases hok
  failure := by
    intro s hs hfail
    unfold chain at hfail ⊢
    cases hstatus : (c s).2 with
    | true =>
        simp only [hstatus, if_true] at hfail ⊢
        exact hcs.failure _ (hc.success s hs hstatus) hfail
    | false =>
        simp only [Bool.false_eq_true, if_false]
        exact hc.failure s hs hstatus

/-- A status that is not looked at. -/
theorem orTrue (hc : Triple P c Q Q) : Triple P (orTrue c) Q E where
  success := by
    intro s hs _
    cases hstatus : (c s).2 with
    | true => exact hc.success s hs hstatus
    | false => exact hc.failure s hs hstatus
  failure := by
    intro s _ hfail
    cases hfail

/-- Whatever the status is. -/
theorem always (hc : Triple P c Q Q) {s : σ} (hs : P s) : Q (c s).1 := by
  cases hstatus : (c s).2 with
  | true => exact hc.success s hs hstatus
  | false => exact hc.failure s hs hstatus

end Triple

/-! ### What every command keeps -/

variable {I : σ → Prop}

/-- The command keeps the property, whatever its status is. -/
def Keeps (I : σ → Prop) (c : Command σ) : Prop := ∀ s, I s → I (c s).1

theorem Keeps.orTrue {c : Command σ} (hc : Keeps I c) : Keeps I (orTrue c) := hc

/-- **What every command keeps, the chain keeps**, wherever it ends. -/
theorem Keeps.chain {cs : List (Command σ)} (hcs : ∀ c ∈ cs, Keeps I c) : Keeps I (chain cs) := by
  induction cs with
  | nil => exact fun s hs => hs
  | cons c cs ih =>
      intro s hs
      have hnext := hcs c List.mem_cons_self s hs
      unfold Script.chain
      split
      · exact ih (fun d hd => hcs d (List.mem_cons_of_mem _ hd)) _ hnext
      · exact hnext

/-- A chain in a chain. -/
theorem chain_chain (cs ds : List (Command σ)) :
    Script.chain (Script.chain cs :: ds) = Script.chain (cs ++ ds) := by
  funext s
  induction cs generalizing s with
  | nil => rfl
  | cons c cs ih =>
      have hih := ih (c s).1
      by_cases hok : (c s).2 = true
      · simp only [List.cons_append, Script.chain, hok, if_true] at hih ⊢
        exact hih
      · simp only [List.cons_append, Script.chain, hok, if_false, Bool.false_eq_true]

/-! ### Searches -/

variable {body : α → Command σ}

/-- **What every body keeps, the search keeps.** -/
theorem search_invariant {xs : List α} (hbody : ∀ x ∈ xs, ∀ s, I s → I (body x s).1) {s : σ}
    (hs : I s) : I (search body xs s).1 := by
  induction xs generalizing s with
  | nil => exact hs
  | cons x xs ih =>
      have hnext := hbody x List.mem_cons_self s hs
      unfold search
      split
      · exact hnext
      · exact ih (fun y hy => hbody y (List.mem_cons_of_mem _ hy)) hnext

/-- A search of which no body succeeds does not succeed. -/
theorem search_eq_false {xs : List α} (hbody : ∀ x ∈ xs, ∀ s, (body x s).2 = false) (s : σ) :
    (search body xs s).2 = false := by
  induction xs generalizing s with
  | nil => rfl
  | cons x xs ih =>
      unfold search
      rw [if_neg (by simp [hbody x List.mem_cons_self s])]
      exact ih (fun y hy => hbody y (List.mem_cons_of_mem _ hy)) _

end Script
