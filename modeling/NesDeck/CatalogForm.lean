/-
**The forms of the catalog compiler.**

`compile-catalog.lisp` reads its catalog with the Common Lisp reader, and then takes the form apart:
lists of a bounded length, and property lists whose keys must be the expected ones.  A form that is
not a proper list, or that repeats a key, is refused with an error that names the place.

Main definitions:

* `NesDeck.CatalogCompiler.Form` — what the reader returns;
* `NesDeck.CatalogCompiler.FormError` — the errors of the compiler;
* `NesDeck.CatalogCompiler.boundedListElements`, `NesDeck.CatalogCompiler.decodePlist` — lists and
  property lists.

Main results:

* `NesDeck.CatalogCompiler.boundedListElements_iff` — the lists that are taken apart;
* `NesDeck.CatalogCompiler.decodePlist_spec` — **a decoded property list has every required key, no
  unknown one and none twice**;
* `NesDeck.CatalogCompiler.decodePlist_ofPairs` — and every such list is decoded.
-/

import Mathlib.Data.Int.Notation
import Mathlib.Data.List.Nodup
import Mathlib.Data.List.Perm.Subperm
import NesDeck.Lib.HostFile

set_option relaxedAutoImplicit false
set_option autoImplicit false

namespace NesDeck.CatalogCompiler

open HostFile (Bytes ascii)

/-! ### Forms -/

/-- An object that the reader makes; it reads symbols in upper case.  Objects of other kinds, a
number that is not an integer for instance, are kept by their text. -/
inductive Form where
  | nil
  | cons (first rest : Form)
  | symbol (package name : List Char)
  | string (text : List Char)
  | integer (value : ℤ)
  | other (text : List Char)
  deriving DecidableEq

def Form.keyword (name : String) : Form := .symbol "KEYWORD".toList name.toList

/-- The form of a list. -/
def Form.ofList : List Form → Form
  | [] => .nil
  | first :: rest => .cons first (ofList rest)

/-- The reasons for which the compiler refuses a catalog. -/
inductive FormError where
  | empty (context : Bytes)
  | notProper (context : Bytes)
  | tooLong (context : Bytes) (limit : ℕ)
  | keyWithoutValue (context : Bytes)
  | unknownKey (context : Bytes) (key : Form)
  | duplicateKey (context : Bytes) (key : Form)
  | missingKey (context : Bytes) (key : Form)
  | textField (name : Bytes) (maximum : ℕ)
  | untrimmed (name : Bytes)
  | id
  | system
  | unsupportedSystem (system : Form)
  | romPath (extension : Option (List Char)) (root : List Char)
  | colorShape
  | colorPalette
  | paletteColor (key : Form)
  | version (value : Form) (expected : ℕ)
  | duplicateGame (field : Bytes) (value : List Char)
  deriving DecidableEq

/-- The characters of a text that is written out. -/
def writeString (text : List Char) : Bytes := text.flatMap String.utf8EncodeChar

/-- The text of the error; `prin1` prints a form. -/
def FormError.message (prin1 : Form → Bytes) (error : FormError) : Bytes :=
  ascii "Catalog error: " ++
    match error with
    | empty context => context ++ ascii " must not be empty"
    | notProper context => context ++ ascii " must be a proper list"
    | tooLong context limit =>
        context ++ ascii (" exceeds the limit of " ++ toString limit ++ " elements or is circular")
    | keyWithoutValue context => context ++ ascii " has a key without a value"
    | unknownKey context key => context ++ ascii " contains unknown key " ++ prin1 key
    | duplicateKey context key => context ++ ascii " contains duplicate key " ++ prin1 key
    | missingKey context key => context ++ ascii " is missing key " ++ prin1 key
    | textField name maximum =>
        name ++ ascii (" must be 1 to " ++ toString maximum ++
          " printable ASCII characters with no tabs or newlines")
    | untrimmed name => name ++ ascii " must not have leading or trailing spaces"
    | id => ascii "game :id must use lowercase letters, digits, and single interior hyphens"
    | system => ascii "game :system must be one of :nes, :gb, :gbc, :zx, :chip8, or :deck"
    | unsupportedSystem form => ascii "unsupported game system " ++ prin1 form
    | romPath (some extension) root =>
        ascii "game :rom must be a normalized " ++ writeString extension ++ ascii " path below " ++
          writeString root
    | romPath none root => ascii "game :rom must be a normalized path below " ++ writeString root
    | colorShape => ascii "game :color must have the form #RRGGBB"
    | colorPalette => ascii "game :color must be from the xterm-256 palette"
    | paletteColor key => ascii "palette " ++ prin1 key ++ ascii " must have the form #RRGGBB"
    | version value expected =>
        ascii "unsupported :version " ++ prin1 value ++ ascii ("; expected " ++ toString expected)
    | duplicateGame field value =>
        ascii "duplicate game " ++ field ++ ascii " " ++ prin1 (.string value)

/-! ### Lists -/

/-- The loop over a list; `result` is reversed. -/
def boundedListLoop (limit : ℕ) (context : Bytes) (allowEmpty : Bool) :
    Form → (result : List Form) → Except FormError (List Form)
  | .nil, result =>
      if result = [] ∧ allowEmpty = false then .error (.empty context) else .ok result.reverse
  | .cons first rest, result =>
      if limit ≤ result.length then .error (.tooLong context limit)
      else boundedListLoop limit context allowEmpty rest (first :: result)
  | _, _ => .error (.notProper context)

def boundedListElements (value : Form) (limit : ℕ) (context : Bytes) (allowEmpty : Bool) :
    Except FormError (List Form) :=
  boundedListLoop limit context allowEmpty value []

theorem boundedListLoop_iff {limit : ℕ} {context : Bytes} {allowEmpty : Bool} {value : Form}
    {result elements : List Form} (hresult : result.length ≤ limit) :
    boundedListLoop limit context allowEmpty value result = .ok elements ↔
      ∃ rest, value = .ofList rest ∧ elements = result.reverse ++ rest ∧
        elements.length ≤ limit ∧ (elements = [] → allowEmpty = true) := by
  induction value generalizing result with
  | nil =>
      constructor
      · intro h
        rw [boundedListLoop] at h
        split at h
        · cases h
        rename_i hallowed
        cases h
        refine ⟨[], rfl, (List.append_nil _).symm, by rwa [List.length_reverse], ?_⟩
        intro hnil
        rw [not_and, Bool.not_eq_false] at hallowed
        exact hallowed (List.reverse_eq_nil_iff.1 hnil)
      · rintro ⟨rest, hrest, rfl, -, hallowed⟩
        cases rest with
        | cons first rest => cases hrest
        | nil =>
            rw [List.append_nil] at hallowed ⊢
            rw [boundedListLoop, if_neg]
            rintro ⟨rfl, hempty⟩
            rw [hallowed rfl] at hempty
            cases hempty
  | cons first tail _ ih =>
      constructor
      · intro h
        rw [boundedListLoop] at h
        split at h
        · cases h
        rename_i hroom
        obtain ⟨rest, rfl, rfl, hbound, hallowed⟩ :=
          (ih (by rw [List.length_cons]; omega)).1 h
        rw [List.reverse_cons, List.append_assoc, List.singleton_append] at hbound hallowed ⊢
        exact ⟨first :: rest, rfl, rfl, hbound, hallowed⟩
      · rintro ⟨rest, hrest, rfl, hbound, hallowed⟩
        cases rest with
        | nil => cases hrest
        | cons other rest =>
            cases hrest
            have hroom : ¬ limit ≤ result.length := by
              rw [List.length_append, List.length_reverse, List.length_cons] at hbound
              omega
            rw [boundedListLoop, if_neg hroom,
              ih (by rw [List.length_cons]; omega)]
            refine ⟨rest, rfl, ?_, hbound, hallowed⟩
            rw [List.reverse_cons, List.append_assoc, List.singleton_append]
  | symbol package name => exact ⟨nofun, by rintro ⟨_ | _, hrest, -⟩ <;> cases hrest⟩
  | string text => exact ⟨nofun, by rintro ⟨_ | _, hrest, -⟩ <;> cases hrest⟩
  | integer value => exact ⟨nofun, by rintro ⟨_ | _, hrest, -⟩ <;> cases hrest⟩
  | other text => exact ⟨nofun, by rintro ⟨_ | _, hrest, -⟩ <;> cases hrest⟩

/-- The lists that are taken apart: proper ones of at most `limit` elements. -/
theorem boundedListElements_iff {limit : ℕ} {context : Bytes} {allowEmpty : Bool} {value : Form}
    {elements : List Form} :
    boundedListElements value limit context allowEmpty = .ok elements ↔
      value = .ofList elements ∧ elements.length ≤ limit ∧ (elements = [] → allowEmpty = true) := by
  rw [boundedListElements, boundedListLoop_iff (Nat.zero_le _)]
  constructor
  · rintro ⟨rest, hvalue, helements, hrest⟩
    rw [List.reverse_nil, List.nil_append] at helements
    exact ⟨helements ▸ hvalue, hrest⟩
  · rintro ⟨hvalue, hrest⟩
    exact ⟨elements, hvalue, rfl, hrest⟩

/-! ### Property lists -/

/-- The loop over the keys and values; `pairs` is reversed. -/
def decodePairs (allowedKeys : List Form) (context : Bytes) :
    (elements : List Form) → (pairs : List (Form × Form)) → Except FormError (List (Form × Form))
  | key :: fieldValue :: elements, pairs =>
      if key ∉ allowedKeys then .error (.unknownKey context key)
      else if (pairs.lookup key).isSome then .error (.duplicateKey context key)
      else decodePairs allowedKeys context elements ((key, fieldValue) :: pairs)
  | _, pairs => .ok pairs

def decodePlist (value : Form) (allowedKeys : List Form) (context : Bytes)
    (requiredKeys : List Form) : Except FormError (List (Form × Form)) :=
  match boundedListElements value (2 + 2 * allowedKeys.length) context false with
  | .error error => .error error
  | .ok elements =>
      if elements.length % 2 ≠ 0 then .error (.keyWithoutValue context)
      else
        match decodePairs allowedKeys context elements [] with
        | .error error => .error error
        | .ok pairs =>
            match requiredKeys.find? fun key => (pairs.lookup key).isNone with
            | some key => .error (.missingKey context key)
            | none => .ok pairs.reverse

/-- A key without a value has the value `nil`. -/
def requiredValue (key : Form) (pairs : List (Form × Form)) : Form := (pairs.lookup key).getD .nil

/-- A key is found exactly if it is the key of a pair. -/
theorem isSome_lookup_iff {pairs : List (Form × Form)} {key : Form} :
    (pairs.lookup key).isSome = true ↔ key ∈ pairs.map Prod.fst := by
  induction pairs with
  | nil => simp
  | cons pair pairs ih =>
      rw [List.lookup_cons, List.map_cons, List.mem_cons]
      by_cases heq : key = pair.1
      · simp [heq]
      · have hbeq : (key == pair.1) = false := beq_false_of_ne heq
        rw [hbeq, ih]
        simp [heq]

theorem decodePairs_spec {allowedKeys : List Form} {context : Bytes} {elements : List Form}
    {pairs result : List (Form × Form)}
    (h : decodePairs allowedKeys context elements pairs = .ok result)
    (hallowed : ∀ key ∈ pairs.map Prod.fst, key ∈ allowedKeys)
    (hnodup : (pairs.map Prod.fst).Nodup) :
    (∀ key ∈ result.map Prod.fst, key ∈ allowedKeys) ∧ (result.map Prod.fst).Nodup := by
  fun_induction decodePairs allowedKeys context elements pairs with
  | case1 => cases h
  | case2 => cases h
  | case3 pairs key fieldValue elements hknown hnew ih =>
      rw [not_not] at hknown
      rw [Bool.not_eq_true, ← Bool.not_eq_true, isSome_lookup_iff] at hnew
      refine ih h ?_ ?_
      · intro other hmem
        rw [List.map_cons, List.mem_cons] at hmem
        rcases hmem with rfl | hmem
        · exact hknown
        · exact hallowed other hmem
      · exact List.nodup_cons.2 ⟨hnew, hnodup⟩
  | case4 =>
      cases h
      exact ⟨hallowed, hnodup⟩

/-- **A decoded property list** has every required key, no unknown one and none twice. -/
theorem decodePlist_spec {value : Form} {allowedKeys requiredKeys : List Form} {context : Bytes}
    {pairs : List (Form × Form)}
    (h : decodePlist value allowedKeys context requiredKeys = .ok pairs) :
    (∀ key ∈ pairs.map Prod.fst, key ∈ allowedKeys) ∧ (pairs.map Prod.fst).Nodup ∧
      ∀ key ∈ requiredKeys, key ∈ pairs.map Prod.fst := by
  rw [decodePlist] at h
  split at h
  · cases h
  split at h
  · cases h
  split at h
  · cases h
  rename_i result hresult
  split at h
  · cases h
  rename_i hrequired
  cases h
  obtain ⟨hallowed, hnodup⟩ :=
    decodePairs_spec hresult (fun _ hmem => absurd hmem List.not_mem_nil) List.nodup_nil
  rw [List.find?_eq_none] at hrequired
  refine ⟨?_, ?_, ?_⟩
  · intro key hmem
    rw [List.map_reverse, List.mem_reverse] at hmem
    exact hallowed key hmem
  · rw [List.map_reverse]
    exact List.nodup_reverse.2 hnodup
  · intro key hmem
    have hfound := hrequired key hmem
    rw [Bool.not_eq_true, Option.isNone_eq_false_iff, isSome_lookup_iff] at hfound
    rw [List.map_reverse]
    exact List.mem_reverse.2 hfound

/-- The keys and values of pairs, one after the other. -/
def plist (pairs : List (Form × Form)) : List Form := pairs.flatMap fun pair => [pair.1, pair.2]

theorem length_plist (pairs : List (Form × Form)) : (plist pairs).length = 2 * pairs.length := by
  induction pairs with
  | nil => rfl
  | cons pair pairs ih =>
      rw [plist, List.flatMap_cons, ← plist, List.length_append, ih, List.length_cons]
      simp only [List.length_cons, List.length_nil]
      omega

/-- The loop over pairs with new keys that are allowed. -/
theorem decodePairs_plist {allowedKeys : List Form} {context : Bytes}
    {pairs before : List (Form × Form)} (hallowed : ∀ pair ∈ pairs, pair.1 ∈ allowedKeys)
    (hnodup : (pairs.map Prod.fst).Nodup)
    (hnew : ∀ pair ∈ pairs, pair.1 ∉ before.map Prod.fst) :
    decodePairs allowedKeys context (plist pairs) before = .ok (pairs.reverse ++ before) := by
  induction pairs generalizing before with
  | nil => rfl
  | cons pair pairs ih =>
      obtain ⟨hkey, hallowed⟩ := List.forall_mem_cons.1 hallowed
      obtain ⟨hfirst, hnew⟩ := List.forall_mem_cons.1 hnew
      rw [List.map_cons, List.nodup_cons] at hnodup
      have hstep : plist (pair :: pairs) = pair.1 :: pair.2 :: plist pairs := rfl
      rw [hstep, decodePairs, if_neg (not_not.2 hkey), if_neg (by rwa [isSome_lookup_iff]),
        ih hallowed hnodup.2, List.reverse_cons, List.append_assoc, List.singleton_append]
      intro other hother hmem
      rw [List.map_cons, List.mem_cons] at hmem
      rcases hmem with heq | hmem
      · exact hnodup.1 (List.mem_map.2 ⟨other, hother, heq⟩)
      · exact hnew other hother hmem

/-- **Every property list** with the required keys, no unknown one and none twice is decoded. -/
theorem decodePlist_ofPairs {allowedKeys requiredKeys : List Form} (context : Bytes)
    {pairs : List (Form × Form)} (hallowed : ∀ pair ∈ pairs, pair.1 ∈ allowedKeys)
    (hnodup : (pairs.map Prod.fst).Nodup) (hne : pairs ≠ [])
    (hrequired : ∀ key ∈ requiredKeys, key ∈ pairs.map Prod.fst) :
    decodePlist (.ofList (plist pairs)) allowedKeys context requiredKeys = .ok pairs := by
  have hlength := length_plist pairs
  have hfew : pairs.length ≤ allowedKeys.length := by
    have hsubperm := List.Nodup.subperm hnodup (List.forall_mem_map.2 hallowed)
    rw [← List.length_map (f := Prod.fst)]
    exact hsubperm.length_le
  have hpos := List.length_pos_iff.2 hne
  have helements : boundedListElements (.ofList (plist pairs)) (2 + 2 * allowedKeys.length) context
      false = .ok (plist pairs) := by
    refine boundedListElements_iff.2 ⟨rfl, by omega, ?_⟩
    intro hnil
    rw [hnil, List.length_nil] at hlength
    omega
  have hpairs : decodePairs allowedKeys context (plist pairs) [] = .ok (pairs.reverse ++ []) :=
    decodePairs_plist hallowed hnodup fun _ _ => List.not_mem_nil
  have hfound : (requiredKeys.find? fun key => (pairs.reverse.lookup key).isNone) = none := by
    refine List.find?_eq_none.2 fun key hkey => ?_
    rw [Bool.not_eq_true, Option.isNone_eq_false_iff, isSome_lookup_iff, List.map_reverse]
    exact List.mem_reverse.2 (hrequired key hkey)
  rw [decodePlist, helements]
  dsimp only
  rw [if_neg (by omega), hpairs]
  dsimp only
  rw [List.append_nil, hfound]
  dsimp only
  rw [List.reverse_reverse]

/-- A key has the value of its pair. -/
theorem lookup_of_mem {pairs : List (Form × Form)} (hnodup : (pairs.map Prod.fst).Nodup)
    {key value : Form} (h : (key, value) ∈ pairs) : pairs.lookup key = some value := by
  induction pairs with
  | nil => exact absurd h List.not_mem_nil
  | cons pair pairs ih =>
      rw [List.map_cons, List.nodup_cons] at hnodup
      rw [List.lookup_cons]
      rcases List.mem_cons.1 h with rfl | hmem
      · rw [beq_self_eq_true]
      · have hne : key ≠ pair.1 := by
          rintro rfl
          exact hnodup.1 (List.mem_map.2 ⟨_, hmem, rfl⟩)
        rw [beq_false_of_ne hne]
        exact ih hnodup.2 hmem

end NesDeck.CatalogCompiler
