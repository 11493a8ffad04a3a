/-
**The scene of the Retro Deck.**

Every activation adds a scene with the Retro Deck to the configuration of the dashboard, unless a
scene has it already (`uploader/bmc_scene.go`). The configuration is decoded into a map of raw
messages, which are written out again as they are, but for the white space and the way some
characters are escaped.

Of `encoding/json` the syntax is modelled; a raw message is the syntax tree of its text. What a
string means and how it is escaped are parameters, with what the documentation promises. The calls
that can fail are given, and so are the random bytes.

Main definitions:

* `NesDeck.Uploader.BmcScene.JsonStrings` — the strings of `encoding/json`;
* `NesDeck.Uploader.BmcScene.installBmcScene` — the installation;
* `NesDeck.Uploader.BmcScene.Extends` — the configuration with one more scene, and otherwise
  unchanged;
* `NesDeck.Uploader.BmcScene.Fits` — the configuration leaves room for the scene.

Main results:

* `NesDeck.Uploader.BmcScene.updateConfig_spec` — what is written extends what was read;
* `NesDeck.Uploader.BmcScene.length_updatedConfig` — its size;
* `NesDeck.Uploader.BmcScene.installBmcScene_installed_iff` — **an installation can be repeated
  exactly if the configuration leaves room for the scene**.
-/

import NesDeck.Lib.Hex
import NesDeck.Lib.JsonText
import NesDeck.Lib.Table
import NesDeck.Uploader.Store

set_option relaxedAutoImplicit false
set_option autoImplicit false

namespace NesDeck.Uploader.BmcScene

open HostFile (Bytes ascii)
open FileStore
open Json (Node)

/-! ### Strings -/

/-- A text without quotes, and without anything that is escaped. -/
def Plain (text : Bytes) : Prop :=
  ∀ b ∈ text, 0x20 ≤ b ∧ b < 0x7f ∧ b ∉ [0x22, 0x5c, 0x3c, 0x3e, 0x26]

instance (text : Bytes) : Decidable (Plain text) := List.decidableBAll _ text

/-- A text between quotes. -/
def quoted (text : Bytes) : Bytes := 0x22 :: text ++ [0x22]

/-- The strings of `encoding/json`: what a string means, how `Marshal` writes it, and how it is
written out as a part of a raw message. -/
structure JsonStrings where
  unquote : Bytes → Bytes
  quote : Bytes → Bytes
  compact : Bytes → Bytes
  quote_plain : ∀ text, Plain text → quote text = quoted text
  unquote_quoted : ∀ text, Plain text → unquote (quoted text) = text
  compact_quoted : ∀ text, Plain text → compact (quoted text) = quoted text
  isString_compact : ∀ text, Json.isString text = true → Json.isString (compact text) = true
  unquote_compact : ∀ text, Json.isString text = true → unquote (compact text) = unquote text
  isString_quote : ∀ text, Json.isString text = true → Json.isString (quote (unquote text)) = true
  unquote_quote : ∀ text, Json.isString text = true → unquote (quote (unquote text)) = unquote text

/-- The value of a literal. -/
inductive Scalar where
  | string (text : Bytes)
  | other (text : Bytes)
  deriving DecidableEq

namespace JsonStrings

variable (strings : JsonStrings)

def meaning (text : Bytes) : Scalar :=
  if Json.isString text = true then .string (strings.unquote text) else .other text

/-- The JSON value of a raw message. -/
def value (t : Node Bytes) : Node Scalar := t.map strings.meaning

def compactText (text : Bytes) : Bytes :=
  if Json.isString text = true then strings.compact text else text

/-- A raw message as it is written out. -/
def compacted (t : Node Bytes) : Node Bytes := t.map strings.compactText

end JsonStrings

/-! ### Decoding -/

/-- `maxNestingDepth` of `encoding/json`. -/
def maxNestingDepth : ℕ := 10000

def isNull (text : Bytes) : Bool := text = ascii "null"

/-- `json.Unmarshal` into a map of raw messages.  A key that comes again replaces the value. -/
def unmarshalMap (strings : JsonStrings) : Node Bytes → Option (Table Bytes (Node Bytes))
  | .object members => some (members.foldl (fun map m => map.set (strings.unquote m.1) m.2) .empty)
  | .literal text => if isNull text = true then some .empty else none
  | .array _ => none

/-- `json.Unmarshal` into a list of raw messages. -/
def unmarshalList : Node Bytes → Option (List (Node Bytes))
  | .array items => some items
  | .literal text => if isNull text = true then some [] else none
  | .object _ => none

/-- `foldName`: the small letters, and the two characters outside ASCII that are taken for
letters. -/
def foldName : Bytes → Bytes
  | [] => []
  | 0xc5 :: 0xbf :: rest => 0x53 :: foldName rest
  | 0xe2 :: 0x84 :: 0xaa :: rest => 0x4b :: foldName rest
  | b :: rest => (if 0x61 ≤ b ∧ b ≤ 0x7a then b - 0x20 else b) :: foldName rest

/-- The key of a field, in capital or small letters. -/
def matchesField (name : String) : Scalar → Bool
  | .string key => foldName key = foldName (ascii name)
  | .other _ => false

/-- A field of type `string`, which `null` leaves alone. -/
def unmarshalString (old : Bytes) : Node Scalar → Option Bytes
  | .literal (.string text) => some text
  | .literal (.other text) => if isNull text = true then some old else none
  | _ => none

/-- The `widget_type_id` of a widget. -/
def unmarshalWidget : Node Scalar → Option Bytes
  | .object members =>
      members.foldlM (fun id m =>
        if matchesField "widget_type_id" m.1 = true then unmarshalString id m.2 else some id) []
  | .literal (.other text) => if isNull text = true then some [] else none
  | _ => none

def unmarshalWidgets : Node Scalar → Option (List Bytes)
  | .array items => items.mapM unmarshalWidget
  | .literal (.other text) => if isNull text = true then some [] else none
  | _ => none

/-- The widgets of a scene, each by its `widget_type_id`. -/
def unmarshalScene : Node Scalar → Option (List Bytes)
  | .object members =>
      members.foldlM (fun ids m =>
        if matchesField "widgets" m.1 = true then unmarshalWidgets m.2 else some ids) []
  | .literal (.other text) => if isNull text = true then some [] else none
  | _ => none

/-! ### The new scene -/

def retroDeckWidgetUid : Bytes := ascii "73219c9d-f1ef-41dc-960c-d0711e42a6ac"

def maximumBmcConfigSize : ℕ := 4 * 1024 * 1024

/-- Sixteen bytes from `rand.Read`. -/
structure RandomBytes where
  bytes : Bytes
  size : bytes.length = 16

def randomUuid (random : RandomBytes) : Bytes :=
  let value := random.bytes.set 6 ((random.bytes.getD 6 0 &&& 0x0f) ||| 0x40)
  let value := value.set 8 ((value.getD 8 0 &&& 0x3f) ||| 0x80)
  let encoded := Hex.encode value
  encoded.take 8 ++ ascii "-" ++ (encoded.drop 8).take 4 ++ ascii "-" ++ (encoded.drop 12).take 4 ++
    ascii "-" ++ (encoded.drop 16).take 4 ++ ascii "-" ++ (encoded.drop 20).take 12

section

variable (quote : Bytes → Bytes)

/-- `json.Marshal` of a `bmcSceneWidget`. -/
def bmcSceneWidget (id placement widgetTypeId viewportShape : Bytes) : Node Bytes :=
  .object
    [(quoted (ascii "id"), .literal (quote id)),
     (quoted (ascii "row"), .literal (ascii "0")),
     (quoted (ascii "col"), .literal (ascii "0")),
     (quoted (ascii "placement"), .literal (quote placement)),
     (quoted (ascii "widget_type_id"), .literal (quote widgetTypeId)),
     (quoted (ascii "viewport_shape"), .literal (quote viewportShape)),
     (quoted (ascii "params"), .object [])]

/-- `json.Marshal` of a `bmcScene`. -/
def bmcScene (id kind : Bytes) (widgets : List (Node Bytes)) : Node Bytes :=
  .object
    [(quoted (ascii "id"), .literal (quote id)),
     (quoted (ascii "enabled"), .literal (ascii "true")),
     (quoted (ascii "kind"), .literal (quote kind)),
     (quoted (ascii "widgets"), .array widgets)]

/-- The scene that is added. -/
def newScene (sceneId widgetId : Bytes) : Node Bytes :=
  bmcScene quote sceneId (ascii "fullscreen")
    [bmcSceneWidget quote widgetId (ascii "fullscreen") retroDeckWidgetUid (ascii "rectangular")]

end

/-! ### The installation -/

inductive BmcError where
  | stat
  | notBounded
  | read
  | parse
  | noSceneList
  | parseSceneList
  | parseScene
  | random
  | backup (error : WriteError)
  | statBackup
  | backupNotRegular
  | write (error : WriteError)

/-- The text of the error; that of a failing call is the one of the system or of the library. -/
def BmcError.message (osText : Bytes) : BmcError → Bytes
  | stat => ascii "stat BMC configuration: " ++ osText
  | notBounded => ascii "BMC configuration is not a bounded regular file"
  | read => ascii "read BMC configuration: " ++ osText
  | parse => ascii "parse BMC configuration: " ++ osText
  | noSceneList => ascii "BMC configuration has no scene list"
  | parseSceneList => ascii "parse BMC scene list: " ++ osText
  | parseScene => ascii "parse BMC scene: " ++ osText
  | random => ascii "generate UUID: " ++ osText
  | backup error => ascii "back up BMC configuration: " ++ error.message osText
  | statBackup => ascii "stat BMC configuration backup: " ++ osText
  | backupNotRegular => ascii "BMC configuration backup is not a regular file"
  | write error => ascii "write BMC configuration: " ++ error.message osText

/-- Whether a scene has the Retro Deck; the scenes are decoded up to the first one that has it. -/
def findScene (strings : JsonStrings) : List (Node Bytes) → Option Bool
  | [] => some false
  | scene :: scenes =>
      match unmarshalScene (strings.value scene) with
      | none => none
      | some ids => if retroDeckWidgetUid ∈ ids then some true else findScene strings scenes

/-- `json.Marshal` of a list of raw messages. -/
def marshalList (strings : JsonStrings) (items : List (Node Bytes)) : Node Bytes :=
  strings.compacted (.array items)

/-- `json.MarshalIndent` of a map of raw messages, whose keys are sorted. -/
def marshalIndentMap (strings : JsonStrings) (map : Table Bytes (Node Bytes)) : Bytes :=
  let entries := map.entries.mergeSort fun left right => !decide (right.1 < left.1)
  Json.indent 0
    (.object (entries.map fun entry => (strings.quote entry.1, strings.compacted entry.2)))

/-- The new contents, or none where a scene has the Retro Deck. -/
def updateConfig (strings : JsonStrings) (contents : Bytes)
    (sceneRandom widgetRandom : Option RandomBytes) :
    Except BmcError (Option Bytes) :=
  match (Json.parse maxNestingDepth contents).bind (unmarshalMap strings) with
  | none => .error .parse
  | some config =>
      match config.get (ascii "scenes") with
      | none => .error .noSceneList
      | some rawScenes =>
          match unmarshalList rawScenes with
          | none => .error .parseSceneList
          | some scenes =>
              match findScene strings scenes with
              | none => .error .parseScene
              | some true => .ok none
              | some false =>
                  match sceneRandom, widgetRandom with
                  | some sceneRandom, some widgetRandom =>
                      let scene :=
                        newScene strings.quote (randomUuid sceneRandom) (randomUuid widgetRandom)
                      let config :=
                        config.set (ascii "scenes") (marshalList strings (scenes ++ [scene]))
                      .ok (some (marshalIndentMap strings config ++ [0x0a]))
                  | _, _ => .error .random

/-- What happens during an installation: the calls that fail, what `Lstat` says of the two files,
and the random bytes. -/
structure BmcRun where
  lstat : Bool
  irregular : Bool
  read : Bool
  sceneRandom : Option RandomBytes
  widgetRandom : Option RandomBytes
  backupLstat : Bool
  backupIrregular : Bool
  backupMkdir : Bool
  backupDirectory : Bool
  backupWrite : WriteFaults
  configMkdir : Bool
  configDirectory : Bool
  configWrite : WriteFaults

def backupPath (path : Bytes) : Bytes := path ++ ascii ".retro-deck.bak"

/-- The backup is made where there is none. -/
def backUp (files : Files) (path contents : Bytes) (run : BmcRun) : Files × Option BmcError :=
  if run.backupLstat = true then (files, some .statBackup)
  else
    match files (backupPath path) with
    | none =>
        let (files, error) := atomicWrite files (backupPath path) contents run.backupMkdir
          run.backupDirectory run.backupWrite
        (files, error.map .backup)
    | some _ => (files, if run.backupIrregular = true then some .backupNotRegular else none)

def installBmcScene (strings : JsonStrings) (files : Files) (path : Bytes) (run : BmcRun) :
    Files × Except BmcError Bool :=
  if run.lstat = true then (files, .error .stat)
  else
    match files path with
    | none => (files, .error .stat)
    | some contents =>
        if run.irregular = true ∨ contents.length = 0 ∨ maximumBmcConfigSize < contents.length then
          (files, .error .notBounded)
        else if run.read = true then (files, .error .read)
        else
          match updateConfig strings contents run.sceneRandom run.widgetRandom with
          | .error error => (files, .error error)
          | .ok none => (files, .ok false)
          | .ok (some updated) =>
              match backUp files path contents run with
              | (files, some error) => (files, .error error)
              | (files, none) =>
                  match atomicWrite files path updated run.configMkdir run.configDirectory
                      run.configWrite with
                  | (files, some error) => (files, .error (.write error))
                  | (files, none) => (files, .ok true)

/-! ### What is written out -/

theorem isString_quoted {text : Bytes} (h : Plain text) : Json.isString (quoted text) = true := by
  have hrest : ∀ text, Plain text → Json.isStringRest .plain (text ++ [0x22]) = true := by
    intro text
    induction text with
    | nil =>
        intro _
        rfl
    | cons b text ih =>
        intro h
        obtain ⟨hlow, -, hb⟩ := h b List.mem_cons_self
        simp only [List.mem_cons, not_or] at hb
        rw [List.cons_append, Json.isStringRest, Json.stringStep, if_neg hb.1, if_neg hb.2.1,
          if_neg (UInt8.not_lt.2 hlow)]
        exact ih fun b hb => h b (List.mem_cons_of_mem _ hb)
  exact hrest text h

namespace JsonStrings

variable (strings : JsonStrings)

theorem meaning_quoted {text : Bytes} (h : Plain text) :
    strings.meaning (quoted text) = .string text := by
  rw [meaning, if_pos (isString_quoted h), strings.unquote_quoted text h]

theorem meaning_scalar {text : Bytes} (h : Json.isString text = false) :
    strings.meaning text = .other text := by
  rw [meaning, if_neg (Bool.eq_false_iff.1 h)]

theorem compactText_quoted {text : Bytes} (h : Plain text) :
    strings.compactText (quoted text) = quoted text := by
  rw [compactText, if_pos (isString_quoted h), strings.compact_quoted text h]

theorem compactText_scalar {text : Bytes} (h : Json.isString text = false) :
    strings.compactText text = text := by
  rw [compactText, if_neg (Bool.eq_false_iff.1 h)]

theorem isString_compactText {text : Bytes} (h : Json.isString text = true) :
    Json.isString (strings.compactText text) = true := by
  rw [compactText, if_pos h]
  exact strings.isString_compact text h

/-- **What is written out has the same value.** -/
theorem value_compacted (t : Node Bytes) :
    strings.value (strings.compacted t) = strings.value t := by
  have hmeaning : ∀ text, strings.meaning (strings.compactText text) = strings.meaning text := by
    intro text
    by_cases h : Json.isString text = true
    · rw [meaning, if_pos (strings.isString_compactText h), compactText, if_pos h,
        strings.unquote_compact text h, meaning, if_pos h]
    · rw [strings.compactText_scalar (Bool.eq_false_iff.2 h)]
  rw [value, value, compacted, Json.Node.map_map]
  exact Json.Node.map_congr t.all_true (fun text _ => hmeaning text) fun text _ => hmeaning text

theorem valid_compacted {t : Node Bytes} (h : t.Valid) : (strings.compacted t).Valid := by
  refine h.map ?_ fun text htext => strings.isString_compactText htext
  intro text htext
  by_cases hstring : Json.isString text = true
  · rw [Json.isLiteral, strings.isString_compactText hstring, Bool.true_or]
  · rw [strings.compactText_scalar (Bool.eq_false_iff.2 hstring)]
    exact htext

@[simp] theorem depth_compacted (t : Node Bytes) : (strings.compacted t).depth = t.depth :=
  Json.Node.depth_map _ t

end JsonStrings

/-! ### The new scene as it is written -/

theorem length_randomUuid (random : RandomBytes) : (randomUuid random).length = 36 := by
  have hlength : (Hex.encode ((random.bytes.set 6 ((random.bytes.getD 6 0 &&& 0x0f) ||| 0x40)).set 8
      (((random.bytes.set 6 ((random.bytes.getD 6 0 &&& 0x0f) ||| 0x40)).getD 8 0 &&& 0x3f) |||
        0x80))).length
        = 32 := by
    rw [Hex.length_encode, List.length_set, List.length_set, random.size]
  have hhyphen : (ascii "-").length = 1 := rfl
  simp only [randomUuid, List.length_append, List.length_take, List.length_drop, hlength, hhyphen]
  omega

theorem plain_of_isLowerDigit : ∀ b : UInt8, Hex.isLowerDigit b = true →
    0x20 ≤ b ∧ b < 0x7f ∧ b ∉ [0x22, 0x5c, 0x3c, 0x3e, 0x26] :=
  HostFile.forall_byte (by decide +kernel)

theorem Plain.append {text text' : Bytes} (h : Plain text) (h' : Plain text') :
    Plain (text ++ text') := by
  intro b hb
  rcases List.mem_append.1 hb with hb | hb
  · exact h b hb
  · exact h' b hb

theorem plain_randomUuid (random : RandomBytes) : Plain (randomUuid random) := by
  have hhex : ∀ bytes part : Bytes, (∀ b ∈ part, b ∈ Hex.encode bytes) → Plain part := by
    intro bytes part hpart b hb
    exact plain_of_isLowerDigit b (Hex.mem_encode (hpart b hb))
  have hhyphen : Plain (ascii "-") := by decide
  have htake : ∀ bytes : Bytes, ∀ skip count,
      Plain (((Hex.encode bytes).drop skip).take count) := by
    intro bytes skip count
    exact hhex bytes _ fun b hb => List.mem_of_mem_drop (List.mem_of_mem_take hb)
  exact (((((((((htake _ 0 8).append hhyphen).append (htake _ 8 4)).append hhyphen).append
    (htake _ 12 4)).append hhyphen).append (htake _ 16 4)).append hhyphen).append (htake _ 20 12))

section

variable (strings : JsonStrings) {sceneId widgetId : Bytes}

theorem newScene_quote (hscene : Plain sceneId) (hwidget : Plain widgetId) :
    newScene strings.quote sceneId widgetId = newScene quoted sceneId widgetId := by
  simp (disch := decide) only [newScene, bmcScene, bmcSceneWidget, strings.quote_plain _ hscene,
    strings.quote_plain _ hwidget, strings.quote_plain]

/-- The new scene is written as it is. -/
theorem compacted_newScene (hscene : Plain sceneId) (hwidget : Plain widgetId) :
    strings.compacted (newScene quoted sceneId widgetId) = newScene quoted sceneId widgetId := by
  simp (disch := decide) only [newScene, bmcScene, bmcSceneWidget, JsonStrings.compacted,
    Json.Node.map_object, Json.Node.map_array, Json.Node.map_literal, List.map_cons, List.map_nil,
    strings.compactText_quoted hscene, strings.compactText_quoted hwidget,
    strings.compactText_quoted,
    strings.compactText_scalar]

theorem valid_newScene (hscene : Plain sceneId) (hwidget : Plain widgetId) :
    (newScene quoted sceneId widgetId).Valid := by
  simp (disch := decide) [newScene, bmcScene, bmcSceneWidget, isString_quoted hscene,
    isString_quoted hwidget, isString_quoted, Json.isLiteral]
  decide

theorem depth_newScene (sceneId widgetId : Bytes) :
    (newScene quoted sceneId widgetId).depth = 4 := rfl

/-- The value of the new scene. -/
def newSceneValue (sceneId widgetId : Bytes) : Node Scalar :=
  .object
    [(.string (ascii "id"), .literal (.string sceneId)),
     (.string (ascii "enabled"), .literal (.other (ascii "true"))),
     (.string (ascii "kind"), .literal (.string (ascii "fullscreen"))),
     (.string (ascii "widgets"), .array [.object
       [(.string (ascii "id"), .literal (.string widgetId)),
        (.string (ascii "row"), .literal (.other (ascii "0"))),
        (.string (ascii "col"), .literal (.other (ascii "0"))),
        (.string (ascii "placement"), .literal (.string (ascii "fullscreen"))),
        (.string (ascii "widget_type_id"), .literal (.string retroDeckWidgetUid)),
        (.string (ascii "viewport_shape"), .literal (.string (ascii "rectangular"))),
        (.string (ascii "params"), .object [])]])]

theorem value_newScene (hscene : Plain sceneId) (hwidget : Plain widgetId) :
    strings.value (newScene quoted sceneId widgetId) = newSceneValue sceneId widgetId := by
  simp (disch := decide) only [newScene, bmcScene, bmcSceneWidget, JsonStrings.value, newSceneValue,
    Json.Node.map_object, Json.Node.map_array, Json.Node.map_literal, List.map_cons, List.map_nil,
    strings.meaning_quoted hscene, strings.meaning_quoted hwidget, strings.meaning_quoted,
    strings.meaning_scalar]

/-- **The new scene has the Retro Deck.** -/
theorem unmarshalScene_newSceneValue (sceneId widgetId : Bytes) :
    unmarshalScene (newSceneValue sceneId widgetId) = some [retroDeckWidgetUid] := by
  rfl

/-- The size of the new scene where it is written. -/
def sceneSize : ℕ :=
  Json.indentedSize 2 (newScene quoted (List.replicate 36 0x30) (List.replicate 36 0x30))

theorem indentedSize_newScene (hscene : sceneId.length = 36) (hwidget : widgetId.length = 36) :
    Json.indentedSize 2 (newScene quoted sceneId widgetId) = sceneSize := by
  simp [sceneSize, newScene, bmcScene, bmcSceneWidget, Json.indentedSize, Json.membersSize,
    Json.memberSize,
    Json.itemsSize, quoted, hscene, hwidget]

end

/-! ### Maps of raw messages -/

section

variable {strings : JsonStrings}

/-- What is decoded from a text: the keys are strings, and the raw messages are valid and not too
deep. -/
def Decodable (strings : JsonStrings) (config : Table Bytes (Node Bytes)) : Prop :=
  ∀ entry ∈ config.entries, (∃ text, Json.isString text = true ∧ entry.1 = strings.unquote text) ∧
    entry.2.Valid ∧ entry.2.depth ≤ 9999

theorem decodable_set {config : Table Bytes (Node Bytes)} (h : Decodable strings config)
    {text : Bytes} (htext : Json.isString text = true) {t : Node Bytes} (hvalid : t.Valid)
    (hdepth : t.depth ≤ 9999) :
    Decodable strings (config.set (strings.unquote text) t) := by
  intro entry hentry
  rcases List.mem_cons.1 hentry with rfl | hentry
  · exact ⟨⟨text, htext, rfl⟩, hvalid, hdepth⟩
  · exact h entry (List.mem_filter.1 hentry).1

theorem decodable_empty : Decodable strings .empty := fun _ h => absurd h List.not_mem_nil

theorem decodable_of_unmarshalMap {t : Node Bytes} (hvalid : t.Valid)
    (hdepth : t.depth ≤ maxNestingDepth) {config : Table Bytes (Node Bytes)}
    (h : unmarshalMap strings t = some config) : Decodable strings config := by
  cases t with
  | literal text =>
      rw [unmarshalMap] at h
      split at h
      · cases h
        exact decodable_empty
      · cases h
  | array items => cases h
  | object members =>
      rw [unmarshalMap, Option.some_inj] at h
      have hmembers := Json.Node.all_object.1 hvalid
      rw [maxNestingDepth, Json.Node.depth_object_le] at hdepth
      have hrun : ∀ members : List (Bytes × Node Bytes),
          (∀ m ∈ members, (Json.isString m.1 = true ∧ m.2.Valid) ∧ m.2.depth ≤ 9999) →
            ∀ map, Decodable strings map → Decodable strings
              (members.foldl (fun map m => map.set (strings.unquote m.1) m.2) map) := by
        intro members
        induction members with
        | nil => exact fun _ _ hmap => hmap
        | cons m members ih =>
            intro hmembers map hmap
            obtain ⟨⟨hkey, hvalue⟩, hdepth⟩ := hmembers m List.mem_cons_self
            refine ih (fun m hm => hmembers m (List.mem_cons_of_mem _ hm)) _ ?_
            exact decodable_set hmap hkey hvalue hdepth
      rw [← h]
      exact hrun members (fun m hm => ⟨hmembers m hm, hdepth m hm⟩) .empty decodable_empty

/-- The entries in the order in which they are written. -/
def sortedEntries (map : Table Bytes (Node Bytes)) : List (Bytes × Node Bytes) :=
  map.entries.mergeSort fun left right => !decide (right.1 < left.1)

theorem sortedEntries_perm (map : Table Bytes (Node Bytes)) :
    (sortedEntries map).Perm map.entries := List.mergeSort_perm _ _

/-- The members that are written. -/
def writtenMembers (strings : JsonStrings) (map : Table Bytes (Node Bytes)) :
    List (Bytes × Node Bytes) :=
  (sortedEntries map).map fun entry => (strings.quote entry.1, strings.compacted entry.2)

theorem marshalIndentMap_eq (map : Table Bytes (Node Bytes)) :
    marshalIndentMap strings map = Json.indent 0 (.object (writtenMembers strings map)) := rfl

/-- **A map that is written out is decoded again**, with the same keys and the raw messages as they
are written. -/
theorem unmarshal_marshal {config : Table Bytes (Node Bytes)} (h : Decodable strings config) :
    ∃ config', (Json.parse maxNestingDepth (marshalIndentMap strings config ++ [0x0a])).bind
        (unmarshalMap strings) = some config' ∧
      ∀ key, config'.get key = (config.get key).map strings.compacted := by
  have hgood : ∀ entry ∈ sortedEntries config, _ :=
    fun entry hentry => h entry ((sortedEntries_perm config).mem_iff.1 hentry)
  have hvalid : (Node.object (writtenMembers strings config)).Valid := by
    refine Json.Node.all_object.2 ?_
    intro m hm
    obtain ⟨entry, hentry, rfl⟩ := List.mem_map.1 hm
    obtain ⟨⟨text, htext, hkey⟩, hvalue, -⟩ := hgood entry hentry
    refine ⟨?_, strings.valid_compacted hvalue⟩
    rw [hkey]
    exact strings.isString_quote text htext
  have hdepth : (Node.object (writtenMembers strings config)).depth ≤ maxNestingDepth := by
    refine Json.Node.depth_object_le.2 ?_
    intro m hm
    obtain ⟨entry, hentry, rfl⟩ := List.mem_map.1 hm
    rw [strings.depth_compacted]
    exact (hgood entry hentry).2.2
  -- a key that is written means itself
  have hkey : ∀ entry ∈ sortedEntries config, strings.unquote (strings.quote entry.1) =
      entry.1 := by
    intro entry hentry
    obtain ⟨⟨text, htext, hkey⟩, -, -⟩ := hgood entry hentry
    rw [hkey, strings.unquote_quote text htext]
  have hkeys : (writtenMembers strings config).map (fun m => strings.unquote m.1) =
      (sortedEntries config).map Prod.fst := by
    rw [writtenMembers, List.map_map]
    exact List.map_congr_left hkey
  have hnodup : ((writtenMembers strings config).map fun m => strings.unquote m.1).Nodup := by
    rw [hkeys]
    exact ((sortedEntries_perm config).map Prod.fst).nodup_iff.2 config.nodup
  rw [marshalIndentMap_eq, Json.parse_indent hvalid hdepth, Option.bind_some, unmarshalMap]
  refine ⟨_, rfl, ?_⟩
  intro key
  obtain ⟨hhit, hmiss⟩ := Table.get_foldl_set (f := Prod.snd) hnodup .empty key
  cases hget : config.get key with
  | some t =>
      have hentry : (key, t) ∈ sortedEntries config :=
        (sortedEntries_perm config).mem_iff.2 ((config.get_eq_some key t).1 hget)
      exact hhit _ (List.mem_map_of_mem hentry) (hkey _ hentry)
  | none =>
      refine hmiss ?_
      intro m hm hmkey
      obtain ⟨entry, hentry, rfl⟩ := List.mem_map.1 hm
      rw [hkey entry hentry] at hmkey
      refine (config.get_eq_none key).1 hget entry.2 ?_
      rw [← hmkey]
      exact (sortedEntries_perm config).mem_iff.1 hentry

end

/-! ### The new contents -/

/-- The configuration of a text, and its scenes. -/
structure Config (strings : JsonStrings) (contents : Bytes) where
  map : Table Bytes (Node Bytes)
  rawScenes : Node Bytes
  scenes : List (Node Bytes)
  parsed : (Json.parse maxNestingDepth contents).bind (unmarshalMap strings) = some map
  listed : map.get (ascii "scenes") = some rawScenes
  decoded : unmarshalList rawScenes = some scenes

namespace Config

variable {strings : JsonStrings} {contents : Bytes} (config : Config strings contents)

/-- There is only one. -/
theorem unique (config' : Config strings contents) :
    config.map = config'.map ∧ config.rawScenes = config'.rawScenes ∧
      config.scenes = config'.scenes := by
  obtain ⟨map, rawScenes, scenes, hparsed, hlisted, hdecoded⟩ := config
  obtain ⟨map', rawScenes', scenes', hparsed', hlisted', hdecoded'⟩ := config'
  obtain rfl : map = map' := Option.some.inj (hparsed.symm.trans hparsed')
  obtain rfl : rawScenes = rawScenes' := Option.some.inj (hlisted.symm.trans hlisted')
  obtain rfl : scenes = scenes' := Option.some.inj (hdecoded.symm.trans hdecoded')
  exact ⟨rfl, rfl, rfl⟩

theorem decodable : Decodable strings config.map := by
  obtain ⟨document, hparse, hmap⟩ := Option.bind_eq_some_iff.1 config.parsed
  obtain ⟨hvalid, hdepth⟩ := Json.valid_of_parse hparse
  exact decodable_of_unmarshalMap hvalid hdepth hmap

theorem rawScenes_spec : config.rawScenes.Valid ∧ config.rawScenes.depth ≤ 9999 :=
  (config.decodable _ ((config.map.get_eq_some _ _).1 config.listed)).2

theorem scenes_spec : ∀ scene ∈ config.scenes, scene.Valid ∧ scene.depth ≤ 9998 := by
  obtain ⟨hvalid, hdepth⟩ := config.rawScenes_spec
  have hdecoded := config.decoded
  intro scene hscene
  cases hraw : config.rawScenes with
  | literal text =>
      rw [hraw, unmarshalList] at hdecoded
      split at hdecoded
      · obtain hnil : [] = config.scenes := Option.some.inj hdecoded
        rw [← hnil] at hscene
        exact absurd hscene List.not_mem_nil
      · cases hdecoded
  | array items =>
      rw [hraw] at hvalid hdepth
      rw [hraw, unmarshalList, Option.some_inj] at hdecoded
      rw [← hdecoded] at hscene
      exact ⟨Json.Node.all_array.1 hvalid scene hscene,
        Json.Node.depth_array_le.1 hdepth scene hscene⟩
  | object members =>
      rw [hraw] at hdecoded
      cases hdecoded

end Config

/-- The map with one more scene. -/
def addScene {strings : JsonStrings} {contents : Bytes} (config : Config strings contents)
    (scene : Node Bytes) : Table Bytes (Node Bytes) :=
  config.map.set (ascii "scenes") (marshalList strings (config.scenes ++ [scene]))

/-- The contents with one more scene. -/
def updatedConfig {strings : JsonStrings} {contents : Bytes} (config : Config strings contents)
    (scene : Node Bytes) : Bytes :=
  marshalIndentMap strings (addScene config scene) ++ [0x0a]

/-- **When the contents are changed**: the scenes can be decoded and none has the Retro Deck. -/
theorem updateConfig_eq_some {strings : JsonStrings} {contents : Bytes}
    {sceneRandom widgetRandom : Option RandomBytes} {updated : Bytes} :
    updateConfig strings contents sceneRandom widgetRandom = .ok (some updated) ↔
      ∃ (config : Config strings contents) (first second : RandomBytes),
        sceneRandom = some first ∧ widgetRandom = some second ∧
          findScene strings config.scenes = some false ∧
          updated = updatedConfig config
            (newScene quoted (randomUuid first) (randomUuid second)) := by
  constructor
  · intro h
    rw [updateConfig] at h
    split at h
    · cases h
    next map hparsed =>
    split at h
    · cases h
    next rawScenes hlisted =>
    split at h
    · cases h
    next scenes hdecoded =>
    split at h
    · cases h
    · cases h
    next hfind =>
    split at h
    · next first second =>
        refine ⟨⟨map, rawScenes, scenes, hparsed, hlisted, hdecoded⟩, first, second, rfl,
          rfl, hfind, ?_⟩
        rw [← newScene_quote strings (plain_randomUuid first) (plain_randomUuid second)]
        exact (Option.some.inj (Except.ok.inj h)).symm
    · cases h
  · rintro ⟨config, first, second, rfl, rfl, hfind, rfl⟩
    rw [updateConfig, config.parsed]
    dsimp only
    rw [config.listed]
    dsimp only
    rw [config.decoded]
    dsimp only
    rw [hfind]
    dsimp only
    rw [newScene_quote strings (plain_randomUuid first) (plain_randomUuid second)]
    rfl

/-! ### What the new contents are -/

section

variable {strings : JsonStrings} {contents : Bytes}

theorem compacted_array (items : List (Node Bytes)) :
    strings.compacted (.array items) = .array (items.map strings.compacted) :=
  Json.Node.map_array strings.compactText items

/-- **The new contents are decoded again**, with the raw messages as they are written. -/
theorem exists_config_updated (config : Config strings contents) {scene : Node Bytes}
    (hvalid : scene.Valid) (hdepth : scene.depth ≤ 9998) :
    ∃ config' : Config strings (updatedConfig config scene),
      (∀ key, key ≠ ascii "scenes" → config'.map.get key =
        (config.map.get key).map strings.compacted) ∧
        config'.scenes =
          (config.scenes ++ [scene]).map fun t => strings.compacted (strings.compacted t) := by
  have hscenes : ∀ t ∈ config.scenes ++ [scene], t.Valid ∧ t.depth ≤ 9998 := by
    intro t ht
    rcases List.mem_append.1 ht with ht | ht
    · exact config.scenes_spec t ht
    · rw [List.mem_singleton.1 ht]
      exact ⟨hvalid, hdepth⟩
  have hlist : (marshalList strings (config.scenes ++ [scene])).Valid ∧
      (marshalList strings (config.scenes ++ [scene])).depth ≤ 9999 := by
    refine ⟨strings.valid_compacted (Json.Node.all_array.2 fun t ht => (hscenes t ht).1), ?_⟩
    rw [marshalList, strings.depth_compacted]
    exact Json.Node.depth_array_le.2 fun t ht => (hscenes t ht).2
  have hplain : Plain (ascii "scenes") := by decide
  have hdecodable : Decodable strings (addScene config scene) := by
    have hset := decodable_set config.decodable (isString_quoted hplain) hlist.1 hlist.2
    rwa [strings.unquote_quoted _ hplain] at hset
  obtain ⟨map, hparsed, hget⟩ := unmarshal_marshal hdecodable
  have hlisted : map.get (ascii "scenes") =
      some (.array ((config.scenes ++ [scene]).map fun t =>
        strings.compacted (strings.compacted t))) := by
    rw [hget, addScene, Table.get_set_self, Option.map_some, marshalList, compacted_array,
      compacted_array, List.map_map]
    rfl
  refine ⟨⟨map, _, _, hparsed, hlisted, rfl⟩, ?_, rfl⟩
  intro key hkey
  rw [hget, addScene, Table.get_set_of_ne _ _ hkey]

/-- **The configuration with one more scene**: every other key is there with its value, no other key
is, and the scenes are those that were there, in their order, and the new one. -/
def Extends (strings : JsonStrings) (contents updated : Bytes) : Prop :=
  ∃ (config : Config strings contents) (config' : Config strings updated)
    (first second : RandomBytes),
    (∀ key, key ≠ ascii "scenes" →
      (config'.map.get key).map strings.value = (config.map.get key).map strings.value) ∧
      config'.scenes.map strings.value =
        config.scenes.map strings.value ++ [newSceneValue (randomUuid first) (randomUuid second)]

/-- The values of the scenes decide. -/
theorem findScene_congr {scenes scenes' : List (Node Bytes)}
    (h : scenes.map strings.value = scenes'.map strings.value) :
    findScene strings scenes = findScene strings scenes' := by
  induction scenes generalizing scenes' with
  | nil =>
      obtain rfl : scenes' = [] := by simpa using h.symm
      rfl
  | cons scene scenes ih =>
      cases scenes' with
      | nil => cases h
      | cons scene' scenes' =>
          rw [List.map_cons, List.map_cons, List.cons.injEq] at h
          rw [findScene, findScene, h.1, ih h.2]

/-- A scene with the Retro Deck is found at the end. -/
theorem findScene_append {scenes : List (Node Bytes)} (h : findScene strings scenes = some false)
    {scene : Node Bytes}
    (hscene : unmarshalScene (strings.value scene) = some [retroDeckWidgetUid]) :
    findScene strings (scenes ++ [scene]) = some true := by
  induction scenes with
  | nil =>
      rw [List.nil_append, findScene, hscene]
      exact if_pos List.mem_cons_self
  | cons other scenes ih =>
      rw [findScene] at h
      rw [List.cons_append, findScene]
      split at h
      · cases h
      · next ids hids =>
          split at h
          · cases h
          · next hnot => rw [if_neg hnot, ih h]

theorem value_compacted_twice (t : Node Bytes) :
    strings.value (strings.compacted (strings.compacted t)) = strings.value t := by
  rw [strings.value_compacted, strings.value_compacted]

/-- **What is written extends what was read**, and has the Retro Deck. -/
theorem updateConfig_spec {sceneRandom widgetRandom : Option RandomBytes} {updated : Bytes}
    (h : updateConfig strings contents sceneRandom widgetRandom = .ok (some updated)) :
    Extends strings contents updated ∧
      ∀ sceneRandom' widgetRandom', updateConfig strings updated sceneRandom' widgetRandom' =
        .ok none := by
  obtain ⟨config, first, second, -, -, hfind, rfl⟩ := updateConfig_eq_some.1 h
  have hfirst := plain_randomUuid first
  have hsecond := plain_randomUuid second
  obtain ⟨config', hkeys, hscenes⟩ := exists_config_updated config (valid_newScene hfirst hsecond)
    (Nat.le_trans (Nat.le_of_eq (depth_newScene _ _)) (by decide))
  have hvalues : config'.scenes.map strings.value =
      (config.scenes ++ [newScene quoted (randomUuid first) (randomUuid second)]).map
        strings.value := by
    rw [hscenes, List.map_map]
    exact List.map_congr_left fun t _ => value_compacted_twice t
  constructor
  · refine ⟨config, config', first, second, ?_, ?_⟩
    · intro key hkey
      rw [hkeys key hkey, Option.map_map]
      exact congrArg (fun f => (config.map.get key).map f)
        (funext fun t => strings.value_compacted t)
    · rw [hvalues, List.map_append, List.map_singleton, value_newScene strings hfirst hsecond]
  · intro sceneRandom' widgetRandom'
    have hfound : findScene strings config'.scenes = some true := by
      rw [findScene_congr hvalues]
      refine findScene_append hfind ?_
      rw [value_newScene strings hfirst hsecond]
      exact unmarshalScene_newSceneValue _ _
    rw [updateConfig, config'.parsed]
    dsimp only
    rw [config'.listed]
    dsimp only
    rw [config'.decoded]
    dsimp only
    rw [hfound]

end

/-! ### The size of the new contents -/

section

variable {strings : JsonStrings} {contents : Bytes}

/-- The configuration as it is written without the new scene, but for the order of the keys. The
scenes are written out twice: as a part of the list, and with the list as a part of the
configuration. -/
def writtenConfig (config : Config strings contents) : Node Bytes :=
  .object (config.map.entries.map fun entry =>
    (strings.quote entry.1,
      if entry.1 = ascii "scenes" then strings.compacted (strings.compacted entry.2)
      else strings.compacted entry.2))

/-- What the new scene takes in the list: a comma and the white space before it, and in an empty
list, which is written as two bytes, the white space after it. -/
def sceneRoom : Node Bytes → ℕ
  | .array [] => sceneSize + 8
  | _ => sceneSize + 6

/-- **The configuration leaves room for the scene**: with it, and indented as it will be, it is not
too large. -/
def Fits (strings : JsonStrings) (contents : Bytes) : Prop :=
  ∃ config : Config strings contents,
    Json.indentedSize 0 (writtenConfig config) + sceneRoom config.rawScenes + 1 ≤
      maximumBmcConfigSize

/-- The size of an object that is not empty. -/
theorem indentedSize_object {members : List (Bytes × Node Bytes)} (h : members ≠ []) :
    Json.indentedSize 0 (.object members) =
      (members.map fun m => 6 + m.1.length + Json.indentedSize 1 m.2).sum + 2 := by
  cases members with
  | nil => exact absurd rfl h
  | cons m members =>
      rw [Json.indentedSize, Json.membersSize_eq, if_neg (by simp)]

theorem indentedSize_array {items : List (Node Bytes)} (h : items ≠ []) (level : ℕ) :
    Json.indentedSize level (.array items) =
      Json.itemsSize (level + 1) items + (2 * level + 2) := by
  cases items with
  | nil => exact absurd rfl h
  | cons t items => rw [Json.indentedSize, if_neg (by simp)]

theorem compacted_null : strings.compacted (.literal (ascii "null")) = .literal (ascii "null") := by
  rw [JsonStrings.compacted, Json.Node.map_literal, strings.compactText_scalar rfl]

/-- What a scene adds to the size of the list. -/
theorem indentedSize_scenes (config : Config strings contents) {scene : Node Bytes}
    (hcompacted : strings.compacted scene = scene) (hsize : Json.indentedSize 2 scene = sceneSize) :
    Json.indentedSize 1 (strings.compacted (marshalList strings (config.scenes ++ [scene]))) =
      Json.indentedSize 1 (strings.compacted (strings.compacted config.rawScenes)) +
        sceneRoom config.rawScenes := by
  have hlist : strings.compacted (marshalList strings (config.scenes ++ [scene])) =
      .array ((config.scenes.map strings.compacted).map strings.compacted ++ [scene]) := by
    rw [marshalList, compacted_array, compacted_array, List.map_append, List.map_append,
      List.map_singleton, List.map_singleton, hcompacted, hcompacted]
  have hitem : Json.itemsSize 2 [scene] = sceneSize + 6 := by
    simp only [Json.itemsSize, hsize]
    omega
  rw [hlist, indentedSize_array (by simp), Json.itemsSize_append, hitem]
  have hdecoded := config.decoded
  cases hraw : config.rawScenes with
  | literal text =>
      rw [hraw, unmarshalList] at hdecoded
      split at hdecoded
      · next hnull =>
          obtain rfl : text = ascii "null" := by simpa [isNull] using hnull
          have hlength : Json.indentedSize 1 (.literal (ascii "null")) = 4 := rfl
          have hroom : sceneRoom (.literal (ascii "null")) = sceneSize + 6 := rfl
          rw [← Option.some.inj hdecoded, compacted_null, compacted_null, hlength, hroom]
          simp only [List.map_nil, Json.itemsSize]
          omega
      · cases hdecoded
  | array items =>
      rw [hraw, unmarshalList, Option.some_inj] at hdecoded
      rw [← hdecoded, compacted_array, compacted_array]
      cases items with
      | nil =>
          have hempty : Json.indentedSize 1 (.array []) = 2 := rfl
          simp only [List.map_nil, Json.itemsSize, hempty, sceneRoom]
          omega
      | cons t items =>
          have hroom : sceneRoom (.array (t :: items)) = sceneSize + 6 := rfl
          rw [indentedSize_array (by simp), hroom]
          omega
  | object members =>
      rw [hraw] at hdecoded
      cases hdecoded

/-- **The size of the new contents**, from the configuration that was read. -/
theorem length_updatedConfig (config : Config strings contents) {scene : Node Bytes}
    (hcompacted : strings.compacted scene = scene) (hsize : Json.indentedSize 2 scene = sceneSize) :
    (updatedConfig config scene).length =
      Json.indentedSize 0 (writtenConfig config) + sceneRoom config.rawScenes + 1 := by
  have hentry := Table.perm_erase ((config.map.get_eq_some _ _).1 config.listed)
  have hwritten : writtenMembers strings (addScene config scene) ≠ [] := by
    intro hnil
    have hlength := ((sortedEntries_perm (addScene config scene)).length_eq)
    rw [List.map_eq_nil_iff.1 hnil] at hlength
    cases hlength
  have hmembers : config.map.entries ≠ [] := by
    intro hnil
    rw [hnil] at hentry
    cases List.nil_perm.1 hentry
  rw [updatedConfig, List.length_append, List.length_singleton, marshalIndentMap_eq,
    Json.length_indent,
    indentedSize_object hwritten, writtenConfig, indentedSize_object (by simpa using hmembers),
    writtenMembers, List.map_map, List.map_map,
    ((sortedEntries_perm (addScene config scene)).map _).sum_nat, (hentry.map _).sum_nat]
  have hothers : (config.map.erase (ascii "scenes")).entries.map (fun entry =>
        6 + (strings.quote entry.1).length + Json.indentedSize 1 (strings.compacted entry.2)) =
      (config.map.erase (ascii "scenes")).entries.map fun entry =>
        6 + (strings.quote entry.1).length + Json.indentedSize 1
          (if entry.1 = ascii "scenes" then strings.compacted (strings.compacted entry.2)
          else strings.compacted entry.2) := by
    refine List.map_congr_left ?_
    intro entry hmem
    have hkey : entry.1 ≠ ascii "scenes" := by simpa using (List.mem_filter.1 hmem).2
    rw [if_neg hkey]
  simp only [addScene, Table.set, List.map_cons, List.sum_cons, Function.comp_def, if_true, hothers,
    indentedSize_scenes config hcompacted hsize]
  omega

end

/-! ### Installations -/

section

variable {strings : JsonStrings} {files files' : Files} {path contents updated : Bytes}
    {run : BmcRun}

theorem backupPath_ne (path : Bytes) : backupPath path ≠ path := by
  intro h
  have hlength := congrArg List.length h
  rw [backupPath, List.length_append] at hlength
  have hsuffix : (ascii ".retro-deck.bak").length = 15 := rfl
  omega

/-- A backup that is made has the contents, and one that is there is kept. -/
theorem backUp_ok (h : backUp files path contents run = (files', none)) :
    files' = match files (backupPath path) with
      | none => write files (backupPath path) contents
      | some _ => files := by
  rw [backUp] at h
  split at h
  · cases h
  split at h
  · dsimp only at h
    rw [Prod.mk.injEq, Option.map_eq_none_iff] at h
    exact atomicWrite_ok (Prod.ext h.1 h.2)
  · exact (Prod.mk.inj h).1.symm

/-- **An installation that changes the configuration**: it replaces the file and makes the backup,
and touches no other file. -/
theorem installBmcScene_ok (h : installBmcScene strings files path run = (files', .ok true)) :
    ∃ contents updated, files path = some contents ∧
      updateConfig strings contents run.sceneRandom run.widgetRandom = .ok (some updated) ∧
      files' path = some updated ∧
      files' (backupPath path) = some ((files (backupPath path)).getD contents) ∧
      ∀ other, other ≠ path → other ≠ backupPath path → files' other = files other := by
  rw [installBmcScene] at h
  split at h
  · cases h
  split at h
  · cases h
  next contents hcontents =>
  split at h
  · cases h
  split at h
  · cases h
  split at h
  · cases h
  · cases h
  next updated hupdate =>
  split at h
  · cases h
  next saved hbackup =>
  split at h
  · cases h
  next replaced hwrite =>
  obtain rfl : replaced = files' := (Prod.mk.inj h).1
  obtain rfl := backUp_ok hbackup
  obtain rfl := atomicWrite_ok hwrite
  refine ⟨contents, updated, hcontents, hupdate, write_same _ _ _, ?_, ?_⟩
  · rw [write_of_ne _ (backupPath_ne path)]
    cases hkept : files (backupPath path) with
    | none => exact write_same _ _ _
    | some kept => exact hkept
  · intro other hpath hsaved
    rw [write_of_ne _ hpath]
    cases files (backupPath path) with
    | none => exact write_of_ne _ hsaved
    | some kept => rfl

/-- The file can be examined and read. -/
structure BmcRun.Reads (run : BmcRun) : Prop where
  lstat : run.lstat = false
  irregular : run.irregular = false
  read : run.read = false

/-- An installation on contents that have the Retro Deck already. -/
theorem installBmcScene_present (hfile : files path = some updated) (hlength : updated.length ≠ 0)
    (hpresent : ∀ sceneRandom widgetRandom,
      updateConfig strings updated sceneRandom widgetRandom = .ok none) (hreads : run.Reads) :
    installBmcScene strings files path run =
      (files, if maximumBmcConfigSize < updated.length then .error .notBounded else .ok false) := by
  rw [installBmcScene, hreads.lstat, hfile, hreads.irregular, hreads.read]
  dsimp only
  rw [hpresent]
  by_cases hsize : maximumBmcConfigSize < updated.length
  · simp [hsize]
  · simp [hsize, hlength]

theorem fits_iff {config : Config strings contents} :
    Fits strings contents ↔
      Json.indentedSize 0 (writtenConfig config) + sceneRoom config.rawScenes + 1 ≤
        maximumBmcConfigSize := by
  constructor
  · rintro ⟨config', hfits⟩
    obtain ⟨hmap, hraw, -⟩ := config.unique config'
    rw [writtenConfig, hmap, hraw]
    exact hfits
  · exact fun hfits => ⟨config, hfits⟩

/-- The new contents are within the bound exactly if the old ones leave room for the scene. -/
theorem length_updated_iff {sceneRandom widgetRandom : Option RandomBytes}
    (h : updateConfig strings contents sceneRandom widgetRandom = .ok (some updated)) :
    updated.length ≠ 0 ∧ (updated.length ≤ maximumBmcConfigSize ↔ Fits strings contents) := by
  obtain ⟨config, first, second, -, -, -, rfl⟩ := updateConfig_eq_some.1 h
  have hlength := length_updatedConfig config
    (compacted_newScene strings (plain_randomUuid first) (plain_randomUuid second))
    (indentedSize_newScene (length_randomUuid first) (length_randomUuid second))
  constructor
  · omega
  · rw [hlength]
    exact fits_iff.symm

/-- What an installation that changes the configuration should leave behind: the configuration with
one more scene, otherwise unchanged; a backup of the original, if there was none; and a file in
which any further installation finds the scene, so that it changes nothing. -/
structure Installed (strings : JsonStrings) (files files' : Files) (path : Bytes) : Prop where
  extended : ∃ contents updated, files path = some contents ∧ files' path = some updated ∧
    Extends strings contents updated
  backedUp : files (backupPath path) = none → files' (backupPath path) = files path
  repeatable : ∀ run : BmcRun, run.Reads →
    installBmcScene strings files' path run = (files', .ok false)

/-- **An installation can be repeated exactly if the configuration leaves room for the scene.** -/
theorem installBmcScene_installed_iff
    (h : installBmcScene strings files path run = (files', .ok true)) :
    Installed strings files files' path ↔
      ∃ contents, files path = some contents ∧ Fits strings contents := by
  obtain ⟨contents, updated, hcontents, hupdate, hupdated, hbackup, -⟩ := installBmcScene_ok h
  obtain ⟨hextends, hpresent⟩ := updateConfig_spec hupdate
  obtain ⟨hlength, hfits⟩ := length_updated_iff hupdate
  constructor
  · rintro ⟨-, -, hrepeatable⟩
    refine ⟨contents, hcontents, hfits.1 ?_⟩
    -- one more installation, in which the file is read
    let again : BmcRun := { run with lstat := false, irregular := false, read := false }
    have hreads : again.Reads := ⟨rfl, rfl, rfl⟩
    have hsecond := installBmcScene_present hupdated hlength hpresent hreads
    rw [hrepeatable again hreads, Prod.mk.injEq] at hsecond
    by_contra hlarge
    rw [if_pos (Nat.lt_of_not_le hlarge)] at hsecond
    cases hsecond.2
  · rintro ⟨contents', hcontents', hroom⟩
    obtain rfl : contents = contents' := Option.some.inj (hcontents.symm.trans hcontents')
    refine ⟨⟨contents, updated, hcontents, hupdated, hextends⟩, ?_, ?_⟩
    · intro hnone
      rw [hbackup, hnone, hcontents, Option.getD_none]
    · intro again hreads
      rw [installBmcScene_present hupdated hlength hpresent hreads,
        if_neg (Nat.not_lt.2 (hfits.2 hroom))]

end

/-! ### A configuration that is too large -/

/-- The strings, where nothing is escaped. -/
def plainStrings : JsonStrings where
  unquote text := (text.drop 1).dropLast
  quote := quoted
  compact text := text
  quote_plain _ _ := rfl
  unquote_quoted text _ := by simp [quoted]
  compact_quoted _ _ := rfl
  isString_compact _ h := h
  unquote_compact _ _ := rfl
  isString_quote text h := by
    obtain ⟨inner, rfl⟩ := Json.exists_of_isString h
    simpa [quoted] using h
  unquote_quote text _ := by simp [quoted]

/-- A configuration with no scene, and with a text of some length. -/
def sampleDocument (n : ℕ) : Node Bytes :=
  .object
    [(quoted (ascii "pad"), .literal (quoted (List.replicate n 0x61))),
     (quoted (ascii "scenes"), .array [])]

def sampleContents (n : ℕ) : Bytes := Json.indent 0 (sampleDocument n) ++ [0x0a]

theorem plain_pad (n : ℕ) : Plain (List.replicate n 0x61) := by
  intro b hb
  rw [List.eq_of_mem_replicate hb]
  decide

theorem length_sampleContents (n : ℕ) : (sampleContents n).length = n + 32 := by
  have hpad : (ascii "pad").length = 3 := rfl
  have hscenes : (ascii "scenes").length = 6 := rfl
  rw [sampleContents, List.length_append, Json.length_indent]
  simp [sampleDocument, Json.indentedSize, Json.membersSize, Json.memberSize, Json.itemsSize,
    quoted, hpad,
    hscenes]
  omega

def sampleConfig (n : ℕ) : Config plainStrings (sampleContents n) where
  map := ⟨[(ascii "scenes", .array []), (ascii "pad", .literal (quoted (List.replicate n 0x61)))],
    show [ascii "scenes", ascii "pad"].Nodup by decide⟩
  rawScenes := .array []
  scenes := []
  parsed := by
    have hvalid : (sampleDocument n).Valid := by
      simp (disch := decide) [sampleDocument, isString_quoted (plain_pad n), isString_quoted,
        Json.isLiteral]
    rw [sampleContents, Json.parse_indent hvalid (show 2 ≤ maxNestingDepth by decide)]
    rfl
  listed := rfl
  decoded := rfl

/-- The size of the configuration as it is written is that of its contents. -/
theorem indentedSize_writtenConfig_sample (n : ℕ) :
    Json.indentedSize 0 (writtenConfig (sampleConfig n)) + 1 = (sampleContents n).length := by
  have hpad : (ascii "pad").length = 3 := rfl
  have hscenes : (ascii "scenes").length = 6 := rfl
  rw [length_sampleContents]
  simp [writtenConfig, sampleConfig, plainStrings, JsonStrings.compacted, Node.map, Node.mapItems,
    JsonStrings.compactText, Json.indentedSize, Json.membersSize, Json.memberSize,
    Json.itemsSize, quoted,
    hpad, hscenes]
  omega

def samplePath : Bytes := joinPath (ascii "/etc") (ascii "bmc_config.json")

theorem samplePath_name : samplePath = joinPath (pathDir samplePath) (ascii "bmc_config.json") ∧
    backupPath samplePath =
      joinPath (pathDir (backupPath samplePath)) (ascii "bmc_config.json.retro-deck.bak") := by
  decide

def sampleRandom : RandomBytes := ⟨List.replicate 16 0, rfl⟩

/-- A write in which no call fails. -/
def sampleWrite : WriteFaults :=
  ⟨[ascii "1"], false, false, none, false, false, false, false, false⟩

/-- An installation in which no call fails. -/
def sampleRun : BmcRun :=
  ⟨false, false, false, some sampleRandom, some sampleRandom, false, false, false, false,
    sampleWrite,
    false, false, sampleWrite⟩

def sampleFiles (contents : Bytes) : Files := write (fun _ => none) samplePath contents

/-- A write in which no call fails, beside the temporary file. -/
theorem atomicWrite_sample {files : Files} {path name : Bytes} (contents : Bytes)
    (hpath : path = joinPath (pathDir path) name) (hname : name.head? ≠ some 0x2e)
    (hfree : files (joinPath (pathDir path) (ascii ".rom-uploader-" ++ ascii "1")) = none) :
    atomicWrite files path contents false false sampleWrite =
      (write files path contents, none) := by
  have hother : ∀ random, joinPath (pathDir path) (ascii ".rom-uploader-" ++ random) ≠ path := by
    intro random heq
    exact @joinPath_ne (pathDir path) _ _ _ rfl hname (heq.trans hpath)
  have hpublishes : sampleWrite.Publishes files (pathDir path) (ascii ".rom-uploader-") :=
    ⟨⟨ascii "1", List.mem_singleton_self _, hfree⟩, rfl, rfl, rfl, rfl, rfl, rfl⟩
  rcases atomicWrite_spec files contents false false sampleWrite hother with ⟨heq, -⟩ | ⟨-, hnot⟩
  · exact heq
  · exact absurd ⟨rfl, rfl, hpublishes⟩ hnot

/-- The scene is added to the sample. -/
theorem updateConfig_sample (n : ℕ) : ∃ updated,
    updateConfig plainStrings (sampleContents n) (some sampleRandom) (some sampleRandom) =
      .ok (some updated) :=
  ⟨_, updateConfig_eq_some.2 ⟨sampleConfig n, sampleRandom, sampleRandom, rfl, rfl, rfl, rfl⟩⟩

/-- A configuration that is read as it is, and that does not have the Retro Deck, is installed. -/
theorem installBmcScene_sample {n : ℕ} (hn : n + 32 ≤ maximumBmcConfigSize) :
    ∃ files', installBmcScene plainStrings (sampleFiles (sampleContents n)) samplePath sampleRun =
      (files', .ok true) := by
  obtain ⟨updated, hupdated⟩ := updateConfig_sample n
  have hfile : sampleFiles (sampleContents n) samplePath = some (sampleContents n) :=
    write_same _ _ _
  have hbounded : ¬ (sampleRun.irregular = true ∨ (sampleContents n).length = 0 ∨
      maximumBmcConfigSize < (sampleContents n).length) := by
    rw [length_sampleContents]
    rintro (hirregular | hempty | hlarge)
    · cases hirregular
    · omega
    · omega
  have hnobackup : sampleFiles (sampleContents n) (backupPath samplePath) = none :=
    write_of_ne _ (backupPath_ne samplePath)
  have htemporary : ∀ contents : Bytes, sampleFiles contents
      (joinPath (pathDir (backupPath samplePath)) (ascii ".rom-uploader-" ++ ascii "1")) = none :=
    fun _ => write_of_ne _ (show joinPath (pathDir (backupPath samplePath))
      (ascii ".rom-uploader-" ++ ascii "1") ≠ samplePath by decide)
  have hbackup := @atomicWrite_sample (sampleFiles (sampleContents n)) _ _ (sampleContents n)
    samplePath_name.2 (by decide) (htemporary _)
  have hfree : write (sampleFiles (sampleContents n)) (backupPath samplePath) (sampleContents n)
      (joinPath (pathDir samplePath) (ascii ".rom-uploader-" ++ ascii "1")) = none := by
    rw [write_of_ne _ (show joinPath (pathDir samplePath) (ascii ".rom-uploader-" ++ ascii "1") ≠
      backupPath samplePath by decide)]
    exact htemporary _
  have hwrite := atomicWrite_sample updated samplePath_name.1 (by decide) hfree
  refine ⟨write (write (sampleFiles (sampleContents n)) (backupPath samplePath) (sampleContents n))
    samplePath updated, ?_⟩
  have hbackedUp : backUp (sampleFiles (sampleContents n)) samplePath (sampleContents n) sampleRun =
      (write (sampleFiles (sampleContents n)) (backupPath samplePath)
        (sampleContents n), none) := by
    rw [backUp, if_neg (show ¬ sampleRun.backupLstat = true by decide), hnobackup]
    exact congrArg (fun result => (result.1, result.2.map BmcError.backup)) hbackup
  rw [installBmcScene, if_neg (show ¬ sampleRun.lstat = true by decide), hfile]
  dsimp only
  rw [if_neg hbounded, if_neg (show ¬ sampleRun.read = true by decide),
    show updateConfig plainStrings (sampleContents n) sampleRun.sceneRandom sampleRun.widgetRandom =
      .ok (some updated) from hupdated]
  dsimp only
  rw [hbackedUp]
  dsimp only
  rw [show atomicWrite _ samplePath updated sampleRun.configMkdir sampleRun.configDirectory
    sampleRun.configWrite = _ from hwrite]

/-- When the sample leaves room for the scene. -/
theorem fits_sample (n : ℕ) : Fits plainStrings (sampleContents n) ↔
    n + 32 + sceneSize + 8 ≤ maximumBmcConfigSize := by
  have hsize := indentedSize_writtenConfig_sample n
  rw [length_sampleContents] at hsize
  have hroom : sceneRoom (sampleConfig n).rawScenes = sceneSize + 8 := rfl
  rw [@fits_iff plainStrings _ (sampleConfig n), hroom]
  omega

/-- A configuration of 4 MiB is accepted and changed, and the next installation fails. -/
theorem installBmcScene_not_installed : ∃ files',
    installBmcScene plainStrings (sampleFiles (sampleContents 4194272)) samplePath sampleRun =
        (files', .ok true) ∧
      installBmcScene plainStrings files' samplePath sampleRun = (files', .error .notBounded) ∧
      ¬ Installed plainStrings (sampleFiles (sampleContents 4194272)) files' samplePath := by
  obtain ⟨files', hinstall⟩ := installBmcScene_sample (n := 4194272) (by decide)
  obtain ⟨contents, updated, hcontents, hupdate, hupdated, -⟩ := installBmcScene_ok hinstall
  obtain rfl : sampleContents 4194272 = contents :=
    Option.some.inj ((write_same _ _ _).symm.trans hcontents)
  obtain ⟨-, hpresent⟩ := updateConfig_spec hupdate
  obtain ⟨hlength, hfits⟩ := length_updated_iff hupdate
  have hlarge : maximumBmcConfigSize < updated.length := by
    rw [fits_sample, maximumBmcConfigSize] at hfits
    rw [maximumBmcConfigSize]
    omega
  have hreads : sampleRun.Reads := ⟨rfl, rfl, rfl⟩
  have hsecond := installBmcScene_present hupdated hlength hpresent hreads
  rw [if_pos hlarge] at hsecond
  refine ⟨files', hinstall, hsecond, ?_⟩
  intro hinstalled
  rw [hinstalled.repeatable sampleRun hreads] at hsecond
  cases (Prod.mk.inj hsecond).2

theorem installBmcScene_installed_sample : ∃ files',
    installBmcScene plainStrings (sampleFiles (sampleContents 0)) samplePath sampleRun =
      (files', .ok true) ∧
      Installed plainStrings (sampleFiles (sampleContents 0)) files' samplePath := by
  obtain ⟨files', hinstall⟩ := installBmcScene_sample (n := 0) (by decide)
  refine ⟨files', hinstall, (installBmcScene_installed_iff hinstall).2
    ⟨sampleContents 0, write_same _ _ _, (fits_sample 0).2 ?_⟩⟩
  decide

end NesDeck.Uploader.BmcScene
