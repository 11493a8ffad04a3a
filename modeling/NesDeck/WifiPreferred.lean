/-
**The preferred networks.**

The file of preferred SSIDs holds their digits, the most recent one first, at most eight of them.
Two scripts maintain it: `deck-wifi-select` puts the network in front that has just worked
(`record_success`), and `deck-wifi-profile-add` the one that the user has just entered.  Both leave
the other lines to one awk program, which compares two lines as numbers when both look like numbers:
an SSID whose digits are all decimal may be equal to another one after rounding, and what becomes of
a number that is too large is up to the awk.

Main definitions:

* `NesDeck.recordSuccess` — the update by the selector;
* `NesDeck.WifiUpdate` — the updates of the file, one after the other;
* `NesDeck.Preferred.Law` — what one update should do to the list;
* `NesDeck.WifiUpdate.Apart` — no entry that should stay compares equal to the updated one, and the
  updated one compares equal to itself.

Main results:

* `NesDeck.otherPreferred_eq` — what the awk program leaves of a stored list;
* `NesDeck.Preferred.law_iff` — one update follows the law exactly when the entries are apart;
* `NesDeck.WifiUpdate.updates_lawful_iff` — **a run of updates follows the law exactly when all its
  steps find the entries apart**.
-/

import NesDeck.Lib.Recent
import NesDeck.Lib.Run
import NesDeck.WifiProfile

set_option relaxedAutoImplicit false
set_option autoImplicit false

namespace NesDeck

open HostFile (Bytes ascii)

/-! ### The updates -/

section

variable (beyond : Awk.Beyond)

def preferredLimit : ℕ := 8

/-- `valid_profile_hex`. -/
def validProfileHex (value : Bytes) : Bool :=
  value ≠ [] && value.all Hex.isLowerDigit && value.length ≤ 64 && value.length % 2 = 0

/-- The digits of an SSID, as both scripts compute them. -/
def ssidHex (ssid : Bytes) : Bytes := Hex.lower (Hex.encode ssid)

/-- `record_success` after `uci` has reported the SSID of the station, or nothing when it fails. -/
def recordSuccess (files : WifiFiles) (reported : Bytes) : Option WifiFiles :=
  let ssid := substituted reported
  if ssid = [] then none
  else if !validProfileHex (ssidHex ssid) then none
  else
    let first := (files.preferred.getD []).headD []
    if first = ssidHex ssid then some files
    else some { files with
      preferred := some (prefer beyond (ssidHex ssid) preferredLimit files.preferred) }

/-- An update of the file: the selector has seen a network work, or a profile is added. -/
inductive WifiUpdate where
  | recordSuccess (reported : Bytes)
  | profileAdd (pid : ℕ) (input : Bytes)

namespace WifiUpdate

/-- The files after an update, or nothing when the script fails before it stored anything. -/
def run (files : WifiFiles) : WifiUpdate → Option WifiFiles
  | .recordSuccess reported => NesDeck.recordSuccess beyond files reported
  | .profileAdd pid input => NesDeck.profileAdd beyond files pid input

/-- The SSID that an update is about. -/
def ssid : WifiUpdate → Bytes
  | .recordSuccess reported => substituted reported
  | .profileAdd _ input => Awk.field 0x0a input

/-- An update that fails leaves the files as they are. -/
def step (files : WifiFiles) (update : WifiUpdate) : WifiFiles :=
  (run beyond files update).getD files

end WifiUpdate

/-- The stored list. -/
def WifiFiles.stored (files : WifiFiles) : List Bytes := files.preferred.getD []

namespace Preferred

/-- What one update should do: the updated SSID is followed by the entries before in their order, up
to the limit; no SSID is there twice, and none is lost unless the limit is exceeded. -/
structure Law (hex : Bytes) (before after : List Bytes) : Prop where
  recent : after = Recent.touch preferredLimit hex before
  nodup : after.Nodup
  kept : (hex :: before.filter (· ≠ hex)).length ≤ preferredLimit → ∀ other ∈ before, other ∈ after

/-- The entries that should stay behind an updated SSID. -/
def behind (hex : Bytes) (before : List Bytes) : List Bytes :=
  (before.filter (· ≠ hex)).take (preferredLimit - 1)

/-- What is true of every list that the scripts store. -/
structure Stored (lines : List Bytes) : Prop where
  nodup : lines.Nodup
  length : lines.length ≤ preferredLimit
  valid : ∀ line ∈ lines, validProfileHex line = true

end Preferred

namespace WifiUpdate

/-- Every update of a run does what it should. -/
def Lawful (files : WifiFiles) (updates : List WifiUpdate) : Prop :=
  Run.Each (step beyond) (fun files update => ∀ after, run beyond files update = some after →
    Preferred.Law (ssidHex update.ssid) files.stored after.stored) files updates

/-- The selector finds its SSID in front and leaves the file as it is. -/
def InFront (files : WifiFiles) : WifiUpdate → Prop
  | .recordSuccess reported => files.stored.headD [] = ssidHex (substituted reported)
  | .profileAdd _ _ => False

/-- An update that is carried out finds its SSID in front; or none of the entries that should stay
compares equal to it, and if it is among the first seven entries itself, it compares equal to
itself. -/
def Apart (files : WifiFiles) (update : WifiUpdate) : Prop :=
  (run beyond files update).isSome → InFront files update ∨
    (∀ other ∈ Preferred.behind (ssidHex update.ssid) files.stored,
        Awk.equal beyond other (ssidHex update.ssid) = false) ∧
      (ssidHex update.ssid ∈ files.stored.take (preferredLimit - 1) →
        Awk.equal beyond (ssidHex update.ssid) (ssidHex update.ssid) = true)

end WifiUpdate

end

variable {beyond : Awk.Beyond}

/-! ### The awk program on a stored list -/

theorem validProfileHex_iff {value : Bytes} :
    validProfileHex value = true ↔
      value ≠ [] ∧ value.all Hex.isLowerDigit = true ∧ value.length ≤ 64 ∧
        value.length % 2 = 0 := by
  simp [validProfileHex, and_assoc]

theorem ssidHex_eq (ssid : Bytes) : ssidHex ssid = Hex.encode ssid := Hex.lower_encode ssid

/-- A text of digits has no backslash, and is assigned as it is. -/
theorem assigned_of_validProfileHex {value : Bytes} (h : validProfileHex value = true) :
    Awk.assigned value = value := by
  refine Awk.assigned_of_not_mem (not_mem_of_isLowerDigit ?_ rfl)
  exact List.all_eq_true.1 (validProfileHex_iff.1 h).2.1

/-- **What the awk program leaves of a stored list**: its first entries that do not compare equal to
the current SSID. -/
theorem otherPreferred_eq {current : Bytes} {room count : ℕ} {seen lines : List Bytes}
    (hcurrent : validProfileHex current = true) (hnodup : lines.Nodup)
    (hvalid : ∀ line ∈ lines, validProfileHex line = true) (hseen : ∀ line ∈ lines, line ∉ seen)
    (hcount : count ≤ room) :
    otherPreferred beyond current room seen count lines =
      (lines.filter fun line => !Awk.equal beyond line current).take (room - count) := by
  induction lines generalizing seen count with
  | nil => simp [otherPreferred]
  | cons line lines ih =>
      rw [List.nodup_cons] at hnodup
      obtain ⟨hnil, hdigits, hlength, heven⟩ :=
        validProfileHex_iff.1 (hvalid line List.mem_cons_self)
      have hnew : line ∉ seen := hseen line List.mem_cons_self
      have hvalid' : ∀ other ∈ lines, validProfileHex other = true :=
        fun other hother => hvalid other (List.mem_cons_of_mem _ hother)
      have hseen' : ∀ other ∈ lines, other ∉ seen :=
        fun other hother => hseen other (List.mem_cons_of_mem _ hother)
      -- The line is marked as seen, and no later line is the same.
      have hmarked : ∀ other ∈ lines, other ∉ line :: seen := by
        intro other hother
        rw [List.mem_cons, not_or]
        refine ⟨?_, hseen' other hother⟩
        rintro rfl
        exact hnodup.1 hother
      unfold otherPreferred
      rw [assigned_of_validProfileHex hcurrent]
      -- awk skips the line when it compares equal, which need not mean that it is the same.
      cases hequal : Awk.equal beyond line current with
      | true =>
          rw [if_neg (by simp), List.filter_cons_of_neg (by simp [hequal]),
            ih hnodup.2 hvalid' hseen' hcount]
      | false =>
          rw [if_pos ⟨rfl, hnil, hdigits, hlength, heven, hnew⟩,
            List.filter_cons_of_pos (by simp [hequal])]
          split
          · next hroom =>
              have hsucc : room - count = room - (count + 1) + 1 := by omega
              rw [ih hnodup.2 hvalid' hmarked hroom, hsucc, List.take_succ_cons]
          · next hfull =>
              have hzero : room - count = 0 := by omega
              rw [ih hnodup.2 hvalid' hmarked hcount, hzero, List.take_zero, List.take_zero]

/-- The new list of an update. -/
theorem prefer_eq {hex : Bytes} {files : WifiFiles} (hhex : validProfileHex hex = true)
    (hstored : Preferred.Stored files.stored) :
    prefer beyond hex preferredLimit files.preferred =
      hex :: (files.stored.filter fun line => !Awk.equal beyond line hex).take
        (preferredLimit - 1) := by
  unfold prefer
  exact congrArg _ (otherPreferred_eq hhex hstored.nodup hstored.valid
    (fun _ _ => List.not_mem_nil) (Nat.zero_le _))

namespace Preferred

/-- The law is about the order only: the rest follows from what was stored before. -/
theorem law_of_recent {hex : Bytes} {before after : List Bytes} (hstored : Stored before)
    (h : after = Recent.touch preferredLimit hex before) : Law hex before after where
  recent := h
  nodup := by
    rw [h]
    exact Recent.nodup_touch hstored.nodup
  kept := by
    intro hlimit other hother
    rw [h]
    by_cases heq : other = hex
    · rw [heq]
      exact List.mem_cons_self
    · exact Recent.mem_touch_of_le hlimit hother heq

/-- The entries that should stay are the first ones, when the SSID is not among them. -/
theorem behind_eq_take {hex : Bytes} {before : List Bytes}
    (h : hex ∉ before.take (preferredLimit - 1)) :
    behind hex before = before.take (preferredLimit - 1) := by
  refine (Recent.take_filter_eq_iff _ _ _).2 ?_
  intro other hother
  have hne : other ≠ hex := by
    rintro rfl
    exact h hother
  simpa using hne

/-- The first entries other than the SSID should stay. -/
theorem mem_behind {hex other : Bytes} {before : List Bytes}
    (h : other ∈ before.take (preferredLimit - 1)) (hne : other ≠ hex) :
    other ∈ behind hex before :=
  Recent.mem_take_filter h (by simpa using hne)

/-- **One update follows the law exactly when the entries are apart.** -/
theorem law_iff {hex : Bytes} {before : List Bytes} (hstored : Stored before) :
    Law hex before
        (hex :: (before.filter fun line => !Awk.equal beyond line hex).take (preferredLimit - 1)) ↔
      (∀ other ∈ behind hex before, Awk.equal beyond other hex = false) ∧
        (hex ∈ before.take (preferredLimit - 1) → Awk.equal beyond hex hex = true) := by
  have hrecent : Recent.touch preferredLimit hex before = hex :: behind hex before := rfl
  constructor
  · intro h
    have hsame := (List.cons.inj (h.recent.trans hrecent)).2
    have hapart : ∀ other ∈ behind hex before, Awk.equal beyond other hex = false := by
      intro other hother
      rw [← hsame] at hother
      simpa using (List.mem_filter.1 (List.mem_of_mem_take hother)).2
    refine ⟨hapart, ?_⟩
    intro hmem
    by_contra hself
    -- The filter would leave all of the first entries, the SSID itself with them.
    have hall : ∀ line ∈ before.take (preferredLimit - 1), (!Awk.equal beyond line hex) = true := by
      intro line hline
      by_cases heq : line = hex
      · rw [heq]
        simpa using hself
      · simpa using hapart line (mem_behind hline heq)
    rw [(Recent.take_filter_eq_iff _ _ _).2 hall] at hsame
    rw [hsame] at hmem
    simpa using (List.mem_filter.1 (List.mem_of_mem_take hmem)).2
  · rintro ⟨hapart, hself⟩
    refine law_of_recent hstored ?_
    rw [hrecent]
    refine congrArg _ ?_
    by_cases hmem : hex ∈ before.take (preferredLimit - 1)
    · -- The SSID is dropped, and then the filter is invisible in the first of the others.
      have hfilter : before.filter (fun line => !Awk.equal beyond line hex) =
          (before.filter (· ≠ hex)).filter fun line => !Awk.equal beyond line hex := by
        rw [List.filter_filter]
        refine List.filter_congr ?_
        intro line _
        by_cases h : line = hex <;> simp [h, hself hmem]
      rw [hfilter]
      exact (Recent.take_filter_eq_iff _ _ _).2 fun other hother => by simp [hapart other hother]
    · rw [behind_eq_take hmem] at hapart ⊢
      exact (Recent.take_filter_eq_iff _ _ _).2 fun other hother => by simp [hapart other hother]

/-- After a lawful update the list is one of those that the scripts store. -/
theorem stored_update {hex : Bytes} {before after : List Bytes} (hhex : validProfileHex hex = true)
    (hstored : Stored before) (hlaw : Law hex before after) : Stored after where
  nodup := hlaw.nodup
  length := by
    rw [hlaw.recent]
    exact List.length_take_le _ _
  valid := by
    intro line hline
    rw [hlaw.recent] at hline
    rcases List.mem_cons.1 (List.mem_of_mem_take hline) with rfl | hline
    · exact hhex
    · exact hstored.valid line (List.mem_filter.1 hline).1

end Preferred

/-! ### The two updates -/

theorem all_isLowerDigit_encode (ssid : Bytes) : (Hex.encode ssid).all Hex.isLowerDigit = true :=
  List.all_eq_true.2 fun _ => Hex.mem_encode

/-- The digits of an SSID of at most 32 bytes may be stored. -/
theorem validProfileHex_ssidHex {ssid : Bytes} (hmin : 1 ≤ ssid.length) (hmax : ssid.length ≤ 32) :
    validProfileHex (ssidHex ssid) = true := by
  have hnil : Hex.encode ssid ≠ [] := by
    intro h
    rw [Hex.encode_eq_nil.1 h, List.length_nil] at hmin
    omega
  rw [validProfileHex_iff, ssidHex_eq, Hex.length_encode]
  exact ⟨hnil, all_isLowerDigit_encode ssid, by omega, by omega⟩

/-- What the script that adds a profile does with the file of preferred SSIDs. -/
theorem preferred_profileAdd {files after : WifiFiles} {pid : ℕ} {input : Bytes}
    (h : profileAdd beyond files pid input = some after) :
    validProfileHex (ssidHex (Awk.field 0x0a input)) = true ∧
      after.preferred =
        some (prefer beyond (ssidHex (Awk.field 0x0a input)) 8 files.preferred) := by
  unfold profileAdd at h
  cases hline : readLine input with
  | none => simp [hline] at h
  | some found =>
      obtain ⟨ssid, rest⟩ := found
      have hssid : Awk.field 0x0a input = ssid := by
        unfold readLine at hline
        split at hline
        · exact congrArg Prod.fst (Option.some.inj hline)
        · cases hline
      simp only [hline] at h
      cases hnext : readLine rest with
      | none => simp [hnext] at h
      | some found =>
          simp only [hnext, Option.ite_none_left_eq_some, Option.some.injEq] at h
          -- All checks have passed, and with them the one of the length.
          obtain ⟨-, hlength, -, -, -, -, -, -, rfl⟩ := h
          have hbounds : 1 ≤ ssid.length ∧ ssid.length ≤ 32 := by
            simpa only [validLength, Bool.not_eq_true', Bool.not_eq_false, Bool.and_eq_true,
              decide_eq_true_eq] using hlength
          rw [hssid]
          exact ⟨validProfileHex_ssidHex hbounds.1 hbounds.2, rfl⟩

/-- What the selector does with the file of preferred SSIDs. -/
theorem preferred_recordSuccess {files after : WifiFiles} {reported : Bytes}
    (h : recordSuccess beyond files reported = some after) :
    validProfileHex (ssidHex (substituted reported)) = true ∧
      if files.stored.headD [] = ssidHex (substituted reported) then after = files
      else after.preferred =
        some (prefer beyond (ssidHex (substituted reported)) preferredLimit files.preferred) := by
  unfold recordSuccess at h
  simp only [Option.ite_none_left_eq_some, Bool.not_eq_true', Bool.not_eq_false] at h
  obtain ⟨-, hvalid, h⟩ := h
  refine ⟨hvalid, ?_⟩
  by_cases hfirst : files.stored.headD [] = ssidHex (substituted reported)
  · rw [if_pos hfirst]
    rw [WifiFiles.stored] at hfirst
    rw [if_pos hfirst] at h
    exact (Option.some.inj h).symm
  · rw [if_neg hfirst]
    rw [WifiFiles.stored] at hfirst
    rw [if_neg hfirst] at h
    cases h
    rfl

namespace WifiUpdate

/-- **What an update does with the stored list**: it leaves it, with its SSID in front, or it puts
its SSID before what the awk program leaves. -/
theorem stored_run {files after : WifiFiles} {update : WifiUpdate}
    (hstored : Preferred.Stored files.stored) (h : run beyond files update = some after) :
    validProfileHex (ssidHex update.ssid) = true ∧
      (InFront files update ∧ files.stored.headD [] = ssidHex update.ssid ∧
          after.stored = files.stored ∨
        ¬ InFront files update ∧
          after.stored = ssidHex update.ssid ::
            (files.stored.filter fun line => !Awk.equal beyond line (ssidHex update.ssid)).take
              (preferredLimit - 1)) := by
  cases update with
  | profileAdd pid input =>
      obtain ⟨hvalid, hpreferred⟩ := preferred_profileAdd h
      refine ⟨hvalid, Or.inr ⟨fun hfront => hfront, ?_⟩⟩
      rw [WifiFiles.stored, hpreferred, Option.getD_some]
      exact prefer_eq hvalid hstored
  | recordSuccess reported =>
      obtain ⟨hvalid, hpreferred⟩ := preferred_recordSuccess h
      refine ⟨hvalid, ?_⟩
      by_cases hfirst : files.stored.headD [] = ssidHex (substituted reported)
      · rw [if_pos hfirst] at hpreferred
        exact Or.inl ⟨hfirst, hfirst, by rw [hpreferred]⟩
      · rw [if_neg hfirst] at hpreferred
        refine Or.inr ⟨hfirst, ?_⟩
        rw [WifiFiles.stored, hpreferred, Option.getD_some]
        exact prefer_eq hvalid hstored

/-- The law for a list whose first entry is touched again. -/
theorem law_of_inFront {hex : Bytes} {before : List Bytes} (hhex : validProfileHex hex = true)
    (hstored : Preferred.Stored before) (hfirst : before.headD [] = hex) :
    Preferred.Law hex before before := by
  refine Preferred.law_of_recent hstored ?_
  cases before with
  | nil =>
      -- The digits of an SSID are not empty, so something is in front.
      rw [List.headD_nil] at hfirst
      exact absurd hfirst.symm (validProfileHex_iff.1 hhex).1
  | cons first rest =>
      rw [List.headD_cons] at hfirst
      subst hfirst
      exact (Recent.touch_head hstored.nodup hstored.length).symm

/-- One update does what it should exactly when it finds the entries apart. -/
theorem law_run_iff {files : WifiFiles} (hstored : Preferred.Stored files.stored)
    (update : WifiUpdate) :
    (∀ after, run beyond files update = some after →
        Preferred.Law (ssidHex update.ssid) files.stored after.stored) ↔
      Apart beyond files update := by
  unfold Apart
  cases hrun : run beyond files update with
  | none => simp
  | some after =>
      obtain ⟨hvalid, ⟨hfront, hfirst, hsame⟩ | ⟨hfront, hnew⟩⟩ := stored_run hstored hrun
      · constructor
        · intro _ _
          exact Or.inl hfront
        · rintro - after' hafter
          cases hafter
          rw [hsame]
          exact law_of_inFront hvalid hstored hfirst
      · have hlaw := @Preferred.law_iff beyond (ssidHex update.ssid) _ hstored
        constructor
        · intro h _
          refine Or.inr (hlaw.1 ?_)
          rw [← hnew]
          exact h after rfl
        · intro h after' hafter
          cases hafter
          rw [hnew]
          exact hlaw.2 ((h rfl).resolve_left hfront)

/-- The lists stay ones that the scripts store, as long as the updates do what they should. -/
theorem stored_step {files : WifiFiles} (hstored : Preferred.Stored files.stored)
    (update : WifiUpdate) (h : Apart beyond files update) :
    Preferred.Stored (step beyond files update).stored := by
  have hlaw := (law_run_iff hstored update).2 h
  unfold step
  cases hrun : run beyond files update with
  | none => exact hstored
  | some after =>
      exact Preferred.stored_update (stored_run hstored hrun).1 hstored (hlaw after hrun)

/-- **From no file, a run of updates follows the law exactly when all its steps find the entries
apart**, whatever the awk reads in a number that is out of the range of the doubles. -/
theorem updates_lawful_iff (beyond : Awk.Beyond) (profiles : ProfileDir)
    (updates : List WifiUpdate) :
    Lawful beyond ⟨profiles, none⟩ updates ↔
      Run.Each (step beyond) (Apart beyond) ⟨profiles, none⟩ updates := by
  have hstart : Preferred.Stored (WifiFiles.mk profiles none).stored :=
    ⟨List.nodup_nil, Nat.zero_le _, fun _ h => absurd h List.not_mem_nil⟩
  exact Run.each_congr (J := fun files => Preferred.Stored files.stored)
    (fun _ update hstored => law_run_iff hstored update)
    (fun _ update hstored happart => stored_step hstored update happart) hstart updates

/-- Two networks whose digits are decimal and differ in the last of twenty places. -/
def decimalUpdates : List WifiUpdate :=
  [.recordSuccess (ascii "1111111111"), .recordSuccess (ascii "1111111112")]

/-- **The second network replaces the first one**, whose digits are the same double: one entry is
stored, although the limit is eight. -/
theorem not_lawful_decimalUpdates :
    ¬ Lawful Awk.ieee ⟨.empty, none⟩ decimalUpdates ∧
      (decimalUpdates.foldl (step Awk.ieee) ⟨.empty, none⟩).preferred =
        some [ascii "31313131313131313132"] := by
  refine ⟨?_, by decide +kernel⟩
  intro h
  have hlaw := h.2.1 _ rfl
  exact absurd hlaw.recent (by decide +kernel)

/-- The digits of `net1` are `6e657431`, a number out of the range. Where it is not equal to itself,
the entry before is not dropped. -/
example : ([.recordSuccess (ascii "net1"), .recordSuccess (ascii "wifi"),
      .recordSuccess (ascii "net1")].foldl (step fun _ => .nan) ⟨.empty, none⟩).preferred =
    some [ascii "6e657431", ascii "77696669", ascii "6e657431"] := by decide +kernel

end WifiUpdate

end NesDeck
