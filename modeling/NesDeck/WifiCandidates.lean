/-
**The candidates of the selector.**

When the network is lost, `deck-wifi-select` makes a list of the networks to try: it takes the
networks of the scan for which there is an enabled profile with a valid key, then all other profiles
with one, and lets the preferred networks come forward; the network that is configured comes first.
The list is kept in files of lines, an SSID in digits and the name of a profile with a TAB between
them, and awk looks for an SSID in these lines.  Digits that look like a number are compared as one.

Main definitions:

* `NesDeck.Candidate` — an entry of the list, with its line;
* `NesDeck.Survey.buildCandidateList` — the list, from the files that the script writes;
* `NesDeck.Survey` — what it is made from: the profiles, the current SSID, the preferred ones and
  the scan;
* `NesDeck.Survey.Lawful` — what the list should be;
* `NesDeck.Survey.NoneLost`, `NesDeck.Survey.NoneTwice`, `NesDeck.Survey.NoneEarly`,
  `NesDeck.Survey.NoneLate` — when it is that.

Main results:

* `NesDeck.Survey.buildCandidateList_eq` — the list, as a shortlist of the offers;
* `NesDeck.Survey.noneLost_iff`, `NesDeck.Survey.noneTwice_iff` — when every usable SSID has an
  entry, and when none has two;
* `NesDeck.Survey.map_decoded_entries`, `NesDeck.Survey.inOrder_iff` — the order of the list, as the
  script reads it, and when that is the order in which the networks should be tried;
* `NesDeck.Survey.candidates_lawful_iff` — **the list is what it should be exactly when no usable
  SSID is lost or kept twice**, no preferred line calls a network too early, and no wanted network
  is tried too late;
* `NesDeck.Survey.Plain.lawful` — a simple reason for all that.
-/

import NesDeck.Lib.Precedence
import NesDeck.Lib.Shortlist
import NesDeck.WifiPreferred

set_option relaxedAutoImplicit false
set_option autoImplicit false

namespace NesDeck

open HostFile (Bytes ascii)

/-! ### The script -/

/-- A row of the sorted scan.  `scan_once` leaves rows without SSID out. -/
structure ScanRow where
  advertisesPsk : Bool
  ssid : Bytes
  named : ssid ≠ []

/-- What the list is made from: the profile directory and the order in which it is listed, the SSID
that `uci` reports for the station (nothing when it reports none), the file of preferred SSIDs, and
the rows of the scan by rank; and what the awk of the device reads in a number that is out of the
range of the doubles. -/
structure Survey where
  beyond : Awk.Beyond
  order : GlobOrder
  dir : ProfileDir
  current : Bytes
  preferred : Option (List Bytes)
  scan : List ScanRow

/-- An entry of the list: the digits of an SSID, and the name of a profile. -/
structure Candidate where
  hex : Bytes
  profile : Bytes
  deriving DecidableEq

/-- `printf '%s\t%s\n'` of the digits and the profile. -/
def Candidate.text (candidate : Candidate) : Bytes :=
  candidate.hex ++ 0x09 :: (candidate.profile ++ [0x0a])

/-- The line of an entry. -/
def Candidate.line (candidate : Candidate) : Bytes :=
  candidate.hex ++ 0x09 :: candidate.profile

/-- The SSID of an entry: the one of the profile that it names. -/
def Candidate.ssid (candidate : Candidate) : Bytes := profileSsid candidate.profile

/-- The SSID that the digits of an entry stand for. -/
def Candidate.decoded (candidate : Candidate) : Bytes := Hex.decode candidate.hex

/-- The lines of `$CANDIDATES` and of `$CURRENT_CANDIDATE`. -/
structure CandidateFiles where
  candidates : List Bytes
  current : List Bytes

/-- awk finds an SSID in the first field of a line. -/
def hasHex (beyond : Awk.Beyond) (wantedHex line : Bytes) : Bool :=
  Awk.equal beyond (Awk.field 0x09 line) (Awk.assigned wantedHex)

/-- `candidate_already_added`. -/
def candidateAlreadyAdded (beyond : Awk.Beyond) (files : CandidateFiles)
    (wantedHex : Bytes) : Bool :=
  (files.candidates ++ files.current).any (hasHex beyond wantedHex)

/-- A candidate is added to one of the two files, unless its SSID is in one of them. -/
def addCandidate (beyond : Awk.Beyond) (currentHex : Bytes) (files : CandidateFiles)
    (candidate : Candidate) : CandidateFiles :=
  if candidateAlreadyAdded beyond files candidate.hex then files
  else if currentHex ≠ [] ∧ candidate.hex = currentHex then
    { files with current := files.current ++ Awk.records candidate.text }
  else { files with candidates := files.candidates ++ Awk.records candidate.text }

/-- A profile that may be tried: it is enabled and has a valid key. -/
def usableProfile (profile : Profile) : Bool :=
  profileEnabled profile.content && (loadProfileKey profile.content).isSome

namespace Survey

def currentHex (survey : Survey) : Bytes := ssidHex survey.current

def profiles (survey : Survey) : List Profile := psks survey.order survey.dir

def preferredLines (survey : Survey) : List Bytes := survey.preferred.getD []

/-- The first loop: the networks of the scan. -/
def addScanned (survey : Survey) (files : CandidateFiles) (row : ScanRow) : CandidateFiles :=
  if row.advertisesPsk then
    match findEnabledProfile survey.order survey.dir (ssidHex row.ssid) with
    | none => files
    | some profile =>
        if (loadProfileKey profile.content).isNone then files
        else addCandidate survey.beyond survey.currentHex files ⟨ssidHex row.ssid, profile.name⟩
  else files

/-- The second loop: the saved profiles. -/
def addSaved (survey : Survey) (files : CandidateFiles) (profile : Profile) : CandidateFiles :=
  if !profileEnabled profile.content then files
  else if (loadProfileKey profile.content).isNone then files
  else if profileHex profile.name = [] then files
  else addCandidate survey.beyond survey.currentHex files ⟨profileHex profile.name, profile.name⟩

/-- The third loop: a preferred SSID moves its line from `$CANDIDATES` to
`$PREFERRED_CANDIDATES`. -/
def moveForward (survey : Survey) (files : List Bytes × List Bytes) (preferredHex : Bytes) :
    List Bytes × List Bytes :=
  if !validProfileHex preferredHex then files
  else if preferredHex = survey.currentHex then files
  else
    match files.2.find? (hasHex survey.beyond preferredHex) with
    | some line =>
        (files.1 ++ [line], files.2.filter fun line => !hasHex survey.beyond preferredHex line)
    | none => files

/-- The two files after the first two loops. -/
def added (survey : Survey) : CandidateFiles :=
  survey.profiles.foldl survey.addSaved (survey.scan.foldl survey.addScanned ⟨[], []⟩)

/-- `build_candidate_list`: the lines that are left in `$CANDIDATES`. -/
def buildCandidateList (survey : Survey) : List Bytes :=
  let files := survey.added
  let moved := survey.preferredLines.foldl survey.moveForward ([], files.candidates)
  files.current ++ moved.1 ++ moved.2

/-! ### What the list should be -/

/-- The saved profiles that may be tried.  A profile `=.psk` has no SSID. -/
def usable (survey : Survey) : List Profile :=
  survey.profiles.filter fun profile =>
    usableProfile profile && (profileHex profile.name ≠ [] : Bool)

/-- The SSIDs with a usable profile. -/
def ssids (survey : Survey) : List Bytes :=
  survey.usable.map fun profile => profileSsid profile.name

/-- The networks of the scan that advertise a PSK, by rank. -/
def advertised (survey : Survey) : List Bytes :=
  (survey.scan.filter (·.advertisesPsk)).map ScanRow.ssid

/-- The digits in the file of preferred SSIDs, in its order. -/
def preferredHexes (survey : Survey) : List Bytes := survey.preferredLines.filter validProfileHex

/-- The networks in the order in which they should be tried before the rest: the current one, the
preferred ones, the scanned ones. -/
def wanted (survey : Survey) : List Bytes :=
  (([survey.current].filter (· ≠ []) ++
    (survey.preferredHexes.map Hex.decode ++ survey.advertised)).filter
      (· ∈ survey.ssids)).eraseDups

/-- An entry names a usable profile with its digits. -/
def Names (survey : Survey) (entry : Candidate) : Prop :=
  ∃ profile ∈ survey.profiles, profile.name = entry.profile ∧
    profileHex profile.name = entry.hex ∧ usableProfile profile = true

/-- The list has one entry for each SSID with a usable profile, each entry names such a profile, and
they are in the order in which they should be tried. -/
structure Listed (survey : Survey) (entries : List Candidate) : Prop where
  profile : ∀ entry ∈ entries, survey.Names entry
  once : (entries.map Candidate.ssid).Nodup
  every : ∀ ssid, ssid ∈ entries.map Candidate.ssid ↔ ssid ∈ survey.ssids
  order : survey.wanted <+: entries.map Candidate.ssid

/-- The lines are those of a list as it should be. -/
def Lawful (survey : Survey) : Prop :=
  ∃ entries, survey.buildCandidateList = entries.map Candidate.line ∧ survey.Listed entries

/-! ### When it is that -/

/-- The names of the usable profiles have no newline, and their digits neither TAB nor backslash, as
it is with all names that IWD gives: nothing breaks the lines, and awk is given the digits as they
are. -/
def Tidy (survey : Survey) : Prop :=
  ∀ profile ∈ survey.profiles, usableProfile profile = true →
    0x0a ∉ profile.name ∧ 0x09 ∉ profileHex profile.name ∧ 0x5c ∉ profileHex profile.name

/-- The digits of the usable profiles, in the order of the directory. -/
def saved (survey : Survey) : List Bytes := survey.usable.map fun profile => profileHex profile.name

/-- The digits of the networks of the scan that advertise a PSK, by rank. -/
def scanned (survey : Survey) : List Bytes := survey.advertised.map ssidHex

/-- The first enabled profile for an SSID has a valid key. -/
def offered (survey : Survey) (hex : Bytes) : Bool :=
  ((findEnabledProfile survey.order survey.dir hex).bind fun profile =>
    loadProfileKey profile.content).isSome

/-- The digits that the two loops offer, one after the other. -/
def offeredHexes (survey : Survey) : List Bytes :=
  survey.scanned.filter survey.offered ++ survey.saved

/-- The digits that some digits are taken for: the first ones offered that compare equal. -/
def readAs (survey : Survey) (hex : Bytes) : Option Bytes :=
  survey.offeredHexes.find? fun first => Awk.equal survey.beyond first hex

/-- Some digits are not taken for those of another SSID. -/
def own (survey : Survey) (hex : Bytes) : Bool :=
  (survey.readAs hex).all fun first => Hex.decode first = Hex.decode hex

/-- No usable SSID is lost: one of its profiles has digits that are not taken for those of another
SSID. -/
def NoneLost (survey : Survey) : Prop :=
  ∀ hex ∈ survey.saved, ∃ other ∈ survey.saved,
    survey.own other = true ∧ Hex.decode other = Hex.decode hex

/-- No SSID is kept twice: two offers of one SSID compare equal, unless one of them is taken for
another SSID. -/
def NoneTwice (survey : Survey) : Prop :=
  survey.offeredHexes.Pairwise fun a b =>
    survey.own a = true → survey.own b = true → Hex.decode a = Hex.decode b →
      Awk.equal survey.beyond a b = true

/-- The current network is found by its digits: they are offered, and not taken for others. -/
def recognised (survey : Survey) : Bool :=
  survey.currentHex ∈ survey.offeredHexes &&
    (survey.readAs survey.currentHex).all (· = survey.currentHex)

/-- The current network, when it is found. -/
def front (survey : Survey) : List Bytes := [survey.current].filter fun _ => survey.recognised

/-- The usable SSID that a preferred line calls. -/
def called (survey : Survey) (line : Bytes) : Option Bytes := (survey.readAs line).map Hex.decode

/-- The lines that call: the preferred ones other than the current SSID. -/
def callers (survey : Survey) : List Bytes := survey.preferredHexes.filter (· ≠ survey.currentHex)

/-- The SSIDs in the order of their offers. -/
def ownOffers (survey : Survey) : List Bytes :=
  (survey.offeredHexes.filter survey.own).map Hex.decode

/-- The order as the script reads it: the current network when it is found, the networks that the
preferred lines call, and the others as they are offered. -/
def readOrder (survey : Survey) : List Bytes :=
  (survey.front ++ (survey.callers.filterMap survey.called ++ survey.ownOffers)).eraseDups

/-- The reading leaves the networks in the order in which they should be tried. -/
def InOrder (survey : Survey) : Prop := survey.wanted <+: survey.readOrder

/-- One network should be tried before another one. -/
def Due (survey : Survey) (a b : Bytes) : Prop := Precedence.Ahead survey.wanted a b

/-- No preferred line calls a network before its turn: what should be tried before it is the current
network, which is found, or an earlier line calls it. -/
def NoneEarly (survey : Survey) : Prop :=
  ∀ before line after ssid, survey.callers = before ++ line :: after →
    survey.called line = some ssid →
      ∀ other, survey.Due other ssid →
        other ∈ survey.front ∨ other ∈ before.filterMap survey.called

/-- No wanted network that is not found as the current one and not called by a preferred line has to
wait for one that should be tried after it: none of these is offered first. -/
def NoneLate (survey : Survey) : Prop :=
  ∀ ssid other, survey.Due ssid other → ssid ∉ survey.front →
    ssid ∉ survey.callers.filterMap survey.called →
      ¬Precedence.Ahead survey.ownOffers other ssid

/-! ### Lines and entries -/

/-- What awk compares of an entry. -/
def key (survey : Survey) (entry : Candidate) : Option (Awk.Double ⊕ Bytes) :=
  Awk.key survey.beyond entry.hex

/-- Nothing in an entry breaks its line or is changed by awk. -/
structure Clean (entry : Candidate) : Prop where
  line : 0x0a ∉ entry.line
  tab : 0x09 ∉ entry.hex
  backslash : 0x5c ∉ entry.hex

theorem Clean.records {entry : Candidate} (h : Clean entry) :
    Awk.records entry.text = [entry.line] := by
  have htext : entry.text = entry.line ++ 0x0a :: [] := by
    simp [Candidate.text, Candidate.line]
  rw [htext, Awk.records_cons_line h.line]
  rfl

theorem Clean.field {entry : Candidate} (h : Clean entry) :
    Awk.field 0x09 entry.line = entry.hex :=
  Awk.field_append h.tab

theorem hasHex_line {survey : Survey} {entry : Candidate} (h : Clean entry) {hex : Bytes}
    (hhex : 0x5c ∉ hex) :
    hasHex survey.beyond hex entry.line = true ↔
      ∃ k, survey.key entry = some k ∧ Awk.key survey.beyond hex = some k := by
  unfold hasHex
  rw [h.field, Awk.assigned_of_not_mem hhex]
  exact Awk.equal_iff_key _ _

/-- A line that is looked for by its key. -/
theorem hasHex_line_of_key {survey : Survey} {entry : Candidate} (h : Clean entry) {hex : Bytes}
    (hhex : 0x5c ∉ hex) {k : Awk.Double ⊕ Bytes} (hk : Awk.key survey.beyond hex = some k) :
    hasHex survey.beyond hex entry.line = true ↔ survey.key entry = some k := by
  rw [hasHex_line h hhex, hk]
  simp [eq_comm]

/-- The entry of the configured network. -/
def isCurrent (survey : Survey) (entry : Candidate) : Bool :=
  survey.currentHex ≠ [] && (entry.hex = survey.currentHex : Bool)

/-- The two files that hold some entries. -/
def filesOf (survey : Survey) (got : List Candidate) : CandidateFiles where
  candidates := (got.filter fun entry => !survey.isCurrent entry).map Candidate.line
  current := (got.filter survey.isCurrent).map Candidate.line

theorem candidateAlreadyAdded_filesOf (survey : Survey) {got : List Candidate} {entry : Candidate}
    (hgot : ∀ other ∈ got, Clean other) (hentry : Clean entry) :
    candidateAlreadyAdded survey.beyond (survey.filesOf got) entry.hex = true ↔
      (survey.key entry).isSome ∧ survey.key entry ∈ got.map survey.key := by
  unfold candidateAlreadyAdded filesOf
  rw [List.any_eq_true, List.mem_map]
  simp only [List.mem_append, List.mem_map, List.mem_filter]
  have hhas : ∀ other ∈ got, hasHex survey.beyond entry.hex other.line = true ↔
      ∃ k, survey.key other = some k ∧ survey.key entry = some k :=
    fun other hother => hasHex_line (hgot other hother) hentry.backslash
  constructor
  · have hsame : ∀ other ∈ got, hasHex survey.beyond entry.hex other.line = true →
        (survey.key entry).isSome ∧ ∃ other ∈ got, survey.key other = survey.key entry := by
      intro other hother hline
      obtain ⟨k, hkother, hkentry⟩ := (hhas other hother).1 hline
      exact ⟨by rw [hkentry]; rfl, other, hother, hkother.trans hkentry.symm⟩
    rintro ⟨_, ⟨other, ⟨hother, -⟩, rfl⟩ | ⟨other, ⟨hother, -⟩, rfl⟩, hline⟩
    · exact hsame other hother hline
    · exact hsame other hother hline
  · rintro ⟨hsome, other, hother, hkey⟩
    obtain ⟨k, hk⟩ := Option.isSome_iff_exists.1 hsome
    refine ⟨other.line, ?_, (hhas other hother).2 ⟨k, hkey.trans hk, hk⟩⟩
    -- The line is in one of the two files.
    cases hcurrent : survey.isCurrent other with
    | true => exact Or.inr ⟨other, ⟨hother, hcurrent⟩, rfl⟩
    | false => exact Or.inl ⟨other, ⟨hother, by rw [hcurrent]; rfl⟩, rfl⟩

/-- Adding a candidate to the files adds it to the shortlist. -/
theorem addCandidate_filesOf (survey : Survey) {got : List Candidate} {entry : Candidate}
    (hgot : ∀ other ∈ got, Clean other) (hentry : Clean entry) :
    addCandidate survey.beyond survey.currentHex (survey.filesOf got) entry =
      survey.filesOf (Shortlist.accept survey.key got entry) := by
  have hadded := survey.candidateAlreadyAdded_filesOf hgot hentry
  unfold addCandidate Shortlist.accept
  by_cases hkey : (survey.key entry).isSome ∧ survey.key entry ∈ got.map survey.key
  · rw [if_pos (hadded.2 hkey), if_pos hkey]
  · rw [if_neg fun h => hkey (hadded.1 h), if_neg hkey, hentry.records]
    unfold filesOf
    rw [List.filter_append, List.filter_append, List.map_append, List.map_append]
    cases hcurrent : survey.isCurrent entry with
    | true =>
        rw [if_pos (by simpa [isCurrent] using hcurrent)]
        simp [hcurrent]
    | false =>
        rw [if_neg (by simpa [isCurrent] using hcurrent)]
        simp [hcurrent]

/-! ### The offers -/

/-- What the first loop offers for a row. -/
def offerScanned (survey : Survey) (row : ScanRow) : Option Candidate :=
  if row.advertisesPsk then
    match findEnabledProfile survey.order survey.dir (ssidHex row.ssid) with
    | none => none
    | some profile =>
        if (loadProfileKey profile.content).isNone then none
        else some ⟨ssidHex row.ssid, profile.name⟩
  else none

/-- What the second loop offers for a profile. -/
def offerSaved (profile : Profile) : Option Candidate :=
  if usableProfile profile && (profileHex profile.name ≠ [] : Bool) then
    some ⟨profileHex profile.name, profile.name⟩
  else none

/-- All offers. -/
def offers (survey : Survey) : List Candidate :=
  survey.scan.filterMap survey.offerScanned ++ survey.profiles.filterMap offerSaved

theorem addScanned_eq (survey : Survey) (files : CandidateFiles) (row : ScanRow) :
    survey.addScanned files row =
      match survey.offerScanned row with
      | some entry => addCandidate survey.beyond survey.currentHex files entry
      | none => files := by
  unfold addScanned offerScanned
  split
  · cases findEnabledProfile survey.order survey.dir (ssidHex row.ssid) with
    | none => rfl
    | some profile =>
        simp only
        split <;> rfl
  · rfl

theorem addSaved_eq (survey : Survey) (files : CandidateFiles) (profile : Profile) :
    survey.addSaved files profile =
      match offerSaved profile with
      | some entry => addCandidate survey.beyond survey.currentHex files entry
      | none => files := by
  unfold addSaved offerSaved usableProfile
  by_cases henabled : profileEnabled profile.content = true
  · cases hkey : loadProfileKey profile.content with
    | none => simp [henabled]
    | some value => by_cases hnil : profileHex profile.name = [] <;> simp [henabled, hnil]
  · simp [henabled]

/-- A loop that adds what it is offered. -/
theorem foldl_offer {σ β : Type} {step : σ → β → σ} {add : σ → Candidate → σ}
    {offer : β → Option Candidate}
    (h : ∀ files x, step files x =
      match offer x with
      | some entry => add files entry
      | none => files) (xs : List β) (files : σ) :
    xs.foldl step files = (xs.filterMap offer).foldl add files := by
  induction xs generalizing files with
  | nil => rfl
  | cons x xs ih =>
      rw [List.foldl_cons, h, List.filterMap_cons]
      cases offer x with
      | none => exact ih files
      | some entry => exact ih (add files entry)

/-- The two loops add the offers. -/
theorem added_eq (survey : Survey) :
    survey.added =
      survey.offers.foldl (addCandidate survey.beyond survey.currentHex) ⟨[], []⟩ := by
  unfold added offers
  rw [List.foldl_append, foldl_offer survey.addScanned_eq, foldl_offer survey.addSaved_eq]

/-! ### What is offered -/

theorem mem_substituted {text : Bytes} {c : UInt8} (h : c ∈ substituted text) : c ∈ text := by
  unfold substituted at h
  rw [List.mem_reverse] at h
  exact List.mem_reverse.1 ((List.dropWhile_sublist _).subset h)

theorem mem_profileName {name : Bytes} {c : UInt8} (h : c ∈ profileName name) : c ∈ name := by
  unfold profileName at h
  split at h
  · exact List.mem_of_mem_take h
  · exact h

/-- Only a newline becomes a newline. -/
theorem eq_newline_of_lowerDigit {c : UInt8} (h : Hex.lowerDigit c = 0x0a) : c = 0x0a := by
  unfold Hex.lowerDigit at h
  split at h
  · next hcap =>
      -- A capital letter does not.
      have hvalue := congrArg UInt8.toNat h
      simp only [UInt8.le_iff_toNat_le, UInt8.toNat_add] at hcap hvalue
      simp at hcap hvalue
      omega
  · exact h

/-- A name without newline has digits without newline. -/
theorem newline_not_mem_profileHex {name : Bytes} (h : 0x0a ∉ name) : 0x0a ∉ profileHex name := by
  intro hmem
  unfold profileHex at hmem
  cases hname : profileName name with
  | nil =>
      rw [hname] at hmem
      exact absurd hmem (by decide)
  | cons c rest =>
      rw [hname] at hmem
      simp only at hmem
      split at hmem
      · obtain ⟨d, hd, hlower⟩ := List.mem_map.1 (mem_substituted hmem)
        have hmemName : d ∈ name :=
          mem_profileName (by rw [hname]; exact List.mem_cons_of_mem _ hd)
        exact h (eq_newline_of_lowerDigit hlower ▸ hmemName)
      · exact not_mem_encode (c :: rest) rfl hmem

theorem newline_not_mem_line {entry : Candidate} (hhex : 0x0a ∉ entry.hex)
    (hprofile : 0x0a ∉ entry.profile) : 0x0a ∉ entry.line := by
  unfold Candidate.line
  rw [List.mem_append, List.mem_cons]
  rintro (hmem | hmem | hmem)
  · exact hhex hmem
  · exact absurd hmem (by decide)
  · exact hprofile hmem

theorem mem_usable {survey : Survey} {profile : Profile} :
    profile ∈ survey.usable ↔
      profile ∈ survey.profiles ∧ usableProfile profile = true ∧ profileHex profile.name ≠ [] := by
  unfold usable
  rw [List.mem_filter, Bool.and_eq_true, decide_eq_true_eq]

theorem mem_saved {survey : Survey} {hex : Bytes} :
    hex ∈ survey.saved ↔ ∃ profile ∈ survey.usable, profileHex profile.name = hex := by
  unfold saved
  rw [List.mem_map]

theorem saved_ne_nil {survey : Survey} {hex : Bytes} (h : hex ∈ survey.saved) : hex ≠ [] := by
  obtain ⟨profile, hmem, rfl⟩ := mem_saved.1 h
  exact (mem_usable.1 hmem).2.2

theorem Names.mem_saved {survey : Survey} {entry : Candidate} (h : survey.Names entry)
    (hnil : entry.hex ≠ []) : entry.hex ∈ survey.saved := by
  obtain ⟨profile, hmem, -, hhex, husable⟩ := h
  exact Survey.mem_saved.2 ⟨profile, mem_usable.2 ⟨hmem, husable, by rwa [hhex]⟩, hhex⟩

theorem Names.clean {survey : Survey} {entry : Candidate} (htidy : survey.Tidy)
    (h : survey.Names entry) : Clean entry := by
  obtain ⟨profile, hmem, hname, hhex, husable⟩ := h
  obtain ⟨hnewline, htab, hbackslash⟩ := htidy profile hmem husable
  have hdigits := newline_not_mem_profileHex hnewline
  rw [hhex] at htab hbackslash hdigits
  rw [hname] at hnewline
  exact ⟨newline_not_mem_line hdigits hnewline, htab, hbackslash⟩

theorem ssidHex_ne_nil {ssid : Bytes} (h : ssid ≠ []) : ssidHex ssid ≠ [] := by
  rw [ssidHex_eq]
  exact fun hnil => h (Hex.encode_eq_nil.1 hnil)

/-- What the first loop offers names a usable profile. -/
theorem names_offerScanned {survey : Survey} {row : ScanRow} {entry : Candidate}
    (h : survey.offerScanned row = some entry) : survey.Names entry ∧ entry.hex ≠ [] := by
  unfold offerScanned at h
  split at h
  · cases hfind : findEnabledProfile survey.order survey.dir (ssidHex row.ssid) with
    | none => simp [hfind] at h
    | some profile =>
        simp only [hfind, Option.ite_none_left_eq_some, Option.some.injEq] at h
        obtain ⟨hkey, rfl⟩ := h
        have htest := List.find?_some hfind
        simp only [Bool.and_eq_true, decide_eq_true_eq] at htest
        refine ⟨⟨profile, mem_psks_of_findEnabledProfile hfind, rfl, htest.2, ?_⟩,
          ssidHex_ne_nil row.named⟩
        simp only [usableProfile, htest.1, Bool.true_and]
        simpa [Option.isSome_iff_ne_none] using hkey
  · cases h

/-- What the second loop offers names a usable profile. -/
theorem names_offerSaved {survey : Survey} {profile : Profile} {entry : Candidate}
    (hmem : profile ∈ survey.profiles) (h : offerSaved profile = some entry) :
    survey.Names entry ∧ entry.hex ≠ [] := by
  unfold offerSaved at h
  split at h
  · next htest =>
      simp only [Bool.and_eq_true, decide_eq_true_eq] at htest
      cases h
      exact ⟨⟨profile, hmem, rfl, rfl, htest.1⟩, htest.2⟩
  · cases h

theorem names_of_mem_offers {survey : Survey} {entry : Candidate} (h : entry ∈ survey.offers) :
    survey.Names entry ∧ entry.hex ≠ [] := by
  rcases List.mem_append.1 h with h | h
  · obtain ⟨row, -, hoffer⟩ := List.mem_filterMap.1 h
    exact names_offerScanned hoffer
  · obtain ⟨profile, hmem, hoffer⟩ := List.mem_filterMap.1 h
    exact names_offerSaved hmem hoffer

/-- The SSIDs that a loop offers, when it is known for each step whether it offers one. -/
theorem map_hex_filterMap {β : Type} {offer : β → Option Candidate} {p : β → Bool} {hex : β → Bytes}
    (h : ∀ x, (offer x).map Candidate.hex = if p x then some (hex x) else none) (xs : List β) :
    (xs.filterMap offer).map Candidate.hex = (xs.filter p).map hex := by
  rw [List.map_filterMap]
  simp only [h]
  induction xs with
  | nil => rfl
  | cons x xs ih =>
      cases hp : p x with
      | true =>
          rw [List.filterMap_cons_some (by rw [hp, if_pos rfl]), List.filter_cons_of_pos hp,
            List.map_cons, ih]
      | false =>
          rw [List.filterMap_cons_none (by simp [hp]), List.filter_cons_of_neg (by simp [hp]), ih]

/-- The first loop offers the networks of the scan whose first profile has a valid key. -/
theorem map_hex_offerScanned (survey : Survey) :
    (survey.scan.filterMap survey.offerScanned).map Candidate.hex =
      survey.scanned.filter survey.offered := by
  have hoffer : ∀ row : ScanRow, (survey.offerScanned row).map Candidate.hex =
      if survey.offered (ssidHex row.ssid) && row.advertisesPsk then some (ssidHex row.ssid)
      else none := by
    intro row
    unfold offerScanned offered
    cases row.advertisesPsk with
    | false => simp
    | true =>
        cases findEnabledProfile survey.order survey.dir (ssidHex row.ssid) with
        | none => rfl
        | some profile => cases hkey : loadProfileKey profile.content <;> simp [hkey]
  rw [map_hex_filterMap hoffer, scanned, advertised, List.map_map, List.filter_map,
    List.filter_filter]
  rfl

/-- The second loop offers the digits of all usable profiles. -/
theorem map_hex_offerSaved (survey : Survey) :
    (survey.profiles.filterMap offerSaved).map Candidate.hex = survey.saved := by
  have hoffer : ∀ profile : Profile, (offerSaved profile).map Candidate.hex =
      if usableProfile profile && (profileHex profile.name ≠ [] : Bool) then
        some (profileHex profile.name) else none := by
    intro profile
    unfold offerSaved
    split <;> rfl
  exact map_hex_filterMap hoffer _

theorem map_hex_offers (survey : Survey) :
    survey.offers.map Candidate.hex = survey.offeredHexes := by
  unfold offers offeredHexes
  rw [List.map_append, map_hex_offerScanned, map_hex_offerSaved]

/-! ### The list as a shortlist -/

/-- The offers that are taken. -/
def got (survey : Survey) : List Candidate := Shortlist.collect survey.key survey.offers

/-- The entries that are not current, before and after the preferred ones came forward. -/
def others (survey : Survey) : List Candidate :=
  survey.got.filter fun entry => !survey.isCurrent entry

/-- What awk looks for in the third loop. -/
def calls (survey : Survey) : List (Awk.Double ⊕ Bytes) :=
  survey.callers.filterMap (Awk.key survey.beyond)

/-- The entries of the list. -/
def entries (survey : Survey) : List Candidate :=
  survey.got.filter survey.isCurrent ++ Shortlist.promote survey.key survey.calls survey.others

theorem names_of_mem_got {survey : Survey} {entry : Candidate} (h : entry ∈ survey.got) :
    survey.Names entry ∧ entry.hex ≠ [] :=
  names_of_mem_offers (Shortlist.mem_of_mem_collect h)

/-- Adding offers to the files collects them. -/
theorem foldl_addCandidate (survey : Survey) {offers : List Candidate}
    (hclean : ∀ entry ∈ offers, Clean entry) :
    offers.foldl (addCandidate survey.beyond survey.currentHex) ⟨[], []⟩ =
      survey.filesOf (Shortlist.collect survey.key offers) := by
  induction offers using List.reverseRecOn with
  | nil => rfl
  | append_singleton offers entry ih =>
      have hbefore : ∀ other ∈ offers, Clean other :=
        fun other hother => hclean other (List.mem_append_left _ hother)
      -- One more offer: the files hold what was collected from those before.
      have hentry : Clean entry := hclean entry (List.mem_append_right _ List.mem_cons_self)
      rw [List.foldl_append, ih hbefore, List.foldl_cons, List.foldl_nil,
        Shortlist.collect_append]
      exact survey.addCandidate_filesOf
        (fun other hother => hbefore other (Shortlist.mem_of_mem_collect hother)) hentry

/-- The first two loops leave what was collected. -/
theorem added_eq_filesOf {survey : Survey} (htidy : survey.Tidy) :
    survey.added = survey.filesOf survey.got := by
  rw [added_eq]
  exact survey.foldl_addCandidate fun entry hentry => (names_of_mem_offers hentry).1.clean htidy

/-- A line that is looked for, among lines of entries. -/
theorem find?_hasHex {survey : Survey} {xs : List Candidate} (hclean : ∀ entry ∈ xs, Clean entry)
    {hex : Bytes} (hhex : 0x5c ∉ hex) {k : Awk.Double ⊕ Bytes}
    (hk : Awk.key survey.beyond hex = some k) :
    (xs.map Candidate.line).find? (hasHex survey.beyond hex) =
      (xs.find? (survey.key · = some k)).map Candidate.line := by
  rw [List.find?_map]
  refine congrArg _ ?_
  induction xs with
  | nil => rfl
  | cons entry xs ih =>
      have hhead := hasHex_line_of_key (hclean entry List.mem_cons_self) hhex hk
      have hrest := ih fun other hother => hclean other (List.mem_cons_of_mem _ hother)
      by_cases h : survey.key entry = some k
      · rw [List.find?_cons_of_pos (by simpa using hhead.2 h),
          List.find?_cons_of_pos (by simpa using h)]
      · rw [List.find?_cons_of_neg (by simpa using fun hhas => h (hhead.1 hhas)),
          List.find?_cons_of_neg (by simpa using h), hrest]

/-- The lines that stay, among lines of entries. -/
theorem filter_hasHex {survey : Survey} {xs : List Candidate} (hclean : ∀ entry ∈ xs, Clean entry)
    {hex : Bytes} (hhex : 0x5c ∉ hex) {k : Awk.Double ⊕ Bytes}
    (hk : Awk.key survey.beyond hex = some k) :
    ((xs.map Candidate.line).filter fun line => !hasHex survey.beyond hex line) =
      (xs.filter (survey.key · ≠ some k)).map Candidate.line := by
  rw [List.filter_map]
  refine congrArg _ (List.filter_congr ?_)
  intro entry hentry
  have hiff := hasHex_line_of_key (hclean entry hentry) hhex hk
  by_cases h : survey.key entry = some k
  · simp [hiff.2 h, h]
  · have hfalse : hasHex survey.beyond hex entry.line = false := by
      rw [← Bool.not_eq_true]
      exact fun hhas => h (hiff.1 hhas)
    simp [hfalse, h]

theorem backslash_not_mem {hex : Bytes} (hvalid : validProfileHex hex = true) : 0x5c ∉ hex :=
  not_mem_of_isLowerDigit (List.all_eq_true.1 (validProfileHex_iff.1 hvalid).2.1) rfl

/-- A preferred SSID moves its entry. -/
theorem moveForward_map (survey : Survey) (moved : List Bytes) {xs : List Candidate}
    (hclean : ∀ entry ∈ xs, Clean entry) {hex : Bytes} (hvalid : validProfileHex hex = true)
    (hcurrent : hex ≠ survey.currentHex) {k : Awk.Double ⊕ Bytes}
    (hk : Awk.key survey.beyond hex = some k) :
    survey.moveForward (moved, xs.map Candidate.line) hex =
      match xs.find? (survey.key · = some k) with
      | some entry =>
          (moved ++ [entry.line], (xs.filter (survey.key · ≠ some k)).map Candidate.line)
      | none => (moved, xs.map Candidate.line) := by
  have hbackslash := backslash_not_mem hvalid
  unfold moveForward
  rw [if_neg (by simp [hvalid]), if_neg hcurrent, find?_hasHex hclean hbackslash hk,
    filter_hasHex hclean hbackslash hk]
  cases xs.find? (survey.key · = some k) with
  | none => rfl
  | some entry => rfl

/-- A preferred SSID that is equal to nothing moves no entry. -/
theorem moveForward_map_of_none (survey : Survey) (moved : List Bytes) {xs : List Candidate}
    (hclean : ∀ entry ∈ xs, Clean entry) {hex : Bytes} (hvalid : validProfileHex hex = true)
    (hk : Awk.key survey.beyond hex = none) :
    survey.moveForward (moved, xs.map Candidate.line) hex = (moved, xs.map Candidate.line) := by
  have hnone : (xs.map Candidate.line).find? (hasHex survey.beyond hex) = none := by
    rw [List.find?_eq_none]
    intro line hline hhas
    obtain ⟨entry, hentry, rfl⟩ := List.mem_map.1 hline
    obtain ⟨k, -, hkey⟩ := (hasHex_line (hclean entry hentry) (backslash_not_mem hvalid)).1 hhas
    rw [hk] at hkey
    cases hkey
  unfold moveForward
  rw [hnone]
  split
  · rfl
  · split <;> rfl

/-- The third loop calls the keys of the preferred SSIDs. -/
theorem foldl_moveForward (survey : Survey) (lines : List Bytes) (moved : List Bytes)
    {xs : List Candidate} (hclean : ∀ entry ∈ xs, Clean entry) :
    (lines.foldl survey.moveForward (moved, xs.map Candidate.line)).1 ++
        (lines.foldl survey.moveForward (moved, xs.map Candidate.line)).2 =
      moved ++ (Shortlist.promote survey.key
        (((lines.filter validProfileHex).filter (· ≠ survey.currentHex)).filterMap
          (Awk.key survey.beyond)) xs).map Candidate.line := by
  induction lines generalizing moved xs with
  | nil => rfl
  | cons hex lines ih =>
      rw [List.foldl_cons]
      -- A line that is not valid or names the current SSID is skipped, every other one is a call.
      by_cases hvalid : validProfileHex hex = true
      · rw [List.filter_cons_of_pos hvalid]
        by_cases hcurrent : hex = survey.currentHex
        · have hskip : survey.moveForward (moved, xs.map Candidate.line) hex =
              (moved, xs.map Candidate.line) := by simp [moveForward, hcurrent]
          rw [List.filter_cons_of_neg (by simpa using hcurrent), hskip]
          exact ih moved hclean
        · rw [List.filter_cons_of_pos (by simpa using hcurrent)]
          cases hk : Awk.key survey.beyond hex with
          | none =>
              rw [List.filterMap_cons_none hk,
                survey.moveForward_map_of_none moved hclean hvalid hk]
              exact ih moved hclean
          | some k =>
              rw [List.filterMap_cons_some hk,
                survey.moveForward_map moved hclean hvalid hcurrent hk]
              unfold Shortlist.promote
              cases hfind : xs.find? (survey.key · = some k) with
              | none => exact ih moved hclean
              | some entry =>
                  have hrest : ∀ other ∈ xs.filter (survey.key · ≠ some k), Clean other :=
                    fun other hother => hclean other (List.mem_filter.1 hother).1
                  simp only
                  rw [ih (moved ++ [entry.line]) hrest, List.map_cons, List.append_assoc,
                    List.singleton_append]
      · have hskip : survey.moveForward (moved, xs.map Candidate.line) hex =
            (moved, xs.map Candidate.line) := by simp [moveForward, hvalid]
        rw [List.filter_cons_of_neg hvalid, hskip]
        exact ih moved hclean

/-- **The list is a shortlist of the offers**: what is collected, the current entry first, and the
preferred ones called forward. -/
theorem buildCandidateList_eq {survey : Survey} (htidy : survey.Tidy) :
    survey.buildCandidateList = survey.entries.map Candidate.line := by
  have hclean : ∀ entry ∈ survey.others, Clean entry :=
    fun entry hentry => (names_of_mem_got (List.mem_filter.1 hentry).1).1.clean htidy
  have hmoved := survey.foldl_moveForward survey.preferredLines [] hclean
  unfold buildCandidateList entries
  rw [added_eq_filesOf htidy, List.map_append, List.append_assoc]
  refine congrArg _ ?_
  exact hmoved.trans (List.nil_append _)

/-! ### The entries -/

/-- **No two entries compare equal.** -/
theorem nodup_key_got (survey : Survey) : (survey.got.filterMap survey.key).Nodup :=
  Shortlist.nodup_collect survey.offers

theorem nodup_key_others (survey : Survey) : (survey.others.filterMap survey.key).Nodup :=
  survey.nodup_key_got.sublist (List.filter_sublist.filterMap survey.key)

/-- The list holds what was collected. -/
theorem entries_perm (survey : Survey) : survey.entries.Perm survey.got := by
  unfold entries
  exact ((Shortlist.promote_perm survey.nodup_key_others).append_left _).trans
    (List.filter_append_perm survey.isCurrent survey.got)

theorem names_of_mem_entries {survey : Survey} {entry : Candidate} (h : entry ∈ survey.entries) :
    survey.Names entry :=
  (names_of_mem_got (survey.entries_perm.mem_iff.1 h)).1

/-- The entries of a list with the same lines have the same digits. -/
theorem map_hex_eq_of_lines {survey : Survey} (htidy : survey.Tidy) {xs ys : List Candidate}
    (hxs : ∀ entry ∈ xs, survey.Names entry) (hys : ∀ entry ∈ ys, survey.Names entry)
    (h : xs.map Candidate.line = ys.map Candidate.line) :
    xs.map Candidate.hex = ys.map Candidate.hex := by
  -- The first field of a line are the digits of its entry.
  have hfield : ∀ zs : List Candidate, (∀ entry ∈ zs, survey.Names entry) →
      (zs.map Candidate.line).map (Awk.field 0x09) = zs.map Candidate.hex := by
    intro zs hzs
    rw [List.map_map]
    exact List.map_congr_left fun entry hentry => ((hzs entry hentry).clean htidy).field
  rw [← hfield xs hxs, h, hfield ys hys]

/-! ### Digits and SSIDs -/

/-- The digits of a profile are those of its SSID, in some spelling. -/
theorem decode_profileHex {name : Bytes} (h : 0x0a ∉ name) :
    Hex.decode (profileHex name) = profileSsid name := by
  unfold profileHex profileSsid
  cases hname : profileName name with
  | nil => rfl
  | cons c rest =>
      simp only
      split
      · have hnewline : 0x0a ∉ Hex.lower rest := by
          intro hmem
          obtain ⟨d, hd, hlower⟩ := List.mem_map.1 hmem
          have hmemName : d ∈ name :=
            mem_profileName (by rw [hname]; exact List.mem_cons_of_mem _ hd)
          exact h (eq_newline_of_lowerDigit hlower ▸ hmemName)
        rw [substituted_of_not_mem hnewline, Hex.decode_lower]
      · exact Hex.decode_encode _

theorem ssid_of_names {survey : Survey} (htidy : survey.Tidy) {entry : Candidate}
    (h : survey.Names entry) : entry.ssid = entry.decoded := by
  obtain ⟨profile, hmem, hname, hhex, husable⟩ := h
  rw [Candidate.ssid, Candidate.decoded, ← hname, ← hhex,
    decode_profileHex (htidy profile hmem husable).1]

/-- The SSIDs of some entries. -/
theorem map_ssid {survey : Survey} (htidy : survey.Tidy) {xs : List Candidate}
    (h : ∀ entry ∈ xs, survey.Names entry) :
    xs.map Candidate.ssid = xs.map Candidate.decoded := by
  exact List.map_congr_left fun entry hentry => ssid_of_names htidy (h entry hentry)

/-- The usable SSIDs are those of the usable digits. -/
theorem ssids_eq {survey : Survey} (htidy : survey.Tidy) :
    survey.ssids = survey.saved.map Hex.decode := by
  unfold ssids saved
  rw [List.map_map]
  refine List.map_congr_left fun profile hprofile => ?_
  obtain ⟨hmem, husable, -⟩ := mem_usable.1 hprofile
  exact (decode_profileHex (htidy profile hmem husable).1).symm

theorem decode_currentHex (survey : Survey) : Hex.decode survey.currentHex = survey.current := by
  rw [currentHex, ssidHex_eq, Hex.decode_encode]

/-! ### What has an entry -/

/-- All digits that are offered belong to usable profiles. -/
theorem mem_offeredHexes {survey : Survey} {hex : Bytes} :
    hex ∈ survey.offeredHexes ↔ hex ∈ survey.saved := by
  constructor
  · intro h
    rw [← map_hex_offers] at h
    obtain ⟨entry, hentry, rfl⟩ := List.mem_map.1 h
    obtain ⟨hnames, hnil⟩ := names_of_mem_offers hentry
    exact hnames.mem_saved hnil
  · exact fun h => List.mem_append_right _ h

/-- What some digits are taken for, among the offers. -/
theorem map_first (survey : Survey) (entry : Candidate) :
    (Shortlist.first survey.key survey.offers entry).map Candidate.hex =
      survey.readAs entry.hex := by
  unfold Shortlist.first readAs
  rw [← map_hex_offers, List.find?_map]
  refine congrArg _ (congrArg (fun p => survey.offers.find? p) (funext ?_))
  intro first
  rw [Function.comp_apply, Bool.eq_iff_iff, Awk.equal_iff_key, Bool.and_eq_true, decide_eq_true_eq,
    Option.isSome_iff_exists]
  constructor
  · rintro ⟨⟨k, hk⟩, hkey⟩
    exact ⟨k, hkey.trans hk, hk⟩
  · rintro ⟨k, hfirst, hk⟩
    exact ⟨⟨k, hk⟩, hfirst.trans hk.symm⟩

/-- What is said of the digits of an entry, is said of the entry. -/
theorem own_comp (survey : Survey) (f : Bytes → Bytes) (entry : Candidate) :
    Shortlist.own survey.key (fun entry => f entry.hex) survey.offers entry =
      (survey.readAs entry.hex).all fun first => f first = f entry.hex := by
  unfold Shortlist.own
  rw [← map_first, Option.all_map]

theorem own_decoded (survey : Survey) (entry : Candidate) :
    Shortlist.own survey.key Candidate.decoded survey.offers entry = survey.own entry.hex :=
  own_comp survey Hex.decode entry

/-- **An SSID has an entry when digits of it are not taken for those of another SSID.** -/
theorem mem_map_decode_got {survey : Survey} {ssid : Bytes} :
    ssid ∈ survey.got.map Candidate.decoded ↔
      ∃ hex ∈ survey.saved, survey.own hex = true ∧ Hex.decode hex = ssid := by
  unfold got
  rw [Shortlist.mem_map_collect_iff]
  simp only [own_decoded, ← mem_offeredHexes, ← map_hex_offers, List.mem_map]
  constructor
  · rintro ⟨entry, hentry, hown, hssid⟩
    exact ⟨entry.hex, ⟨entry, hentry, rfl⟩, hown, hssid⟩
  · rintro ⟨hex, ⟨entry, hentry, rfl⟩, hown, hssid⟩
    exact ⟨entry, hentry, hown, hssid⟩

/-- Every usable SSID has an entry exactly when none is lost. -/
theorem noneLost_iff (survey : Survey) :
    survey.NoneLost ↔ ∀ ssid, ssid ∈ survey.got.map Candidate.decoded ↔
      ssid ∈ survey.saved.map Hex.decode := by
  constructor
  · intro h ssid
    rw [mem_map_decode_got, List.mem_map]
    constructor
    · rintro ⟨hex, hmem, -, hssid⟩
      exact ⟨hex, hmem, hssid⟩
    · rintro ⟨hex, hmem, rfl⟩
      exact h hex hmem
  · intro h hex hmem
    exact mem_map_decode_got.1 ((h (Hex.decode hex)).2 (List.mem_map.2 ⟨hex, hmem, rfl⟩))

/-- **No SSID has two entries exactly when none is kept twice.** -/
theorem noneTwice_iff (survey : Survey) :
    survey.NoneTwice ↔ (survey.got.map Candidate.decoded).Nodup := by
  unfold NoneTwice got
  rw [Shortlist.nodup_map_collect_iff, ← map_hex_offers, List.pairwise_map]
  simp only [own_decoded]
  refine List.Pairwise.iff fun a b => ?_
  have hkeys : Awk.equal survey.beyond a.hex b.hex = true ↔
      (survey.key a).isSome ∧ survey.key a = survey.key b := by
    rw [Awk.equal_iff_key, Option.isSome_iff_exists]
    constructor
    · rintro ⟨k, ha, hb⟩
      exact ⟨⟨k, ha⟩, ha.trans hb.symm⟩
    · rintro ⟨⟨k, ha⟩, hkey⟩
      exact ⟨k, ha, hkey.symm.trans ha⟩
  rw [hkeys]
  rfl

/-! ### The order of the entries -/

/-- The SSIDs that are collected, in their order. -/
theorem map_decode_got {survey : Survey} (h : survey.NoneTwice) :
    (survey.got.map Candidate.decoded) = survey.ownOffers.eraseDups := by
  unfold got
  rw [Shortlist.map_collect ((noneTwice_iff survey).1 h), ownOffers, ← map_hex_offers,
    List.filter_map, List.map_map]
  have hfilter : survey.offers.filter (Shortlist.own survey.key Candidate.decoded survey.offers) =
      survey.offers.filter (survey.own ∘ Candidate.hex) :=
    List.filter_congr fun entry _ => own_decoded survey entry
  rw [hfilter]
  rfl

/-- The current network has an entry exactly when it is found. -/
theorem currentHex_mem_got (survey : Survey) :
    survey.currentHex ∈ survey.got.map Candidate.hex ↔ survey.recognised = true := by
  have hown : ∀ entry : Candidate,
      Shortlist.own survey.key Candidate.hex survey.offers entry =
        (survey.readAs entry.hex).all (· = entry.hex) := own_comp survey id
  unfold got recognised
  rw [Shortlist.mem_map_collect_iff, Bool.and_eq_true, decide_eq_true_eq, ← map_hex_offers,
    List.mem_map]
  simp only [hown]
  constructor
  · rintro ⟨entry, hentry, htaken, hhex⟩
    exact ⟨⟨entry, hentry, hhex⟩, hhex ▸ htaken⟩
  · rintro ⟨⟨entry, hentry, hhex⟩, htaken⟩
    exact ⟨entry, hentry, hhex ▸ htaken, hhex⟩

/-- The entry of the current network is the one with its digits. -/
theorem isCurrent_eq {survey : Survey} {entry : Candidate} (h : entry ∈ survey.got) :
    survey.isCurrent entry = (entry.hex = survey.currentHex : Bool) := by
  unfold isCurrent
  by_cases heq : entry.hex = survey.currentHex
  · have hnil : survey.currentHex ≠ [] := heq ▸ (names_of_mem_got h).2
    simp [heq, hnil]
  · simp [heq]

/-- It is the one with its SSID, when the network is found. -/
theorem isCurrent_iff {survey : Survey} (h : survey.NoneTwice) {entry : Candidate}
    (hentry : entry ∈ survey.got) :
    survey.isCurrent entry = (entry.decoded ∈ survey.front : Bool) := by
  rw [isCurrent_eq hentry, front, Bool.eq_iff_iff, decide_eq_true_eq, decide_eq_true_eq,
    List.mem_filter, List.mem_singleton, ← currentHex_mem_got]
  constructor
  · intro hhex
    rw [Candidate.decoded, hhex, decode_currentHex]
    exact ⟨rfl, List.mem_map.2 ⟨entry, hentry, hhex⟩⟩
  · rintro ⟨hssid, hfound⟩
    obtain ⟨current, hcurrent, hhex⟩ := List.mem_map.1 hfound
    -- Both have the current SSID, and no SSID has two entries.
    have hsame : entry.decoded = current.decoded := by
      rw [hssid, Candidate.decoded, hhex, decode_currentHex]
    rw [List.inj_on_of_nodup_map ((noneTwice_iff survey).1 h) hentry hcurrent hsame, hhex]

/-- What a preferred line calls is the entry that its digits are taken for, unless that is the
current one. -/
theorem find?_others {survey : Survey} (h : survey.NoneTwice) {line : Bytes}
    {k : Awk.Double ⊕ Bytes} (hk : Awk.key survey.beyond line = some k) :
    (survey.others.find? (survey.key · = some k)).map Candidate.decoded =
      (survey.called line).filter (· ∉ survey.front) := by
  have hfirst : survey.offers.find? (survey.key · = some k) =
      Shortlist.first survey.key survey.offers ⟨line, []⟩ :=
    (@Shortlist.first_eq_find? _ _ _ survey.key _ ⟨line, []⟩ _ hk).symm
  have hcalled : survey.called line =
      ((survey.got.find? (survey.key · = some k)).map Candidate.hex).map Hex.decode := by
    rw [got, Shortlist.find?_collect, hfirst, map_first]
    rfl
  rw [others, Shortlist.find?_filter survey.nodup_key_got, hcalled]
  cases hfind : survey.got.find? (survey.key · = some k) with
  | none => rfl
  | some entry =>
      have hcurrent := isCurrent_iff h (List.mem_of_find?_eq_some hfind)
      have hdecoded : (some entry.hex).map Hex.decode = some entry.decoded := rfl
      rw [Option.map_some, hdecoded]
      by_cases hfront : entry.decoded ∈ survey.front <;> simp [Option.filter, hcurrent, hfront]

/-- What is called forward. -/
theorem filterMap_calls {survey : Survey} (h : survey.NoneTwice) :
    survey.calls.filterMap (fun k =>
        (survey.others.find? (survey.key · = some k)).map Candidate.decoded) =
      (survey.callers.filterMap survey.called).filter (· ∉ survey.front) := by
  unfold calls
  rw [List.filterMap_filterMap, List.filter_filterMap]
  refine List.filterMap_congr fun line _ => ?_
  cases hk : Awk.key survey.beyond line with
  | some k => exact find?_others h hk
  | none =>
      -- A line that is equal to nothing is taken for nothing.
      have hnone : survey.readAs line = none := by
        have hfirst := @Shortlist.first_eq_none _ _ _ survey.key survey.offers ⟨line, []⟩ hk
        rw [← map_first survey ⟨line, []⟩, hfirst]
        rfl
      simp [called, hnone]

/-- The current network is in front when it is found. -/
theorem map_decoded_current {survey : Survey} (h : survey.NoneTwice) :
    (survey.got.filter survey.isCurrent).map Candidate.decoded = survey.front := by
  have hfilter : (survey.got.filter survey.isCurrent).map Candidate.decoded =
      (survey.got.map Candidate.decoded).filter (· ∈ survey.front) := by
    rw [List.filter_map]
    exact congrArg _ (List.filter_congr fun entry hentry => isCurrent_iff h hentry)
  rw [hfilter]
  unfold front
  cases hfound : survey.recognised with
  | false => simp
  | true =>
      obtain ⟨entry, hentry, hhex⟩ := List.mem_map.1 ((currentHex_mem_got survey).2 hfound)
      have hmem : survey.current ∈ survey.got.map Candidate.decoded :=
        List.mem_map.2 ⟨entry, hentry, by rw [Candidate.decoded, hhex, decode_currentHex]⟩
      have hone := Recent.filter_eq_of_nodup ((noneTwice_iff survey).1 h) survey.current
      rw [List.filter_cons_of_pos (by simpa using hmem), List.filter_nil] at hone
      simpa using hone

/-- The entries that are not current: those that are called forward, and what is left. -/
theorem map_decoded_promote {survey : Survey} (h : survey.NoneTwice) :
    (Shortlist.promote survey.key survey.calls survey.others).map Candidate.decoded =
      (survey.callers.filterMap survey.called ++ survey.ownOffers).eraseDups.filter
        (· ∉ survey.front) := by
  have hothers : survey.others.map Candidate.decoded =
      survey.ownOffers.eraseDups.filter (· ∉ survey.front) := by
    rw [← map_decode_got h, List.filter_map, others]
    refine congrArg _ (List.filter_congr fun entry hentry => ?_)
    rw [isCurrent_iff h hentry]
    simp
  have hnodup : (survey.others.map Candidate.decoded).Nodup := by
    rw [hothers]
    exact (Recent.nodup_eraseDups _).filter _
  rw [Shortlist.map_promote hnodup survey.nodup_key_others, filterMap_calls h, hothers,
    ← List.filter_append, Recent.eraseDups_filter, Recent.eraseDups_append_eraseDups]

/-- **The entries are in the order as the script reads it**, when no SSID is kept twice. -/
theorem map_decoded_entries {survey : Survey} (h : survey.NoneTwice) :
    survey.entries.map Candidate.decoded = survey.readOrder := by
  have hfront : survey.front.eraseDups = survey.front :=
    Recent.eraseDups_of_nodup ((List.nodup_singleton survey.current).filter _)
  unfold entries readOrder
  rw [List.map_append, map_decoded_current h, map_decoded_promote h,
    Recent.eraseDups_append survey.front, hfront]

/-! ### The exact condition -/

/-- **The list is what it should be exactly when no SSID is lost or kept twice and the order
survives the reading.** -/
theorem lawful_iff_inOrder {survey : Survey} (htidy : survey.Tidy) :
    survey.Lawful ↔ survey.NoneLost ∧ survey.NoneTwice ∧ survey.InOrder := by
  have hnames : ∀ entry ∈ survey.entries, survey.Names entry := fun _ => names_of_mem_entries
  have hperm : (survey.entries.map Candidate.decoded).Perm (survey.got.map Candidate.decoded) :=
    survey.entries_perm.map _
  have hlost := noneLost_iff survey
  simp only [← hperm.mem_iff, ← ssids_eq htidy] at hlost
  have htwice := noneTwice_iff survey
  rw [← hperm.nodup_iff] at htwice
  constructor
  · rintro ⟨entries, hlines, hlisted⟩
    -- A list with these lines has the SSIDs of the entries.
    rw [buildCandidateList_eq htidy] at hlines
    have hhex := map_hex_eq_of_lines htidy hnames hlisted.profile hlines
    have hsame : entries.map Candidate.ssid = survey.entries.map Candidate.decoded := by
      have hdecoded := congrArg (List.map Hex.decode) hhex
      rw [List.map_map, List.map_map] at hdecoded
      rw [map_ssid htidy hlisted.profile]
      exact hdecoded.symm
    have hnone : survey.NoneTwice := htwice.2 (hsame ▸ hlisted.once)
    refine ⟨hlost.2 (hsame ▸ hlisted.every), hnone, ?_⟩
    unfold InOrder
    rw [← map_decoded_entries hnone, ← hsame]
    exact hlisted.order
  · rintro ⟨hfound, hnone, horder⟩
    have hssid := map_ssid htidy hnames
    refine ⟨survey.entries, buildCandidateList_eq htidy, ?_⟩
    exact {
      profile := hnames
      once := hssid ▸ htwice.1 hnone
      every := hssid ▸ hlost.1 hfound
      order := by
        rw [hssid, map_decoded_entries hnone]
        exact horder }

/-! ### The order -/

/-- Nobody is due before the current network, when it is found. -/
theorem not_due_front {survey : Survey} (htidy : survey.Tidy) {a b : Bytes}
    (ha : a ∈ survey.front) : ¬ survey.Due b a := by
  obtain ⟨hcurrent, hfound⟩ := List.mem_filter.1 ha
  obtain rfl := List.mem_singleton.1 hcurrent
  unfold recognised at hfound
  rw [Bool.and_eq_true, decide_eq_true_eq, mem_offeredHexes] at hfound
  have husable : survey.current ∈ survey.ssids := by
    rw [ssids_eq htidy, ← decode_currentHex]
    exact List.mem_map.2 ⟨_, hfound.1, rfl⟩
  have hnil : survey.current ≠ [] := by
    intro hnil
    refine saved_ne_nil hfound.1 ?_
    rw [currentHex, hnil]
    rfl
  unfold Due wanted
  rw [Precedence.ahead_eraseDups, List.filter_cons_of_pos (by simpa using hnil), List.cons_append,
    List.filter_cons_of_pos (by simpa using husable)]
  exact fun hahead => hahead.1 rfl

/-- Every wanted network is in the order as the script reads it. -/
theorem wanted_subset_readOrder {survey : Survey} (htidy : survey.Tidy) (hlost : survey.NoneLost) :
    survey.wanted ⊆ survey.readOrder := by
  intro ssid hmem
  have husable : ssid ∈ survey.ssids := by
    simpa using (List.mem_filter.1 (List.mem_eraseDups.1 hmem)).2
  rw [ssids_eq htidy, List.mem_map] at husable
  obtain ⟨hex, hhex, rfl⟩ := husable
  obtain ⟨other, hother, hown, hsame⟩ := hlost hex hhex
  unfold readOrder
  rw [List.mem_eraseDups]
  refine List.mem_append_right _ (List.mem_append_right _ (List.mem_map.2 ⟨other, ?_, hsame⟩))
  exact List.mem_filter.2 ⟨mem_offeredHexes.2 hother, hown⟩

/-- The order is kept exactly when the script puts nobody ahead of a network that is due before. -/
theorem inOrder_iff_due {survey : Survey} (htidy : survey.Tidy) (hlost : survey.NoneLost) :
    survey.InOrder ↔ ∀ a b, survey.Due b a → ¬Precedence.Ahead survey.readOrder a b := by
  have hwanted : survey.wanted.Nodup := Recent.nodup_eraseDups _
  have hread : survey.readOrder.Nodup := Recent.nodup_eraseDups _
  unfold InOrder
  rw [Precedence.prefix_iff hwanted hread (wanted_subset_readOrder htidy hlost)]
  constructor
  · intro h a b hdue hahead
    exact hdue.asymm (h b hdue.mem a hahead)
  · intro h b hb a hahead
    rcases Precedence.ahead_or_ahead (Ne.symm hahead.ne) hb with hdue | hfirst
    · exact absurd hahead (h a b hdue)
    · exact hfirst

/-- Who is ahead as the script reads the order. -/
theorem ahead_readOrder_iff {survey : Survey} {a b : Bytes} :
    Precedence.Ahead survey.readOrder a b ↔
      Precedence.Ahead survey.front a b ∨ (b ∉ survey.front ∧
        (Precedence.Ahead (survey.callers.filterMap survey.called) a b ∨
          (b ∉ survey.callers.filterMap survey.called ∧
            Precedence.Ahead survey.ownOffers a b))) := by
  unfold readOrder
  rw [Precedence.ahead_eraseDups, Precedence.ahead_append, Precedence.ahead_append]

/-- **The order is kept exactly when no preferred line calls an SSID too early and no network is
tried too late.** -/
theorem inOrder_iff {survey : Survey} (htidy : survey.Tidy) (hlost : survey.NoneLost) :
    survey.InOrder ↔ survey.NoneEarly ∧ survey.NoneLate := by
  rw [inOrder_iff_due htidy hlost]
  constructor
  · intro h
    constructor
    · intro before line after ssid hlines hcalled other hdue
      by_contra hnot
      obtain ⟨hfront, hbefore⟩ := not_or.1 hnot
      refine h ssid other hdue (ahead_readOrder_iff.2 (Or.inr ⟨hfront, Or.inl ?_⟩))
      exact Precedence.ahead_filterMap_iff.2
        ⟨hdue.ne.symm, before, line, after, hlines, hcalled, hbefore⟩
    · intro ssid other hdue hfront hcalled hahead
      exact h other ssid hdue
        (ahead_readOrder_iff.2 (Or.inr ⟨hfront, Or.inr ⟨hcalled, hahead⟩⟩))
  · rintro ⟨hearly, hlate⟩ a b hdue hahead
    rcases ahead_readOrder_iff.1 hahead with hfirst | ⟨hfront, hcalled | ⟨hnot, hoffered⟩⟩
    · exact not_due_front htidy hfirst.mem hdue
    · obtain ⟨-, before, line, after, hlines, hline, hbefore⟩ :=
        Precedence.ahead_filterMap_iff.1 hcalled
      rcases hearly before line after a hlines hline b hdue with hfound | hearlier
      · exact hfront hfound
      · exact hbefore hearlier
    · exact hlate b a hdue hfront hnot hoffered

/-- A survey without surprises: the digits of the usable profiles are those that are written for
their SSIDs, digits compare equal only when they are the same, and then they do; and the first
enabled profile of a usable network of the scan has a valid key. -/
structure Plain (survey : Survey) : Prop where
  written : ∀ hex ∈ survey.saved, Hex.encode (Hex.decode hex) = hex
  equal : ∀ a ∈ survey.saved, ∀ b ∈ survey.saved ++ survey.preferredHexes,
    Awk.equal survey.beyond a b = true ↔ a = b
  offered : ∀ hex ∈ survey.scanned, hex ∈ survey.saved → survey.offered hex = true

theorem encode_decode_of_valid {hex : Bytes} (h : validProfileHex hex = true) :
    Hex.encode (Hex.decode hex) = hex := by
  obtain ⟨-, hdigits, -, heven⟩ := validProfileHex_iff.1 h
  exact Hex.encode_decode (List.all_eq_true.1 hdigits) heven

namespace Plain

variable {survey : Survey}

/-- Usable digits are taken for themselves, and a preferred line for its own SSID. -/
theorem readAs_eq (h : survey.Plain) {hex : Bytes}
    (hmem : hex ∈ survey.saved ++ survey.preferredHexes) :
    survey.readAs hex = if hex ∈ survey.saved then some hex else none := by
  unfold readAs
  cases hfind : survey.offeredHexes.find? fun first => Awk.equal survey.beyond first hex with
  | none =>
      rw [if_neg]
      intro hsaved
      exact absurd ((h.equal hex hsaved hex hmem).2 rfl)
        (List.find?_eq_none.1 hfind hex (mem_offeredHexes.2 hsaved))
  | some first =>
      have hsaved := mem_offeredHexes.1 (List.mem_of_find?_eq_some hfind)
      obtain rfl := (h.equal first hsaved hex hmem).1 (by simpa using List.find?_some hfind)
      rw [if_pos hsaved]

theorem readAs_of_mem (h : survey.Plain) {hex : Bytes} (hmem : hex ∈ survey.saved) :
    survey.readAs hex = some hex := by
  rw [h.readAs_eq (List.mem_append_left _ hmem), if_pos hmem]

theorem own (h : survey.Plain) {hex : Bytes} (hmem : hex ∈ survey.saved) :
    survey.own hex = true := by
  unfold Survey.own
  rw [h.readAs_of_mem hmem]
  simp

theorem noneLost (h : survey.Plain) : survey.NoneLost :=
  fun hex hmem => ⟨hex, hmem, h.own hmem, rfl⟩

theorem noneTwice (h : survey.Plain) : survey.NoneTwice := by
  refine List.pairwise_of_forall_mem_list ?_
  intro a ha b hb _ _ hssid
  rw [mem_offeredHexes] at ha hb
  refine (h.equal a ha b (List.mem_append_left _ hb)).2 ?_
  rw [← h.written a ha, hssid, h.written b hb]

theorem recognised_eq (h : survey.Plain) :
    survey.recognised = (survey.currentHex ∈ survey.saved : Bool) := by
  unfold recognised
  rw [Bool.eq_iff_iff, Bool.and_eq_true, decide_eq_true_eq, decide_eq_true_eq, mem_offeredHexes]
  refine and_iff_left_of_imp ?_
  intro hmem
  rw [h.readAs_of_mem hmem]
  simp

/-- Digits that are written for an SSID are usable when the SSID is. -/
theorem mem_ssids_iff (h : survey.Plain) (htidy : survey.Tidy) {hex : Bytes}
    (hwritten : Hex.encode (Hex.decode hex) = hex) :
    Hex.decode hex ∈ survey.ssids ↔ hex ∈ survey.saved := by
  rw [ssids_eq htidy, List.mem_map]
  constructor
  · rintro ⟨other, hother, hssid⟩
    rw [← hwritten, ← hssid, h.written other hother]
    exact hother
  · exact fun hmem => ⟨hex, hmem, rfl⟩

/-- The preferred lines call the usable ones among their SSIDs. -/
theorem filterMap_called (h : survey.Plain) (htidy : survey.Tidy) :
    survey.callers.filterMap survey.called =
      (survey.callers.map Hex.decode).filter (· ∈ survey.ssids) := by
  rw [List.filter_map, ← List.filterMap_eq_map, List.filterMap_filter]
  refine List.filterMap_congr fun line hline => ?_
  have hpreferred := (List.mem_filter.1 hline).1
  have hwritten := encode_decode_of_valid (List.mem_filter.1 hpreferred).2
  unfold called
  rw [h.readAs_eq (List.mem_append_right _ hpreferred)]
  by_cases hmem : line ∈ survey.saved
  · simp [hmem, (h.mem_ssids_iff htidy hwritten).2 hmem]
  · simp [hmem, mt (h.mem_ssids_iff htidy hwritten).1 hmem]

/-- The digits of an SSID are usable when the SSID is. -/
theorem ssidHex_mem_saved (h : survey.Plain) (htidy : survey.Tidy) (ssid : Bytes) :
    ssidHex ssid ∈ survey.saved ↔ ssid ∈ survey.ssids := by
  have hdecode : Hex.decode (ssidHex ssid) = ssid := by rw [ssidHex_eq, Hex.decode_encode]
  rw [← h.mem_ssids_iff htidy (by rw [hdecode, ssidHex_eq]), hdecode]

/-- The scan offers its usable networks. -/
theorem map_decode_scanned (h : survey.Plain) (htidy : survey.Tidy) :
    (survey.scanned.filter survey.offered).map Hex.decode =
      survey.advertised.filter (· ∈ survey.ssids) := by
  have hdecode : Hex.decode ∘ ssidHex = id := by
    funext ssid
    rw [Function.comp_apply, ssidHex_eq, Hex.decode_encode]
    rfl
  rw [scanned, List.filter_map, List.map_map, hdecode, List.map_id]
  refine List.filter_congr fun ssid hssid => ?_
  have hscanned : ssidHex ssid ∈ survey.scanned := List.mem_map.2 ⟨ssid, hssid, rfl⟩
  rw [Function.comp_apply, Bool.eq_iff_iff, decide_eq_true_eq, ← h.ssidHex_mem_saved htidy]
  constructor
  · intro hoffered
    exact mem_offeredHexes.1 (List.mem_append_left _ (List.mem_filter.2 ⟨hscanned, hoffered⟩))
  · exact h.offered _ hscanned

/-- The current network is found when it is usable. -/
theorem front_eq (h : survey.Plain) (htidy : survey.Tidy) :
    survey.front = ([survey.current].filter (· ≠ [])).filter (· ∈ survey.ssids) := by
  have hcurrent : survey.currentHex ∈ survey.saved ↔ survey.current ∈ survey.ssids :=
    h.ssidHex_mem_saved htidy survey.current
  rw [front, h.recognised_eq, List.filter_filter]
  refine List.filter_congr fun ssid hssid => ?_
  obtain rfl := List.mem_singleton.1 hssid
  by_cases hnil : survey.current = []
  · -- Nothing is not among the usable digits.
    have hnot : survey.currentHex ∉ survey.saved := by
      intro hmem
      refine saved_ne_nil hmem ?_
      rw [currentHex, hnil]
      rfl
    simp [hnil, hnot]
  · simp [hnil, hcurrent]

/-- What the callers leave to the current network does not matter behind it. -/
theorem filter_callers (h : survey.Plain) (htidy : survey.Tidy) :
    ((survey.callers.map Hex.decode).filter (· ∈ survey.ssids)).filter (· ∉ survey.front) =
      ((survey.preferredHexes.map Hex.decode).filter (· ∈ survey.ssids)).filter
        (· ∉ survey.front) := by
  simp only [List.filter_map, callers, List.filter_filter]
  refine congrArg _ (List.filter_congr fun line hline => ?_)
  by_cases hcurrent : line = survey.currentHex
  · -- The line of the current network names it, and it is in front when it is usable.
    subst hcurrent
    have hfront : survey.current ∈ survey.ssids → survey.current ∈ survey.front := by
      intro hmem
      have hsaved : survey.currentHex ∈ survey.saved := (h.ssidHex_mem_saved htidy _).2 hmem
      rw [front, h.recognised_eq]
      simpa using hsaved
    by_cases hmem : survey.current ∈ survey.ssids
    · simp [decode_currentHex, hfront hmem]
    · simp [decode_currentHex, hmem]
  · simp [hcurrent]

/-- **The list is what it should be in a survey without surprises.** -/
theorem lawful (h : survey.Plain) (htidy : survey.Tidy) : survey.Lawful := by
  refine (lawful_iff_inOrder htidy).2 ⟨h.noneLost, h.noneTwice, ?_⟩
  have hown : survey.offeredHexes.filter survey.own = survey.offeredHexes :=
    List.filter_eq_self.2 fun hex hmem => h.own (mem_offeredHexes.1 hmem)
  have hread : survey.readOrder =
      ((survey.front ++ ((survey.callers.map Hex.decode).filter (· ∈ survey.ssids) ++
        survey.advertised.filter (· ∈ survey.ssids))) ++
          survey.saved.map Hex.decode).eraseDups := by
    rw [readOrder, h.filterMap_called htidy, ownOffers, hown, offeredHexes, List.map_append,
      h.map_decode_scanned htidy]
    simp only [List.append_assoc]
  unfold InOrder wanted
  rw [hread, List.filter_append, ← h.front_eq htidy, List.filter_append, Recent.eraseDups_append
    (survey.front ++ _), Recent.eraseDups_append survey.front, Recent.eraseDups_append survey.front]
  -- Behind the current network both orders name the same networks.
  rw [← Recent.eraseDups_filter, ← Recent.eraseDups_filter, List.filter_append, List.filter_append,
    h.filter_callers htidy]
  exact List.prefix_append _ _

end Plain

/-- Profiles for some SSIDs, and nothing else: no network is configured, preferred or seen. -/
def savedOnly (ssids : List Bytes) : Survey where
  beyond := Awk.ieee
  order := .asKept
  dir := ssids.foldr
    (fun ssid dir => dir.set (profileFile (Hex.encode ssid)) (.file (profileText ssid))) .empty
  current := []
  preferred := none
  scan := []

/-- Two profiles for `home`, one of which has a digit too many: both are kept. -/
example : ¬ NoneTwice { savedOnly [] with
    dir := (Table.empty.set (ascii "=686f6d65.psk") (.file (profileText (ascii "fixture-1")))).set
      (ascii "=686f6d650.psk") (.file (profileText (ascii "fixture-1"))) } := by
  unfold NoneTwice
  decide +kernel

end Survey

end NesDeck
