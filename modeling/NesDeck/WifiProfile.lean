/-
**Wi-Fi profiles.**

A profile is a regular file `*.psk` in the profile directory, under the name that IWD gives it: `=`
and the digits of the SSID, or the SSID itself. `deck-wifi-select` finds a profile by its SSID and
reads its key; `deck-wifi-profile-add` stores a new one under its digits and removes every other
spelling of the same SSID; `save_wifi_profile` of `deck_menu.cpp` checks the two texts of the user
and writes them to the standard input of that script.

The operations on files succeed, except where something stands in their way that the directory
holds: the lock of another run, or a directory in the place of the temporary file.

Main definitions:

* `NesDeck.ProfileDir` — the profile directory; `NesDeck.psks` — what `"$PROFILE_DIR"/*.psk` finds;
* `NesDeck.profileHex`, `NesDeck.profileEnabled`, `NesDeck.findEnabledProfile`,
  `NesDeck.loadProfileKey`, `NesDeck.profileSsid` — the functions of the selector;
* `NesDeck.profileAdd` — the script that stores a profile, `NesDeck.saveWifiProfile` — its caller;
* `NesDeck.RoundTrip` — the selector finds what was stored, and nothing else has the SSID;
* `NesDeck.OwnDigits` — no profile spells the SSID with other digits.

Main results:

* `NesDeck.loadProfileKey_profileText` — a stored passphrase is read back;
* `NesDeck.saveWifiProfile_of_ready` — what the caller accepts, the script accepts;
* `NesDeck.roundTrip_iff` — **a saved profile is found again, alone, exactly when no directory had
  its name and no profile spelled its SSID with other digits**.
-/

import NesDeck.Lib.Awk
import NesDeck.Lib.Hex
import NesDeck.Lib.Table

set_option relaxedAutoImplicit false
set_option autoImplicit false

namespace NesDeck

open HostFile (Bytes ascii)

/-! ### The profile directory -/

/-- What a name in a directory leads to, links followed. -/
inductive DirEntry where
  | file (content : Bytes)
  | directory
  | other
  deriving DecidableEq

/-- The profile directory: what its names lead to. -/
abbrev ProfileDir : Type := Table Bytes DirEntry

/-- The order in which a pattern of the shell lists the directory. -/
abbrev GlobOrder : Type := Table.Visit Bytes DirEntry

/-- A regular file in the profile directory. -/
structure Profile where
  name : Bytes
  content : Bytes
  deriving DecidableEq

/-- A name that the pattern `*.psk` matches: hidden names are left out. -/
def isPsk (name : Bytes) : Bool := name.head? ≠ some 0x2e && (ascii ".psk").isSuffixOf name

/-- The loop head `for profile in "$PROFILE_DIR"/*.psk; do [ -f "$profile" ] || continue`. -/
def asProfile : Bytes × DirEntry → Option Profile
  | (name, .file content) => if isPsk name then some ⟨name, content⟩ else none
  | _ => none

/-- The profiles, in the order of the pattern. -/
def psks (order : GlobOrder) (dir : ProfileDir) : List Profile :=
  (order.order dir.entries).filterMap asProfile

/-! ### The functions of the selector -/

/-- What `$(…)` makes of an output: the newlines at its end are dropped. -/
def substituted (text : Bytes) : Bytes := (text.reverse.dropWhile (· = 0x0a)).reverse

/-- `${profile_name%.psk}`. -/
def profileName (name : Bytes) : Bytes :=
  if (ascii ".psk").isSuffixOf name then name.take (name.length - 4) else name

/-- `$(profile_hex "$profile")`: the digits of the SSID of a profile. -/
def profileHex (name : Bytes) : Bytes :=
  match profileName name with
  | [] => Hex.encode []
  | c :: rest => if c = 0x3d then substituted (Hex.lower rest) else Hex.encode (c :: rest)

/-- `profile_ssid`: the SSID of a profile. -/
def profileSsid (name : Bytes) : Bytes :=
  match profileName name with
  | [] => []
  | c :: rest => if c = 0x3d then Hex.decode rest else c :: rest

/-- `profile_enabled`: the last `AutoConnect` is not `false`. -/
def profileEnabled (content : Bytes) : Bool :=
  let values := ((Awk.records content).filter (Awk.field 0x3d · = ascii "AutoConnect")).map
    (Awk.field₂ 0x3d)
  values.getLastD [] ≠ ascii "false"

/-- `find_enabled_profile`: the first profile with the digits of an SSID. -/
def findEnabledProfile (order : GlobOrder) (dir : ProfileDir) (wantedHex : Bytes) :
    Option Profile :=
  (psks order dir).find? fun profile =>
    profileEnabled profile.content && (profileHex profile.name = wantedHex : Bool)

/-- A record without its first field and the `=`, if there is one. -/
def afterEquals (record : Bytes) : Bytes :=
  if 0x3d ∈ record then (Awk.cut 0x3d record).2 else record

/-- The value of the first record with a name, or nothing. -/
def keyOf (name content : Bytes) : Bytes :=
  match (Awk.records content).find? (Awk.field 0x3d · = name) with
  | some record => afterEquals record
  | none => []

/-- `load_profile_key`: the passphrase, or else the key of 64 digits. -/
def loadProfileKey (content : Bytes) : Option Bytes :=
  let key := keyOf (ascii "Passphrase") content
  if key ≠ [] then if 8 ≤ key.length ∧ key.length ≤ 63 then some key else none
  else
    let key := keyOf (ascii "PreSharedKey") content
    if key.length = 64 ∧ key.all Hex.isDigit then some key else none

/-! ### Storing a profile -/

/-- What the two scripts keep: the profiles, and the lines of the file of preferred SSIDs. -/
structure WifiFiles where
  profiles : ProfileDir
  preferred : Option (List Bytes)

/-- `IFS= read -r`: a line and what follows it. -/
def readLine (text : Bytes) : Option (Bytes × Bytes) :=
  if 0x0a ∈ text then some (Awk.cut 0x0a text) else none

def validLength (value : Bytes) (minimum maximum : ℕ) : Bool :=
  minimum ≤ value.length && value.length ≤ maximum

def printableAscii (value : Bytes) : Bool :=
  value ≠ [] && value.all fun c => 0x20 ≤ c && c ≤ 0x7e

/-- The name under which a profile is stored, from the digits of its SSID. -/
def profileFile (ssidHex : Bytes) : Bytes := 0x3d :: (ssidHex ++ ascii ".psk")

/-- The file that is written. -/
def profileText (passphrase : Bytes) : Bytes :=
  ascii "[Security]\n" ++ (ascii "Passphrase=" ++ passphrase ++ ascii "\n") ++
    ascii "\n[Settings]\nAutoConnect=true\n"

def lockName : Bytes := ascii ".profile-add.lock"

/-- The temporary file of the process with the given number. -/
def tempProfile (pid : ℕ) : Bytes := ascii ".profile-add." ++ ascii (toString pid)

/-- `mv -f "$TEMP_PROFILE" "$destination"`: a directory receives the file under its own name. -/
def moveProfile (dir : ProfileDir) (temp destination content : Bytes) : ProfileDir :=
  if dir.get destination = some .directory then dir.erase temp
  else (dir.erase temp).set destination (.file content)

/-- The loop that removes every other spelling of an SSID. -/
def removeSpellings (dir : ProfileDir) (destination ssidHex : Bytes) : ProfileDir :=
  dir.filter fun entry =>
    match asProfile entry with
    | some profile => profile.name = destination || profileHex profile.name ≠ ssidHex
    | none => true

section

-- What the awk of the device reads in a number that is out of the range of the doubles.
variable (beyond : Awk.Beyond)

/-- The awk program of the two scripts: the preferred SSIDs other than the current one, each once,
until there are `room` of them. -/
def otherPreferred (current : Bytes) (room : ℕ) : List Bytes → ℕ → List Bytes → List Bytes
  | _, _, [] => []
  | seen, count, line :: lines =>
      if Awk.equal beyond line (Awk.assigned current) = false ∧ line ≠ [] ∧
        line.all Hex.isLowerDigit ∧
          line.length ≤ 64 ∧ line.length % 2 = 0 ∧ line ∉ seen then
        if count < room then line :: otherPreferred current room (line :: seen) (count + 1) lines
        else otherPreferred current room (line :: seen) count lines
      else otherPreferred current room seen count lines

/-- The new lines of the file of preferred SSIDs. -/
def prefer (ssidHex : Bytes) (limit : ℕ) (preferred : Option (List Bytes)) : List Bytes :=
  ssidHex :: otherPreferred beyond ssidHex (limit - 1) [] 0 (preferred.getD [])

/-- `deck-wifi-profile-add` with its standard input, or nothing when it fails before it stored the
profile. -/
def profileAdd (files : WifiFiles) (pid : ℕ) (input : Bytes) : Option WifiFiles :=
  match readLine input with
  | none => none
  | some (ssid, rest) =>
      match readLine rest with
      | none => none
      | some (passphrase, rest) =>
          let ssidHex := Hex.lower (Hex.encode ssid)
          let destination := profileFile ssidHex
          if (readLine rest).isSome then none
          else if !validLength ssid 1 32 then none
          else if !validLength passphrase 8 63 then none
          else if !printableAscii ssid then none
          else if !printableAscii passphrase then none
          -- The lock is a directory, which another run may have left behind.
          else if (files.profiles.get lockName).isSome then none
          else if ssidHex = [] then none
          else if files.profiles.get (tempProfile pid) = some .directory then none
          else
            let moved :=
              moveProfile files.profiles (tempProfile pid) destination (profileText passphrase)
            some ⟨removeSpellings moved destination ssidHex,
              some (prefer beyond ssidHex 8 files.preferred)⟩

/-! ### The caller -/

/-- `valid_wifi_text`. -/
def validWifiText (value : Bytes) (minimum maximum : ℕ) : Bool :=
  if value.length < minimum ∨ maximum < value.length then false
  else value.all fun ch => !(ch < 0x20 || 0x7e < ch)

/-- The text that goes to the standard input of the script. -/
def wifiRequest (ssid passphrase : Bytes) : Bytes :=
  ssid ++ [0x0a] ++ passphrase ++ [0x0a]

/-- `save_wifi_profile`, whose helper is `deck-wifi-profile-add`. -/
def saveWifiProfile (files : WifiFiles) (pid : ℕ) (ssid passphrase : Bytes) :
    Except String WifiFiles :=
  if !validWifiText ssid 1 32 then .error "SSID MUST BE 1 TO 32 CHARACTERS"
  else if !validWifiText passphrase 8 63 then .error "PASSWORD MUST BE 8 TO 63 CHARACTERS"
  else
    match profileAdd beyond files pid (wifiRequest ssid passphrase) with
    | some files => .ok files
    | none => .error "WIFI PROFILE WAS NOT SAVED"

end

/-- Nothing stands in the way of the script: no lock, and no directory under the name of its
temporary file. -/
structure WifiFiles.Ready (files : WifiFiles) (pid : ℕ) : Prop where
  lock : files.profiles.get lockName = none
  temp : files.profiles.get (tempProfile pid) ≠ some .directory

/-- The profile that is stored. -/
def newProfile (ssid passphrase : Bytes) : Profile :=
  ⟨profileFile (Hex.encode ssid), profileText passphrase⟩

/-- The selector finds the new profile for the SSID and reads the two texts from it, and no other
profile has the SSID. -/
structure RoundTrip (order : GlobOrder) (dir : ProfileDir) (ssid passphrase : Bytes) : Prop where
  found : findEnabledProfile order dir (Hex.encode ssid) = some (newProfile ssid passphrase)
  decoded : profileSsid (newProfile ssid passphrase).name = ssid
  selected : substituted (profileSsid (newProfile ssid passphrase).name) = ssid
  key : loadProfileKey (newProfile ssid passphrase).content = some passphrase
  only : ∀ profile ∈ psks order dir, profileSsid profile.name = ssid →
    profile = newProfile ssid passphrase

/-- The profiles of an SSID are named by its own digits, of either size, or by the SSID itself.  An
odd digit at the end, or a blank, makes another spelling: `=686f6d650` is the SSID `home`, too. -/
def OwnDigits (order : GlobOrder) (dir : ProfileDir) (ssid : Bytes) : Prop :=
  ∀ profile ∈ psks order dir, profileSsid profile.name = ssid →
    profileHex profile.name = Hex.encode ssid

/-! ### What is stored is read back -/

theorem substituted_of_not_mem {text : Bytes} (h : 0x0a ∉ text) : substituted text = text := by
  unfold substituted
  rw [← List.mem_reverse] at h
  cases hrev : text.reverse with
  | nil => simpa using hrev.symm
  | cons c rest =>
      rw [hrev, List.mem_cons, not_or] at h
      rw [List.dropWhile_cons_of_neg (by simpa using Ne.symm h.1), ← hrev, List.reverse_reverse]

theorem not_mem_of_isLowerDigit {text : Bytes} (h : ∀ c ∈ text, Hex.isLowerDigit c = true)
    {c : UInt8} (hc : Hex.isLowerDigit c = false) : c ∉ text := by
  intro hmem
  rw [h c hmem] at hc
  cases hc

/-- The digits of an SSID hold nothing but digits. -/
theorem not_mem_encode (ssid : Bytes) {c : UInt8} (hc : Hex.isLowerDigit c = false) :
    c ∉ Hex.encode ssid :=
  not_mem_of_isLowerDigit (fun _ => Hex.mem_encode) hc

theorem profileName_profileFile (ssidHex : Bytes) :
    profileName (profileFile ssidHex) = 0x3d :: ssidHex := by
  have hsuffix : (ascii ".psk").isSuffixOf (profileFile ssidHex) = true :=
    List.isSuffixOf_iff_suffix.2 ⟨0x3d :: ssidHex, rfl⟩
  unfold profileName
  rw [if_pos hsuffix]
  have hlength : (profileFile ssidHex).length - 4 = (0x3d :: ssidHex).length := by
    have hpsk : (ascii ".psk").length = 4 := rfl
    rw [profileFile, List.length_cons, List.length_append, hpsk, List.length_cons]
    omega
  rw [hlength]
  exact List.take_left

theorem isPsk_profileFile (ssidHex : Bytes) : isPsk (profileFile ssidHex) = true := by
  have hsuffix : (ascii ".psk").isSuffixOf (profileFile ssidHex) = true :=
    List.isSuffixOf_iff_suffix.2 ⟨0x3d :: ssidHex, rfl⟩
  unfold isPsk
  rw [hsuffix]
  rfl

theorem profileHex_profileFile (ssid : Bytes) :
    profileHex (profileFile (Hex.encode ssid)) = Hex.encode ssid := by
  unfold profileHex
  rw [profileName_profileFile]
  simp only [if_true, Hex.lower_encode]
  exact substituted_of_not_mem (not_mem_encode ssid rfl)

theorem profileSsid_profileFile (ssid : Bytes) :
    profileSsid (profileFile (Hex.encode ssid)) = ssid := by
  unfold profileSsid
  rw [profileName_profileFile]
  simp only [if_true, Hex.decode_encode]

/-- The records of a stored profile. -/
theorem records_profileText {passphrase : Bytes} (h : 0x0a ∉ passphrase) :
    Awk.records (profileText passphrase) =
      [ascii "[Security]", ascii "Passphrase" ++ 0x3d :: passphrase, [], ascii "[Settings]",
        ascii "AutoConnect" ++ 0x3d :: ascii "true"] := by
  have htext : profileText passphrase =
      ascii "[Security]" ++ 0x0a :: (ascii "Passphrase" ++ 0x3d :: passphrase ++ 0x0a ::
        ([] ++ 0x0a :: (ascii "[Settings]" ++ 0x0a ::
          (ascii "AutoConnect" ++ 0x3d :: ascii "true" ++ 0x0a :: [])))) := by
    simp only [profileText, List.append_assoc, List.cons_append]
    rfl
  have hline : 0x0a ∉ ascii "Passphrase" ++ 0x3d :: passphrase := by
    rw [List.mem_append, List.mem_cons]
    rintro (hmem | hmem | hmem)
    · exact absurd hmem (by decide)
    · exact absurd hmem (by decide)
    · exact h hmem
  rw [htext, Awk.records_cons_line (by decide), Awk.records_cons_line hline,
    Awk.records_cons_line (by decide), Awk.records_cons_line (by decide),
    Awk.records_cons_line (by decide)]
  rfl

theorem keyOf_profileText {passphrase : Bytes} (h : 0x0a ∉ passphrase) :
    keyOf (ascii "Passphrase") (profileText passphrase) = passphrase := by
  have hfield : Awk.field 0x3d (ascii "Passphrase" ++ 0x3d :: passphrase) = ascii "Passphrase" :=
    Awk.field_append (by decide)
  have hcut : (Awk.cut 0x3d (ascii "Passphrase" ++ 0x3d :: passphrase)).2 = passphrase :=
    Awk.cut_append (by decide)
  unfold keyOf
  rw [records_profileText h, List.find?_cons_of_neg (by decide),
    List.find?_cons_of_pos (by simpa using hfield)]
  -- The passphrase may hold `=` itself: only the first one separates.
  simp only [afterEquals]
  rw [if_pos (by simp), hcut]

/-- **A stored passphrase is read back.** -/
theorem loadProfileKey_profileText {passphrase : Bytes} (h : 0x0a ∉ passphrase)
    (hmin : 8 ≤ passphrase.length) (hmax : passphrase.length ≤ 63) :
    loadProfileKey (profileText passphrase) = some passphrase := by
  have hnil : passphrase ≠ [] := by
    rintro rfl
    simp at hmin
  unfold loadProfileKey
  simp only [keyOf_profileText h]
  rw [if_pos hnil, if_pos ⟨hmin, hmax⟩]

theorem profileEnabled_profileText {passphrase : Bytes} (h : 0x0a ∉ passphrase) :
    profileEnabled (profileText passphrase) = true := by
  have hfield : Awk.field 0x3d (ascii "Passphrase" ++ 0x3d :: passphrase) = ascii "Passphrase" :=
    Awk.field_append (by decide)
  have hfilter : (Awk.records (profileText passphrase)).filter
      (fun record => decide (Awk.field 0x3d record = ascii "AutoConnect")) =
        [ascii "AutoConnect" ++ 0x3d :: ascii "true"] := by
    rw [records_profileText h, List.filter_cons_of_neg (by decide),
      List.filter_cons_of_neg (by simp only [hfield]; decide)]
    rfl
  unfold profileEnabled
  rw [hfilter]
  rfl

/-! ### The directory after a profile was stored -/

theorem asProfile_file (name content : Bytes) :
    asProfile (name, .file content) = if isPsk name then some ⟨name, content⟩ else none := rfl

theorem mem_psks {order : GlobOrder} {dir : ProfileDir} {profile : Profile} :
    profile ∈ psks order dir ↔
      dir.get profile.name = some (.file profile.content) ∧ isPsk profile.name = true := by
  have hmem : ∀ entry, entry ∈ order.order dir.entries ↔ entry ∈ dir.entries :=
    fun entry => (order.perm dir.entries).mem_iff
  unfold psks
  rw [List.mem_filterMap, Table.get_eq_some]
  constructor
  · rintro ⟨⟨name, entry⟩, hentry, hprofile⟩
    rw [hmem] at hentry
    cases entry with
    | directory => simp [asProfile] at hprofile
    | other => simp [asProfile] at hprofile
    | file content =>
        rw [asProfile_file] at hprofile
        split at hprofile
        · next hpsk =>
            cases hprofile
            exact ⟨hentry, hpsk⟩
        · cases hprofile
  · rintro ⟨hentry, hpsk⟩
    refine ⟨(profile.name, .file profile.content), (hmem _).2 hentry, ?_⟩
    simp [asProfile, hpsk]

/-- The only profile that passes a test is the one that is found. -/
theorem findEnabledProfile_of_unique {order : GlobOrder} {dir : ProfileDir} {hex : Bytes}
    {profile : Profile} (hmem : profile ∈ psks order dir)
    (henabled : profileEnabled profile.content = true) (hhex : profileHex profile.name = hex)
    (honly : ∀ other ∈ psks order dir, profileHex other.name = hex → other = profile) :
    findEnabledProfile order dir hex = some profile := by
  unfold findEnabledProfile
  -- Whatever is found has the SSID, and only one profile has it.
  cases hfind : (psks order dir).find? fun profile =>
      profileEnabled profile.content && (profileHex profile.name = hex : Bool) with
  | none =>
      have hnone := List.find?_eq_none.1 hfind profile hmem
      simp [henabled, hhex] at hnone
  | some other =>
      have hother := List.find?_some hfind
      simp only [Bool.and_eq_true, decide_eq_true_eq] at hother
      rw [honly other (List.mem_of_find?_eq_some hfind) hother.2]

theorem mem_psks_of_findEnabledProfile {order : GlobOrder} {dir : ProfileDir} {hex : Bytes}
    {profile : Profile} (h : findEnabledProfile order dir hex = some profile) :
    profile ∈ psks order dir :=
  List.mem_of_find?_eq_some h

/-- The profiles that the loop leaves. -/
theorem mem_psks_removeSpellings {order : GlobOrder} {dir : ProfileDir} {destination hex : Bytes}
    {profile : Profile} :
    profile ∈ psks order (removeSpellings dir destination hex) ↔
      profile ∈ psks order dir ∧ (profile.name = destination ∨ profileHex profile.name ≠ hex) := by
  rw [mem_psks, mem_psks, removeSpellings, Table.get_filter_eq_some]
  constructor
  · rintro ⟨⟨hget, hkept⟩, hpsk⟩
    refine ⟨⟨hget, hpsk⟩, ?_⟩
    simpa [asProfile, hpsk] using hkept
  · rintro ⟨⟨hget, hpsk⟩, hkept⟩
    refine ⟨⟨hget, ?_⟩, hpsk⟩
    simpa [asProfile, hpsk] using hkept

/-- A stored profile is under its name, unless a directory was there, which stays. -/
theorem get_moveProfile (dir : ProfileDir) {temp destination : Bytes} (content : Bytes)
    (hne : destination ≠ temp) :
    (moveProfile dir temp destination content).get destination =
      if dir.get destination = some .directory then some .directory
      else some (.file content) := by
  unfold moveProfile
  split
  · next hdir => rw [Table.get_erase_of_ne _ hne, hdir]
  · rw [Table.get_set_self]

theorem profileFile_ne_tempProfile (hex : Bytes) (pid : ℕ) : profileFile hex ≠ tempProfile pid := by
  have htemp : tempProfile pid = 0x2e :: (ascii "profile-add." ++ ascii (toString pid)) := rfl
  rw [htemp, profileFile]
  intro h
  have hhead := (List.cons.inj h).1
  exact absurd hhead (by decide)

/-- A name that the pattern matches is not the one of a temporary file. -/
theorem ne_tempProfile {name : Bytes} (h : isPsk name = true) (pid : ℕ) :
    name ≠ tempProfile pid := by
  rintro rfl
  -- The name of a temporary file is hidden.
  cases h

/-- The other profiles stay as they were. -/
theorem mem_psks_moveProfile {order : GlobOrder} {dir : ProfileDir} {pid : ℕ}
    {destination content : Bytes} {profile : Profile} (hne : profile.name ≠ destination) :
    profile ∈ psks order (moveProfile dir (tempProfile pid) destination content) ↔
      profile ∈ psks order dir := by
  rw [mem_psks, mem_psks, and_congr_left_iff]
  intro hpsk
  have herase := Table.get_erase_of_ne dir (ne_tempProfile hpsk pid)
  unfold moveProfile
  split
  · rw [herase]
  · rw [Table.get_set_of_ne _ _ hne, herase]

/-- A stored profile is found once the other spellings of its SSID are gone. -/
theorem roundTrip_of_stored {order : GlobOrder} {dir : ProfileDir} {ssid passphrase : Bytes}
    (hget : dir.get (profileFile (Hex.encode ssid)) = some (.file (profileText passphrase)))
    (hown : OwnDigits order dir ssid) (hssid : 0x0a ∉ ssid) (hpass : 0x0a ∉ passphrase)
    (hmin : 8 ≤ passphrase.length) (hmax : passphrase.length ≤ 63) :
    RoundTrip order (removeSpellings dir (profileFile (Hex.encode ssid)) (Hex.encode ssid)) ssid
      passphrase := by
  have honly : ∀ profile ∈ psks order
      (removeSpellings dir (profileFile (Hex.encode ssid)) (Hex.encode ssid)),
      profileHex profile.name = Hex.encode ssid → profile = newProfile ssid passphrase := by
    rintro ⟨name, content⟩ hprofile hhex
    obtain ⟨hmem, hkept⟩ := mem_psks_removeSpellings.1 hprofile
    -- The loop has left the new profile and profiles of other SSIDs.
    rcases hkept with hname | hother
    · have hfile := (mem_psks.1 hmem).1
      simp only at hname hfile
      rw [hname, hget] at hfile
      cases hfile
      rw [hname]
      rfl
    · exact absurd hhex hother
  have hnew : newProfile ssid passphrase ∈ psks order
      (removeSpellings dir (profileFile (Hex.encode ssid)) (Hex.encode ssid)) :=
    mem_psks_removeSpellings.2 ⟨mem_psks.2 ⟨hget, isPsk_profileFile _⟩, Or.inl rfl⟩
  exact {
    found := findEnabledProfile_of_unique hnew (profileEnabled_profileText hpass)
      (profileHex_profileFile ssid) honly
    decoded := profileSsid_profileFile ssid
    selected := by
      rw [newProfile, profileSsid_profileFile]
      exact substituted_of_not_mem hssid
    key := loadProfileKey_profileText hpass hmin hmax
    only := by
      intro profile hprofile hdecoded
      -- Its digits are those of the SSID, and the loop has left no other profile with them.
      have hmem := (mem_psks_removeSpellings.1 hprofile).1
      exact honly profile hprofile (hown profile hmem hdecoded) }

/-- What is found is a file: no directory has its name. -/
theorem get_ne_directory_of_roundTrip {order : GlobOrder} {dir : ProfileDir}
    {ssid passphrase : Bytes}
    (h : RoundTrip order (removeSpellings dir (profileFile (Hex.encode ssid)) (Hex.encode ssid))
      ssid
      passphrase) : dir.get (profileFile (Hex.encode ssid)) ≠ some .directory := by
  intro hdir
  have hmem := (mem_psks_removeSpellings.1 (mem_psks_of_findEnabledProfile h.found)).1
  have hfile := (mem_psks.1 hmem).1
  rw [newProfile, hdir] at hfile
  cases hfile

/-- A profile of the SSID under other digits is left by the loop, and it is not the new one. -/
theorem ownDigits_of_roundTrip {order : GlobOrder} {dir : ProfileDir} {ssid passphrase : Bytes}
    (h : RoundTrip order (removeSpellings dir (profileFile (Hex.encode ssid)) (Hex.encode ssid))
      ssid
      passphrase) : OwnDigits order dir ssid := by
  intro profile hprofile hdecoded
  by_contra hhex
  have hleft : profile ∈ psks order
      (removeSpellings dir (profileFile (Hex.encode ssid)) (Hex.encode ssid)) :=
    mem_psks_removeSpellings.2 ⟨hprofile, Or.inr hhex⟩
  rw [h.only profile hleft hdecoded] at hhex
  exact hhex (profileHex_profileFile ssid)

/-- The new file changes nothing about how the other profiles of its SSID are named. -/
theorem ownDigits_moveProfile {order : GlobOrder} {dir : ProfileDir} {pid : ℕ}
    {ssid content : Bytes} :
    OwnDigits order
        (moveProfile dir (tempProfile pid) (profileFile (Hex.encode ssid)) content) ssid ↔
      OwnDigits order dir ssid := by
  have hall : ∀ profile : Profile, profile.name = profileFile (Hex.encode ssid) →
      profileHex profile.name = Hex.encode ssid := by
    rintro ⟨name, content⟩ rfl
    exact profileHex_profileFile ssid
  constructor
  · intro h profile hprofile hdecoded
    by_cases hname : profile.name = profileFile (Hex.encode ssid)
    · exact hall profile hname
    · exact h profile ((mem_psks_moveProfile hname).2 hprofile) hdecoded
  · intro h profile hprofile hdecoded
    by_cases hname : profile.name = profileFile (Hex.encode ssid)
    · exact hall profile hname
    · exact h profile ((mem_psks_moveProfile hname).1 hprofile) hdecoded

/-- **After the two steps on the directory the profile is found, alone, exactly when no directory
had its name and no other profile of its SSID had other digits.** -/
theorem roundTrip_removeSpellings {order : GlobOrder} {dir : ProfileDir} {pid : ℕ}
    {ssid passphrase : Bytes} (hssid : 0x0a ∉ ssid) (hpass : 0x0a ∉ passphrase)
    (hmin : 8 ≤ passphrase.length) (hmax : passphrase.length ≤ 63) :
    RoundTrip order
        (removeSpellings
          (moveProfile dir (tempProfile pid) (profileFile (Hex.encode ssid))
            (profileText passphrase))
          (profileFile (Hex.encode ssid)) (Hex.encode ssid)) ssid passphrase ↔
      dir.get (profileFile (Hex.encode ssid)) ≠ some .directory ∧ OwnDigits order dir ssid := by
  have hget := get_moveProfile dir (profileText passphrase)
    (profileFile_ne_tempProfile (Hex.encode ssid) pid)
  constructor
  · intro h
    refine ⟨?_, ownDigits_moveProfile.1 (ownDigits_of_roundTrip h)⟩
    intro hdir
    -- The directory is still there.
    rw [if_pos hdir] at hget
    exact get_ne_directory_of_roundTrip h hget
  · rintro ⟨hdir, hown⟩
    rw [if_neg hdir] at hget
    exact roundTrip_of_stored hget (ownDigits_moveProfile.2 hown) hssid hpass hmin hmax

/-! ### From the user to the directory -/

variable {beyond : Awk.Beyond}

theorem readLine_append {line rest : Bytes} (h : 0x0a ∉ line) :
    readLine (line ++ 0x0a :: rest) = some (line, rest) := by
  unfold readLine
  rw [if_pos (by simp)]
  exact congrArg some (Prod.ext (Awk.field_append h) (Awk.cut_append h))

/-- What the caller accepts: a length within the bounds, and printable bytes. -/
theorem validWifiText_iff {value : Bytes} {minimum maximum : ℕ} :
    validWifiText value minimum maximum = true ↔
      (minimum ≤ value.length ∧ value.length ≤ maximum) ∧
        ∀ ch ∈ value, (0x20 : UInt8) ≤ ch ∧ ch ≤ 0x7e := by
  unfold validWifiText
  split
  · next hbad =>
      constructor
      · intro h
        cases h
      · rintro ⟨hlength, -⟩
        omega
  · next hgood =>
      rw [not_or, Nat.not_lt, Nat.not_lt] at hgood
      simp [hgood, List.all_eq_true]

/-- A printable text is one line. -/
theorem not_mem_of_validWifiText {value : Bytes} {minimum maximum : ℕ}
    (h : validWifiText value minimum maximum = true) : 0x0a ∉ value := by
  intro hmem
  exact absurd ((validWifiText_iff.1 h).2 _ hmem).1 (by decide)

/-- The two length checks are the same. -/
theorem validLength_of_validWifiText {value : Bytes} {minimum maximum : ℕ}
    (h : validWifiText value minimum maximum = true) :
    validLength value minimum maximum = true := by
  simpa [validLength] using (validWifiText_iff.1 h).1

/-- The two checks of the bytes are the same. -/
theorem printableAscii_of_validWifiText {value : Bytes} {minimum maximum : ℕ}
    (h : validWifiText value minimum maximum = true) (hmin : 0 < minimum) :
    printableAscii value = true := by
  obtain ⟨⟨hlow, -⟩, hall⟩ := validWifiText_iff.1 h
  have hnil : value ≠ [] := by
    rintro rfl
    rw [List.length_nil] at hlow
    omega
  simp only [printableAscii, List.all_eq_true, Bool.and_eq_true, decide_eq_true_eq]
  exact ⟨hnil, hall⟩

/-- What the caller accepts, the script accepts. -/
theorem profileAdd_wifiRequest {files : WifiFiles} {pid : ℕ} {ssid passphrase : Bytes}
    (hssid : validWifiText ssid 1 32 = true) (hpass : validWifiText passphrase 8 63 = true)
    (hready : files.Ready pid) :
    profileAdd beyond files pid (wifiRequest ssid passphrase) =
      some ⟨removeSpellings
        (moveProfile files.profiles (tempProfile pid) (profileFile (Hex.encode ssid))
          (profileText passphrase)) (profileFile (Hex.encode ssid)) (Hex.encode ssid),
        some (prefer beyond (Hex.encode ssid) 8 files.preferred)⟩ := by
  have hrequest : wifiRequest ssid passphrase = ssid ++ 0x0a :: (passphrase ++ 0x0a :: []) := by
    simp [wifiRequest]
  have hend : readLine [] = none := rfl
  have hnil : Hex.encode ssid ≠ [] := by
    intro h
    have hlow := (validWifiText_iff.1 hssid).1.1
    rw [Hex.encode_eq_nil.1 h, List.length_nil] at hlow
    omega
  unfold profileAdd
  rw [hrequest, readLine_append (not_mem_of_validWifiText hssid)]
  simp only [readLine_append (not_mem_of_validWifiText hpass), hend,
    validLength_of_validWifiText hssid, validLength_of_validWifiText hpass,
    printableAscii_of_validWifiText hssid (by decide),
    printableAscii_of_validWifiText hpass (by decide), hready.lock, hready.temp, Hex.lower_encode,
    hnil]
  rfl

/-- **What the caller accepts is saved.** -/
theorem saveWifiProfile_of_ready {files : WifiFiles} {pid : ℕ} {ssid passphrase : Bytes}
    (hssid : validWifiText ssid 1 32 = true) (hpass : validWifiText passphrase 8 63 = true)
    (hready : files.Ready pid) :
    saveWifiProfile beyond files pid ssid passphrase =
      .ok ⟨removeSpellings
        (moveProfile files.profiles (tempProfile pid) (profileFile (Hex.encode ssid))
          (profileText passphrase)) (profileFile (Hex.encode ssid)) (Hex.encode ssid),
        some (prefer beyond (Hex.encode ssid) 8 files.preferred)⟩ := by
  unfold saveWifiProfile
  rw [hssid, hpass, profileAdd_wifiRequest hssid hpass hready]
  rfl

/-- A directory under the name of the profile for `net1`. -/
def directoryInPlace : WifiFiles where
  profiles := Table.empty.set (profileFile (Hex.encode (ascii "net1"))) .directory
  preferred := none

/-- A profile of the SSID `home` whose name has a digit too many stays beside the new one. -/
example : ¬ OwnDigits .asKept
    (Table.empty.set (ascii "=686f6d650.psk") (.file (profileText (ascii "fixture-pass-9"))))
    (ascii "home") := by
  intro h
  have hmem : (⟨ascii "=686f6d650.psk", profileText (ascii "fixture-pass-9")⟩ : Profile) ∈
      psks .asKept (Table.empty.set _ _) := mem_psks.2 ⟨Table.get_set_self _ _ _, by decide⟩
  exact absurd (h _ hmem (by decide)) (by decide)

end NesDeck
