/-
**Sessions of the upload service.**

A login gives the browser a random token; the service keeps the digest of the token with the time
at which the session ends.  Sessions are looked up with every request, removed when they turn out
to be over, when their user logs out, and when a ninth one is created.  Every one of these happens
under the lock, a logout under two: it looks its session up and removes it later.

The clock is read before the lock is taken.  An operation that has read it may wait while others,
which read it later, take the lock first: a session may be removed as over by one request before
another, which read the clock while the session lasted, comes to look at it, and sessions may be
created in another order than that of their times.

The sessions are compared with `Leases`, which are at most eight grants without keys and digests.

Main definitions:

* `NesDeck.Uploader.Sessions` — the state behind the lock, and the operations that wait for it;
* `NesDeck.Uploader.Sessions.currentSession`, `NesDeck.Uploader.Sessions.createSession`,
  `NesDeck.Uploader.Sessions.handleLogout` — the functions of `server.go`;
* `NesDeck.Uploader.Sessions.react` — the clock is read, or a section runs under the lock;
* `NesDeck.Uploader.Watched` — the service with the leases it is compared with;
* `NesDeck.Uploader.Watched.Refines` — the agreement of the two.

Main results:

* `NesDeck.Uploader.length_rawURLEncoding` — the length of a token;
* `NesDeck.Uploader.Watched.refines_step` — every step keeps the agreement;
* `NesDeck.Uploader.Watched.sessions_follow_leases` — **at most eight sessions exist, a request is
  accepted exactly when its cookie names a live one, and sessions end in one of three ways**, in
  whatever order the lock is taken.
-/

import Mathlib.Algebra.Group.Nat.Defs
import Mathlib.Data.Set.Function
import NesDeck.Lib.HostFile
import NesDeck.Lib.Leases
import NesDeck.Lib.Run
import NesDeck.Lib.Table

set_option relaxedAutoImplicit false
set_option autoImplicit false

namespace NesDeck.Uploader

open HostFile (Bytes ascii)

/-- `sessionLifetime`, in nanoseconds. -/
def sessionLifetime : ℕ := 8 * 60 * 60 * 10 ^ 9

def maximumSessions : ℕ := 8

/-! ### Tokens -/

def base64Alphabet : Bytes :=
  ascii "ABCDEFGHIJKLMNOPQRSTUVWXYZabcdefghijklmnopqrstuvwxyz0123456789-_"

/-- The character for six bits. -/
def sextet (bits : ℕ) : UInt8 := base64Alphabet.getD bits 0

/-- `base64.RawURLEncoding.EncodeToString`. -/
def rawURLEncoding : Bytes → Bytes
  | a :: b :: c :: rest =>
      sextet (a.toNat / 4) :: sextet (a.toNat % 4 * 16 + b.toNat / 16) ::
        sextet (b.toNat % 16 * 4 + c.toNat / 64) :: sextet (c.toNat % 64) :: rawURLEncoding rest
  | [a, b] =>
      [sextet (a.toNat / 4), sextet (a.toNat % 4 * 16 + b.toNat / 16), sextet (b.toNat % 16 * 4)]
  | [a] => [sextet (a.toNat / 4), sextet (a.toNat % 4 * 16)]
  | [] => []

theorem length_rawURLEncoding (bytes : Bytes) :
    (rawURLEncoding bytes).length = (8 * bytes.length + 5) / 6 := by
  fun_induction rawURLEncoding bytes with
  | case1 a b c rest ih =>
      simp only [List.length_cons, ih]
      omega
  | case2 a b => simp
  | case3 a => simp
  | case4 => rfl

/-- What `rand.Read` puts into a buffer of 32 bytes. -/
structure RandomBytes where
  bytes : Bytes
  length_eq : bytes.length = 32

/-- `randomToken(32)`, when the random bytes can be read. -/
def randomToken (random : RandomBytes) : Bytes := rawURLEncoding random.bytes

theorem length_randomToken (random : RandomBytes) : (randomToken random).length = 43 := by
  rw [randomToken, length_rawURLEncoding, random.length_eq]

/-! ### The state -/

/-- `userSession`; a time is a number of nanoseconds. -/
structure UserSession where
  csrf : Bytes
  expiresAt : ℕ

/-- What the service is asked for.  A login whose random bytes cannot be read fails before it reads
the clock, and is no operation here. -/
inductive Operation where
  | login (token csrf : RandomBytes)
  | request (cookie : Option Bytes)
  | logout (sameOrigin : Bool) (cookie : Option Bytes) (csrf : Bytes)

/-- An operation that has read the clock, and waits for the lock. -/
structure Waiting where
  operation : Operation
  now : ℕ

/-- The part of `application` that sessions use. -/
structure Sessions where
  sessions : Table Bytes UserSession
  /-- The cookies of the logouts that have looked their session up and not removed it yet. -/
  leaving : List Bytes
  /-- The operations between their reading of the clock and the lock. -/
  waiting : List Waiting
  /-- The last time that was read. -/
  clock : ℕ

/-- The token that an operation hands out. -/
def Operation.granted : Operation → Option Bytes
  | .login token _ => some (randomToken token)
  | _ => none

/-- The token that an operation hands out or gets. -/
def Operation.token : Operation → Option Bytes
  | .login token _ => some (randomToken token)
  | .request cookie => cookie
  | .logout _ cookie _ => cookie

/-- The token that an operation that waits will hand out. -/
def Waiting.granted (waiting : Waiting) : Option Bytes := waiting.operation.granted

namespace Sessions

/-- The state of a service that was just started. -/
def started (clock : ℕ) : Sessions := ⟨Table.empty, [], [], clock⟩

section Digest

/-! ### The functions of the service -/

variable (digest : Bytes → Bytes)

/-- `currentSession`, with the time `now` that it read. The digest of a token is its
`sessionKey`. -/
def currentSession (app : Sessions) (cookie : Option Bytes) (now : ℕ) :
    Sessions × Option (Bytes × UserSession) :=
  match cookie with
  | none => (app, none)
  | some value =>
      if value.length ≠ 43 then (app, none)
      else
        let key := digest value
        match app.sessions.get key with
        -- The key is deleted whether it was there or not.
        | none => ({ app with sessions := app.sessions.erase key }, none)
        | some session =>
            if now < session.expiresAt then (app, some (key, session))
            else ({ app with sessions := app.sessions.erase key }, none)

/-- The section of `createSession` that runs under the lock, with the time `now` that was read
before.  It visits the sessions in any order when it looks for the oldest. -/
def createSession (app : Sessions) (token csrf : RandomBytes)
    (visit : Table.Visit Bytes UserSession) (now : ℕ) : Sessions :=
  let session : UserSession := ⟨randomToken csrf, now + sessionLifetime⟩
  let unexpired := app.sessions.filter (now < ·.2.expiresAt)
  let room :=
    if maximumSessions ≤ unexpired.size then
      unexpired.erase (unexpired.oldest visit [] (·.expiresAt))
    else unexpired
  { app with sessions := room.set (digest (randomToken token)) session }

/-- The first section of `handleLogout`: the session is looked up, and the token of the form is
compared with it. -/
def handleLogout (app : Sessions) (sameOrigin : Bool) (cookie : Option Bytes) (csrf : Bytes)
    (now : ℕ) : Sessions :=
  if !sameOrigin then app
  else
    match currentSession digest app cookie now, cookie with
    | (app, some (_, session)), some value =>
        if csrf = session.csrf then { app with leaving := value :: app.leaving } else app
    | (app, _), _ => app

/-- The second section of `handleLogout`. -/
def finishLogout (app : Sessions) (cookie : Bytes) : Sessions :=
  if cookie ∈ app.leaving then
    { app with
      sessions := app.sessions.erase (digest cookie)
      leaving := app.leaving.erase cookie }
  else app

/-! ### Runs -/

/-- One step: an operation reads the clock, which shows more than it showed before (`wait` is what
passed beyond one nanosecond); the operation with a number among those that wait gets the lock; a
logout comes to its second section. -/
inductive Event where
  | read (operation : Operation) (wait : ℕ)
  | lock (number : ℕ) (visit : Table.Visit Bytes UserSession)
  | finishLogout (cookie : Bytes)

/-- An operation reads the clock. -/
def read (app : Sessions) (operation : Operation) (wait : ℕ) : Sessions :=
  { app with
    clock := app.clock + 1 + wait
    waiting := app.waiting ++ [⟨operation, app.clock + 1 + wait⟩] }

/-- An operation under the lock. -/
def enter (app : Sessions) (waiting : Waiting) (visit : Table.Visit Bytes UserSession) : Sessions :=
  match waiting.operation with
  | .login token csrf => createSession digest app token csrf visit waiting.now
  | .request cookie => (currentSession digest app cookie waiting.now).1
  | .logout sameOrigin cookie csrf => handleLogout digest app sameOrigin cookie csrf waiting.now

/-- One step.  Those that wait get the lock in any order. -/
def react (app : Sessions) : Event → Sessions
  | .read operation wait => app.read operation wait
  | .lock number visit =>
      match app.waiting[number]? with
      | some waiting =>
          enter digest { app with waiting := app.waiting.eraseIdx number } waiting visit
      | none => app
  | .finishLogout cookie => finishLogout digest app cookie

/-- `currentSession` accepts a cookie, with the time that was read for it. -/
def Accepts (app : Sessions) (cookie : Option Bytes) (now : ℕ) : Prop :=
  (currentSession digest app cookie now).2.isSome = true

end Digest

/-- The token that a step is going to hand out. -/
def Event.granted : Event → Option Bytes
  | .read operation _ => operation.granted
  | _ => none

/-- The token that a step is going to hand out or gets. -/
def Event.token : Event → Option Bytes
  | .read operation _ => operation.token
  | .lock _ _ => none
  | .finishLogout cookie => some cookie

end Sessions

/-- What an operation under the lock is for the leases. -/
def Waiting.change (waiting : Waiting) : Option (Leases.Event Bytes) :=
  match waiting.operation with
  | .login token _ => some (.grant (randomToken token) waiting.now)
  | .request cookie => cookie.map (.look · waiting.now)
  | .logout sameOrigin cookie _ => if sameOrigin then cookie.map (.look · waiting.now) else none

/-- What a step is for the leases. -/
def Sessions.leaseEvent (app : Sessions) : Sessions.Event → Option (Leases.Event Bytes)
  | .read _ _ => none
  | .lock number _ => app.waiting[number]?.bind Waiting.change
  | .finishLogout cookie => if cookie ∈ app.leaving then some (.revoke cookie) else none

/-! ### The table and the leases -/

open Leases (live)

/-- A table has the entries of the leases, under the digests of their tokens. -/
def Matches (digest : Bytes → Bytes) (table : Table Bytes UserSession)
    (leases : List (Lease Bytes)) : Prop :=
  ∀ key expiry,
    ((∃ session, table.get key = some session ∧ session.expiresAt = expiry) ↔
      ∃ lease ∈ leases, digest lease.id = key ∧ lease.since + sessionLifetime = expiry)

section Matching

variable {digest : Bytes → Bytes} {table : Table Bytes UserSession} {leases : List (Lease Bytes)}
  {T : Set Bytes} {now : ℕ}

/-- What is over is removed from both. -/
theorem Matches.filter (h : Matches digest table leases) (now : ℕ) :
    Matches digest (table.filter (now < ·.2.expiresAt)) (live sessionLifetime now leases) := by
  intro key expiry
  constructor
  · rintro ⟨session, hget, rfl⟩
    obtain ⟨hget, hlive⟩ := (Table.get_filter_eq_some _ _ _ _).1 hget
    obtain ⟨lease, hlease, hkey, hexpiry⟩ := (h key session.expiresAt).1 ⟨session, hget, rfl⟩
    refine ⟨lease, Leases.mem_live.2 ⟨hlease, ?_⟩, hkey, hexpiry⟩
    rw [hexpiry]
    simpa using hlive
  · rintro ⟨lease, hlease, hkey, rfl⟩
    obtain ⟨hlease, hlive⟩ := Leases.mem_live.1 hlease
    obtain ⟨session, hget, hexpiry⟩ := (h key _).2 ⟨lease, hlease, hkey, rfl⟩
    refine ⟨session, (Table.get_filter_eq_some _ _ _ _).2 ⟨hget, ?_⟩, hexpiry⟩
    simpa [hexpiry] using hlive

/-- A token that is removed from the one is removed from the other. -/
theorem Matches.erase (h : Matches digest table leases) (hinj : Set.InjOn digest T)
    (hids : ∀ lease ∈ leases, lease.id ∈ T) {token : Bytes} (htoken : token ∈ T) :
    Matches digest (table.erase (digest token)) (leases.filter (·.id ≠ token)) := by
  intro key expiry
  have hkeys : ∀ lease ∈ leases, digest lease.id = key →
      (key ≠ digest token ↔ lease.id ≠ token) := by
    rintro lease hlease rfl
    exact not_congr (hinj.eq_iff (hids lease hlease) htoken)
  by_cases hkey : key = digest token
  · rw [hkey, Table.get_erase_self]
    constructor
    · rintro ⟨session, hnone, -⟩
      cases hnone
    · rintro ⟨lease, hmem, hdigest, -⟩
      obtain ⟨hlease, hne⟩ := List.mem_filter.1 hmem
      exact absurd hkey ((hkeys lease hlease (hdigest.trans hkey.symm)).2 (by simpa using hne))
  · rw [Table.get_erase_of_ne table hkey, h key expiry]
    refine exists_congr ?_
    intro lease
    rw [List.mem_filter]
    constructor
    · rintro ⟨hlease, hdigest, heq⟩
      exact ⟨⟨hlease, by simpa using (hkeys lease hlease hdigest).1 hkey⟩, hdigest, heq⟩
    · rintro ⟨⟨hlease, -⟩, hdigest, heq⟩
      exact ⟨hlease, hdigest, heq⟩

/-- A new token is added to both. -/
theorem Matches.set (h : Matches digest table leases) (hinj : Set.InjOn digest T)
    (hids : ∀ lease ∈ leases, lease.id ∈ T) {token : Bytes} (htoken : token ∈ T)
    (hnew : ∀ lease ∈ leases, lease.id ≠ token) (csrf : Bytes) :
    Matches digest (table.set (digest token) ⟨csrf, now + sessionLifetime⟩)
      (leases ++ [⟨token, now⟩]) := by
  intro key expiry
  by_cases hkey : key = digest token
  · rw [hkey, Table.get_set_self]
    constructor
    · rintro ⟨session, hsession, rfl⟩
      obtain rfl := Option.some.inj hsession
      exact ⟨⟨token, now⟩, by simp, rfl, rfl⟩
    · rintro ⟨lease, hmem, hdigest, rfl⟩
      rcases List.mem_append.1 hmem with hold | hlast
      · -- An old lease with this digest would have this token.
        exact absurd (hinj (hids lease hold) htoken hdigest) (hnew lease hold)
      · obtain rfl := List.mem_singleton.1 hlast
        exact ⟨_, rfl, rfl⟩
  · rw [Table.get_set_of_ne table _ hkey, h key expiry]
    constructor
    · rintro ⟨lease, hmem, hdigest, heq⟩
      exact ⟨lease, List.mem_append_left _ hmem, hdigest, heq⟩
    · rintro ⟨lease, hmem, hdigest, heq⟩
      rcases List.mem_append.1 hmem with hold | hlast
      · exact ⟨lease, hold, hdigest, heq⟩
      · obtain rfl := List.mem_singleton.1 hlast
        exact absurd hdigest.symm hkey

/-- The entry of a key and the lease of a token. -/
theorem Matches.get_eq_some (h : Matches digest table leases) (hinj : Set.InjOn digest T)
    (hids : ∀ lease ∈ leases, lease.id ∈ T) {token : Bytes} (htoken : token ∈ T)
    {session : UserSession} (hget : table.get (digest token) = some session) :
    ∃ lease ∈ leases, lease.id = token ∧ lease.since + sessionLifetime = session.expiresAt := by
  obtain ⟨lease, hlease, hkey, hexpiry⟩ := (h _ _).1 ⟨session, hget, rfl⟩
  exact ⟨lease, hlease, hinj (hids lease hlease) htoken hkey, hexpiry⟩

/-- A look leaves both as they are, or removes a token that is over, or is not there, from both. -/
theorem Matches.look (h : Matches digest table leases) (hinj : Set.InjOn digest T)
    (hids : ∀ lease ∈ leases, lease.id ∈ T) (hnodup : (leases.map Lease.id).Nodup) {token : Bytes}
    (htoken : token ∈ T) (now : ℕ) :
    Matches digest
      (if ∃ session, table.get (digest token) = some session ∧ now < session.expiresAt then table
        else table.erase (digest token))
      (leases.filter fun lease => lease.id ≠ token ∨ now < lease.since + sessionLifetime) := by
  split
  · next hlive =>
      obtain ⟨session, hget, hlive⟩ := hlive
      obtain ⟨lease, hlease, hid, hexpiry⟩ := h.get_eq_some hinj hids htoken hget
      rw [List.filter_eq_self.2]
      · exact h
      · intro other hother
        by_cases hsame : other.id = token
        · have heq := List.inj_on_of_nodup_map hnodup hother hlease (hsame.trans hid.symm)
          rw [heq]
          exact decide_eq_true (Or.inr (hexpiry ▸ hlive))
        · exact decide_eq_true (Or.inl hsame)
  · next hover =>
      have herase := h.erase hinj hids htoken
      convert herase using 1
      refine List.filter_congr ?_
      intro lease hlease
      rw [decide_eq_decide]
      constructor
      · rintro (hne | hlive) hid
        · exact hne hid
        · -- The lease of the token is not live, as its entry is not.
          obtain ⟨session, hget, hexpiry⟩ := (h _ _).2 ⟨lease, hlease, rfl, rfl⟩
          rw [hid] at hget
          exact hover ⟨session, hget, hexpiry ▸ hlive⟩
      · exact Or.inl

end Matching

/-! ### Making room -/

section Room

variable {digest : Bytes → Bytes} {table : Table Bytes UserSession} {leases : List (Lease Bytes)}
  {T : Set Bytes}

/-- Every entry has a lease. -/
theorem Matches.lease_of_mem (h : Matches digest table leases) {key : Bytes} {session : UserSession}
    (hmem : (key, session) ∈ table.entries) :
    ∃ lease ∈ leases, digest lease.id = key ∧ lease.since + sessionLifetime = session.expiresAt :=
  (h key session.expiresAt).1 ⟨session, (Table.get_eq_some table key session).2 hmem, rfl⟩

/-- Every lease has an entry. -/
theorem Matches.entry_of_mem (h : Matches digest table leases) {lease : Lease Bytes}
    (hmem : lease ∈ leases) :
    ∃ session, (digest lease.id, session) ∈ table.entries ∧
      session.expiresAt = lease.since + sessionLifetime := by
  obtain ⟨session, hget, hexpiry⟩ := (h _ _).2 ⟨lease, hmem, rfl, rfl⟩
  exact ⟨session, (Table.get_eq_some table _ session).1 hget, hexpiry⟩

/-- There are as many entries as leases. -/
theorem Matches.size_eq (h : Matches digest table leases) (hinj : Set.InjOn digest T)
    (hids : ∀ lease ∈ leases, lease.id ∈ T) (hnodup : (leases.map Lease.id).Nodup) :
    table.size = leases.length := by
  have hkeys : ((leases.map Lease.id).map digest).Nodup := by
    refine hnodup.map_on ?_
    intro a ha b hb hab
    obtain ⟨lease, hlease, rfl⟩ := List.mem_map.1 ha
    obtain ⟨lease', hlease', rfl⟩ := List.mem_map.1 hb
    exact hinj (hids lease hlease) (hids lease' hlease') hab
  -- The keys of the table are the digests of the tokens of the leases, each once.
  rw [Table.size_eq_of_keys hkeys, List.length_map, List.length_map]
  intro key
  rw [List.map_map, List.mem_map]
  constructor
  · rintro ⟨lease, hlease, rfl⟩
    obtain ⟨session, hmem, -⟩ := h.entry_of_mem hlease
    exact ⟨session, hmem⟩
  · rintro ⟨session, hmem⟩
    obtain ⟨lease, hlease, hkey, -⟩ := h.lease_of_mem hmem
    exact ⟨lease, hlease, hkey⟩

/-- The loop finds the entry of the oldest lease, in whatever order it visits the entries. -/
theorem Matches.oldest_eq (h : Matches digest table leases) (hblank : ∀ token, digest token ≠ [])
    (htimes : (leases.map Lease.since).Nodup) {oldest : Lease Bytes} (hmem : oldest ∈ leases)
    (hle : ∀ lease ∈ leases, oldest.since ≤ lease.since) (visit : Table.Visit Bytes UserSession) :
    table.oldest visit [] (·.expiresAt) = digest oldest.id := by
  obtain ⟨session, hentry, hexpiry⟩ := h.entry_of_mem hmem
  obtain ⟨found, hfound⟩ := Table.oldest_mem (List.ne_nil_of_mem hentry) visit [] (·.expiresAt)
  have hnonblank : ∀ entry ∈ table.entries, entry.1 ≠ [] := by
    rintro ⟨key, entry⟩ hmem
    obtain ⟨lease, -, rfl, -⟩ := h.lease_of_mem hmem
    exact hblank lease.id
  have hfirst : found.expiresAt ≤ session.expiresAt :=
    Table.oldest_le hnonblank hfound (digest oldest.id, session) hentry
  obtain ⟨lease, hlease, hkey, hsince⟩ := h.lease_of_mem hfound
  -- The lease that was found is as old as the oldest, and no two leases have one time.
  have hold := hle lease hlease
  have heq : lease = oldest := List.inj_on_of_nodup_map htimes hlease hmem (by omega)
  rw [← hkey, heq]

/-- What `createSession` leaves for the new session, and what a grant leaves. -/
theorem Matches.room (h : Matches digest table leases) (hinj : Set.InjOn digest T)
    (hblank : ∀ token, digest token ≠ []) (hids : ∀ lease ∈ leases, lease.id ∈ T)
    (hnodup : (leases.map Lease.id).Nodup) (htimes : (leases.map Lease.since).Nodup)
    (hlen : leases.length ≤ maximumSessions) (visit : Table.Visit Bytes UserSession) (now : ℕ) :
    let unexpired := table.filter (now < ·.2.expiresAt)
    let room := if maximumSessions ≤ unexpired.size then
      unexpired.erase (unexpired.oldest visit [] (·.expiresAt)) else unexpired
    Matches digest room (Leases.room maximumSessions sessionLifetime now leases) ∧
      room.size < maximumSessions := by
  intro unexpired room
  have hmatch : Matches digest unexpired (live sessionLifetime now leases) := h.filter now
  have hliveids : ∀ lease ∈ live sessionLifetime now leases, lease.id ∈ T :=
    fun lease hlease => hids lease (Leases.mem_live.1 hlease).1
  have hlivenodup : ((live sessionLifetime now leases).map Lease.id).Nodup :=
    hnodup.sublist (List.Sublist.map Lease.id List.filter_sublist)
  have hlivetimes : ((live sessionLifetime now leases).map Lease.since).Nodup :=
    htimes.sublist (List.Sublist.map Lease.since List.filter_sublist)
  have hsize : unexpired.size = (live sessionLifetime now leases).length :=
    hmatch.size_eq hinj hliveids hlivenodup
  have hlivelen := Leases.length_live_le sessionLifetime now leases
  rw [Leases.room, ← hsize]
  by_cases hfull : maximumSessions ≤ unexpired.size
  · -- All places are taken: the oldest lease goes, and its entry.
    have hroom : room = unexpired.erase (unexpired.oldest visit [] (·.expiresAt)) := if_pos hfull
    have hne : live sessionLifetime now leases ≠ [] := by
      intro hnil
      rw [hsize, hnil] at hfull
      exact absurd hfull (by decide)
    obtain ⟨oldest, hmem, hle⟩ := Leases.exists_oldest hne
    rw [hroom, if_pos hfull, hmatch.oldest_eq hblank hlivetimes hmem hle visit,
      Leases.withoutOldest_eq hmem hle hlivetimes hlivenodup]
    refine ⟨hmatch.erase hinj hliveids (hliveids oldest hmem), ?_⟩
    obtain ⟨session, hentry, -⟩ := hmatch.entry_of_mem hmem
    have hsmaller := Table.size_erase hentry
    omega
  · have hroom : room = unexpired := if_neg hfull
    rw [hroom, if_neg hfull]
    exact ⟨hmatch, Nat.lt_of_not_le hfull⟩

end Room

/-! ### Runs of the service and of the leases -/

/-- The service, with the leases it is compared with. -/
structure Watched where
  app : Sessions
  leases : List (Lease Bytes)

namespace Watched

/-- The service and the leases at the start. -/
def started (clock : ℕ) : Watched := ⟨Sessions.started clock, []⟩

/-- The leases after something happened to them, or nothing. -/
def changed (leases : List (Lease Bytes)) (change : Option (Leases.Event Bytes)) :
    List (Lease Bytes) :=
  match change with
  | some change => Leases.step maximumSessions sessionLifetime leases change
  | none => leases

/-- One step, of the service and of the leases. -/
def react (digest : Bytes → Bytes) (watched : Watched) (event : Sessions.Event) : Watched where
  app := watched.app.react digest event
  leases := changed watched.leases (watched.app.leaseEvent event)

/-- The service and the leases agree; `issued` are the tokens of all logins so far, and `T` is a set
on which the digest tells tokens apart.  No two readings of the clock are the same. -/
structure Refines (digest : Bytes → Bytes) (T : Set Bytes) (issued : List Bytes)
    (watched : Watched) : Prop where
  bounded : watched.app.sessions.size ≤ maximumSessions
  matching : Matches digest watched.app.sessions watched.leases
  length_le : watched.leases.length ≤ maximumSessions
  times : (watched.leases.map Lease.since ++ watched.app.waiting.map Waiting.now).Nodup
  past : ∀ time ∈ watched.leases.map Lease.since ++ watched.app.waiting.map Waiting.now,
    time ≤ watched.app.clock
  ids : (watched.leases.map Lease.id ++ watched.app.waiting.filterMap Waiting.granted).Nodup
  given : ∀ id ∈ watched.leases.map Lease.id ++ watched.app.waiting.filterMap Waiting.granted,
    id ∈ issued
  known : ∀ lease ∈ watched.leases, lease.id ∈ T ∧ lease.id.length = 43
  expected : ∀ waiting ∈ watched.app.waiting, ∀ token ∈ waiting.operation.token, token ∈ T
  leaving : ∀ cookie ∈ watched.app.leaving, cookie ∈ T

theorem refines_started (digest : Bytes → Bytes) (T : Set Bytes) (clock : ℕ) :
    Refines digest T [] (started clock) where
  bounded := Nat.zero_le _
  matching := by
    intro key expiry
    simp [started, Sessions.started]
  length_le := Nat.zero_le _
  times := List.nodup_nil
  past := by simp [started, Sessions.started]
  ids := List.nodup_nil
  given := by simp [started, Sessions.started]
  known := by simp [started]
  expected := by simp [started, Sessions.started]
  leaving := by simp [started, Sessions.started]

variable {digest : Bytes → Bytes} {T : Set Bytes} {issued : List Bytes} {watched : Watched}

theorem Refines.leaseIds (h : watched.Refines digest T issued) :
    ∀ lease ∈ watched.leases, lease.id ∈ T := fun lease hlease => (h.known lease hlease).1

theorem Refines.idsNodup (h : watched.Refines digest T issued) :
    (watched.leases.map Lease.id).Nodup := (List.nodup_append.1 h.ids).1

theorem Refines.timesNodup (h : watched.Refines digest T issued) :
    (watched.leases.map Lease.since).Nodup := (List.nodup_append.1 h.times).1

/-- A cookie is accepted exactly when it names a lease that is live at the time that was read. -/
theorem Refines.accepts_iff (h : watched.Refines digest T issued) (hinj : Set.InjOn digest T)
    {cookie : Option Bytes} (hcookie : ∀ token ∈ cookie, token ∈ T) (now : ℕ) :
    watched.app.Accepts digest cookie now ↔
      ∃ lease ∈ live sessionLifetime now watched.leases, cookie = some lease.id := by
  unfold Sessions.Accepts Sessions.currentSession
  cases cookie with
  | none => simp
  | some token =>
      have htoken : token ∈ T := hcookie token rfl
      simp only [Option.some.injEq]
      split
      -- A token has 43 letters, so that no lease goes with a cookie of another length.
      · next hlength =>
          refine iff_of_false (by simp) ?_
          rintro ⟨lease, hlease, rfl⟩
          exact hlength (h.known lease (Leases.mem_live.1 hlease).1).2
      · constructor
        · intro haccept
          cases hget : watched.app.sessions.get (digest token) with
          | none => simp [hget] at haccept
          | some session =>
              by_cases hlive : now < session.expiresAt
              · obtain ⟨lease, hlease, hid, hexpiry⟩ :=
                  h.matching.get_eq_some hinj h.leaseIds htoken hget
                exact ⟨lease, Leases.mem_live.2 ⟨hlease, by omega⟩, hid.symm⟩
              · simp [hget, hlive] at haccept
        · rintro ⟨lease, hlease, rfl⟩
          obtain ⟨hmem, hlive⟩ := Leases.mem_live.1 hlease
          obtain ⟨session, hget, hexpiry⟩ := (h.matching _ _).2 ⟨lease, hmem, rfl, rfl⟩
          simp [hget, hexpiry, hlive]

/-- A lookup changes the table only, as a look of the leases does. -/
theorem currentSession_eq (digest : Bytes → Bytes) (app : Sessions) (token : Bytes) (now : ℕ) :
    (Sessions.currentSession digest app (some token) now).1 = app ∧ token.length ≠ 43 ∨
      (Sessions.currentSession digest app (some token) now).1 =
        { app with
          sessions :=
            if ∃ session, app.sessions.get (digest token) = some session ∧
              now < session.expiresAt then
              app.sessions
            else app.sessions.erase (digest token) } := by
  by_cases hlength : token.length ≠ 43
  · exact Or.inl ⟨by simp [Sessions.currentSession, hlength], hlength⟩
  · right
    cases hget : app.sessions.get (digest token) with
    | none => simp [Sessions.currentSession, hlength, hget]
    | some session =>
        by_cases hlive : now < session.expiresAt
        · simp [Sessions.currentSession, hlength, hget, hlive]
        · simp [Sessions.currentSession, hlength, hget, hlive]

/-- A lookup leaves the sessions, or removes one that is over. -/
theorem currentSession_cases (digest : Bytes → Bytes) (app : Sessions) (cookie : Option Bytes)
    (now : ℕ) :
    (Sessions.currentSession digest app cookie now).1 = app ∨
      ∃ key, (∀ session, app.sessions.get key = some session → session.expiresAt ≤ now) ∧
        (Sessions.currentSession digest app cookie now).1 =
          { app with sessions := app.sessions.erase key } := by
  cases cookie with
  | none => exact Or.inl rfl
  | some token =>
      rcases currentSession_eq digest app token now with ⟨hsame, -⟩ | hlook
      · exact Or.inl hsame
      · rw [hlook]
        split
        · exact Or.inl rfl
        · next hover =>
            refine Or.inr ⟨digest token, ?_, rfl⟩
            intro session hget
            by_contra hlive
            exact hover ⟨session, hget, Nat.not_le.1 hlive⟩

/-! ### Every step keeps the agreement -/

/-- An operation that reads the clock comes to those that wait. -/
theorem Refines.read (h : watched.Refines digest T issued) {operation : Operation}
    (htoken : ∀ token ∈ operation.token, token ∈ T)
    (hfresh : ∀ token ∈ operation.granted, token ∉ issued) (wait : ℕ) :
    Refines digest T (issued ++ operation.granted.toList)
      { watched with app := watched.app.read operation wait } where
  bounded := h.bounded
  matching := h.matching
  length_le := h.length_le
  times := by
    simp only [Sessions.read, List.map_append, List.map_cons, List.map_nil, ← List.append_assoc]
    refine List.nodup_append.2 ⟨h.times, List.nodup_singleton _, ?_⟩
    intro time htime later hlater heq
    obtain rfl := List.mem_singleton.1 hlater
    have hpast := h.past time htime
    omega
  past := by
    simp only [Sessions.read, List.map_append, List.map_cons, List.map_nil, ← List.append_assoc]
    intro time htime
    rcases List.mem_append.1 htime with hold | hlast
    · have hpast := h.past time hold
      omega
    · exact Nat.le_of_eq (List.mem_singleton.1 hlast)
  ids := by
    simp only [Sessions.read, List.filterMap_append, ← List.append_assoc]
    cases hgranted : operation.granted with
    | none => simpa [Waiting.granted, hgranted] using h.ids
    | some token =>
        have hnew : ∀ id ∈ watched.leases.map Lease.id ++
            watched.app.waiting.filterMap Waiting.granted, id ≠ token := by
          rintro id hid rfl
          exact hfresh id hgranted (h.given id hid)
        have hlast : [(⟨operation, watched.app.clock + 1 + wait⟩ : Waiting)].filterMap
          Waiting.granted =
            [token] := by simp [Waiting.granted, hgranted]
        rw [hlast]
        refine List.nodup_append.2 ⟨h.ids, List.nodup_singleton _, ?_⟩
        intro id hid last hlast
        rw [List.mem_singleton.1 hlast]
        exact hnew id hid
  given := by
    simp only [Sessions.read, List.filterMap_append, ← List.append_assoc]
    intro id hid
    rcases List.mem_append.1 hid with hold | hlast
    · exact List.mem_append_left _ (h.given id hold)
    · refine List.mem_append_right _ ?_
      cases hgranted : operation.granted with
      | none => simp [Waiting.granted, hgranted] at hlast
      | some token => simpa [Waiting.granted, hgranted] using hlast
  known := h.known
  expected := by
    intro waiting hwaiting
    rcases List.mem_append.1 hwaiting with hold | hlast
    · exact h.expected waiting hold
    · obtain rfl := List.mem_singleton.1 hlast
      exact htoken
  leaving := h.leaving

/-- An operation that gets the lock leaves those that wait.  Its time and its token are its own. -/
theorem Refines.leave (h : watched.Refines digest T issued) {number : ℕ} {waiting : Waiting}
    (hwaiting : watched.app.waiting[number]? = some waiting) :
    Refines digest T issued
        { watched
          with app := { watched.app with waiting := watched.app.waiting.eraseIdx number } } ∧
      (waiting.now ∉ watched.leases.map Lease.since ++
          (watched.app.waiting.eraseIdx number).map Waiting.now ∧ waiting.now ≤ watched.app.clock) ∧
      (∀ token ∈ waiting.granted, token ∈ issued ∧ token ∉ watched.leases.map Lease.id ++
        (watched.app.waiting.eraseIdx number).filterMap Waiting.granted) ∧
      ∀ token ∈ waiting.operation.token, token ∈ T := by
  obtain ⟨hnumber, hget⟩ := List.getElem?_eq_some_iff.1 hwaiting
  have hperm : (waiting :: watched.app.waiting.eraseIdx number).Perm watched.app.waiting := by
    rw [← hget]
    exact List.getElem_cons_eraseIdx_perm hnumber
  -- The lists of times and of tokens, with those of the operation in front.
  have htimes : (watched.leases.map Lease.since ++ watched.app.waiting.map Waiting.now).Perm
      (waiting.now :: (watched.leases.map Lease.since ++
        (watched.app.waiting.eraseIdx number).map Waiting.now)) :=
    ((hperm.map Waiting.now).symm.append_left _).trans List.perm_middle
  have hids : (watched.leases.map Lease.id ++ watched.app.waiting.filterMap Waiting.granted).Perm
      (waiting.granted.toList ++ (watched.leases.map Lease.id ++
        (watched.app.waiting.eraseIdx number).filterMap Waiting.granted)) := by
    refine ((hperm.filterMap Waiting.granted).symm.append_left _).trans ?_
    cases hgranted : waiting.granted with
    | none => simp [hgranted]
    | some token =>
        rw [List.filterMap_cons_some hgranted]
        exact List.perm_middle
  have htimesNodup := htimes.nodup_iff.1 h.times
  have hidsNodup := hids.nodup_iff.1 h.ids
  refine ⟨?_, ⟨(List.nodup_cons.1 htimesNodup).1, ?_⟩, ?_, ?_⟩
  · exact {
      bounded := h.bounded
      matching := h.matching
      length_le := h.length_le
      times := (List.nodup_cons.1 htimesNodup).2
      past := fun time htime => h.past time (htimes.mem_iff.2 (List.mem_cons_of_mem _ htime))
      ids := (List.nodup_append.1 hidsNodup).2.1
      given := fun id hid => h.given id (hids.mem_iff.2 (List.mem_append_right _ hid))
      known := h.known
      expected := fun other hother =>
        h.expected other (hperm.mem_iff.1 (List.mem_cons_of_mem _ hother))
      leaving := h.leaving }
  · exact h.past _ (htimes.mem_iff.2 List.mem_cons_self)
  · intro token htoken
    have hmem : token ∈ waiting.granted.toList := Option.mem_toList.2 htoken
    refine ⟨h.given token (hids.mem_iff.2 (List.mem_append_left _ hmem)), ?_⟩
    intro hagain
    exact (List.nodup_append.1 hidsNodup).2.2 token hmem token hagain rfl
  · exact h.expected waiting (hperm.mem_iff.1 List.mem_cons_self)

/-- The agreement goes over to fewer leases and another table that matches them. -/
theorem Refines.shrink (h : watched.Refines digest T issued) {table : Table Bytes UserSession}
    {leases : List (Lease Bytes)} (hsub : leases.Sublist watched.leases)
    (hmatch : Matches digest table leases) (hsize : table.size ≤ maximumSessions) :
    Refines digest T issued
      { app := { watched.app with sessions := table }
        leases := leases } where
  bounded := hsize
  matching := hmatch
  length_le := Nat.le_trans hsub.length_le h.length_le
  times := h.times.sublist ((hsub.map _).append (List.Sublist.refl _))
  past := fun time htime => h.past time (((hsub.map _).append (List.Sublist.refl _)).subset htime)
  ids := h.ids.sublist ((hsub.map _).append (List.Sublist.refl _))
  given := fun id hid => h.given id (((hsub.map _).append (List.Sublist.refl _)).subset hid)
  known := fun lease hlease => h.known lease (hsub.subset hlease)
  expected := h.expected
  leaving := h.leaving

/-- A lookup keeps the agreement. -/
theorem Refines.lookup (h : watched.Refines digest T issued) (hinj : Set.InjOn digest T)
    {cookie : Option Bytes} (hcookie : ∀ token ∈ cookie, token ∈ T) (now : ℕ) :
    Refines digest T issued
      { app := (Sessions.currentSession digest watched.app cookie now).1
        leases := changed watched.leases (cookie.map (.look · now)) } := by
  cases cookie with
  | none => exact h
  | some token =>
      rcases currentSession_eq digest watched.app token now with ⟨hsame, hlength⟩ | hlook
      · -- No lease has a token of another length.
        have hkept : changed watched.leases (some (.look token now)) = watched.leases := by
          refine List.filter_eq_self.2 ?_
          intro lease hlease
          refine decide_eq_true (Or.inl ?_)
          rintro rfl
          exact hlength (h.known lease hlease).2
        rw [hsame, Option.map_some, hkept]
        exact h
      · rw [hlook]
        refine h.shrink List.filter_sublist
          (h.matching.look hinj h.leaseIds h.idsNodup (hcookie token rfl) now) ?_
        split
        · exact h.bounded
        · exact Nat.le_trans (Table.size_erase_le _ _) h.bounded

/-- One more, between two lists. -/
theorem nodup_insert {α : Type} {a : α} {l l' : List α} (h : (l ++ l').Nodup) (ha : a ∉ l ++ l') :
    (l ++ [a] ++ l').Nodup := by
  rw [List.append_assoc, List.singleton_append]
  exact List.perm_middle.nodup_iff.2 (List.nodup_cons.2 ⟨ha, h⟩)

theorem mem_insert {α : Type} {a b : α} {l l' : List α} (h : b ∈ l ++ [a] ++ l') :
    b = a ∨ b ∈ l ++ l' := by
  rw [List.append_assoc, List.singleton_append] at h
  exact List.mem_cons.1 (List.perm_middle.mem_iff.1 h)

/-- A new session keeps the agreement: the service makes room where the leases do. -/
theorem Refines.login (h : watched.Refines digest T issued) (hinj : Set.InjOn digest T)
    (hblank : ∀ token, digest token ≠ []) {token : RandomBytes} (csrf : RandomBytes)
    (htoken : randomToken token ∈ T) (hissued : randomToken token ∈ issued)
    (hnew : randomToken token ∉ watched.leases.map Lease.id ++
      watched.app.waiting.filterMap Waiting.granted) {now : ℕ} (hnow : now ≤ watched.app.clock)
    (hown : now ∉ watched.leases.map Lease.since ++ watched.app.waiting.map Waiting.now)
    (visit : Table.Visit Bytes UserSession) :
    Refines digest T issued
      { app := Sessions.createSession digest watched.app token csrf visit now
        leases := changed watched.leases (some (.grant (randomToken token) now)) } := by
  obtain ⟨hroom, hsize⟩ :=
    h.matching.room hinj hblank h.leaseIds h.idsNodup h.timesNodup h.length_le visit now
  have hsub := Leases.room_sublist maximumSessions sessionLifetime now watched.leases
  -- What is left is as before; the new lease and its entry come to it.
  have hkept := h.shrink hsub hroom (Nat.le_of_lt hsize)
  have hids : randomToken token ∉
      (Leases.room maximumSessions sessionLifetime now watched.leases).map Lease.id ++
        watched.app.waiting.filterMap Waiting.granted :=
    fun hmem => hnew (((hsub.map _).append (List.Sublist.refl _)).subset hmem)
  have htimes : now ∉ (Leases.room maximumSessions sessionLifetime now watched.leases).map
    Lease.since ++
      watched.app.waiting.map Waiting.now :=
    fun hmem => hown (((hsub.map _).append (List.Sublist.refl _)).subset hmem)
  refine ⟨?_, ?_, ?_, ?_, ?_, ?_, ?_, ?_, h.expected, h.leaving⟩
  · exact Nat.le_trans (Table.size_set_le _ _ _) hsize
  · refine hroom.set hinj hkept.leaseIds htoken ?_ _
    intro lease hlease heq
    exact hids (List.mem_append_left _ (heq ▸ List.mem_map_of_mem hlease))
  · exact Leases.length_step_le (by decide) h.length_le (.grant (randomToken token) now)
  · simp only [changed, Leases.step, List.map_append, List.map_cons, List.map_nil]
    exact nodup_insert hkept.times htimes
  · simp only [changed, Leases.step, List.map_append, List.map_cons, List.map_nil]
    intro time htime
    rcases mem_insert htime with rfl | hold
    · exact hnow
    · exact hkept.past time hold
  · simp only [changed, Leases.step, List.map_append, List.map_cons, List.map_nil]
    exact nodup_insert hkept.ids hids
  · simp only [changed, Leases.step, List.map_append, List.map_cons, List.map_nil]
    intro id hid
    rcases mem_insert hid with rfl | hold
    · exact hissued
    · exact hkept.given id hold
  · intro lease hlease
    rcases List.mem_append.1 hlease with hold | hlast
    · exact hkept.known lease hold
    · obtain rfl := List.mem_singleton.1 hlast
      exact ⟨htoken, length_randomToken token⟩

/-- The first section of a logout is a lookup. -/
theorem Refines.logout (h : watched.Refines digest T issued) (hinj : Set.InjOn digest T)
    (sameOrigin : Bool) {cookie : Option Bytes} (hcookie : ∀ token ∈ cookie, token ∈ T)
    (csrf : Bytes) (now : ℕ) :
    Refines digest T issued
      { app := Sessions.handleLogout digest watched.app sameOrigin cookie csrf now
        leases :=
          changed watched.leases (if sameOrigin then cookie.map (.look · now) else none) } := by
  have hlookup := h.lookup hinj hcookie now
  unfold Sessions.handleLogout
  cases sameOrigin with
  | false => exact h
  | true =>
      simp only [Bool.not_true, Bool.false_eq_true, if_false, if_true]
      split
      · next app key session token heq =>
          rw [heq] at hlookup
          split
          -- The form has the token of the session: the logout is under way.
          · refine { hlookup with leaving := ?_ }
            intro other hother
            rcases List.mem_cons.1 hother with rfl | hold
            · exact hcookie _ rfl
            · exact hlookup.leaving other hold
          · exact hlookup
      · next app found hother heq =>
          rw [heq] at hlookup
          exact hlookup

/-- The second section of a logout ends the session in both. -/
theorem Refines.finishLogout (h : watched.Refines digest T issued) (hinj : Set.InjOn digest T)
    {cookie : Bytes} (hleaving : cookie ∈ watched.app.leaving) :
    Refines digest T issued
      { app := { watched.app with
          sessions := watched.app.sessions.erase (digest cookie)
          leaving := watched.app.leaving.erase cookie }
        leases := changed watched.leases (some (.revoke cookie)) } :=
  { h.shrink List.filter_sublist (h.matching.erase hinj h.leaseIds (h.leaving cookie hleaving))
      (Nat.le_trans (Table.size_erase_le _ _) h.bounded) with
    leaving := fun other hother => h.leaving other (List.mem_of_mem_erase hother) }

/-- An operation under the lock keeps the agreement, whatever time it has read. -/
theorem Refines.enter (h : watched.Refines digest T issued) (hinj : Set.InjOn digest T)
    (hblank : ∀ token, digest token ≠ []) {waiting : Waiting}
    (htoken : ∀ token ∈ waiting.operation.token, token ∈ T)
    (hgranted : ∀ token ∈ waiting.granted, token ∈ issued ∧ token ∉ watched.leases.map Lease.id ++
      watched.app.waiting.filterMap Waiting.granted)
    (hown : waiting.now ∉ watched.leases.map Lease.since ++ watched.app.waiting.map Waiting.now)
    (hnow : waiting.now ≤ watched.app.clock) (visit : Table.Visit Bytes UserSession) :
    Refines digest T issued
      { app := Sessions.enter digest watched.app waiting visit
        leases := changed watched.leases waiting.change } := by
  obtain ⟨operation, now⟩ := waiting
  cases operation with
  | login token csrf =>
      obtain ⟨hissued, hnew⟩ := hgranted _ rfl
      exact h.login hinj hblank csrf (htoken _ rfl) hissued hnew hnow hown visit
  | request cookie => exact h.lookup hinj htoken now
  | logout sameOrigin cookie csrf => exact h.logout hinj sameOrigin htoken csrf now

/-- **Every step keeps the agreement**, when no login has a token that one before it had. -/
theorem refines_step (hinj : Set.InjOn digest T) (hblank : ∀ token, digest token ≠ [])
    (h : watched.Refines digest T issued) {event : Sessions.Event}
    (hevent : ∀ token ∈ event.token, token ∈ T) (hfresh : ∀ token ∈ event.granted, token ∉ issued) :
    (watched.react digest event).Refines digest T (issued ++ event.granted.toList) := by
  cases event with
  | read operation wait => exact h.read hevent hfresh wait
  | lock number visit =>
      simp only [Sessions.Event.granted, Option.toList_none, List.append_nil]
      cases hwaiting : watched.app.waiting[number]? with
      | none =>
          simp only [react, Sessions.react, Sessions.leaseEvent, hwaiting]
          exact h
      | some waiting =>
          simp only [react, Sessions.react, Sessions.leaseEvent, hwaiting]
          obtain ⟨hleft, ⟨hown, hnow⟩, hgranted, htoken⟩ := h.leave hwaiting
          exact hleft.enter hinj hblank htoken hgranted hown hnow visit
  | finishLogout cookie =>
      simp only [Sessions.Event.granted, Option.toList_none, List.append_nil]
      unfold react Sessions.react Sessions.leaseEvent Sessions.finishLogout
      by_cases hleaving : cookie ∈ watched.app.leaving
      · simp only [hleaving, if_true]
        exact h.finishLogout hinj hleaving
      · simp only [hleaving, if_false]
        exact h

/-! ### The law of a run -/

/-- What holds after every step: there are at most eight sessions, and a cookie is accepted, with
any time that was read for it, exactly when it names a session that is live at that time. -/
structure Follows (digest : Bytes → Bytes) (T : Set Bytes) (watched : Watched) : Prop where
  bounded : watched.app.sessions.size ≤ maximumSessions
  accepts : ∀ cookie : Option Bytes, (∀ token ∈ cookie, token ∈ T) → ∀ now,
    (watched.app.Accepts digest cookie now ↔
      ∃ lease ∈ live sessionLifetime now watched.leases, cookie = some lease.id)

/-- What holds of every step: a session it ends is logged out by it, or over by now, or the oldest
of eight that are live now when a ninth is created. -/
def EndsByRule (digest : Bytes → Bytes) (watched : Watched) (event : Sessions.Event) : Prop :=
  ∀ lease ∈ watched.leases, lease ∉ (watched.react digest event).leases →
    ∃ change, watched.app.leaseEvent event = some change ∧
      Leases.Ended maximumSessions sessionLifetime watched.app.clock watched.leases lease change

theorem Refines.follows (h : watched.Refines digest T issued) (hinj : Set.InjOn digest T) :
    watched.Follows digest T where
  bounded := h.bounded
  accepts := fun _ hcookie now => h.accepts_iff hinj hcookie now

/-- Nobody has read a time after the last one. -/
theorem Refines.reading_le (h : watched.Refines digest T issued) {event : Sessions.Event}
    {change : Leases.Event Bytes} (hchange : watched.app.leaseEvent event = some change) :
    change.reading ≤ watched.app.clock := by
  cases event with
  | read operation wait => cases hchange
  | lock number visit =>
      obtain ⟨waiting, hwaiting, hchange⟩ := Option.bind_eq_some_iff.1 hchange
      have hnow := (h.leave hwaiting).2.1.2
      have hreading : change.reading = waiting.now := by
        obtain ⟨operation, now⟩ := waiting
        cases operation with
        | login token csrf =>
            obtain rfl := Option.some.inj hchange
            rfl
        | request cookie =>
            obtain ⟨token, -, rfl⟩ := Option.map_eq_some_iff.1 hchange
            rfl
        | logout sameOrigin cookie csrf =>
            cases sameOrigin with
            | false => cases hchange
            | true =>
                obtain ⟨token, -, rfl⟩ := Option.map_eq_some_iff.1 hchange
                rfl
      rw [hreading]
      exact hnow
  | finishLogout cookie =>
      simp only [Sessions.leaseEvent] at hchange
      split at hchange
      · obtain rfl := Option.some.inj hchange
        exact Nat.zero_le _
      · cases hchange

theorem Refines.endsByRule (h : watched.Refines digest T issued) (event : Sessions.Event) :
    watched.EndsByRule digest event := by
  intro lease hlease hlost
  simp only [react] at hlost
  cases hchange : watched.app.leaseEvent event with
  | none =>
      rw [hchange] at hlost
      exact absurd hlease hlost
  | some change =>
      rw [hchange] at hlost
      exact ⟨change, rfl, Leases.ended_of_lost h.length_le hlease (h.reading_le hchange) hlost⟩

/-- The law of a run, from any state in which the service and the leases agree. -/
theorem Refines.run (hinj : Set.InjOn digest T) (hblank : ∀ token, digest token ≠ [])
    {events : List Sessions.Event} (h : watched.Refines digest T issued)
    (hT : ∀ event ∈ events, ∀ token ∈ event.token, token ∈ T)
    (hfresh : (issued ++ events.filterMap Sessions.Event.granted).Nodup) :
    Run.Always (react digest) (Follows digest T) watched events ∧
      Run.Each (react digest) (EndsByRule digest) watched events := by
  induction events generalizing watched issued with
  | nil => exact ⟨h.follows hinj, trivial⟩
  | cons event events ih =>
      -- The token of this step joins those of the logins before.
      have hsplit : issued ++ (event :: events).filterMap Sessions.Event.granted =
          (issued ++ event.granted.toList) ++ events.filterMap Sessions.Event.granted := by
        cases hgranted : event.granted with
        | none => simp [hgranted]
        | some token => simp [hgranted]
      rw [hsplit] at hfresh
      have hnew : ∀ token ∈ event.granted, token ∉ issued := by
        intro token htoken hissued
        have hdisjoint := (List.nodup_append.1 (List.nodup_append.1 hfresh).1).2.2
        exact hdisjoint token hissued token (Option.mem_toList.2 htoken) rfl
      have hnext := refines_step hinj hblank h (hT event List.mem_cons_self) hnew
      obtain ⟨halways, heach⟩ := ih hnext (fun e he => hT e (List.mem_cons_of_mem _ he)) hfresh
      exact ⟨⟨h.follows hinj, halways⟩, h.endsByRule event, heach⟩

/-- **In every run, at most eight sessions exist, a request is accepted exactly when its cookie
names a session that is live at the time it read, and a session ends by its logout, by its age, or
as the oldest of eight.** The operations read the clock and get the lock in any order. No two logins
have one token, and the digest tells the tokens of the run apart. -/
theorem sessions_follow_leases (digest : Bytes → Bytes) (T : Set Bytes)
    (hinj : Set.InjOn digest T) (hblank : ∀ token, digest token ≠ []) (clock : ℕ)
    (events : List Sessions.Event) (hT : ∀ event ∈ events, ∀ token ∈ event.token, token ∈ T)
    (hfresh : (events.filterMap Sessions.Event.granted).Nodup) :
    Run.Always (react digest) (Follows digest T) (started clock) events ∧
      Run.Each (react digest) (EndsByRule digest) (started clock) events :=
  (refines_started digest T clock).run hinj hblank hT hfresh

/-- The random bytes of a token of 43 letters A. -/
def zeroBytes : RandomBytes := ⟨List.replicate 32 0, rfl⟩

/-- A digest that is right for that token. -/
def zeroDigest (token : Bytes) : Bytes :=
  if token = randomToken zeroBytes then
    ascii "0f007385b6f9d4b7eeb2748605afe1a984a0a3bfa3f014d09e2a784ce9e5cd1a"
  else 0 :: token

/-- A login; then a request reads the clock, and after eight hours a logout does, which gets the
lock first. -/
def lateRequest : List Sessions.Event :=
  [.read (.login zeroBytes zeroBytes) 0, .lock 0 .asKept,
    .read (.request (some (randomToken zeroBytes))) 0,
    .read (.logout true (some (randomToken zeroBytes)) (randomToken zeroBytes)) sessionLifetime,
    .lock 1 .asKept, .lock 0 .asKept]

/-- The logout finds the session over, and the request, which read the clock before its end, is
refused: the session has ended when it comes to look at it. -/
theorem sessions_follow_leases_login :
    Run.Always (react zeroDigest) (Follows zeroDigest {randomToken zeroBytes}) (started 0)
        lateRequest ∧
      Run.Each (react zeroDigest) (EndsByRule zeroDigest) (started 0) lateRequest := by
  refine sessions_follow_leases zeroDigest {randomToken zeroBytes}
    (Set.injOn_singleton _ _) ?_ 0 _ ?_
    (List.nodup_singleton _)
  · intro token
    unfold zeroDigest
    split
    · decide
    · exact List.cons_ne_nil _ _
  · simp [lateRequest, Sessions.Event.token, Operation.token]

end Watched

end NesDeck.Uploader
