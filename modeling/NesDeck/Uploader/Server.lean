/-
**The upload service, with its requests at the same time.**

Every request has a thread of its own. The threads share the sessions and the failed logins behind
one lock, the files behind the locks of the two stores, and the gate that lets one login through at
a time. A thread is cut where it takes a lock or the gate or gives it back, and the pieces of all
threads may follow each other in any order.

The clock is read in a section here, and by the code just before it takes the lock. Behind the gate
these readings come in the order of the sections anyway. A lookup may come with an earlier reading
than the lookups before it, and find a session live that is over by then: what is proved of a
session that was found holds with either reading. `Sessions` has the readings as steps of their own.

A log of what the service did has the password checks, the sessions that were made, looked up and
removed, the changes of files and the responses; it is nowhere in the service.

Main definitions:

* `NesDeck.Uploader.HttpRequest`, `NesDeck.Uploader.Response` — what comes in, and what goes out;
* `NesDeck.Uploader.Service.program` — the handlers of `server.go`;
* `NesDeck.Uploader.Service.Authorised` — what stands behind an entry of the log.

Main results:

* `NesDeck.Uploader.Service.authorised_of_run` — **who does what**: whatever the order of the
  threads, files are changed, sessions removed and pages shown for those only who have a session
  that a right password made, and no other change of a file happens;
* `NesDeck.Uploader.Service.logins_refine` — **the logins are one after the other**: their checks,
  and the counts of failed ones, are those of a service that has one login at a time.
-/

import NesDeck.Lib.Threads
import NesDeck.Uploader.LoginLockout
import NesDeck.Uploader.PaletteStore
import NesDeck.Uploader.PasswordConfig
import NesDeck.Uploader.Sessions

set_option relaxedAutoImplicit false
set_option autoImplicit false

namespace NesDeck.Uploader

open HostFile (Bytes ascii)

/-! ### Requests and responses -/

/-- A file of a form. -/
structure FormFile where
  upload : Upload
  openFails : Bool

/-- A request: its headers, with an empty text for one that is not there, and its form. A body that
is longer than its handler reads is malformed. -/
structure HttpRequest where
  host : Bytes
  method : Bytes
  path : Bytes
  origin : Bytes
  contentType : Bytes
  cookie : Option Bytes
  remoteAddr : Bytes
  malformed : Bool
  formValue : Bytes → Bytes
  /-- `PostForm`, in the order in which it is visited. -/
  postForm : List (Bytes × List Bytes)
  roms : List FormFile

/-- `pageData`. -/
structure PageData where
  authenticated : Bool
  csrf : Bytes
  error : Bytes
  notice : Bytes
  entries : List CatalogEntry
  palette : List PaletteField

/-- The page for those who are not signed in. -/
def blankPage (error : Bytes) : PageData := ⟨false, [], error, [], [], []⟩

inductive Asset where
  | paperCSS
  | paletteJS

inductive Body where
  | text (text : Bytes)
  | page (data : PageData)
  | asset (asset : Asset)
  | redirect (location : Bytes)

/-- The `deck_rom_session` cookie of a response. -/
structure SetCookie where
  value : Bytes
  maxAge : ℤ

structure Response where
  status : ℕ
  body : Body
  allow : Option Bytes
  retryAfter : Option ℕ
  setCookie : Option SetCookie

/-- `http.Error`. -/
def httpError (status : ℕ) (text : Bytes) : Response := ⟨status, .text text, none, none, none⟩

/-- `http.Error`, with the method that is allowed. -/
def methodNotAllowed (method : Bytes) : Response :=
  ⟨405, .text (ascii "Method not allowed"), some method, none, none⟩

/-- `render`. -/
def render (status : ℕ) (data : PageData) : Response := ⟨status, .page data, none, none, none⟩

def rejected : Response := httpError 403 (ascii "Request rejected")

/-- The response of a login that has to wait. -/
def tooManyRequests (seconds : ℕ) (error : Bytes) : Response :=
  ⟨429, .page (blankPage error), none, some seconds, none⟩

/-- The response for a host that is locked out. -/
def lockedOut (remaining : ℕ) : Response :=
  tooManyRequests (remaining / 10 ^ 9 + 1)
    (ascii "Too many attempts. Wait five minutes before trying again.")

/-! ### The service -/

/-- What a service is made with, and the parts of the standard library that stay parameters. -/
structure Service where
  password : PasswordConfig
  store : RomStore
  palette : PaletteStore
  mac : Mac
  digest : Bytes → Bytes
  library : Library
  splitHostPort : Bytes → Option (Bytes × Bytes)
  isIPv4 : Bytes → Bool
  mediaType : Bytes → Option Bytes

/-- Someone who has a session: the cookie, the session that was found for it, and when. -/
structure Caller where
  cookie : Bytes
  session : UserSession
  seen : ℕ

/-- What is written down of a run. -/
inductive Entry where
  | checked (check : PasswordCheck) (password : Bytes) (asked : ℕ)
  | granted (token csrf : Bytes) (time : ℕ)
  | admitted (caller : Caller)
  | left (request : HttpRequest) (caller : Caller)
  | uploaded (request : HttpRequest) (caller : Caller) (upload : Request) (faults : Faults)
  | saved (request : HttpRequest) (caller : Caller) (values : Palette) (faults : PaletteFaults)
  | replied (request : HttpRequest) (caller : Option Caller) (response : Response)

/-- What the threads share, and the log. -/
structure Server where
  sessions : Table Bytes UserSession
  attempts : Table Bytes LoginAttempt
  /-- The channel `loginGate` is full. -/
  loginGate : Bool
  files : Files
  clock : ℕ
  log : List Entry

/-- Where a handler goes on. -/
inductive Stage where
  /-- The request has come in. -/
  | arrived
  /-- A login in front of the gate. -/
  | waiting (host : Bytes)
  /-- A login that passed the gate. -/
  | passed (host : Bytes)
  /-- The password is being checked. -/
  | checking (host : Bytes) (asked : ℕ)
  /-- The password is right, and a session is due. -/
  | welcomed
  /-- A login that has its response, and the gate. -/
  | releasing (response : Response)
  /-- A logout that has to remove its session. -/
  | leaving (caller : Caller)
  /-- The body of an upload, or of an appearance, is read. -/
  | reading (caller : Caller)
  /-- `dashboardData` is about to read the catalog. -/
  | listing (caller : Caller) (status : ℕ) (message notice : Bytes)
  /-- `dashboardData` is about to read the appearance. -/
  | coloring (caller : Caller) (status : ℕ) (message notice : Bytes) (entries : List CatalogEntry)

structure Thread where
  request : HttpRequest
  stage : Stage

/-- What ends the wait for the gate. -/
inductive Wait where
  | through
  | gone
  | timeout

/-- What the surroundings do during a section: the time that passes, the end of a wait, the random
bytes, the orders in which tables are visited, the calls that fail and the texts of the system. -/
structure Answer where
  pause : ℕ
  wait : Wait
  token : Option RandomBytes
  csrf : Option RandomBytes
  visitSessions : Table.Visit Bytes UserSession
  visitAttempts : Table.Visit Bytes LoginAttempt
  upload : Faults
  palette : PaletteFaults
  readUpload : Bool
  reads : PaletteReads
  osText : Bytes

namespace Server

def started (files : Files) (clock : ℕ) : Server :=
  ⟨Table.empty, Table.empty, false, files, clock, []⟩

/-- The clock moves on. -/
def tick (server : Server) (pause : ℕ) : Server := { server with clock := server.clock + pause }

def note (server : Server) (entry : Entry) : Server := { server with log := entry :: server.log }

/-- What sessions use. -/
def asSessions (server : Server) : Sessions := ⟨server.sessions, [], [], server.clock⟩

/-- What logins use. -/
def asLogins (server : Server) : Logins := ⟨server.attempts, server.clock⟩

end Server

namespace Service

variable (service : Service)

def postMethod : Bytes := ascii "POST"

def getMethod : Bytes := ascii "GET"

def csrfField : Bytes := ascii "csrf"

def formType : Bytes := ascii "application/x-www-form-urlencoded"

def requestAllowed (request : HttpRequest) : Bool :=
  match service.splitHostPort request.host with
  | none => false
  | some (host, port) => port = ascii "8080" && service.isIPv4 host

def sameOrigin (request : HttpRequest) : Bool :=
  request.origin = [] || request.origin = ascii "null" ||
    request.origin = ascii "http://" ++ request.host

def remoteHost (address : Bytes) : Bytes :=
  match service.splitHostPort address with
  | none => []
  | some (host, _) => host

/-- The content type is the one of a plain form. -/
def isFormType (request : HttpRequest) : Bool :=
  service.mediaType request.contentType = some formType

def csrfValid (request : HttpRequest) (session : UserSession) : Bool :=
  request.formValue csrfField = session.csrf

/-! ### The sections of the handlers -/

/-- A response, and the end of the thread. -/
def reply (server : Server) (request : HttpRequest) (response : Response) :
    Server × Option Thread :=
  (server.note (.replied request none response), none)

/-- A handler goes on later. -/
def goOn (server : Server) (request : HttpRequest) (stage : Stage) : Server × Option Thread :=
  (server, some ⟨request, stage⟩)

/-- `currentSession`. -/
def currentSession (server : Server) (request : HttpRequest) : Server × Option Caller :=
  let (sessions, found) :=
    Sessions.currentSession service.digest server.asSessions request.cookie server.clock
  let server := { server with sessions := sessions.sessions }
  match request.cookie, found with
  | some cookie, some (_, session) =>
      let caller : Caller := ⟨cookie, session, server.clock⟩
      (server.note (.admitted caller), some caller)
  | _, _ => (server, none)

/-- `handleIndex`, until the page of a session is put together. -/
def handleIndex (server : Server) (request : HttpRequest) : Server × Option Thread :=
  if request.method ≠ getMethod then reply server request (methodNotAllowed getMethod)
  else
    match service.currentSession server request with
    | (server, none) => reply server request (render 200 (blankPage []))
    | (server, some caller) => goOn server request (.listing caller 200 [] [])

/-- `handleLogin`, until the gate. -/
def handleLogin (server : Server) (request : HttpRequest) : Server × Option Thread :=
  if request.method ≠ postMethod then reply server request (methodNotAllowed postMethod)
  else if sameOrigin request = false then
    reply server request (httpError 403 (ascii "Cross-origin request rejected"))
  else if service.isFormType request = false then
    reply server request (httpError 415 (ascii "Unsupported form encoding"))
  else if request.malformed = true then
    reply server request (render 400 (blankPage (ascii "The login form was malformed.")))
  else
    let host := service.remoteHost request.remoteAddr
    match server.asLogins.loginBlocked host server.clock with
    | some remaining => reply server request (lockedOut remaining)
    | none => goOn server request (.waiting host)

/-- The wait for the gate. -/
def waitForGate (server : Server) (request : HttpRequest) (host : Bytes) :
    Wait → Server × Option Thread
  | .through =>
      if server.loginGate = true then goOn server request (.waiting host)
      else goOn { server with loginGate := true } request (.passed host)
  | .gone => (server, none)
  | .timeout =>
      reply server request
        (tooManyRequests 3 (ascii "Another sign-in is being checked. Try again in a moment."))

/-- The second question of a login. -/
def askAgain (server : Server) (request : HttpRequest) (host : Bytes) : Server × Option Thread :=
  match server.asLogins.loginBlocked host server.clock with
  | some remaining => goOn server request (.releasing (lockedOut remaining))
  | none => goOn server request (.checking host server.clock)

/-- The check of the password, and `recordLogin`. -/
def checkPassword (server : Server) (request : HttpRequest) (host : Bytes) (asked : ℕ)
    (answer : Answer) : Server × Option Thread :=
  let password := request.formValue (ascii "password")
  let successful := service.password.accepts service.mac password
  let logins := server.asLogins.recordLogin host successful answer.visitAttempts server.clock
  let server := { server with attempts := logins.attempts }
  let server := server.note (.checked ⟨host, successful, server.clock⟩ password asked)
  if successful = true then goOn server request .welcomed
  else
    goOn server request
      (.releasing (render 401 (blankPage (ascii "That password was not accepted."))))

/-- `createSession`, and the end of a login. -/
def makeSession (server : Server) (request : HttpRequest) (answer : Answer) :
    Server × Option Thread :=
  match answer.token, answer.csrf with
  | some token, some csrf =>
      let sessions :=
        server.asSessions.createSession service.digest token csrf answer.visitSessions server.clock
      let server := { server with sessions := sessions.sessions }
      let server := server.note (.granted (randomToken token) (randomToken csrf) server.clock)
      goOn server request
        (.releasing ⟨303, .redirect (ascii "/"), none, none, some ⟨randomToken token, 28800⟩⟩)
  | _, _ => goOn server request (.releasing (httpError 500 (ascii "Session creation failed")))

/-- The first section of `handleLogout`. -/
def handleLogout (server : Server) (request : HttpRequest) : Server × Option Thread :=
  if request.method ≠ postMethod ∨ sameOrigin request = false then reply server request rejected
  else
    match service.currentSession server request with
    | (server, none) => reply server request rejected
    | (server, some caller) =>
        if csrfValid request caller.session = false then reply server request rejected
        else goOn server request (.leaving caller)

/-- The second section of `handleLogout`. -/
def finishLogout (server : Server) (request : HttpRequest) (caller : Caller) :
    Server × Option Thread :=
  let server := { server with sessions := server.sessions.erase (service.digest caller.cookie) }
  let server := server.note (.left request caller)
  reply server request ⟨303, .redirect (ascii "/"), none, none, some ⟨[], -1⟩⟩

/-- `handleUpload` and `handlePalette`, until the body is read; an appearance has the content type
of a plain form. -/
def handleChange (server : Server) (request : HttpRequest) (typeMatters : Bool) :
    Server × Option Thread :=
  if request.method ≠ postMethod ∨ sameOrigin request = false then reply server request rejected
  else
    match service.currentSession server request with
    | (server, none) => reply server request (httpError 401 (ascii "Authentication required"))
    | (server, some caller) =>
        if typeMatters = true ∧ service.isFormType request = false then
          reply server request (httpError 415 (ascii "Unsupported form encoding"))
        else goOn server request (.reading caller)

def handleUpload (server : Server) (request : HttpRequest) : Server × Option Thread :=
  service.handleChange server request false

def handlePalette (server : Server) (request : HttpRequest) : Server × Option Thread :=
  service.handleChange server request true

/-- The rest of `handleUpload`, until the page is put together. -/
def readUpload (server : Server) (request : HttpRequest) (caller : Caller) (answer : Answer) :
    Server × Option Thread :=
  if request.malformed = true then
    goOn server request
      (.listing caller 400 (ascii "The upload form was malformed or too large.") [])
  else if csrfValid request caller.session = false then reply server request rejected
  else
    match request.roms with
    | [file] =>
        if file.openFails = true then
          goOn server request
            (.listing caller 400 (ascii "The uploaded file could not be opened.") [])
        else
          let upload : Request :=
            ⟨request.formValue (ascii "system"), request.formValue (ascii "title"), file.upload⟩
          let addition := service.store.add service.library server.files upload answer.upload
          let server := { server with files := addition.files }
          let server := server.note (.uploaded request caller upload answer.upload)
          match addition.entry, addition.error with
          | none, error =>
              goOn server request
                (.listing caller 422 (error.elim [] (·.message answer.osText)) [])
          | some entry, none =>
              goOn server request (.listing caller 200 []
                (entry.title ++ ascii " was validated, filed, and added to the dashboard."))
          | some entry, some _ =>
              goOn server request (.listing caller 200 []
                (entry.title ++
                  ascii " was saved. The dashboard will pick it up after its next restart."))
    | _ =>
        goOn server request
          (.listing caller 400 (ascii "Choose exactly one ROM or single-ROM ZIP.") [])

/-- The rest of `handlePalette`, until the page is put together. -/
def readPalette (server : Server) (request : HttpRequest) (caller : Caller) (answer : Answer) :
    Server × Option Thread :=
  if request.malformed = true then
    goOn server request (.listing caller 400 (ascii "The appearance form was malformed.") [])
  else if csrfValid request caller.session = false then reply server request rejected
  else
    match formPalette request.postForm with
    | .error .rejected => reply server request rejected
    | .error error => goOn server request (.listing caller 400 error.message [])
    | .ok values =>
        let (files, error) := service.palette.save server.files values answer.palette
        let server := { server with files }
        let server := server.note (.saved request caller values answer.palette)
        match error with
        | some error => goOn server request (.listing caller 422 (error.message answer.osText) [])
        | none =>
            goOn server request
              (.listing caller 200 [] (ascii "Dashboard appearance was saved and applied."))

/-- The message of a page, where reading something for it failed and there is no other one. -/
def messageOr (message : Bytes) (failed : Bool) (text : Bytes) : Bytes :=
  if failed = true ∧ message = [] then text else message

/-- `dashboardData` reads the catalog. -/
def listEntries (server : Server) (request : HttpRequest) (caller : Caller) (status : ℕ)
    (message notice : Bytes) (answer : Answer) : Server × Option Thread :=
  match parseCatalog (server.files service.store.uploadCatalog) answer.readUpload true with
  | .error _ =>
      goOn server request (.coloring caller status
        (messageOr message true (ascii "The upload catalog cannot be read.")) notice [])
  | .ok entries => goOn server request (.coloring caller status message notice entries)

/-- `dashboardData` reads the appearance, and the page is shown. -/
def showPage (server : Server) (request : HttpRequest) (caller : Caller) (status : ℕ)
    (message notice : Bytes) (entries : List CatalogEntry) (answer : Answer) :
    Server × Option Thread :=
  let palette := service.palette.current server.files answer.reads
  let message :=
    messageOr message palette.isNone (ascii "The dashboard appearance cannot be read.")
  let data : PageData := ⟨true, caller.session.csrf, message, notice, entries, palette.getD []⟩
  (server.note (.replied request (some caller) (render status data)), none)

/-- `ServeHTTP`, until the first lock. -/
def serveHTTP (server : Server) (request : HttpRequest) : Server × Option Thread :=
  if service.requestAllowed request = false then
    reply server request
      (httpError 421 (ascii "Use one of this Deck's IPv4 addresses on port 8080."))
  else if request.path = ascii "/" then service.handleIndex server request
  else if request.path = ascii "/login" then service.handleLogin server request
  else if request.path = ascii "/logout" then service.handleLogout server request
  else if request.path = ascii "/upload" then service.handleUpload server request
  else if request.path = ascii "/palette" then service.handlePalette server request
  else if request.path = ascii "/assets/paper.css" then
    if request.method ≠ getMethod then
      reply server request (httpError 405 (ascii "Method not allowed"))
    else reply server request ⟨200, .asset .paperCSS, none, none, none⟩
  else if request.path = ascii "/assets/palette.js" then
    if request.method ≠ getMethod then
      reply server request (httpError 405 (ascii "Method not allowed"))
    else reply server request ⟨200, .asset .paletteJS, none, none, none⟩
  else reply server request (httpError 404 (ascii "404 page not found"))

/-- One section of a thread. -/
def run (server : Server) (thread : Thread) (answer : Answer) : Server × Option Thread :=
  let server := server.tick answer.pause
  let request := thread.request
  match thread.stage with
  | .arrived => service.serveHTTP server request
  | .waiting host => waitForGate server request host answer.wait
  | .passed host => askAgain server request host
  | .checking host asked => service.checkPassword server request host asked answer
  | .welcomed => service.makeSession server request answer
  | .releasing response =>
      reply { server with loginGate := false } request response
  | .leaving caller => service.finishLogout server request caller
  | .reading caller =>
      if request.path = ascii "/upload" then service.readUpload server request caller answer
      else service.readPalette server request caller answer
  | .listing caller status message notice =>
      service.listEntries server request caller status message notice answer
  | .coloring caller status message notice entries =>
      service.showPage server request caller status message notice entries answer

/-- The threads of the service. -/
def program : Threads.Program Server Thread HttpRequest Answer where
  start request := ⟨request, .arrived⟩
  run := service.run

end Service

/-! ### What the log says -/

/-- The response shows nothing that takes a session. -/
def Response.Public (response : Response) : Prop :=
  ∀ data, response.body = .page data → data = blankPage data.error

/-- What is not a page is for everyone. -/
theorem Response.public_of_ne {response : Response} (h : ∀ data, response.body ≠ .page data) :
    response.Public :=
  fun data hdata => absurd hdata (h data)

theorem Response.public_text {response : Response} {text : Bytes} (h : response.body = .text text) :
    response.Public :=
  public_of_ne fun data => by rw [h]; exact Body.noConfusion

theorem Response.public_blank {response : Response} {error : Bytes}
    (h : response.body = .page (blankPage error)) :
    response.Public := by
  intro data hdata
  rw [h] at hdata
  cases hdata
  rfl

/-- A right password has not got its session yet. -/
def welcome : List Entry → Bool
  | [] => false
  | .checked check _ _ :: _ => check.successful
  | .granted _ _ _ :: _ => false
  | _ :: log => welcome log

/-- The password checks, the first one first. -/
def checks : List Entry → List PasswordCheck
  | [] => []
  | .checked check _ _ :: log => checks log ++ [check]
  | _ :: log => checks log

/-- An entry that changes neither sessions nor files. -/
def Entry.Silent : Entry → Prop
  | .checked _ _ _ | .admitted _ | .replied _ _ _ => True
  | _ => False

/-- A password check, or a new session. -/
def Entry.isLogin : Entry → Bool
  | .checked _ _ _ => true
  | .granted _ _ _ => true
  | _ => false

namespace Service

variable (service : Service)

/-- The sessions that were made and not removed by their users. -/
def grants : List Entry → Bytes → Option UserSession
  | [] => fun _ => none
  | .granted token csrf time :: log =>
      Function.update (grants log) (service.digest token) (some ⟨csrf, time + sessionLifetime⟩)
  | .left _ caller :: log => Function.update (grants log) (service.digest caller.cookie) none
  | _ :: log => grants log

/-- The files after the changes of the log, one after the other. -/
def replay (files : Files) : List Entry → Files
  | [] => files
  | .uploaded _ _ upload faults :: log =>
      (service.store.add service.library (replay files log) upload faults).files
  | .saved _ _ values faults :: log => (service.palette.save (replay files log) values faults).1
  | _ :: log => replay files log

/-- The request comes from the service's own page, and has the cookie of a session that was
found. -/
structure Serves (log : List Entry) (request : HttpRequest) (caller : Caller) : Prop where
  admitted : Entry.admitted caller ∈ log
  cookie : request.cookie = some caller.cookie
  allowed : service.requestAllowed request = true
  method : request.method = postMethod
  origin : sameOrigin request = true

/-- What stands behind an entry of the log, with what came before it. -/
def Rule (log : List Entry) : Entry → Prop
  | .checked check password asked =>
      check.successful = service.password.accepts service.mac password ∧ asked ≤ check.time
  | .granted _ _ _ => welcome log = true
  | .admitted caller =>
      service.grants log (service.digest caller.cookie) = some caller.session ∧
        caller.seen < caller.session.expiresAt
  | .left request caller =>
      service.Serves log request caller ∧ request.path = ascii "/logout" ∧
        csrfValid request caller.session = true
  | .uploaded request caller _ _ =>
      service.Serves log request caller ∧ request.path = ascii "/upload" ∧
        csrfValid request caller.session = true
  | .saved request caller values _ =>
      service.Serves log request caller ∧ request.path = ascii "/palette" ∧
        csrfValid request caller.session = true ∧ formPalette request.postForm = .ok values
  | .replied request (some caller) response =>
      Entry.admitted caller ∈ log ∧ request.cookie = some caller.cookie ∧
        ∃ data, response.body = .page data ∧ data.csrf = caller.session.csrf
  | .replied _ none response => response.Public

/-- Every entry of the log keeps the rule, the sessions of the table were made and not removed, and
no file was changed but by the log. -/
structure Sound (files : Files) (server : Server) : Prop where
  kept : Threads.Kept service.Rule server.log
  sessions : ∀ key session,
    server.sessions.get key = some session → service.grants server.log key = some session
  files_eq : server.files = service.replay files server.log

/-- What a handler knows when it goes on. -/
def Knows (server : Server) (thread : Thread) : Prop :=
  match thread.stage with
  | .checking _ asked => asked ≤ server.clock
  | .welcomed => welcome server.log = true
  | .releasing response => response.Public
  | .leaving caller =>
      service.Serves server.log thread.request caller ∧ thread.request.path = ascii "/logout" ∧
        csrfValid thread.request caller.session = true
  | .reading caller =>
      service.Serves server.log thread.request caller ∧
        (thread.request.path = ascii "/upload" ∨ thread.request.path = ascii "/palette")
  | .listing caller _ _ _ | .coloring caller _ _ _ _ =>
      Entry.admitted caller ∈ server.log ∧ thread.request.cookie = some caller.cookie
  | _ => True

/-- The thread has the gate. -/
def holdsGate (thread : Thread) : Bool :=
  match thread.stage with
  | .passed _ | .checking _ _ | .welcomed | .releasing _ => true
  | _ => false

/-! ### What sections outside of the gate leave alone -/

/-- The logins are as they were, and the log has no new ones. -/
structure Calm (server server' : Server) : Prop where
  attempts : server'.attempts = server.attempts
  gate : server'.loginGate = server.loginGate
  clock : server'.clock = server.clock
  log : ∃ new, server'.log = new ++ server.log ∧ ∀ entry ∈ new, entry.isLogin = false

section Sections

variable {service} {server : Server} {request : HttpRequest} {files : Files}

theorem Calm.refl (server : Server) : Calm server server := ⟨rfl, rfl, rfl, [], rfl, by simp⟩

theorem Calm.trans {server server' server'' : Server} (h : Calm server server')
    (h' : Calm server' server'') : Calm server server'' := by
  obtain ⟨new, hnew, hquiet⟩ := h.log
  obtain ⟨new', hnew', hquiet'⟩ := h'.log
  refine ⟨h'.attempts.trans h.attempts, h'.gate.trans h.gate, h'.clock.trans h.clock, new' ++ new,
    ?_, List.forall_mem_append.2 ⟨hquiet', hquiet⟩⟩
  rw [hnew', hnew, List.append_assoc]

theorem calm_note (server : Server) {entry : Entry} (hentry : entry.isLogin = false) :
    Calm server (server.note entry) :=
  ⟨rfl, rfl, rfl, [entry], rfl, by simpa using hentry⟩

/-! ### Sections that keep the log sound -/

theorem Sound.note (h : service.Sound files server) {entry : Entry} (hsilent : entry.Silent)
    (hrule : service.Rule server.log entry) : service.Sound files (server.note entry) := by
  cases entry with
  | checked check password asked => exact ⟨⟨hrule, h.kept⟩, h.sessions, h.files_eq⟩
  | admitted caller => exact ⟨⟨hrule, h.kept⟩, h.sessions, h.files_eq⟩
  | replied request caller response => exact ⟨⟨hrule, h.kept⟩, h.sessions, h.files_eq⟩
  | _ => exact hsilent.elim

/-- A lookup adds no session. -/
theorem currentSession_sub (digest : Bytes → Bytes) (app : Sessions)
    (cookie : Option Bytes) (now : ℕ) (key : Bytes) (session : UserSession)
    (hget : (Sessions.currentSession digest app cookie now).1.sessions.get key = some session) :
    app.sessions.get key = some session := by
  rcases Watched.currentSession_cases digest app cookie now with hsame | ⟨gone, -, herased⟩
  · rwa [hsame] at hget
  · rw [herased] at hget
    exact ((Table.get_filter_eq_some _ _ _ _).1 hget).1

/-- What a lookup finds. -/
theorem currentSession_eq_some {digest : Bytes → Bytes} {app : Sessions} {cookie : Option Bytes}
    {now : ℕ} {key : Bytes} {session : UserSession}
    (h : (Sessions.currentSession digest app cookie now).2 = some (key, session)) :
    ∃ value, cookie = some value ∧ key = digest value ∧ app.sessions.get key = some session ∧
      now < session.expiresAt := by
  unfold Sessions.currentSession at h
  split at h
  · cases h
  next value =>
  split at h
  · cases h
  dsimp only at h
  split at h
  · cases h
  next hget =>
  split at h
  next hlive =>
    obtain ⟨rfl, rfl⟩ := Prod.mk.inj (Option.some.inj h)
    exact ⟨value, rfl, rfl, hget, hlive⟩
  · cases h

/-- Sessions may go. -/
theorem Sound.subtable (h : service.Sound files server) {sessions : Table Bytes UserSession}
    (hsub : ∀ key session, sessions.get key = some session →
      server.sessions.get key = some session) :
    service.Sound files { server with sessions } :=
  ⟨h.kept, fun key session hget => h.sessions key session (hsub key session hget), h.files_eq⟩

/-- A section outside of the gate that keeps the log sound, and knows what it goes on with. -/
structure Proceeds (service : Service) (files : Files) (server : Server)
    (result : Server × Option Thread) : Prop where
  calm : Calm server result.1
  outside : result.2.any holdsGate = false
  sound : service.Sound files result.1
  knows : ∀ next, result.2 = some next → service.Knows result.1 next

theorem Proceeds.after {server' : Server} {result : Server × Option Thread}
    (hcalm : Calm server server') (h : service.Proceeds files server' result) :
    service.Proceeds files server result :=
  ⟨hcalm.trans h.calm, h.outside, h.sound, h.knows⟩

theorem proceeds_reply (h : service.Sound files server) {response : Response}
    (hpublic : response.Public) : service.Proceeds files server
    (reply server request response) where
  calm := calm_note server rfl
  outside := rfl
  sound := h.note trivial hpublic
  knows := fun _ hnext => absurd hnext (by simp [reply])

theorem proceeds_goOn (h : service.Sound files server) {stage : Stage}
    (hgate : holdsGate ⟨request, stage⟩ = false) (hknows : service.Knows server ⟨request, stage⟩) :
    service.Proceeds files server (goOn server request stage) where
  calm := .refl server
  outside := hgate
  sound := h
  knows := by
    rintro next hnext
    rw [← Option.some.inj hnext]
    exact hknows

/-- **A session that is found was made, not removed, and has not run out.** -/
theorem currentSession_spec (h : service.Sound files server) {server' : Server}
    {found : Option Caller} (hfound : service.currentSession server request = (server', found)) :
    Calm server server' ∧ service.Sound files server' ∧
      ∀ caller, found = some caller →
        Entry.admitted caller ∈ server'.log ∧ request.cookie = some caller.cookie := by
  have hcalm : ∀ sessions, Calm server { server with sessions } :=
    fun _ => ⟨rfl, rfl, rfl, [], rfl, by simp⟩
  have hsub := currentSession_sub service.digest server.asSessions request.cookie server.clock
  have hsound := h.subtable hsub
  rw [currentSession] at hfound
  dsimp only at hfound
  split at hfound
  next cookie key session hcookie hlookup =>
    obtain ⟨rfl, rfl⟩ := Prod.mk.inj hfound
    obtain ⟨value, hvalue, rfl, hget, hlive⟩ := currentSession_eq_some hlookup
    obtain rfl := Option.some.inj (hcookie.symm.trans hvalue)
    refine ⟨(hcalm _).trans (calm_note _ rfl), hsound.note trivial ⟨h.sessions _ _ hget, hlive⟩, ?_⟩
    intro caller hcaller
    obtain rfl := Option.some.inj hcaller
    exact ⟨List.mem_cons_self, hcookie⟩
  · obtain ⟨rfl, rfl⟩ := Prod.mk.inj hfound
    exact ⟨hcalm _, hsound, fun caller hnone => absurd hnone (by simp)⟩

/-! ### The handlers -/

theorem proceeds_handleIndex (h : service.Sound files server) :
    service.Proceeds files server (service.handleIndex server request) := by
  rw [handleIndex]
  split
  · exact proceeds_reply h (Response.public_text rfl)
  split
  next server' hfound =>
    obtain ⟨hcalm, hsound, -⟩ := currentSession_spec h hfound
    exact (proceeds_reply hsound (Response.public_blank rfl)).after hcalm
  next server' caller hfound =>
    obtain ⟨hcalm, hsound, hadmitted⟩ := currentSession_spec h hfound
    refine (proceeds_goOn hsound rfl ?_).after hcalm
    exact hadmitted caller rfl

theorem proceeds_handleLogin (h : service.Sound files server) :
    service.Proceeds files server (service.handleLogin server request) := by
  rw [handleLogin]
  split
  · exact proceeds_reply h (Response.public_text rfl)
  split
  · exact proceeds_reply h (Response.public_text rfl)
  split
  · exact proceeds_reply h (Response.public_text rfl)
  split
  · exact proceeds_reply h (Response.public_blank rfl)
  dsimp only
  split
  · exact proceeds_reply h (Response.public_blank rfl)
  · exact proceeds_goOn h rfl trivial

/-- The checks that logouts, uploads and appearances begin with. -/
theorem post_of_not {request : HttpRequest}
    (h : ¬(request.method ≠ postMethod ∨ sameOrigin request = false)) :
    request.method = postMethod ∧ sameOrigin request = true := by
  rw [not_or, not_not] at h
  exact ⟨h.1, eq_true_of_ne_false h.2⟩

theorem proceeds_handleLogout (h : service.Sound files server)
    (hallowed : service.requestAllowed request = true) (hpath : request.path = ascii "/logout") :
    service.Proceeds files server (service.handleLogout server request) := by
  rw [handleLogout]
  split
  · exact proceeds_reply h (Response.public_text rfl)
  next hpost =>
  obtain ⟨hmethod, horigin⟩ := post_of_not hpost
  split
  next server' hfound =>
    obtain ⟨hcalm, hsound, -⟩ := currentSession_spec h hfound
    exact (proceeds_reply hsound (Response.public_text rfl)).after hcalm
  next server' caller hfound =>
    obtain ⟨hcalm, hsound, hadmitted⟩ := currentSession_spec h hfound
    split
    · exact (proceeds_reply hsound (Response.public_text rfl)).after hcalm
    next hcsrf =>
      obtain ⟨hmem, hcookie⟩ := hadmitted caller rfl
      refine (proceeds_goOn hsound rfl ?_).after hcalm
      exact ⟨⟨hmem, hcookie, hallowed, hmethod, horigin⟩, hpath, eq_true_of_ne_false hcsrf⟩

theorem proceeds_handleChange (h : service.Sound files server)
    (hallowed : service.requestAllowed request = true)
    (hpath : request.path = ascii "/upload" ∨ request.path = ascii "/palette")
    (typeMatters : Bool) :
    service.Proceeds files server (service.handleChange server request typeMatters) := by
  rw [handleChange]
  split
  · exact proceeds_reply h (Response.public_text rfl)
  next hpost =>
  obtain ⟨hmethod, horigin⟩ := post_of_not hpost
  split
  next server' hfound =>
    obtain ⟨hcalm, hsound, -⟩ := currentSession_spec h hfound
    exact (proceeds_reply hsound (Response.public_text rfl)).after hcalm
  next server' caller hfound =>
    obtain ⟨hcalm, hsound, hadmitted⟩ := currentSession_spec h hfound
    split
    · exact (proceeds_reply hsound (Response.public_text rfl)).after hcalm
    · obtain ⟨hmem, hcookie⟩ := hadmitted caller rfl
      refine (proceeds_goOn hsound rfl ?_).after hcalm
      exact ⟨⟨hmem, hcookie, hallowed, hmethod, horigin⟩, hpath⟩

theorem proceeds_serveHTTP (h : service.Sound files server) :
    service.Proceeds files server (service.serveHTTP server request) := by
  rw [serveHTTP]
  split
  · exact proceeds_reply h (Response.public_text rfl)
  next hallowed =>
  have hallowed := eq_true_of_ne_false hallowed
  have hasset : ∀ asset, Response.Public ⟨200, .asset asset, none, none, none⟩ :=
    fun asset => Response.public_of_ne fun data => Body.noConfusion
  split
  · exact proceeds_handleIndex h
  split
  · exact proceeds_handleLogin h
  split
  next hpath => exact proceeds_handleLogout h hallowed hpath
  split
  next hpath => exact proceeds_handleChange h hallowed (Or.inl hpath) false
  split
  next hpath => exact proceeds_handleChange h hallowed (Or.inr hpath) true
  split
  · split
    · exact proceeds_reply h (Response.public_text rfl)
    · exact proceeds_reply h (hasset .paperCSS)
  split
  · split
    · exact proceeds_reply h (Response.public_text rfl)
    · exact proceeds_reply h (hasset .paletteJS)
  · exact proceeds_reply h (Response.public_text rfl)

/-- Logging out removes the session of its caller. -/
theorem proceeds_finishLogout (h : service.Sound files server) {caller : Caller}
    (hknows : service.Knows server ⟨request, .leaving caller⟩) :
    service.Proceeds files server (service.finishLogout server request caller) := by
  have hcalm : Calm server
      (({ server with sessions := server.sessions.erase (service.digest caller.cookie) }).note
        (.left request caller)) :=
    ⟨rfl, rfl, rfl, [.left request caller], rfl, by simp [Entry.isLogin]⟩
  refine (proceeds_reply ?_ (Response.public_of_ne fun data => Body.noConfusion)).after hcalm
  refine ⟨⟨hknows, h.kept⟩, ?_, h.files_eq⟩
  intro key session hget
  have hfound : server.sessions.get key = some session :=
    ((Table.get_filter_eq_some _ _ _ _).1 hget).1
  have hne : key ≠ service.digest caller.cookie := by
    rintro rfl
    rw [Server.note, Table.get_erase_self] at hget
    cases hget
  rw [Server.note, grants, Function.update_of_ne hne]
  exact h.sessions key session hfound

/-! ### Changes of files -/

/-- A change of files, and the page that follows. -/
theorem proceeds_change {caller : Caller} {contents : Files} {entry : Entry}
    (hentry : entry.isLogin = false)
    (hsound : service.Sound files (({ server with files := contents }).note entry))
    (hserves : service.Serves server.log request caller) (status : ℕ) (message notice : Bytes) :
    service.Proceeds files server
      (goOn (({ server with files := contents }).note entry) request
        (.listing caller status message notice)) := by
  have hcalm : Calm server (({ server with files := contents }).note entry) :=
    ⟨rfl, rfl, rfl, [entry], rfl, by simpa using hentry⟩
  refine (proceeds_goOn hsound rfl ?_).after hcalm
  exact ⟨List.mem_cons_of_mem _ hserves.admitted, hserves.cookie⟩

theorem Sound.uploaded (h : service.Sound files server) {caller : Caller} {upload : Request}
    {faults : Faults} (hrule : service.Rule server.log (.uploaded request caller upload faults)) :
    service.Sound files
      (({ server with
        files := (service.store.add service.library server.files upload faults).files }).note
          (.uploaded request caller upload faults)) := by
  refine ⟨⟨hrule, h.kept⟩, h.sessions, ?_⟩
  rw [h.files_eq]
  rfl

theorem Sound.saved (h : service.Sound files server) {caller : Caller} {values : Palette}
    {faults : PaletteFaults}
    (hrule : service.Rule server.log (.saved request caller values faults)) :
    service.Sound files
      (({ server with files := (service.palette.save server.files values faults).1 }).note
        (.saved request caller values faults)) := by
  refine ⟨⟨hrule, h.kept⟩, h.sessions, ?_⟩
  rw [h.files_eq]
  rfl

theorem proceeds_readUpload (h : service.Sound files server) {caller : Caller}
    (hserves : service.Serves server.log request caller) (hpath : request.path = ascii "/upload")
    (answer : Answer) :
    service.Proceeds files server (service.readUpload server request caller answer) := by
  have hpage : ∀ status message notice, service.Proceeds files server
      (goOn server request (.listing caller status message notice)) :=
    fun status message notice => proceeds_goOn h rfl ⟨hserves.admitted, hserves.cookie⟩
  rw [readUpload]
  split
  · exact hpage _ _ _
  split
  · exact proceeds_reply h (Response.public_text rfl)
  next hcsrf =>
  have hcsrf := eq_true_of_ne_false hcsrf
  split
  · split
    · exact hpage _ _ _
    dsimp only
    have hsound :=
      fun upload => @Sound.uploaded service server request files h caller upload answer.upload
      ⟨hserves, hpath, hcsrf⟩
    split
    · exact proceeds_change rfl (hsound _) hserves _ _ _
    · exact proceeds_change rfl (hsound _) hserves _ _ _
    · exact proceeds_change rfl (hsound _) hserves _ _ _
  · exact hpage _ _ _

theorem proceeds_readPalette (h : service.Sound files server) {caller : Caller}
    (hserves : service.Serves server.log request caller) (hpath : request.path = ascii "/palette")
    (answer : Answer) :
    service.Proceeds files server (service.readPalette server request caller answer) := by
  have hpage : ∀ status message notice, service.Proceeds files server
      (goOn server request (.listing caller status message notice)) :=
    fun status message notice => proceeds_goOn h rfl ⟨hserves.admitted, hserves.cookie⟩
  rw [readPalette]
  split
  · exact hpage _ _ _
  split
  · exact proceeds_reply h (Response.public_text rfl)
  next hcsrf =>
  have hcsrf := eq_true_of_ne_false hcsrf
  split
  · exact proceeds_reply h (Response.public_text rfl)
  · exact hpage _ _ _
  next values hform =>
  have hsound := @Sound.saved service server request files h caller values answer.palette
    ⟨hserves, hpath, hcsrf, hform⟩
  dsimp only
  split
  · exact proceeds_change rfl hsound hserves _ _ _
  · exact proceeds_change rfl hsound hserves _ _ _

/-! ### Pages -/

theorem proceeds_listEntries (h : service.Sound files server) {caller : Caller} {status : ℕ}
    {message notice : Bytes}
    (hknows : service.Knows server ⟨request, .listing caller status message notice⟩)
    (answer : Answer) :
    service.Proceeds files server
      (service.listEntries server request caller status message notice answer) := by
  rw [listEntries]
  split
  · exact proceeds_goOn h rfl hknows
  · exact proceeds_goOn h rfl hknows

theorem proceeds_showPage (h : service.Sound files server) {caller : Caller} {status : ℕ}
    {message notice : Bytes} {entries : List CatalogEntry}
    (hknows : service.Knows server ⟨request, .coloring caller status message notice entries⟩)
    (answer : Answer) :
    service.Proceeds files server
      (service.showPage server request caller status message notice entries answer) where
  calm := calm_note server rfl
  outside := rfl
  sound := h.note trivial ⟨hknows.1, hknows.2, _, rfl, rfl⟩
  knows := fun _ hnext => absurd hnext (by simp [showPage])

/-! ### One section -/

/-- A section outside of the gate stays there, unless it takes the gate when that is free. -/
theorem run_outside {thread : Thread} (h : service.Sound files server)
    (hknows : service.Knows server thread) (hgate : holdsGate thread = false) (answer : Answer) :
    service.Proceeds files (server.tick answer.pause) (service.run server thread answer) ∨
      (server.loginGate = false ∧ ∃ host, thread.stage = .waiting host ∧
        service.run server thread answer =
          goOn { server.tick answer.pause with loginGate := true } thread.request
            (.passed host)) := by
  have htick : service.Sound files (server.tick answer.pause) := ⟨h.kept, h.sessions, h.files_eq⟩
  obtain ⟨request, stage⟩ := thread
  cases stage with
  | arrived => exact Or.inl (proceeds_serveHTTP htick)
  | waiting host =>
      rw [run]
      dsimp only
      cases answer.wait with
      | through =>
          rw [waitForGate]
          split
          · exact Or.inl (proceeds_goOn htick rfl trivial)
          next hfree => exact Or.inr ⟨eq_false_of_ne_true hfree, host, rfl, rfl⟩
      | gone =>
          exact Or.inl ⟨.refl _, rfl, htick, fun _ hnext => absurd hnext (by simp [waitForGate])⟩
      | timeout => exact Or.inl (proceeds_reply htick (Response.public_blank rfl))
  | passed host => cases hgate
  | checking host asked => cases hgate
  | welcomed => cases hgate
  | releasing response => cases hgate
  | leaving caller => exact Or.inl (proceeds_finishLogout htick hknows)
  | reading caller =>
      refine Or.inl ?_
      rw [run]
      dsimp only
      obtain ⟨hserves, hpath⟩ := hknows
      split
      next hupload => exact proceeds_readUpload htick hserves hupload answer
      next hupload =>
        exact proceeds_readPalette htick hserves (hpath.resolve_left hupload) answer
  | listing caller status message notice => exact Or.inl (proceeds_listEntries htick hknows answer)
  | coloring caller status message notice entries =>
      exact Or.inl (proceeds_showPage htick hknows answer)

/-- A new session is the only one that is added. -/
theorem createSession_sub {digest : Bytes → Bytes} {app : Sessions} {token csrf : RandomBytes}
    {visit : Table.Visit Bytes UserSession} {now : ℕ} {key : Bytes} {session : UserSession}
    (hget : (app.createSession digest token csrf visit now).sessions.get key = some session) :
    (key = digest (randomToken token) ∧ session = ⟨randomToken csrf, now + sessionLifetime⟩) ∨
      (key ≠ digest (randomToken token) ∧ app.sessions.get key = some session) := by
  rw [Sessions.createSession] at hget
  dsimp only at hget
  rw [Table.get_set] at hget
  split at hget
  next hkey => exact Or.inl ⟨hkey, (Option.some.inj hget).symm⟩
  next hkey =>
    refine Or.inr ⟨hkey, ?_⟩
    split at hget
    · exact ((Table.get_filter_eq_some _ _ _ _).1 ((Table.get_filter_eq_some _ _ _ _).1 hget).1).1
    · exact ((Table.get_filter_eq_some _ _ _ _).1 hget).1

/-- What a section inside of the gate leaves. -/
structure Continues (service : Service) (files : Files) (server : Server)
    (result : Server × Option Thread) : Prop where
  clock : result.1.clock = server.clock
  log : ∃ new, result.1.log = new ++ server.log
  gate : result.1.loginGate = if result.2.any holdsGate = true then server.loginGate else false
  sound : service.Sound files result.1
  knows : ∀ next, result.2 = some next → service.Knows result.1 next

theorem continues_goOn {server' : Server} (hclock : server'.clock = server.clock)
    (hlog : ∃ new, server'.log = new ++ server.log) (hgate : server'.loginGate = server.loginGate)
    (hsound : service.Sound files server') {stage : Stage}
    (hholds : holdsGate ⟨request, stage⟩ = true) (hknows : service.Knows server' ⟨request, stage⟩) :
    service.Continues files server (goOn server' request stage) where
  clock := hclock
  log := hlog
  gate := by
    rw [goOn, Option.any_some, if_pos hholds]
    exact hgate
  sound := hsound
  knows := by
    rintro next hnext
    rw [← Option.some.inj hnext]
    exact hknows

/-- A right password gets a session, and no other one does. -/
theorem continues_makeSession (h : service.Sound files server)
    (hwelcome : welcome server.log = true) (answer : Answer) :
    service.Continues files server (service.makeSession server request answer) := by
  rw [makeSession]
  split
  next token csrf _ _ =>
    refine continues_goOn ?_ ?_ ?_ ?_ ?_ ?_
    · rfl
    · exact ⟨[_], rfl⟩
    · rfl
    · refine ⟨⟨hwelcome, h.kept⟩, ?_, h.files_eq⟩
      intro key session hget
      rw [Server.note, grants]
      rcases createSession_sub hget with ⟨rfl, rfl⟩ | ⟨hkey, hold⟩
      · rw [Function.update_self]
      · rw [Function.update_of_ne hkey]
        exact h.sessions key session hold
    · rfl
    · exact Response.public_of_ne fun data => Body.noConfusion
  · exact continues_goOn rfl ⟨[], rfl⟩ rfl h rfl (Response.public_text rfl)

theorem continues_checkPassword (h : service.Sound files server) {host : Bytes} {asked : ℕ}
    (hasked : asked ≤ server.clock) (answer : Answer) :
    service.Continues files server (service.checkPassword server request host asked answer) := by
  rw [checkPassword]
  dsimp only
  have hsound : ∀ attempts, service.Sound files
      (({ server with attempts }).note (.checked ⟨host, service.password.accepts service.mac
        (request.formValue (ascii "password")), server.clock⟩
          (request.formValue (ascii "password")) asked)) :=
    fun attempts => ⟨⟨⟨rfl, hasked⟩, h.kept⟩, h.sessions, h.files_eq⟩
  split
  next hright =>
    refine continues_goOn ?_ ?_ ?_ (hsound _) ?_ ?_
    · rfl
    · exact ⟨[_], rfl⟩
    · rfl
    · rfl
    · exact hright
  · refine continues_goOn ?_ ?_ ?_ (hsound _) ?_ ?_
    · rfl
    · exact ⟨[_], rfl⟩
    · rfl
    · rfl
    · exact Response.public_blank rfl

/-- **A section inside of the gate** keeps the log sound, and leaves the gate only with its
response. -/
theorem run_inside {thread : Thread} (h : service.Sound files server)
    (hknows : service.Knows server thread) (hgate : holdsGate thread = true) (answer : Answer) :
    service.Continues files (server.tick answer.pause) (service.run server thread answer) := by
  have htick : service.Sound files (server.tick answer.pause) := ⟨h.kept, h.sessions, h.files_eq⟩
  obtain ⟨request, stage⟩ := thread
  cases stage with
  | passed host =>
      rw [run]
      dsimp only
      rw [askAgain]
      split
      · exact continues_goOn rfl ⟨[], rfl⟩ rfl htick rfl (Response.public_blank rfl)
      · exact continues_goOn rfl ⟨[], rfl⟩ rfl htick rfl (Nat.le_refl _)
  | checking host asked =>
      exact continues_checkPassword htick (Nat.le_trans hknows (Nat.le_add_right _ _)) answer
  | welcomed => exact continues_makeSession htick hknows answer
  | releasing response =>
      exact ⟨rfl, ⟨[_], rfl⟩, rfl, ⟨⟨hknows, h.kept⟩, h.sessions, h.files_eq⟩,
        fun _ hnext => absurd hnext (by simp [run, reply])⟩
  | arrived => cases hgate
  | waiting host => cases hgate
  | leaving caller => cases hgate
  | reading caller => cases hgate
  | listing caller status message notice => cases hgate
  | coloring caller status message notice entries => cases hgate

/-! ### All threads -/

/-- What a section does to the gate, to the log and to the clock. -/
theorem run_spec {thread : Thread} (h : service.Sound files server)
    (hknows : service.Knows server thread) (answer : Answer) :
    Threads.Guarded holdsGate Server.loginGate server thread (service.run server thread answer) ∧
      (service.run server thread answer).1.clock = server.clock + answer.pause ∧
        (∃ new, (service.run server thread answer).1.log = new ++ server.log ∧
          (holdsGate thread = false → ∀ entry ∈ new, entry.isLogin = false)) ∧
          service.Sound files (service.run server thread answer).1 ∧
            ∀ next, (service.run server thread answer).2 = some next →
              service.Knows (service.run server thread answer).1 next := by
  cases hgate : holdsGate thread with
  | true =>
      have hrun := run_inside h hknows hgate answer
      obtain ⟨new, hnew⟩ := hrun.log
      refine ⟨?_, hrun.clock, ⟨new, hnew, fun hfalse => absurd hfalse (by simp)⟩, hrun.sound,
        hrun.knows⟩
      rw [Threads.Guarded, if_pos hgate]
      intro htaken
      rw [hrun.gate]
      cases hany : (service.run server thread answer).2.any holdsGate with
      | true => exact htaken
      | false => rfl
  | false =>
      rcases run_outside h hknows hgate answer with hrun | ⟨hfree, host, -, hrun⟩
      · obtain ⟨new, hnew, hquiet⟩ := hrun.calm.log
        refine ⟨?_, hrun.calm.clock, ⟨new, hnew, fun _ => hquiet⟩, hrun.sound, hrun.knows⟩
        rw [Threads.Guarded, if_neg (by simp [hgate]), if_neg (by simp [hrun.outside])]
        exact hrun.calm.gate
      · rw [hrun]
        refine ⟨?_, rfl, ⟨[], rfl, by simp⟩, ⟨h.kept, h.sessions, h.files_eq⟩, ?_⟩
        · rw [Threads.Guarded, if_neg (by simp [hgate])]
          exact ⟨hfree, rfl⟩
        · intro next hnext
          rw [← Option.some.inj hnext]
          trivial

/-! ### Logins, one after the other -/

/-- The failed logins are those of a service that has one login at a time. -/
def Follows (clock : ℕ) (server : Server) : Prop :=
  ∃ (logins : List Logins.Event) (time : ℕ), time ≤ server.clock ∧
    logins.foldl Lockout.react (Lockout.started clock) =
      ⟨⟨server.attempts, time⟩, checks server.log⟩

/-- The host of a login whose password is being checked was not locked out when that was asked. -/
def Asked (clock : ℕ) (server : Server) (thread : Thread) : Prop :=
  match thread.stage with
  | .checking host asked =>
      (∃ logins : List Logins.Event, logins.foldl Lockout.react (Lockout.started clock) =
        ⟨⟨server.attempts, asked⟩, checks server.log⟩) ∧
        Logins.loginBlocked ⟨server.attempts, asked⟩ host asked = none
  | _ => True

/-- Neither the counts nor the checks have changed. -/
structure SameLogins (server server' : Server) : Prop where
  attempts : server'.attempts = server.attempts
  checks : checks server'.log = checks server.log

theorem Follows.keep {clock : ℕ} {server' : Server} (h : Follows clock server)
    (hsame : SameLogins server server') (hclock : server.clock ≤ server'.clock) :
    Follows clock server' := by
  obtain ⟨logins, time, htime, hrun⟩ := h
  refine ⟨logins, time, Nat.le_trans htime hclock, ?_⟩
  rw [hsame.attempts, hsame.checks]
  exact hrun

theorem Asked.keep {clock : ℕ} {server' : Server} {thread : Thread} (h : Asked clock server thread)
    (hsame : SameLogins server server') : Asked clock server' thread := by
  rw [Asked] at h ⊢
  rw [hsame.attempts, hsame.checks]
  exact h

/-- Entries that are no logins say nothing of passwords. -/
theorem checks_append {new : List Entry} (h : ∀ entry ∈ new, entry.isLogin = false)
    (log : List Entry) : checks (new ++ log) = checks log := by
  induction new with
  | nil => rfl
  | cons entry new ih =>
      obtain ⟨hentry, hnew⟩ := List.forall_mem_cons.1 h
      rw [← ih hnew]
      cases entry with
      | checked check password asked => cases hentry
      | granted token csrf time => cases hentry
      | _ => rfl

theorem welcome_append {new : List Entry} (h : ∀ entry ∈ new, entry.isLogin = false)
    (log : List Entry) : welcome (new ++ log) = welcome log := by
  induction new with
  | nil => rfl
  | cons entry new ih =>
      obtain ⟨hentry, hnew⟩ := List.forall_mem_cons.1 h
      rw [← ih hnew]
      cases entry with
      | checked check password asked => cases hentry
      | granted token csrf time => cases hentry
      | _ => rfl

theorem Calm.sameLogins {server' : Server} (h : Calm server server') :
    SameLogins server server' := by
  obtain ⟨new, hnew, hquiet⟩ := h.log
  refine ⟨h.attempts, ?_⟩
  rw [hnew, checks_append hquiet]

/-- Only the check of a password changes the counts. -/
theorem run_sameLogins {thread : Thread} (h : service.Sound files server)
    (hknows : service.Knows server thread)
    (hstage : ∀ host asked, thread.stage ≠ .checking host asked) (answer : Answer) :
    SameLogins server (service.run server thread answer).1 := by
  cases hgate : holdsGate thread with
  | false =>
      rcases run_outside h hknows hgate answer with hrun | ⟨-, host, -, hrun⟩
      · exact ⟨hrun.calm.sameLogins.attempts, hrun.calm.sameLogins.checks⟩
      · rw [hrun]
        exact ⟨rfl, rfl⟩
  | true =>
      obtain ⟨request, stage⟩ := thread
      cases stage with
      | passed host =>
          rw [run]
          dsimp only
          rw [askAgain]
          split
          · exact ⟨rfl, rfl⟩
          · exact ⟨rfl, rfl⟩
      | checking host asked => exact absurd rfl (hstage host asked)
      | welcomed =>
          rw [run]
          dsimp only
          rw [makeSession]
          split
          · exact ⟨rfl, rfl⟩
          · exact ⟨rfl, rfl⟩
      | releasing response => exact ⟨rfl, rfl⟩
      | _ => cases hgate

/-- The second question is asked after every login before. -/
theorem asked_askAgain {clock : ℕ} (h : Follows clock server) {host : Bytes}
    {next : Thread} (hnext : (askAgain server request host).2 = some next) :
    Asked clock (askAgain server request host).1 next := by
  rw [askAgain] at hnext ⊢
  split at hnext
  · rw [← Option.some.inj hnext]
    trivial
  next hblocked =>
    rw [← Option.some.inj hnext]
    obtain ⟨logins, time, htime, hrun⟩ := h
    -- The time that passed since the last login passes without one.
    refine ⟨⟨logins ++ [.arrive host (server.clock - time)], ?_⟩, hblocked⟩
    rw [List.foldl_append, hrun, List.foldl_cons, List.foldl_nil, Lockout.react, Logins.react,
      Logins.tick, Lockout.checksOf, List.append_nil, Nat.add_sub_cancel' htime]
    rfl

/-- What the check of a password leaves of the failed logins. -/
theorem checkPassword_logins (server : Server) (request : HttpRequest) (host : Bytes) (asked : ℕ)
    (answer : Answer) :
    (service.checkPassword server request host asked answer).1.attempts =
        (server.asLogins.recordLogin host
          (service.password.accepts service.mac (request.formValue (ascii "password")))
          answer.visitAttempts server.clock).attempts ∧
      (service.checkPassword server request host asked answer).1.clock = server.clock ∧
        checks (service.checkPassword server request host asked answer).1.log =
          checks server.log ++ [⟨host,
            service.password.accepts service.mac (request.formValue (ascii "password")),
            server.clock⟩] := by
  rw [checkPassword]
  dsimp only
  split
  · exact ⟨rfl, rfl, rfl⟩
  · exact ⟨rfl, rfl, rfl⟩

/-- The check is the next one of the logins that came before it. -/
theorem follows_checkPassword {clock : ℕ} {host : Bytes} {asked : ℕ} (hasked : asked ≤ server.clock)
    (h : Asked clock server ⟨request, .checking host asked⟩) (answer : Answer) :
    Follows clock (service.checkPassword server request host asked answer).1 := by
  obtain ⟨⟨logins, hrun⟩, hfree⟩ := h
  obtain ⟨hattempts, hclock, hchecks⟩ :=
    service.checkPassword_logins server request host asked answer
  generalize service.password.accepts service.mac (request.formValue (ascii "password")) =
    successful at hattempts hchecks
  refine ⟨logins ++ [.gate host 0 successful (server.clock - asked) answer.visitAttempts],
    server.clock, Nat.le_of_eq hclock.symm, ?_⟩
  have hpause : (Logins.tick ⟨server.attempts, asked⟩ 0).tick (server.clock - asked) =
      server.asLogins := by
    rw [Logins.tick, Logins.tick, Nat.add_zero, Nat.add_sub_cancel' hasked]
    rfl
  have hfree' : Logins.loginBlocked (Logins.tick ⟨server.attempts, asked⟩ 0) host
      (Logins.tick ⟨server.attempts, asked⟩ 0).clock = none := hfree
  have hfree'' : (Logins.loginBlocked ⟨server.attempts, asked⟩ host (asked + 0)).isNone = true := by
    rw [Nat.add_zero, hfree]
    rfl
  rw [List.foldl_append, hrun, List.foldl_cons, List.foldl_nil, Lockout.react, Logins.react,
    Lockout.checksOf, if_pos hfree'', hattempts, hchecks]
  dsimp only
  rw [hfree', hpause, Nat.add_zero, Nat.add_sub_cancel' hasked]
  have hmake : ∀ logins : Logins, logins.clock = server.clock →
      logins = ⟨logins.attempts, server.clock⟩ := by
    rintro ⟨attempts, time⟩ rfl
    rfl
  exact congrArg (Lockout.mk · _) (hmake _ (Lockout.clock_recordLogin _ _ _ _ _))

/-- Only a thread with the gate checks passwords. -/
theorem asked_outside {clock : ℕ} {thread : Thread} (hgate : holdsGate thread = false) :
    Asked clock server thread := by
  obtain ⟨request, stage⟩ := thread
  cases stage with
  | checking host asked => cases hgate
  | _ => trivial

/-- A check of a password begins with the second question. -/
theorem asked_run {clock : ℕ} {thread : Thread} (h : service.Sound files server)
    (hfollows : Follows clock server) (hknows : service.Knows server thread) {answer : Answer}
    {next : Thread} (hnext : (service.run server thread answer).2 = some next) :
    Asked clock (service.run server thread answer).1 next := by
  cases hgate : holdsGate thread with
  | false =>
      rcases run_outside h hknows hgate answer with hrun | ⟨-, host, -, hrun⟩
      · have houtside := hrun.outside
        rw [hnext, Option.any_some] at houtside
        exact asked_outside houtside
      · rw [hrun] at hnext ⊢
        rw [← Option.some.inj hnext]
        trivial
  | true =>
      obtain ⟨request, stage⟩ := thread
      cases stage with
      | passed host =>
          have htick : Follows clock (server.tick answer.pause) :=
            hfollows.keep ⟨rfl, rfl⟩ (Nat.le_add_right _ _)
          exact asked_askAgain htick hnext
      | checking host asked =>
          rw [run] at hnext ⊢
          dsimp only at hnext ⊢
          rw [checkPassword] at hnext ⊢
          dsimp only at hnext ⊢
          split at hnext
          · rw [← Option.some.inj hnext]
            trivial
          · rw [← Option.some.inj hnext]
            trivial
      | welcomed =>
          rw [run] at hnext ⊢
          dsimp only at hnext ⊢
          rw [makeSession] at hnext
          split at hnext
          · rw [← Option.some.inj hnext]
            trivial
          · rw [← Option.some.inj hnext]
            trivial
      | releasing response => exact absurd hnext (by simp [run, reply])
      | _ => cases hgate

/-- One section keeps what the logins have come to. -/
theorem follows_run {clock : ℕ} {thread : Thread} (h : service.Sound files server)
    (hfollows : Follows clock server) (hknows : service.Knows server thread)
    (hasked : Asked clock server thread) (answer : Answer) :
    Follows clock (service.run server thread answer).1 := by
  by_cases hstage : ∃ host asked, thread.stage = .checking host asked
  · obtain ⟨host, asked, hstage⟩ := hstage
    obtain ⟨request, stage⟩ := thread
    obtain rfl : stage = .checking host asked := hstage
    refine follows_checkPassword (Nat.le_trans hknows (Nat.le_add_right _ _)) ?_ answer
    exact hasked.keep ⟨rfl, rfl⟩
  · have hsame := run_sameLogins h hknows (fun host asked heq => hstage ⟨host, asked, heq⟩) answer
    refine hfollows.keep hsame ?_
    rw [(run_spec h hknows answer).2.1]
    exact Nat.le_add_right _ _

/-! ### Runs -/

/-- Other threads are not disturbed. -/
theorem knows_stable {thread other : Thread} (h : service.Sound files server)
    (hknows : service.Knows server thread)
    (hgate : holdsGate thread = true → holdsGate other = false)
    (hother : service.Knows server other) (answer : Answer) :
    service.Knows (service.run server thread answer).1 other := by
  obtain ⟨-, hclock, ⟨new, hnew, hquiet⟩, -⟩ := run_spec h hknows answer
  have hmem : ∀ caller, Entry.admitted caller ∈ server.log →
      Entry.admitted caller ∈ (service.run server thread answer).1.log := by
    intro caller hcaller
    rw [hnew]
    exact List.mem_append_right new hcaller
  have hserves : ∀ {request caller}, service.Serves server.log request caller →
      service.Serves (service.run server thread answer).1.log request caller :=
    fun hserves => { hserves with admitted := hmem _ hserves.admitted }
  obtain ⟨request, stage⟩ := other
  cases stage with
  | checking host asked =>
      refine Nat.le_trans hother ?_
      rw [hclock]
      exact Nat.le_add_right _ _
  | welcomed =>
      have hfree : holdsGate thread = false := by
        cases hholds : holdsGate thread with
        | false => rfl
        | true => exact absurd (hgate hholds) (by simp [holdsGate])
      rw [Knows, hnew]
      exact (welcome_append (hquiet hfree) server.log).trans hother
  | leaving caller => exact ⟨hserves hother.1, hother.2⟩
  | reading caller => exact ⟨hserves hother.1, hother.2⟩
  | listing caller status message notice => exact ⟨hmem caller hother.1, hother.2⟩
  | coloring caller status message notice entries => exact ⟨hmem caller hother.1, hother.2⟩
  | releasing response => exact hother
  | arrived => trivial
  | waiting host => trivial
  | passed host => trivial

/-- **What holds in every run**, whatever the order of the threads. -/
theorem sound_run (service : Service) (files : Files) (clock : ℕ)
    (events : List (Threads.Event HttpRequest Answer)) :
    let pool := events.foldl (Threads.react service.program) ⟨Server.started files clock, []⟩
    Threads.Exclusive holdsGate pool.shared.loginGate pool.threads ∧
      (service.Sound files pool.shared ∧ Follows clock pool.shared) ∧
        ∀ thread ∈ pool.threads, service.Knows pool.shared thread ∧
          Asked clock pool.shared thread := by
  refine Threads.gated_invariant (J := fun server =>
    service.Sound files server ∧ Follows clock server)
    (K := fun server thread => service.Knows server thread ∧ Asked clock server thread)
    ?_ ?_ ?_ ?_ ?_ ?_ (List.forall_mem_nil _) events
  · intro server request _
    exact ⟨rfl, trivial, trivial⟩
  · rintro server thread answer ⟨h, -⟩ ⟨hknows, -⟩
    exact (run_spec h hknows answer).1
  · rintro server thread answer ⟨h, hfollows⟩ ⟨hknows, hasked⟩
    obtain ⟨-, -, -, hsound, hnext⟩ := run_spec h hknows answer
    exact ⟨⟨hsound, follows_run h hfollows hknows hasked answer⟩,
      fun next hrun => ⟨hnext next hrun, asked_run h hfollows hknows hrun⟩⟩
  · rintro server thread answer other hgate ⟨h, -⟩ ⟨hknows, hasked⟩ ⟨hother, haskedOther⟩
    refine ⟨knows_stable h hknows hgate hother answer, ?_⟩
    by_cases hstage : ∃ host asked, thread.stage = .checking host asked
    · obtain ⟨host, asked, hstage⟩ := hstage
      exact asked_outside (hgate (by rw [holdsGate, hstage]))
    · exact haskedOther.keep
        (run_sameLogins h hknows (fun host asked heq => hstage ⟨host, asked, heq⟩) answer)
  · rfl
  · refine ⟨⟨trivial, ?_, rfl⟩, [], clock, Nat.le_refl _, rfl⟩
    intro key session hget
    cases hget

/-! ### Who does what -/

/-- A right password that has not got its session yet was the last one that was checked. -/
theorem welcome_eq_true {log : List Entry} (h : welcome log = true) :
    ∃ quiet check password asked before, log = quiet ++ .checked check password asked :: before ∧
      check.successful = true ∧ ∀ entry ∈ quiet, entry.isLogin = false := by
  induction log with
  | nil => cases h
  | cons entry log ih =>
      have hskip : entry.isLogin = false → welcome log = true →
          ∃ quiet check password asked before,
            entry :: log = quiet ++ .checked check password asked :: before ∧
              check.successful = true ∧ ∀ entry ∈ quiet, entry.isLogin = false := by
        intro hentry hwelcome
        obtain ⟨quiet, check, password, asked, before, rfl, hright, hquiet⟩ := ih hwelcome
        exact ⟨entry :: quiet, check, password, asked, before, rfl, hright,
          List.forall_mem_cons.2 ⟨hentry, hquiet⟩⟩
      cases entry with
      | checked check password asked =>
          exact ⟨[], check, password, asked, log, rfl, h, List.forall_mem_nil _⟩
      | granted token csrf time => cases h
      | _ => exact hskip rfl h

/-- A session that is there was made, and no logout has removed it since. -/
theorem grants_eq_some {log : List Entry} {key : Bytes} {session : UserSession}
    (h : service.grants log key = some session) :
    ∃ between token csrf time earlier, log = between ++ .granted token csrf time :: earlier ∧
      service.digest token = key ∧ session = ⟨csrf, time + sessionLifetime⟩ ∧
        ∀ request caller, Entry.left request caller ∈ between →
          service.digest caller.cookie ≠ key := by
  induction log with
  | nil => cases h
  | cons entry log ih =>
      have hskip : (∀ request caller, entry = .left request caller →
          service.digest caller.cookie ≠ key) → service.grants log key = some session →
            ∃ between token csrf time earlier,
              entry :: log = between ++ .granted token csrf time :: earlier ∧
                service.digest token = key ∧ session = ⟨csrf, time + sessionLifetime⟩ ∧
                  ∀ request caller, Entry.left request caller ∈ between →
                    service.digest caller.cookie ≠ key := by
        intro hentry hgrants
        obtain ⟨between, token, csrf, time, earlier, rfl, hkey, hsession, hleft⟩ := ih hgrants
        refine ⟨entry :: between, token, csrf, time, earlier, rfl, hkey, hsession, ?_⟩
        intro request caller hmem
        rcases List.mem_cons.1 hmem with heq | hmem
        · exact hentry request caller heq.symm
        · exact hleft request caller hmem
      cases entry with
      | granted token csrf time =>
          rw [grants] at h
          by_cases hkey : key = service.digest token
          · rw [hkey, Function.update_self] at h
            exact ⟨[], token, csrf, time, log, rfl, hkey.symm, (Option.some.inj h).symm, by simp⟩
          · rw [Function.update_of_ne hkey] at h
            exact hskip (fun _ _ heq => by cases heq) h
      | left request caller =>
          rw [grants] at h
          by_cases hkey : key = service.digest caller.cookie
          · rw [hkey, Function.update_self] at h
            cases h
          · rw [Function.update_of_ne hkey] at h
            refine hskip ?_ h
            intro request' caller' heq
            cases heq
            exact Ne.symm hkey
      | _ => exact hskip (fun _ _ heq => by cases heq) h

/-- **A session stands behind what someone does**: the right password was checked, a session was
made for that check alone, the cookie is its token, and it was looked up when it had neither run out
nor been removed. -/
structure Backed (service : Service) (log : List Entry) (request : HttpRequest) (caller : Caller) :
    Prop where
  cookie : request.cookie = some caller.cookie
  live : caller.seen < caller.session.expiresAt
  chain : ∃ after between token csrf time quiet check password asked before,
    log = after ++ .admitted caller ::
      (between ++ .granted token csrf time :: (quiet ++ .checked check password asked :: before)) ∧
    service.password.accepts service.mac password = true ∧
    (∀ entry ∈ quiet, entry.isLogin = false) ∧
    service.digest token = service.digest caller.cookie ∧
    caller.session = ⟨csrf, time + sessionLifetime⟩ ∧
    ∀ request caller', Entry.left request caller' ∈ between →
      service.digest caller'.cookie ≠ service.digest caller.cookie

theorem backed_of_admitted {log : List Entry} (hkept : Threads.Kept service.Rule log)
    {caller : Caller} (hmem : Entry.admitted caller ∈ log)
    (hcookie : request.cookie = some caller.cookie) :
    service.Backed log request caller := by
  have hrule := Threads.keeps_iff.1 hkept
  obtain ⟨after, earlier, rfl⟩ := List.append_of_mem hmem
  obtain ⟨hgrants, hlive⟩ := hrule after _ earlier rfl
  obtain ⟨between, token, csrf, time, granted, rfl, hkey, hsession, hleft⟩ := grants_eq_some hgrants
  have hwelcome : welcome granted = true :=
    hrule (after ++ .admitted caller :: between) (.granted token csrf time) granted (by simp)
  obtain ⟨quiet, check, password, asked, before, rfl, hright, hquiet⟩ := welcome_eq_true hwelcome
  obtain ⟨haccepts, -⟩ := hrule
    (after ++ .admitted caller :: (between ++ .granted token csrf time :: quiet))
    (.checked check password asked) before (by simp)
  exact ⟨hcookie, hlive, after, between, token, csrf, time, quiet, check, password, asked,
    before, rfl,
    haccepts.symm.trans hright, hquiet, hkey, hsession, hleft⟩

/-- Files are changed, sessions removed and pages shown for those only who have a session; a change
needs the token of the session in its form, and a request from the service's own page. -/
def Authorised (service : Service) (log : List Entry) : Entry → Prop
  | .left request caller | .uploaded request caller _ _ | .saved request caller _ _ =>
      service.Backed log request caller ∧ csrfValid request caller.session = true ∧
        request.method = postMethod ∧ sameOrigin request = true ∧
          service.requestAllowed request = true
  | .replied request (some caller) response =>
      service.Backed log request caller ∧
        ∃ data, response.body = .page data ∧ data.csrf = caller.session.csrf
  | .replied _ none response => response.Public
  | _ => True

theorem authorised_of_rule {log : List Entry} (hkept : Threads.Kept service.Rule log)
    {entry : Entry} (hrule : service.Rule log entry) : service.Authorised log entry := by
  have hserves : ∀ {request caller}, service.Serves log request caller →
      csrfValid request caller.session = true →
        service.Backed log request caller ∧ csrfValid request caller.session = true ∧
          request.method = postMethod ∧ sameOrigin request = true ∧
            service.requestAllowed request = true :=
    fun hserves hcsrf => ⟨backed_of_admitted hkept hserves.admitted hserves.cookie, hcsrf,
      hserves.method, hserves.origin, hserves.allowed⟩
  cases entry with
  | left request caller => exact hserves hrule.1 hrule.2.2
  | uploaded request caller upload faults => exact hserves hrule.1 hrule.2.2
  | saved request caller values faults => exact hserves hrule.1 hrule.2.2.1
  | replied request caller response =>
      cases caller with
      | none => exact hrule
      | some caller => exact ⟨backed_of_admitted hkept hrule.1 hrule.2.1, hrule.2.2⟩
  | _ => trivial

end Sections

/-- **The logins are one after the other**: one thread at most is past the gate, and the checks of
all threads leave the counts that they leave in a service that has one login at a time. -/
theorem logins_refine (service : Service) (files : Files) (clock : ℕ)
    (events : List (Threads.Event HttpRequest Answer)) :
    let pool := events.foldl (Threads.react service.program) ⟨Server.started files clock, []⟩
    pool.threads.countP holdsGate ≤ 1 ∧
      ∃ (logins : List Logins.Event) (time : ℕ),
        logins.foldl Lockout.react (Lockout.started clock) =
          ⟨⟨pool.shared.attempts, time⟩, checks pool.shared.log⟩ := by
  obtain ⟨hgate, ⟨-, logins, time, -, hlogins⟩, -⟩ := sound_run service files clock events
  refine ⟨?_, logins, time, hlogins⟩
  rw [hgate]
  split
  · exact Nat.le_refl _
  · exact Nat.zero_le _

end Service

end NesDeck.Uploader
