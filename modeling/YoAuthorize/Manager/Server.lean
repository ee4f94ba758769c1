import Mathlib.Data.List.Sort
import YoAuthorize.Lib.Json
import YoAuthorize.Lib.Pattern
import YoAuthorize.Manager.Jobs
import YoAuthorize.Manager.PortFile

/-!
# The server of the manager

`validateRequest`, `bodyJSON` and the handler of `createServer` in `server.mjs`.  A
step is what happens from one await to the next: a request up to its reply or to the
await of its body, a chunk of a body, the end of a body with the call of the manager,
and an event of the manager.  Requests are numbered in the order in which they come.

`URL` is the constructor of the platform, of which the handler uses `pathname` and
`searchParams`.
-/

namespace YoAuthorize.Manager

open Octets Backtrack

/-! ## Requests -/

/-- What is read of a request; the length is a number already where it comes in. -/
structure Request : Type where
  method : String
  url : String
  host : Option String := none
  origin : Option String := none
  secFetchSite : Option String := none
  csrfToken : Option String := none
  contentType : Option String := none
  contentLength : Option Nat := none
  deriving DecidableEq, Repr

def hosts (port : Nat) : List String :=
  ["127.0.0.1:" ++ toString port, "localhost:" ++ toString port] ++
    if port = 80 then ["127.0.0.1", "localhost"] else []

/-- The `origin` of the URL of a host, where the default port is left out. -/
def originOf (host : String) : String :=
  "http://" ++
    if host = "127.0.0.1:80" then "127.0.0.1"
    else if host = "localhost:80" then "localhost"
    else host

/-- `^application\/json(?:\s*;\s*charset=utf-8)?$`, of a text in lower case. -/
def jsonType : Pattern Char Unit := do
  let _ ← literal "application/json".toList
  let _ ← optional do
    let _ ← many isSpace
    let _ ← literal [';']
    let _ ← many isSpace
    literal "charset=utf-8".toList
  atEnd

def untrustedHost : Fault := .of 403 "Untrusted Host."

def validateRequest (request : Request) (port : Nat) (token : String) : Except Fault Unit :=
  match request.host with
  | none => .error untrustedHost
  | some host =>
      if host ∉ hosts port then .error untrustedHost
      else if request.origin ≠ none ∧ request.origin ≠ some (originOf host) then
        .error (.of 403 "Untrusted Origin.")
      else if request.secFetchSite.getD "" ≠ "" ∧
          request.secFetchSite.getD "" ∉ ["same-origin", "none"] then
        .error (.of 403 "Cross-site requests are forbidden.")
      else if request.method = "POST" then
        if request.origin ≠ some (originOf host) ∨ request.csrfToken ≠ some token then
          .error (.of 403 "Invalid CSRF token or Origin. Reload the page.")
        else if ¬ jsonType.test ((request.contentType.getD "").toList.map Char.toLower) then
          .error (.of 415 "Content-Type must be application/json.")
        else .ok ()
      else .ok ()

/-! ## Bodies -/

def bodyLimit : Nat := 4096

def tooLarge : Fault := .of 413 "Request body exceeds 4096 bytes."

/-- The end of `bodyJSON`. -/
def parseBody (body : Bytes) : Except Fault Json.Value :=
  match Json.parse (bufferToString body).toList with
  | some value => .ok value
  | none => .error (.of 400 "Invalid JSON body.")

/-- `Object.keys(body).sort().join(',')`, by the 16-bit units. -/
def joinedNames (members : List (Json.Units × Json.Value)) : Json.Units :=
  [0x2C].intercalate ((members.map Prod.fst).insertionSort (· ≤ ·))

def member (members : List (Json.Units × Json.Value)) (name : String) : Option Json.Value :=
  (members.find? fun entry => entry.1 = Json.encode name.toList).map Prod.snd

/-- A value that is a string; `includes` of the manager is false for every other value. -/
def stringOf : Option Json.Value → Option String
  | some (.string units) => some (String.ofList (Json.decode units))
  | _ => none

/-- The `action` and the `target` of a body. -/
def actionOf (body : Json.Value) : Except Fault (Option String × Option String) :=
  match body with
  | .object members =>
      if joinedNames members = Json.encode "action,target".toList then
        .ok (stringOf (member members "action"), stringOf (member members "target"))
      else .error (.of 400 "Expected only action and target.")
  | _ => .error (.of 400 "Expected only action and target.")

/-! ## Replies -/

def STATIC : List (String × String × String) :=
  [("/", "index.html", "text/html; charset=utf-8"),
    ("/app.js", "app.js", "text/javascript; charset=utf-8"),
    ("/ansi.js", "ansi.js", "text/javascript; charset=utf-8"),
    ("/styles.css", "styles.css", "text/css; charset=utf-8"),
    ("/logo.png", "logo.png", "image/png")]

/-- The read of the manager whose result is the reply. -/
inductive Read : Type
  | status
  | links
  | logs
  deriving DecidableEq, Repr

/-- The `catch` of `links`, which lets no fault through. -/
def linksUnavailable : Fault :=
  .of 502 ("Navigation configuration unavailable. Check local Compose configuration and " ++
    "retry Refresh status.")

/-- The fault of a read as the request gets it. -/
def Read.fault (read : Read) (fault : Fault) : Fault :=
  match read with
  | .links => linksUnavailable
  | .status | .logs => fault

inductive Answer : Type
  | fault (fault : Fault)
  | asset (file contentType : String)
  | session (token : String)
  | job (job : Option Job)
  | read (read : Read)
  | submitted (reply : Reply)
  deriving DecidableEq

/-- The variables of the server, and the requests that it has not answered: those whose body
is read.  `answers` and `asked`, what the manager was asked to do, are not kept by the code. -/
structure Server : Type where
  port : Nat
  token : String
  manager : State := {}
  next : Nat := 0
  bodies : Nat → Option (Request × Bytes) := fun _ => none
  answers : List (Request × Answer) := []
  asked : List (Request × Bytes × String × String) := []

def Server.answer (server : Server) (request : Request) (answer : Answer) : Server :=
  { server with answers := server.answers ++ [(request, answer)] }

/-- A read of the manager up to its await. -/
def Server.read (deploy : Deploy) (server : Server) (request : Request) (read : Read)
    (args : List String) (color : Bool) : Server :=
  match server.manager.read deploy args color with
  | .error fault => server.answer request (.fault (read.fault fault))
  | .ok manager => { server with manager }.answer request (.read read)

/-! ## Logs -/

/-- What is used of a `URL`. -/
structure Url : Type where
  pathname : String
  searchParams : List (String × String)

def getAll (url : Url) (key : String) : List String :=
  (url.searchParams.filter fun entry => entry.1 = key).map Prod.snd

/-- `manager.logs` up to its await. -/
def Server.logs (deploy : Deploy) (server : Server) (request : Request) (service : Option String)
    (tail : String) : Server :=
  let digits := tail.toList
  if service.getD "" ∉ visible ∨ ¬ (1 ≤ digits.length ∧ digits.length ≤ 4 ∧ digits.all isDigit) ∨
      number digits < 1 ∨ number digits > 1000 then
    server.answer request (.fault (.of 400 "Choose an allowed service and a tail from 1 to 1000."))
  else
    server.read deploy request .logs
      ["logs", "--timestamps", "--tail", toString (number digits), service.getD ""] true

def Server.logsQuery (deploy : Deploy) (server : Server) (request : Request) (url : Url) : Server :=
  if (url.searchParams.any fun entry => entry.1 ∉ ["service", "tail"]) ∨
      (getAll url "service").length ≠ 1 ∨ (getAll url "tail").length > 1 then
    server.answer request (.fault (.of 400 "Invalid log query."))
  else
    server.logs deploy request (getAll url "service").head? ((getAll url "tail").head?.getD "200")

/-! ## The handler -/

def invalidUrl : Fault := { message := "Invalid URL" }

/-- From the first check to the reply or to the await of the body. -/
def Server.route (deploy : Deploy) (server : Server) (request : Request) (url : Url) : Server :=
  let get (path : String) : Bool := request.method = "GET" ∧ request.url = path
  match STATIC.lookup request.url with
  | some (file, type) =>
      if request.method = "GET" then server.answer request (.asset file type)
      else server.answer request (.fault (.of 404 "Not found."))
  | none =>
      if get "/api/session" then server.answer request (.session server.token)
      else if get "/api/status" then
        server.read deploy request .status ["ps", "-a", "--format", "json"] false
      else if get "/api/links" then
        server.read deploy request .links ["config", "--format", "json"] false
      else if get "/api/job" then
        server.answer request (.job (server.manager.slot.job.bind fun job =>
          server.manager.slot.jobs[job]?))
      else if request.method = "GET" ∧ url.pathname = "/api/logs" then
        server.logsQuery deploy request url
      else if request.method = "POST" ∧ request.url = "/api/actions" then
        if request.contentLength.getD 0 > bodyLimit then
          server.answer request (.fault tooLarge)
        else
          { server with
            bodies := Function.update server.bodies server.next (some (request, []))
            next := server.next + 1 }
      else server.answer request (.fault (.of 404 "Not found."))

def Server.handle (deploy : Deploy) (newUrl : String → Option Url) (server : Server)
    (request : Request) : Server :=
  match validateRequest request server.port server.token with
  | .error fault => server.answer request (.fault fault)
  | .ok () =>
      if ¬ "/".toList <+: request.url.toList ∨ "//".toList <+: request.url.toList then
        server.answer request (.fault (.of 400 "Invalid request path."))
      else
        match newUrl request.url with
        | none => server.answer request (.fault invalidUrl)
        | some url => server.route deploy request url

/-- A body is no longer read. -/
def Server.forget (server : Server) (number : Nat) : Server :=
  { server with bodies := Function.update server.bodies number none }

/-- A chunk of a body. -/
def Server.chunk (server : Server) (number : Nat) (request : Request) (body chunk : Bytes) :
    Server :=
  if (body ++ chunk).length > bodyLimit then
    (server.forget number).answer request (.fault tooLarge)
  else
    { server with
      bodies := Function.update server.bodies number (some (request, body ++ chunk)) }

/-- The manager is asked; `id` and `startedAt` are those of a new job. -/
def Server.submit (deploy : Deploy) (server : Server) (request : Request) (body : Bytes)
    (action target id startedAt : String) : Server :=
  let submitted := Manager.submit deploy server.manager.slot action target id startedAt
  { server with
    manager :=
      { server.manager with
        slot := submitted.1, tasks := server.manager.tasks ++ submitted.2.1.toList }
    asked := server.asked ++ [(request, body, action, target)] }.answer request
      (.submitted submitted.2.2)

/-- The end of a body. -/
def Server.finish (deploy : Deploy) (server : Server) (number : Nat) (request : Request)
    (body : Bytes) (id startedAt : String) : Server :=
  let server := server.forget number
  match (parseBody body).bind actionOf with
  | .error fault => server.answer request (.fault fault)
  | .ok (some action, some target) =>
      server.submit deploy request body action target id startedAt
  | .ok _ => server.answer request (.fault (.of 400 "Unsupported action or target."))

/-! ## Steps -/

inductive ServerEvent : Type
  | request (request : Request)
  | chunk (number : Nat) (chunk : Bytes)
  | finish (number : Nat) (id startedAt : String)
  | abort (number : Nat) (message : String)
  | manager (event : Event)

/-- What happens to the manager on its own, and not by a request. -/
def Event.internal : Event → Bool
  | .submit _ _ _ _ | .read _ _ => false
  | _ => true

/-- A step, where the event can happen. -/
def Server.step (deploy : Deploy) (newUrl : String → Option Url) (server : Server) :
    ServerEvent → Option Server
  | .request request => some (server.handle deploy newUrl request)
  | .chunk number chunk =>
      (server.bodies number).map fun body => server.chunk number body.1 body.2 chunk
  | .finish number id startedAt =>
      (server.bodies number).map fun body =>
        server.finish deploy number body.1 body.2 id startedAt
  | .abort number message =>
      (server.bodies number).map fun body =>
        (server.forget number).answer body.1 (.fault { message })
  | .manager event =>
      if event.internal then
        (Manager.step deploy server.manager event).map fun manager => { server with manager }
      else none

def Server.run (deploy : Deploy) (newUrl : String → Option Url) (server : Server)
    (events : List ServerEvent) : Option Server :=
  events.foldlM (Server.step deploy newUrl) server

end YoAuthorize.Manager
