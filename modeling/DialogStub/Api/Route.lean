import DialogStub.Http.Message
import DialogStub.Text.Percent

/-!
# Routes

* `Route` — what a path leads to;
* `Route.ofPath` — the route of a path, compared letter by letter;
* `Route.methods` — the methods that a route answers, with what they do.

Two routes have a session id in their path, as one segment in its percent-encoded form.
-/

namespace DialogStub

open Http

/-- What a path leads to. -/
inductive Route where
  | health
  | data
  | info
  | users
  | complexData
  | chatStart
  | chatMessage
  | chatDemo
  | chatStatus
  | sessions
  | session (id : List Char)
  | sessionMessages (id : List Char)
  | messages
  | dialogs
  | scenarios
  | nluStatus
  | nluAnalyze
  | orchestratorStatus
  | orchestratorProcess
  /-- The description of the API. -/
  | document
  /-- The way to the pages about the API. -/
  | pages
  /-- A page about the API. -/
  | page (file : String)
  deriving DecidableEq, Repr

/-- What is done on a route. -/
inductive Action where
  | read
  | write
  deriving DecidableEq, Repr

namespace Route

/-- The routes whose path is a fixed text. -/
def fixed : List (String × Route) :=
  [("/health", .health), ("/api/data", .data), ("/api/info", .info), ("/api/users", .users),
    ("/api/complex-data", .complexData), ("/chat/start", .chatStart),
    ("/chat/message", .chatMessage), ("/chat/demo", .chatDemo),
    ("/api/v1/chat/status", .chatStatus), ("/api/v1/chat/sessions", .sessions),
    ("/api/v1/chat/messages", .messages), ("/api/v1/dialogs", .dialogs),
    ("/api/v1/scenarios", .scenarios), ("/api/v1/nlu/status", .nluStatus),
    ("/api/v1/nlu/analyze", .nluAnalyze), ("/api/v1/orchestrator/status", .orchestratorStatus),
    ("/api/v1/orchestrator/process", .orchestratorProcess)]

/-- The path before a session id. -/
def sessionPath : List Char := "/api/v1/chat/sessions/".toList

/-- The path behind a session id, before its messages. -/
def messagesPath : List Char := "/messages".toList

/-- The route of a path behind `/api/v1/chat/sessions/`. The segment may be empty only before
    the messages. -/
def ofSegment (rest : List Char) : Option Route :=
  let id := rest.takeWhile (· ≠ '/')
  let behind := rest.drop id.length
  if behind = messagesPath then some (.sessionMessages id)
  else if behind = [] ∧ id ≠ [] then some (.session id)
  else none

/-- The routes of the pages about the API. -/
def ofPagePath (path : String) : Option Route :=
  if path = "/api-docs/openapi.json" then some .document
  else if path = "/swagger-ui" then some .pages
  else if "/swagger-ui/".toList.isPrefixOf path.toList then
    some (.page (String.ofList (path.toList.drop "/swagger-ui/".length)))
  else none

/-- The route of a path. -/
def ofPath (withPages : Bool) (path : String) : Option Route :=
  match fixed.lookup path with
  | some route => some route
  | none =>
    if sessionPath.isPrefixOf path.toList then ofSegment (path.toList.drop sessionPath.length)
    else if withPages then ofPagePath path
    else none

/-- The methods of a route in the order of their announcement, with what they do. -/
def methods : Route → List (String × Action)
  | .data => [("GET", .read), ("HEAD", .read), ("POST", .write)]
  | .sessions => [("POST", .write), ("GET", .read), ("HEAD", .read)]
  | .chatStart | .chatMessage | .chatDemo | .messages | .nluAnalyze | .orchestratorProcess =>
    [("POST", .write)]
  | _ => [("GET", .read), ("HEAD", .read)]

/-- The announcement of the methods of a route. -/
def allow (route : Route) : Bytes :=
  Utf8.bytes (",".intercalate (route.methods.map Prod.fst))

/-- What a method does on a route, if anything. -/
def action? (route : Route) (method : Method) : Option Action :=
  match method with
  | .get => route.methods.lookup "GET"
  | .head => route.methods.lookup "HEAD"
  | .post => route.methods.lookup "POST"
  | _ => none

end Route

end DialogStub
