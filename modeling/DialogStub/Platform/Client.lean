import DialogStub.Http.Status
import DialogStub.Json.Printer
import DialogStub.Json.Shape.Reader
import DialogStub.World

/-!
# The platform

* `Platform` — what the platform answers, as a function of all calls so far;
* `Platform.Client` — a platform and the address under which it is called;
* `Client.isAvailable`, `Client.createSession`, `Client.sendMessage`, `Client.continueSession` —
  the four calls;
* `PlatformError` — why a call fails.

A call is made once and never again after a failure. No call is made to an address that no server
of the web can have.
-/

namespace DialogStub

open Json

/-- What comes back for a call: a status with a body, or nothing. -/
inductive Reply where
  | answered (status : Nat) (body : Bytes)
  | failed
  deriving DecidableEq, Repr

/-- What the platform answers to the last of the calls that it got so far. -/
abbrev Platform := List Call → Reply

/-! ### Answers -/

/-- The answer to a new session. Not every platform sends all of it. -/
structure SessionStarted where
  sessionId : Option String
  initialMessage : Option String
  nodeType : Option String
  deriving DecidableEq, Repr

/-- The answer to a new session, in JSON. -/
def SessionStarted.shape : Shape SessionStarted :=
  .record "SessionStarted" none
    (.cons (.plain "session_id") (.option .text) <|
      .cons (.plain "initial_message") (.option .text) <|
      .cons (.plain "node_type") (.option .text) .nil)
    (fun (sessionId, initialMessage, nodeType, ()) => ⟨sessionId, initialMessage, nodeType⟩)
    (fun r => (r.sessionId, r.initialMessage, r.nodeType, ()))
    (fun _ => rfl)

/-- The answer to a message. -/
structure BotTurn where
  botResponse : Option String
  sessionActive : Option Bool
  deriving DecidableEq, Repr

/-- The answer to a message, in JSON. -/
def BotTurn.shape : Shape BotTurn :=
  .record "BotTurn" none
    (.cons (.plain "bot_response") (.option .text) <|
      .cons (.plain "session_active") (.option .flag) .nil)
    (fun (botResponse, sessionActive, ()) => ⟨botResponse, sessionActive⟩)
    (fun r => (r.botResponse, r.sessionActive, ()))
    (fun _ => rfl)

/-! ### Failures -/

/-- Why a call brings no answer that can be read. -/
inductive CallFault where
  | address (url : Option Url)
  | sending (url : Url)
  | decoding (url : Url)
  deriving DecidableEq, Repr

/-- The wording of a call fault. -/
def CallFault.message : CallFault → String
  | .address none => "builder error"
  | .address (some url) => "builder error for url (" ++ url.text ++ ")"
  | .sending url => "error sending request for url (" ++ url.text ++ ")"
  | .decoding url => "error decoding response body for url (" ++ url.text ++ ")"

/-- Why a call fails: it brought no answer, or one with another status than 200. -/
inductive PlatformError where
  | request (url : String) (fault : CallFault)
  | status (url : String) (code : Nat)
  deriving DecidableEq, Repr

/-- The wording of a platform error. -/
def PlatformError.message : PlatformError → String
  | .request url fault => "request to " ++ url ++ " failed: " ++ fault.message
  | .status url code => url ++ " returned " ++ Http.Status.text code

/-! ### Calls -/

/-- A platform and the address under which it is called. -/
structure Platform.Client where
  platform : Platform
  base : List Char

namespace Platform.Client

/-- A text without slashes at its end. -/
def withoutSlashes (cs : List Char) : List Char :=
  (cs.reverse.dropWhile (· = '/')).reverse

/-- The client of the platform at an address. -/
def ofAddress (platform : Platform) (address : String) : Client :=
  ⟨platform, withoutSlashes address.toList⟩

/-- The address of a path: exactly one slash stands between the base and the path. -/
def address (client : Client) (path : String) : String :=
  String.ofList (client.base ++ '/' :: path.toList.dropWhile (· = '/'))

/-- Makes a call, if the address is that of a server. -/
def send (client : Client) (method address : String) (body : Option Bytes) :
    Effect (Except CallFault (Url × Nat × Bytes)) := do
  match Url.parse address with
  | none => return .error (.address none)
  | some url =>
    if url.isWeb then
      -- The call counts, whatever comes back.
      modify fun w => { w with calls := w.calls ++ [⟨method, url, body⟩] }
      match client.platform (← get).calls with
      | .failed => return .error (.sending url)
      | .answered status body => return .ok (url, status, body)
    else return .error (.address (some url))

/-- Posts a value and reads the answer. -/
def post {α : Type} (client : Client) (shape : Shape α) (path : String) (body : Json) :
    Effect (Except PlatformError α) := do
  let address := client.address path
  match ← client.send "POST" address (some body.print) with
  | .error fault => return .error (.request address fault)
  | .ok (url, status, bytes) =>
    -- Only this status counts, and no other that says that all is well.
    if status = 200 then
      match shape.ofBytes bytes with
      | .ok answer => return .ok answer
      | .error _ => return .error (.request address (.decoding url))
    else return .error (.status address status)

/-- Whether the platform says that it is well. -/
def isAvailable (client : Client) : Effect Bool := do
  let address := client.address "health"
  match ← client.send "GET" address none with
  | .ok (_, status, _) => return status = 200
  | .error fault =>
    Effect.report .debug "platform health probe failed"
      [("url", address), ("error", fault.message)]
    return false

/-- Opens a session. -/
def createSession (client : Client) : Effect (Except PlatformError SessionStarted) :=
  client.post SessionStarted.shape "chat/sessions" (.obj [])

/-- Sends a message. -/
def sendMessage (client : Client) (sessionId content : String) :
    Effect (Except PlatformError BotTurn) :=
  client.post BotTurn.shape "chat/messages"
    (object [("session_id", .str sessionId), ("content", .str content)])

/-- Goes on behind an announcement. -/
def continueSession (client : Client) (sessionId : String) :
    Effect (Except PlatformError BotTurn) :=
  client.post BotTurn.shape "chat/continue" (object [("session_id", .str sessionId)])

end Platform.Client

end DialogStub
