import DialogStub.Chat.Message
import DialogStub.Chat.Scenario
import DialogStub.Chat.Session

/-!
# Bodies of the chat endpoints

The requests and answers under `/api/v1` that deal with sessions, messages and scenarios, each
with its shape in JSON. Times are milliseconds since the Unix epoch.
-/

namespace DialogStub

open Json

/-! ### Sessions -/

/-- What is said of a new session. -/
structure SessionCreated where
  sessionId : String
  status : String
  timestamp : Int
  deriving DecidableEq

/-- What is said of a new session, in JSON. -/
def SessionCreated.shape : Shape SessionCreated :=
  .record "SessionCreatedResponse" none
    (.cons (.plain "session_id") .text <|
      .cons (.explained "status" "Always `\"created\"`.") .text <|
      .cons (.plain "timestamp") .integer .nil)
    (fun (sessionId, status, timestamp, ()) => ⟨sessionId, status, timestamp⟩)
    (fun r => (r.sessionId, r.status, r.timestamp, ()))
    (fun _ => rfl)

/-- All sessions with their number. -/
structure SessionList where
  sessions : List Session
  total : Nat
  timestamp : Int
  deriving DecidableEq

/-- All sessions with their number, in JSON. -/
def SessionList.shape : Shape SessionList :=
  .record "SessionListResponse" none
    (.cons (.plain "sessions") (.list Session.shape) <|
      .cons (.plain "total") .count <|
      .cons (.plain "timestamp") .integer .nil)
    (fun (sessions, total, timestamp, ()) => ⟨sessions, total, timestamp⟩)
    (fun r => (r.sessions, r.total, r.timestamp, ()))
    (fun _ => rfl)

/-- A session in few words. -/
structure DialogSummary where
  sessionId : String
  status : SessionStatus
  messageCount : Nat
  lastMessage : String
  deriving DecidableEq

/-- A session in few words, in JSON. -/
def DialogSummary.shape : Shape DialogSummary :=
  .record "DialogSummary" (some "Condensed session view of the legacy dialogs page.")
    (.cons (.plain "session_id") .text <|
      .cons (.plain "status") SessionStatus.shape <|
      .cons (.plain "message_count") .word <|
      .cons (.plain "last_message") .text .nil)
    (fun (sessionId, status, messageCount, lastMessage, ()) =>
      ⟨sessionId, status, messageCount, lastMessage⟩)
    (fun r => (r.sessionId, r.status, r.messageCount, r.lastMessage, ()))
    (fun _ => rfl)

/-- The summary of a session. -/
def DialogSummary.ofSession (s : Session) : DialogSummary :=
  ⟨s.id, s.status, s.messageCount, s.lastMessage⟩

/-- All sessions in few words, with their number. -/
structure DialogList where
  dialogs : List DialogSummary
  total : Nat
  deriving DecidableEq

/-- All sessions in few words, with their number, in JSON. -/
def DialogList.shape : Shape DialogList :=
  .record "DialogsResponse" none
    (.cons (.plain "dialogs") (.list DialogSummary.shape) <|
      .cons (.plain "total") .count .nil)
    (fun (dialogs, total, ()) => ⟨dialogs, total⟩)
    (fun r => (r.dialogs, r.total, ()))
    (fun _ => rfl)

/-! ### Messages -/

/-- A message to be added. -/
structure AddMessage where
  sessionId : Option String
  content : Option String
  type : MessageType
  intent : Option String
  deriving DecidableEq

/-- A message to be added, in JSON. -/
def AddMessage.shape : Shape AddMessage :=
  .record "AddMessageRequest"
    (some ("Body of `POST /api/v1/chat/messages`. Presence of `session_id` and\n" ++
      "`content` is checked by the handler so a missing key yields the mock's\n" ++
      "own 400 body instead of a deserialization error."))
    (.cons (.plain "session_id") (.option .text) <|
      .cons (.plain "content") (.option .text) <|
      .cons (.defaulting "message_type" .user) MessageType.shape <|
      .cons (.plain "intent") (.option .text) .nil)
    (fun (sessionId, content, type, intent, ()) => ⟨sessionId, content, type, intent⟩)
    (fun r => (r.sessionId, r.content, r.type, r.intent, ()))
    (fun _ => rfl)

/-- What is said of a message that was added. -/
structure MessageSaved where
  sessionId : String
  messageSaved : Bool
  timestamp : Int
  deriving DecidableEq

/-- What is said of a message that was added, in JSON. -/
def MessageSaved.shape : Shape MessageSaved :=
  .record "MessageSavedResponse" none
    (.cons (.plain "session_id") .text <|
      .cons (.plain "message_saved") .flag <|
      .cons (.plain "timestamp") .integer .nil)
    (fun (sessionId, messageSaved, timestamp, ()) => ⟨sessionId, messageSaved, timestamp⟩)
    (fun r => (r.sessionId, r.messageSaved, r.timestamp, ()))
    (fun _ => rfl)

/-- The history of a session. -/
structure SessionMessages where
  sessionId : String
  messages : List Message
  total : Nat
  timestamp : Int
  deriving DecidableEq

/-- The history of a session, in JSON. -/
def SessionMessages.shape : Shape SessionMessages :=
  .record "SessionMessagesResponse" none
    (.cons (.plain "session_id") .text <|
      .cons (.plain "messages") (.list Message.shape) <|
      .cons (.plain "total") .count <|
      .cons (.plain "timestamp") .integer .nil)
    (fun (sessionId, messages, total, timestamp, ()) => ⟨sessionId, messages, total, timestamp⟩)
    (fun r => (r.sessionId, r.messages, r.total, r.timestamp, ()))
    (fun _ => rfl)

/-! ### Scenarios -/

/-- The scenario catalog with its size. -/
structure ScenarioList where
  scenarios : List Scenario
  count : Nat
  timestamp : Int
  deriving DecidableEq

/-- The scenario catalog with its size, in JSON. -/
def ScenarioList.shape : Shape ScenarioList :=
  .record "ScenarioListResponse" none
    (.cons (.plain "scenarios") (.list Scenario.shape) <|
      .cons (.plain "count") .count <|
      .cons (.plain "timestamp") .integer .nil)
    (fun (scenarios, count, timestamp, ()) => ⟨scenarios, count, timestamp⟩)
    (fun r => (r.scenarios, r.count, r.timestamp, ()))
    (fun _ => rfl)

end DialogStub
