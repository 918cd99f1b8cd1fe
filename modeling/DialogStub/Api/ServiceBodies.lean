import DialogStub.Fixtures.Basic
import DialogStub.Nlu.Intent

/-!
# Bodies of the service endpoints

The requests and answers under `/api/v1` that deal with the state of the services, the analysis
of texts and the replies of the bot, each with its shape in JSON. Times are milliseconds since
the Unix epoch.
-/

namespace DialogStub

open Json

/-! ### State of a service -/

/-- What a service says of itself and of its sessions. -/
structure ServiceStatus where
  service : String
  status : String
  role : String
  version : Option String
  activeSessions : Option Nat
  totalSessions : Option Nat
  timestamp : Int
  deriving DecidableEq

/-- What a service says of itself and of its sessions, in JSON. -/
def ServiceStatus.shape : Shape ServiceStatus :=
  .record "ServiceStatusResponse" (some "Body of every `GET /api/v1/<service>/status`.")
    (.cons (.plain "service") .text <|
      .cons (.explained "status" "Always `\"running\"`.") .text <|
      .cons (.plain "role") .text <|
      .cons (.omitted "version") (.option .text) <|
      .cons (.omitted "active_sessions") (.option .count) <|
      .cons (.omitted "total_sessions") (.option .count) <|
      .cons (.plain "timestamp") .integer .nil)
    (fun (service, status, role, version, activeSessions, totalSessions, timestamp, ()) =>
      ⟨service, status, role, version, activeSessions, totalSessions, timestamp⟩)
    (fun r => (r.service, r.status, r.role, r.version, r.activeSessions, r.totalSessions,
      r.timestamp, ()))
    (fun _ => rfl)

/-- The state of a running service without sessions of its own. -/
def ServiceStatus.running (info : ServiceInfo) (timestamp : Int) : ServiceStatus :=
  ⟨info.service, "running", info.role, info.version, none, none, timestamp⟩

/-! ### Analysis and replies -/

/-- A text to be analyzed. -/
structure Analyze where
  text : Option String
  deriving DecidableEq

/-- A text to be analyzed, in JSON. -/
def Analyze.shape : Shape Analyze :=
  .record "AnalyzeRequest" none
    (.cons (.plain "text") (.option .text) .nil)
    (fun (text, ()) => ⟨text⟩)
    (fun r => (r.text, ()))
    (fun _ => rfl)

/-- What a text wants. -/
structure Analysis where
  intent : Intent
  confidence : Binary64
  entities : List Json
  suggestedScenario : String
  timestamp : Int

/-- What a text wants, in JSON. -/
def Analysis.shape : Shape Analysis :=
  .record "AnalyzeResponse" none
    (.cons (.plain "intent") Intent.shape <|
      .cons (.plain "confidence") .real <|
      .cons (.explained "entities" "Always empty; the stub extracts no entities.") (.list .any) <|
      .cons (.plain "suggested_scenario") .text <|
      .cons (.plain "timestamp") .integer .nil)
    (fun (intent, confidence, entities, suggestedScenario, timestamp, ()) =>
      ⟨intent, confidence, entities, suggestedScenario, timestamp⟩)
    (fun r => (r.intent, r.confidence, r.entities, r.suggestedScenario, r.timestamp, ()))
    (fun _ => rfl)

/-- A message to be answered. -/
structure BotQuestion where
  sessionId : Option String
  message : Option String
  deriving DecidableEq

/-- A message to be answered, in JSON. -/
def BotQuestion.shape : Shape BotQuestion :=
  .record "ProcessRequest" none
    (.cons (.plain "session_id") (.option .text) <|
      .cons (.plain "message") (.option .text) .nil)
    (fun (sessionId, message, ()) => ⟨sessionId, message⟩)
    (fun r => (r.sessionId, r.message, ()))
    (fun _ => rfl)

/-- The answer to a message. -/
structure BotAnswer where
  sessionId : String
  userMessage : String
  botResponse : String
  nodeType : String
  contextUpdated : Bool
  timestamp : Int
  deriving DecidableEq

/-- The answer to a message, in JSON. -/
def BotAnswer.shape : Shape BotAnswer :=
  .record "ProcessResponse" none
    (.cons (.plain "session_id") .text <|
      .cons (.plain "user_message") .text <|
      .cons (.plain "bot_response") .text <|
      .cons (.explained "type"
        "Node type of the reply; the mock always answers with `\"announce\"`.") .text <|
      .cons (.plain "context_updated") .flag <|
      .cons (.plain "timestamp") .integer .nil)
    (fun (sessionId, userMessage, botResponse, nodeType, contextUpdated, timestamp, ()) =>
      ⟨sessionId, userMessage, botResponse, nodeType, contextUpdated, timestamp⟩)
    (fun r => (r.sessionId, r.userMessage, r.botResponse, r.nodeType, r.contextUpdated,
      r.timestamp, ()))
    (fun _ => rfl)

end DialogStub
