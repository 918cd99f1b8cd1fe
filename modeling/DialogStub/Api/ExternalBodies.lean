import DialogStub.Json.Shape

/-!
# Bodies of the external endpoints

The requests and answers of `/api/data`, `/chat` and `/health`, each with its shape in JSON.
Times are seconds since the Unix epoch.
-/

namespace DialogStub

open Json

/-- What was posted, sent back. -/
structure DataReceived where
  message : String
  receivedData : Json
  processed : Bool
  id : String
  status : String

/-- What was posted, sent back, in JSON. -/
def DataReceived.shape : Shape DataReceived :=
  .record "DataReceivedResponse" none
    (.cons (.plain "message") .text <|
      .cons (.plain "received_data") .any <|
      .cons (.plain "processed") .flag <|
      .cons (.plain "id") .text <|
      .cons (.plain "status") .text .nil)
    (fun (message, receivedData, processed, id, status, ()) =>
      ⟨message, receivedData, processed, id, status⟩)
    (fun r => (r.message, r.receivedData, r.processed, r.id, r.status, ()))
    (fun _ => rfl)

/-- A conversation with the platform has begun. -/
structure ChatStarted where
  status : String
  sessionId : Option String
  initialMessage : Option String
  instructions : String
  deriving DecidableEq

/-- A conversation with the platform has begun, in JSON. -/
def ChatStarted.shape : Shape ChatStarted :=
  .record "ChatStartResponse" none
    (.cons (.explained "status" "Always `\"chat_started\"`.") .text <|
      .cons (.plain "session_id") (.option .text) <|
      .cons (.plain "initial_message") (.option .text) <|
      .cons (.plain "instructions") .text .nil)
    (fun (status, sessionId, initialMessage, instructions, ()) =>
      ⟨status, sessionId, initialMessage, instructions⟩)
    (fun r => (r.status, r.sessionId, r.initialMessage, r.instructions, ()))
    (fun _ => rfl)

/-- A message for the platform. -/
structure ChatMessage where
  sessionId : Option String
  message : Option String
  deriving DecidableEq

/-- A message for the platform, in JSON. -/
def ChatMessage.shape : Shape ChatMessage :=
  .record "ChatMessageRequest" none
    (.cons (.plain "session_id") (.option .text) <|
      .cons (.plain "message") (.option .text) .nil)
    (fun (sessionId, message, ()) => ⟨sessionId, message⟩)
    (fun r => (r.sessionId, r.message, ()))
    (fun _ => rfl)

/-- The answer of the platform to a message. -/
structure ChatAnswer where
  status : String
  userMessage : String
  botResponse : Option String
  sessionActive : Bool
  deriving DecidableEq

/-- The answer of the platform to a message, in JSON. -/
def ChatAnswer.shape : Shape ChatAnswer :=
  .record "ChatMessageResponse" none
    (.cons (.explained "status" "Always `\"message_sent\"`.") .text <|
      .cons (.plain "user_message") .text <|
      .cons (.plain "bot_response") (.option .text) <|
      .cons (.plain "session_active") .flag .nil)
    (fun (status, userMessage, botResponse, sessionActive, ()) =>
      ⟨status, userMessage, botResponse, sessionActive⟩)
    (fun r => (r.status, r.userMessage, r.botResponse, r.sessionActive, ()))
    (fun _ => rfl)

/-- One exchange of the demo. -/
structure DemoTurn where
  user : String
  bot : Option String
  timestamp : Int
  deriving DecidableEq

/-- One exchange of the demo, in JSON. -/
def DemoTurn.shape : Shape DemoTurn :=
  .record "DemoTurn" (some "One scripted exchange of `/chat/demo`.")
    (.cons (.plain "user") .text <|
      .cons (.plain "bot") (.option .text) <|
      .cons (.explained "timestamp" "Seconds since the Unix epoch.") .integer .nil)
    (fun (user, bot, timestamp, ()) => ⟨user, bot, timestamp⟩)
    (fun r => (r.user, r.bot, r.timestamp, ()))
    (fun _ => rfl)

/-- The conversation of the demo. -/
structure DemoResult where
  status : String
  sessionId : Option String
  conversation : List DemoTurn
  totalMessages : Nat
  deriving DecidableEq

/-- The conversation of the demo, in JSON. -/
def DemoResult.shape : Shape DemoResult :=
  .record "DemoResponse" none
    (.cons (.explained "status" "Always `\"demo_completed\"`.") .text <|
      .cons (.plain "session_id") (.option .text) <|
      .cons (.plain "conversation") (.list DemoTurn.shape) <|
      .cons (.plain "total_messages") .count .nil)
    (fun (status, sessionId, conversation, totalMessages, ()) =>
      ⟨status, sessionId, conversation, totalMessages⟩)
    (fun r => (r.status, r.sessionId, r.conversation, r.totalMessages, ()))
    (fun _ => rfl)

/-- Whether the server and its platform are up. -/
structure Health where
  status : String
  service : String
  chatbotAvailable : Bool
  deriving DecidableEq

/-- Whether the server and its platform are up, in JSON. -/
def Health.shape : Shape Health :=
  .record "HealthResponse" none
    (.cons (.explained "status" "Always `\"UP\"`.") .text <|
      .cons (.plain "service") .text <|
      .cons (.explained "chatbot_available"
        "Result of a single-shot probe of the platform's `/health`.") .flag .nil)
    (fun (status, service, chatbotAvailable, ()) => ⟨status, service, chatbotAvailable⟩)
    (fun r => (r.status, r.service, r.chatbotAvailable, ()))
    (fun _ => rfl)

end DialogStub
