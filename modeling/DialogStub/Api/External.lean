import DialogStub.Api.ExternalBodies
import DialogStub.Api.Server

/-!
# The external endpoints

Fixed payloads under `/api`, conversations with the platform under `/chat`, and the health of the
server.

The demo sends its messages one after the other. A message that the platform refuses is left out
of the conversation; a call that brings no answer ends the demo.
-/

namespace DialogStub.Server

open Http Json

/-! ### Payloads -/

/-- Shows the stamped payload, which has to be an object. -/
def getData (server : Server) : Handler := do
  match server.fixtures.external.data with
  | .obj members =>
    let time ← Effect.nowSeconds server.supply
    return .ok (.obj (insert "timestamp" (.int time) members))
  | _ =>
    let message := "external data fixture is not a JSON object"
    Effect.report .error "converting anyhow error to ServerError::Internal" [("error", message)]
    Handler.fail (.ofChain message [])

/-- What is sent back for a body: the value it spells, or an empty object if that is nothing. -/
def receivedData (body : Bytes) : Json :=
  match Json.ofBytes body with
  | .ok .null => .obj []
  | .ok value => value
  | .error _ => .obj []

/-- Sends back what was posted. -/
def postData (server : Server) (body : Bytes) : Handler := do
  let time ← Effect.nowSeconds server.supply
  Handler.reply DataReceived.shape
    ⟨"Data received successfully", receivedData body, true, "req_" ++ toString time, "ok"⟩

/-! ### Health -/

/-- Tells whether the server and its platform are up. -/
def getHealth (server : Server) : Handler := do
  let available ← server.client.isAvailable
  Handler.reply Health.shape ⟨"UP", server.config.serviceName, available⟩

/-! ### Conversations -/

/-- Reports the failure of a call, and gives the error for it. -/
def callFailed (what : String) (e : PlatformError) : Effect ApiError := do
  Effect.report .error what [("error", e.message)]
  return .platform (what ++ ": " ++ e.message)

/-- What is said when no session can be opened. -/
def noSession : String := "Failed to create chat session"

/-- What is said when a message cannot be sent. -/
def notSent : String := "Failed to send message"

/-- What to do in a conversation. -/
def instructions : String := "Используйте POST /chat/message для отправки сообщений"

/-- Opens a conversation. -/
def chatStart (server : Server) : Handler := do
  match ← server.client.createSession with
  | .error e => return .error (← callFailed noSession e)
  | .ok started =>
    Effect.report .info "platform session started"
      [("session_id", started.sessionId.getD "-"),
        ("initial_message", started.initialMessage.getD "-")]
    Handler.reply ChatStarted.shape
      ⟨"chat_started", started.sessionId, started.initialMessage, instructions⟩

/-- Passes a message on and gives back the answer. -/
def chatMessage (server : Server) (request : Request) : Handler := do
  match Content.record ChatMessage.shape request with
  | .error e => Handler.fail e
  | .ok body => match present body.sessionId, present body.message with
    | some id, some message =>
      match ← server.client.sendMessage id message with
      | .error e => return .error (← callFailed notSent e)
      | .ok turn =>
        Effect.report .info "message relayed"
          [("session_id", id), ("user", message), ("bot", turn.botResponse.getD "-")]
        Handler.reply ChatAnswer.shape
          ⟨"message_sent", message, turn.botResponse, turn.sessionActive.getD true⟩
    | _, _ => Handler.fail (.missing "session_id or message")

/-! ### The demo -/

/-- Goes on behind an announcement, with whatever result. -/
def skipAnnouncement (server : Server) (id : String) : Effect Unit := do
  match ← server.client.continueSession id with
  | .ok turn => Effect.report .info "announce skipped" [("bot", turn.botResponse.getD "")]
  | .error e => Effect.report .warn "continue after announce failed" [("error", e.message)]

/-- Sends the messages of the demo, one after the other. -/
def demoTurns (server : Server) (id : String) :
    List String → Effect (Except ApiError (List DemoTurn))
  | [] => return .ok []
  | message :: rest => do
    match ← server.client.sendMessage id message with
    | .ok turn =>
      let time ← Effect.nowSeconds server.supply
      match ← demoTurns server id rest with
      | .ok turns => return .ok (⟨message, turn.botResponse, time⟩ :: turns)
      | .error e => return .error e
    -- The platform answered, only with another status: the message is left out.
    | .error (.status url code) =>
      Effect.report .warn "demo message rejected"
        [("error", (PlatformError.status url code).message), ("message", message)]
      demoTurns server id rest
    | .error e => return .error (← callFailed notSent e)

/-- Plays the demo in a session of the platform. -/
def playDemo (server : Server) (id : String) (nodeType : Option String) : Handler := do
  Effect.report .info "demo conversation started" [("session_id", id)]
  if nodeType = some "announce" then skipAnnouncement server id
  match ← demoTurns server id server.fixtures.demo.messages with
  | .error e => Handler.fail e
  | .ok turns =>
    Effect.report .info "demo conversation completed"
      [("session_id", id), ("turns", toString turns.length)]
    Handler.reply DemoResult.shape ⟨"demo_completed", some id, turns, turns.length⟩

/-- Opens a session of the platform and plays the demo in it. -/
def chatDemo (server : Server) : Handler := do
  match ← server.client.createSession with
  | .error e => return .error (← callFailed noSession e)
  | .ok started => match present started.sessionId with
    | some id => playDemo server id started.nodeType
    | none =>
      Effect.report .error "platform created a session without a session_id" []
      Handler.fail (.platform (noSession ++ ": no session_id in platform response"))

end DialogStub.Server
