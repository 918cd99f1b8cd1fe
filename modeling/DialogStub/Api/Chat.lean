import DialogStub.Api.ChatBodies
import DialogStub.Api.Server
import DialogStub.Api.ServiceBodies

/-!
# The endpoints of the chat service

Sessions, messages and scenarios under `/api/v1`, and the state of the service.

The state counts the sessions that go on before it counts all of them, in two steps.
-/

namespace DialogStub.Server

open Http

/-- What the chat service says of itself and its sessions, with something between its two counts. -/
def chatStatusAmid {α : Type} (server : Server) (between : Effect α) : Handler := do
  let active ← Effect.ofStore Store.active
  -- The store is free between the two counts, so that other requests may come in here.
  let _ ← between
  let total ← Effect.ofStore Store.total
  let time ← Effect.nowMillis server.supply
  let status := ServiceStatus.running server.fixtures.services.chat time
  Handler.reply ServiceStatus.shape
    { status with activeSessions := some active, totalSessions := some total }

/-- What the chat service says of itself and its sessions, with nothing between its two counts. -/
def chatStatus (server : Server) : Handler :=
  server.chatStatusAmid (pure ())

/-- Makes a session. -/
def createSession (server : Server) : Handler := do
  let session ← Effect.createSession server.supply
  Effect.report .info "chat session created" [("session_id", session.id)]
  let time ← Effect.nowMillis server.supply
  Handler.reply SessionCreated.shape ⟨session.id, "created", time⟩

/-- Lists all sessions. -/
def listSessions (server : Server) : Handler := do
  let sessions ← Effect.ofStore Store.sessions
  let time ← Effect.nowMillis server.supply
  Handler.reply SessionList.shape ⟨sessions, sessions.length, time⟩

/-- Shows one session. -/
def getSession (id : String) : Handler := do
  match ← Effect.ofStore (·.get? id) with
  | some session => Handler.reply Session.shape session
  | none => Handler.fail (.notFound "Session not found")

/-- Lists the messages of a session. -/
def listMessages (server : Server) (id : String) : Handler := do
  match ← Effect.ofStore (·.history id) with
  | .error fault => Handler.fail (.ofStore fault)
  | .ok messages =>
    let time ← Effect.nowMillis server.supply
    Handler.reply SessionMessages.shape ⟨id, messages, messages.length, time⟩

/-- Adds a message to a session. -/
def addMessage (server : Server) (request : Request) : Handler := do
  match Content.record AddMessage.shape request with
  | .error e => Handler.fail e
  | .ok body => match present body.sessionId, present body.content with
    | some id, some content =>
      match ← Effect.appendMessage server.supply id content body.type body.intent with
      | .error fault => Handler.fail (.ofStore fault)
      | .ok message =>
        Effect.report .info "message saved" [("session_id", id), ("message_id", message.id)]
        let time ← Effect.nowMillis server.supply
        Handler.reply MessageSaved.shape ⟨message.sessionId, true, time⟩
    | _, _ => Handler.fail (.missing "session_id or content")

/-- Lists all sessions in few words. -/
def listDialogs : Handler := do
  let sessions ← Effect.ofStore Store.sessions
  let dialogs := sessions.map DialogSummary.ofSession
  Handler.reply DialogList.shape ⟨dialogs, dialogs.length⟩

/-- Shows the scenario catalog. -/
def listScenarios (server : Server) : Handler := do
  let scenarios := server.fixtures.scenarios
  let time ← Effect.nowMillis server.supply
  Handler.reply ScenarioList.shape ⟨scenarios, scenarios.length, time⟩

end DialogStub.Server
