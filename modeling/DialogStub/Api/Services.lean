import DialogStub.Api.Server
import DialogStub.Api.ServiceBodies

/-!
# The endpoints of the other services

The analysis of texts and the replies of the bot under `/api/v1`. No session is looked up: any
session id is sent back.
-/

namespace DialogStub.Server

open Http

/-- What the analysis says of itself. -/
def nluStatus (server : Server) : Handler := do
  let time ← Effect.nowMillis server.supply
  Handler.reply ServiceStatus.shape (.running server.fixtures.services.nlu time)

/-- Tells what a text wants. -/
def analyzeText (server : Server) (request : Request) : Handler := do
  match Content.record Analyze.shape request with
  | .error e => Handler.fail e
  | .ok body => match body.text with
    | none => Handler.fail (.missing "text")
    | some text =>
      let result := classify text
      Effect.report .debug "text analyzed"
        [("intent", result.intent.name), ("confidence", String.ofList result.confidence.text)]
      let time ← Effect.nowMillis server.supply
      Handler.reply Analysis.shape
        ⟨result.intent, result.confidence, [], result.intent.suggestedScenario, time⟩

/-- What the orchestrator says of itself. -/
def orchestratorStatus (server : Server) : Handler := do
  let time ← Effect.nowMillis server.supply
  Handler.reply ServiceStatus.shape (.running server.fixtures.services.orchestrator time)

/-- Answers a message with one of the fixed replies. -/
def processMessage (server : Server) (request : Request) : Handler := do
  match Content.record BotQuestion.shape request with
  | .error e => Handler.fail e
  | .ok body => match present body.sessionId, present body.message with
    | some id, some message =>
      let reply := botReply message server.fixtures.replies
      Effect.report .debug "orchestrator reply selected"
        [("session_id", id), ("bot_response", reply)]
      let time ← Effect.nowMillis server.supply
      Handler.reply BotAnswer.shape ⟨id, message, reply, "announce", true, time⟩
    | _, _ => Handler.fail (.missing "session_id or message")

end DialogStub.Server
