import DialogStub.Api.Chat
import DialogStub.Api.Document
import DialogStub.Api.External
import DialogStub.Api.Route
import DialogStub.Api.Services
import DialogStub.Http.Trace

/-!
# The service

* `Server.dispatch` — what a route does for a request;
* `Server.route` — the answer of the routes to any request;
* `Server.handle` — the answer of the server: the routes inside the answers to other origins,
  inside the trace, with the last touches of the connection around them.
-/

namespace DialogStub.Server

open Http

/-- Goes on with the session id of a path. -/
def withSessionId (segment : List Char) (next : String → Handler) : Effect Response :=
  match Content.sessionId segment with
  | .ok id => (next id).respond
  | .error response => return response

/-- Goes on with the bytes of a body. -/
def withBody (request : Request) (next : Bytes → Handler) : Effect Response :=
  match Content.raw request with
  | .ok body => (next body).respond
  | .error response => return response

/-- What a route does for a request. -/
def dispatch (server : Server) (route : Route) (action : Action) (request : Request) :
    Effect Response :=
  match route, action with
  | .health, _ => server.getHealth.respond
  | .data, .read => server.getData.respond
  | .data, .write => withBody request server.postData
  | .info, _ => return .json 200 server.fixtures.external.info
  | .users, _ => return .json 200 server.fixtures.external.users
  | .complexData, _ => return .json 200 server.fixtures.external.complexData
  | .chatStart, _ => server.chatStart.respond
  | .chatMessage, _ => (server.chatMessage request).respond
  | .chatDemo, _ => server.chatDemo.respond
  | .chatStatus, _ => server.chatStatus.respond
  | .sessions, .read => server.listSessions.respond
  | .sessions, .write => server.createSession.respond
  | .session segment, _ => withSessionId segment getSession
  | .sessionMessages segment, _ => withSessionId segment server.listMessages
  | .messages, _ => (server.addMessage request).respond
  | .dialogs, _ => listDialogs.respond
  | .scenarios, _ => server.listScenarios.respond
  | .nluStatus, _ => server.nluStatus.respond
  | .nluAnalyze, _ => (server.analyzeText request).respond
  | .orchestratorStatus, _ => server.orchestratorStatus.respond
  | .orchestratorProcess, _ => (server.processMessage request).respond
  | .document, _ => return .json 200 Document.value
  | .pages, _ => return Document.redirect
  | .page file, _ => return Document.page file

/-- The route of a request. -/
def routeOf (server : Server) (request : Request) : Option Route :=
  Route.ofPath server.config.enableSwagger request.target.path

/-- The answer of the routes to a request. -/
def route (server : Server) (request : Request) : Effect Response :=
  match server.routeOf request with
  | none => (ApiError.notFound "Not found").answer
  | some route => match route.action? request.method with
    | some action => server.dispatch route action request
    | none => return .bare 405

/-- The last touches: the methods of the route for a method that it does not answer, and no body
    for `HEAD`. -/
def finish (server : Server) (request : Request) (response : Response) : Response :=
  let response := match server.routeOf request with
    | some route =>
      if (route.action? request.method).isNone then response.setHeader "allow" route.allow
      else response
    | none => response
  if request.method = .head then response.withoutBody else response

/-- The answer of the server to a request. -/
def handle (server : Server) (request : Request) : Effect Response := do
  let response ←
    Trace.around server.supply (Cors.around server.policy server.route) request
  return server.finish request response

end DialogStub.Server
