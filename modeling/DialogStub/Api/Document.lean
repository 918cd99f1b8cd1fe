import DialogStub.Api.ChatBodies
import DialogStub.Api.ExternalBodies
import DialogStub.Api.Schema
import DialogStub.Api.ServiceBodies
import DialogStub.Http.Message

/-!
# The description of the API

* `Document.Operation` — one operation: where it is, what it takes, what it gives;
* `Document.operations` — all of them;
* `Document.value` — the description as one JSON value;
* `Document.redirect`, `Document.page` — the answers of the pages that show it.

The schemas in the description come from the shapes by which bodies are read and written.
-/

namespace DialogStub.Document

open Json

/-! ### Operations -/

/-- A body as the description shows it. -/
structure Content where
  schema : Json
  definitions : List (String × Json)

/-- A body of a shape. -/
def Content.ofShape {α : Type} (shape : Shape α) : Content :=
  ⟨shape.schema false none, shape.definitions⟩

/-- A body that may be any value. -/
def Content.anything : Content := ⟨.obj [], []⟩

/-- The description of a body. -/
def Content.value (c : Content) : Json :=
  .obj [("application/json", .obj [("schema", c.schema)])]

/-- An operation of the API. -/
structure Operation where
  path : String
  method : String
  tag : String
  name : String
  summary : Option String := none
  details : Option String := none
  hasSessionId : Bool := false
  request : Option Content := none
  responses : List (Nat × String × Option Content)

/-- The session id in a path. -/
def sessionIdParameter : Json :=
  .obj [("name", .str "id"), ("in", .str "path"), ("description", .str "Session ID"),
    ("required", .bool true), ("schema", .obj [("type", .str "string")])]

/-- A member that is there if its value is. -/
def optional {α : Type} (key : String) (value : Option α) (f : α → Json) : List (String × Json) :=
  match value with
  | some a => [(key, f a)]
  | none => []

/-- The description of a response. -/
def responseValue (text : String) (content : Option Content) : Json :=
  .obj (("description", .str text) :: optional "content" content Content.value)

/-- The description of an operation. -/
def Operation.value (o : Operation) : Json :=
  .obj (("tags", .arr [.str o.tag]) :: optional "summary" o.summary .str ++
    docMember o.details ++ [("operationId", .str o.name)] ++
    (if o.hasSessionId then [("parameters", .arr [sessionIdParameter])] else []) ++
    optional "requestBody" o.request
      (fun c => .obj [("content", c.value), ("required", .bool true)]) ++
    [("responses", .obj (o.responses.map fun (code, text, content) =>
      (toString code, responseValue text content)))])

/-- The schemas that an operation uses by name. -/
def Operation.definitions (o : Operation) : List (String × Json) :=
  (o.request.toList ++ o.responses.filterMap (·.2.2)).flatMap Content.definitions

/-! ### All operations -/

/-- Operations on sessions, messages and scenarios. -/
def chatOperations : List Operation :=
  [ { path := "/api/v1/chat/messages"
      method := "post"
      tag := "chat"
      name := "add_message"
      request := some (.ofShape AddMessage.shape)
      responses := [
        (200, "Message recorded", some (.ofShape MessageSaved.shape)),
        (400, "Missing session_id or content", none),
        (404, "Session not found", none)] },
    { path := "/api/v1/chat/sessions"
      method := "get"
      tag := "chat"
      name := "list_sessions"
      responses := [(200, "All sessions in insertion order", some (.ofShape SessionList.shape))] },
    { path := "/api/v1/chat/sessions"
      method := "post"
      tag := "chat"
      name := "create_session"
      responses := [(200, "Session created", some (.ofShape SessionCreated.shape))] },
    { path := "/api/v1/chat/sessions/\x7bid\x7d"
      method := "get"
      tag := "chat"
      name := "get_session"
      hasSessionId := true
      responses := [
        (200, "Session found", some (.ofShape Session.shape)),
        (404, "Session not found", none)] },
    { path := "/api/v1/chat/sessions/\x7bid\x7d/messages"
      method := "get"
      tag := "chat"
      name := "list_session_messages"
      hasSessionId := true
      responses := [
        (200, "Messages recorded in this process", some (.ofShape SessionMessages.shape)),
        (404, "Session not found", none)] },
    { path := "/api/v1/chat/status"
      method := "get"
      tag := "chat"
      name := "chat_status"
      responses := [
        (200, "Chat service metadata and session counts", some (.ofShape ServiceStatus.shape))] },
    { path := "/api/v1/dialogs"
      method := "get"
      tag := "chat"
      name := "list_dialogs"
      responses := [(200, "Condensed session list", some (.ofShape DialogList.shape))] },
    { path := "/api/v1/scenarios"
      method := "get"
      tag := "scenarios"
      name := "list_scenarios"
      summary := some "The static scenario catalog, served verbatim."
      responses := [(200, "Scenario catalog", some (.ofShape ScenarioList.shape))] } ]

/-- Operations of the other services. -/
def serviceOperations : List Operation :=
  [ { path := "/api/v1/nlu/analyze"
      method := "post"
      tag := "nlu"
      name := "analyze_text"
      summary := some "Keyword intent detection. `entities` is always empty."
      request := some (.ofShape Analyze.shape)
      responses := [
        (200, "Detected intent", some (.ofShape Analysis.shape)),
        (400, "Missing text", none)] },
    { path := "/api/v1/nlu/status"
      method := "get"
      tag := "nlu"
      name := "nlu_status"
      responses := [(200, "NLU service metadata", some (.ofShape ServiceStatus.shape))] },
    { path := "/api/v1/orchestrator/process"
      method := "post"
      tag := "orchestrator"
      name := "process_message"
      summary := some "Answers a user message with one of the canned bot replies."
      details := some "The session store is not consulted; any `session_id` is echoed back."
      request := some (.ofShape BotQuestion.shape)
      responses := [
        (200, "Bot reply", some (.ofShape BotAnswer.shape)),
        (400, "Missing session_id or message", none)] },
    { path := "/api/v1/orchestrator/status"
      method := "get"
      tag := "orchestrator"
      name := "orchestrator_status"
      responses := [(200, "Orchestrator metadata", some (.ofShape ServiceStatus.shape))] } ]

/-- Operations of the external endpoints. -/
def externalOperations : List Operation :=
  [ { path := "/api/complex-data"
      method := "get"
      tag := "external"
      name := "get_complex_data"
      responses := [(200, "Nested analytics fixture", some .anything)] },
    { path := "/api/data"
      method := "get"
      tag := "external"
      name := "get_data"
      responses := [(200, "Data fixture stamped with the current time", some .anything)] },
    { path := "/api/data"
      method := "post"
      tag := "external"
      name := "post_data"
      summary := some ("Echoes the posted JSON back. A missing or unparsable body " ++
        "is echoed as `\x7b\x7d`.")
      request := some .anything
      responses := [(200, "Body received", some (.ofShape DataReceived.shape))] },
    { path := "/api/info"
      method := "get"
      tag := "external"
      name := "get_info"
      responses := [(200, "Service information fixture", some .anything)] },
    { path := "/api/users"
      method := "get"
      tag := "external"
      name := "get_users"
      responses := [(200, "User list fixture", some .anything)] } ]

/-- Operations that talk to the platform. -/
def driverOperations : List Operation :=
  [ { path := "/chat/demo"
      method := "post"
      tag := "chat-driver"
      name := "chat_demo"
      summary := some "Runs the scripted demo conversation against the platform."
      details := some ("An announce node at the start is skipped with a `continue` call. Turns\n" ++
        "the platform rejects with a non-200 status are left out of the result;\n" ++
        "a transport failure aborts the demo.")
      responses := [
        (200, "Demo finished", some (.ofShape DemoResult.shape)),
        (500, "Platform unavailable", none)] },
    { path := "/chat/message"
      method := "post"
      tag := "chat-driver"
      name := "chat_message"
      summary := some "Forwards one user message to the platform and relays the bot's answer."
      request := some (.ofShape ChatMessage.shape)
      responses := [
        (200, "Message relayed", some (.ofShape ChatAnswer.shape)),
        (400, "Missing session_id or message", none),
        (500, "Platform unavailable", none)] },
    { path := "/chat/start"
      method := "post"
      tag := "chat-driver"
      name := "chat_start"
      summary := some "Opens a session on the platform."
      responses := [
        (200, "Platform session opened", some (.ofShape ChatStarted.shape)),
        (500, "Platform unavailable", none)] },
    { path := "/health"
      method := "get"
      tag := "health"
      name := "get_health"
      summary := some
        ("Always `\"UP\"`. `chatbot_available` reflects one `GET \x7bplatform\x7d/health`\n" ++
          "bounded by the probe timeout.")
      responses := [(200, "Server is up", some (.ofShape Health.shape))] } ]

/-- All operations. -/
def operations : List Operation :=
  chatOperations ++ serviceOperations ++ externalOperations ++ driverOperations

/-! ### The description -/

/-- What the description says of itself. -/
def info : Json :=
  .obj [("title", .str "chatbot-mock-server"),
    ("description", .str ("Mock ChatBot Platform API: chat sessions, scenarios, NLU stub, " ++
      "orchestrator and external test endpoints")),
    ("license", .obj [("name", .str "AGPL-3.0-only"), ("identifier", .str "AGPL-3.0-only")]),
    ("version", .str "0.1.0")]

/-- The operations of a path, by their methods. -/
def pathValue (path : String) : Json :=
  object ((operations.filter (·.path = path)).map fun o => (o.method, o.value))

/-- All paths with their operations. -/
def paths : Json :=
  object (operations.map fun o => (o.path, pathValue o.path))

/-- All schemas by name. -/
def schemas : Json :=
  object (operations.flatMap Operation.definitions)

/-- The description of the API. -/
def value : Json :=
  .obj [("openapi", .str "3.1.0"), ("info", info), ("paths", paths),
    ("components", .obj [("schemas", schemas)])]

/-! ### Pages -/

/-- The way to the first page. -/
def redirect : Http.Response :=
  (Http.Response.bare 303).setHeader "location" (Utf8.bytes "/swagger-ui/")

/-- The media types of the files of the pages. -/
def fileTypes : List (String × String) :=
  [("", "text/html"), ("index.html", "text/html"), ("oauth2-redirect.html", "text/html"),
    ("index.css", "text/css"), ("swagger-ui.css", "text/css"),
    ("swagger-initializer.js", "text/javascript"), ("swagger-ui.js", "text/javascript"),
    ("swagger-ui-bundle.js", "text/javascript"),
    ("swagger-ui-standalone-preset.js", "text/javascript"),
    ("favicon-16x16.png", "image/png"), ("favicon-32x32.png", "image/png")]

/-- The answer for a file of the pages. The files themselves lie elsewhere, so no bytes come. The
    name is looked up as it stands in the path, with no escapes resolved: `index%2Ehtml` is the name
    of no file, and neither is `%ff`, where a page would tell the two apart. -/
def page (file : String) : Http.Response :=
  match fileTypes.lookup file with
  | some type => .withBody 200 type []
  | none => .bare 404

end DialogStub.Document
