import DialogStub.Http.Message
import DialogStub.Text.Blank
import DialogStub.Text.Search
import DialogStub.World

/-!
# Traces of requests

* `Trace.idOf?` — the trace id that a request brings with it;
* `Trace.plan` — what the log says of a body: all of it, that it is skipped, or nothing;
* `Trace.around` — a service whose requests and answers carry a trace id and are reported.

Only JSON bodies of known size below `Trace.maxLogged` are read and reported; all others pass
through as they are.
-/

namespace DialogStub.Http.Trace

/-- The header field of the trace id. -/
def header : String := "x-trace-id"

/-- The size from which on a body is not reported. -/
def maxLogged : Nat := 1024

/-- The trace id that a request brings with it: visible, and not blank. -/
def idOf? (headers : Headers) : Option String :=
  ((headers.text? header).map Text.trimText).filter (· ≠ "")

/-- A trace id as the value of a header field, if it may be one. -/
def valueOf? (id : String) : Option Bytes :=
  if Header.isValue (Utf8.bytes id) then some (Utf8.bytes id) else none

/-- Header fields with the trace id among them. -/
def mark (value : Option Bytes) (headers : Headers) : Headers :=
  match value with
  | some value => headers.set header value
  | none => headers

/-! ### Bodies -/

/-- The media type that header fields declare, as far as it can be read. -/
def contentType (headers : Headers) : String :=
  (headers.text? "content-type").getD ""

/-- What the log says of a body. -/
inductive Plan where
  /-- Nothing: there is no body. -/
  | silent
  /-- That it is skipped. -/
  | skip (type : String) (size : Option Nat)
  /-- All of it. -/
  | whole
  deriving DecidableEq, Repr

/-- What the log says of a body with the given media type and announced size. -/
def plan (type : String) (size : Option Nat) : Plan :=
  match size with
  | none => .skip type none
  | some 0 => .silent
  | some (n + 1) =>
    if Text.contains "application/json".toList type.toList ∧ n + 1 < maxLogged then .whole
    else .skip type (some (n + 1))

/-- The line about a skipped body. -/
def skipLine (direction type : String) (size : Option Nat) : String :=
  direction ++ " body: [skipped: type=" ++ type ++ ", size=" ++
    (match size with
      | some n => toString n
      | none => "unknown") ++ "]"

/-- Reports a body, and hands on an equal one. -/
def logBody (direction : String) (headers : Headers) (body : Body) :
    Effect (Except BodyFault Body) := do
  match plan (contentType headers) body.size with
  | .silent => return .ok body
  | .skip type size =>
    Effect.report .info (skipLine direction type size) []
    return .ok body
  | .whole => match body.collect maxLogged with
    | .error fault => return .error fault
    | .ok bytes =>
      match Utf8.text? bytes with
      | some text => Effect.report .info (direction ++ " body: " ++ text) []
      -- A body that is no text goes by without a line.
      | none => pure ()
      -- What was read piece by piece is handed on in one piece.
      return .ok (.full bytes)

/-! ### The service -/

/-- The answer to a request whose body cannot be read. -/
def unreadableRequest : Response :=
  .json 400 (.obj [("error", .str "Failed to read request body")])

/-- The answer in place of one whose body cannot be read. -/
def unreadableResponse (fault : BodyFault) : Effect Response := do
  Effect.report .error "internal server error"
    [("message", "failed to read response body: " ++ fault.message)]
  return .json 500 (.obj [("error", .str "internal server error")])

/-- Hands a request on with its trace id, and reports both bodies. -/
def exchange (value : Option Bytes) (inner : Request → Effect Response) (request : Request) :
    Effect Response := do
  match ← logBody "request" request.headers request.body with
  | .error fault =>
    Effect.report .warn "failed to read request body" [("error", fault.message)]
    return unreadableRequest
  | .ok body =>
    let response ← inner { request with headers := mark value request.headers, body := body }
    match ← logBody "response" response.headers response.body with
    | .ok body => return { response with body := body }
    | .error fault => unreadableResponse fault

/-- Gives a request its trace id, reports the exchange, and marks the answer with the id. -/
def around (supply : Supply) (inner : Request → Effect Response) (request : Request) :
    Effect Response := do
  let id ← match idOf? request.headers with
    | some id => pure id
    | none => Effect.newId supply
  Effect.report .info "→ request started" []
  let response ← exchange (valueOf? id) inner request
  -- The id of the request, whether it was brought along or drawn.
  let response := { response with headers := mark (valueOf? id) response.headers }
  Effect.report .info "← response finished" [("status", toString response.status)]
  return response

end DialogStub.Http.Trace
