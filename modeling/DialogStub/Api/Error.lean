import DialogStub.Chat.Store
import DialogStub.Http.Message
import DialogStub.World

/-!
# Errors of the API

* `ApiError` — why a request is not answered as it asks;
* `ApiError.display`, `ApiError.status` — its wording and its status code;
* `ApiError.answer` — the response for it: a JSON object with the one member `error`;
* `ApiError.ofStore`, `ApiError.ofChain` — the error for a store error and for a failure with
  its contexts.

What is wrong inside the server goes to the log and not to the client.
-/

namespace DialogStub

/-- Why a request is not answered as it asks. -/
inductive ApiError where
  | badRequest (message : String)
  | notFound (message : String)
  | platform (message : String)
  | internal (message : String)
  deriving DecidableEq, Repr

namespace ApiError

/-- The error for fields that are missing. -/
def missing (fields : String) : ApiError :=
  .badRequest ("Missing " ++ fields)

/-- The wording of an error. -/
def display : ApiError → String
  | .badRequest m => "bad request: " ++ m
  | .notFound m => "not found: " ++ m
  | .platform m => "upstream unavailable: " ++ m
  | .internal m => "internal error: " ++ m

/-- The status code of an error. -/
def status : ApiError → Nat
  | .badRequest _ => 400
  | .notFound _ => 404
  | .platform _ => 500
  | .internal _ => 500

/-- What the client is told. -/
def clientMessage : ApiError → String
  | .badRequest m => m
  | .notFound m => m
  | .platform m => m
  | .internal _ => "internal server error"

/-- The body for a message. -/
def body (message : String) : Json :=
  .obj [("error", .str message)]

/-- The response for an error. -/
def response (e : ApiError) : Http.Response :=
  .json e.status (body e.clientMessage)

/-- Reports what the client is not told, and gives the response. -/
def answer (e : ApiError) : Effect Http.Response := do
  match e with
  | .internal m => Effect.report .error "internal server error" [("message", m)]
  | _ => pure ()
  return e.response

/-- The error for a store error. -/
def ofStore : StoreError → ApiError
  | .sessionNotFound _ => .notFound "Session not found"

/-- The error for a failure with its contexts, the innermost first. -/
def ofChain (message : String) (contexts : List String) : ApiError :=
  .internal (": ".intercalate (contexts.reverse ++ [message]))

end ApiError

end DialogStub
