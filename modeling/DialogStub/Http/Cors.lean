import DialogStub.Http.Message
import DialogStub.Text.Blank
import DialogStub.World

/-!
# Requests from other origins

* `Cors.Policy` — the origins that may ask: any, or those of a list;
* `Cors.Policy.ofSetting?` — the policy of a setting;
* `Cors.around` — a service that answers `OPTIONS` itself and marks all other answers.
-/

namespace DialogStub.Http.Cors

/-- The origins that may ask. -/
inductive Policy where
  | any
  | list (origins : List Bytes)
  deriving DecidableEq, Repr

/-- The parts of a text between commas. -/
def pieces : List Char → List (List Char)
  | [] => [[]]
  | c :: cs => match pieces cs with
    | [] => [[c]]
    | piece :: rest => if c = ',' then [] :: piece :: rest else (c :: piece) :: rest

/-- The origins of a setting: the pieces between commas without white space around them, if
    something is left that may stand in a header field. -/
def origins (setting : String) : List Bytes :=
  (((pieces setting.toList).map Text.trim).filter (· ≠ [])).map Utf8.encode
    |>.filter Header.isValue

/-- The mark for any origin. -/
def wildcard : Bytes := Utf8.bytes "*"

/-- The complaint about a list with the mark for any origin in it. -/
def wildcardMessage : String :=
  "Wildcard origin (`*`) cannot be passed to `AllowOrigin::list`. Use `AllowOrigin::any()` instead"

/-- The policy of a setting; a list may not hold the mark for any origin. -/
def Policy.ofSetting? : Option String → Except String Policy
  | none => .ok .any
  | some setting =>
    -- With no origin left that can be used, any may ask, as without a setting.
    if origins setting = [] then .ok .any
    else if (origins setting).contains wildcard then .error wildcardMessage
    else .ok (.list (origins setting))

/-- The origin that an answer to a request allows. -/
def Policy.allowed (policy : Policy) (request : Request) : Option Bytes :=
  match policy with
  | .any => some wildcard
  | .list origins => match request.headers.get? "origin" with
    | some origin => if origins.contains origin then some origin else none
    | none => none

/-- The header fields on which answers depend. -/
def vary : Bytes :=
  Utf8.bytes "origin, access-control-request-method, access-control-request-headers"

/-- Marks an answer to a request. -/
def Policy.mark (policy : Policy) (request : Request) (response : Response) : Response :=
  let response := match policy.allowed request with
    | some origin => response.setHeader "access-control-allow-origin" origin
    | none => response
  -- The answer depends on the origin also where it allows none.
  response.setHeader "vary" vary

/-- The answer to `OPTIONS`. -/
def Policy.preflight (policy : Policy) (request : Request) : Response :=
  ((policy.mark request (.bare 200)).setHeader "access-control-allow-methods" wildcard).setHeader
    "access-control-allow-headers" wildcard

/-- Answers `OPTIONS`, and marks the answers of a service to all else. -/
def around (policy : Policy) (inner : Request → Effect Response) (request : Request) :
    Effect Response := do
  -- The service inside is not asked.
  if request.method = .options then return policy.preflight request
  else return policy.mark request (← inner request)

end DialogStub.Http.Cors
