import DialogStub.Http.Header
import DialogStub.Http.Target
import DialogStub.Json.Printer

/-!
# Requests and responses

* `Method`, `Request`, `Response` — the messages of a server;
* `Body` — a body in the pieces in which it comes, with the size that is announced for it;
* `Body.collect` — the bytes of a body, if they come to an end within a limit;
* `Request.build` — the request with a given method, target and header fields;
* `Response.json`, `Response.plain` — responses with a body.
-/

namespace DialogStub.Http

/-! ### Bodies -/

/-- A body: the pieces in which it comes, the size announced for it, and whether the connection
    breaks behind the last piece. -/
structure Body where
  chunks : List Bytes
  size : Option Nat
  broken : Bool
  deriving DecidableEq, Repr

/-- Why the bytes of a body cannot be had. -/
inductive BodyFault where
  | tooLong
  | broken
  deriving DecidableEq, Repr

/-- The wording of a body fault. -/
def BodyFault.message : BodyFault → String
  | .tooLong => "length limit exceeded"
  | .broken => "connection broke"

namespace Body

/-- The body that is announced and comes as it is. -/
def full (bs : Bytes) : Body := ⟨[bs], some bs.length, false⟩

/-- The body without bytes. -/
def empty : Body := ⟨[], some 0, false⟩

/-- The bytes that come. -/
def bytes (body : Body) : Bytes := body.chunks.flatten

/-- The bytes of a body, up to `limit` of them. -/
def collect (body : Body) (limit : Nat) : Except BodyFault Bytes :=
  if limit < body.bytes.length then .error .tooLong
  else if body.broken then .error .broken
  else .ok body.bytes

@[simp] theorem bytes_full (bs : Bytes) : (full bs).bytes = bs := by
  simp [full, bytes]

@[simp] theorem bytes_empty : empty.bytes = [] := rfl

end Body

/-! ### Requests -/

/-- What is asked to be done. -/
inductive Method where
  | get
  | head
  | post
  | options
  | other (name : String)
  deriving DecidableEq, Repr

/-- The method of a name. -/
def Method.ofName? (s : String) : Option Method :=
  if s = "GET" then some .get
  else if s = "HEAD" then some .head
  else if s = "POST" then some .post
  else if s = "OPTIONS" then some .options
  else if s.toList ≠ [] ∧ s.toList.all Header.isToken then some (.other s)
  else none

/-- A request. -/
structure Request where
  method : Method
  target : Target
  headers : Headers
  body : Body
  deriving DecidableEq, Repr

/-- Why there is no such request. -/
inductive RequestFault where
  | method
  | target (fault : Target.Fault)
  | headerName
  | headerValue
  deriving DecidableEq, Repr

/-- The wording of a request fault. -/
def RequestFault.message : RequestFault → String
  | .method => "invalid HTTP method"
  | .target fault => fault.message
  | .headerName => "invalid HTTP header name"
  | .headerValue => "failed to parse header value"

/-- Header fields with their names in lower case, if they may stand in a message. -/
def buildHeaders : List (String × Bytes) → Except RequestFault Headers
  | [] => .ok []
  | (name, value) :: rest => match Header.name? name with
    | none => .error .headerName
    | some name =>
      if Header.isValue value then
        match buildHeaders rest with
        | .error fault => .error fault
        | .ok headers => .ok ((name, value) :: headers)
      else .error .headerValue

/-- The request with the given parts, or the first fault among method, target and header
    fields. -/
def Request.build (method target : String) (headers : List (String × Bytes)) (body : Body) :
    Except RequestFault Request :=
  match Method.ofName? method with
  | none => .error .method
  | some method => match Target.parse target with
    | .error fault => .error (.target fault)
    | .ok target => match buildHeaders headers with
      | .error fault => .error fault
      | .ok headers => .ok ⟨method, target, headers, body⟩

/-! ### Responses -/

/-- A response. -/
structure Response where
  status : Nat
  headers : Headers
  body : Body
  deriving DecidableEq, Repr

namespace Response

/-- A response without a body. -/
def bare (status : Nat) : Response := ⟨status, [], .empty⟩

/-- A response with a body of a media type. -/
def withBody (status : Nat) (type : String) (body : Bytes) : Response :=
  ⟨status, [("content-type", Utf8.bytes type)], .full body⟩

/-- A response with JSON. -/
def json (status : Nat) (value : Json) : Response :=
  withBody status "application/json" value.print

/-- A response with plain text. -/
def plain (status : Nat) (text : String) : Response :=
  withBody status "text/plain; charset=utf-8" (Utf8.bytes text)

/-- The response with a header field set. -/
def setHeader (r : Response) (name : String) (value : Bytes) : Response :=
  { r with headers := r.headers.set name value }

/-- The response with no body. -/
def withoutBody (r : Response) : Response :=
  { r with body := .empty }

end Response

end DialogStub.Http
