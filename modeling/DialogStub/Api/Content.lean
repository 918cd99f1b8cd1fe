import DialogStub.Api.Error
import DialogStub.Http.MediaType
import DialogStub.Json.Shape.Reader

/-!
# What a request brings

* `Content.record` — the record in the body of a request;
* `Content.raw` — the bytes of the body;
* `Content.sessionId` — the session id in the path;
* `present` — a field that is there and not empty.
-/

namespace DialogStub

open Http Json

/-- A field that is there and not empty. -/
def present (field : Option String) : Option String :=
  field.filter (· ≠ "")

namespace Content

/-- The number of bytes that a body may have. -/
def maxLength : Nat := 2097152

/-- The complaint about a body that cannot be read. -/
def bodyMessage (fault : BodyFault) : String :=
  "Failed to buffer the request body: " ++ fault.message

/-- The complaint about a body that is not the JSON that it should be. -/
def jsonMessage (failure : Failure) (body : Bytes) : String :=
  (match failure.cause.category with
    | .mismatch => "Failed to deserialize the JSON body into the target type: "
    | _ => "Failed to parse the request body as JSON: ") ++ failure.messageWithWay body

/-- The record in the body of a request, which has to be declared as JSON. -/
def record {α : Type} (shape : Shape α) (request : Request) : Except ApiError α :=
  if request.headers.declareJson then
    match request.body.collect maxLength with
    | .error fault => .error (.badRequest (bodyMessage fault))
    | .ok bytes => match shape.ofBytes bytes with
      | .error failure => .error (.badRequest (jsonMessage failure bytes))
      | .ok a => .ok a
  else .error (.badRequest "Expected request with `Content-Type: application/json`")

/-- The bytes of the body of a request, or the response where they cannot be had. -/
def raw (request : Request) : Except Response Bytes :=
  match request.body.collect maxLength with
  | .error .tooLong => .error (.plain 413 (bodyMessage .tooLong))
  | .error .broken => .error (.plain 400 (bodyMessage .broken))
  | .ok bytes => .ok bytes

/-- The session id that a segment of a path spells, or the response where it spells none. -/
def sessionId (segment : List Char) : Except Response String :=
  match Utf8.text? (Percent.decode (Utf8.encode segment)) with
  | some id => .ok id
  | none => .error (.plain 400 "Invalid URL: Invalid UTF-8 in `id`")

end Content

end DialogStub
