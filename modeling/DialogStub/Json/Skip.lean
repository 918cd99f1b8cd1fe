import DialogStub.Json.Token

/-!
# Values that are passed over

The value of a member that no one asked for is only measured: its brackets, strings and words
have to fit together, but numbers of any size, halves of pairs, any encoding and any depth pass.

* `Json.skipValue` — the bytes behind a value;
* `Json.Due` — what such a scan meets next.

The open brackets stand on a stack, so that depth costs no recursion.
-/

namespace DialogStub.Json

/-- An open bracket. -/
inductive Bracket where
  | list
  | object
  deriving DecidableEq, Repr

/-- The closing byte of a bracket. -/
def Bracket.close : Bracket → UInt8
  | .list => 0x5D
  | .object => 0x7D

/-- The failure of a text that ends inside a bracket. -/
def Bracket.ends : Bracket → Cause
  | .list => .endInList
  | .object => .endInObject

/-- The failure of a text with neither a comma nor the closing byte behind a value. -/
def Bracket.noNext : Bracket → Cause
  | .list => .noListNext
  | .object => .noObjectNext

/-- What a scan meets next. -/
inductive Due where
  /-- A value. -/
  | value
  /-- The first value of a bracket, or its end. -/
  | first
  /-- A comma or the end of a bracket. -/
  | next
  deriving DecidableEq, Repr

/-- The bytes behind a colon. -/
def skipColon (bs : Bytes) : Except Failure Bytes :=
  match skipBlank bs with
  | [] => .error (.at .endInObject [])
  | b :: rest => if b = 0x3A then .ok rest else .error (.at .noColon (b :: rest))

/-- The bytes behind a key and its colon. -/
def skipKey (bs : Bytes) : Except Failure Bytes :=
  match skipBlank bs with
  | [] => .error (.at .endInObject [])
  | b :: rest =>
    if b = 0x22 then
      match skipString .plain rest with
      | .error failure => .error failure
      | .ok rest => skipColon rest
    else .error (.at .noKey (b :: rest))

/-- The bytes where the value of an element starts: behind its key in an object. -/
def skipToValue : Bracket → Bytes → Except Failure Bytes
  | .list, bs => .ok bs
  | .object, bs => skipKey bs

/-- The bytes behind a value that is no array and no object, which starts with `b`. -/
def skipScalar (b : UInt8) (rest : Bytes) : Except Failure Bytes :=
  if b = 0x6E then literal (Utf8.bytes "ull") rest
  else if b = 0x74 then literal (Utf8.bytes "rue") rest
  else if b = 0x66 then literal (Utf8.bytes "alse") rest
  else if b = 0x22 then skipString .plain rest
  else if b = 0x2D ∨ (digit? b).isSome then skipNumber (b :: rest)
  else .error (.at .noValue (b :: rest))

/-- Scans on inside the brackets of `open`, the innermost first. -/
def skipFrom : (fuel : Nat) → Due → List Bracket → Bytes → Except Failure Bytes
  | 0, _, _, bs => .error (.at .endInValue bs)
  | fuel + 1, .value, stack, bs => match skipBlank bs with
    | [] => .error (.at .endInValue [])
    | b :: rest =>
      if b = 0x5B then skipFrom fuel .first (.list :: stack) rest
      else if b = 0x7B then skipFrom fuel .first (.object :: stack) rest
      else match skipScalar b rest with
        | .error failure => .error failure
        | .ok rest => skipFrom fuel .next stack rest
  -- No bracket is open: the value ends here, and no white space behind it is taken.
  | _ + 1, _, [], bs => .ok bs
  | fuel + 1, due, bracket :: stack, bs => match skipBlank bs with
    | [] => .error (.at bracket.ends [])
    | b :: rest =>
      if b = bracket.close then skipFrom fuel .next stack rest
      else if due = .first ∨ b = 0x2C then
        match skipToValue bracket (if due = .first then b :: rest else rest) with
        | .error failure => .error failure
        | .ok rest => skipFrom fuel .value (bracket :: stack) rest
      else .error (.at bracket.noNext (b :: rest))

/-- The bytes behind a value. The fuel has to reach for twice the bytes that are left. -/
def skipValue (fuel : Nat) (bs : Bytes) : Except Failure Bytes :=
  skipFrom fuel .value [] bs

end DialogStub.Json
