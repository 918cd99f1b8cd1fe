import DialogStub.Json.Basic
import DialogStub.Text.Quoted
import DialogStub.Time.Rfc3339

/-!
# What can be wrong with JSON text

* `Json.Found` — a value as a message names it;
* `Json.Cause` — what is wrong, with `Cause.message` for its wording and `Cause.category` for
  its kind;
* `Json.Failure` — a cause, its place in the text and the way to the value that was being read;
* `Json.Failure.message` — the wording with line and column.

A place is given by the number of bytes behind it, so that a reader need not count.
-/

namespace DialogStub.Json

/-! ### Causes -/

/-- A value as a message names it. -/
inductive Found where
  | null
  | bool (b : Bool)
  | int (n : Int)
  | real (x : Binary64)
  | str (s : String)
  | seq
  | map
  deriving DecidableEq, Repr

/-- The name of a value in a message. -/
def Found.message : Found → String
  | .null => "null"
  | .bool b => "boolean `" ++ (if b then "true" else "false") ++ "`"
  | .int n => "integer `" ++ toString n ++ "`"
  | .real x => "floating point `" ++ String.ofList x.text ++ "`"
  | .str s => "string " ++ Text.quote s
  | .seq => "sequence"
  | .map => "map"

/-- How a value is named in a message. -/
def found : Json → Found
  | .null => .null
  | .bool b => .bool b
  | .int n => .int n
  | .real x => .real x
  | .str s => .str s
  | .arr _ => .seq
  | .obj _ => .map

/-- What is wrong with a text. The first four end too early, the next are no JSON, and the last
    are JSON of another shape than asked for. -/
inductive Cause where
  | endInValue
  | endInList
  | endInObject
  | endInString
  | noValue
  | noWord
  | noColon
  | noListNext
  | noObjectNext
  | noKey
  | trailingComma
  | trailing
  | tooDeep
  | control
  | escape
  | loneSurrogate
  | brokenPair
  | encoding
  | number
  | range
  | wrongType (found : Found) (expected : String)
  | wrongValue (found : Found) (expected : String)
  | wrongLength (length : Nat) (expected : String)
  | missing (key : String)
  | duplicate (key : String)
  | unknownVariant (name : String) (known : List String)
  | timestamp (fault : Rfc3339.Fault)
  deriving DecidableEq, Repr

/-- The kind of a cause. -/
inductive Category where
  | truncated
  | malformed
  | mismatch
  deriving DecidableEq, Repr

/-- The kind of a cause: the text ends too early, is no JSON, or has another shape. -/
def Cause.category : Cause → Category
  | .endInValue | .endInList | .endInObject | .endInString => .truncated
  | .wrongType .. | .wrongValue .. | .wrongLength .. | .missing _ | .duplicate _
  | .unknownVariant .. | .timestamp _ => .mismatch
  | _ => .malformed

/-- A name between backquotes. -/
def named (s : String) : String := "`" ++ s ++ "`"

/-- The names that were expected: two with "or" between them, more in a list. -/
def oneOf : List String → String
  | [] => "there are no variants"
  | [a] => "expected " ++ named a
  | [a, b] => "expected " ++ named a ++ " or " ++ named b
  | names => "expected one of " ++ ", ".intercalate (names.map named)

/-- The wording of a cause. -/
def Cause.message : Cause → String
  | .endInValue => "EOF while parsing a value"
  | .endInList => "EOF while parsing a list"
  | .endInObject => "EOF while parsing an object"
  | .endInString => "EOF while parsing a string"
  | .noValue => "expected value"
  | .noWord => "expected ident"
  | .noColon => "expected `:`"
  | .noListNext => "expected `,` or `]`"
  | .noObjectNext => "expected `,` or `\x7d`"
  | .noKey => "key must be a string"
  | .trailingComma => "trailing comma"
  | .trailing => "trailing characters"
  | .tooDeep => "recursion limit exceeded"
  | .control => "control character (\\u0000-\\u001F) found while parsing a string"
  | .escape => "invalid escape"
  | .loneSurrogate => "lone leading surrogate in hex escape"
  | .brokenPair => "unexpected end of hex escape"
  | .encoding => "invalid unicode code point"
  | .number => "invalid number"
  | .range => "number out of range"
  | .wrongType f expected => "invalid type: " ++ f.message ++ ", expected " ++ expected
  | .wrongValue f expected => "invalid value: " ++ f.message ++ ", expected " ++ expected
  | .wrongLength n expected => "invalid length " ++ toString n ++ ", expected " ++ expected
  | .missing key => "missing field " ++ named key
  | .duplicate key => "duplicate field " ++ named key
  | .unknownVariant name known => "unknown variant " ++ named name ++ ", " ++ oneOf known
  | .timestamp fault => fault.message

/-! ### Places -/

/-- A step on the way to a value inside another. -/
inductive Place where
  | key (name : String)
  | index (n : Nat)
  | variant (name : String)
  deriving DecidableEq, Repr

/-- The way to a value as a message shows it: names with points between them, and indexes in
    brackets. -/
def wayText (first : Bool) : List Place → String
  | [] => ""
  | .index n :: rest => "[" ++ toString n ++ "]" ++ wayText false rest
  | .key name :: rest => (if first then "" else ".") ++ name ++ wayText false rest
  | .variant name :: rest => (if first then "" else ".") ++ name ++ wayText false rest

/-- A cause, the number of bytes behind its place in the text, and the way to the value that
    was being read, outermost step first. -/
structure Failure where
  cause : Cause
  remaining : Nat
  way : List Place
  deriving DecidableEq, Repr

/-- A failure just before `rest`. -/
def Failure.before (cause : Cause) (rest : Bytes) : Failure :=
  ⟨cause, rest.length, []⟩

/-- A failure at the first byte of `rest`, or at the end of the text. -/
def Failure.at (cause : Cause) (rest : Bytes) : Failure :=
  ⟨cause, rest.length - 1, []⟩

/-- The failure of a value one step further in. -/
def Failure.inside (f : Failure) (place : Place) : Failure :=
  { f with way := place :: f.way }

/-- Line and column of the place before which `consumed` stands: lines count from one, columns
    are bytes since the last line break. -/
def position (consumed : Bytes) : Nat × Nat :=
  (1 + consumed.count 0x0A, (consumed.reverse.takeWhile (· ≠ 0x0A)).length)

/-- The wording of a failure in the text `input`, with its line and column. -/
def Failure.message (f : Failure) (input : Bytes) : String :=
  let (line, column) := position (input.take (input.length - f.remaining))
  f.cause.message ++ " at line " ++ toString line ++ " column " ++ toString column

/-- The wording of a failure, with the way to the value in front if there is one. -/
def Failure.messageWithWay (f : Failure) (input : Bytes) : String :=
  if f.way.isEmpty then f.message input else wayText true f.way ++ ": " ++ f.message input

end DialogStub.Json
