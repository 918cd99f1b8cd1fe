import DialogStub.Http.Header

/-!
# Media types

* `MediaType.parse` — the type, subtype and suffix of a `content-type` value;
* `MediaType.isJson` — whether it stands for JSON.

The grammar is strict: tokens on both sides of the slash, and parameters that are names with
values, where spaces may stand before a name and behind a quoted value only.
-/

namespace DialogStub.Http

/-- A media type without its parameters, in lower case. The suffix stands behind the last plus
    sign of the subtype. -/
structure MediaType where
  type : String
  subtype : String
  suffix : Option String
  deriving DecidableEq, Repr

namespace MediaType

/-- A character of a type, a parameter name or a plain value. -/
def isToken (c : Char) : Bool :=
  Header.isToken c && c ≠ '*'

/-- A character of a quoted value. -/
def isQuoted (c : Char) : Bool :=
  0x1F < c.toNat && c.toNat ≠ 0x7F

/-- Where a reader stands among the parameters. -/
inductive Scan where
  /-- Before a parameter. -/
  | start
  /-- Inside a name. -/
  | name
  /-- Behind the equals sign. -/
  | equals
  /-- Inside a plain value. -/
  | plain
  /-- Behind the opening quote of a value. -/
  | opened
  /-- Inside a quoted value. -/
  | quoted
  /-- Behind the closing quote. -/
  | closed
  deriving DecidableEq, Repr

/-- What one character does to a reader of parameters. -/
def Scan.step (s : Scan) (c : Char) : Option Scan :=
  match s with
  | .start => if c = ' ' then some .start else if isToken c then some .name else none
  | .name => if isToken c then some .name else if c = '=' then some .equals else none
  | .equals => if c = '"' then some .opened else if isToken c then some .plain else none
  | .plain => if isToken c then some .plain else if c = ';' then some .start else none
  | .opened => if isQuoted c then some .quoted else none
  | .quoted =>
    if c = '"' then some .closed else if isQuoted c then some .quoted else none
  | .closed => if c = ';' then some .start else if c = ' ' then some .closed else none

/-- Whether parameters may end here. A value may be empty, a name may not lack its value. -/
def Scan.ends : Scan → Bool
  -- A semicolon may stand at the end, with nothing behind it.
  | .start | .equals | .plain | .closed => true
  | .name | .opened | .quoted => false

/-- Whether the characters behind the first semicolon are parameters. -/
def areParameters : Scan → List Char → Bool
  | s, [] => s.ends
  | s, c :: cs => match s.step c with
    | some s => areParameters s cs
    | none => false

/-- The parts before and behind the last plus sign that is not the first character. -/
def splitSuffix (cs : List Char) : List Char × Option (List Char) :=
  let suffix := (cs.reverse.takeWhile (· ≠ '+')).reverse
  let before := cs.take (cs.length - suffix.length - 1)
  if cs.contains '+' ∧ before ≠ [] then (before, some suffix) else (cs, none)

/-- The media type that a text spells. -/
def parse (s : String) : Option MediaType :=
  let cs := s.toList.map Char.toLower
  let type := cs.takeWhile isToken
  match cs.drop type.length with
  | '/' :: rest =>
    let subtype := rest.takeWhile isToken
    let parameters := rest.drop subtype.length
    let wellFormed : Bool := match parameters with
      | [] => true
      | c :: more => c = ';' && subtype ≠ [] && areParameters .start more
    if type ≠ [] ∧ wellFormed then
      let (before, suffix) := splitSuffix subtype
      some ⟨String.ofList type, String.ofList before, suffix.map String.ofList⟩
    else none
  | _ => none

/-- Whether a media type stands for JSON. -/
def isJson (m : MediaType) : Bool :=
  m.type = "application" && (m.subtype = "json" || m.suffix = some "json")

end MediaType

/-- Whether the header fields declare a JSON body. -/
def Headers.declareJson (headers : Headers) : Bool :=
  match (headers.text? "content-type").bind MediaType.parse with
  | some m => m.isJson
  | none => false

end DialogStub.Http
