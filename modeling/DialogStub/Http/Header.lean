import DialogStub.Text.Utf8

/-!
# Header fields

* `Headers` — header fields in order, their names in lower case;
* `Headers.get?`, `Headers.set` — the first value of a name, and the only one;
* `Header.name?`, `Header.isValue` — which names and values may stand in a message;
* `Header.text?` — a value as text, if it is visible ASCII.
-/

namespace DialogStub.Http

/-- Header fields in order, their names in lower case. -/
abbrev Headers := List (String × Bytes)

/-- The first value of a name. -/
def Headers.get? (headers : Headers) (name : String) : Option Bytes :=
  headers.lookup name

/-- Header fields with one value for a name, in place of those it had. -/
def Headers.set (headers : Headers) (name : String) (value : Bytes) : Headers :=
  headers.filter (·.1 ≠ name) ++ [(name, value)]

namespace Header

/-- A character of a token: a letter, a digit, or one of fifteen signs. -/
def isToken (c : Char) : Bool :=
  c.isAlphanum || "!#$%&'*+-.^_`|~".toList.contains c

/-- The length that a name may have. -/
def maxNameLength : Nat := 65535

/-- A name in lower case, if it may stand in a message. -/
def name? (s : String) : Option String :=
  if s.toList ≠ [] ∧ s.toList.all isToken ∧ s.toList.length ≤ maxNameLength then
    some (String.ofList (s.toList.map Char.toLower))
  else none

/-- A byte of a value: no control but the tab. -/
def isValueByte (b : UInt8) : Bool :=
  (0x20 ≤ b && b ≠ 0x7F) || b = 0x09

/-- Whether a value may stand in a message. -/
def isValue (bs : Bytes) : Bool :=
  bs.all isValueByte

/-- A visible ASCII character, a space or a tab. -/
def isVisible (b : UInt8) : Bool :=
  (0x20 ≤ b && b < 0x7F) || b = 0x09

/-- A value as text, if it is visible ASCII, spaces and tabs. -/
def text? (bs : Bytes) : Option String :=
  if bs.all isVisible then Utf8.text? bs else none

end Header

/-- The first value of a name as text, if it is visible ASCII. -/
def Headers.text? (headers : Headers) (name : String) : Option String :=
  (headers.get? name).bind Header.text?

@[simp] theorem Headers.get?_nil (name : String) : Headers.get? [] name = none := rfl

end DialogStub.Http
