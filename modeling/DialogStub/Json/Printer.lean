import DialogStub.Json.Basic

/-!
# JSON text

The compact text of a value: no space between tokens, members in their order, and in strings
only the quote, the backslash and the controls below U+0020 written as escapes.

* `Json.print` — the bytes of a value;
* `Json.text` — the same as a text.
-/

namespace DialogStub.Json

/-! ### Strings -/

/-- The hexadecimal digit of a value below sixteen. -/
def hexDigit (n : Nat) : UInt8 :=
  if n < 10 then UInt8.ofNat (0x30 + n) else UInt8.ofNat (0x61 + (n - 10))

/-- One character of a string. -/
def printChar (c : Char) : Bytes :=
  match c.toNat with
  | 0x22 => [0x5C, 0x22]
  | 0x5C => [0x5C, 0x5C]
  | 0x08 => [0x5C, 0x62]
  | 0x09 => [0x5C, 0x74]
  | 0x0A => [0x5C, 0x6E]
  | 0x0C => [0x5C, 0x66]
  | 0x0D => [0x5C, 0x72]
  | n =>
    if n < 0x20 then [0x5C, 0x75, 0x30, 0x30, hexDigit (n / 16), hexDigit (n % 16)]
    else Utf8.encodeChar c

/-- A string between quotes. -/
def printString (s : String) : Bytes :=
  0x22 :: s.toList.flatMap printChar ++ [0x22]

/-! ### Values -/

/-- Parts with a comma between each two. -/
def commaSeparated : List Bytes → Bytes
  | [] => []
  | [part] => part
  | part :: parts => part ++ 0x2C :: commaSeparated parts

mutual

/-- The compact text of a value. -/
def print : Json → Bytes
  | .null => Utf8.bytes "null"
  | .bool true => Utf8.bytes "true"
  | .bool false => Utf8.bytes "false"
  | .int n => Utf8.bytes (toString n)
  | .real x => Utf8.encode x.text
  | .str s => printString s
  | .arr items => 0x5B :: commaSeparated (printItems items) ++ [0x5D]
  | .obj members => 0x7B :: commaSeparated (printMembers members) ++ [0x7D]

/-- The texts of the items of an array. -/
def printItems : List Json → List Bytes
  | [] => []
  | item :: rest => print item :: printItems rest

/-- The texts of the members of an object. -/
def printMembers : List (String × Json) → List Bytes
  | [] => []
  | (key, value) :: rest => (printString key ++ 0x3A :: print value) :: printMembers rest

end

/-- The compact text of a value. -/
def text (j : Json) : String :=
  (Utf8.text? j.print).getD ""

@[simp] theorem commaSeparated_nil : commaSeparated [] = [] := rfl

@[simp] theorem commaSeparated_singleton (part : Bytes) : commaSeparated [part] = part := rfl

end DialogStub.Json
