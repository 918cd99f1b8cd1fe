import DialogStub.Text.HiddenTable
import DialogStub.Text.LowerCase

/-!
# Quoted text

A text as a message shows it: between double quotes, with a backslash before what would end or
hide it, and characters that cannot be seen spelled by their code point.

* `quoteChar` — one character inside the quotes;
* `quote` — a whole text.
-/

namespace DialogStub.Text

/-- A code point in hexadecimal between braces. -/
def codePoint (c : Char) : List Char :=
  ['\\', 'u', '\x7b'] ++ Nat.toDigits 16 c.toNat ++ ['\x7d']

/-- One character inside the quotes. -/
def quoteChar (c : Char) : List Char :=
  match c with
  | '\x00' => ['\\', '0']
  | '\t' => ['\\', 't']
  | '\r' => ['\\', 'r']
  | '\n' => ['\\', 'n']
  | '\\' => ['\\', '\\']
  | '"' => ['\\', '"']
  | c => if inRanges c.toNat Hidden.ranges then codePoint c else [c]

/-- A text between double quotes. -/
def quote (s : String) : String :=
  String.ofList ('"' :: s.toList.flatMap quoteChar ++ ['"'])

end DialogStub.Text
