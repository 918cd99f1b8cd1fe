/-!
# White space

The Unicode property White_Space and what trims by it.

* `isBlank` — the property;
* `trimStart`, `trim` — a list of characters without the white space at its start, or at both
  ends;
* `trimText` — the same for `String`.
-/

namespace DialogStub.Text

/-- The Unicode property White_Space. -/
def isBlank (c : Char) : Bool :=
  let n := c.toNat
  (0x9 ≤ n && n ≤ 0xD) || n == 0x20 || n == 0x85 || n == 0xA0 || n == 0x1680 ||
    (0x2000 ≤ n && n ≤ 0x200A) || n == 0x2028 || n == 0x2029 || n == 0x202F || n == 0x205F ||
    n == 0x3000

/-- Drops the white space at the start. -/
def trimStart (cs : List Char) : List Char :=
  cs.dropWhile isBlank

/-- Drops the white space at both ends. -/
def trim (cs : List Char) : List Char :=
  (trimStart (trimStart cs).reverse).reverse

/-- Drops the white space at both ends of a text. -/
def trimText (s : String) : String :=
  String.ofList (trim s.toList)

@[simp] theorem trimStart_nil : trimStart [] = [] := rfl

@[simp] theorem trim_nil : trim [] = [] := rfl

end DialogStub.Text
