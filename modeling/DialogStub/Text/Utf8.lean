/-!
# UTF-8

Bytes and the characters they spell.

* `Utf8.encode` — the bytes of a list of characters;
* `Utf8.decode` — the characters of a list of bytes, or the length of the longest
  well-formed beginning when there is a fault;
* `Utf8.bytes`, `Utf8.text?` — the same for `String`.
-/

namespace DialogStub

/-- A sequence of bytes, as it travels over a connection or stands in a file. -/
abbrev Bytes := List UInt8

namespace Utf8

/-! ### Encoding -/

/-- The one to four bytes of a character. -/
def encodeChar (c : Char) : Bytes :=
  let n := c.toNat
  if n < 0x80 then [UInt8.ofNat n]
  else if n < 0x800 then
    [UInt8.ofNat (0xC0 + n / 0x40), UInt8.ofNat (0x80 + n % 0x40)]
  else if n < 0x10000 then
    [UInt8.ofNat (0xE0 + n / 0x1000), UInt8.ofNat (0x80 + n / 0x40 % 0x40),
      UInt8.ofNat (0x80 + n % 0x40)]
  else
    [UInt8.ofNat (0xF0 + n / 0x40000), UInt8.ofNat (0x80 + n / 0x1000 % 0x40),
      UInt8.ofNat (0x80 + n / 0x40 % 0x40), UInt8.ofNat (0x80 + n % 0x40)]

/-- The bytes of a list of characters, one character after the other. -/
def encode (cs : List Char) : Bytes :=
  cs.flatMap encodeChar

@[simp] theorem encode_nil : encode [] = [] := rfl

@[simp] theorem encode_cons (c : Char) (cs : List Char) :
    encode (c :: cs) = encodeChar c ++ encode cs := rfl

@[simp] theorem encode_append (cs ds : List Char) :
    encode (cs ++ ds) = encode cs ++ encode ds := by
  simp [encode]

/-! ### Decoding -/

/-- The reader's state between two bytes: at the start of a character, or inside one with
    `left` bytes to come, the bits gathered so far, and the least value that a character of
    this length may have. -/
inductive Progress where
  | start
  | inside (left value least : Nat)
  deriving DecidableEq, Repr

/-- What one byte does: it extends a character, ends one, or is a fault. -/
inductive Outcome where
  | more (next : Progress)
  | done (c : Char)
  | fault
  deriving DecidableEq, Repr

/-- Ends a character of value `value`; surrogates, values above U+10FFFF and values that a
    shorter form can hold are faults. -/
def finish (value least : Nat) : Outcome :=
  if h : value.isValidChar then
    if least ≤ value then .done (Char.ofNatAux value h) else .fault
  else .fault

/-- Reads one byte. -/
def advance (p : Progress) (b : UInt8) : Outcome :=
  let n := b.toNat
  match p with
  | .start =>
    if n < 0x80 then finish n 0
    else if n < 0xC0 then .fault
    else if n < 0xE0 then .more (.inside 1 (n - 0xC0) 0x80)
    else if n < 0xF0 then .more (.inside 2 (n - 0xE0) 0x800)
    else if n < 0xF8 then .more (.inside 3 (n - 0xF0) 0x10000)
    else .fault
  | .inside left value least =>
    if n < 0x80 ∨ 0xC0 ≤ n then .fault
    else
      let value := value * 0x40 + (n - 0x80)
      if left ≤ 1 then finish value least else .more (.inside (left - 1) value least)

/-- Reads bytes from the state `p`; `good` is the number of bytes in the characters already
    complete, `pending` the number of bytes read of the character at hand, and `done` holds
    the complete characters, last first. -/
def decodeFrom (p : Progress) (good pending : Nat) (done : List Char) :
    Bytes → Except Nat (List Char)
  | [] => match p with
    | .start => .ok done.reverse
    | .inside .. => .error good
  | b :: rest => match advance p b with
    | .more next => decodeFrom next good (pending + 1) done rest
    | .done c => decodeFrom .start (good + pending + 1) 0 (c :: done) rest
    | .fault => .error good

/-- The characters that `bs` spells, or the length in bytes of the longest beginning of `bs`
    that is well formed. -/
def decode (bs : Bytes) : Except Nat (List Char) :=
  decodeFrom .start 0 0 [] bs

/-- The text that `bs` spells, if it is well formed. -/
def text? (bs : Bytes) : Option String :=
  match decode bs with
  | .ok cs => some (String.ofList cs)
  | .error _ => none

/-- The bytes of a text. -/
def bytes (s : String) : Bytes :=
  encode s.toList

end Utf8

end DialogStub
