import DialogStub.Text.Utf8

/-!
# Percent-encoded text

A byte of a path may be spelled `%` and two hexadecimal digits.

* `Percent.decode` — the bytes behind such a spelling; a `%` without two digits stands for
  itself;
* `Percent.encode` — a spelling in which only chosen bytes stand for themselves.
-/

namespace DialogStub.Percent

/-- The value of a hexadecimal digit, in either case. -/
def hexValue? (b : UInt8) : Option Nat :=
  let n := b.toNat
  if 0x30 ≤ n ∧ n ≤ 0x39 then some (n - 0x30)
  else if 0x41 ≤ n ∧ n ≤ 0x46 then some (n - 0x41 + 10)
  else if 0x61 ≤ n ∧ n ≤ 0x66 then some (n - 0x61 + 10)
  else none

/-- The hexadecimal digit of a value below sixteen, letters as capitals. -/
def hexDigit (n : Nat) : UInt8 :=
  if n < 10 then UInt8.ofNat (0x30 + n) else UInt8.ofNat (0x41 + (n - 10))

/-- Decodes with the bytes already decoded at hand, last first. -/
def decodeFrom (done : Bytes) : Bytes → Bytes
  | [] => done.reverse
  | [a] => (a :: done).reverse
  | [a, b] => (b :: a :: done).reverse
  | a :: b :: c :: rest =>
    match decide (a = 0x25), hexValue? b, hexValue? c with
    | true, some high, some low => decodeFrom (UInt8.ofNat (high * 16 + low) :: done) rest
    | _, _, _ => decodeFrom (a :: done) (b :: c :: rest)

/-- The bytes that a percent-encoded text stands for. -/
def decode (bs : Bytes) : Bytes :=
  decodeFrom [] bs

/-- The spelling of one byte by two digits. -/
def encodeByte (b : UInt8) : Bytes :=
  [0x25, hexDigit (b.toNat / 16), hexDigit (b.toNat % 16)]

/-- The spelling in which the bytes that `plain` admits stand for themselves. -/
def encode (plain : UInt8 → Bool) (bs : Bytes) : Bytes :=
  bs.flatMap fun b => if plain b then [b] else encodeByte b

end DialogStub.Percent
