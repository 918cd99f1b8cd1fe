import DialogStub.Json.Failure
import DialogStub.Text.Percent

/-!
# Words, strings and numbers of JSON text

A reader takes the bytes that are left and gives back what it read with the bytes behind it.

* `Json.skipBlank` — white space between tokens;
* `Json.literal` — a fixed word;
* `Json.readString` — a string, after its opening quote;
* `Json.skipString` — the same where only the end of the string is wanted;
* `Json.readNumber` — a number, integers apart from the others.

A string is scanned by a machine that takes one byte at a time, so that the text of any length
is read in one pass; it is checked for well-formed UTF-8 as a whole.
-/

namespace DialogStub.Json

/-- What a reader gives: a value and the bytes behind it, or a failure. -/
abbrev Read (α : Type) := Except Failure (α × Bytes)

/-- White space between tokens. -/
def isSpace (b : UInt8) : Bool :=
  b = 0x20 || b = 0x09 || b = 0x0A || b = 0x0D

/-- The bytes behind leading white space. -/
def skipBlank : Bytes → Bytes
  | [] => []
  | b :: rest => if isSpace b then skipBlank rest else b :: rest

/-- Reads the bytes of `word`. -/
def literal : (word : Bytes) → Bytes → Except Failure Bytes
  | [], bs => .ok bs
  | _ :: _, [] => .error (.before .endInValue [])
  | w :: word, b :: rest => if b = w then literal word rest else .error (.before .noWord rest)

/-! ### Strings -/

/-- Where a reader stands inside a string. -/
inductive Scan where
  /-- Between two characters. -/
  | plain
  /-- Behind a backslash. -/
  | escape
  /-- Behind `\u`, with `left` digits to come; `value` is `none` once one of them was no digit,
      and `lead` is the high half of a pair that came just before. -/
  | hex (left : Nat) (value : Option Nat) (lead : Option Nat)
  /-- Behind the high half of a pair, before the backslash of the low one. -/
  | backslash (lead : Nat)
  /-- Behind the high half of a pair and a backslash. -/
  | letterU (lead : Nat)
  deriving DecidableEq, Repr

/-- The character that a letter behind a backslash stands for. -/
def escaped? (b : UInt8) : Option UInt8 :=
  match b.toNat with
  | 0x22 => some 0x22
  | 0x5C => some 0x5C
  | 0x2F => some 0x2F
  | 0x62 => some 0x08
  | 0x66 => some 0x0C
  | 0x6E => some 0x0A
  | 0x72 => some 0x0D
  | 0x74 => some 0x09
  | _ => none

/-- One more digit of a hexadecimal number, unless there was a fault before. -/
def hexStep (value : Option Nat) (b : UInt8) : Option Nat :=
  match value, Percent.hexValue? b with
  | some v, some d => some (v * 16 + d)
  | _, _ => none

/-- What a four-digit escape stands for. -/
inductive Unit16 where
  | char (c : Char)
  | lead (n : Nat)
  | fault (cause : Cause)
  deriving DecidableEq, Repr

/-- What the unit `n` stands for behind the high half `lead`, if there is one. -/
def unit16 (n : Nat) : (lead : Option Nat) → Unit16
  | none =>
    if 0xDC00 ≤ n ∧ n ≤ 0xDFFF then .fault .loneSurrogate
    else if 0xD800 ≤ n ∧ n ≤ 0xDBFF then .lead n
    else .char (Char.ofNat n)
  | some high =>
    if 0xDC00 ≤ n ∧ n ≤ 0xDFFF then
      .char (Char.ofNat (0x10000 + (high - 0xD800) * 0x400 + (n - 0xDC00)))
    else .fault .loneSurrogate

/-- The bytes of a string up to its closing quote, escapes resolved; `done` holds those before,
    last first. -/
def scanString : Scan → (done : Bytes) → Bytes → Read Bytes
  | _, _, [] => .error (.before .endInString [])
  | .plain, done, b :: rest =>
    if b = 0x22 then .ok (done.reverse, rest)
    else if b = 0x5C then scanString .escape done rest
    else if b < 0x20 then .error (.before .control rest)
    else scanString .plain (b :: done) rest
  | .escape, done, b :: rest =>
    if b = 0x75 then scanString (.hex 4 (some 0) none) done rest
    else match escaped? b with
      | some c => scanString .plain (c :: done) rest
      | none => .error (.before .escape rest)
  | .hex left value lead, done, b :: rest =>
    -- A digit that is none is told only once all four have been read.
    if 1 < left then scanString (.hex (left - 1) (hexStep value b) lead) done rest
    else match hexStep value b with
      | none => .error (.before .escape rest)
      | some n => match unit16 n lead with
        | .char c => scanString .plain ((Utf8.encodeChar c).reverse ++ done) rest
        | .lead high => scanString (.backslash high) done rest
        | .fault cause => .error (.before cause rest)
  | .backslash lead, done, b :: rest =>
    if b = 0x5C then scanString (.letterU lead) done rest
    else .error (.before .brokenPair rest)
  | .letterU lead, done, b :: rest =>
    if b = 0x75 then scanString (.hex 4 (some 0) (some lead)) done rest
    else .error (.before .brokenPair rest)

/-- Reads a string, after its opening quote. -/
def readString (bs : Bytes) : Read String :=
  match scanString .plain [] bs with
  | .error failure => .error failure
  | .ok (raw, rest) => match Utf8.decode raw with
    | .ok cs => .ok (String.ofList cs, rest)
    | .error good => .error ⟨.encoding, rest.length + (raw.length - good), []⟩

/-- The bytes behind a string, after its opening quote. Only its form is looked at: halves of
    pairs and the encoding go unchecked. -/
def skipString : Scan → Bytes → Except Failure Bytes
  | _, [] => .error (.before .endInString [])
  | .plain, b :: rest =>
    if b = 0x22 then .ok rest
    else if b = 0x5C then skipString .escape rest
    -- The failure stands before the byte here, and behind it in `scanString`.
    else if b < 0x20 then .error (.before .control (b :: rest))
    else skipString .plain rest
  | .escape, b :: rest =>
    if b = 0x75 then skipString (.hex 4 (some 0) none) rest
    else if (escaped? b).isSome then skipString .plain rest
    else .error (.before .escape rest)
  | .hex left value lead, b :: rest =>
    if 1 < left then skipString (.hex (left - 1) (hexStep value b) lead) rest
    else if (hexStep value b).isSome then skipString .plain rest
    else .error (.before .escape rest)
  -- These two states are never entered here: no half of a pair is told from a character.
  | .backslash _, _ :: rest => skipString .plain rest
  | .letterU _, _ :: rest => skipString .plain rest

/-! ### Numbers -/

/-- A number as it was written: an integer that 64 bits hold, or a floating point number. -/
inductive Number where
  | int (n : Int)
  | real (x : Binary64)
  deriving DecidableEq, Repr

/-- The value of a decimal digit. -/
def digit? (b : UInt8) : Option Nat :=
  if 0x30 ≤ b ∧ b ≤ 0x39 then some (b.toNat - 0x30) else none

/-- Puts digits behind a significand as long as it stays below `2 ^ 64`: the significand, the
    number of digits taken, and what follows. -/
def absorb (significand taken : Nat) : Bytes → Nat × Nat × Bytes
  | [] => (significand, taken, [])
  | b :: rest => match digit? b with
    | some d =>
      if significand * 10 + d < 0x10000000000000000 then
        absorb (significand * 10 + d) (taken + 1) rest
      else (significand, taken, b :: rest)
    | none => (significand, taken, b :: rest)

/-- Counts digits: their number and what follows. -/
def countDigits (count : Nat) : Bytes → Nat × Bytes
  | [] => (count, [])
  | b :: rest =>
    if (digit? b).isSome then countDigits (count + 1) rest else (count, b :: rest)

/-- The number `significand * 10 ^ power`, read up to `rest`. -/
def settleReal (negative : Bool) (significand : Nat) (power : Int) (rest : Bytes) : Read Number :=
  match Binary64.ofDecimal negative significand power with
  | some x => .ok (.real x, rest)
  | none => .error (.before .range rest)

/-- The greatest exponent that is written out. -/
def exponentLimit : Nat := 0x80000000

/-- The digits of an exponent, after the first: its value and what follows, or what follows the
    digit with which it reaches the limit. -/
def readExponentDigits (value : Nat) : Bytes → (Nat × Bytes) ⊕ Bytes
  | [] => .inl (value, [])
  | b :: rest => match digit? b with
    | some d =>
      if value * 10 + d < exponentLimit then readExponentDigits (value * 10 + d) rest
      else .inr rest
    | none => .inl (value, b :: rest)

/-- An exponent, after its letter. -/
def readExponent (negative : Bool) (significand : Nat) (power : Int) (bs : Bytes) :
    Read Number :=
  let (down, bs) := match bs with
    | 0x2B :: rest => (false, rest)
    | 0x2D :: rest => (true, rest)
    | _ => (false, bs)
  match bs with
  | [] => .error (.before .endInValue [])
  | b :: rest => match digit? b with
    | none => .error (.before .number rest)
    | some d => match readExponentDigits d rest with
      | .inl (value, rest) =>
        settleReal negative significand (if down then power - value else power + value) rest
      | .inr rest =>
        -- So great an exponent is no failure where the number is zero anyway or rounds to it.
        if significand ≠ 0 ∧ down = false then .error (.before .range rest)
        else .ok (.real (Binary64.zero negative), (countDigits 0 rest).2)

/-- An exponent, if there is one. -/
def readScale (negative : Bool) (significand : Nat) (power : Int) (bs : Bytes) : Read Number :=
  match bs with
  | 0x65 :: rest => readExponent negative significand power rest
  | 0x45 :: rest => readExponent negative significand power rest
  | _ => settleReal negative significand power bs

/-- The digits after a decimal point. Those that the significand cannot take are dropped. -/
def readFraction (negative : Bool) (significand : Nat) (power : Int) (bs : Bytes) :
    Read Number :=
  let (significand, taken, more) := absorb significand 0 bs
  let (dropped, rest) := countDigits 0 more
  if taken + dropped = 0 then
    .error (.at (if rest.isEmpty then .endInValue else .number) rest)
  else readScale negative significand (power - taken) rest

/-- An integer as 64 bits hold it: up to `2 ^ 64 - 1`, and down to `-2 ^ 63`; a negative zero
    and what is below is a floating point number. -/
def settleInteger (negative : Bool) (significand : Nat) : Number :=
  if negative then
    if significand = 0 ∨ 0x8000000000000000 < significand then
      .real (Binary64.ofNat true significand)
    else .int (-significand)
  else .int significand

/-- What follows the digits of a significand, `extra` of which it could not take. -/
def readTail (negative : Bool) (significand extra : Nat) (bs : Bytes) : Read Number :=
  match bs with
  | 0x2E :: rest => readFraction negative significand extra rest
  | 0x65 :: rest => readExponent negative significand extra rest
  | 0x45 :: rest => readExponent negative significand extra rest
  | _ =>
    -- Digits that the significand could not take leave no integer.
    if extra = 0 then .ok (settleInteger negative significand, bs)
    else settleReal negative significand extra bs

/-- A number without its sign. -/
def readMagnitude (negative : Bool) : Bytes → Read Number
  | [] => .error (.before .endInValue [])
  | b :: rest => match digit? b with
    | none => .error (.before .number rest)
    | some 0 =>
      -- No digit stands behind a leading zero.
      if (countDigits 0 rest).1 = 0 then readTail negative 0 0 rest
      else .error (.at .number rest)
    | some (d + 1) =>
      let (significand, _, more) := absorb (d + 1) 0 rest
      let (extra, more) := countDigits 0 more
      readTail negative significand extra more

/-- Reads a number. -/
def readNumber : Bytes → Read Number
  | 0x2D :: rest => readMagnitude true rest
  | bs => readMagnitude false bs

/-! ### Numbers that are passed over -/

/-- The bytes behind the digits of a fraction or an exponent, or `failure` if there are none. -/
def skipDigits (failure : Failure) (bs : Bytes) : Except Failure Bytes :=
  let (count, rest) := countDigits 0 bs
  if count = 0 then .error failure else .ok rest

/-- The bytes behind an exponent, after its letter. -/
def skipExponent (bs : Bytes) : Except Failure Bytes :=
  let bs := match bs with
    | 0x2B :: rest => rest
    | 0x2D :: rest => rest
    | _ => bs
  skipDigits (.before .number bs.tail) bs

/-- The bytes behind what follows the digits of an integer. -/
def skipTail (bs : Bytes) : Except Failure Bytes :=
  match bs with
  | 0x2E :: rest => match skipDigits (.at .number rest) rest with
    | .error failure => .error failure
    | .ok (0x65 :: rest) => skipExponent rest
    | .ok (0x45 :: rest) => skipExponent rest
    | .ok rest => .ok rest
  | 0x65 :: rest => skipExponent rest
  | 0x45 :: rest => skipExponent rest
  | _ => .ok bs

/-- The bytes behind a number, whatever its size. -/
def skipNumber (bs : Bytes) : Except Failure Bytes :=
  let bs := match bs with
    | 0x2D :: rest => rest
    | _ => bs
  match bs with
  | [] => .error (.before .number [])
  | b :: rest => match digit? b with
    | none => .error (.before .number rest)
    | some 0 =>
      if (countDigits 0 rest).1 = 0 then skipTail rest else .error (.at .number rest)
    | some _ => skipTail (countDigits 0 rest).2

@[simp] theorem skipBlank_nil : skipBlank [] = [] := rfl

@[simp] theorem literal_nil (bs : Bytes) : literal [] bs = .ok bs := rfl

end DialogStub.Json
