import DialogStub.Text.Blank
import DialogStub.Time.Timestamp

/-!
# Timestamps as text

The date and time form of RFC 3339, written in universal time and read with some freedom: white
space may stand before every number, sign and separator, the numbers may lack leading zeros, and
a year may have a sign and any number of digits.

* `Rfc3339.write` — a timestamp as text;
* `Rfc3339.read` — the timestamp that a text spells, or what is wrong with it.
-/

namespace DialogStub.Rfc3339

open DialogStub.Text

/-- Why a text spells no timestamp. -/
inductive Fault where
  | ends
  | character
  | range
  | gap
  | trailing
  deriving DecidableEq, Repr

/-- The text of a fault. -/
def Fault.message : Fault → String
  | .ends => "premature end of input"
  | .character => "input contains invalid characters"
  | .range => "input is out of range"
  | .gap => "no possible date and time matching input"
  | .trailing => "trailing input"

/-! ### Writing -/

/-- A number with zeros in front up to `width` digits. -/
def padded (width n : Nat) : List Char :=
  let digits := Nat.toDigits 10 n
  List.replicate (width - digits.length) '0' ++ digits

/-- A year: four digits, with a sign in front if it is not one of `0` to `9999`. -/
def writeYear (year : Int) : List Char :=
  if 0 ≤ year ∧ year ≤ 9999 then padded 4 year.toNat
  else (if year < 0 then '-' else '+') :: padded 4 year.natAbs

/-- A fraction of a second: none, or as many of three, six and nine digits as it needs. -/
def writeFraction (nano : Nat) : List Char :=
  if nano = 0 then []
  else if nano % 1000000 = 0 then '.' :: padded 3 (nano / 1000000)
  else if nano % 1000 = 0 then '.' :: padded 6 (nano / 1000)
  else '.' :: padded 9 nano

/-- The text of a timestamp. -/
def write (t : Timestamp) : List Char :=
  let date := Calendar.dateOf (t.minute / 1440)
  let minute := (t.minute % 1440).toNat
  writeYear date.year ++ ['-'] ++ padded 2 date.month ++ ['-'] ++ padded 2 date.day ++ ['T'] ++
    padded 2 (minute / 60) ++ [':'] ++ padded 2 (minute % 60) ++ [':'] ++ padded 2 t.second ++
    writeFraction t.nano ++ ['Z']

/-! ### Reading -/

/-- The value of a decimal digit. -/
def digit? (c : Char) : Option Nat :=
  if c.isDigit then some (c.toNat - 0x30) else none

/-- At most `most` digits, added to the number at hand. -/
def moreDigits : (most : Nat) → Nat → List Char → Nat × List Char
  | 0, n, cs => (n, cs)
  | _, n, [] => (n, [])
  | most + 1, n, c :: rest => match digit? c with
    | some d => moreDigits most (n * 10 + d) rest
    | none => (n, c :: rest)

/-- A number of one to `most` digits; one beyond `2 ^ 63` is out of range. -/
def number (most : Nat) : List Char → Except Fault (Nat × List Char)
  | [] => .error .ends
  | c :: rest => match digit? c with
    | none => .error .character
    | some d =>
      let (n, rest) := moreDigits (most - 1) d rest
      if 0x8000000000000000 ≤ n then .error .range else .ok (n, rest)

/-- A number of one or two digits between two bounds, white space before it passed over. -/
def bounded (least most : Nat) (cs : List Char) : Except Fault (Nat × List Char) := do
  let (n, rest) ← number 2 (trimStart cs)
  if least ≤ n ∧ n ≤ most then .ok (n, rest) else .error .range

/-- A year within 32 bits: up to four digits, or a sign and any number of digits. -/
def year (cs : List Char) : Except Fault (Int × List Char) := do
  let (n, rest) ← match trimStart cs with
    | '-' :: rest => (number rest.length rest).map fun (n, rest) => (-(n : Int), rest)
    | '+' :: rest => (number rest.length rest).map fun (n, rest) => ((n : Int), rest)
    | cs => (number 4 cs).map fun (n, rest) => ((n : Int), rest)
  if -0x80000000 ≤ n ∧ n < 0x80000000 then .ok (n, rest) else .error .range

/-- A separator, white space before it passed over. -/
def mark (c : Char) (cs : List Char) : Except Fault (Unit × List Char) :=
  match trimStart cs with
  | [] => .error .ends
  | d :: rest => if d = c then .ok ((), rest) else .error .character

/-- What stands between date and time. -/
def divider : List Char → Except Fault (Unit × List Char)
  | [] => .error .ends
  | c :: rest => if c = 'T' ∨ c = 't' ∨ c = ' ' then .ok ((), rest) else .error .character

/-- A fraction of a second in nanoseconds, if there is one; digits beyond the ninth are dropped. -/
def fraction : List Char → Except Fault (Nat × List Char)
  | '.' :: rest => do
    let (n, after) ← number 9 rest
    .ok (n * Nat.pow 10 (9 - (rest.length - after.length)), after.dropWhile Char.isDigit)
  | cs => .ok (0, cs)

/-- Two digits, which must both be there. -/
def twoDigits : List Char → Except Fault ((Nat × Nat) × List Char)
  | a :: b :: rest => match digit? a, digit? b with
    | some m, some n => .ok ((m, n), rest)
    | _, _ => .error .character
  -- Two bytes have to be there, which one character beyond ASCII has.
  | [c] => if c.utf8Size < 2 then .error .ends else .error .character
  | [] => .error .ends

/-- Hours and minutes behind the sign of an offset, in minutes. Colons and white space between
    them are passed over. -/
def offsetParts (cs : List Char) : Except Fault (Nat × List Char) := do
  let ((a, b), rest) ← twoDigits cs
  let ((c, d), rest) ← twoDigits (rest.dropWhile fun c => c = ':' || isBlank c)
  if 6 ≤ c then .error .range else .ok ((a * 10 + b) * 60 + c * 10 + d, rest)

/-- Whether three characters spell the name of universal time. -/
def isUtc (a b c : Char) : Bool :=
  a.toLower = 'u' && b.toLower = 't' && c.toLower = 'c'

/-- An offset from universal time, in minutes. -/
def offset (cs : List Char) : Except Fault (Int × List Char) :=
  match cs with
  | 'Z' :: rest => .ok (0, rest)
  | 'z' :: rest => .ok (0, rest)
  | '+' :: rest => (offsetParts rest).map fun (n, rest) => ((n : Int), rest)
  | '-' :: rest => (offsetParts rest).map fun (n, rest) => (-(n : Int), rest)
  -- The sign for minus counts as well as the hyphen.
  | '−' :: rest => (offsetParts rest).map fun (n, rest) => (-(n : Int), rest)
  | a :: b :: c :: rest => if isUtc a b c then .ok (0, rest) else .error .character
  | _ :: _ => .error .character
  | [] => .error .ends

/-- The least and the greatest year. -/
def yearInRange (year : Int) : Bool :=
  -262143 ≤ year && year ≤ 262142

/-- The timestamp of a local date and time and its offset. -/
def resolve (date : Calendar.Date) (hour minute second nano : Nat) (offset : Int) :
    Except Fault Timestamp :=
  if !(yearInRange date.year && date.isValid) then .error .range
  else if 1440 ≤ offset.natAbs then .error .range
  else
    let here : Int := Calendar.daysOf date * 1440 + (hour * 60 + minute : Nat)
    match Timestamp.ofParts? (here - offset) second nano with
    | some t => .ok t
    | none => .error .gap

/-- The timestamp that a text spells. -/
def read (cs : List Char) : Except Fault Timestamp := do
  let (y, cs) ← year cs
  let (_, cs) ← mark '-' cs
  let (m, cs) ← bounded 1 12 cs
  let (_, cs) ← mark '-' cs
  let (d, cs) ← bounded 1 31 cs
  let (_, cs) ← divider cs
  let (hour, cs) ← bounded 0 23 cs
  let (_, cs) ← mark ':' cs
  let (minute, cs) ← bounded 0 59 cs
  let (_, cs) ← mark ':' cs
  let (second, cs) ← bounded 0 60 cs
  let (nano, cs) ← fraction cs
  let (shift, cs) ← offset (trimStart cs)
  if trimStart cs ≠ [] then .error .trailing
  else resolve ⟨y, m, d⟩ hour minute second nano shift

end DialogStub.Rfc3339
