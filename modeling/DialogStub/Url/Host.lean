import DialogStub.Text.LowerCase
import DialogStub.Text.Percent
import DialogStub.Url.Punycode

/-!
# Hosts of addresses

* `Host.ofDomain` — the host that a name or a number spells;
* `Host.ofIpv6` — the host between square brackets;
* `Host.ofOpaque` — the host of an address whose scheme is not known.

A host is kept as the text in which it is written: names in lower case and by Punycode, numbers
in four decimal parts, addresses of the sixth version with the longest run of zeros left out.
-/

namespace DialogStub.Url.Host

/-- The parts of a text between marks. -/
def splitOn (mark : Char) : List Char → List (List Char)
  | [] => [[]]
  | c :: cs => match splitOn mark cs with
    | [] => [[c]]
    | part :: parts => if c = mark then [] :: part :: parts else (c :: part) :: parts

/-! ### Numbers -/

/-- The value of a digit to a base of at most sixteen. -/
def digit? (base : Nat) (c : Char) : Option Nat :=
  let n := c.toNat
  let value :=
    if 0x30 ≤ n ∧ n ≤ 0x39 then n - 0x30
    else if 0x41 ≤ n ∧ n ≤ 0x46 then n - 0x41 + 10
    else if 0x61 ≤ n ∧ n ≤ 0x66 then n - 0x61 + 10
    else base
  if value < base then some value else none

/-- The number that digits to a base spell. -/
def number? (base : Nat) (value : Nat) : List Char → Option Nat
  | [] => some value
  | c :: cs => match digit? base c with
    | some d => number? base (value * base + d) cs
    | none => none

/-- A part of a number: hexadecimal behind `0x`, octal behind `0`, and else decimal. -/
def ipv4Part? : List Char → Option Nat
  | [] => none
  | '0' :: 'x' :: cs => number? 16 0 cs
  | '0' :: 'X' :: cs => number? 16 0 cs
  -- A zero alone is no octal number without digits.
  | ['0'] => some 0
  | '0' :: cs => number? 8 0 cs
  | cs => number? 10 0 cs

/-- Parts without an empty one at the end. -/
def dropLastEmpty (parts : List (List Char)) : List (List Char) :=
  if parts.getLast? = some [] then parts.dropLast else parts

/-- Whether a name ends in a number, so that all of it has to be one. -/
def endsInNumber (cs : List Char) : Bool :=
  match (dropLastEmpty (splitOn '.' cs)).getLast? with
  | none => false
  | some last => (last ≠ [] && last.all Char.isDigit) || (ipv4Part? last).isSome

/-- The value of parts of which the last takes the room of those that are missing. -/
def ipv4Value? (most : Nat) : List Nat → Option Nat
  | [] => none
  | [n] => if n < Nat.pow 256 most then some n else none
  | n :: ns => match ipv4Value? (most - 1) ns with
    | some rest => if n ≤ 255 then some (n * Nat.pow 256 (most - 1) + rest) else none
    | none => none

/-- The number that a name spells. -/
def ipv4? (cs : List Char) : Option Nat :=
  let parts := dropLastEmpty (splitOn '.' cs)
  if 4 < parts.length then none
  else match parts.mapM ipv4Part? with
    | some numbers => ipv4Value? 4 numbers
    | none => none

/-- The text of a number in four decimal parts. -/
def writeIpv4 (n : Nat) : String :=
  ".".intercalate ([n / 16777216, n / 65536 % 256, n / 256 % 256, n % 256].map toString)

/-! ### Addresses of the sixth version -/

/-- One of eight pieces: up to four hexadecimal digits. -/
def piece? (cs : List Char) : Option Nat :=
  if cs.length ≤ 4 ∧ cs ≠ [] then number? 16 0 cs else none

/-- A strict decimal part: no sign, no zero in front, at most 255. -/
def decimalPart? (cs : List Char) : Option Nat :=
  match cs with
  | '0' :: _ :: _ => none
  | [] => none
  | _ => (number? 10 0 cs).filter (· ≤ 255)

/-- The pieces that a text between colons spells; the last may be a number in four parts. -/
def pieces? : List (List Char) → Option (List Nat)
  | [] => some []
  | [part] =>
    if part.contains '.' then
      match (splitOn '.' part).mapM decimalPart? with
      | some [a, b, c, d] => some [a * 256 + b, c * 256 + d]
      | _ => none
    else (piece? part).map (fun n => [n])
  | part :: parts => match piece? part, pieces? parts with
    | some n, some ns => some (n :: ns)
    | _, _ => none

/-- The texts before and behind the first two colons in a row. -/
def splitDouble (before : List Char) : List Char → Option (List Char × List Char)
  | ':' :: ':' :: cs => some (before.reverse, cs)
  | c :: cs => splitDouble (c :: before) cs
  | [] => none

/-- The pieces of one side of two colons, where nothing stands for none. -/
def side? (cs : List Char) : Option (List Nat) :=
  if cs = [] then some [] else pieces? (splitOn ':' cs)

/-- The eight pieces of an address. -/
def ipv6? (cs : List Char) : Option (List Nat) :=
  match splitDouble [] cs with
  | none => (pieces? (splitOn ':' cs)).filter (·.length = 8)
  | some (before, behind) => match side? before, side? behind with
    | some a, some b =>
      -- Two colons stand for one piece at least, and decimal parts only at the very end.
      if a.length + b.length ≤ 7 ∧ before.contains '.' = false then
        some (a ++ List.replicate (8 - a.length - b.length) 0 ++ b)
      else none
    | _, _ => none

/-- The length of the run of zeros at the start. -/
def zeros (pieces : List Nat) : Nat :=
  (pieces.takeWhile (· = 0)).length

/-- The greatest length of a run of zeros. -/
def longestRun : List Nat → Nat
  | [] => 0
  | n :: ns => max (zeros (n :: ns)) (longestRun ns)

/-- Pieces with colons between them. -/
def joinPieces (pieces : List Nat) : String :=
  ":".intercalate (pieces.map (fun n => String.ofList (Nat.toDigits 16 n)))

/-- The pieces before the first run of `length` zeros, and those behind it. -/
def splitRun (length : Nat) (before : List Nat) : List Nat → List Nat × List Nat
  | [] => (before.reverse, [])
  | n :: ns =>
    if length ≤ zeros (n :: ns) then (before.reverse, (n :: ns).drop length)
    else splitRun length (n :: before) ns

/-- The text of an address: two colons for the first of its longest runs of zeros. -/
def writeIpv6 (pieces : List Nat) : String :=
  let run := longestRun pieces
  if run ≤ 1 then joinPieces pieces
  else
    let (before, behind) := splitRun run [] pieces
    joinPieces before ++ "::" ++ joinPieces behind

/-- The host between square brackets. -/
def ofIpv6 (cs : List Char) : Option String :=
  (ipv6? cs).map (fun pieces => "[" ++ writeIpv6 pieces ++ "]")

/-! ### Names -/

/-- A character that no name may have. -/
def isForbidden (c : Char) : Bool :=
  c.toNat ≤ 0x20 || c.toNat = 0x7F || "%#/:<>?@[\\]^|".toList.contains c

/-- The spelling of a label in lower case. -/
def label (cs : List Char) : List Char :=
  let cs := Text.lowerCase cs
  if cs.all (·.toNat < 0x80) then cs else "xn--".toList ++ Punycode.encode cs

/-- The host that a name or a number spells. Of the mapping of UTS 46 only the lower-case form is
    taken: characters that it replaces or leaves out stay as they are, and names are not composed.
    A label that begins with `xn--` stays as well, whether it is Punycode or not. -/
def ofDomain (cs : List Char) : Option String :=
  match Utf8.decode (Percent.decode (Utf8.encode cs)) with
  | .error _ => none
  | .ok decoded =>
    let name := ['.'].intercalate ((splitOn '.' decoded).map label)
    if name = [] ∨ name.any isForbidden then none
    else if endsInNumber name then (ipv4? name).map writeIpv4
    else some (String.ofList name)

/-- A character that no host of an unknown scheme may have. -/
def isForbiddenOpaque (c : Char) : Bool :=
  c.toNat = 0 || c = ' ' || "#/:<>?@[\\]^|".toList.contains c

/-- A byte that stands for itself where only controls are spelled out. -/
def isPlain (b : UInt8) : Bool :=
  0x20 ≤ b && b < 0x7F

/-- The host of an address whose scheme is not known. -/
def ofOpaque (cs : List Char) : Option String :=
  if cs.any isForbiddenOpaque then none
  else Utf8.text? (Percent.encode isPlain (Utf8.encode cs))

end DialogStub.Url.Host
