import DialogStub.Number.Binary64

/-!
# The shortest decimal text of a number

A number is written with the fewest digits that read back as it, and of those texts as the one
nearest to it.

* `Binary64.shortest` — the digits, and the power of ten of the first of them;
* `Layout` — how digits and power are laid out;
* `Binary64.text` — the text by the layout `Layout.compact`.
-/

namespace DialogStub

namespace Binary64

/-! ### Digits -/

/-- The decimal numbers `a * 10 ^ k` that read back as a number form an interval; `low`, `mid`
    and `high` are its ends and the number itself over the common denominator `den`, and
    `closed` tells whether the ends belong to it. -/
structure Interval where
  low : Nat
  mid : Nat
  high : Nat
  den : Nat
  closed : Bool
  deriving DecidableEq, Repr

/-- The interval around a number: half way to its two neighbours. The neighbour below a power of
    two is only half as far away. -/
def interval (x : Binary64) : Interval :=
  let m := x.coefficient
  -- A power of two has the coefficient `2 ^ 52`.
  let below := if m = 0x10000000000000 ∧ minExponent < x.exponent then 1 else 2
  let (up, down) :=
    if 2 ≤ x.exponent then (Nat.pow 2 (x.exponent - 2).toNat, 1)
    else (1, Nat.pow 2 (2 - x.exponent).toNat)
  ⟨(4 * m - below) * up, 4 * m * up, (4 * m + 2) * up, down, m % 2 = 0⟩

/-- Whether `num / den` lies in the interval. -/
def Interval.holds (i : Interval) (num den : Nat) : Bool :=
  if i.closed then i.low * den ≤ num * i.den && num * i.den ≤ i.high * den
  else i.low * den < num * i.den && num * i.den < i.high * den

/-- The least `j ≤ fuel` for which `num * 10 ^ j` reaches `den`. -/
def lift (num den : Nat) : (fuel : Nat) → Nat → Nat
  | 0, j => j
  | fuel + 1, j => if den ≤ num * Nat.pow 10 j then j else lift num den fuel (j + 1)

/-- The power of ten of the first digit of `num / den`, which is not zero. -/
def leadingPower (num den : Nat) : Int :=
  if den ≤ num then ((Nat.toDigits 10 (num / den)).length : Int) - 1
  else -(lift num den 400 1 : Int)

/-- The multiple of `10 ^ k` in the interval that is nearest to its number, as the factor of
    `10 ^ k`; a tie goes to the even factor. -/
def Interval.onGrid (i : Interval) (k : Int) : Option Nat :=
  let (up, down) := if 0 ≤ k then (Nat.pow 10 k.toNat, 1) else (1, Nat.pow 10 (-k).toNat)
  let a := i.mid * down / (i.den * up)
  match i.holds (a * up) down, i.holds ((a + 1) * up) down with
  | true, false => some a
  | false, true => some (a + 1)
  | false, false => none
  | true, true =>
    let left := 2 * (i.mid * down - a * i.den * up)
    let step := i.den * up
    if left < step then some a
    else if step < left then some (a + 1)
    else some (if a % 2 = 0 then a else a + 1)

/-- Tries grids of `digits`, `digits + 1`, … significant digits. -/
def Interval.search (i : Interval) (power : Int) : (grids digits : Nat) → Nat × Int
  | 0, _ => (0, 0)
  | grids + 1, digits =>
    let k := power - (digits : Int) + 1
    match i.onGrid k with
    | some a => (a, k)
    | none => search i power grids (digits + 1)

/-- The digits of the shortest decimal that reads back as the number, without zeros at the end,
    and the power of ten of the first digit. -/
def shortest (x : Binary64) : List Char × Int :=
  if x.coefficient = 0 then (['0'], 0)
  else
    let i := x.interval
    let (a, k) := i.search (leadingPower i.mid i.den) 17 1
    let digits := Nat.toDigits 10 a
    ((digits.reverse.dropWhile (· = '0')).reverse, k + (digits.length : Int) - 1)

end Binary64

/-! ### Layout -/

/-- How a number is laid out: the powers of the first digit between which it is written without
    an exponent. -/
structure Layout where
  least : Int
  greatest : Int
  deriving DecidableEq, Repr

/-- Numbers are written without an exponent from `0.00001` up to sixteen digits before the
    point, always with a digit behind the point; otherwise one digit stands before the point,
    and the exponent has a sign. -/
def Layout.compact : Layout := ⟨-5, 15⟩

/-- The text of digits whose first has the power of ten `power`. -/
def Layout.place (layout : Layout) (digits : List Char) (power : Int) : List Char :=
  if layout.least ≤ power ∧ power ≤ layout.greatest then
    if power < 0 then
      ['0', '.'] ++ List.replicate ((-power).toNat - 1) '0' ++ digits
    else
      let whole := power.toNat + 1
      let before := digits.take whole
      let after := digits.drop whole
      before ++ List.replicate (whole - before.length) '0' ++ ['.'] ++
        (if after.isEmpty then ['0'] else after)
  else
    let after := digits.drop 1
    digits.take 1 ++ (if after.isEmpty then [] else '.' :: after) ++ ['e'] ++
      (if power < 0 then '-' else '+') :: Nat.toDigits 10 power.natAbs

/-- The shortest text of a number. -/
def Binary64.text (x : Binary64) : List Char :=
  let (digits, power) := x.shortest
  (if x.negative then ['-'] else []) ++ Layout.compact.place digits power

end DialogStub
