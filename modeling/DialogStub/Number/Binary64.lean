/-!
# Finite numbers of the format binary64

A sign, a coefficient below `2 ^ 53` and a power of two between `-1074` and `971`. All
arithmetic is exact on natural numbers and rounds once, to the nearest number of the format, a
tie to the even coefficient.

* `Binary64.ofRatio` — the number nearest to a ratio, if it is in range;
* `Binary64.scale` — a number multiplied by a power of ten;
* `Binary64.ofDecimal` — the number that a decimal significand and exponent are read as.
-/

namespace DialogStub

/-- A finite number `±coefficient * 2 ^ exponent`. -/
structure Binary64 where
  negative : Bool
  coefficient : Nat
  exponent : Int
  deriving DecidableEq, Repr

namespace Binary64

/-- The least exponent of the format. -/
def minExponent : Int := -1074

/-- The greatest exponent of the format. -/
def maxExponent : Int := 971

/-- Zero, with a sign. -/
def zero (negative : Bool) : Binary64 := ⟨negative, 0, minExponent⟩

/-! ### Rounding -/

/-- The integer nearest to `num / den`, a half going to the even neighbour. -/
def divNearest (num den : Nat) : Nat :=
  let q := num / den
  let twice := 2 * (num % den)
  if twice < den then q
  else if den < twice then q + 1
  else if q % 2 = 0 then q else q + 1

/-- The ratio `num / den` divided by `2 ^ e`, as a ratio. -/
def dividePower (num den : Nat) (e : Int) : Nat × Nat :=
  if 0 ≤ e then (num, den * Nat.pow 2 e.toNat) else (num * Nat.pow 2 (-e).toNat, den)

/-- The exponent with which the number nearest to `num / den` is written: the least one that
    leaves a coefficient below `2 ^ 53`. -/
def exponentFor (num den : Nat) : Int :=
  let guess : Int := (num.log2 : Int) - (den.log2 : Int) - 53
  let (n, d) := dividePower num den guess
  max minExponent (if n < d * 0x20000000000000 then guess else guess + 1)

/-- The number nearest to `num / den`, or `none` if it is beyond the greatest of the format. -/
def ofRatio (negative : Bool) (num den : Nat) : Option Binary64 :=
  if num = 0 then some (zero negative)
  else
    let e := exponentFor num den
    let (n, d) := dividePower num den e
    let m := divNearest n d
    -- A coefficient that is rounded up to `2 ^ 53` is written with the next exponent.
    let (m, e) := if m = 0x20000000000000 then (0x10000000000000, e + 1) else (m, e)
    if maxExponent < e then none else some ⟨negative, m, e⟩

/-- The magnitude of a number as a ratio. -/
def ratio (x : Binary64) : Nat × Nat :=
  if 0 ≤ x.exponent then (x.coefficient * Nat.pow 2 x.exponent.toNat, 1)
  else (x.coefficient, Nat.pow 2 (-x.exponent).toNat)

/-! ### Decimal input -/

/-- The greatest power of ten of the format. -/
def maxPower : Nat := 308

/-- The number nearest to `10 ^ k`, for `k ≤ 308`. -/
def power (k : Nat) : Binary64 :=
  (ofRatio false (Nat.pow 10 k) 1).getD (zero false)

/-- The product of two numbers. -/
def mul? (x y : Binary64) : Option Binary64 :=
  let (a, b) := x.ratio
  let (c, d) := y.ratio
  ofRatio (x.negative != y.negative) (a * c) (b * d)

/-- The quotient of two numbers, the second of which is not zero. -/
def div? (x y : Binary64) : Option Binary64 :=
  let (a, b) := x.ratio
  let (c, d) := y.ratio
  ofRatio (x.negative != y.negative) (a * d) (b * c)

/-- The number `x * 10 ^ k`, or `none` if it is out of range. A power beyond `10 ^ 308` is out
    of range when it multiplies; when it divides it is taken in steps of `10 ^ 308`, of which
    `steps` are allowed before nothing is left. -/
def scale (x : Binary64) (k : Int) : (steps : Nat) → Option Binary64
  | 0 => some (zero x.negative)
  | steps + 1 =>
    if k.natAbs ≤ maxPower then
      if 0 ≤ k then x.mul? (power k.toNat) else x.div? (power k.natAbs)
    else if x.coefficient = 0 then some x
    else if 0 ≤ k then none
    else match x.div? (power maxPower) with
      | some y => scale y (k + maxPower) steps
      | none => none

/-- The number that `significand * 10 ^ k` is read as, or `none` if it is out of range: the
    significand and the power are each rounded, and so is their product. -/
def ofDecimal (negative : Bool) (significand : Nat) (k : Int) : Option Binary64 :=
  match ofRatio negative significand 1 with
  | some x => scale x k 4
  | none => none

/-- The number nearest to a natural number below `2 ^ 1023`, with a sign. -/
def ofNat (negative : Bool) (n : Nat) : Binary64 :=
  (ofRatio negative n 1).getD (zero negative)

/-- The number nearest to an integer. -/
def ofInt (n : Int) : Binary64 :=
  ofNat (n < 0) n.natAbs

end Binary64

end DialogStub
