/-!
# Punycode

The spelling of a label with any characters by letters, digits and hyphens: the plain characters
first, and behind them the others by their positions, in the order of their code points, as
numbers with digits of varying weight.

* `Punycode.encode` — the spelling of a label.
-/

namespace DialogStub.Punycode

/-- The digit of a value below 36: letters, then figures. -/
def digit (d : Nat) : Char :=
  if d < 26 then Char.ofNat (0x61 + d) else Char.ofNat (0x30 + (d - 26))

/-- The weight at which the digit at `k` ends a number. -/
def threshold (k bias : Nat) : Nat :=
  if k ≤ bias then 1 else if bias + 26 ≤ k then 26 else k - bias

theorem threshold_pos (k bias : Nat) : 1 ≤ threshold k bias := by
  unfold threshold
  split
  · omega
  · split <;> omega

/-- Divides `delta` by 35 until it is at most 455, and counts 36 for each time. -/
def shrink (delta k : Nat) : Nat × Nat :=
  if h : 455 < delta then shrink (delta / 35) (k + 36) else (delta, k)
termination_by delta
decreasing_by exact Nat.div_lt_self (by omega) (by omega)

/-- The bias after a number. -/
def adapt (delta count : Nat) (first : Bool) : Nat :=
  let delta := if first then delta / 700 else delta / 2
  let (delta, k) := shrink (delta + delta / count) 0
  k + 36 * delta / (delta + 38)

/-- The digits of a number. -/
def digits (bias k n : Nat) : List Char :=
  let t := threshold k bias
  if n < t then [digit n]
  else digit (t + (n - t) % (36 - t)) :: digits bias (k + 36) ((n - t) / (36 - t))
termination_by n
decreasing_by
  have := threshold_pos k bias
  have := Nat.div_le_self (n - threshold k bias) (36 - threshold k bias)
  omega

/-- What is known between two characters: the text so far, the distance from the last position,
    the bias and the number of characters that are spelled. -/
structure State where
  done : List Char
  delta : Nat
  bias : Nat
  count : Nat
  deriving DecidableEq, Repr

/-- Spells the characters equal to `code` in a label with `plain` plain characters. -/
def step (plain code : Nat) (s : State) (c : Char) : State :=
  if c.toNat < code then { s with delta := s.delta + 1 }
  else if c.toNat = code then
    ⟨s.done ++ digits s.bias 36 s.delta, 0, adapt s.delta (s.count + 1) (s.count = plain),
      s.count + 1⟩
  else s

/-- Spells the characters with the given code points, which increase from `from` on. -/
def spell (label : List Char) (plain : Nat) (start : Nat) (s : State) : List Nat → State
  | [] => s
  | code :: codes =>
    let s := { s with delta := s.delta + (code - start) * (s.count + 1) }
    let s := label.foldl (step plain code) s
    spell label plain (code + 1) { s with delta := s.delta + 1 } codes

/-- Puts a number among increasing ones, once. -/
def insertOnce (n : Nat) : List Nat → List Nat
  | [] => [n]
  | m :: ms => if n < m then n :: m :: ms else if n = m then m :: ms else m :: insertOnce n ms

/-- The spelling of a label. -/
def encode (label : List Char) : List Char :=
  let plain := label.filter (·.toNat < 0x80)
  let codes := (label.filter (0x80 ≤ ·.toNat)).foldl (fun ms c => insertOnce c.toNat ms) []
  let start := if plain = [] then [] else plain ++ ['-']
  (spell label plain.length 0x80 ⟨start, 0, 72, plain.length⟩ codes).done

end DialogStub.Punycode
