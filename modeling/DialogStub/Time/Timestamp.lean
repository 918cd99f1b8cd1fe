import DialogStub.Time.Calendar

/-!
# Points in time

* `Timestamp` — a minute counted from the Unix epoch, a second of it, which may be the leap
  second 60, and a nanosecond of that;
* `Timestamp.unixSeconds`, `Timestamp.unixMillis` — the counts that envelopes carry.

The years reach from `-262143` to `262142`, and the type holds no others.
-/

namespace DialogStub

/-- A point in time, in universal time. -/
structure Timestamp where
  minute : Int
  second : Nat
  nano : Nat
  first_le : -138910020480 ≤ minute
  le_last : minute ≤ 136837781279
  second_le : second ≤ 60
  nano_lt : nano < 1000000000
  deriving DecidableEq

namespace Timestamp

/-- The first minute of the first year. -/
def firstMinute : Int := -138910020480

/-- The last minute of the last year. -/
def lastMinute : Int := 136837781279

/-- The time made of these parts, if it is in range. -/
def ofParts? (minute : Int) (second nano : Nat) : Option Timestamp :=
  if h : firstMinute ≤ minute ∧ minute ≤ lastMinute ∧ second ≤ 60 ∧ nano < 1000000000 then
    some ⟨minute, second, nano, h.1, h.2.1, h.2.2.1, h.2.2.2⟩
  else none

/-- The start of 1970. -/
def epoch : Timestamp := ⟨0, 0, 0, by decide, by decide, by decide, by decide⟩

/-- Seconds since the Unix epoch; a leap second repeats the one before it. -/
def unixSeconds (t : Timestamp) : Int :=
  t.minute * 60 + (min t.second 59 : Nat)

/-- Milliseconds since the Unix epoch. -/
def unixMillis (t : Timestamp) : Int :=
  (t.minute * 60 + (t.second : Int)) * 1000 + (t.nano / 1000000 : Nat)

end Timestamp

end DialogStub
