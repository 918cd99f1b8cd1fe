import DialogStub.Config

/-!
# Numbers among the settings

Which texts a duration can be read from, and which number each of them stands for.

* `Config.Numeral` — a text of decimal digits below `2 ^ 64`, with at most one plus sign in front;
* `Config.digitsFrom_eq_some_iff` — the loop over the digits stops in time at numbers that are too
  large;
* `Config.number?_eq_some_iff` — numbers are read from numerals, and as what they stand for;
* `Config.numeral_toString` — every number has its decimal text for a numeral.

The length of a text says nothing about its number, since zeros may stand in front. The loop looks
at the number after each digit, and the numbers it passes only grow.
-/

namespace DialogStub.Config

/-- Nothing, or a plus sign. -/
def IsSign (sign : List Char) : Prop :=
  sign = [] ∨ sign = ['+']

/-- At least one character, and all of them decimal digits. -/
def AreDigits (digits : List Char) : Prop :=
  digits ≠ [] ∧ ∀ c ∈ digits, c.isDigit = true

/-- The number that decimal digits stand for. -/
def valueOf (digits : List Char) : Nat :=
  Nat.ofDigitChars 10 digits 0

/-- A text is a numeral for `n`: the digits of `n`, perhaps behind zeros and a plus sign, and `n` is
    a number of 64 bits. -/
def Numeral (text : String) (n : Nat) : Prop :=
  ∃ sign digits, text.toList = sign ++ digits ∧ IsSign sign ∧ AreDigits digits ∧
    valueOf digits = n ∧ n < 0x10000000000000000

/-! ### The loop over the digits -/

theorem isDigit_iff {c : Char} : c.isDigit = true ↔ '0' ≤ c ∧ c ≤ '9' := by
  rw [Char.isDigit, Bool.and_eq_true, decide_eq_true_eq, decide_eq_true_eq]
  rfl

/-- A number only grows with the digits behind it. -/
theorem le_ofDigitChars (value : Nat) (digits : List Char) :
    value ≤ Nat.ofDigitChars 10 digits value := by
  rw [Nat.ofDigitChars_eq_ofDigitChars_zero]
  have hpow : 0 < 10 ^ digits.length := Nat.pow_pos (by decide)
  have hmul : 1 * value ≤ 10 ^ digits.length * value := Nat.mul_le_mul_right value hpow
  omega

/-- **The loop over the digits** gives the number of a text exactly if all of it is digits and the
    number is below `2 ^ 64`. -/
theorem digitsFrom_eq_some_iff {value n : Nat} {cs : List Char}
    (hvalue : value < 0x10000000000000000) :
    digitsFrom value cs = some n ↔
      (∀ c ∈ cs, c.isDigit = true) ∧ Nat.ofDigitChars 10 cs value = n ∧
        n < 0x10000000000000000 := by
  induction cs generalizing value with
  | nil =>
    rw [digitsFrom, Option.some.injEq]
    constructor
    · rintro rfl
      exact ⟨by simp, rfl, hvalue⟩
    · rintro ⟨-, hn, -⟩
      exact hn
  | cons c cs ih =>
    have hnext : value * 10 + (c.toNat - '0'.toNat) = 10 * value + (c.toNat - '0'.toNat) := by
      omega
    rw [digitsFrom, List.forall_mem_cons, Nat.ofDigitChars_cons, hnext]
    by_cases hc : '0' ≤ c ∧ c ≤ '9'
    · rw [if_pos hc]
      dsimp only
      by_cases hlt : 10 * value + (c.toNat - '0'.toNat) < 0x10000000000000000
      · rw [if_pos hlt, ih hlt, and_iff_right (isDigit_iff.mpr hc)]
      · -- Whatever digits follow, the number does not come down again.
        rw [if_neg hlt]
        constructor
        · intro h
          cases h
        · rintro ⟨-, rfl, hn⟩
          have hle := le_ofDigitChars (10 * value + (c.toNat - '0'.toNat)) cs
          omega
    · rw [if_neg hc]
      constructor
      · intro h
        cases h
      · rintro ⟨⟨hdigit, -⟩, -⟩
        exact absurd (isDigit_iff.mp hdigit) hc

/-! ### The optional plus sign -/

/-- Behind an optional plus sign a number is read from the digits. -/
theorem number?_append {sign digits : List Char} (hsign : IsSign sign)
    (hdigits : AreDigits digits) : number? (sign ++ digits) = digitsFrom 0 digits := by
  obtain ⟨hne, hall⟩ := hdigits
  cases digits with
  | nil => exact absurd rfl hne
  | cons c cs =>
    rcases hsign with rfl | rfl
    · have hplus : c ≠ '+' := by
        rintro rfl
        exact absurd (hall '+' List.mem_cons_self) (by decide)
      simp [number?, hplus]
    · rfl

/-- A number is only read from digits, with at most one plus sign in front of them. -/
theorem exists_of_number? {cs : List Char} {n : Nat} (h : number? cs = some n) :
    ∃ sign digits, cs = sign ++ digits ∧ IsSign sign ∧ digits ≠ [] ∧
      digitsFrom 0 digits = some n := by
  unfold number? at h
  split at h
  · cases h
  · cases h
  · rename_i digits hne
    exact ⟨['+'], digits, rfl, .inr rfl, by rintro rfl; exact hne rfl, h⟩
  · rename_i hne _ _
    exact ⟨[], cs, rfl, .inl rfl, hne, h⟩

/-- **Numbers are read from numerals**, and each as the number it is the numeral of. -/
theorem number?_eq_some_iff {text : String} {n : Nat} :
    number? text.toList = some n ↔ Numeral text n := by
  have hzero : 0 < 0x10000000000000000 := by decide
  constructor
  · intro h
    obtain ⟨sign, digits, htext, hsign, hne, hread⟩ := exists_of_number? h
    obtain ⟨hall, hvalue, hlt⟩ := (digitsFrom_eq_some_iff hzero).mp hread
    exact ⟨sign, digits, htext, hsign, ⟨hne, hall⟩, hvalue, hlt⟩
  · rintro ⟨sign, digits, htext, hsign, hdigits, hvalue, hlt⟩
    rw [htext, number?_append hsign hdigits]
    exact (digitsFrom_eq_some_iff hzero).mpr ⟨hdigits.2, hvalue, hlt⟩

/-- Digits of a number that takes more than 64 bits are no numeral, however many zeros they begin
    with. -/
theorem not_numeral_of_le {text : String} {sign digits : List Char}
    (htext : text.toList = sign ++ digits) (hsign : IsSign sign) (hdigits : AreDigits digits)
    (hle : 0x10000000000000000 ≤ valueOf digits) (n : Nat) : ¬Numeral text n := by
  intro h
  have hread := number?_eq_some_iff.mpr h
  rw [htext, number?_append hsign hdigits, digitsFrom_eq_some_iff (by decide)] at hread
  obtain ⟨-, hvalue, hlt⟩ := hread
  unfold valueOf at hle
  omega

/-! ### The decimal text of a number -/

/-- The decimal text of a number stands for it, also behind zeros. -/
theorem valueOf_zeros_append (zeros n : Nat) :
    valueOf (List.replicate zeros '0' ++ (toString n).toList) = n := by
  show Nat.ofDigitChars 10 (List.replicate zeros '0' ++ n.repr.toList) 0 = n
  rw [Nat.ofDigitChars_append, Nat.ofDigitChars_replicate_zero, Nat.mul_zero, Nat.toList_repr,
    Nat.ofDigitChars_ten_toDigits]

/-- Zeros before a number are digits as well. -/
theorem areDigits_zeros_append (zeros n : Nat) :
    AreDigits (List.replicate zeros '0' ++ (toString n).toList) := by
  have hrepr : (toString n).toList = Nat.toDigits 10 n := Nat.toList_repr
  rw [AreDigits, hrepr]
  constructor
  · intro hnil
    exact Nat.toDigits_ne_nil (List.append_eq_nil_iff.mp hnil).2
  · intro c hc
    rcases List.mem_append.mp hc with hzero | hdigit
    · rw [List.eq_of_mem_replicate hzero]
      decide
    · exact Nat.isDigit_of_mem_toDigits (by decide) (by decide) hdigit

/-- **The decimal text of a number of 64 bits is a numeral of it**, with any number of zeros and at
    most one plus sign in front. -/
theorem numeral_toString {text : String} {sign : List Char} {zeros n : Nat}
    (htext : text.toList = sign ++ (List.replicate zeros '0' ++ (toString n).toList))
    (hsign : IsSign sign) (hn : n < 0x10000000000000000) : Numeral text n :=
  ⟨sign, _, htext, hsign, areDigits_zeros_append zeros n, valueOf_zeros_append zeros n, hn⟩

end DialogStub.Config
