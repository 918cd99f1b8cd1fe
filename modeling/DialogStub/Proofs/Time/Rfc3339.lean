import DialogStub.Proofs.Time.Calendar
import DialogStub.Time.Rfc3339

/-!
# Reading back written timestamps

* `Rfc3339.padded_digits` — a padded number has its width, and gives its value back;
* `Rfc3339.year_writeYear`, `Rfc3339.bounded_padded`, `Rfc3339.fraction_writeFraction` — each part
  is read back, with what stands behind it left over;
* `Rfc3339.read_write` — every timestamp is read back from its text.

The reader takes at most as many digits as a field has, or goes on to the first character that is no
digit. So the lemmas about digits ask for one of the two.
-/

namespace DialogStub.Rfc3339

open DialogStub.Text

/-! ### Digits -/

/-- The characters of a number: at least one, and all of them digits. -/
structure Digits (cs : List Char) : Prop where
  ne_nil : cs ≠ []
  isDigit : ∀ c ∈ cs, c.isDigit = true

/-- What may stand behind a number of any length: nothing, or no digit. -/
def NoDigit (rest : List Char) : Prop :=
  ∀ c ∈ rest.head?, digit? c = none

/-- More digits are read, up to the last one or up to the most there may be. -/
theorem moreDigits_append {cs rest : List Char} (h : ∀ c ∈ cs, c.isDigit = true) {most : Nat}
    (hlength : cs.length ≤ most) (hrest : cs.length = most ∨ NoDigit rest) (n : Nat) :
    moreDigits most n (cs ++ rest) = (Nat.ofDigitChars 10 cs n, rest) := by
  induction cs generalizing most n with
  | nil =>
    cases most with
    | zero => rfl
    | succ most =>
      have hnone := hrest.resolve_left (by simp)
      cases rest with
      | nil => rfl
      | cons c rest =>
        rw [List.nil_append, moreDigits, hnone c rfl]
        rfl
  | cons c cs ih =>
    obtain ⟨most, rfl⟩ : ∃ k, most = k + 1 := ⟨most - 1, by simp at hlength; omega⟩
    have hdigit : digit? c = some (c.toNat - 0x30) := if_pos (h c List.mem_cons_self)
    rw [List.cons_append, moreDigits, hdigit]
    dsimp only
    rw [ih (fun d hd => h d (List.mem_cons_of_mem c hd)) (by simpa using hlength)
      (hrest.imp_left (by simp)), Nat.ofDigitChars_cons, Nat.mul_comm]
    rfl

/-- A number is read up to its last digit. -/
theorem number_append {cs rest : List Char} (h : Digits cs) {most : Nat}
    (hlength : cs.length ≤ most) (hrest : cs.length = most ∨ NoDigit rest)
    (hvalue : Nat.ofDigitChars 10 cs 0 < 0x8000000000000000) :
    number most (cs ++ rest) = .ok (Nat.ofDigitChars 10 cs 0, rest) := by
  obtain ⟨hne, hdigits⟩ := h
  cases cs with
  | nil => exact absurd rfl hne
  | cons c cs =>
    have hdigit : digit? c = some (c.toNat - 0x30) := if_pos (hdigits c List.mem_cons_self)
    have hmore : moreDigits (most - 1) (c.toNat - 0x30) (cs ++ rest)
        = (Nat.ofDigitChars 10 (c :: cs) 0, rest) := by
      rw [moreDigits_append (fun d hd => hdigits d (List.mem_cons_of_mem c hd))
        (by simp at hlength; omega) (hrest.imp_left (by simp; omega)), Nat.ofDigitChars_cons]
      simp
    rw [List.cons_append, number, hdigit]
    dsimp only
    rw [hmore]
    dsimp only
    rw [if_neg (by omega)]

/-- A digit is no white space. -/
theorem trimStart_digits {cs : List Char} (h : Digits cs) (rest : List Char) :
    trimStart (cs ++ rest) = cs ++ rest := by
  obtain ⟨hne, hdigits⟩ := h
  cases cs with
  | nil => exact absurd rfl hne
  | cons c cs =>
    have hc := hdigits c List.mem_cons_self
    have hle : 0x30 ≤ c.toNat ∧ c.toNat ≤ 0x39 := by
      simpa [Char.isDigit, UInt32.le_iff_toNat_le] using hc
    have hblank : isBlank c = false := by
      simp [isBlank]
      omega
    rw [List.cons_append, trimStart, List.dropWhile_cons_of_neg (by simp [hblank])]

/-! ### Padded numbers -/

/-- A padded number is made of digits. -/
theorem padded_digits (width n : Nat) : Digits (padded width n) where
  ne_nil h := by
    have hpos : 0 < (Nat.toDigits 10 n).length := Nat.length_toDigits_pos
    have hlength := congrArg List.length h
    simp [padded] at hlength
  isDigit c hc := by
    rcases List.mem_append.mp hc with hzero | hdigit
    · rw [List.eq_of_mem_replicate hzero]
      rfl
    · exact Nat.isDigit_of_mem_toDigits (by decide) (by decide) hdigit

/-- The zeros in front do not change the number. -/
theorem ofDigitChars_padded (width n : Nat) : Nat.ofDigitChars 10 (padded width n) 0 = n := by
  unfold padded
  dsimp only
  rw [Nat.ofDigitChars_append, Nat.ofDigitChars_replicate_zero, Nat.mul_zero,
    Nat.ofDigitChars_ten_toDigits]

/-- A padded number has the width that it is padded to, if it is not wider by itself. -/
theorem length_padded {width n : Nat} (hwidth : 0 < width) (h : n < Nat.pow 10 width) :
    (padded width n).length = width := by
  have hlength := (Nat.length_toDigits_le_iff (b := 10) (n := n) (by decide) hwidth).mpr h
  simp [padded]
  omega

/-- A padded number is read back. -/
theorem number_padded {width n : Nat} (hwidth : 0 < width) (h : n < Nat.pow 10 width) {most : Nat}
    (hmost : width ≤ most) {rest : List Char} (hrest : width = most ∨ NoDigit rest)
    (hvalue : n < 0x8000000000000000) :
    number most (padded width n ++ rest) = .ok (n, rest) := by
  have hlength := length_padded hwidth h
  have hends : (padded width n).length = most ∨ NoDigit rest := by rwa [hlength]
  rw [number_append (padded_digits width n) (by omega) hends (by rwa [ofDigitChars_padded]),
    ofDigitChars_padded]

/-- A field of two digits is read back. -/
theorem bounded_padded {least most n : Nat} (hle : least ≤ n ∧ n ≤ most) (h : n < 100)
    (rest : List Char) : bounded least most (padded 2 n ++ rest) = .ok (n, rest) := by
  rw [bounded, trimStart_digits (padded_digits 2 n),
    number_padded (by decide) h (Nat.le_refl 2) (.inl rfl) (by omega)]
  exact if_pos hle

/-! ### The parts of a timestamp -/

/-- A mark that stands there is read. -/
theorem mark_cons {c : Char} (h : isBlank c = false) (rest : List Char) :
    mark c (c :: rest) = .ok ((), rest) := by
  rw [mark, trimStart, List.dropWhile_cons_of_neg (by simp [h])]
  exact if_pos rfl

/-- A text that begins with another character begins with no digit. -/
theorem noDigit_cons {c : Char} (h : digit? c = none) (rest : List Char) : NoDigit (c :: rest) := by
  intro d hd
  cases hd
  exact h

theorem divider_T (rest : List Char) : divider ('T' :: rest) = .ok ((), rest) := rfl

/-- A year that 32 bits hold. -/
def narrow (y : Int × List Char) : Except Fault (Int × List Char) :=
  if -0x80000000 ≤ y.1 ∧ y.1 < 0x80000000 then .ok y else .error .range

theorem narrow_of_mem {y : Int × List Char} (h : -0x80000000 ≤ y.1 ∧ y.1 < 0x80000000) :
    narrow y = .ok y :=
  if_pos h

section Years

variable {cs rest : List Char} {n : Nat}

/-- A year with a sign in front is the number behind it. -/
theorem year_minus (h : number cs.length cs = .ok (n, rest)) (hn : n < 0x80000000) :
    year ('-' :: cs) = .ok (-(n : Int), rest) := by
  rw [year, trimStart, List.dropWhile_cons_of_neg (by decide)]
  show ((number cs.length cs).map _).bind narrow = _
  rw [h, Except.map, Except.bind, narrow_of_mem]
  dsimp only
  omega

/-- A year with a sign may have any number of digits. -/
theorem year_plus (h : number cs.length cs = .ok (n, rest)) (hn : n < 0x80000000) :
    year ('+' :: cs) = .ok ((n : Int), rest) := by
  rw [year, trimStart, List.dropWhile_cons_of_neg (by decide)]
  show ((number cs.length cs).map _).bind narrow = _
  rw [h, Except.map, Except.bind, narrow_of_mem]
  dsimp only
  omega

/-- A year without a sign has at most four digits. -/
theorem year_digits {digits : List Char} (hdigits : Digits digits)
    (h : number 4 (digits ++ cs) = .ok (n, rest)) (hn : n < 0x80000000) :
    year (digits ++ cs) = .ok ((n : Int), rest) := by
  rw [year, trimStart_digits hdigits]
  obtain ⟨hne, hall⟩ := hdigits
  cases digits with
  | nil => exact absurd rfl hne
  | cons c digits =>
    have hc := hall c List.mem_cons_self
    rw [List.cons_append] at h ⊢
    -- A digit is neither of the two signs.
    split
    · rename_i heq
      cases (List.cons.inj heq).1
      exact absurd hc (by decide)
    · rename_i heq
      cases (List.cons.inj heq).1
      exact absurd hc (by decide)
    · show ((number 4 (c :: (digits ++ cs))).map _).bind narrow = _
      rw [h, Except.map, Except.bind, narrow_of_mem]
      dsimp only
      omega

end Years

/-- A year is read back up to the mark behind it. -/
theorem year_writeYear {y : Int} (h : -262143 ≤ y ∧ y ≤ 262142) (rest : List Char) :
    year (writeYear y ++ '-' :: rest) = .ok (y, '-' :: rest) := by
  -- A year with a sign may have any number of digits, and none is longer than the text.
  have hlong (n : Nat) (hn : n < 0x8000000000000000) :
      number (padded 4 n ++ '-' :: rest).length (padded 4 n ++ '-' :: rest)
        = .ok (n, '-' :: rest) := by
    rw [number_append (padded_digits 4 n) (by simp) (.inr (noDigit_cons (by decide) rest))
      (by rwa [ofDigitChars_padded]), ofDigitChars_padded]
  unfold writeYear
  by_cases hplain : 0 ≤ y ∧ y ≤ 9999
  · have hvalue : ((y.toNat : Nat) : Int) = y := by omega
    have hnumber : number 4 (padded 4 y.toNat ++ '-' :: rest) = .ok (y.toNat, '-' :: rest) :=
      number_padded (by decide) (show y.toNat < 10000 by omega) (Nat.le_refl 4) (.inl rfl)
        (by omega)
    rw [if_pos hplain, year_digits (padded_digits 4 _) hnumber (by omega), hvalue]
  · rw [if_neg hplain]
    by_cases hneg : y < 0
    · have hvalue : -((y.natAbs : Nat) : Int) = y := by omega
      rw [if_pos hneg, List.cons_append, year_minus (hlong _ (by omega)) (by omega), hvalue]
    · have hvalue : ((y.natAbs : Nat) : Int) = y := by omega
      rw [if_neg hneg, List.cons_append, year_plus (hlong _ (by omega)) (by omega), hvalue]

/-- A fraction is read back from the digits that it needs. -/
theorem fraction_writeFraction {nano : Nat} (h : nano < 1000000000) :
    fraction (writeFraction nano ++ ['Z']) = .ok (nano, ['Z']) := by
  have hdigits {width n : Nat} (hwidth : 0 < width) (hle : width ≤ 9) (hn : n < 10 ^ width)
      (hvalue : n < 0x8000000000000000) :
      fraction ('.' :: (padded width n ++ ['Z'])) = .ok (n * 10 ^ (9 - width), ['Z']) := by
    have hlength := length_padded hwidth hn
    have hcount : (padded width n ++ ['Z']).length - ['Z'].length = width := by simp [hlength]
    show (number 9 (padded width n ++ ['Z'])).bind _ = _
    rw [number_padded hwidth hn hle (.inr (noDigit_cons (by decide) [])) hvalue]
    show Except.ok (_ * Nat.pow 10 (9 - ((padded width n ++ ['Z']).length - ['Z'].length)), _) = _
    rw [hcount]
    rfl
  unfold writeFraction
  by_cases hzero : nano = 0
  · subst hzero
    rfl
  rw [if_neg hzero]
  -- Three, six or nine digits are written, the fewest that are enough.
  by_cases hmilli : nano % 1000000 = 0
  · rw [if_pos hmilli, List.cons_append, hdigits (by decide) (by decide) (by omega) (by omega)]
    simp
    omega
  rw [if_neg hmilli]
  by_cases hmicro : nano % 1000 = 0
  · rw [if_pos hmicro, List.cons_append, hdigits (by decide) (by decide) (by omega) (by omega)]
    simp
    omega
  · rw [if_neg hmicro, List.cons_append, hdigits (by decide) (by decide) (by omega) (by omega)]
    simp

/-! ### Timestamps -/

/-- The years of the dates of all timestamps. -/
theorem year_mem (t : Timestamp) :
    -262143 ≤ (Calendar.dateOf (t.minute / 1440)).year ∧
      (Calendar.dateOf (t.minute / 1440)).year ≤ 262142 := by
  have hfirst := t.first_le
  have hlast := t.le_last
  exact Calendar.dateOf_year_mem (by omega) (by omega)

/-- The parts of a time make this time. -/
theorem resolve_parts (t : Timestamp) :
    resolve (Calendar.dateOf (t.minute / 1440)) ((t.minute % 1440).toNat / 60)
      ((t.minute % 1440).toNat % 60) t.second t.nano 0 = .ok t := by
  have hfirst := t.first_le
  have hlast := t.le_last
  have hyear := year_mem t
  have hrange : yearInRange (Calendar.dateOf (t.minute / 1440)).year = true := by
    simpa [yearInRange] using hyear
  have hminute : t.minute / 1440 * 1440 + (((t.minute % 1440).toNat / 60 * 60 +
      (t.minute % 1440).toNat % 60 : Nat) : Int) - 0 = t.minute := by
    omega
  have hparts : Timestamp.ofParts? t.minute t.second t.nano = some t :=
    dif_pos ⟨hfirst, hlast, t.second_le, t.nano_lt⟩
  -- The date is one of the calendar and in range, so nothing is refused.
  unfold resolve
  rw [hrange, Calendar.dateOf_isValid, if_neg (by decide), if_neg (by decide),
    Calendar.daysOf_dateOf]
  dsimp only
  rw [hminute, hparts]

/-- **A timestamp is read back from its text.** -/
theorem read_write (t : Timestamp) : read (write t) = .ok t := by
  have hfirst := t.first_le
  have hlast := t.le_last
  have hyear := year_mem t
  have hvalid := Calendar.dateOf_isValid (t.minute / 1440)
  have hsecond := t.second_le
  have hparts := resolve_parts t
  unfold write
  generalize Calendar.dateOf (t.minute / 1440) = date at *
  have hmonth := Calendar.Date.month_mem hvalid
  have hday := Calendar.Date.day_mem hvalid
  dsimp only
  simp only [List.append_assoc, List.cons_append, List.nil_append]
  -- Part by part: what is written before a divider is read, and the divider is left over.
  unfold read
  rw [year_writeYear hyear]
  simp only [bind, Except.bind]
  rw [mark_cons (by decide)]
  dsimp only
  rw [bounded_padded hmonth (by omega)]
  dsimp only
  rw [mark_cons (by decide)]
  dsimp only
  rw [bounded_padded hday (by omega)]
  dsimp only
  rw [divider_T]
  dsimp only
  rw [bounded_padded ⟨by omega, by omega⟩ (by omega)]
  dsimp only
  rw [mark_cons (by decide)]
  dsimp only
  rw [bounded_padded ⟨by omega, by omega⟩ (by omega)]
  dsimp only
  rw [mark_cons (by decide)]
  dsimp only
  rw [bounded_padded ⟨by omega, hsecond⟩ (by omega)]
  dsimp only
  rw [fraction_writeFraction t.nano_lt]
  exact hparts

end DialogStub.Rfc3339
