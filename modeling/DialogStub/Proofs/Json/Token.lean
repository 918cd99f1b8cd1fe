import DialogStub.Json.Printer
import DialogStub.Json.Token
import DialogStub.Proofs.Text.Utf8

/-!
# Reading back printed words

* `Json.readString_printString`, `Json.skipString_printString` — a string is read, or passed over,
  up to its closing quote;
* `Json.exists_print_int_eq` — an integer is passed over up to a byte that belongs to no number.

A printed character is an escape of a letter, an escape of four digits, or stands for itself; both
scanners are followed through these three cases.
-/

namespace DialogStub.Json

/-! ### Characters -/

/-- A byte that stands for itself in a string. -/
def IsPlain (b : UInt8) : Prop :=
  b ≠ 0x22 ∧ b ≠ 0x5C ∧ ¬b < 0x20

/-- A character of one byte has its own value, and others have no byte of ASCII. -/
theorem toNat_of_mem_encodeChar {c : Char} {b : UInt8} (h : b ∈ Utf8.encodeChar c) :
    b.toNat = c.toNat ∨ 0x80 ≤ b.toNat := by
  have hmax : c.toNat < 0x110000 := by
    rcases c.valid with h | h
    · exact Nat.lt_trans h (by decide)
    · exact h.2
  unfold Utf8.encodeChar at h
  dsimp only at h
  -- One byte is its own value; of two, three or four, each is at least 0x80.
  split at h
  · rw [List.mem_singleton.mp h, Utf8.toNat_ofNat (by omega)]
    exact .inl rfl
  · refine .inr ?_
    split at h
    · simp only [List.mem_cons, List.not_mem_nil, or_false] at h
      rcases h with rfl | rfl
      all_goals rw [Utf8.toNat_ofNat (by omega)]; omega
    · split at h
      · simp only [List.mem_cons, List.not_mem_nil, or_false] at h
        rcases h with rfl | rfl | rfl
        all_goals rw [Utf8.toNat_ofNat (by omega)]; omega
      · simp only [List.mem_cons, List.not_mem_nil, or_false] at h
        rcases h with rfl | rfl | rfl | rfl
        all_goals rw [Utf8.toNat_ofNat (by omega)]; omega

/-- The bytes of a character that is not escaped are plain. -/
theorem isPlain_of_mem_encodeChar {c : Char} (hc : 0x20 ≤ c.toNat) (hquote : c.toNat ≠ 0x22)
    (hslash : c.toNat ≠ 0x5C) : ∀ b ∈ Utf8.encodeChar c, IsPlain b := by
  intro b hb
  have hvalue := toNat_of_mem_encodeChar hb
  refine ⟨?_, ?_, ?_⟩
  · rintro rfl
    simp at hvalue
    omega
  · rintro rfl
    simp at hvalue
    omega
  · rw [UInt8.lt_iff_toNat_lt]
    simp
    omega

/-- **Printed characters.** A character is printed as an escape of a letter, as an escape of four
    digits, or as it is. -/
theorem printChar_cases (c : Char) :
    (∃ letter, printChar c = [0x5C, letter] ∧ letter ≠ 0x75 ∧
      escaped? letter = some (UInt8.ofNat c.toNat) ∧ Utf8.encodeChar c = [UInt8.ofNat c.toNat]) ∨
    (c.toNat < 0x20 ∧ printChar c =
      [0x5C, 0x75, 0x30, 0x30, hexDigit (c.toNat / 16), hexDigit (c.toNat % 16)]) ∨
    (printChar c = Utf8.encodeChar c ∧ ∀ b ∈ Utf8.encodeChar c, IsPlain b) := by
  have hsingle : c.toNat < 0x80 → Utf8.encodeChar c = [UInt8.ofNat c.toNat] := fun h => if_pos h
  unfold printChar
  split
  -- The last case is that of all characters without an escape of their own.
  case h_8 n hquote hslash _ _ _ _ _ =>
    by_cases hcontrol : c.toNat < 0x20
    · exact .inr (.inl ⟨hcontrol, if_pos hcontrol⟩)
    · exact .inr (.inr ⟨if_neg hcontrol, isPlain_of_mem_encodeChar (by omega) hquote hslash⟩)
  all_goals
    rename_i heq
    rw [heq] at hsingle ⊢
    exact .inl ⟨_, rfl, by decide, rfl, hsingle (by decide)⟩

/-! ### Strings -/

/-- Bytes that stand for themselves are taken as they are. -/
theorem scanString_plain {bs : Bytes} (h : ∀ b ∈ bs, IsPlain b) (done rest : Bytes) :
    scanString .plain done (bs ++ rest) = scanString .plain (bs.reverse ++ done) rest := by
  induction bs generalizing done with
  | nil => rfl
  | cons b bs ih =>
    obtain ⟨hquote, hslash, hcontrol⟩ := h b (by simp)
    rw [List.cons_append, scanString, if_neg hquote, if_neg hslash, if_neg hcontrol,
      ih (fun x hx => h x (by simp [hx])), List.reverse_cons, List.append_assoc]
    rfl

/-- Plain bytes are passed over. -/
theorem skipString_plain {bs : Bytes} (h : ∀ b ∈ bs, IsPlain b) (rest : Bytes) :
    skipString .plain (bs ++ rest) = skipString .plain rest := by
  induction bs with
  | nil => rfl
  | cons b bs ih =>
    obtain ⟨hquote, hslash, hcontrol⟩ := h b (by simp)
    rw [List.cons_append, skipString, if_neg hquote, if_neg hslash, if_neg hcontrol,
      ih (fun x hx => h x (by simp [hx]))]

/-- A hexadecimal digit has its value. -/
theorem hexValue?_hexDigit : ∀ d < 16, Percent.hexValue? (hexDigit d) = some d := by
  decide

/-- A printed digit is read with its value. -/
theorem hexStep_hexDigit {d : Nat} (value : Nat) (h : d < 16) :
    hexStep (some value) (hexDigit d) = some (value * 16 + d) := by
  unfold hexStep
  rw [hexValue?_hexDigit d h]

/-- A unit below the surrogates is a character. -/
theorem unit16_toNat {c : Char} (h : c.toNat < 0x20) : unit16 c.toNat none = .char c := by
  rw [unit16, if_neg (by omega), if_neg (by omega)]
  exact congrArg Unit16.char (Char.ofNat_toNat c)

/-- **One character.** A printed character is read as the bytes of this character. -/
theorem scanString_printChar (c : Char) (done rest : Bytes) :
    scanString .plain done (printChar c ++ rest)
      = scanString .plain ((Utf8.encodeChar c).reverse ++ done) rest := by
  rcases printChar_cases c with ⟨letter, hprint, hu, hescape, hencode⟩ | ⟨hc, hprint⟩ |
    ⟨hprint, hplain⟩
  · rw [hprint, hencode]
    simp only [List.cons_append, List.nil_append, scanString]
    rw [if_neg (by decide), if_pos trivial, if_neg hu, hescape]
    rfl
  · -- Two digits are zero, and the others give the value back.
    have hzero : hexStep (some 0) 0x30 = some 0 := by decide
    have hvalue : (0 * 16 + c.toNat / 16) * 16 + c.toNat % 16 = c.toNat := by omega
    rw [hprint]
    simp only [List.cons_append, List.nil_append, scanString]
    rw [if_neg (by decide), if_pos trivial, if_pos trivial, if_pos (by decide), if_pos (by decide),
      if_pos (by decide), if_neg (by decide), hzero, hzero, hexStep_hexDigit 0 (by omega),
      hexStep_hexDigit _ (by omega), hvalue]
    dsimp only
    rw [unit16_toNat hc]
  · rw [hprint]
    exact scanString_plain hplain done rest

/-- A printed character is passed over. -/
theorem skipString_printChar (c : Char) (rest : Bytes) :
    skipString .plain (printChar c ++ rest) = skipString .plain rest := by
  -- A letter behind a backslash, four hexadecimal digits, or the character itself.
  rcases printChar_cases c with ⟨letter, hprint, hu, hescape, -⟩ | ⟨hc, hprint⟩ |
    ⟨hprint, hplain⟩
  · rw [hprint]
    simp only [List.cons_append, List.nil_append, skipString]
    rw [if_neg (by decide), if_pos trivial, if_neg hu, hescape]
    rfl
  · have hzero : hexStep (some 0) 0x30 = some 0 := by decide
    rw [hprint]
    simp only [List.cons_append, List.nil_append, skipString]
    rw [if_neg (by decide), if_pos trivial, if_pos trivial, if_pos (by decide), if_pos (by decide),
      if_pos (by decide), if_neg (by decide), hzero, hzero, hexStep_hexDigit 0 (by omega),
      hexStep_hexDigit _ (by omega)]
    rfl
  · rw [hprint]
    exact skipString_plain hplain rest

/-- Printed characters are read as their bytes. -/
theorem scanString_printed (cs : List Char) (done rest : Bytes) :
    scanString .plain done (cs.flatMap printChar ++ 0x22 :: rest)
      = .ok (done.reverse ++ Utf8.encode cs, rest) := by
  induction cs generalizing done with
  | nil =>
    rw [Utf8.encode_nil, List.append_nil]
    rfl
  | cons c cs ih =>
    rw [List.flatMap_cons, List.append_assoc, scanString_printChar, ih, List.reverse_append,
      List.reverse_reverse, List.append_assoc, Utf8.encode_cons]

/-- **A printed string is read as this string**, behind its opening quote. -/
theorem readString_printString (s : String) (rest : Bytes) :
    readString (s.toList.flatMap printChar ++ 0x22 :: rest) = .ok (s, rest) := by
  rw [readString, scanString_printed]
  dsimp only
  rw [List.reverse_nil, List.nil_append, Utf8.decode_encode]
  dsimp only
  rw [String.ofList_toList]

/-- A printed string is passed over, behind its opening quote. -/
theorem skipString_printString (s : String) (rest : Bytes) :
    skipString .plain (s.toList.flatMap printChar ++ 0x22 :: rest) = .ok rest := by
  induction s.toList with
  | nil => rfl
  | cons c cs ih => rw [List.flatMap_cons, List.append_assoc, skipString_printChar, ih]

/-! ### Integers -/

/-- What may stand behind a number: no digit, no point and no exponent. -/
def EndsNumber (rest : Bytes) : Prop :=
  ∀ b ∈ rest.head?, digit? b = none ∧ b ≠ 0x2E ∧ b ≠ 0x65 ∧ b ≠ 0x45

/-- A digit is one byte, with the value of the digit. -/
theorem encodeChar_digit {c : Char} (h : c.isDigit = true) :
    ∃ b, Utf8.encodeChar c = [b] ∧ digit? b = some (c.toNat - 0x30) ∧ b ≠ 0x2D := by
  have hle : 0x30 ≤ c.toNat ∧ c.toNat ≤ 0x39 := by
    simpa [Char.isDigit, UInt32.le_iff_toNat_le] using h
  have hvalue : (UInt8.ofNat c.toNat).toNat = c.toNat := Utf8.toNat_ofNat (by omega)
  refine ⟨UInt8.ofNat c.toNat, if_pos (by omega), ?_, ?_⟩
  · rw [digit?, if_pos (by simpa [UInt8.le_iff_toNat_le, hvalue] using hle), hvalue]
  · intro heq
    have := congrArg UInt8.toNat heq
    rw [hvalue] at this
    have : c.toNat = 0x2D := this
    omega

/-- The digits of a number are counted. -/
theorem countDigits_encode {cs : List Char} (h : ∀ c ∈ cs, c.isDigit = true) {rest : Bytes}
    (hrest : EndsNumber rest) (count : Nat) :
    countDigits count (Utf8.encode cs ++ rest) = (count + cs.length, rest) := by
  induction cs generalizing count with
  | nil =>
    cases rest with
    | nil => rfl
    | cons b rest =>
      have hb := (hrest b rfl).1
      rw [Utf8.encode_nil, List.nil_append, countDigits, hb]
      rfl
  | cons c cs ih =>
    obtain ⟨b, hencode, hb, -⟩ := encodeChar_digit (h c (by simp))
    rw [Utf8.encode_cons, hencode, List.append_assoc, List.singleton_append, countDigits, hb,
      Option.isSome_some, if_pos rfl, ih (fun x hx => h x (by simp [hx])), List.length_cons,
      Nat.add_assoc, Nat.add_comm 1]

/-- The first digit of a number is not zero, unless the number is. -/
theorem exists_toDigits_eq_cons {n : Nat} (hn : 0 < n) :
    ∃ c cs, Nat.toDigits 10 n = c :: cs ∧ 0x30 < c.toNat := by
  induction n using Nat.strongRecOn with
  | ind n ih =>
    rw [Nat.toDigits_eq_if (by decide)]
    by_cases hlt : n < 10
    · have hdigit : ∀ d < 10, 0 < d → 0x30 < (Nat.digitChar d).toNat := by decide
      rw [if_pos hlt]
      exact ⟨_, [], rfl, hdigit n hlt hn⟩
    · -- The first digit is that of the number without its last digit.
      obtain ⟨c, cs, heq, hc⟩ := ih (n / 10) (by omega) (by omega)
      rw [if_neg hlt, heq]
      exact ⟨c, _, rfl, hc⟩

/-- Nothing of a number is left where it may end. -/
theorem skipTail_of_ends {rest : Bytes} (h : EndsNumber rest) : skipTail rest = .ok rest := by
  unfold skipTail
  split
  · exact absurd rfl (h _ rfl).2.1
  · exact absurd rfl (h _ rfl).2.2.1
  · exact absurd rfl (h _ rfl).2.2.2
  · rfl

/-- A sign does not count. -/
theorem skipNumber_minus {b : UInt8} (h : b ≠ 0x2D) (rest : Bytes) :
    skipNumber (0x2D :: b :: rest) = skipNumber (b :: rest) := by
  rw [skipNumber, skipNumber]
  exact fun _ heq => h (List.cons.inj heq).1

/-- The digits of a natural number are passed over. -/
theorem exists_digits_eq (n : Nat) :
    ∃ b more, Utf8.encode (Nat.toDigits 10 n) = b :: more ∧ (digit? b).isSome = true ∧ b ≠ 0x2D ∧
      ∀ rest, EndsNumber rest → skipNumber (b :: (more ++ rest)) = .ok rest := by
  -- A zero may have no digit behind it, and is read on its own.
  by_cases hn : n = 0
  · subst hn
    have hdigit : digit? 0x30 = some 0 := by decide
    refine ⟨0x30, [], by rw [Nat.toDigits_zero]; rfl, by decide, by decide, fun rest h => ?_⟩
    have hcount : countDigits 0 rest = (0, rest) := countDigits_encode (List.forall_mem_nil _) h 0
    rw [List.nil_append, skipNumber]
    · rw [hdigit, hcount, skipTail_of_ends h]
      rfl
    · simp
  · obtain ⟨c, cs, heq, hc⟩ := exists_toDigits_eq_cons (Nat.pos_of_ne_zero hn)
    have hdigits : ∀ x ∈ c :: cs, x.isDigit = true := fun x hx =>
      Nat.isDigit_of_mem_toDigits (by decide) (by decide) (heq ▸ hx)
    obtain ⟨b, hencode, hb, hminus⟩ := encodeChar_digit (hdigits c (by simp))
    obtain ⟨d, hd⟩ : ∃ d, c.toNat - 0x30 = d + 1 := ⟨c.toNat - 0x30 - 1, by omega⟩
    refine ⟨b, Utf8.encode cs, ?_, by rw [hb]; rfl, hminus, fun rest h => ?_⟩
    · rw [heq, Utf8.encode_cons, hencode, List.singleton_append]
    · rw [skipNumber]
      · rw [hb, hd, countDigits_encode (fun x hx => hdigits x (by simp [hx])) h]
        exact skipTail_of_ends h
      · exact fun _ heq => hminus (List.cons.inj heq).1

theorem print_ofNat (n : Nat) : (Json.int n).print = Utf8.encode (Nat.toDigits 10 n) := by
  have hrepr : toString (n : Int) = Nat.repr n := rfl
  rw [print, hrepr, Utf8.bytes, Nat.toList_repr]

/-- A negative number is printed with its sign and digits. -/
theorem print_negSucc (n : Nat) :
    (Json.int (.negSucc n)).print = 0x2D :: Utf8.encode (Nat.toDigits 10 (n + 1)) := by
  have hrepr : toString (Int.negSucc n) = "-" ++ Nat.repr (n + 1) := rfl
  rw [print, hrepr, Utf8.bytes, String.toList_append, Nat.toList_repr, Utf8.encode_append]
  rfl

/-- **A printed integer is passed over**, up to a byte that belongs to no number. -/
theorem exists_print_int_eq (n : Int) :
    ∃ b more, (Json.int n).print = b :: more ∧ (b = 0x2D ∨ (digit? b).isSome = true) ∧
      ∀ rest, EndsNumber rest → skipNumber (b :: (more ++ rest)) = .ok rest := by
  cases n with
  | ofNat n =>
    obtain ⟨b, more, heq, hdigit, -, hskip⟩ := exists_digits_eq n
    exact ⟨b, more, (print_ofNat n).trans heq, .inr hdigit, hskip⟩
  | negSucc n =>
    obtain ⟨b, more, heq, -, hminus, hskip⟩ := exists_digits_eq (n + 1)
    refine ⟨0x2D, b :: more, by rw [print_negSucc, heq], .inl rfl, fun rest h => ?_⟩
    rw [List.cons_append, skipNumber_minus hminus]
    exact hskip rest h

end DialogStub.Json
