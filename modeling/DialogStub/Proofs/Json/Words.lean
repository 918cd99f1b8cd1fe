import DialogStub.Proofs.Json.Given
import DialogStub.Proofs.Text.Decode

/-!
# How words are spelt

* `Json.print_eq_of_readNumber` — an integer has one spelling, and 64 bits hold it;
* `Json.length_printString_le` — no spelling of a string is shorter than the printed one;
* `Json.valid_of_readString` — the spelling of a string is well-formed;
* `Json.Word` — the words from which values are read, with `Json.word_of_readStart`.

A string is followed byte by byte. What the reader has gathered may take more bytes to print than
were read, but no more than the escape at hand has bytes.
-/

namespace DialogStub.Json

open Utf8 (Valid valid_cons_iff valid_append_cons_iff valid_append_encodeChar_iff valid_of_ascii
  valid_nil)

/-! ### Integers -/

/-- An exponent makes a number a floating point number. -/
theorem readExponent_ne_int {negative : Bool} {significand : Nat} {power : Int} {bs rest : Bytes}
    {n : Int} : readExponent negative significand power bs ≠ .ok (.int n, rest) := by
  intro h
  unfold readExponent at h
  split at h
  split at h
  · cases h
  split at h
  · cases h
  split at h
  · unfold settleReal at h
    split at h <;> cases h
  · split at h <;> cases h

/-- And so does a fraction. -/
theorem readFraction_ne_int {negative : Bool} {significand : Nat} {power : Int} {bs rest : Bytes}
    {n : Int} : readFraction negative significand power bs ≠ .ok (.int n, rest) := by
  intro h
  unfold readFraction at h
  dsimp only at h
  split at h
  · cases h
  unfold readScale at h
  split at h
  · exact readExponent_ne_int h
  · exact readExponent_ne_int h
  · unfold settleReal at h
    split at h <;> cases h

/-- Behind the digits of an integer nothing more belongs to it. -/
theorem eq_of_readTail_int {negative : Bool} {significand extra : Nat} {bs rest : Bytes} {n : Int}
    (h : readTail negative significand extra bs = .ok (.int n, rest)) :
    rest = bs ∧ extra = 0 ∧ settleInteger negative significand = .int n := by
  unfold readTail at h
  -- A fraction or an exponent makes a number with a fraction of it.
  split at h
  · exact absurd h readFraction_ne_int
  · exact absurd h readExponent_ne_int
  · exact absurd h readExponent_ne_int
  · split at h
    · rename_i hextra
      obtain ⟨hn, hrest⟩ := Prod.mk.inj (Except.ok.inj h)
      exact ⟨hrest.symm, hextra, hn⟩
    · unfold settleReal at h
      split at h <;> cases h

/-- A digit is the byte of its value. -/
theorem eq_of_digit? {b : UInt8} {d : Nat} (h : digit? b = some d) :
    d < 10 ∧ [b] = Utf8.encodeChar (Nat.digitChar d) := by
  unfold digit? at h
  split at h
  · rename_i hb
    rw [UInt8.le_iff_toNat_le, UInt8.le_iff_toNat_le] at hb
    replace hb : 0x30 ≤ b.toNat ∧ b.toNat ≤ 0x39 := hb
    obtain rfl := Option.some.inj h
    have hdigit : ∀ d < 10, Utf8.encodeChar (Nat.digitChar d) = [UInt8.ofNat (0x30 + d)] := by
      decide
    refine ⟨by omega, ?_⟩
    rw [hdigit _ (by omega), show 0x30 + (b.toNat - 0x30) = b.toNat by omega, UInt8.ofNat_toNat]
  · cases h

/-- Digits that a significand takes are those of its value. By induction on the digits. -/
theorem encode_toDigits_of_absorb {ds tail : Bytes} (hds : Digits ds) (htail : NoDigit tail)
    {significand significand' taken taken' : Nat} (hpos : 0 < significand)
    (hsmall : significand < 0x10000000000000000)
    (h : absorb significand taken (ds ++ tail) = (significand', taken', tail)) :
    significand' < 0x10000000000000000 ∧
      Utf8.encode (Nat.toDigits 10 significand) ++ ds =
        Utf8.encode (Nat.toDigits 10 significand') := by
  induction ds generalizing significand taken with
  | nil =>
    have hsame : significand = significand' := by
      cases tail with
      | nil => exact (Prod.mk.inj h).1
      | cons b tail =>
        rw [List.nil_append, absorb, htail b rfl] at h
        exact (Prod.mk.inj h).1
    subst hsame
    exact ⟨hsmall, List.append_nil _⟩
  | cons b ds ih =>
    obtain ⟨hb, hothers⟩ := List.forall_mem_cons.mp hds
    obtain ⟨d, hd⟩ := Option.isSome_iff_exists.mp hb
    obtain ⟨hten, hbyte⟩ := eq_of_digit? hd
    rw [List.cons_append, absorb, hd] at h
    dsimp only at h
    split at h
    · rename_i hlimit
      obtain ⟨hsmall', htext⟩ := ih hothers (by omega) hlimit h
      refine ⟨hsmall', ?_⟩
      rw [← htext, Nat.mul_comm, ← Nat.toDigits_append_toDigits (by decide) hpos hten,
        Nat.toDigits_of_lt_base hten, Utf8.encode_append, List.append_assoc, Utf8.encode_cons,
        ← hbyte, Utf8.encode_nil]
      rfl
    · -- The digit would be left, but no digit is.
      have hleft : b :: (ds ++ tail) = tail := (Prod.mk.inj (Prod.mk.inj h).2).2
      have hlength := congrArg List.length hleft
      simp only [List.length_cons, List.length_append] at hlength
      omega

/-- The digits of an integer are those with which it is printed. -/
theorem eq_of_readMagnitude_int {negative : Bool} {bs rest : Bytes} {n : Int}
    (h : readMagnitude negative bs = .ok (.int n, rest)) :
    ∃ significand, significand < 0x10000000000000000 ∧
      settleInteger negative significand = .int n ∧
      bs = Utf8.encode (Nat.toDigits 10 significand) ++ rest := by
  cases bs with
  | nil => cases h
  | cons b bs =>
    cases hb : digit? b with
    | none =>
      rw [readMagnitude, hb] at h
      cases h
    | some d =>
      obtain ⟨hten, hbyte⟩ := eq_of_digit? hb
      cases d with
      | zero =>
        -- Behind a zero no digit is read, so that it stands alone.
        rw [readMagnitude, hb] at h
        dsimp only at h
        split at h
        · obtain ⟨rfl, -, hsettle⟩ := eq_of_readTail_int h
          refine ⟨0, by decide, hsettle, ?_⟩
          rw [Nat.toDigits_zero, Utf8.encode_cons, Utf8.encode_nil, List.append_nil]
          exact congrArg (· ++ rest) hbyte
        · cases h
      | succ d =>
        -- The significand takes all digits of the run: those that it leaves make a number real.
        obtain ⟨ds, tail, rfl, hds, htail⟩ := exists_run bs
        obtain ⟨significand, taken, more, hmore, -, habsorb⟩ := exists_absorb hds (d + 1) 0
        rw [readMagnitude_run hb hmore htail (habsorb tail htail)] at h
        obtain ⟨rfl, hnone, hsettle⟩ := eq_of_readTail_int h
        obtain rfl : more = [] := List.length_eq_zero_iff.mp hnone
        have hall := habsorb rest htail
        rw [List.nil_append] at hall
        obtain ⟨hsmall, htext⟩ :=
          encode_toDigits_of_absorb hds htail (Nat.succ_pos d) (by omega) hall
        refine ⟨significand, hsmall, hsettle, ?_⟩
        rw [← htext, Nat.toDigits_of_lt_base hten, Utf8.encode_cons, Utf8.encode_nil,
          List.append_nil, ← hbyte]
        rfl

/-- **An integer has one spelling**, and 64 bits hold it. -/
theorem print_eq_of_readNumber {bs rest : Bytes} {n : Int}
    (h : readNumber bs = .ok (.int n, rest)) :
    bs = (Json.int n).print ++ rest ∧ -0x8000000000000000 ≤ n ∧ n < 0x10000000000000000 := by
  unfold readNumber at h
  split at h
  · -- Behind a sign, zero and what 64 bits do not hold are no integers.
    obtain ⟨significand, hsmall, hsettle, rfl⟩ := eq_of_readMagnitude_int h
    unfold settleInteger at hsettle
    rw [if_pos rfl] at hsettle
    split at hsettle
    · cases hsettle
    · rename_i hrange
      obtain rfl := Number.int.inj hsettle
      obtain ⟨m, rfl⟩ : ∃ m, significand = m + 1 := ⟨significand - 1, by omega⟩
      rw [show (-((m + 1 : Nat) : Int)) = Int.negSucc m from rfl, print_negSucc]
      exact ⟨rfl, by omega, by omega⟩
  · obtain ⟨significand, hsmall, hsettle, rfl⟩ := eq_of_readMagnitude_int h
    obtain rfl : (significand : Int) = n := Number.int.inj hsettle
    rw [print_ofNat]
    exact ⟨rfl, by omega, by omega⟩

/-! ### The length of strings -/

/-- The number of bytes with which a byte of a string is printed. -/
def printedLength (b : UInt8) : Nat :=
  if b < 0x80 then (printChar (Utf8.asciiChar b)).length else 1

/-- The number of bytes with which the bytes of a string are printed. -/
def printedLengths : Bytes → Nat
  | [] => 0
  | b :: bs => printedLength b + printedLengths bs

theorem printedLengths_cons (b : UInt8) (bs : Bytes) :
    printedLengths (b :: bs) = printedLength b + printedLengths bs := rfl

/-- Two texts are printed one after the other. -/
theorem printedLengths_append (bs bs' : Bytes) :
    printedLengths (bs ++ bs') = printedLengths bs + printedLengths bs' := by
  induction bs with
  | nil => exact (Nat.zero_add _).symm
  | cons b bs ih =>
    rw [List.cons_append, printedLengths_cons, ih, printedLengths_cons, Nat.add_assoc]

/-- The order of the bytes does not matter to their length. -/
theorem printedLengths_reverse (bs : Bytes) : printedLengths bs.reverse = printedLengths bs := by
  induction bs with
  | nil => rfl
  | cons b bs ih =>
    rw [List.reverse_cons, printedLengths_append, ih, printedLengths_cons, printedLengths_cons,
      Nat.add_comm]
    rfl

/-- A byte that stands for itself is printed as it is. -/
theorem printedLength_plain {b : UInt8} (h : IsPlain b) : printedLength b = 1 := by
  have hall : ∀ n < 256, IsPlain (UInt8.ofNat n) → printedLength (UInt8.ofNat n) = 1 := by
    unfold IsPlain
    decide +kernel
  have hb := hall b.toNat b.toNat_lt
  rw [UInt8.ofNat_toNat] at hb
  exact hb h

/-- What a letter stands for is ASCII. -/
theorem escaped?_lt {b c : UInt8} (h : escaped? b = some c) : c < 0x80 := by
  unfold escaped? at h
  split at h
  case h_9 => cases h
  all_goals
    obtain rfl := Option.some.inj h
    decide

/-- What a letter stands for is printed as an escape of a letter, or as it is. -/
theorem printedLength_escaped {b c : UInt8} (h : escaped? b = some c) : printedLength c ≤ 2 := by
  unfold escaped? at h
  split at h
  case h_9 => cases h
  all_goals
    obtain rfl := Option.some.inj h
    decide

/-- Bytes beyond ASCII are printed as they are. -/
theorem printedLengths_of_high {bs : Bytes} (h : ∀ b ∈ bs, ¬b < 0x80) :
    printedLengths bs = bs.length := by
  induction bs with
  | nil => rfl
  | cons b bs ih =>
    obtain ⟨hb, hbs⟩ := List.forall_mem_cons.mp h
    rw [printedLengths_cons, printedLength, if_neg hb, ih hbs, List.length_cons, Nat.add_comm]

/-- A character has four bytes at most. -/
theorem length_encodeChar_le (c : Char) : (Utf8.encodeChar c).length ≤ 4 := by
  unfold Utf8.encodeChar
  dsimp only
  split
  · simp
  split
  · simp
  split <;> simp

/-- A character is printed with as many bytes as its bytes are. -/
theorem length_printChar (c : Char) :
    (printChar c).length = printedLengths (Utf8.encodeChar c) ∧ (printChar c).length ≤ 6 := by
  by_cases hascii : c.toNat < 0x80
  · have hencode : Utf8.encodeChar c = [UInt8.ofNat c.toNat] := if_pos hascii
    have hlt : UInt8.ofNat c.toNat < 0x80 := by
      rw [UInt8.lt_iff_toNat_lt, Utf8.toNat_ofNat (by omega)]
      exact hascii
    have hchar : Utf8.asciiChar (UInt8.ofNat c.toNat) = c := by
      rw [Utf8.asciiChar, Utf8.toNat_ofNat (by omega), Char.ofNat_toNat]
    refine ⟨?_, ?_⟩
    · rw [hencode, printedLengths_cons, printedLength, if_pos hlt, hchar]
      rfl
    · rcases printChar_cases c with ⟨letter, htext, -⟩ | ⟨-, htext⟩ | ⟨htext, -⟩
      · simp [htext]
      · simp [htext]
      · simp [htext, hencode]
  · have hhigh {b : UInt8} (hb : b ∈ Utf8.encodeChar c) : ¬b < 0x80 := by
      rw [UInt8.lt_iff_toNat_lt]
      have := toNat_of_mem_encodeChar hb
      show ¬b.toNat < 0x80
      omega
    -- Escapes are for ASCII only.
    have htext : printChar c = Utf8.encodeChar c := by
      rcases printChar_cases c with ⟨letter, -, -, hletter, hencode⟩ | ⟨hcontrol, -⟩ | ⟨htext, -⟩
      · exact absurd (escaped?_lt hletter)
          (hhigh (by rw [hencode]; exact List.mem_singleton_self _))
      · omega
      · exact htext
    have hfour := length_encodeChar_le c
    rw [htext, printedLengths_of_high fun b hb => hhigh hb]
    exact ⟨rfl, by omega⟩

/-- Printed characters are as long as what is printed for their bytes, taken together. -/
theorem length_flatMap_printChar (cs : List Char) :
    (cs.flatMap printChar).length = printedLengths (Utf8.encode cs) := by
  induction cs with
  | nil => rfl
  | cons c cs ih =>
    rw [List.flatMap_cons, List.length_append, ih, (length_printChar c).1, Utf8.encode_cons,
      printedLengths_append]

/-- The bytes of the escape at hand that were read. -/
def Scan.credit : Scan → Nat
  | .plain => 0
  | .escape => 1
  | .hex left _ _ => 6 - left
  | .backslash _ => 0
  | .letterU _ => 1

/-- A step may gather what takes more bytes to print than it read, but never more than the escape
    has on credit. -/
theorem Scan.Step.credit_le {b : UInt8} {done done' : Bytes} {state next : Scan}
    (h : Scan.Step b done state next done') :
    printedLengths done' + next.credit ≤ printedLengths done + state.credit + 1 := by
  -- A plain byte and a letter gather one byte each; a character gathers all of its bytes at once.
  cases h with
  | plain h =>
    rw [printedLengths_cons, printedLength_plain h]
    simp only [Scan.credit]
    omega
  | letter h =>
    have hletter := printedLength_escaped h
    rw [printedLengths_cons]
    simp only [Scan.credit]
    omega
  | @char _ _ _ _ c =>
    obtain ⟨hlength, hsix⟩ := length_printChar c
    rw [printedLengths_append, printedLengths_reverse, ← hlength]
    simp only [Scan.credit]
    omega
  | slash _ | unicode _ | digit _ _ | half _ _ _ | pair _ | low _ =>
    simp only [Scan.credit]
    omega

/-- What is gathered up to the closing quote takes no more bytes to print than were read. -/
theorem printedLengths_le_of_scanString {state : Scan} {done bs raw rest : Bytes}
    (h : scanString state done bs = .ok (raw, rest)) :
    printedLengths raw + rest.length + 1 ≤ printedLengths done + bs.length + state.credit := by
  refine scanString_induction (P := fun state done bs => printedLengths raw + rest.length + 1 ≤
    printedLengths done + bs.length + state.credit) ?quote ?step h
  case quote =>
    rw [printedLengths_reverse]
    exact Nat.le_add_right _ _
  case step =>
    intro b state next done done' bs hstep ih
    have hcredit := hstep.credit_le
    rw [List.length_cons]
    omega

/-- **No spelling of a string is shorter** than the printed one. -/
theorem length_printString_le {bs rest : Bytes} {s : String} (h : readString bs = .ok (s, rest)) :
    (printString s).length + rest.length ≤ bs.length + 1 := by
  unfold readString at h
  split at h
  · cases h
  rename_i raw rest' hscan
  split at h
  · rename_i cs hdecode
    cases h
    have hraw := Utf8.decode_eq_ok_iff.mp hdecode
    have hlength := printedLengths_le_of_scanString hscan
    -- The printed text has two quotes more than its characters take.
    rw [← hraw, ← length_flatMap_printChar] at hlength
    simp only [printString, String.toList_ofList, List.length_append, List.length_cons,
      List.length_nil]
    simp only [printedLengths, Scan.credit] at hlength
    omega
  · cases h

/-! ### Well-formed words -/

/-- A hexadecimal digit is ASCII. -/
theorem lt_of_hexStep {value : Option Nat} {b : UInt8} {n : Nat} (h : hexStep value b = some n) :
    b < 0x80 := by
  have hall : ∀ n < 256, (Percent.hexValue? (UInt8.ofNat n)).isSome = true →
      UInt8.ofNat n < 0x80 := by
    decide +kernel
  have hb := hall b.toNat b.toNat_lt
  rw [UInt8.ofNat_toNat] at hb
  refine hb ?_
  unfold hexStep at h
  split at h
  · rename_i hvalue
    rw [hvalue]
    rfl
  · cases h

/-- Inside an escape a step reads a byte of ASCII and gathers nothing. -/
theorem Scan.Step.inside {b : UInt8} {done done' : Bytes} {state next : Scan}
    (h : Scan.Step b done state next done') (hnext : next ≠ .plain) : b < 0x80 ∧ done' = done := by
  cases h with
  | plain _ | letter _ | char _ _ _ => exact absurd rfl hnext
  | slash h | unicode h | pair h | low h =>
    subst h
    exact ⟨by decide, rfl⟩
  | digit _ h | half _ h _ => exact ⟨lt_of_hexStep h, rfl⟩

/-- Between two characters, what was gathered may end inside of one; inside an escape it may not. -/
theorem valid_of_scanString {state : Scan} {done bs raw rest : Bytes}
    (h : scanString state done bs = .ok (raw, rest)) (hraw : Valid raw) :
    ∃ used, bs = used ++ rest ∧ (state = .plain → Valid (done.reverse ++ used)) ∧
      (state ≠ .plain → Valid done.reverse ∧ Valid used) := by
  refine scanString_induction (P := fun state done bs => ∃ used, bs = used ++ rest ∧
    (state = .plain → Valid (done.reverse ++ used)) ∧
    (state ≠ .plain → Valid done.reverse ∧ Valid used)) ?quote ?step h
  case quote =>
    refine ⟨[0x22], rfl, fun _ => ?_, fun hne => absurd rfl hne⟩
    rw [List.reverse_reverse]
    exact (valid_append_cons_iff (by decide)).mpr ⟨hraw, valid_nil⟩
  case step =>
    rintro b state next done done' bs hstep ⟨used, rfl, hplain, hescape⟩
    by_cases hnext : next = .plain
    · subst hnext
      have hvalid := hplain rfl
      cases hstep with
      | plain h =>
        exact ⟨b :: used, rfl, fun _ => by simpa using hvalid, fun hne => absurd rfl hne⟩
      | letter h =>
        rw [List.reverse_cons, List.append_assoc, List.singleton_append,
          valid_append_cons_iff (escaped?_lt h)] at hvalid
        exact ⟨b :: used, rfl, (by simp),
          fun _ => ⟨hvalid.1, (valid_cons_iff (lt_of_escaped? h)).mpr hvalid.2⟩⟩
      | char last h hunit =>
        rw [List.reverse_append, List.reverse_reverse, List.append_assoc,
          valid_append_encodeChar_iff] at hvalid
        exact ⟨b :: used, rfl, (by simp),
          fun _ => ⟨hvalid.1, (valid_cons_iff (lt_of_hexStep h)).mpr hvalid.2⟩⟩
    · -- The escape goes on, and a byte of ASCII divides what stands before and behind it.
      obtain ⟨hb, rfl⟩ := hstep.inside hnext
      obtain ⟨hdone, hused⟩ := hescape hnext
      exact ⟨b :: used, rfl, fun _ => (valid_append_cons_iff hb).mpr ⟨hdone, hused⟩,
        fun _ => ⟨hdone, (valid_cons_iff hb).mpr hused⟩⟩

/-- **The spelling of a string is well-formed**, as what it spells is. -/
theorem valid_of_readString {bs rest : Bytes} {s : String} (h : readString bs = .ok (s, rest)) :
    ∃ used, bs = used ++ rest ∧ Valid used := by
  unfold readString at h
  split at h
  · cases h
  rename_i raw rest' hscan
  split at h
  · rename_i cs hdecode
    cases h
    obtain ⟨used, heq, hvalid, -⟩ := valid_of_scanString hscan ⟨cs, hdecode⟩
    exact ⟨used, heq, hvalid rfl⟩
  · cases h

/-- A scanner that passes over bytes of ASCII only. -/
def SkipsAscii (skip : Bytes → Except Failure Bytes) : Prop :=
  ∀ bs rest, skip bs = .ok rest → ∃ used, (∀ b ∈ used, b < 0x80) ∧ bs = used ++ rest

section Numbers

variable {skip skip' : Bytes → Except Failure Bytes}

/-- A digit is ASCII. -/
theorem lt_of_digit? {b : UInt8} (h : (digit? b).isSome = true) : b < 0x80 := by
  unfold digit? at h
  split at h
  · rename_i hb
    exact UInt8.lt_of_le_of_lt hb.2 (by decide)
  · cases h

/-- Behind a byte of ASCII, a scanner goes on as another one does. -/
theorem SkipsAscii.cons (h : SkipsAscii skip) {b : UInt8} (hb : b < 0x80) {bs rest : Bytes}
    (hskip : skip bs = .ok rest) : ∃ used, (∀ b ∈ used, b < 0x80) ∧ b :: bs = used ++ rest := by
  obtain ⟨used, hused, rfl⟩ := h bs rest hskip
  exact ⟨b :: used, List.forall_mem_cons.mpr ⟨hb, hused⟩, rfl⟩

/-- Digits that are passed over are ASCII. -/
theorem skipDigits_ascii {failure : Failure} {bs rest : Bytes}
    (h : skipDigits failure bs = .ok rest) :
    ∃ used, (∀ b ∈ used, b < 0x80) ∧ bs = used ++ rest := by
  obtain ⟨ds, tail, rfl, hds, htail⟩ := exists_run bs
  unfold skipDigits at h
  rw [countDigits_append hds htail] at h
  dsimp only at h
  split at h
  · cases h
  · cases h
    exact ⟨ds, fun b hb => lt_of_digit? (hds b hb), rfl⟩

/-- An exponent is ASCII. -/
theorem skipExponent_ascii : SkipsAscii skipExponent := by
  have hpower : SkipsAscii skipPower := fun _ _ h => skipDigits_ascii h
  intro bs rest h
  cases bs with
  | nil => cases h
  | cons b bs =>
    by_cases hplus : b = 0x2B
    · subst hplus
      exact hpower.cons (by decide) h
    by_cases hminus : b = 0x2D
    · subst hminus
      exact hpower.cons (by decide) h
    · rw [skipExponent_of_unsigned hplus hminus] at h
      exact hpower _ _ h

/-- An exponent that may be missing is ASCII. -/
theorem skipScale_ascii : SkipsAscii skipScale := by
  intro bs rest h
  unfold skipScale at h
  split at h
  · exact skipExponent_ascii.cons (by decide) h
  · exact skipExponent_ascii.cons (by decide) h
  · cases h
    exact ⟨[], List.forall_mem_nil _, rfl⟩

/-- A fraction is ASCII. -/
theorem skipFraction_ascii : SkipsAscii skipFraction := by
  intro bs rest h
  unfold skipFraction at h
  split at h
  · cases h
  · rename_i rest' hdigits
    obtain ⟨ds, hds, rfl⟩ := skipDigits_ascii hdigits
    obtain ⟨used, hused, rfl⟩ := skipScale_ascii _ _ h
    exact ⟨ds ++ used, List.forall_mem_append.mpr ⟨hds, hused⟩, (List.append_assoc _ _ _).symm⟩

/-- What may stand behind the whole digits is ASCII. -/
theorem skipTail_ascii : SkipsAscii skipTail := by
  intro bs rest h
  cases bs with
  | nil =>
    cases h
    exact ⟨[], List.forall_mem_nil _, rfl⟩
  | cons b bs =>
    by_cases hpoint : b = 0x2E
    · subst hpoint
      rw [skipTail_point] at h
      exact skipFraction_ascii.cons (by decide) h
    · unfold skipTail at h
      split at h
      · rename_i heq
        exact absurd (List.cons.inj heq).1 hpoint
      · rename_i heq
        rw [heq]
        exact skipExponent_ascii.cons (by decide) h
      · rename_i heq
        rw [heq]
        exact skipExponent_ascii.cons (by decide) h
      · cases h
        exact ⟨[], List.forall_mem_nil _, rfl⟩

/-- A number without its sign is ASCII. -/
theorem skipMagnitude_ascii : SkipsAscii skipMagnitude := by
  intro bs rest h
  cases bs with
  | nil => cases h
  | cons b bs =>
    unfold skipMagnitude at h
    dsimp only at h
    split at h
    · cases h
    · rename_i hdigit
      split at h
      · exact skipTail_ascii.cons (lt_of_digit? (by rw [hdigit]; rfl)) h
      · cases h
    · rename_i d hdigit
      obtain ⟨ds, tail, rfl, hds, htail⟩ := exists_run bs
      rw [countDigits_append hds htail] at h
      obtain ⟨used, hused, rfl⟩ := skipTail_ascii _ _ h
      refine ⟨b :: (ds ++ used), List.forall_mem_cons.mpr ⟨lt_of_digit? (by rw [hdigit]; rfl),
        List.forall_mem_append.mpr ⟨fun b hb => lt_of_digit? (hds b hb), hused⟩⟩, ?_⟩
      rw [List.cons_append, List.append_assoc]

/-- A number is ASCII. -/
theorem skipNumber_ascii : SkipsAscii skipNumber := by
  intro bs rest h
  cases bs with
  | nil => cases h
  | cons b bs =>
    by_cases hminus : b = 0x2D
    · subst hminus
      exact skipMagnitude_ascii.cons (by decide) h
    · rw [skipNumber_of_unsigned hminus] at h
      exact skipMagnitude_ascii _ _ h

end Numbers

/-! ### Words -/

/-- **The words** of values that are no arrays and no objects. -/
inductive Word : Bytes → Json → Prop where
  | null : Word (Utf8.bytes "null") .null
  | bool (b : Bool) : Word (Json.bool b).print (.bool b)
  | int (n : Int) (range : -0x8000000000000000 ≤ n ∧ n < 0x10000000000000000) :
      Word (Json.int n).print (.int n)
  | str {spelling : Bytes} {s : String} (reads : readString spelling = .ok (s, [])) :
      Word (0x22 :: spelling) (.str s)
  | real {text : Bytes} (x : Binary64) (ascii : ∀ b ∈ text, b < 0x80) : Word text (.real x)

/-- What is read as a value that is no array and no object is its word. -/
theorem word_of_readStart {text : Bytes} {value : Json} (hflush : Flush text)
    (h : readStart text = .ok (.scalar value, [])) : Word text value := by
  cases text with
  | nil => cases h
  | cons b bs =>
    cases (readStart_eq_ok_iff (flush_cons_iff.mp hflush)).mp h with
    | word hword heq =>
      rw [List.append_nil] at heq
      rcases mem_fixedWords_iff.mp hword with ⟨rfl, rfl, rfl⟩ | ⟨rfl, rfl, rfl⟩ | ⟨rfl, rfl, rfl⟩
      · exact heq ▸ .null
      · exact heq ▸ .bool true
      · exact heq ▸ .bool false
    | str hquote hread => exact hquote ▸ .str hread
    | @int n _ hnumber hread =>
      obtain ⟨heq, hrange⟩ := print_eq_of_readNumber hread
      rw [List.append_nil] at heq
      exact heq ▸ .int n hrange
    | @real x _ hnumber hread =>
      -- The number is passed over, and nothing but ASCII is.
      obtain ⟨used, heq, -, hpasses⟩ := readNumber_follows _ _ _ hread
      obtain ⟨used', hascii, heq'⟩ := skipNumber_ascii _ _ (hpasses [] endsNumber_nil)
      rw [List.append_nil] at heq heq'
      rw [List.append_nil] at heq'
      exact .real x (by rw [heq, heq']; exact hascii)

namespace Word

variable {text : Bytes} {value : Json}

/-- **Every word is well-formed.** -/
theorem valid (h : Word text value) : Valid text := by
  cases h with
  | null => exact valid_print .null
  | bool b => exact valid_print (.bool b)
  | int n => exact valid_print (.int n)
  | str reads =>
    obtain ⟨used, rfl, hvalid⟩ := valid_of_readString reads
    rw [List.append_nil]
    exact (valid_cons_iff (by decide)).mpr hvalid
  | real x ascii => exact valid_of_ascii ascii

/-- **No word is shorter** than the printed one, unless it is that of a floating point number. -/
theorem length_print_le (h : Word text value) (hvalue : ∀ x, value ≠ .real x) :
    value.print.length ≤ text.length := by
  cases h with
  | null => exact Nat.le_refl _
  | bool b => exact Nat.le_refl _
  | int n => exact Nat.le_refl _
  | str reads =>
    have hlength := length_printString_le reads
    rw [List.length_nil, Nat.add_zero] at hlength
    rwa [print, List.length_cons]
  | real x => exact absurd rfl (hvalue x)

/-- The printed word is read as its value, unless this is a floating point number. -/
theorem consumes_print (h : Word text value) (hvalue : ∀ x, value ≠ .real x) :
    Consumes readStart value.print (.scalar value) := by
  cases h with
  | null => exact fun _ _ => rfl
  | bool b => exact fun tail _ => readStart_print_bool b tail
  | int n range => exact fun _ htail => readStart_print_int range htail
  | @str _ s => exact fun tail _ => readStart_str s tail
  | real x => exact absurd rfl (hvalue x)

end Word

end DialogStub.Json
