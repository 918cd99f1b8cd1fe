import DialogStub.Proofs.Text.WellFormed

/-!
# What is read is what was encoded

* `Utf8.decode_eq_ok_iff` — bytes spell characters only if they are the bytes of these characters;
* `Utf8.text?_eq_some_iff` — the same for texts.

The reader is followed backwards: a character that it ends had a value of at least the least one of
its length, and each byte brought six bits of it.
-/

namespace DialogStub.Utf8

/-! ### Single bytes -/

/-- What comes of a value: a character with this value, or a fault. -/
theorem finish_cases (value least : Nat) :
    finish value least = .fault ∨
      ∃ c, finish value least = .done c ∧ c.toNat = value ∧ least ≤ value := by
  rw [finish]
  by_cases hvalid : value.isValidChar
  · rw [dif_pos hvalid]
    by_cases hleast : least ≤ value
    · rw [if_pos hleast]
      exact .inr ⟨_, rfl, UInt32.toNat_ofNatLT, hleast⟩
    · rw [if_neg hleast]
      exact .inl rfl
  · rw [dif_neg hvalid]
    exact .inl rfl

/-- What the first byte of a character says: the character, if it is the only byte, or how many
    bytes are to come. -/
inductive Lead (b : UInt8) : Outcome → Prop where
  | one (c : Char) (byte_eq : b = UInt8.ofNat c.toNat) (lt : c.toNat < 0x80) : Lead b (.done c)
  | two (n : Nat) (lt : n < 0x20) (byte_eq : b = UInt8.ofNat (0xC0 + n)) :
      Lead b (.more (.inside 1 n 0x80))
  | three (n : Nat) (lt : n < 0x10) (byte_eq : b = UInt8.ofNat (0xE0 + n)) :
      Lead b (.more (.inside 2 n 0x800))
  | four (n : Nat) (lt : n < 0x08) (byte_eq : b = UInt8.ofNat (0xF0 + n)) :
      Lead b (.more (.inside 3 n 0x10000))
  | fault : Lead b .fault

theorem ofNat_sub_add {b : UInt8} {k : Nat} (h : k ≤ b.toNat) :
    b = UInt8.ofNat (k + (b.toNat - k)) := by
  rw [Nat.add_sub_cancel' h, UInt8.ofNat_toNat]

/-- The first byte of a character says how many bytes it has. -/
theorem lead_advance (b : UInt8) : Lead b (advance .start b) := by
  unfold advance
  dsimp only
  -- The bounds are those between bytes of ASCII, bytes inside a character, and the three kinds of
  -- first bytes.
  by_cases h₁ : b.toNat < 0x80
  · rw [if_pos h₁]
    rcases finish_cases b.toNat 0 with hfault | ⟨c, hend, hvalue, -⟩
    · rw [hfault]
      exact .fault
    · rw [hend]
      exact .one c (by rw [hvalue, UInt8.ofNat_toNat]) (by omega)
  rw [if_neg h₁]
  by_cases h₂ : b.toNat < 0xC0
  · rw [if_pos h₂]
    exact .fault
  rw [if_neg h₂]
  by_cases h₃ : b.toNat < 0xE0
  · rw [if_pos h₃]
    exact .two _ (by omega) (ofNat_sub_add (by omega))
  rw [if_neg h₃]
  by_cases h₄ : b.toNat < 0xF0
  · rw [if_pos h₄]
    exact .three _ (by omega) (ofNat_sub_add (by omega))
  rw [if_neg h₄]
  by_cases h₅ : b.toNat < 0xF8
  · rw [if_pos h₅]
    exact .four _ (by omega) (ofNat_sub_add (by omega))
  · rw [if_neg h₅]
    exact .fault

/-! ### Characters -/

/-- Inside a character, a byte with six more bits comes next. -/
theorem exists_tail {left value least good pending : Nat} {done cs : List Char} {bs : Bytes}
    (h : decodeFrom (.inside left value least) good pending done bs = .ok cs) :
    ∃ n rest, n < 0x40 ∧ bs = UInt8.ofNat (0x80 + n) :: rest ∧
      decodeFrom (.inside left value least) good pending done (UInt8.ofNat (0x80 + n) :: rest)
        = .ok cs := by
  cases bs with
  | nil => cases h
  | cons b rest =>
    -- Other bytes are those of ASCII and the first bytes of other characters.
    by_cases hb : b.toNat < 0x80 ∨ 0xC0 ≤ b.toNat
    · have hfault : advance (.inside left value least) b = .fault := if_pos hb
      rw [decodeFrom, hfault] at h
      cases h
    · have hbyte : b = UInt8.ofNat (0x80 + (b.toNat - 0x80)) := ofNat_sub_add (by omega)
      exact ⟨b.toNat - 0x80, rest, by omega, by rw [← hbyte], by rwa [← hbyte]⟩

/-- The last byte of a character brings its last six bits. -/
theorem exists_last {value least good pending : Nat} {done cs : List Char} {bs : Bytes}
    (h : decodeFrom (.inside 1 value least) good pending done bs = .ok cs) :
    ∃ c n rest good', n < 0x40 ∧ c.toNat = value * 0x40 + n ∧ least ≤ c.toNat ∧
      bs = UInt8.ofNat (0x80 + n) :: rest ∧
        decodeFrom .start good' 0 (c :: done) rest = .ok cs := by
  obtain ⟨n, rest, hn, rfl, h⟩ := exists_tail h
  rw [decodeFrom, advance_tail _ _ _ hn, if_pos (Nat.le_refl 1)] at h
  rcases finish_cases (value * 0x40 + n) least with hfault | ⟨c, hend, hvalue, hleast⟩
  · rw [hfault] at h
    cases h
  · rw [hend] at h
    exact ⟨c, n, rest, _, hn, hvalue, hvalue ▸ hleast, rfl, h⟩

/-- A byte before the last one brings six bits, and the next one is waited for. -/
theorem exists_inner {left value least good pending : Nat} {done cs : List Char} {bs : Bytes}
    (h : decodeFrom (.inside (left + 2) value least) good pending done bs = .ok cs) :
    ∃ n rest, n < 0x40 ∧ bs = UInt8.ofNat (0x80 + n) :: rest ∧
      decodeFrom (.inside (left + 1) (value * 0x40 + n) least) good (pending + 1) done rest
        = .ok cs := by
  obtain ⟨n, rest, hn, rfl, h⟩ := exists_tail h
  rw [decodeFrom, advance_tail _ _ _ hn, if_neg (by omega)] at h
  exact ⟨n, rest, hn, rfl, h⟩

/-- **One character.** Bytes that are read begin with the bytes of the first character. -/
theorem exists_encodeChar {good : Nat} {done cs : List Char} {b : UInt8} {bs : Bytes}
    (h : decodeFrom .start good 0 done (b :: bs) = .ok cs) :
    ∃ c rest good', b :: bs = encodeChar c ++ rest ∧
      decodeFrom .start good' 0 (c :: done) rest = .ok cs := by
  rw [decodeFrom] at h
  -- The first byte tells how many there are; their bits are the digits of the character, by which
  -- the encoder spells it again.
  have hlead := lead_advance b
  generalize advance .start b = outcome at h hlead
  cases hlead with
  | fault => cases h
  | one c hb hlt =>
    refine ⟨c, bs, _, ?_, h⟩
    rw [encodeChar, if_pos hlt, hb]
    rfl
  | two n hn hb =>
    obtain ⟨c, m, rest, good', hm, hvalue, hleast, rfl, hrest⟩ := exists_last h
    refine ⟨c, rest, good', ?_, hrest⟩
    have hdiv : c.toNat / 0x40 = n := by omega
    have hmod : c.toNat % 0x40 = m := by omega
    rw [encodeChar, if_neg (by omega), if_pos (by omega), hdiv, hmod, hb]
    rfl
  | three n hn hb =>
    obtain ⟨m, rest₁, hm, rfl, hrest₁⟩ := exists_inner h
    obtain ⟨c, k, rest, good', hk, hvalue, hleast, rfl, hrest⟩ := exists_last hrest₁
    refine ⟨c, rest, good', ?_, hrest⟩
    have hdiv : c.toNat / 0x1000 = n := by omega
    have hmid : c.toNat / 0x40 % 0x40 = m := by omega
    have hmod : c.toNat % 0x40 = k := by omega
    rw [encodeChar, if_neg (by omega), if_neg (by omega), if_pos (by omega), hdiv, hmid, hmod, hb]
    rfl
  | four n hn hb =>
    obtain ⟨m, rest₁, hm, rfl, hrest₁⟩ := exists_inner h
    obtain ⟨k, rest₂, hk, rfl, hrest₂⟩ := exists_inner hrest₁
    obtain ⟨c, i, rest, good', hi, hvalue, hleast, rfl, hrest⟩ := exists_last hrest₂
    refine ⟨c, rest, good', ?_, hrest⟩
    have hdiv : c.toNat / 0x40000 = n := by omega
    have hmid : c.toNat / 0x1000 % 0x40 = m := by omega
    have hmid' : c.toNat / 0x40 % 0x40 = k := by omega
    have hmod : c.toNat % 0x40 = i := by omega
    rw [encodeChar, if_neg (by omega), if_neg (by omega), if_neg (by omega), hdiv, hmid, hmid',
      hmod, hb]
    rfl

/-! ### Texts -/

/-- What was decoded is encoded as these bytes. -/
theorem encode_of_decodeFrom {good : Nat} {done cs : List Char} {bs : Bytes}
    (h : decodeFrom .start good 0 done bs = .ok cs) : ∃ ds, cs = done.reverse ++ ds ∧
      encode ds = bs := by
  -- Each character takes at least one byte, so the rest is shorter.
  induction hlength : bs.length using Nat.strongRecOn generalizing good done bs with
  | ind n ih =>
    cases bs with
    | nil =>
      obtain rfl := Except.ok.inj h
      exact ⟨[], (List.append_nil _).symm, rfl⟩
    | cons b bs =>
      obtain ⟨c, rest, good', heq, hrest⟩ := exists_encodeChar h
      have hshorter : rest.length < n := by
        obtain ⟨first, more, hfirst, -⟩ := exists_encodeChar_eq_cons c
        have hpos : 0 < (encodeChar c).length := by
          rw [hfirst]
          exact Nat.succ_pos _
        have hsum := congrArg List.length heq
        rw [List.length_append] at hsum
        omega
      obtain ⟨ds, rfl, hds⟩ := ih rest.length hshorter hrest rfl
      refine ⟨c :: ds, ?_, ?_⟩
      · rw [List.reverse_cons, List.append_assoc]
        rfl
      · rw [encode_cons, hds, heq]

/-- **Bytes spell characters only if they are the bytes of these characters.** -/
theorem decode_eq_ok_iff {bs : Bytes} {cs : List Char} : decode bs = .ok cs ↔ encode cs = bs := by
  constructor
  · intro h
    obtain ⟨ds, rfl, hds⟩ := encode_of_decodeFrom h
    exact hds
  · rintro rfl
    exact decode_encode cs

/-- Bytes are a text if they are its encoding. -/
theorem text?_eq_some_iff {bs : Bytes} {s : String} : text? bs = some s ↔ bytes s = bs := by
  constructor
  · intro h
    unfold text? at h
    split at h
    · rename_i cs hdecode
      obtain rfl := Option.some.inj h
      rw [bytes, String.toList_ofList]
      exact decode_eq_ok_iff.mp hdecode
    · cases h
  · rintro rfl
    exact text?_bytes s

theorem text?_eq_none_iff {bs : Bytes} : text? bs = none ↔ ∀ s, bytes s ≠ bs := by
  rw [Option.eq_none_iff_forall_ne_some]
  exact forall_congr' fun s => not_congr text?_eq_some_iff

end DialogStub.Utf8
