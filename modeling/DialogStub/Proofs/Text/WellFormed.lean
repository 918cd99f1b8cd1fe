import DialogStub.Proofs.Text.Utf8

/-!
# Well-formed bytes

* `Utf8.Valid` — bytes that spell characters;
* `Utf8.Valid.append` — bytes that are put together from such parts;
* `Utf8.valid_append_cons_iff` — an ASCII byte parts well-formed bytes into well-formed bytes;
* `Utf8.valid_append_encodeChar_iff` — and so does every character.

An ASCII byte is no part of a longer character, so that a reader between two characters is the only
one that gets over it. The same holds of the first byte of every character.
-/

namespace DialogStub.Utf8

/-- Bytes that spell characters. -/
def Valid (bs : Bytes) : Prop :=
  ∃ cs, decode bs = .ok cs

/-- The state of the reader behind bytes, unless there is a fault in them. -/
def ahead : Progress → Bytes → Option Progress
  | p, [] => some p
  | p, b :: rest => match advance p b with
    | .more next => ahead next rest
    | .done _ => ahead .start rest
    | .fault => none

/-- Two texts are gone through one after the other. -/
theorem ahead_append (p : Progress) (bs bs' : Bytes) :
    ahead p (bs ++ bs') = (ahead p bs).bind (fun q => ahead q bs') := by
  induction bs generalizing p with
  | nil => rfl
  | cons b bs ih =>
    rw [List.cons_append, ahead, ahead]
    cases advance p b with
    | more next => exact ih next
    | done c => exact ih .start
    | fault => rfl

/-- Bytes are decoded if they end between two characters. -/
theorem decodeFrom_eq_ok_iff {p : Progress} {good pending : Nat} {done : List Char} {bs : Bytes} :
    (∃ cs, decodeFrom p good pending done bs = .ok cs) ↔ ahead p bs = some .start := by
  induction bs generalizing p good pending done with
  | nil => cases p <;> simp [decodeFrom, ahead]
  | cons b bs ih =>
    rw [decodeFrom, ahead]
    cases advance p b with
    | more next => exact ih
    | done c => exact ih
    | fault => simp

theorem valid_iff {bs : Bytes} : Valid bs ↔ ahead .start bs = some .start :=
  decodeFrom_eq_ok_iff

theorem valid_nil : Valid [] :=
  ⟨[], rfl⟩

theorem valid_encode (cs : List Char) : Valid (encode cs) :=
  ⟨cs, decode_encode cs⟩

/-- Well-formed bytes may stand behind each other. -/
theorem Valid.append {bs bs' : Bytes} (h : Valid bs) (h' : Valid bs') : Valid (bs ++ bs') := by
  rw [valid_iff] at h h' ⊢
  rw [ahead_append, h]
  exact h'

/-- An ASCII byte is a character of its own. -/
theorem advance_ascii {b : UInt8} (h : b < 0x80) :
    ∃ c, advance .start b = .done c := by
  have hlt : b.toNat < 0x80 := UInt8.lt_iff_toNat_lt.mp h
  have hvalid : b.toNat.isValidChar := Or.inl (by omega)
  have hsingle := advance_single hlt
  rw [UInt8.ofNat_toNat, finish, dif_pos hvalid, if_pos (Nat.zero_le _)] at hsingle
  exact ⟨_, hsingle⟩

/-- And none inside a longer one. -/
theorem advance_inside_ascii {b : UInt8} (h : b < 0x80) (left value least : Nat) :
    advance (.inside left value least) b = .fault := by
  have hlt : b.toNat < 0x80 := UInt8.lt_iff_toNat_lt.mp h
  exact if_pos (Or.inl hlt)

theorem valid_cons_iff {b : UInt8} (h : b < 0x80) {bs : Bytes} : Valid (b :: bs) ↔ Valid bs := by
  obtain ⟨c, hc⟩ := advance_ascii h
  rw [valid_iff, valid_iff, ahead, hc]

/-- **An ASCII byte parts well-formed bytes.** -/
theorem valid_append_cons_iff {b : UInt8} (h : b < 0x80) {bs bs' : Bytes} :
    Valid (bs ++ b :: bs') ↔ Valid bs ∧ Valid bs' := by
  refine ⟨fun hvalid => ?_, fun ⟨hbs, hbs'⟩ => hbs.append ((valid_cons_iff h).mpr hbs')⟩
  rw [valid_iff, ahead_append] at hvalid
  cases hstate : ahead .start bs with
  | none =>
    rw [hstate] at hvalid
    cases hvalid
  | some p =>
    rw [hstate] at hvalid
    -- The byte ends a character that was begun before, or begins one between two others.
    cases p with
    | start => exact ⟨valid_iff.mpr hstate, (valid_cons_iff h).mp (valid_iff.mpr hvalid)⟩
    | inside left value least =>
      replace hvalid : ahead (.inside left value least) (b :: bs') = some .start := hvalid
      rw [ahead, advance_inside_ascii h] at hvalid
      cases hvalid

/-- A character begins with a byte that stands inside no other. -/
theorem exists_encodeChar_eq_cons (c : Char) :
    ∃ b bs, encodeChar c = b :: bs ∧ (b.toNat < 0x80 ∨ 0xC0 ≤ b.toNat) := by
  have hmax : c.toNat < 0x110000 := by
    rcases c.valid with h | h
    · exact Nat.lt_trans h (by decide)
    · exact h.2
  unfold encodeChar
  dsimp only
  -- The four kinds of characters are told apart by their code points.
  by_cases h₁ : c.toNat < 0x80
  · rw [if_pos h₁]
    exact ⟨_, _, rfl, .inl (by rw [toNat_ofNat (by omega)]; omega)⟩
  rw [if_neg h₁]
  by_cases h₂ : c.toNat < 0x800
  · rw [if_pos h₂]
    exact ⟨_, _, rfl, .inr (by rw [toNat_ofNat (by omega)]; omega)⟩
  rw [if_neg h₂]
  by_cases h₃ : c.toNat < 0x10000
  · rw [if_pos h₃]
    exact ⟨_, _, rfl, .inr (by rw [toNat_ofNat (by omega)]; omega)⟩
  · rw [if_neg h₃]
    exact ⟨_, _, rfl, .inr (by rw [toNat_ofNat (by omega)]; omega)⟩

/-- **A character parts well-formed bytes.** -/
theorem valid_append_encodeChar_iff {c : Char} {bs bs' : Bytes} :
    Valid (bs ++ (encodeChar c ++ bs')) ↔ Valid bs ∧ Valid bs' := by
  have hchar : ahead .start (encodeChar c) = some .start := by
    have h := valid_iff.mp (valid_encode [c])
    rwa [encode_cons, encode_nil, List.append_nil] at h
  have hbehind : ahead .start (encodeChar c ++ bs') = ahead .start bs' := by
    rw [ahead_append, hchar]
    rfl
  constructor
  · intro hvalid
    rw [valid_iff, ahead_append] at hvalid
    cases hstate : ahead .start bs with
    | none =>
      rw [hstate] at hvalid
      cases hvalid
    | some p =>
      rw [hstate] at hvalid
      cases p with
      | start =>
        replace hvalid : ahead .start (encodeChar c ++ bs') = some .start := hvalid
        rw [hbehind] at hvalid
        exact ⟨valid_iff.mpr hstate, valid_iff.mpr hvalid⟩
      | inside left value least =>
        -- A reader inside a character does not get over the first byte of another.
        obtain ⟨b, bs'', heq, hb⟩ := exists_encodeChar_eq_cons c
        have hfault : advance (.inside left value least) b = .fault := if_pos hb
        replace hvalid : ahead (.inside left value least) (encodeChar c ++ bs') = some .start :=
          hvalid
        rw [heq, List.cons_append, ahead, hfault] at hvalid
        cases hvalid
  · rintro ⟨hbs, hbs'⟩
    rw [valid_iff, ahead_append, valid_iff.mp hbs]
    exact hbehind.trans (valid_iff.mp hbs')

/-- ASCII may stand in front of well-formed bytes. -/
theorem valid_append_iff_of_ascii {bs bs' : Bytes} (h : ∀ b ∈ bs, b < 0x80) :
    Valid (bs ++ bs') ↔ Valid bs' := by
  induction bs with
  | nil => rfl
  | cons b bs ih =>
    obtain ⟨hb, hbs⟩ := List.forall_mem_cons.mp h
    rw [List.cons_append, valid_cons_iff hb, ih hbs]

theorem valid_of_ascii {bs : Bytes} (h : ∀ b ∈ bs, b < 0x80) : Valid bs := by
  have hvalid : Valid (bs ++ []) := (valid_append_iff_of_ascii h).mpr valid_nil
  rwa [List.append_nil] at hvalid

end DialogStub.Utf8
