import DialogStub.Proofs.Text.Utf8

/-!
# The order of texts

* `Utf8.encodeChar_append_lt` — a lesser character has lesser bytes, whatever stands behind it;
* `Utf8.bytes_lt_iff` — texts are in the order of their bytes.

Characters of more bytes have a greater first byte, and among characters of as many bytes the bits
stand in their order.
-/

namespace DialogStub.Utf8

/-- Bytes are compared from the first on. -/
theorem ofNat_cons_lt {m n : Nat} {bs bs' : Bytes} (hn : n < 256)
    (h : m < n ∨ m = n ∧ bs < bs') : UInt8.ofNat m :: bs < UInt8.ofNat n :: bs' := by
  rw [List.cons_lt_cons_iff]
  rcases h with h | ⟨rfl, h⟩
  · left
    rwa [UInt8.lt_iff_toNat_lt, toNat_ofNat (by omega), toNat_ofNat hn]
  · exact .inr ⟨rfl, h⟩

/-- The six lowest bits decide if all others are the same. -/
theorem ofNat_last_lt {m n : Nat} (h : m < n) (hsame : m / 0x40 = n / 0x40) (bs bs' : Bytes) :
    UInt8.ofNat (0x80 + m % 0x40) :: bs < UInt8.ofNat (0x80 + n % 0x40) :: bs' :=
  ofNat_cons_lt (by omega) (.inl (by omega))

/-- The six bits before them decide if all before are the same, and else those behind. -/
theorem ofNat_inner_lt {m n : Nat} {bs bs' : Bytes} (h : m ≤ n) (hsame : m / 0x40 = n / 0x40)
    (hbs : m = n → bs < bs') :
    UInt8.ofNat (0x80 + m % 0x40) :: bs < UInt8.ofNat (0x80 + n % 0x40) :: bs' := by
  by_cases heq : m = n
  · exact ofNat_cons_lt (by omega) (.inr ⟨by rw [heq], hbs heq⟩)
  · exact ofNat_cons_lt (by omega) (.inl (by omega))

/-- The bits of the first byte decide if they differ, and else those behind. -/
theorem ofNat_lead_lt {m n k : Nat} {bs bs' : Bytes} (h : m ≤ n) (hn : k + n < 256)
    (hbs : m = n → bs < bs') : UInt8.ofNat (k + m) :: bs < UInt8.ofNat (k + n) :: bs' := by
  by_cases heq : m = n
  · exact ofNat_cons_lt hn (.inr ⟨by rw [heq], hbs heq⟩)
  · exact ofNat_cons_lt hn (.inl (by omega))

/-- **A lesser character has lesser bytes.** -/
theorem encodeChar_append_lt {c d : Char} (h : c.toNat < d.toNat) (bs bs' : Bytes) :
    encodeChar c ++ bs < encodeChar d ++ bs' := by
  have hmax : d.toNat < 0x110000 := by
    rcases d.valid with h | h
    · exact Nat.lt_trans h (by decide)
    · exact h.2
  generalize hm : c.toNat = m at h
  generalize hn : d.toNat = n at h hmax
  unfold encodeChar
  dsimp only
  rw [hm, hn]
  -- The number of bytes of the greater character, and then that of the lesser one.
  by_cases hn₁ : n < 0x80
  · rw [if_pos hn₁, if_pos (by omega)]
    exact ofNat_cons_lt (by omega) (.inl h)
  rw [if_neg hn₁]
  by_cases hn₂ : n < 0x800
  · rw [if_pos hn₂]
    by_cases hm₁ : m < 0x80
    · rw [if_pos hm₁]
      exact ofNat_cons_lt (by omega) (.inl (by omega))
    rw [if_neg hm₁, if_pos (by omega)]
    exact ofNat_lead_lt (by omega) (by omega) fun hlead => ofNat_last_lt h hlead _ _
  rw [if_neg hn₂]
  by_cases hn₃ : n < 0x10000
  · rw [if_pos hn₃]
    by_cases hm₁ : m < 0x80
    · rw [if_pos hm₁]
      exact ofNat_cons_lt (by omega) (.inl (by omega))
    rw [if_neg hm₁]
    by_cases hm₂ : m < 0x800
    · rw [if_pos hm₂]
      exact ofNat_cons_lt (by omega) (.inl (by omega))
    rw [if_neg hm₂, if_pos (by omega)]
    exact ofNat_lead_lt (by omega) (by omega) fun hlead =>
      ofNat_inner_lt (by omega) (by omega) fun hinner => ofNat_last_lt h hinner _ _
  rw [if_neg hn₃]
  by_cases hm₁ : m < 0x80
  · rw [if_pos hm₁]
    exact ofNat_cons_lt (by omega) (.inl (by omega))
  rw [if_neg hm₁]
  by_cases hm₂ : m < 0x800
  · rw [if_pos hm₂]
    exact ofNat_cons_lt (by omega) (.inl (by omega))
  rw [if_neg hm₂]
  by_cases hm₃ : m < 0x10000
  · rw [if_pos hm₃]
    exact ofNat_cons_lt (by omega) (.inl (by omega))
  rw [if_neg hm₃]
  exact ofNat_lead_lt (by omega) (by omega) fun hlead =>
    ofNat_inner_lt (by omega) (by omega) fun hinner =>
      ofNat_inner_lt (by omega) (by omega) fun hinner' => ofNat_last_lt h hinner' _ _

/-- By induction on the characters that both texts begin with. -/
theorem encode_lt_of_lt {cs ds : List Char} (h : cs < ds) : encode cs < encode ds := by
  induction cs generalizing ds with
  | nil =>
    cases ds with
    | nil => exact absurd h (List.lt_irrefl _)
    | cons d ds =>
      -- A character has at least one byte.
      obtain ⟨b, bs, heq⟩ : ∃ b bs, encodeChar d = b :: bs := by
        unfold encodeChar
        dsimp only
        repeat' split
        all_goals exact ⟨_, _, rfl⟩
      rw [encode_cons, heq]
      exact List.nil_lt_cons b _
  | cons c cs ih =>
    cases ds with
    | nil => exact absurd h (List.not_lt_nil _)
    | cons d ds =>
      rw [encode_cons, encode_cons]
      rcases List.cons_lt_cons_iff.mp h with hchar | ⟨rfl, hchars⟩
      · exact encodeChar_append_lt hchar _ _
      · exact List.append_left_lt (ih hchars)

/-- **Texts are in the order of their bytes.** -/
theorem bytes_lt_iff {s t : String} : bytes s < bytes t ↔ s < t := by
  refine ⟨fun h => Decidable.byContradiction fun hnot => ?_, fun h => encode_lt_of_lt h⟩
  by_cases hgreater : t < s
  · exact List.lt_asymm h (encode_lt_of_lt hgreater)
  · have hsame : s = t := String.le_antisymm (String.not_lt.mp hgreater) (String.not_lt.mp hnot)
    rw [hsame] at h
    exact List.lt_irrefl _ h

end DialogStub.Utf8
