import DialogStub.Text.Utf8

/-!
# Reading back what was encoded

* `Utf8.decode_encode` — the bytes of characters spell these characters;
* `Utf8.text?_bytes` — the same for texts;
* `Utf8.text?_of_ascii` — bytes below 0x80 spell the characters of their values.

The reader is followed through the one to four bytes of a character.
-/

namespace DialogStub.Utf8

theorem toNat_ofNat {n : Nat} (h : n < 256) : (UInt8.ofNat n).toNat = n := by
  rw [UInt8.toNat_ofNat']
  omega

/-- The value of a character ends this character. -/
theorem finish_toNat {c : Char} {least : Nat} (h : least ≤ c.toNat) :
    finish c.toNat least = .done c := by
  have hvalid : c.toNat.isValidChar := c.valid
  rw [finish, dif_pos hvalid, if_pos h]
  rfl

/-! ### Single bytes -/

/-- A byte of ASCII is a character. -/
theorem advance_single {n : Nat} (h : n < 0x80) :
    advance .start (UInt8.ofNat n) = finish n 0 := by
  rw [advance, toNat_ofNat (by omega)]
  exact if_pos h

/-- The first of two bytes has five bits of the character. -/
theorem advance_lead₂ {n : Nat} (h : n < 0x20) :
    advance .start (UInt8.ofNat (0xC0 + n)) = .more (.inside 1 n 0x80) := by
  rw [advance, toNat_ofNat (by omega)]
  rw [if_neg (by omega), if_neg (by omega), if_pos (by omega), Nat.add_sub_cancel_left]

/-- The first of three bytes has four bits of the character. -/
theorem advance_lead₃ {n : Nat} (h : n < 0x10) :
    advance .start (UInt8.ofNat (0xE0 + n)) = .more (.inside 2 n 0x800) := by
  rw [advance, toNat_ofNat (by omega)]
  rw [if_neg (by omega), if_neg (by omega), if_neg (by omega), if_pos (by omega),
    Nat.add_sub_cancel_left]

/-- The first of four bytes has three bits of the character. -/
theorem advance_lead₄ {n : Nat} (h : n < 0x08) :
    advance .start (UInt8.ofNat (0xF0 + n)) = .more (.inside 3 n 0x10000) := by
  rw [advance, toNat_ofNat (by omega)]
  rw [if_neg (by omega), if_neg (by omega), if_neg (by omega), if_neg (by omega),
    if_pos (by omega), Nat.add_sub_cancel_left]

/-- A byte inside a character brings six more bits. -/
theorem advance_tail (left value least : Nat) {n : Nat} (h : n < 0x40) :
    advance (.inside left value least) (UInt8.ofNat (0x80 + n)) =
      if left ≤ 1 then finish (value * 0x40 + n) least
      else .more (.inside (left - 1) (value * 0x40 + n) least) := by
  rw [advance, toNat_ofNat (by omega)]
  dsimp only
  rw [if_neg (by omega), Nat.add_sub_cancel_left]

/-- The six bits that are missing end a character. -/
theorem advance_last {c : Char} {least : Nat} (h : least ≤ c.toNat) :
    advance (.inside 1 (c.toNat / 0x40) least) (UInt8.ofNat (0x80 + c.toNat % 0x40)) = .done c := by
  rw [advance_tail _ _ _ (by omega), if_pos (by decide), Nat.div_add_mod']
  exact finish_toNat h

/-- Six of the bits that are missing lead to a value with six bits more. -/
theorem advance_inner (left n least : Nat) :
    advance (.inside (left + 2) (n / 0x40) least) (UInt8.ofNat (0x80 + n % 0x40))
      = .more (.inside (left + 1) n least) := by
  rw [advance_tail _ _ _ (by omega), if_neg (by omega), Nat.div_add_mod']
  rfl

/-! ### Characters -/

/-- Inside a character, decoding goes on. -/
theorem decodeFrom_more {p next : Progress} {b : UInt8} (h : advance p b = .more next)
    (good pending : Nat) (done : List Char) (rest : Bytes) :
    decodeFrom p good pending done (b :: rest) = decodeFrom next good (pending + 1) done rest := by
  rw [decodeFrom, h]

/-- With its last byte, a character is decoded. -/
theorem decodeFrom_done {p : Progress} {b : UInt8} {c : Char} (h : advance p b = .done c)
    (good pending : Nat) (done : List Char) (rest : Bytes) :
    decodeFrom p good pending done (b :: rest)
      = decodeFrom .start (good + pending + 1) 0 (c :: done) rest := by
  rw [decodeFrom, h]

/-- **One character.** The bytes of a character are read as this character, whatever is behind
    them. -/
theorem decodeFrom_encodeChar (c : Char) (good : Nat) (done : List Char) (rest : Bytes) :
    decodeFrom .start good 0 done (encodeChar c ++ rest)
      = decodeFrom .start (good + (encodeChar c).length) 0 (c :: done) rest := by
  have hmax : c.toNat < 0x110000 := by
    rcases c.valid with h | h
    · exact Nat.lt_trans h (by decide)
    · exact h.2
  unfold encodeChar
  dsimp only
  -- Each bound is that of the characters of one byte, of two and of three.
  by_cases h₁ : c.toNat < 0x80
  · have hend : advance .start (UInt8.ofNat c.toNat) = .done c := by
      rw [advance_single h₁, finish_toNat (Nat.zero_le _)]
    rw [if_pos h₁]
    exact decodeFrom_done hend _ _ _ _
  rw [if_neg h₁]
  by_cases h₂ : c.toNat < 0x800
  · rw [if_pos h₂]
    exact (decodeFrom_more (advance_lead₂ (by omega)) _ _ _ _).trans
      (decodeFrom_done (advance_last (by omega)) _ _ _ _)
  rw [if_neg h₂]
  by_cases h₃ : c.toNat < 0x10000
  · have hdiv : c.toNat / 0x1000 = c.toNat / 0x40 / 0x40 := by omega
    have hmore := advance_inner 0 (c.toNat / 0x40) 0x800
    rw [← hdiv] at hmore
    rw [if_pos h₃]
    exact (decodeFrom_more (advance_lead₃ (by omega)) _ _ _ _).trans
      ((decodeFrom_more hmore _ _ _ _).trans
        (decodeFrom_done (advance_last (by omega)) _ _ _ _))
  · have hdiv : c.toNat / 0x1000 = c.toNat / 0x40 / 0x40 := by omega
    have hdiv' : c.toNat / 0x40000 = c.toNat / 0x1000 / 0x40 := by omega
    have hmore := advance_inner 1 (c.toNat / 0x1000) 0x10000
    have hmore' := advance_inner 0 (c.toNat / 0x40) 0x10000
    rw [← hdiv'] at hmore
    rw [← hdiv] at hmore'
    rw [if_neg h₃]
    exact (decodeFrom_more (advance_lead₄ (by omega)) _ _ _ _).trans
      ((decodeFrom_more hmore _ _ _ _).trans
        ((decodeFrom_more hmore' _ _ _ _).trans
          (decodeFrom_done (advance_last (by omega)) _ _ _ _)))

/-! ### Texts -/

/-- Encoded characters are decoded. -/
theorem decodeFrom_encode (cs : List Char) (good : Nat) (done : List Char) :
    decodeFrom .start good 0 done (encode cs) = .ok (done.reverse ++ cs) := by
  induction cs generalizing good done with
  | nil => rw [List.append_nil]; rfl
  | cons c cs ih =>
    rw [encode_cons, decodeFrom_encodeChar, ih, List.reverse_cons, List.append_assoc]
    rfl

/-- **The bytes of characters spell these characters.** -/
theorem decode_encode (cs : List Char) : decode (encode cs) = .ok cs :=
  decodeFrom_encode cs 0 []

/-- Texts with the same bytes are the same. -/
theorem encode_injective : Function.Injective encode := by
  intro cs cs' h
  have hdecode := decode_encode cs'
  rw [← h, decode_encode cs] at hdecode
  exact Except.ok.inj hdecode

/-- The bytes of a text spell this text. -/
theorem text?_bytes (s : String) : text? (bytes s) = some s := by
  rw [text?, bytes, decode_encode]
  exact congrArg some String.ofList_toList

/-! ### ASCII -/

/-- The character of a byte. -/
def asciiChar (b : UInt8) : Char := Char.ofNat b.toNat

/-- A character of ASCII is one byte. -/
theorem encodeChar_asciiChar {b : UInt8} (h : b < 0x80) : encodeChar (asciiChar b) = [b] := by
  have hlt : b.toNat < 0x80 := UInt8.lt_iff_toNat_lt.mp h
  have hvalid : b.toNat.isValidChar := Or.inl (by omega)
  have hvalue : (asciiChar b).toNat = b.toNat := by
    rw [asciiChar, Char.ofNat, dif_pos hvalid]
    exact UInt32.toNat_ofNatLT
  unfold encodeChar
  dsimp only
  rw [hvalue, if_pos hlt, UInt8.ofNat_toNat]

/-- Bytes below 0x80 are the characters of their values. -/
theorem encode_map_asciiChar {bs : Bytes} (h : ∀ b ∈ bs, b < 0x80) :
    encode (bs.map asciiChar) = bs := by
  induction bs with
  | nil => rfl
  | cons b bs ih =>
    have hrest : ∀ b' ∈ bs, b' < 0x80 := fun b' hb' => h b' (List.mem_cons_of_mem b hb')
    rw [List.map_cons, encode_cons, encodeChar_asciiChar (h b List.mem_cons_self), ih hrest]
    rfl

/-- Characters with bytes below 0x80 only are those of their bytes. -/
theorem map_asciiChar_encode {cs : List Char} (h : ∀ b ∈ encode cs, b < 0x80) :
    (encode cs).map asciiChar = cs :=
  encode_injective (encode_map_asciiChar h)

/-- ASCII is a text. -/
theorem text?_of_ascii {bs : Bytes} (h : ∀ b ∈ bs, b < 0x80) :
    text? bs = some (String.ofList (bs.map asciiChar)) := by
  have hread := text?_bytes (String.ofList (bs.map asciiChar))
  rwa [bytes, String.toList_ofList, encode_map_asciiChar h] at hread

end DialogStub.Utf8
