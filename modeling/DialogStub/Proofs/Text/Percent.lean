import DialogStub.Proofs.Text.Utf8
import DialogStub.Text.Percent

/-!
# Spellings in percent-encoded form

* `Percent.Spells` — a text spells bytes: unreserved bytes may stand for themselves, and every byte
  may be spelled by two digits in either case;
* `Percent.Spells.decode_eq` — what a text spells is what it is decoded to;
* `Percent.spells_encode` — all bytes can be spelled;
* `Percent.Names` — the same for characters that spell a text, as one segment of a path.

A text that is spelled so has no slash and no other reserved byte, and it is decoded without a look
at what comes later. So it names one text only, and every text has a name.
-/

namespace DialogStub.Percent

/-! ### Unreserved bytes -/

/-- The bytes that may stand for themselves everywhere: letters, digits, and four signs. -/
def isUnreserved (b : UInt8) : Bool :=
  (0x30 ≤ b && b ≤ 0x39) || (0x41 ≤ b && b ≤ 0x5A) || (0x61 ≤ b && b ≤ 0x7A) ||
    b == 0x2D || b == 0x2E || b == 0x5F || b == 0x7E

theorem hexValue?_hexDigit : ∀ n < 16, hexValue? (hexDigit n) = some n := by
  decide

/-- What holds of the bytes of all numbers below 256 holds of every byte. -/
theorem forall_byte {P : UInt8 → Prop} (h : ∀ n < 256, P (UInt8.ofNat n)) (b : UInt8) : P b := by
  have hb := h b.toNat b.toNat_lt
  rwa [UInt8.ofNat_toNat] at hb

/-- A digit is unreserved. -/
theorem isUnreserved_of_hexValue? {b : UInt8} {n : Nat} (h : hexValue? b = some n) :
    isUnreserved b = true := by
  have hdigits : ∀ b : UInt8, (hexValue? b).isSome = true → isUnreserved b = true :=
    forall_byte (by decide +kernel)
  exact hdigits b (by rw [h]; rfl)

/-- The bytes that stand in a spelling are those of ASCII characters other than the slash. -/
theorem asciiChar_ne_slash {b : UInt8} (h : b = 0x25 ∨ isUnreserved b = true) :
    b < 0x80 ∧ Utf8.asciiChar b ≠ '/' := by
  have hbytes : ∀ b : UInt8, b = 0x25 ∨ isUnreserved b = true →
      b < 0x80 ∧ Utf8.asciiChar b ≠ '/' :=
    forall_byte (by decide +kernel)
  exact hbytes b h

/-! ### Spellings -/

/-- A text spells bytes, one after the other: an unreserved byte stands for itself, or a percent
    sign and two digits stand for a byte. -/
inductive Spells : Bytes → Bytes → Prop where
  | nil : Spells [] []
  | plain {b : UInt8} {text bs : Bytes} (unreserved : isUnreserved b = true)
      (rest : Spells text bs) : Spells (b :: text) (b :: bs)
  | escaped {b high low : UInt8} {text bs : Bytes} (high_eq : hexValue? high = some (b.toNat / 16))
      (low_eq : hexValue? low = some (b.toNat % 16)) (rest : Spells text bs) :
      Spells (0x25 :: high :: low :: text) (b :: bs)

/-- A percent sign with two digits is one byte. -/
theorem decodeFrom_escaped {b high low : UInt8} (hhigh : hexValue? high = some (b.toNat / 16))
    (hlow : hexValue? low = some (b.toNat % 16)) (done text : Bytes) :
    decodeFrom done (0x25 :: high :: low :: text) = decodeFrom (b :: done) text := by
  have hbyte : UInt8.ofNat (b.toNat / 16 * 16 + b.toNat % 16) = b := by
    rw [Nat.div_add_mod', UInt8.ofNat_toNat]
  simp [decodeFrom, hhigh, hlow, hbyte]

/-- A byte other than the percent sign stands for itself, whatever comes behind it. -/
theorem decodeFrom_plain {b : UInt8} (h : b ≠ 0x25) (done : Bytes) :
    ∀ text, decodeFrom done (b :: text) = decodeFrom (b :: done) text
  | [] => rfl
  | [_] => rfl
  | _ :: _ :: _ => by simp [decodeFrom, h]

/-- A text is decoded to the bytes that it spells. -/
theorem Spells.decodeFrom_eq {text bs : Bytes} (h : Spells text bs) (done : Bytes) :
    decodeFrom done text = done.reverse ++ bs := by
  -- The decoder looks two bytes ahead, but goes on as the spelling does, by one byte or by three.
  induction h generalizing done with
  | nil => simp [decodeFrom]
  | @plain b _ _ unreserved _ ih =>
    have hne : b ≠ 0x25 := by
      rintro rfl
      revert unreserved
      decide
    rw [decodeFrom_plain hne, ih]
    simp
  | escaped high_eq low_eq _ ih =>
    rw [decodeFrom_escaped high_eq low_eq, ih]
    simp

/-- **What a text spells** is what it is decoded to. -/
theorem Spells.decode_eq {text bs : Bytes} (h : Spells text bs) : decode text = bs :=
  h.decodeFrom_eq []

/-- **All bytes can be spelled**, if only unreserved ones stand for themselves. -/
theorem spells_encode (bs : Bytes) : Spells (encode isUnreserved bs) bs := by
  induction bs with
  | nil => exact .nil
  | cons b bs ih =>
    rw [encode, List.flatMap_cons]
    split
    · rename_i hplain
      exact .plain hplain ih
    · have hlt := b.toNat_lt
      exact .escaped (hexValue?_hexDigit _ (by omega)) (hexValue?_hexDigit _ (by omega)) ih

/-- No byte stands in a spelling but percent signs and unreserved bytes. -/
theorem Spells.mem {text bs : Bytes} (h : Spells text bs) :
    ∀ b ∈ text, b = 0x25 ∨ isUnreserved b = true := by
  induction h with
  | nil => simp
  | plain unreserved _ ih => exact List.forall_mem_cons.mpr ⟨.inr unreserved, ih⟩
  | escaped high_eq low_eq _ ih =>
    refine List.forall_mem_cons.mpr ⟨.inl rfl, List.forall_mem_cons.mpr ⟨?_,
      List.forall_mem_cons.mpr ⟨?_, ih⟩⟩⟩
    · exact .inr (isUnreserved_of_hexValue? high_eq)
    · exact .inr (isUnreserved_of_hexValue? low_eq)

/-! ### Segments -/

/-- Characters that spell a text, as one segment of a path. -/
def Names (segment : List Char) (s : String) : Prop :=
  Spells (Utf8.encode segment) (Utf8.bytes s)

namespace Names

variable {segment : List Char} {s : String}

/-- What stands in a name is spelled by bytes of ASCII characters. -/
theorem exists_of_mem (h : Names segment s) {c : Char} (hc : c ∈ segment) :
    ∃ b, (b = 0x25 ∨ isUnreserved b = true) ∧ c = Utf8.asciiChar b := by
  -- All bytes of the segment are ASCII, so that its characters are these bytes one by one.
  have hascii : (Utf8.encode segment).map Utf8.asciiChar = segment :=
    Utf8.map_asciiChar_encode fun b hb => (asciiChar_ne_slash (Spells.mem h b hb)).1
  rw [← hascii] at hc
  obtain ⟨b, hb, rfl⟩ := List.mem_map.mp hc
  exact ⟨b, Spells.mem h b hb, rfl⟩

/-- No slash is in a segment that spells a name. -/
theorem not_mem_slash (h : Names segment s) : '/' ∉ segment := by
  intro hmem
  obtain ⟨b, hb, heq⟩ := h.exists_of_mem hmem
  exact (asciiChar_ne_slash hb).2 heq.symm

theorem text?_eq (h : Names segment s) :
    Utf8.text? (decode (Utf8.encode segment)) = some s := by
  rw [Spells.decode_eq h, Utf8.text?_bytes]

/-- A name that is not empty is spelled by something. -/
theorem ne_nil (h : Names segment s) (hs : s ≠ "") : segment ≠ [] := by
  rintro rfl
  have hempty : Utf8.text? (decode (Utf8.encode [])) = some "" := by decide
  rw [h.text?_eq] at hempty
  exact hs (Option.some.inj hempty)

end Names

/-- **Every text has a name.** -/
theorem exists_names (s : String) : ∃ segment, Names segment s := by
  have hspells := spells_encode (Utf8.bytes s)
  refine ⟨(encode isUnreserved (Utf8.bytes s)).map Utf8.asciiChar, ?_⟩
  have hascii : ∀ b ∈ encode isUnreserved (Utf8.bytes s), b < 0x80 :=
    fun b hb => (asciiChar_ne_slash (hspells.mem b hb)).1
  rw [Names, Utf8.encode_map_asciiChar hascii]
  exact hspells

end DialogStub.Percent
