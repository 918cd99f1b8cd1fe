import DialogStub.Proofs.Json.Extent

/-!
# How a value starts

* `Json.Starts`, `Json.readStart_eq_ok_iff` — all starts of values, told by the first byte;
* `Json.readStart_extent` — a value that is no array and no object is read from a text that is one
  value, whatever follows it.
-/

namespace DialogStub.Json

/-! ### Values of one word -/

/-- A word is read where it stands, and nowhere else. -/
theorem readWord_eq_ok_iff {word : String} {value : Json} {start : Start} {bs rest : Bytes} :
    readWord word value bs = .ok (start, rest) ↔
      start = .scalar value ∧ bs = Utf8.bytes word ++ rest := by
  unfold readWord
  constructor
  · intro h
    split at h
    · cases h
    · rename_i hliteral
      cases h
      exact ⟨rfl, literal_extent hliteral⟩
  · rintro ⟨rfl, rfl⟩
    rw [literal_append]

/-- The words that stand for a value each, the first letter of each apart. -/
def fixedWords : List (UInt8 × String × Json) :=
  [(0x6E, "ull", .null), (0x74, "rue", .bool true), (0x66, "alse", .bool false)]

/-- There are three words: `null`, `true` and `false`. -/
theorem mem_fixedWords_iff {b : UInt8} {word : String} {value : Json} :
    (b, word, value) ∈ fixedWords ↔ b = 0x6E ∧ word = "ull" ∧ value = .null ∨
      b = 0x74 ∧ word = "rue" ∧ value = .bool true ∨
      b = 0x66 ∧ word = "alse" ∧ value = .bool false := by
  simp [fixedWords]

/-- How a value starts, and what is left behind it, where the first byte is no white space. -/
inductive Starts (b : UInt8) (bs : Bytes) : Start → Bytes → Prop where
  | word {word : String} {value : Json} {rest : Bytes} (hword : (b, word, value) ∈ fixedWords)
      (h : bs = Utf8.bytes word ++ rest) : Starts b bs (.scalar value) rest
  | str {s : String} {rest : Bytes} (hquote : b = 0x22) (h : readString bs = .ok (s, rest)) :
      Starts b bs (.scalar (.str s)) rest
  | list (hlist : b = 0x5B) : Starts b bs (.bracket .list) (b :: bs)
  | object (hobject : b = 0x7B) : Starts b bs (.bracket .object) (b :: bs)
  | int {n : Int} {rest : Bytes} (hnumber : b = 0x2D ∨ (digit? b).isSome = true)
      (h : readNumber (b :: bs) = .ok (.int n, rest)) : Starts b bs (.scalar (.int n)) rest
  | real {x : Binary64} {rest : Bytes} (hnumber : b = 0x2D ∨ (digit? b).isSome = true)
      (h : readNumber (b :: bs) = .ok (.real x, rest)) : Starts b bs (.scalar (.real x)) rest

/-- What was read of a value begins in one of the ways there are. -/
theorem starts_of_readStart {b : UInt8} {bs rest : Bytes} {start : Start}
    (hspace : isSpace b = false) (h : readStart (b :: bs) = .ok (start, rest)) :
    Starts b bs start rest := by
  have word {w : String} {value : Json} (hword : (b, w, value) ∈ fixedWords)
      (h : readWord w value bs = .ok (start, rest)) : Starts b bs start rest := by
    obtain ⟨rfl, heq⟩ := readWord_eq_ok_iff.mp h
    exact .word hword heq
  -- The cases come in the order in which the reader looks for their first bytes.
  rw [readStart, skipBlank_cons hspace] at h
  dsimp only at h
  split at h
  · rename_i hb
    exact word (by simp [hb, fixedWords]) h
  split at h
  · rename_i hb
    exact word (by simp [hb, fixedWords]) h
  split at h
  · rename_i hb
    exact word (by simp [hb, fixedWords]) h
  split at h
  · rename_i hquote
    split at h
    · cases h
    rename_i hread
    cases h
    exact .str hquote hread
  split at h
  · rename_i hlist
    cases h
    exact .list hlist
  split at h
  · rename_i hobject
    cases h
    exact .object hobject
  split at h
  · rename_i hnumber
    split at h
    · cases h
    rename_i number _ hread
    cases h
    cases number with
    | int n => exact .int hnumber hread
    | real x => exact .real hnumber hread
  · cases h

/-- Every way in which a value can begin is read. -/
theorem Starts.readStart {b : UInt8} {bs rest : Bytes} {start : Start}
    (h : Starts b bs start rest) (hspace : isSpace b = false) :
    Json.readStart (b :: bs) = .ok (start, rest) := by
  -- A byte that begins a number is none of those that are looked for before.
  have number (hnumber : b = 0x2D ∨ (digit? b).isSome = true) {x : UInt8} (hminus : x ≠ 0x2D)
      (hdigit : digit? x = none) : b ≠ x :=
    ne_of_startsNumber hnumber hminus hdigit
  rw [Json.readStart, skipBlank_cons hspace]
  dsimp only
  cases h with
  | word hword h =>
    rcases mem_fixedWords_iff.mp hword with ⟨rfl, rfl, rfl⟩ | ⟨rfl, rfl, rfl⟩ | ⟨rfl, rfl, rfl⟩
    all_goals exact readWord_eq_ok_iff.mpr ⟨rfl, h⟩
  | str hquote h =>
    subst hquote
    rw [if_neg (by decide), if_neg (by decide), if_neg (by decide), if_pos rfl, h]
  | list hlist | object hlist =>
    subst hlist
    rfl
  | int hnumber h | real hnumber h =>
    rw [if_neg (number hnumber (by decide) (by decide)),
      if_neg (number hnumber (by decide) (by decide)),
      if_neg (number hnumber (by decide) (by decide)),
      if_neg (number hnumber (by decide) (by decide)),
      if_neg (number hnumber (by decide) (by decide)),
      if_neg (number hnumber (by decide) (by decide)), if_pos hnumber, h]
    rfl

/-- **All starts of values**, told by the first byte. -/
theorem readStart_eq_ok_iff {b : UInt8} {bs rest : Bytes} {start : Start}
    (hspace : isSpace b = false) :
    readStart (b :: bs) = .ok (start, rest) ↔ Starts b bs start rest :=
  ⟨starts_of_readStart hspace, fun h => h.readStart hspace⟩

/-- The scanner passes over the words, too. -/
theorem skipScalar_word {b : UInt8} {word : String} {value : Json}
    (h : (b, word, value) ∈ fixedWords) :
    b ≠ 0x5B ∧ b ≠ 0x7B ∧ ∀ tail, skipScalar b (Utf8.bytes word ++ tail) = .ok tail := by
  rcases mem_fixedWords_iff.mp h with ⟨rfl, rfl, rfl⟩ | ⟨rfl, rfl, rfl⟩ | ⟨rfl, rfl, rfl⟩
  all_goals exact ⟨by decide, by decide, fun tail => literal_append _ tail⟩

/-- A number is read, and passed over, together with its first byte. -/
theorem readNumber_extent {b : UInt8} {bs rest : Bytes} {n : Number}
    (hnumber : b = 0x2D ∨ (digit? b).isSome = true) (h : readNumber (b :: bs) = .ok (n, rest)) :
    ∃ used, bs = used ++ rest ∧ Consumes readNumber (b :: used) n ∧ IsValue (b :: used) := by
  obtain ⟨used, heq, hconsumes, hpasses⟩ := readNumber_follows _ _ _ h
  -- The first byte belongs to the number, since there is no number without bytes.
  cases used with
  | nil => exact absurd rfl (hconsumes.ne_nil nofun)
  | cons c used =>
    obtain ⟨rfl, rfl⟩ := List.cons.inj heq
    obtain ⟨hspace, hlist, hobject, -⟩ := skipScalar_number hnumber []
    refine ⟨used, rfl, hconsumes, isValue_of_skipScalar hspace hlist hobject fun tail htail => ?_⟩
    rw [(skipScalar_number hnumber _).2.2.2]
    exact hpasses tail htail

/-- **The start of a value.** A value of one word does not depend on what follows it, and is passed
    over as one value; a bracket is left in place. -/
theorem readStart_extent {b : UInt8} {bs rest : Bytes} {start : Start} (hspace : isSpace b = false)
    (h : readStart (b :: bs) = .ok (start, rest)) :
    (∃ value used, start = .scalar value ∧ b :: bs = used ++ rest ∧
      Consumes readStart used (.scalar value) ∧ IsValue used) ∨
    (start = .bracket .list ∧ b = 0x5B ∧ rest = b :: bs) ∨
    (start = .bracket .object ∧ b = 0x7B ∧ rest = b :: bs) := by
  -- Words, texts and numbers are used up to their end; of a bracket, nothing is.
  cases starts_of_readStart hspace h with
  | @word w value _ hword heq =>
    obtain ⟨hlist, hobject, hskip⟩ := skipScalar_word hword
    refine .inl ⟨value, b :: Utf8.bytes w, rfl, by rw [heq]; rfl,
      fun _ _ => (Starts.word hword rfl).readStart hspace, ?_⟩
    exact isValue_of_skipScalar hspace hlist hobject fun tail _ => hskip tail
  | @str s _ hquote hread =>
    subst hquote
    obtain ⟨used, rfl, hread, hskip⟩ := readString_extent hread
    refine .inl ⟨.str s, 0x22 :: used, rfl, rfl,
      fun tail _ => (Starts.str rfl (hread tail)).readStart hspace, ?_⟩
    exact isValue_of_skipScalar hspace (by decide) (by decide) fun tail _ => hskip tail
  | list hlist => exact .inr (.inl ⟨rfl, hlist, rfl⟩)
  | object hobject => exact .inr (.inr ⟨rfl, hobject, rfl⟩)
  | @int n _ hnumber hread =>
    obtain ⟨used, rfl, hconsumes, hvalue⟩ := readNumber_extent hnumber hread
    exact .inl ⟨.int n, b :: used, rfl, rfl,
      fun tail htail => (Starts.int hnumber (hconsumes tail htail)).readStart hspace, hvalue⟩
  | @real x _ hnumber hread =>
    obtain ⟨used, rfl, hconsumes, hvalue⟩ := readNumber_extent hnumber hread
    exact .inl ⟨.real x, b :: used, rfl, rfl,
      fun tail htail => (Starts.real hnumber (hconsumes tail htail)).readStart hspace, hvalue⟩

theorem readStart_blank {blank : Bytes} (h : Blank blank) (bs : Bytes) :
    readStart (blank ++ bs) = readStart bs := by
  rw [readStart, readStart, skipBlank_append h]

end DialogStub.Json
