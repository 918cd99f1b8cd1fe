import DialogStub.Proofs.Json.Form

/-!
# The grammar of JSON

* `Json.Numeral`, `Json.Quotation` — numbers and strings as they may be written;
* `Json.WellFormed` — the texts of values;
* `WellFormed.isValue` — each of them is passed over as one value, however deep it is;
* `WellFormed.valid` — and is UTF-8.

The grammar says nothing of what is read: numbers may be of any size, a key may come twice, and an
escape may be one half of a pair.
-/

namespace DialogStub.Json

open Utf8 (Valid valid_append_encodeChar_iff valid_append_iff_of_ascii valid_cons_iff valid_encode
  valid_nil valid_of_ascii)

/-! ### Numbers -/

/-- The digits of a whole number: a zero, or digits that do not begin with one. -/
inductive Whole : Bytes → Prop where
  | zero : Whole [0x30]
  | digits {b : UInt8} {ds : Bytes} (first : (digit? b).isSome = true) (ne_zero : b ≠ 0x30)
      (more : Digits ds) : Whole (b :: ds)

/-- A fraction, or nothing. -/
inductive Fraction : Bytes → Prop where
  | none : Fraction []
  | digits {ds : Bytes} (digits : Digits ds) (ne_nil : ds ≠ []) : Fraction (0x2E :: ds)

/-- An exponent, or nothing. -/
inductive Exponent : Bytes → Prop where
  | none : Exponent []
  | digits {letter : UInt8} {sign ds : Bytes} (letter_eq : letter = 0x65 ∨ letter = 0x45)
      (sign_eq : sign = [] ∨ sign = [0x2B] ∨ sign = [0x2D]) (digits : Digits ds)
      (ne_nil : ds ≠ []) : Exponent (letter :: (sign ++ ds))

/-- A number: a whole number with its sign, a fraction and an exponent. -/
inductive Numeral : Bytes → Prop where
  | mk {sign whole fraction exponent : Bytes} (sign_eq : sign = [] ∨ sign = [0x2D])
      (hwhole : Whole whole) (hfraction : Fraction fraction) (hexponent : Exponent exponent) :
      Numeral (sign ++ (whole ++ (fraction ++ exponent)))

/-- What begins with no digit ends a run of digits. -/
theorem noDigit_cons {b : UInt8} (h : digit? b = none) (rest : Bytes) : NoDigit (b :: rest) := by
  intro c hc
  cases hc
  exact h

/-- No digit stands where an exponent may begin. -/
theorem Exponent.noDigit {exponent tail : Bytes} (h : Exponent exponent) (htail : EndsNumber tail) :
    NoDigit (exponent ++ tail) := by
  cases h with
  | none => exact htail.noDigit
  | digits letter_eq =>
    refine noDigit_cons ?_ _
    rcases letter_eq with rfl | rfl <;> decide

/-- No digit stands where a fraction may begin. -/
theorem Fraction.noDigit {fraction exponent tail : Bytes} (h : Fraction fraction)
    (hexponent : Exponent exponent) (htail : EndsNumber tail) :
    NoDigit (fraction ++ (exponent ++ tail)) := by
  cases h with
  | none => exact hexponent.noDigit htail
  | digits => exact noDigit_cons (by decide) _

/-- Digits with a sign are passed over as an exponent. -/
theorem skipExponent_append {sign ds tail : Bytes}
    (sign_eq : sign = [] ∨ sign = [0x2B] ∨ sign = [0x2D]) (digits : Digits ds) (ne_nil : ds ≠ [])
    (htail : EndsNumber tail) : skipExponent (sign ++ (ds ++ tail)) = .ok tail := by
  have hpower : skipPower (ds ++ tail) = .ok tail :=
    skipDigits_append digits ne_nil htail.noDigit _
  rcases sign_eq with rfl | rfl | rfl
  · -- Without a sign, the first digit is looked at and is none of the two signs.
    obtain ⟨b, more, rfl⟩ := List.exists_cons_of_ne_nil ne_nil
    have hb : (digit? b).isSome = true := digits b List.mem_cons_self
    have hsigns : b ≠ 0x2B ∧ b ≠ 0x2D := by
      constructor <;> rintro rfl <;> revert hb <;> decide
    show skipExponent (b :: (more ++ tail)) = .ok tail
    rw [skipExponent_of_unsigned hsigns.1 hsigns.2]
    exact hpower
  · exact hpower
  · exact hpower

/-- An exponent is passed over up to its end. -/
theorem Exponent.skipScale {exponent tail : Bytes} (h : Exponent exponent)
    (htail : EndsNumber tail) : Json.skipScale (exponent ++ tail) = .ok tail := by
  cases h with
  | none => exact skipScale_of_ends htail
  | digits letter_eq sign_eq digits ne_nil =>
    have hexponent := skipExponent_append sign_eq digits ne_nil htail
    rcases letter_eq with rfl | rfl
    · rw [List.cons_append, List.append_assoc]
      exact hexponent
    · rw [List.cons_append, List.append_assoc]
      exact hexponent

/-- A fraction and an exponent are passed over up to their end. -/
theorem Fraction.skipTail {fraction exponent tail : Bytes} (h : Fraction fraction)
    (hexponent : Exponent exponent) (htail : EndsNumber tail) :
    Json.skipTail (fraction ++ (exponent ++ tail)) = .ok tail := by
  cases h with
  | none =>
    -- Without a fraction, an exponent is passed over in the same way.
    cases hexponent with
    | none => exact skipTail_of_ends htail
    | digits letter_eq sign_eq digits ne_nil =>
      have hpower := skipExponent_append sign_eq digits ne_nil htail
      rcases letter_eq with rfl | rfl
      · rw [List.nil_append, List.cons_append, List.append_assoc]
        exact hpower
      · rw [List.nil_append, List.cons_append, List.append_assoc]
        exact hpower
  | digits digits ne_nil =>
    rw [List.cons_append, skipTail_point, skipFraction,
      skipDigits_append digits ne_nil (hexponent.noDigit htail)]
    exact hexponent.skipScale htail

/-- A whole number does not begin with a sign. -/
theorem Whole.exists_begin {whole : Bytes} (h : Whole whole) :
    ∃ b more, whole = b :: more ∧ (digit? b).isSome = true ∧ b ≠ 0x2D := by
  cases h with
  | zero => exact ⟨0x30, [], rfl, by decide, by decide⟩
  | @digits b ds first =>
    refine ⟨b, ds, rfl, first, ?_⟩
    rintro rfl
    revert first
    decide

/-- Whole digits are passed over, if what follows them is. -/
theorem Whole.skipMagnitude {whole rest tail : Bytes} (h : Whole whole) (hrest : NoDigit rest)
    (htail : Json.skipTail rest = .ok tail) : Json.skipMagnitude (whole ++ rest) = .ok tail := by
  cases h with
  | zero =>
    -- A leading zero has no digit behind it.
    have hcount : countDigits 0 rest = (0, rest) :=
      countDigits_append (fun _ h => absurd h List.not_mem_nil) hrest 0
    show Json.skipMagnitude (0x30 :: rest) = .ok tail
    rw [Json.skipMagnitude, show digit? 0x30 = some 0 by decide, hcount]
    exact htail
  | @digits b ds first ne_zero more =>
    -- Any other digit takes the ones behind it along.
    obtain ⟨d, hd⟩ := Option.isSome_iff_exists.mp first
    have hpos : d ≠ 0 := by
      rintro rfl
      exact ne_zero (List.cons.inj (eq_of_digit? hd).2).1
    obtain ⟨n, rfl⟩ := Nat.exists_eq_succ_of_ne_zero hpos
    rw [List.cons_append, Json.skipMagnitude, hd, countDigits_append more hrest 0]
    exact htail

/-- A number is passed over, whatever its size is. -/
theorem Numeral.skipNumber {text : Bytes} (h : Numeral text) : Passes Json.skipNumber text := by
  intro tail htail
  cases h with
  | @mk sign whole fraction exponent sign_eq hwhole hfraction hexponent =>
    have hmagnitude := hwhole.skipMagnitude (hfraction.noDigit hexponent htail)
      (hfraction.skipTail hexponent htail)
    obtain ⟨b, more, rfl, -, hminus⟩ := hwhole.exists_begin
    have hunsigned := skipNumber_of_unsigned hminus (more ++ (fraction ++ (exponent ++ tail)))
    simp only [List.append_assoc]
    rcases sign_eq with rfl | rfl
    · exact hunsigned.trans hmagnitude
    · exact (skipNumber_minus hminus _).trans (hunsigned.trans hmagnitude)

/-- A number begins with a sign or with a digit. -/
theorem Numeral.exists_begin {text : Bytes} (h : Numeral text) :
    ∃ b more, text = b :: more ∧ (b = 0x2D ∨ (digit? b).isSome = true) := by
  cases h with
  | mk sign_eq hwhole hfraction hexponent =>
    obtain ⟨b, more, rfl, hdigit, -⟩ := hwhole.exists_begin
    rcases sign_eq with rfl | rfl
    · exact ⟨b, _, rfl, .inr hdigit⟩
    · exact ⟨0x2D, _, rfl, .inl rfl⟩

/-- A number is ASCII. -/
theorem Numeral.valid {text : Bytes} (h : Numeral text) : Valid text := by
  have hskip := h.skipNumber [] endsNumber_nil
  rw [List.append_nil] at hskip
  obtain ⟨used, hused, rfl⟩ := skipNumber_ascii _ _ hskip
  rw [List.append_nil]
  exact valid_of_ascii hused

/-! ### Strings -/

/-- What stands behind the opening quote of a string, up to its closing quote: characters, escapes
    of one letter, and escapes of four digits. -/
inductive Quoted : Bytes → Prop where
  | close : Quoted [0x22]
  | char {c : Char} {more : Bytes} (printable : 0x20 ≤ c.toNat) (no_quote : c.toNat ≠ 0x22)
      (no_slash : c.toNat ≠ 0x5C) (hmore : Quoted more) : Quoted (Utf8.encodeChar c ++ more)
  | escape {letter : UInt8} {more : Bytes}
      (letter_mem : letter ∈ [0x22, 0x5C, 0x2F, 0x62, 0x66, 0x6E, 0x72, 0x74])
      (hmore : Quoted more) : Quoted (0x5C :: letter :: more)
  | unicode {a b c d : UInt8} {more : Bytes}
      (digits : ∀ digit ∈ [a, b, c, d], (Percent.hexValue? digit).isSome = true)
      (hmore : Quoted more) : Quoted (0x5C :: 0x75 :: a :: b :: c :: d :: more)

/-- The text of a string. -/
def Quotation (text : Bytes) : Prop :=
  ∃ spelling, text = 0x22 :: spelling ∧ Quoted spelling

/-- Characters that need no escape stand for themselves. -/
theorem Quoted.of_chars {cs : List Char}
    (h : ∀ c ∈ cs, 0x20 ≤ c.toNat ∧ c.toNat ≠ 0x22 ∧ c.toNat ≠ 0x5C) :
    Quoted (Utf8.encode cs ++ [0x22]) := by
  induction cs with
  | nil => exact .close
  | cons c cs ih =>
    obtain ⟨⟨hprintable, hquote, hslash⟩, hcs⟩ := List.forall_mem_cons.mp h
    rw [Utf8.encode_cons, List.append_assoc]
    exact .char hprintable hquote hslash (ih hcs)

/-- A letter behind a backslash stands for a character and is no `u`. -/
theorem escape_letter {letter : UInt8}
    (h : letter ∈ ([0x22, 0x5C, 0x2F, 0x62, 0x66, 0x6E, 0x72, 0x74] : List UInt8)) :
    letter ≠ 0x75 ∧ (escaped? letter).isSome = true ∧ letter < 0x80 := by
  simp only [List.mem_cons, List.not_mem_nil, or_false] at h
  rcases h with rfl | rfl | rfl | rfl | rfl | rfl | rfl | rfl <;> decide

/-- Four digits are one unit. -/
theorem skipString_unicode {a b c d : UInt8}
    (digits : ∀ digit ∈ [a, b, c, d], (Percent.hexValue? digit).isSome = true) (tail : Bytes) :
    skipString .plain (0x5C :: 0x75 :: a :: b :: c :: d :: tail) = skipString .plain tail := by
  simp only [List.forall_mem_cons, Option.isSome_iff_exists] at digits
  obtain ⟨⟨va, ha⟩, ⟨vb, hb⟩, ⟨vc, hc⟩, ⟨vd, hd⟩, -⟩ := digits
  simp [skipString, hexStep, ha, hb, hc, hd]

/-- A string is passed over up to its closing quote. -/
theorem Quoted.skipString {spelling : Bytes} (h : Quoted spelling) (tail : Bytes) :
    Json.skipString .plain (spelling ++ tail) = .ok tail := by
  induction h with
  | close => rfl
  | char printable no_quote no_slash _ ih =>
    rw [List.append_assoc, skipString_plain (isPlain_of_mem_encodeChar printable no_quote no_slash)]
    exact ih
  | @escape letter more letter_mem _ ih =>
    obtain ⟨hu, hsome, -⟩ := escape_letter letter_mem
    show Json.skipString .escape (letter :: (more ++ tail)) = .ok tail
    rw [Json.skipString, if_neg hu, if_pos hsome]
    exact ih
  | unicode digits _ ih => exact (skipString_unicode digits _).trans ih

/-- A hexadecimal digit is ASCII. -/
theorem lt_of_hexValue? {b : UInt8} (h : (Percent.hexValue? b).isSome = true) : b < 0x80 := by
  obtain ⟨v, hv⟩ := Option.isSome_iff_exists.mp h
  have hstep : hexStep (some 0) b = some (0 * 16 + v) := by
    simp only [hexStep, hv]
  exact lt_of_hexStep hstep

/-- What stands between quotes is UTF-8, by induction on its characters. -/
theorem Quoted.valid {spelling : Bytes} (h : Quoted spelling) : Valid spelling := by
  induction h with
  | close => exact valid_of_ascii (List.forall_mem_singleton.mpr (by decide))
  | char _ _ _ _ ih =>
    rw [← List.nil_append (_ ++ _)]
    exact valid_append_encodeChar_iff.mpr ⟨valid_nil, ih⟩
  | escape letter_mem _ ih =>
    exact (valid_cons_iff (by decide)).mpr ((valid_cons_iff (escape_letter letter_mem).2.2).mpr ih)
  | @unicode a b c d more digits _ ih =>
    have hdigits : ∀ digit ∈ [a, b, c, d], digit < 0x80 := fun x hx => lt_of_hexValue? (digits x hx)
    exact (valid_cons_iff (by decide)).mpr ((valid_cons_iff (by decide)).mpr
      ((valid_append_iff_of_ascii hdigits).mpr ih))

/-! ### Values -/

/-- A text with white space around it. -/
structure Framed where
  before : Bytes
  core : Bytes
  behind : Bytes
  before_blank : Blank before
  behind_blank : Blank behind

/-- The text with its white space. -/
def Framed.text (f : Framed) : Bytes :=
  f.before ++ (f.core ++ f.behind)

/-- The text of a key with its value: a colon stands between them. -/
def Framed.memberText (m : Framed × Framed) : Bytes :=
  m.1.text ++ 0x3A :: m.2.text

/-- **The texts of values**, without the white space around them. -/
inductive WellFormed : Bytes → Prop where
  | word {word : String} (h : word ∈ ["null", "true", "false"]) : WellFormed (Utf8.bytes word)
  | number {text : Bytes} (h : Numeral text) : WellFormed text
  | string {text : Bytes} (h : Quotation text) : WellFormed text
  | list {inner : Bytes} {items : List Framed} (blank : Blank inner)
      (values : ∀ i ∈ items, WellFormed i.core) :
      WellFormed (0x5B :: (inner ++ (commaSeparated (items.map Framed.text) ++ [0x5D])))
  | object {inner : Bytes} {members : List (Framed × Framed)} (blank : Blank inner)
      (keys : ∀ m ∈ members, Quotation m.1.core) (values : ∀ m ∈ members, WellFormed m.2.core) :
      WellFormed (0x7B :: (inner ++ (commaSeparated (members.map Framed.memberText) ++ [0x7D])))

/-- What is known of the text of a value: the scanner passes over it, it does not begin with white
    space, and it is UTF-8. -/
structure Sound (text : Bytes) : Prop where
  isValue : IsValue text
  flush : Flush text
  valid : Valid text

namespace Sound

/-- An item from a sound text. -/
theorem exists_item {f : Framed} (h : Sound f.core) :
    ∃ i : ItemText, i.text = f.text ∧ Valid i.value :=
  ⟨⟨f.before, f.core, f.behind, f.before_blank, h.flush, h.isValue.passes, f.behind_blank⟩, rfl,
    h.valid⟩

/-- A member from a string and a sound text. -/
theorem exists_member {m : Framed × Framed} (hkey : Quotation m.1.core) (h : Sound m.2.core) :
    ∃ k : KeyedText, k.text = Framed.memberText m ∧ Valid k.spelling ∧ Valid k.value := by
  obtain ⟨spelling, hspelling, hquoted⟩ := hkey
  have hpasses := hquoted.skipString []
  rw [List.append_nil] at hpasses
  refine ⟨⟨m.1.before, spelling, m.1.behind, m.2.before, m.2.core, m.2.behind, m.1.before_blank,
    hpasses, m.1.behind_blank, m.2.before_blank, h.flush, h.isValue.passes, m.2.behind_blank⟩, ?_,
    hquoted.valid, h.valid⟩
  simp [KeyedText.text, Framed.memberText, Framed.text, hspelling]

/-- By induction on the items. -/
theorem exists_items {items : List Framed} (h : ∀ i ∈ items, Sound i.core) :
    ∃ its : List ItemText, its.map ItemText.text = items.map Framed.text ∧
      ∀ i ∈ its, Valid i.value := by
  induction items with
  | nil => exact ⟨[], rfl, List.forall_mem_nil _⟩
  | cons f items ih =>
    obtain ⟨hf, hitems⟩ := List.forall_mem_cons.mp h
    obtain ⟨i, htext, hvalid⟩ := hf.exists_item
    obtain ⟨its, htexts, hvalids⟩ := ih hitems
    refine ⟨i :: its, ?_, List.forall_mem_cons.mpr ⟨hvalid, hvalids⟩⟩
    rw [List.map_cons, List.map_cons, htext, htexts]

/-- By induction on the members. -/
theorem exists_members {members : List (Framed × Framed)}
    (hkeys : ∀ m ∈ members, Quotation m.1.core) (h : ∀ m ∈ members, Sound m.2.core) :
    ∃ ks : List KeyedText, ks.map KeyedText.text = members.map Framed.memberText ∧
      ∀ k ∈ ks, Valid k.spelling ∧ Valid k.value := by
  induction members with
  | nil => exact ⟨[], rfl, List.forall_mem_nil _⟩
  | cons m members ih =>
    obtain ⟨hkey, hkeys⟩ := List.forall_mem_cons.mp hkeys
    obtain ⟨hm, hmembers⟩ := List.forall_mem_cons.mp h
    obtain ⟨k, htext, hvalid⟩ := exists_member hkey hm
    obtain ⟨ks, htexts, hvalids⟩ := ih hkeys hmembers
    refine ⟨k :: ks, ?_, List.forall_mem_cons.mpr ⟨hvalid, hvalids⟩⟩
    rw [List.map_cons, List.map_cons, htext, htexts]

/-- An array of sound items is sound. -/
theorem brackets {inner : Bytes} (hinner : Blank inner) {items : List ItemText}
    (h : ∀ i ∈ items, Valid i.value) : Sound (Json.brackets inner items) :=
  ⟨isValue_brackets hinner items, flush_brackets inner items,
    (valid_brackets_iff hinner items).mpr h⟩

/-- An object of sound keys and values is sound. -/
theorem keyedBraces {inner : Bytes} (hinner : Blank inner) {members : List KeyedText}
    (h : ∀ k ∈ members, Valid k.spelling ∧ Valid k.value) :
    Sound (Json.keyedBraces inner members) :=
  ⟨isValue_keyedBraces hinner members, flush_cons_iff.mpr (by decide),
    (valid_keyedBraces_iff hinner members).mpr h⟩

/-- A text that is no array and no object. -/
theorem of_skipScalar {b : UInt8} {more : Bytes} (hspace : isSpace b = false)
    (hlist : b ≠ 0x5B) (hobject : b ≠ 0x7B) (hskip : Passes (skipScalar b) more)
    (hvalid : Valid (b :: more)) : Sound (b :: more) :=
  ⟨isValue_of_skipScalar hspace hlist hobject hskip, flush_cons_iff.mpr hspace, hvalid⟩

end Sound

/-- A number is sound. -/
theorem Numeral.sound {text : Bytes} (h : Numeral text) : Sound text := by
  have hvalid := h.valid
  have hskip := h.skipNumber
  obtain ⟨b, more, rfl, hb⟩ := h.exists_begin
  obtain ⟨hspace, hlist, hobject, -⟩ := skipScalar_number hb []
  refine .of_skipScalar hspace hlist hobject ?_ hvalid
  intro tail htail
  rw [(skipScalar_number hb _).2.2.2]
  exact hskip tail htail

/-- A quotation is sound. -/
theorem Quotation.sound {text : Bytes} (h : Quotation text) : Sound text := by
  obtain ⟨spelling, rfl, hquoted⟩ := h
  refine .of_skipScalar (by decide) (by decide) (by decide) ?_
    ((valid_cons_iff (by decide)).mpr hquoted.valid)
  intro tail _
  exact hquoted.skipString tail

/-- The three words are sound. -/
theorem sound_word {word : String} (h : word ∈ ["null", "true", "false"]) :
    Sound (Utf8.bytes word) := by
  have hvalid : Valid (Utf8.bytes word) := valid_encode _
  simp only [List.mem_cons, List.not_mem_nil, or_false] at h
  rcases h with rfl | rfl | rfl
  · rw [show Utf8.bytes "null" = 0x6E :: Utf8.bytes "ull" by decide] at hvalid ⊢
    exact .of_skipScalar (by decide) (by decide) (by decide) (fun tail _ => literal_append _ tail)
      hvalid
  · rw [show Utf8.bytes "true" = 0x74 :: Utf8.bytes "rue" by decide] at hvalid ⊢
    exact .of_skipScalar (by decide) (by decide) (by decide) (fun tail _ => literal_append _ tail)
      hvalid
  · rw [show Utf8.bytes "false" = 0x66 :: Utf8.bytes "alse" by decide] at hvalid ⊢
    exact .of_skipScalar (by decide) (by decide) (by decide) (fun tail _ => literal_append _ tail)
      hvalid

/-- **Well-formed texts are sound.** By induction on the text. -/
theorem WellFormed.sound {text : Bytes} (h : WellFormed text) : Sound text := by
  induction h with
  | word h => exact sound_word h
  | number h => exact h.sound
  | string h => exact h.sound
  | list blank _ ih =>
    obtain ⟨its, htexts, hvalid⟩ := Sound.exists_items ih
    rw [← htexts]
    exact .brackets blank hvalid
  | object blank keys _ ih =>
    obtain ⟨ks, htexts, hvalid⟩ := Sound.exists_members keys ih
    rw [← htexts]
    exact .keyedBraces blank hvalid

/-- A member with a well-formed value, whatever its key is and however the key is spelt. -/
def MemberText.ofWellFormed {key : String} {lead spelling gap indent value trail : Bytes}
    (hlead : Blank lead) (hkey : readString spelling = .ok (key, [])) (hgap : Blank gap)
    (hindent : Blank indent) (hvalue : WellFormed value) (htrail : Blank trail) : MemberText :=
  ⟨key, lead, spelling, gap, indent, value, trail, hlead, hkey, hgap, hindent, hvalue.sound.flush,
    hvalue.sound.isValue.passes, htrail⟩

end DialogStub.Json
