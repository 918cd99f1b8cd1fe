import DialogStub.Json.Reader
import DialogStub.Proofs.Json.Number
import DialogStub.Proofs.Json.Record

/-!
# White space, words and strings

* `Json.Blank`, `Json.Flush` — white space between tokens, and a text that does not begin with any;
* `Json.literal_extent` — a word is read where it stands;
* `Json.Scan.Step`, `Json.scanString_induction` — a string is read byte by byte, and all that holds
  of it is carried from its closing quote back to its first byte;
* `Json.readString_extent`, `Json.skipString_extent` — so it is read, or passed over, up to its
  closing quote, whatever follows it.
-/

namespace DialogStub.Json

/-! ### White space -/

/-- White space between tokens. -/
def Blank (bs : Bytes) : Prop :=
  ∀ b ∈ bs, isSpace b = true

theorem blank_nil : Blank [] :=
  List.forall_mem_nil _

theorem Blank.append {bs bs' : Bytes} (h : Blank bs) (h' : Blank bs') : Blank (bs ++ bs') :=
  List.forall_mem_append.mpr ⟨h, h'⟩

/-- White space in front is passed over. -/
theorem skipBlank_append {blank : Bytes} (h : Blank blank) (bs : Bytes) :
    skipBlank (blank ++ bs) = skipBlank bs := by
  induction blank with
  | nil => rfl
  | cons b blank ih =>
    obtain ⟨hb, hrest⟩ := List.forall_mem_cons.mp h
    rw [List.cons_append, skipBlank, if_pos hb, ih hrest]

theorem skipBlank_cons {b : UInt8} (h : isSpace b = false) (rest : Bytes) :
    skipBlank (b :: rest) = b :: rest := by
  rw [skipBlank, if_neg (by simp [h])]

theorem skipBlank_append_cons {blank : Bytes} (h : Blank blank) {b : UInt8}
    (hb : isSpace b = false) (rest : Bytes) : skipBlank (blank ++ b :: rest) = b :: rest := by
  rw [skipBlank_append h, skipBlank_cons hb]

/-- A text that does not begin with white space. -/
def Flush (bs : Bytes) : Prop :=
  ∀ b ∈ bs.head?, isSpace b = false

theorem flush_cons_iff {b : UInt8} {bs : Bytes} : Flush (b :: bs) ↔ isSpace b = false := by
  simp [Flush]

/-- A flush text is found behind white space. -/
theorem Flush.skipBlank_append {blank bs : Bytes} (h : Flush bs) (hblank : Blank blank) :
    skipBlank (blank ++ bs) = bs := by
  rw [Json.skipBlank_append hblank]
  cases bs with
  | nil => rfl
  | cons b bs => exact skipBlank_cons (flush_cons_iff.mp h) bs

/-- What follows does not matter to whether a text is flush. -/
theorem flush_append_iff {used rest : Bytes} (h : used ≠ []) :
    Flush (used ++ rest) ↔ Flush used := by
  obtain ⟨b, more, rfl⟩ := List.exists_cons_of_ne_nil h
  rw [List.cons_append, flush_cons_iff, flush_cons_iff]

/-- What is left is what stands behind white space, and does not begin with any. -/
theorem exists_blank (bs : Bytes) :
    ∃ blank, Blank blank ∧ bs = blank ++ skipBlank bs ∧ Flush (skipBlank bs) := by
  induction bs with
  | nil => exact ⟨[], blank_nil, rfl, fun _ h => nomatch h⟩
  | cons b bs ih =>
    by_cases hb : isSpace b = true
    · obtain ⟨blank, hblank, heq, hfirst⟩ := ih
      rw [skipBlank, if_pos hb]
      exact ⟨b :: blank, List.forall_mem_cons.mpr ⟨hb, hblank⟩, congrArg (b :: ·) heq, hfirst⟩
    · rw [skipBlank, if_neg hb]
      refine ⟨[], blank_nil, rfl, ?_⟩
      intro x hx
      cases hx
      exact Bool.eq_false_iff.mpr hb

/-- What was found follows white space. -/
theorem eq_append_of_skipBlank {bs rest : Bytes} {b : UInt8} (h : skipBlank bs = b :: rest) :
    ∃ blank, Blank blank ∧ bs = blank ++ b :: rest ∧ isSpace b = false := by
  obtain ⟨blank, hblank, heq, hfirst⟩ := exists_blank bs
  rw [h] at heq hfirst
  exact ⟨blank, hblank, heq, hfirst b rfl⟩

/-- A number may end before any byte that does not belong to one. -/
theorem endsNumber_cons {b : UInt8} {rest : Bytes}
    (h : digit? b = none ∧ b ≠ 0x2E ∧ b ≠ 0x65 ∧ b ≠ 0x45) : EndsNumber (b :: rest) := by
  intro x hx
  cases hx
  exact h

theorem endsNumber_nil : EndsNumber [] := by
  simp [EndsNumber]

/-- White space ends a number. -/
theorem endsNumber_space {b : UInt8} (h : isSpace b = true) (rest : Bytes) :
    EndsNumber (b :: rest) := by
  have hcases : b = 0x20 ∨ b = 0x09 ∨ b = 0x0A ∨ b = 0x0D := by
    simpa [isSpace, or_assoc] using h
  rcases hcases with rfl | rfl | rfl | rfl
  all_goals exact endsNumber_cons (by decide)

/-- A number may end before white space. -/
theorem Blank.endsNumber {blank rest : Bytes} (h : Blank blank) (hrest : EndsNumber rest) :
    EndsNumber (blank ++ rest) := by
  cases blank with
  | nil => exact hrest
  | cons b blank => exact endsNumber_space (h b List.mem_cons_self) _

/-! ### Words -/

/-- A word that was read stood there. -/
theorem literal_extent {word bs rest : Bytes} (h : literal word bs = .ok rest) :
    bs = word ++ rest := by
  induction word generalizing bs with
  | nil =>
    cases h
    rfl
  | cons w word ih =>
    cases bs with
    | nil => cases h
    | cons b bs =>
      rw [literal] at h
      split at h
      · rename_i heq
        rw [heq, ih h]
        rfl
      · cases h

/-- A word that stands there is read. -/
theorem literal_append (word tail : Bytes) : literal word (word ++ tail) = .ok tail := by
  induction word with
  | nil => rfl
  | cons w word ih => rw [List.cons_append, literal, if_pos rfl, ih]

/-! ### Strings -/

/-- Where the scanner of strings stands when the reader stands at a place: it does not look for the
    second half of a pair. -/
def Scan.relaxed : Scan → Scan
  | .plain => .plain
  | .escape => .escape
  | .hex left value _ => .hex left value none
  | .backslash _ => .plain
  | .letterU _ => .escape

/-- A digit that is none is a fault at the end of the escape. -/
theorem scanString_hex_none {left : Nat} {lead : Option Nat} {done bs : Bytes}
    {result : Bytes × Bytes} : scanString (.hex left none lead) done bs ≠ .ok result := by
  induction bs generalizing left with
  | nil =>
    intro h
    cases h
  | cons b bs ih =>
    intro h
    rw [scanString] at h
    split at h
    · exact ih h
    · cases h

/-- One byte inside a string leads from one state to the next, and from the bytes that were gathered
    to those with what is complete behind it. -/
inductive Scan.Step (b : UInt8) (done : Bytes) : Scan → Scan → Bytes → Prop where
  /-- The byte stands for itself. -/
  | plain (h : IsPlain b) : Scan.Step b done .plain .plain (b :: done)
  /-- An escape begins. -/
  | slash (h : b = 0x5C) : Scan.Step b done .plain .escape done
  /-- The escape is one of four digits. -/
  | unicode (h : b = 0x75) : Scan.Step b done .escape (.hex 4 (some 0) none) done
  /-- The letter of an escape. -/
  | letter {c : UInt8} (h : escaped? b = some c) : Scan.Step b done .escape .plain (c :: done)
  /-- A digit, not the last one. -/
  | digit {left n : Nat} {value lead : Option Nat} (more : 1 < left)
      (h : hexStep value b = some n) :
      Scan.Step b done (.hex left value lead) (.hex (left - 1) (some n) lead) done
  /-- The last digit, with which the escape spells a character. -/
  | char {left n : Nat} {value lead : Option Nat} {c : Char} (last : ¬1 < left)
      (h : hexStep value b = some n) (hunit : unit16 n lead = .char c) :
      Scan.Step b done (.hex left value lead) .plain ((Utf8.encodeChar c).reverse ++ done)
  /-- The last digit, with which the escape spells the first half of a pair. -/
  | half {left n high : Nat} {value lead : Option Nat} (last : ¬1 < left)
      (h : hexStep value b = some n) (hunit : unit16 n lead = .lead high) :
      Scan.Step b done (.hex left value lead) (.backslash high) done
  /-- The escape of the second half begins. -/
  | pair {lead : Nat} (h : b = 0x5C) : Scan.Step b done (.backslash lead) (.letterU lead) done
  /-- The second half is spelt with digits, too. -/
  | low {lead : Nat} (h : b = 0x75) :
      Scan.Step b done (.letterU lead) (.hex 4 (some 0) (some lead)) done

namespace Scan.Step

variable {b : UInt8} {done done' : Bytes} {state next : Scan}

/-- The reader takes this step. -/
theorem scanString_cons (h : Step b done state next done') (bs : Bytes) :
    scanString state done (b :: bs) = scanString next done' bs := by
  cases h with
  | plain h =>
    obtain ⟨hquote, hslash, hcontrol⟩ := h
    rw [scanString, if_neg hquote, if_neg hslash, if_neg hcontrol]
  | slash h | unicode h | pair h | low h =>
    subst h
    rfl
  | letter h =>
    have hu : b ≠ 0x75 := by
      rintro rfl
      cases h
    rw [scanString, if_neg hu, h]
  | digit more h => rw [scanString, if_pos more, h]
  | char last h hunit | half last h hunit =>
    rewrite [scanString, if_neg last, h]
    dsimp only
    rw [hunit]

/-- The scanner takes it too, but does not wait for the second half of a pair. -/
theorem skipString_cons (h : Step b done state next done') (bs : Bytes) :
    skipString state.relaxed (b :: bs) = skipString next.relaxed bs := by
  cases h with
  | plain h =>
    obtain ⟨hquote, hslash, hcontrol⟩ := h
    show skipString .plain (b :: bs) = skipString .plain bs
    rw [skipString, if_neg hquote, if_neg hslash, if_neg hcontrol]
  | slash h | unicode h | pair h | low h =>
    subst h
    rfl
  | letter h =>
    have hu : b ≠ 0x75 := by
      rintro rfl
      cases h
    show skipString .escape (b :: bs) = skipString .plain bs
    rw [skipString, if_neg hu, h]
    rfl
  | @digit left _ value _ more h =>
    show skipString (.hex left value none) (b :: bs) = _
    rw [skipString, if_pos more, h]
    rfl
  -- The last digit of a code unit, whatever becomes of the unit.
  | @char left _ value _ _ last h | @half left _ _ value _ last h =>
    show skipString (.hex left value none) (b :: bs) = skipString .plain bs
    rewrite [skipString, if_neg last, h]
    rfl

end Scan.Step

/-- Inside a string that is read, a byte is the closing quote or makes a step. -/
theorem scanString_step {state : Scan} {done bs : Bytes} {b : UInt8} {result : Bytes × Bytes}
    (h : scanString state done (b :: bs) = .ok result) :
    state = .plain ∧ b = 0x22 ∨ ∃ next done', Scan.Step b done state next done' := by
  cases state with
  | plain =>
    by_cases hquote : b = 0x22
    · exact .inl ⟨rfl, hquote⟩
    by_cases hslash : b = 0x5C
    · exact .inr ⟨_, _, .slash hslash⟩
    rw [scanString, if_neg hquote, if_neg hslash] at h
    split at h
    · cases h
    · rename_i hcontrol
      exact .inr ⟨_, _, .plain ⟨hquote, hslash, hcontrol⟩⟩
  | escape =>
    by_cases hu : b = 0x75
    · exact .inr ⟨_, _, .unicode hu⟩
    rw [scanString, if_neg hu] at h
    split at h
    · rename_i c hc
      exact .inr ⟨_, _, .letter hc⟩
    · cases h
  | hex left value lead =>
    rw [scanString] at h
    cases hvalue : hexStep value b with
    | none =>
      -- The fault is told at the last digit, and lasts until then.
      rw [hvalue] at h
      split at h
      · exact absurd h scanString_hex_none
      · cases h
    | some n =>
      by_cases hleft : 1 < left
      · exact .inr ⟨_, _, .digit hleft hvalue⟩
      rw [if_neg hleft, hvalue] at h
      dsimp only at h
      split at h
      · rename_i c hunit
        exact .inr ⟨_, _, .char hleft hvalue hunit⟩
      · rename_i high hunit
        exact .inr ⟨_, _, .half hleft hvalue hunit⟩
      · cases h
  | backslash lead =>
    rw [scanString] at h
    split at h
    · rename_i hslash
      exact .inr ⟨_, _, .pair hslash⟩
    · cases h
  | letterU lead =>
    rw [scanString] at h
    split at h
    · rename_i hu
      exact .inr ⟨_, _, .low hu⟩
    · cases h

/-- **Induction along a string.** What holds at the closing quote, and is carried back by each step,
    holds at every place from which a string is read. -/
theorem scanString_induction {raw rest : Bytes} {P : Scan → Bytes → Bytes → Prop}
    (quote : P .plain raw.reverse (0x22 :: rest))
    (step : ∀ {b state next done done' bs}, Scan.Step b done state next done' →
      P next done' bs → P state done (b :: bs))
    {state : Scan} {done bs : Bytes} (h : scanString state done bs = .ok (raw, rest)) :
    P state done bs := by
  -- The reader stops at the quote, or takes one more step.
  induction bs generalizing state done with
  | nil => cases state <;> cases h
  | cons b bs ih =>
    rcases scanString_step h with ⟨rfl, rfl⟩ | ⟨next, done', hstep⟩
    · cases h
      rw [List.reverse_reverse] at quote
      exact quote
    · rw [hstep.scanString_cons] at h
      exact step hstep (ih h)

/-- **What is read as a string** ends with its closing quote, and is passed over as a string. -/
theorem scanString_extent {state : Scan} {done bs raw rest : Bytes}
    (h : scanString state done bs = .ok (raw, rest)) :
    ∃ used, bs = used ++ rest ∧
      (∀ tail, scanString state done (used ++ tail) = .ok (raw, tail)) ∧
      ∀ tail, skipString state.relaxed (used ++ tail) = .ok tail := by
  refine scanString_induction (P := fun state done bs => ∃ used, bs = used ++ rest ∧
    (∀ tail, scanString state done (used ++ tail) = .ok (raw, tail)) ∧
    ∀ tail, skipString state.relaxed (used ++ tail) = .ok tail) ?quote ?step h
  case quote =>
    refine ⟨[0x22], rfl, fun tail => ?_, fun _ => rfl⟩
    show Except.ok (raw.reverse.reverse, tail) = _
    rw [List.reverse_reverse]
  case step =>
    rintro b state next done done' bs hstep ⟨used, rfl, hscan, hpass⟩
    refine ⟨b :: used, rfl, fun tail => ?_, fun tail => ?_⟩
    · rw [List.cons_append, hstep.scanString_cons, hscan]
    · rw [List.cons_append, hstep.skipString_cons, hpass]

/-- What was read as a text ends with its quote, and is passed over as a text. -/
theorem readString_extent {bs rest : Bytes} {s : String} (h : readString bs = .ok (s, rest)) :
    ∃ used, bs = used ++ rest ∧ (∀ tail, readString (used ++ tail) = .ok (s, tail)) ∧
      ∀ tail, skipString .plain (used ++ tail) = .ok tail := by
  unfold readString at h
  cases hscan : scanString .plain [] bs with
  | error failure =>
    rw [hscan] at h
    cases h
  | ok result =>
    obtain ⟨raw, rest'⟩ := result
    obtain ⟨used, rfl, hread, hskip⟩ := scanString_extent hscan
    rw [hscan] at h
    dsimp only at h
    -- What was scanned has to be well-formed, and it is the same whatever follows.
    cases hdecode : Utf8.decode raw with
    | error good =>
      rw [hdecode] at h
      cases h
    | ok cs =>
      rw [hdecode] at h
      cases h
      refine ⟨used, rfl, fun tail => ?_, hskip⟩
      rw [readString, hread]
      dsimp only
      rw [hdecode]

/-- One byte ends a string, or it leads from state to state. -/
theorem skipString_step {state : Scan} {bs rest : Bytes} {b : UInt8}
    (h : skipString state (b :: bs) = .ok rest) :
    state = .plain ∧ b = 0x22 ∨ ∃ next, ∀ bs, skipString state (b :: bs) = skipString next bs := by
  cases state with
  | plain =>
    rw [skipString] at h
    by_cases hquote : b = 0x22
    · exact .inl ⟨rfl, hquote⟩
    rw [if_neg hquote] at h
    by_cases hslash : b = 0x5C
    · subst hslash
      exact .inr ⟨.escape, fun _ => rfl⟩
    rw [if_neg hslash] at h
    by_cases hcontrol : b < 0x20
    · rw [if_pos hcontrol] at h
      cases h
    · refine .inr ⟨.plain, fun bs => ?_⟩
      rw [skipString, if_neg hquote, if_neg hslash, if_neg hcontrol]
  | escape =>
    rw [skipString] at h
    by_cases hu : b = 0x75
    · subst hu
      exact .inr ⟨_, fun _ => rfl⟩
    rw [if_neg hu] at h
    by_cases hc : (escaped? b).isSome = true
    · exact .inr ⟨.plain, fun bs => by rw [skipString, if_neg hu, if_pos hc]⟩
    · rw [if_neg hc] at h
      cases h
  | hex left value lead =>
    rw [skipString] at h
    -- A scanner only counts the digits of a code unit, and looks at the last of them.
    by_cases hleft : 1 < left
    · exact .inr ⟨_, fun bs => by rw [skipString, if_pos hleft]⟩
    rw [if_neg hleft] at h
    by_cases hvalue : (hexStep value b).isSome = true
    · exact .inr ⟨.plain, fun bs => by rw [skipString, if_neg hleft, if_pos hvalue]⟩
    · rw [if_neg hvalue] at h
      cases h
  | backslash lead => exact .inr ⟨_, fun _ => rfl⟩
  | letterU lead => exact .inr ⟨_, fun _ => rfl⟩

/-- What is passed over as a string ends with its closing quote. -/
theorem skipString_extent {state : Scan} {bs rest : Bytes} (h : skipString state bs = .ok rest) :
    ∃ used, bs = used ++ rest ∧ ∀ tail, skipString state (used ++ tail) = .ok tail := by
  induction bs generalizing state with
  | nil => cases state <;> cases h
  | cons b bs ih =>
    rcases skipString_step h with ⟨rfl, rfl⟩ | ⟨next, hskip⟩
    · cases h
      exact ⟨[0x22], rfl, fun _ => rfl⟩
    · rw [hskip] at h
      obtain ⟨used, rfl, hpass⟩ := ih h
      refine ⟨b :: used, rfl, fun tail => ?_⟩
      rw [List.cons_append, hskip, hpass]

end DialogStub.Json
