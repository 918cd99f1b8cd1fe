import DialogStub.Json.Printer
import DialogStub.Proofs.Json.Strings

/-!
# Parts with commas between them

* `Json.behindCommas` — the text behind a part: further parts, each behind a comma, and the byte
  that closes them;
* `Json.Apart` — parts of which a text has one way to be made, whatever stands around them;
* `Apart.parts_eq` — a list of such parts is taken apart in one way.

The items of an array and the members of an object are written in this way, with a bracket each.
-/

namespace DialogStub.Json

/-- The first part stands alone, and each of the others has a comma before it. -/
theorem commaSeparated_cons (part : Bytes) (parts : List Bytes) :
    commaSeparated (part :: parts) = part ++ parts.flatMap (fun part => 0x2C :: part) := by
  induction parts generalizing part with
  | nil => simp
  | cons part' parts ih =>
    rw [commaSeparated, ih part', List.flatMap_cons]
    · simp
    · simp

/-- The text behind a part: the parts that follow, each behind a comma, and the end. -/
def behindCommas (close : UInt8) (parts : List Bytes) (rest : Bytes) : Bytes :=
  parts.flatMap (fun part => 0x2C :: part) ++ close :: rest

section Close

variable {close : UInt8}

/-- A part behind commas has one before it. -/
theorem behindCommas_cons (part : Bytes) (parts : List Bytes) (rest : Bytes) :
    behindCommas close (part :: parts) rest = 0x2C :: (part ++ behindCommas close parts rest) := by
  simp [behindCommas]

/-- So the first part is followed by what stands behind commas. -/
theorem commaSeparated_append_close (part : Bytes) (parts : List Bytes) (rest : Bytes) :
    commaSeparated (part :: parts) ++ close :: rest = part ++ behindCommas close parts rest := by
  rw [commaSeparated_cons, List.append_assoc, behindCommas]

/-- Such a text is longer than its parts are many, and than any of them. -/
theorem length_lt_behindCommas (parts : List Bytes) (rest : Bytes) :
    parts.length < (behindCommas close parts rest).length ∧
      ∀ part ∈ parts, part.length < (behindCommas close parts rest).length := by
  induction parts with
  | nil => exact ⟨Nat.succ_pos _, List.forall_mem_nil _⟩
  | cons part parts ih =>
    obtain ⟨hcount, hparts⟩ := ih
    simp only [behindCommas_cons, List.length_append, List.length_cons]
    refine ⟨by omega, List.forall_mem_cons.mpr ⟨by omega, fun part' h => ?_⟩⟩
    have := hparts part' h
    omega

/-- A text with commas between its parts is as long as its parts are many, and longer than any of
    them. -/
theorem length_commaSeparated_close (parts : List Bytes) (rest : Bytes) :
    parts.length ≤ (commaSeparated parts ++ close :: rest).length ∧
      ∀ part ∈ parts, part.length < (commaSeparated parts ++ close :: rest).length := by
  cases parts with
  | nil => exact ⟨Nat.zero_le _, List.forall_mem_nil _⟩
  | cons part parts =>
    obtain ⟨hcount, hparts⟩ := @length_lt_behindCommas close parts rest
    rw [commaSeparated_append_close]
    simp only [List.length_cons, List.length_append]
    refine ⟨by omega, List.forall_mem_cons.mpr ⟨by omega, fun part' h => ?_⟩⟩
    have := hparts part' h
    omega

variable (hclose : close = 0x5D ∨ close = 0x7D)
include hclose

/-- A comma or a bracket ends a number. -/
theorem endsNumber_behindCommas (parts : List Bytes) (rest : Bytes) :
    EndsNumber (behindCommas close parts rest) := by
  cases parts with
  | nil =>
    refine endsNumber_cons ?_
    obtain rfl | rfl := hclose <;> decide
  | cons part parts =>
    rw [behindCommas_cons]
    exact endsNumber_cons (by decide)

/-- Neither is white space. -/
theorem flush_behindCommas (parts : List Bytes) (rest : Bytes) :
    Flush (behindCommas close parts rest) := by
  cases parts with
  | nil =>
    refine flush_cons_iff.mpr ?_
    obtain rfl | rfl := hclose <;> decide
  | cons part parts =>
    rw [behindCommas_cons]
    exact flush_cons_iff.mpr (by decide)

end Close

/-! ### One way to take a text apart -/

/-- What stands behind white space does not depend on how much of it there is taken to be. -/
theorem eq_of_blank_append {blank blank' bs bs' : Bytes} (hblank : Blank blank)
    (hblank' : Blank blank') (hbs : Flush bs) (hbs' : Flush bs')
    (heq : blank ++ bs = blank' ++ bs') : bs = bs' := by
  rw [← hbs.skipBlank_append hblank, heq, hbs'.skipBlank_append hblank']

section Apart

variable {ι κ : Type} {close : UInt8} {text trail : ι → Bytes} {part : ι → κ}

/-- **Parts that are told apart**: none begins with the byte that closes them, and each, with white
    space before it, is settled by the text up to its own white space. -/
structure Apart (close : UInt8) (text trail : ι → Bytes) (part : ι → κ) : Prop where
  close_eq : close = 0x5D ∨ close = 0x7D
  trail_blank : ∀ i, Blank (trail i)
  begins : ∀ i, ∃ lead b more,
    text i = lead ++ b :: more ∧ Blank lead ∧ isSpace b = false ∧ b ≠ close
  settled : ∀ {i i' : ι} {lead lead' rest rest' : Bytes}, Blank lead → Blank lead' →
    EndsNumber rest → EndsNumber rest' → lead ++ (text i ++ rest) = lead' ++ (text i' ++ rest') →
    part i = part i' ∧ trail i ++ rest = trail i' ++ rest'

namespace Apart

variable (h : Apart close text trail part)
include h

/-- By induction on the parts: a comma leads to another part, and the end to none. -/
theorem parts_eq_behind {is is' : List ι} {blank blank' rest rest' : Bytes} (hblank : Blank blank)
    (hblank' : Blank blank') (heq : blank ++ behindCommas close (is.map text) rest =
      blank' ++ behindCommas close (is'.map text) rest') :
    is.map part = is'.map part ∧ rest = rest' := by
  have hcomma : close ≠ 0x2C := by
    obtain rfl | rfl := h.close_eq <;> decide
  have hends (is : List ι) (rest : Bytes) : EndsNumber (behindCommas close (is.map text) rest) :=
    endsNumber_behindCommas h.close_eq _ rest
  induction is generalizing is' blank blank' with
  | nil =>
    have hafter := eq_of_blank_append hblank hblank' (flush_behindCommas h.close_eq _ _)
      (flush_behindCommas h.close_eq _ _) heq
    cases is' with
    | nil => exact ⟨rfl, (List.cons.inj hafter).2⟩
    -- One text ends here, and the other has a comma.
    | cons i' is' => exact absurd (List.cons.inj hafter).1 hcomma
  | cons i is ih =>
    have hafter := eq_of_blank_append hblank hblank' (flush_behindCommas h.close_eq _ _)
      (flush_behindCommas h.close_eq _ _) heq
    cases is' with
    | nil => exact absurd (List.cons.inj hafter).1.symm hcomma
    | cons i' is' =>
      rw [List.map_cons, List.map_cons, behindCommas_cons, behindCommas_cons] at hafter
      obtain ⟨hpart, hbehind⟩ := h.settled blank_nil blank_nil (hends is rest) (hends is' rest')
        (List.cons.inj hafter).2
      obtain ⟨hparts, hrest⟩ := ih (h.trail_blank i) (h.trail_blank i') hbehind
      rw [List.map_cons, List.map_cons, hpart, hparts]
      exact ⟨rfl, hrest⟩

/-- No part begins where the list ends. -/
theorem close_ne_part {inner inner' rest rest' : Bytes} (hinner : Blank inner)
    (hinner' : Blank inner') (i : ι) : inner ++ close :: rest ≠ inner' ++ (text i ++ rest') := by
  intro heq
  obtain ⟨lead, b, more, htext, hlead, hspace, hne⟩ := h.begins i
  rw [htext, List.append_assoc, ← List.append_assoc] at heq
  have hafter := eq_of_blank_append hinner (hinner'.append hlead)
    (flush_behindCommas h.close_eq [] rest) (flush_cons_iff.mpr hspace) heq
  exact hne (List.cons.inj hafter).1.symm

/-- **Parts with commas between them are taken apart in one way.** -/
theorem parts_eq {is is' : List ι} {inner inner' rest rest' : Bytes} (hinner : Blank inner)
    (hinner' : Blank inner') (heq : inner ++ (commaSeparated (is.map text) ++ close :: rest) =
      inner' ++ (commaSeparated (is'.map text) ++ close :: rest')) :
    is.map part = is'.map part ∧ rest = rest' := by
  -- Neither list can end before the other: where one has a part, the other would have the bracket.
  cases is with
  | nil =>
    cases is' with
    | nil => exact h.parts_eq_behind hinner hinner' heq
    | cons i' is' =>
      rw [List.map_cons, commaSeparated_append_close] at heq
      exact absurd heq (h.close_ne_part hinner hinner' i')
  | cons i is =>
    cases is' with
    | nil =>
      rw [List.map_cons, commaSeparated_append_close] at heq
      exact absurd heq.symm (h.close_ne_part hinner' hinner i)
    | cons i' is' =>
      rw [List.map_cons, List.map_cons, commaSeparated_append_close,
        commaSeparated_append_close] at heq
      obtain ⟨hpart, hbehind⟩ :=
        h.settled hinner hinner' (endsNumber_behindCommas h.close_eq _ rest)
        (endsNumber_behindCommas h.close_eq _ rest') heq
      obtain ⟨hparts, hrest⟩ := h.parts_eq_behind (h.trail_blank i) (h.trail_blank i') hbehind
      rw [List.map_cons, List.map_cons, hpart, hparts]
      exact ⟨rfl, hrest⟩

end Apart

end Apart

end DialogStub.Json
