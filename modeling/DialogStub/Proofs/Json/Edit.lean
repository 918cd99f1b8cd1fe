import DialogStub.Proofs.Json.RoundTrip
import DialogStub.Proofs.Text.WellFormed

/-!
# Documents that change in one member

* `Json.Holds` — a text that is an object with a given member;
* `Json.Puts` — the member of one key gets another value, or comes in;
* `Json.PutsIn` — the same for texts;
* `Puts.valuesOf_eq`, `Puts.without_eq` — one key gets this value, and the others keep theirs;
* `PutsIn.valid` — a text stays well-formed;
* `PutsIn.ofBytes` — a record that is read from it changes in one field;
* `Holds.spells` — what a printed object holds is read as the value that was printed.

A member that comes in may stand at any place, with any white space, and its key is spelt plainly; a
member that was there keeps the spelling of its key.
-/

namespace DialogStub.Json

open Utf8 (Valid valid_append_cons_iff valid_append_iff_of_ascii valid_cons_iff valid_of_ascii)

/-! ### Well-formed texts -/

/-- White space is ASCII. -/
theorem Blank.ascii {blank : Bytes} (h : Blank blank) : ∀ b ∈ blank, b < 0x80 := by
  intro b hb
  have hspace := h b hb
  simp only [isSpace, Bool.or_eq_true, decide_eq_true_eq] at hspace
  rcases hspace with ((rfl | rfl) | rfl) | rfl <;> decide

/-- White space behind a text does not count. -/
theorem valid_append_blank_iff {bs blank : Bytes} (h : Blank blank) :
    Valid (bs ++ blank) ↔ Valid bs := by
  cases blank with
  | nil => rw [List.append_nil]
  | cons b blank =>
    obtain ⟨hb, hblank⟩ := List.forall_mem_cons.mp h.ascii
    rw [valid_append_cons_iff hb]
    exact and_iff_left (valid_of_ascii hblank)

/-- A member is well-formed if the spelling of its key and its value are. -/
theorem KeyedText.valid_text_iff (k : KeyedText) :
    Valid k.text ↔ Valid k.spelling ∧ Valid k.value := by
  have hsplit : k.spelling ++ (k.gap ++ 0x3A :: (k.indent ++ (k.value ++ k.trail))) =
      (k.spelling ++ k.gap) ++ 0x3A :: (k.indent ++ (k.value ++ k.trail)) := by
    rw [List.append_assoc]
  rw [text, valid_append_iff_of_ascii k.lead_blank.ascii, valid_cons_iff (by decide), hsplit,
    valid_append_cons_iff (by decide), valid_append_blank_iff k.gap_blank,
    valid_append_iff_of_ascii k.indent_blank.ascii, valid_append_blank_iff k.trail_blank]

theorem MemberText.valid_text_iff (m : MemberText) :
    Valid m.text ↔ Valid m.spelling ∧ Valid m.value :=
  m.keyed.valid_text_iff

/-- Parts between commas, up to another byte of ASCII. -/
theorem valid_commaSeparated_append_iff {b : UInt8} (hb : b < 0x80) (parts : List Bytes)
    {rest : Bytes} : Valid (commaSeparated parts ++ b :: rest) ↔
      (∀ part ∈ parts, Valid part) ∧ Valid rest := by
  induction parts with
  | nil =>
    rw [commaSeparated, List.nil_append, valid_cons_iff hb]
    simp
  | cons part parts ih =>
    cases parts with
    | nil =>
      rw [commaSeparated, valid_append_cons_iff hb]
      simp
    | cons part' parts =>
      -- The comma is ASCII, so that the text can be cut there.
      have hsplit : commaSeparated (part :: part' :: parts) ++ b :: rest =
          part ++ 0x2C :: (commaSeparated (part' :: parts) ++ b :: rest) := by
        rw [commaSeparated_cons, commaSeparated_cons]
        simp
      rw [hsplit, valid_append_cons_iff (by decide), ih, ← and_assoc, ← List.forall_mem_cons]

theorem valid_membersText_iff (members : List MemberText) {rest : Bytes} :
    Valid (membersText members rest) ↔ (∀ m ∈ members, Valid m.text) ∧ Valid rest := by
  rw [membersText, valid_commaSeparated_append_iff (by decide), List.forall_mem_map]

/-- **An object is well-formed** if all its members are. -/
theorem ObjectText.valid_text_iff (o : ObjectText) :
    Valid o.text ↔ ∀ m ∈ o.members, Valid m.spelling ∧ Valid m.value := by
  have hafter : Valid o.after := valid_of_ascii o.after_blank.ascii
  rw [text, valid_append_iff_of_ascii o.before_blank.ascii, valid_cons_iff (by decide),
    valid_append_iff_of_ascii o.inner_blank.ascii, valid_membersText_iff]
  simp [hafter, MemberText.valid_text_iff]

/-! ### Printed values -/

/-- The letter of an escape is ASCII. -/
theorem lt_of_escaped? {b c : UInt8} (h : escaped? b = some c) : b < 0x80 := by
  rw [UInt8.lt_iff_toNat_lt]
  unfold escaped? at h
  split at h
  case h_9 => cases h
  all_goals
    rename_i heq
    rw [heq]
    decide

/-- So is a hexadecimal digit. -/
theorem hexDigit_lt : ∀ d < 16, hexDigit d < 0x80 := by
  decide

/-- A printed character is UTF-8. -/
theorem valid_printChar (c : Char) : Valid (printChar c) := by
  rcases printChar_cases c with ⟨letter, htext, -, hletter, -⟩ | ⟨hcontrol, htext⟩ | ⟨htext, -⟩
  · rw [htext]
    exact valid_of_ascii (by simp [lt_of_escaped? hletter])
  · rw [htext]
    have hhigh := hexDigit_lt (c.toNat / 16) (by omega)
    have hlow := hexDigit_lt (c.toNat % 16) (by omega)
    exact valid_of_ascii (by simp [hhigh, hlow])
  · have h := Utf8.valid_encode [c]
    rw [Utf8.encode_cons, Utf8.encode_nil, List.append_nil] at h
    rwa [htext]

/-- So are printed characters in a row. -/
theorem valid_flatMap_printChar (cs : List Char) : Valid (cs.flatMap printChar) := by
  induction cs with
  | nil => exact Utf8.valid_nil
  | cons c cs ih =>
    rw [List.flatMap_cons]
    exact (valid_printChar c).append ih

/-- So is a key with the quote behind it. -/
theorem valid_plainSpelling (key : String) : Valid (plainSpelling key) := by
  have hquote : Valid [0x22] := valid_of_ascii (List.forall_mem_singleton.mpr (by decide))
  exact (valid_flatMap_printChar key.toList).append hquote

/-- So is a printed string. -/
theorem valid_printString (s : String) : Valid (printString s) :=
  (valid_cons_iff (by decide)).mpr (valid_plainSpelling s)

/-- So are parts with commas between them. -/
theorem valid_commaSeparated {parts : List Bytes} (h : ∀ part ∈ parts, Valid part) :
    Valid (commaSeparated parts) := by
  induction parts with
  | nil => exact Utf8.valid_nil
  | cons part parts ih =>
    obtain ⟨hpart, hparts⟩ := List.forall_mem_cons.mp h
    cases parts with
    | nil => exact hpart
    | cons part' parts =>
      rw [commaSeparated]
      · exact (valid_append_cons_iff (by decide)).mpr ⟨hpart, ih hparts⟩
      · simp

mutual

/-- **What is printed is well-formed.** -/
theorem valid_print : (j : Json) → Valid j.print
  | .null => Utf8.valid_encode _
  | .bool true => Utf8.valid_encode _
  | .bool false => Utf8.valid_encode _
  | .int n => by
    rw [print]
    exact Utf8.valid_encode _
  | .real x => by
    rw [print]
    exact Utf8.valid_encode _
  | .str s => by
    rw [print]
    exact valid_printString s
  | .arr items => by
    rw [print, List.cons_append, valid_cons_iff (by decide), valid_append_cons_iff (by decide)]
    exact ⟨valid_commaSeparated (valid_printItems items), Utf8.valid_nil⟩
  | .obj members => by
    rw [print, List.cons_append, valid_cons_iff (by decide), valid_append_cons_iff (by decide)]
    exact ⟨valid_commaSeparated (valid_printMembers members), Utf8.valid_nil⟩

/-- So are the items of an array, by recursion with the values. -/
theorem valid_printItems : (items : List Json) → ∀ part ∈ printItems items, Valid part
  | [] => List.forall_mem_nil _
  | item :: rest => List.forall_mem_cons.mpr ⟨valid_print item, valid_printItems rest⟩

/-- So are the members of an object. -/
theorem valid_printMembers :
    (members : List (String × Json)) → ∀ part ∈ printMembers members, Valid part
  | [] => List.forall_mem_nil _
  | (key, value) :: rest => by
    refine List.forall_mem_cons.mpr ⟨?_, valid_printMembers rest⟩
    exact (valid_append_cons_iff (by decide)).mpr ⟨valid_printString key, valid_print value⟩

end

/-! ### Members that change -/

/-- A text that is an object with a given member. -/
def Holds (bs : Bytes) (key : String) (value : Bytes) : Prop :=
  ∃ o : ObjectText, o.text = bs ∧ (key, value) ∈ o.pairs

/-- A member with another value. -/
def MemberText.withValue (m : MemberText) {value : Bytes} (hvalue : IsValue value)
    (hflush : Flush value) : MemberText :=
  { m with value := value, value_flush := hflush, value_passes := hvalue.passes }

/-- The value of a key takes the place of the one that was there, or comes in at any place. -/
def Puts (key : String) (value : Bytes) (members members' : List MemberText) : Prop :=
  ∃ (before after : List MemberText) (old : Option MemberText) (new : MemberText),
    members = before ++ (old.toList ++ after) ∧
    (∀ m ∈ before ++ after, m.key ≠ key) ∧ (∀ m ∈ old, m.key = key) ∧
    new.pair = (key, value) ∧
    new.spelling = (old.map MemberText.spelling).getD (plainSpelling key) ∧
    members' = before ++ new :: after

/-- A text that is an object is changed in this way. -/
def PutsIn (key : String) (value : Bytes) (bs bs' : Bytes) : Prop :=
  ∃ (o : ObjectText) (members' : List MemberText), o.text = bs ∧
    Puts key value o.members members' ∧ (o.withMembers members').text = bs'

namespace Puts

variable {key : String} {value : Bytes} {members members' : List MemberText}

theorem valuesOf_eq_nil_iff :
    valuesOf key (members.map MemberText.pair) = [] ↔ ∀ m ∈ members, m.key ≠ key := by
  simp [valuesOf, List.filter_eq_nil_iff, MemberText.pair]

/-- The key has this value. -/
theorem valuesOf_eq (h : Puts key value members members') :
    valuesOf key (members'.map MemberText.pair) = [value] := by
  obtain ⟨before, after, old, new, -, hothers, -, hnew, -, rfl⟩ := h
  obtain ⟨hbefore, hafter⟩ := List.forall_mem_append.mp hothers
  rw [List.map_append, List.map_cons, hnew, valuesOf_append, valuesOf_cons_self,
    valuesOf_eq_nil_iff.mpr hbefore, valuesOf_eq_nil_iff.mpr hafter]
  rfl

/-- The members of other keys stay as they are. -/
theorem without_eq (h : Puts key value members members') :
    without key (members'.map MemberText.pair) = without key (members.map MemberText.pair) := by
  obtain ⟨before, after, old, new, rfl, -, hold, hnew, -, rfl⟩ := h
  have hnone : without key (old.toList.map MemberText.pair) = [] := by
    cases old with
    | none => rfl
    | some m =>
      have hkey : m.key = key := hold m rfl
      simp [MemberText.pair, without, hkey]
  simp only [List.map_append, List.map_cons, without_append, hnone, hnew, without_cons_self,
    List.nil_append]

/-- Well-formed members stay so. -/
theorem valid (h : Puts key value members members') (hvalue : Valid value)
    (hmembers : ∀ m ∈ members, Valid m.spelling ∧ Valid m.value) :
    ∀ m ∈ members', Valid m.spelling ∧ Valid m.value := by
  obtain ⟨before, after, old, new, rfl, -, -, hnew, hspelling, rfl⟩ := h
  simp only [List.forall_mem_append] at hmembers
  obtain ⟨hbefore, hold, hafter⟩ := hmembers
  refine List.forall_mem_append.mpr ⟨hbefore, List.forall_mem_cons.mpr ⟨⟨?_, ?_⟩, hafter⟩⟩
  · rw [hspelling]
    cases old with
    | none => exact valid_plainSpelling key
    | some m => exact (hold m (by simp)).1
  · obtain ⟨-, rfl⟩ := Prod.mk.inj hnew
    exact hvalue

/-- Every value can be put in. -/
theorem exists_puts (hvalue : IsValue value) (hflush : Flush value) (members : List MemberText)
    (hunique : (valuesOf key (members.map MemberText.pair)).length ≤ 1) :
    ∃ members', Puts key value members members' := by
  by_cases hkey : ∃ m ∈ members, m.key = key
  · obtain ⟨m, hm, hkey⟩ := hkey
    obtain ⟨before, after, rfl⟩ := List.append_of_mem hm
    refine ⟨before ++ m.withValue hvalue hflush :: after, before, after, some m,
      m.withValue hvalue hflush, rfl, ?_, ?_, ?_, rfl, rfl⟩
    · -- The value of this member is the only one of its key.
      have hpair : m.pair = (key, m.value) := congrArg (·, m.value) hkey
      rw [List.map_append, List.map_cons, hpair, valuesOf_append, valuesOf_cons_self,
        List.length_append, List.length_cons] at hunique
      refine List.forall_mem_append.mpr ⟨?_, ?_⟩
      · exact valuesOf_eq_nil_iff.mp (List.length_eq_zero_iff.mp (by omega))
      · exact valuesOf_eq_nil_iff.mp (List.length_eq_zero_iff.mp (by omega))
    · intro m' hm'
      cases hm'
      exact hkey
    · exact congrArg (·, value) hkey
  · refine ⟨members ++ [.plain key hvalue hflush], members, [], none, .plain key hvalue hflush,
      by simp, ?_, nofun, rfl, rfl, rfl⟩
    intro m hm heq
    rw [List.append_nil] at hm
    exact hkey ⟨m, hm, heq⟩

end Puts

/-- **A well-formed document stays so** when a well-formed value is put in. -/
theorem PutsIn.valid {key : String} {value bs bs' : Bytes} (h : PutsIn key value bs bs')
    (hbs : Valid bs) (hvalue : Valid value) : Valid bs' := by
  obtain ⟨o, members', rfl, hputs, rfl⟩ := h
  exact (ObjectText.valid_text_iff _).mpr (hputs.valid hvalue (o.valid_text_iff.mp hbs))

/-! ### What is read after a change -/

section Fields

variable {α σ ρ : Type}

/-- The values of fields with another value of one key, which its shape reads from the given
    text. -/
inductive Fields.Gets (depth : Nat) (key : String) (value : Bytes) :
    {σ ρ : Type} → Fields σ ρ → ρ → ρ → Prop where
  | here {α σ ρ : Type} {note : Note α} {shape : Shape α} {others : Fields σ ρ} {old a : α}
      {parts : ρ} (hkey : note.key = key)
      (h : Spells (fun fuel => shape.read fuel depth) value a) :
      Gets depth key value (.cons note shape others) (old, parts) (a, parts)
  | there {α σ ρ : Type} {note : Note α} {shape : Shape α} {others : Fields σ ρ} {a : α}
      {parts parts' : ρ} (hkey : note.key ≠ key) (h : Gets depth key value others parts parts') :
      Gets depth key value (.cons note shape others) (a, parts) (a, parts')

/-- A record is finished if its first field can be settled and the others be finished. -/
theorem Fields.finish_cons_eq_ok_iff {note : Note α} {shape : Shape α} {others : Fields σ ρ}
    {slot : Option α} {slots : σ} {a : α} {parts : ρ} :
    (Fields.cons note shape others).finish (slot, slots) = .ok (a, parts) ↔
      note.settle shape slot = some a ∧ others.finish slots = .ok parts := by
  rw [Fields.finish]
  constructor
  · intro h
    split at h
    · cases h
    rename_i a' hsettle
    split at h
    · cases h
    rename_i parts' hfinish
    cases h
    exact ⟨hsettle, hfinish⟩
  · rintro ⟨hsettle, hfinish⟩
    rw [hsettle]
    dsimp only
    rw [hfinish]

/-- **One key, one field.** By induction on the way to the field: it gets the new value, and each
    other field gathers from the same members as before. -/
theorem Fields.Gets.gathers {depth : Nat} {key : String} {value : Bytes} {fields : Fields σ ρ}
    {values values' : ρ} (h : fields.Gets depth key value values values') {slots : σ}
    {pairs pairs' : List (String × Bytes)} (hvalue : valuesOf key pairs' = [value])
    (hothers : without key pairs' = without key pairs)
    (hgathers : fields.Gathers depth fields.empty pairs slots)
    (hfinish : fields.finish slots = .ok values) :
    ∃ slots', fields.Gathers depth fields.empty pairs' slots' ∧
      fields.finish slots' = .ok values' := by
  induction h generalizing pairs pairs' with
  | @here α σ ρ note shape others old a parts hkey hspells =>
    subst hkey
    obtain ⟨slot, slots⟩ := slots
    obtain ⟨-, hgathers'⟩ := Fields.gathers_cons_iff.mp hgathers
    obtain ⟨-, hfinish'⟩ := Fields.finish_cons_eq_ok_iff.mp hfinish
    rw [← hothers] at hgathers'
    exact ⟨(some a, slots), Fields.gathers_cons_iff.mpr ⟨hvalue ▸ .one hspells, hgathers'⟩,
      Fields.finish_cons_eq_ok_iff.mpr ⟨rfl, hfinish'⟩⟩
  | @there α σ ρ note shape others a parts parts' hkey _ ih =>
    obtain ⟨slot, slots⟩ := slots
    obtain ⟨hfills, hgathers'⟩ := Fields.gathers_cons_iff.mp hgathers
    obtain ⟨hsettle, hfinish'⟩ := Fields.finish_cons_eq_ok_iff.mp hfinish
    have hvalue' : valuesOf key (without note.key pairs') = [value] := by
      rw [valuesOf_without hkey, hvalue]
    have hothers' : without key (without note.key pairs') =
        without key (without note.key pairs) := by
      rw [without_comm, hothers, without_comm]
    -- The members of the key of this field are others than those that change.
    have hsame : valuesOf note.key pairs' = valuesOf note.key pairs := by
      rw [← valuesOf_without (Ne.symm hkey), hothers, valuesOf_without (Ne.symm hkey)]
    obtain ⟨slots', hslots', hparts'⟩ := ih hvalue' hothers' hgathers' hfinish'
    rw [← hsame] at hfills
    exact ⟨(slot, slots'), Fields.gathers_cons_iff.mpr ⟨hfills, hslots'⟩,
      Fields.finish_cons_eq_ok_iff.mpr ⟨hsettle, hparts'⟩⟩

/-- Members of one key fill one place, so that there is one of them at most. -/
theorem Fields.length_valuesOf_le : {σ ρ : Type} → (fields : Fields σ ρ) → {depth : Nat} →
    {key : String} → {pairs : List (String × Bytes)} → {slots slots' : σ} → key ∈ fields.keys →
    fields.Gathers depth slots pairs slots' → (valuesOf key pairs).length ≤ 1
  | _, _, .nil, _, _, _, _, _, hkey, _ => nomatch hkey
  | _, _, .cons note shape others, _, key, pairs, (slot, slots), (slot', slots'), hkey, h => by
    obtain ⟨hfills, hothers⟩ := Fields.gathers_cons_iff.mp h
    -- The key is that of this field, or of one behind it.
    by_cases heq : note.key = key
    · subst heq
      generalize valuesOf note.key pairs = values at hfills
      cases hfills with
      | none => exact Nat.zero_le _
      | one _ => exact Nat.le_refl _
    · have hkey' : key ∈ others.keys := (List.mem_cons.mp hkey).resolve_left (Ne.symm heq)
      have hlength := others.length_valuesOf_le hkey' hothers
      rwa [valuesOf_without heq] at hlength

end Fields

section Record

variable {σ ρ α : Type} {name : String} {doc : Option String} {fields : Fields σ ρ} {build : ρ → α}
  {parts : α → ρ} {law : ∀ a, build (parts a) = a} {key : String} {value bs bs' : Bytes} {a a' : α}

/-- **A record changes in one field** when the value of its key changes in the text. -/
theorem PutsIn.ofBytes (h : PutsIn key value bs bs')
    (hread : (Shape.record name doc fields build parts law).ofBytes bs = .ok a)
    (hgets : ∀ values, build values = a →
      ∃ values', fields.Gets 126 key value values values' ∧ build values' = a') :
    (Shape.record name doc fields build parts law).ofBytes bs' = .ok a' := by
  obtain ⟨o, members', rfl, hputs, rfl⟩ := h
  obtain ⟨slots, values, hgathers, hfinish, hbuild⟩ := Shape.ofBytes_text_iff.mp hread
  obtain ⟨values', hvalues', hbuild'⟩ := hgets values hbuild
  obtain ⟨slots', hgathers', hfinish'⟩ :=
    hvalues'.gathers hputs.valuesOf_eq hputs.without_eq hgathers hfinish
  exact Shape.ofBytes_text_iff.mpr ⟨slots', values', hgathers', hfinish', hbuild'⟩

/-- A value can be put into every object from which a record with this key is read. -/
theorem exists_putsIn {rest : Bytes} (hobject : skipBlank bs = 0x7B :: rest)
    (hread : (Shape.record name doc fields build parts law).ofBytes bs = .ok a)
    (hkey : key ∈ fields.keys) (hvalue : IsValue value) (hflush : Flush value) :
    ∃ bs', PutsIn key value bs bs' := by
  obtain ⟨o, rfl⟩ := Shape.exists_text_of_ofBytes hobject hread
  obtain ⟨slots, values, hgathers, -⟩ := Shape.ofBytes_text_iff.mp hread
  obtain ⟨members', hputs⟩ := Puts.exists_puts hvalue hflush o.members
    (fields.length_valuesOf_le hkey hgathers)
  exact ⟨_, o, members', rfl, hputs, rfl⟩

/-- A text that was changed is an object again. -/
theorem PutsIn.exists_object (h : PutsIn key value bs bs') :
    ∃ rest, skipBlank bs' = 0x7B :: rest := by
  obtain ⟨o, members', -, -, rfl⟩ := h
  exact ⟨_, ObjectText.skipBlank_text _⟩

end Record

/-! ### What a printed object holds -/

section Holds

variable {α : Type} {shape : Shape α} {a : α} {key : String} {value : Bytes}
  {before after : List (String × Json)}

/-- A printed object holds its members as they were printed. -/
theorem holds_print {members : List (String × Json)}
    (h : ∀ m ∈ members, IsValue m.2.print ∧ Flush m.2.print) {j : Json}
    (hmem : (key, j) ∈ members) :
    Holds (Json.obj members).print key j.print := by
  obtain ⟨o, htext, hpairs⟩ := exists_objectText members h
  exact ⟨o, htext, hpairs ▸ List.mem_map.mpr ⟨(key, j), hmem, rfl⟩⟩

/-- A record with one field, which is read as its value. -/
def Shape.alone (key : String) (shape : Shape α) : Shape α :=
  .record "" none (.cons (.plain key) shape .nil) (fun parts => parts.1) (fun a => (a, ()))
    fun _ => rfl

/-- Such a record is read from an object that is printed with a member of this key. -/
theorem Shape.ofBytes_alone (hrestores : shape.Restores 126 a)
    (hothers : ∀ m ∈ before ++ after, m.1 ≠ key ∧ IsValue m.2.print ∧ Flush m.2.print) :
    (shape.alone key).ofBytes (Json.obj (before ++ (key, shape.toJson a) :: after)).print
      = .ok a := by
  obtain ⟨hbefore, hafter⟩ := List.forall_mem_append.mp hothers
  have hmembers : ∀ m ∈ before ++ (key, shape.toJson a) :: after,
      IsValue m.2.print ∧ Flush m.2.print :=
    List.forall_mem_append.mpr ⟨fun m hm => (hbefore m hm).2,
      List.forall_mem_cons.mpr ⟨hrestores.printed, fun m hm => (hafter m hm).2⟩⟩
  -- Only the member of the key counts, and the others are passed over.
  have hnone {members : List (String × Json)}
      (h : ∀ m ∈ members, m.1 ≠ key ∧ IsValue m.2.print ∧ Flush m.2.print) :
      valuesOf key (members.map fun m => (m.1, m.2.print)) = [] := by
    refine (valuesOf_of_ne (fun pair hpair => ?_)).1
    obtain ⟨m, hm, rfl⟩ := List.mem_map.mp hpair
    exact (h m hm).1
  obtain ⟨o, htext, hpairs⟩ := exists_objectText _ hmembers
  rw [← htext]
  refine Shape.ofBytes_text_iff.mpr
    ⟨(some a, ()), (a, ()), Fields.gathers_cons_iff.mpr ⟨?_, ?_⟩, rfl, rfl⟩
  · have hvalues : valuesOf key o.pairs = [(shape.toJson a).print] := by
      rw [hpairs, List.map_append, List.map_cons, valuesOf_append, valuesOf_cons_self,
        hnone hbefore, hnone hafter]
      rfl
    exact hvalues ▸ .one hrestores.spells
  · refine Fields.gathers_nil (fun pair hpair => ?_)
    have hpair' := (List.mem_filter.mp hpair).1
    rw [hpairs] at hpair'
    obtain ⟨m, hm, rfl⟩ := List.mem_map.mp hpair'
    exact (hmembers m hm).1

/-- What is held under a key is what this record is read from, in whatever way the object is taken
    apart: another member of the key would be a fault. -/
theorem Holds.spells_of_alone {bs : Bytes} (h : Holds bs key value)
    (hread : (shape.alone key).ofBytes bs = .ok a) :
    Spells (fun fuel => shape.read fuel 126) value a := by
  obtain ⟨o, rfl, hmem⟩ := h
  obtain ⟨⟨slot, ⟨⟩⟩, ⟨a', ⟨⟩⟩, hgathers, hfinish, rfl⟩ := Shape.ofBytes_text_iff.mp hread
  obtain ⟨hfills, -⟩ := Fields.gathers_cons_iff.mp hgathers
  -- The value is among those of its key.
  have hvalue : value ∈ valuesOf key o.pairs :=
    List.mem_map.mpr ⟨(key, value), List.mem_filter.mpr ⟨hmem, by simp⟩, rfl⟩
  change shape.Fills 126 none (valuesOf key o.pairs) slot at hfills
  generalize valuesOf key o.pairs = values at hfills hvalue
  cases hfills with
  | none => cases hvalue
  | one hspells =>
    obtain rfl := List.mem_singleton.mp hvalue
    obtain ⟨hsettle, -⟩ := Fields.finish_cons_eq_ok_iff.mp hfinish
    cases hsettle
    exact hspells

/-- **What is held under a key** is read as the value that was printed there. -/
theorem Holds.spells (h : Holds (Json.obj (before ++ (key, shape.toJson a) :: after)).print
    key value)
    (hrestores : shape.Restores 126 a)
    (hothers : ∀ m ∈ before ++ after, m.1 ≠ key ∧ IsValue m.2.print ∧ Flush m.2.print) :
    Spells (fun fuel => shape.read fuel 126) value a :=
  h.spells_of_alone (Shape.ofBytes_alone hrestores hothers)

end Holds

/-- The values of a well-formed document are well-formed. -/
theorem Holds.valid {key : String} {value bs : Bytes} (h : Holds bs key value) (hbs : Valid bs) :
    Valid value := by
  obtain ⟨o, rfl, hmem⟩ := h
  obtain ⟨m, hm, hpair⟩ := List.mem_map.mp hmem
  obtain ⟨-, rfl⟩ := Prod.mk.inj hpair
  exact (o.valid_text_iff.mp hbs m hm).2

end DialogStub.Json
