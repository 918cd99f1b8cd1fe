import DialogStub.Proofs.Json.Canonical
import DialogStub.Proofs.Json.Edit

/-!
# Values that texts spell

* `Shape.InRange` — the values of a shape that some text can spell: numbers of 64 bits are in range,
  wherever they stand in the value, and the keys of objects are in order;
* `Shape.inRange_of_read` — a value that was read is one of them;
* `Shape.ofBytes_toJson` — a value that can be written is read back from a text of its own;
* `Shape.RoundTrips` — what it means that a shape is a wire format.

The range of a value is told without the text. A part that was missing in the text is in range too,
unless the fields have another value for it.
-/

namespace DialogStub.Json

/-! ### Ranges -/

/-- A scalar that some text can spell. -/
def Scalar.InRange : {α : Type} → Scalar α → α → Prop
  | _, .text, _ => True
  | _, .flag, _ => True
  | _, .word, n => n < 0x10000000000000000
  | _, .count, n => n < 0x10000000000000000
  | _, .integer, n => -0x8000000000000000 ≤ n ∧ n < 0x8000000000000000
  | _, .real, _ => True
  | _, .time, _ => True

mutual

/-- A value whose numbers are in range, and whose objects are in order. -/
def Shape.InRange : {α : Type} → Shape α → α → Prop
  | _, .scalar kind, a => kind.InRange a
  | _, .any, j => j.Ordered
  | _, .option _, none => True
  | _, .option item, some a => item.InRange a
  | _, .list item, as => ∀ a ∈ as, item.InRange a
  | _, .choice _ _ _ _ _, _ => True
  | _, .record _ _ fields build _ _, a => ∃ parts, build parts = a ∧ fields.InRange parts

/-- Parts of a record that are in range, or that stand for missing members. -/
def Fields.InRange : {σ ρ : Type} → Fields σ ρ → ρ → Prop
  | _, _, .nil, _ => True
  | _, _, .cons note shape rest, (a, parts) =>
    (shape.InRange a ∨ note.default = some a) ∧ rest.InRange parts

end

/-- Places that hold values in range, as far as they are filled. -/
def Fields.SlotsInRange : {σ ρ : Type} → Fields σ ρ → σ → Prop
  | _, _, .nil, _ => True
  | _, _, .cons _ shape rest, (slot, slots) =>
    (∀ a ∈ slot, shape.InRange a) ∧ rest.SlotsInRange slots

/-- Empty places hold nothing that is out of range. -/
theorem Fields.slotsInRange_empty : {σ ρ : Type} → (fields : Fields σ ρ) →
    fields.SlotsInRange fields.empty
  | _, _, .nil => trivial
  | _, _, .cons _ _ rest => ⟨nofun, rest.slotsInRange_empty⟩

/-! ### Scalars and values of any kind -/

/-- A value is ordered, wherever the text stands from which it was read. -/
theorem ordered_of_read {fuel depth : Nat} {bs rest : Bytes} {j : Json}
    (h : Json.read fuel depth bs = .ok (j, rest)) : j.Ordered := by
  obtain ⟨blank, hblank, heq, hflush⟩ := exists_blank bs
  rw [heq, (read_local depth).blank _ hblank] at h
  obtain ⟨text, htext, hspells, hvalue⟩ := (read_local depth).extent h
  rw [htext, flush_append_iff hvalue.ne_nil] at hflush
  exact ((spells_iff_form hflush).mp hspells).ordered

/-- A count that was read is one of 64 bits. -/
theorem natural_lt {expected : String} {j : Json} {n : Nat} (h : natural expected j = .ok n) :
    n < 0x10000000000000000 := by
  unfold natural at h
  split at h
  · split at h
    · rename_i hrange
      cases h
      omega
    · cases h
  · cases h

section Scalars

variable {α : Type} {kind : Scalar α} {a : α}

/-- A scalar that was made of a value is in range. -/
theorem Scalar.inRange_of_ofJson {j : Json} (h : kind.ofJson j = .ok a) : kind.InRange a := by
  cases kind with
  | text | flag | real | time => exact trivial
  | word =>
    rw [Scalar.ofJson_word] at h
    exact natural_lt h
  | count =>
    rw [Scalar.ofJson_count] at h
    exact natural_lt h
  | integer =>
    -- Only an integer is compared with its bounds.
    cases j with
    | int n =>
      change (if -0x8000000000000000 ≤ n ∧ n < 0x8000000000000000 then Except.ok n
        else Except.error (Cause.wrongValue (.int n) "i64")) = .ok a at h
      split at h
      · rename_i hrange
        cases h
        exact hrange
      · cases h
    | null | bool | real | str | arr | obj => cases h

/-- A scalar that was read is in range. -/
theorem Scalar.inRange_of_read {bs rest : Bytes} (h : kind.read bs = .ok (a, rest)) :
    kind.InRange a := by
  unfold Scalar.read at h
  split at h
  · cases h
  · split at h
    · cases h
    · rename_i hvalue
      cases h
      exact Scalar.inRange_of_ofJson hvalue
  · cases h

end Scalars

/-! ### Lists and members -/

section Loops

variable {α σ : Type}

/-- Items that were read are all read by the reader of the items. -/
theorem forall_mem_of_readItems {item : Bytes → Read α} {P : α → Prop}
    (hitem : ∀ {bs a rest}, item bs = .ok (a, rest) → P a) {fuel index : Nat} {done as : List α}
    {bs rest : Bytes} (hdone : ∀ a ∈ done, P a)
    (h : readItems item fuel index done bs = .ok (as, rest)) : ∀ a ∈ as, P a := by
  induction fuel generalizing index done bs with
  | zero => cases h
  | succ fuel ih =>
    -- The items end here, or one more is read and put in front of those that are done.
    rw [readItems] at h
    split at h
    · cases h
    · cases h
      simpa using hdone
    · split at h
      · cases h
      · rename_i hread
        exact ih (List.forall_mem_cons.mpr ⟨hitem hread, hdone⟩) h

/-- What every member preserves holds when an object has been read. -/
theorem readMembers_preserves {member : String → σ → Bytes → Read σ} {I : σ → Prop}
    (hmember : ∀ {key state bs next rest}, I state → member key state bs = .ok (next, rest) →
      I next)
    {fuel : Nat} {first : Bool} {state last : σ} {bs rest : Bytes} (hstate : I state)
    (h : readMembers member fuel first state bs = .ok (last, rest)) : I last := by
  induction fuel generalizing first state bs with
  | zero => cases h
  | succ fuel ih =>
    -- The object ends here, or one more member is read.
    rw [readMembers] at h
    split at h
    · cases h
    · cases h
      exact hstate
    · split at h
      · cases h
      · split at h
        · cases h
        · rename_i hread
          exact ih (hmember hstate hread) h

/-- The value of a member was read by the reader of the value. -/
theorem eq_ok_of_readMember {key : String} {value : Bytes → Read α} {bs rest : Bytes} {a : α}
    (h : Json.readMember key value bs = .ok (a, rest)) : ∃ bs', value bs' = .ok (a, rest) := by
  unfold Json.readMember at h
  split at h
  · cases h
  · split at h
    · cases h
    · rename_i hread
      cases h
      exact ⟨_, hread⟩

end Loops

/-! ### Records -/

section Records

variable {α σ ρ : Type}

/-- What stands for a missing member is in range, or it is the value that the field has for it. -/
theorem Note.inRange_of_settle {note : Note α} {shape : Shape α} {slot : Option α} {a : α}
    (hslot : ∀ a ∈ slot, shape.InRange a) (h : note.settle shape slot = some a) :
    shape.InRange a ∨ note.default = some a := by
  unfold Note.settle at h
  split at h
  · cases h
    exact .inl (hslot a rfl)
  · rename_i hdefault
    exact .inr (hdefault.trans h)
  · cases shape with
    | option item =>
      cases h
      exact .inl trivial
    | scalar | any | list | choice | record => cases h

/-- What is made of the places of a record is in range. -/
theorem Fields.inRange_of_finish : {σ ρ : Type} → (fields : Fields σ ρ) → {slots : σ} →
    {parts : ρ} → fields.SlotsInRange slots → fields.finish slots = .ok parts →
    fields.InRange parts
  | _, _, .nil, _, _, _, _ => trivial
  | _, _, .cons note shape rest, (slot, slots), (a, parts), hslots, h => by
    obtain ⟨hsettle, hfinish⟩ := Fields.finish_cons_eq_ok_iff.mp h
    exact ⟨Note.inRange_of_settle hslots.1 hsettle, rest.inRange_of_finish hslots.2 hfinish⟩

/-- The member of the first field puts a value in range into its place. -/
theorem Fields.slotsInRange_cons {note : Note α} {shape : Shape α} {others : Fields σ ρ}
    {key : String} {fuel depth : Nat} {slots next : Option α × σ} {bs rest : Bytes}
    (hshape : ∀ {bs a rest}, shape.read fuel depth bs = .ok (a, rest) → shape.InRange a)
    (hothers : ∀ {slots next bs rest}, others.SlotsInRange slots →
      others.readMember key fuel depth slots bs = .ok (next, rest) → others.SlotsInRange next)
    (hslots : (Fields.cons note shape others).SlotsInRange slots)
    (h : (Fields.cons note shape others).readMember key fuel depth slots bs = .ok (next, rest)) :
    (Fields.cons note shape others).SlotsInRange next := by
  obtain ⟨slot, slots⟩ := slots
  -- The member belongs to the first field or to one of the others.
  by_cases hkey : note.key = key
  · subst hkey
    obtain ⟨rfl, a, hread, rfl⟩ := readMember_own_eq_ok_iff.mp h
    obtain ⟨bs', hvalue⟩ := eq_ok_of_readMember hread
    refine ⟨fun a' ha' => ?_, hslots.2⟩
    cases ha'
    exact hshape hvalue
  · obtain ⟨slots', hread, rfl⟩ := (readMember_other_eq_ok_iff hkey).mp h
    exact ⟨hslots.1, hothers hslots.2 hread⟩

/-- Items of an array are in range, and where the array has ended the fields have values of their
    own. -/
theorem Fields.inRange_cons_of_readItems {note : Note α} {shape : Shape α} {others : Fields σ ρ}
    {name : String} {size index fuel depth : Nat} {parts : α × ρ} {bs rest : Bytes}
    (hshape : ∀ {bs a rest}, shape.read fuel depth bs = .ok (a, rest) → shape.InRange a)
    (hothers : ∀ {index bs parts rest},
      others.readItems name size index fuel depth bs = .ok (parts, rest) → others.InRange parts)
    (h : (Fields.cons note shape others).readItems name size index fuel depth bs
      = .ok (parts, rest)) : (Fields.cons note shape others).InRange parts := by
  obtain ⟨a, parts⟩ := parts
  rcases cases_of_readItems_cons h with ⟨blank, more, hblank, rfl⟩ | ⟨front, b, more, hbefore, rfl⟩
  · obtain ⟨hdefault, hread⟩ := (readItems_cons_close hblank more).mp h
    exact ⟨.inr hdefault, hothers hread⟩
  · obtain ⟨after, hitem, hread⟩ := (readItems_cons_item hbefore more).mp h
    exact ⟨.inl (hshape hitem), hothers hread⟩

/-- A record is read from an array or from an object. -/
theorem Shape.cases_of_read_record {name : String} {doc : Option String} {fields : Fields σ ρ}
    {build : ρ → α} {parts : α → ρ} {law : ∀ a, build (parts a) = a} {fuel depth : Nat}
    {bs rest : Bytes} {a : α}
    (h : (Shape.record name doc fields build parts law).read fuel depth bs = .ok (a, rest)) :
    ∃ depth' bs' values, build values = a ∧
      ((∃ mid, fields.readItems name fields.size 0 fuel depth' bs' = .ok (values, mid)) ∨
        ∃ slots, readMembers (fun key slots bs => fields.readMember key fuel depth' slots bs) fuel
            true fields.empty bs' = .ok (slots, rest) ∧ fields.finish slots = .ok values) := by
  rw [Shape.read] at h
  -- A record needs one level to begin at all.
  cases depth with
  | zero => split at h <;> cases h
  | succ depth =>
    split at h
    · rename_i more _
      have harray : (Shape.record name doc fields build parts law).read fuel (depth + 1)
          (0x5B :: more) = .ok (a, rest) := (Shape.read_array fuel depth more).trans h
      obtain ⟨values, ⟨mid, hread, -⟩, hbuild⟩ := Shape.read_array_eq_ok_iff.mp harray
      exact ⟨depth, more, values, hbuild, .inl ⟨mid, hread⟩⟩
    · rename_i more _
      have hobject : (Shape.record name doc fields build parts law).read fuel (depth + 1)
          (0x7B :: more) = .ok (a, rest) :=
        (Shape.read_object (skipBlank_cons (by decide) more)).trans h
      obtain ⟨slots, values, hread, hfinish, hbuild⟩ := Shape.read_object_eq_ok_iff.mp hobject
      exact ⟨depth, more, values, hbuild, .inr ⟨slots, hread, hfinish⟩⟩
    · cases h

end Records

mutual

/-- **What a shape reads is in range**, in whatever way it is written. -/
theorem Shape.inRange_of_read : {α : Type} → (shape : Shape α) → (fuel depth : Nat) →
    {bs rest : Bytes} → {a : α} → shape.read fuel depth bs = .ok (a, rest) → shape.InRange a
  | _, .scalar kind, _, _, _, _, _, h => by
    rw [Shape.read] at h
    exact Scalar.inRange_of_read h
  | _, .any, _, _, _, _, _, h => by
    rw [Shape.read] at h
    exact ordered_of_read h
  | _, .option item, fuel, depth, _, _, _, h => by
    rw [Shape.read] at h
    split at h
    · split at h
      · cases h
      · cases h
        exact trivial
    · split at h
      · cases h
      · rename_i hitem
        cases h
        exact item.inRange_of_read fuel depth hitem
  | _, .list item, fuel, depth, _, _, _, h => by
    rw [Shape.read] at h
    -- With no depth left an array is no value.
    cases depth with
    | zero => split at h <;> cases h
    | succ depth =>
      split at h
      · exact forall_mem_of_readItems (item.inRange_of_read fuel depth) (List.forall_mem_nil _) h
      · cases h
  | _, .choice _ _ _ _ _, _, _, _, _, _, _ => trivial
  | _, .record _ _ fields _ _ _, fuel, _, _, _, _, h => by
    obtain ⟨depth, bs, values, rfl, ⟨mid, hread⟩ | ⟨slots, hread, hfinish⟩⟩ :=
      Shape.cases_of_read_record h
    · exact ⟨values, rfl, fields.inRange_of_readItems fuel depth hread⟩
    · have hslots : fields.SlotsInRange slots :=
        readMembers_preserves (fields.slotsInRange_of_readMember fuel depth)
          fields.slotsInRange_empty hread
      exact ⟨values, rfl, fields.inRange_of_finish hslots hfinish⟩

/-- A member leaves all places in range. -/
theorem Fields.slotsInRange_of_readMember : {σ ρ : Type} → (fields : Fields σ ρ) →
    (fuel depth : Nat) → {key : String} → {slots : σ} → {bs : Bytes} → {next : σ} →
    {rest : Bytes} → fields.SlotsInRange slots →
    fields.readMember key fuel depth slots bs = .ok (next, rest) → fields.SlotsInRange next
  | _, _, .nil, _, _, _, _, _, _, _, _, _ => trivial
  | _, _, .cons _ shape others, fuel, depth, _, _, _, _, _, hslots, h =>
    Fields.slotsInRange_cons (shape.inRange_of_read fuel depth)
      (others.slotsInRange_of_readMember fuel depth) hslots h

/-- The items of an array are in range. -/
theorem Fields.inRange_of_readItems : {σ ρ : Type} → (fields : Fields σ ρ) →
    (fuel depth : Nat) → {name : String} → {size index : Nat} → {bs rest : Bytes} → {parts : ρ} →
    fields.readItems name size index fuel depth bs = .ok (parts, rest) → fields.InRange parts
  | _, _, .nil, _, _, _, _, _, _, _, _, _ => trivial
  | _, _, .cons _ shape others, fuel, depth, _, _, _, _, _, _, h =>
    Fields.inRange_cons_of_readItems (shape.inRange_of_read fuel depth)
      (others.inRange_of_readItems fuel depth) h

end

/-! ### Whole texts -/

section Texts

variable {α : Type} {shape : Shape α}

/-- A value that a whole text spells is in range. -/
theorem Shape.inRange_of_ofBytes {bs : Bytes} {a : α} (h : shape.ofBytes bs = .ok a) :
    shape.InRange a := by
  obtain ⟨rest, hread, -⟩ := readDocument_eq_ok_iff.mp h
  exact shape.inRange_of_read _ _ hread

/-- **A value that can be written** is read back from the text that is written. -/
theorem Shape.ofBytes_toJson {a : α} (h : shape.Writable maxDepth a) :
    shape.ofBytes (shape.toJson a).print = .ok a := by
  have hrestores := shape.restores maxDepth h
  have hread := hrestores.spells _ (Nat.le_refl _) [] endsNumber_nil
  rw [List.append_nil] at hread
  exact readDocument_eq_ok_iff.mpr ⟨[], hread, blank_nil⟩

/-- A shape is a wire format of the values with `P`. -/
structure Shape.RoundTrips (shape : Shape α) (P : α → Prop) : Prop where
  /-- A value is read back from its text. -/
  reads : ∀ a, P a → shape.ofBytes (shape.toJson a).print = .ok a
  /-- Values with the same text are the same. -/
  injective : ∀ a b, P a → P b → (shape.toJson a).print = (shape.toJson b).print → a = b
  /-- What any text spells can be written, and reading it again gives the same value. -/
  rereads : ∀ bs a, shape.ofBytes bs = .ok a →
    P a ∧ shape.ofBytes (shape.toJson a).print = .ok a

/-- A shape is a wire format as soon as it can write what can be in a text. -/
theorem Shape.RoundTrips.of_writable {P : α → Prop}
    (hwritable : ∀ a, P a → shape.Writable maxDepth a) (hrange : ∀ a, shape.InRange a → P a) :
    shape.RoundTrips P := by
  have hreads (a : α) (ha : P a) : shape.ofBytes (shape.toJson a).print = .ok a :=
    Shape.ofBytes_toJson (hwritable a ha)
  refine ⟨hreads, fun a b ha hb htext => ?_, fun bs a hread => ?_⟩
  · have hboth := hreads a ha
    rw [htext, hreads b hb] at hboth
    cases hboth
    rfl
  · have ha : P a := hrange a (Shape.inRange_of_ofBytes hread)
    exact ⟨ha, hreads a ha⟩

end Texts

end DialogStub.Json
