import DialogStub.Proofs.Json.ShapeLocal

/-!
# Documents that are one object

* `Json.ObjectText` — the parts of which a whole text that is an object is written;
* `Fields.Gathers` — members that fill the places of fields, one after the other;
* `Shape.ofBytes_text_iff` — what a record reads from such a text;
* `Fields.gathers_cons_iff` — the first field gets the members of its key, the others the rest.

Which members a record reads is settled key by key, so that a document can change in one member and
be read as before in all others.
-/

namespace DialogStub.Json

/-! ### Texts of objects -/

/-- The parts of which a text that is an object is written. -/
structure ObjectText where
  before : Bytes
  inner : Bytes
  members : List MemberText
  after : Bytes
  before_blank : Blank before
  inner_blank : Blank inner
  after_blank : Blank after

namespace ObjectText

/-- The text of an object. -/
def text (o : ObjectText) : Bytes :=
  o.before ++ 0x7B :: (o.inner ++ membersText o.members o.after)

/-- The object with other members. -/
def withMembers (o : ObjectText) (members : List MemberText) : ObjectText :=
  { o with members := members }

/-- The members of an object, each with the text of its value. -/
def pairs (o : ObjectText) : List (String × Bytes) :=
  o.members.map MemberText.pair

theorem skipBlank_text (o : ObjectText) :
    skipBlank o.text = 0x7B :: (o.inner ++ membersText o.members o.after) :=
  skipBlank_append_cons o.before_blank (by decide) _

end ObjectText

/-- **An object has one list of members**, each with the text of its value. -/
theorem ObjectText.pairs_eq_of_text {o o' : ObjectText} (h : o.text = o'.text) :
    o.pairs = o'.pairs := by
  have hbrace := congrArg skipBlank h
  rw [o.skipBlank_text, o'.skipBlank_text] at hbrace
  exact (pairs_eq_of_membersText o.inner_blank o'.inner_blank (List.cons.inj hbrace).2).1

/-! ### Fields and members -/

section Fields

variable {α σ ρ : Type}

/-- Members that fill the places of fields, one after the other; those of other keys are passed
    over. -/
def Fields.Gathers (fields : Fields σ ρ) (depth : Nat) (slots : σ)
    (pairs : List (String × Bytes)) (slots' : σ) : Prop :=
  Runs (fun fuel key slots bs => fields.readMember key fuel depth slots bs) slots pairs slots'

/-- The texts that a place is filled with: none, or one from which the shape reads a value if the
    place is empty. -/
inductive Shape.Fills (shape : Shape α) (depth : Nat) :
    Option α → List Bytes → Option α → Prop where
  | none (slot : Option α) : Fills shape depth slot [] slot
  | one {value : Bytes} {a : α} (h : Spells (fun fuel => shape.read fuel depth) value a) :
      Fills shape depth .none [value] (some a)

/-- The texts of the values of a key. -/
def valuesOf (key : String) (pairs : List (String × Bytes)) : List Bytes :=
  (pairs.filter fun pair => pair.1 = key).map Prod.snd

/-- The members of all other keys. -/
def without (key : String) (pairs : List (String × Bytes)) : List (String × Bytes) :=
  pairs.filter fun pair => pair.1 ≠ key

@[simp] theorem valuesOf_nil (key : String) : valuesOf key [] = [] := rfl

@[simp] theorem without_nil (key : String) : without key [] = [] := rfl

@[simp] theorem valuesOf_cons_self (key : String) (value : Bytes) (pairs : List (String × Bytes)) :
    valuesOf key ((key, value) :: pairs) = value :: valuesOf key pairs := by
  simp [valuesOf]

@[simp] theorem without_cons_self (key : String) (value : Bytes) (pairs : List (String × Bytes)) :
    without key ((key, value) :: pairs) = without key pairs := by
  simp [without]

/-- The first pair is not looked up under another key. -/
theorem valuesOf_cons_of_ne {key key' : String} (h : key' ≠ key) (value : Bytes)
    (pairs : List (String × Bytes)) :
    valuesOf key ((key', value) :: pairs) = valuesOf key pairs := by
  simp [valuesOf, h]

/-- The first pair is not left out under another key. -/
theorem without_cons_of_ne {key key' : String} (h : key' ≠ key) (value : Bytes)
    (pairs : List (String × Bytes)) :
    without key ((key', value) :: pairs) = (key', value) :: without key pairs := by
  simp [without, h]

theorem valuesOf_append (key : String) (pairs pairs' : List (String × Bytes)) :
    valuesOf key (pairs ++ pairs') = valuesOf key pairs ++ valuesOf key pairs' := by
  simp [valuesOf]

theorem without_append (key : String) (pairs pairs' : List (String × Bytes)) :
    without key (pairs ++ pairs') = without key pairs ++ without key pairs' := by
  simp [without]

/-- The values of a key do not depend on the members of another. -/
theorem valuesOf_without {key key' : String} (h : key' ≠ key) (pairs : List (String × Bytes)) :
    valuesOf key (without key' pairs) = valuesOf key pairs := by
  rw [valuesOf, valuesOf, without, List.filter_filter]
  congr 1
  refine List.filter_congr (fun pair _ => ?_)
  by_cases hkey : pair.1 = key
  · simp [hkey, Ne.symm h]
  · simp [hkey]

/-- It does not matter which of two keys is left out first. -/
theorem without_comm (key key' : String) (pairs : List (String × Bytes)) :
    without key (without key' pairs) = without key' (without key pairs) := by
  rw [without, without, without, without, List.filter_filter, List.filter_filter]
  refine List.filter_congr (fun pair _ => ?_)
  rw [Bool.and_comm]

variable {note : Note α} {shape : Shape α} {others : Fields σ ρ} {depth : Nat}

/-- What a reader takes with just enough fuel, and nothing behind it. -/
theorem Local.spells {read : Nat → Bytes → Read α} (h : Local read) {value : Bytes} {a : α}
    (hread : read (fuelFor value) value = .ok (a, [])) : Spells read value a := by
  obtain ⟨used, heq, hspells, -⟩ := h.extent hread
  rw [List.append_nil] at heq
  rwa [heq]

/-- The member of the first field fills its place, which has to be empty. -/
theorem Fields.assigns_own_iff {slot : Option α} {slots : σ} {value : Bytes}
    {next : Option α × σ} :
    Assigns (fun fuel key slots bs =>
        (Fields.cons note shape others).readMember key fuel depth slots bs)
      note.key (slot, slots) value next ↔
    slot = none ∧ ∃ a, Spells (fun fuel => shape.read fuel depth) value a ∧
      next = (some a, slots) := by
  have hlocal := shape.read_local depth
  constructor
  · intro h
    -- The member is read once with nothing around it, which shows what its value spells.
    have hread := h (fuelFor value) [] [] [] (Nat.le_refl _) blank_nil blank_nil endsNumber_nil
    simp only [List.nil_append, List.append_nil] at hread
    obtain ⟨rfl, a, hmember, rfl⟩ := Fields.readMember_own_eq_ok_iff.mp hread
    rw [Json.readMember, show skipColon (0x3A :: value) = .ok value from rfl] at hmember
    dsimp only at hmember
    cases hvalue : shape.read (fuelFor value) depth value with
    | error failure =>
      rw [hvalue] at hmember
      cases hmember
    | ok result =>
      rw [hvalue] at hmember
      cases hmember
      exact ⟨rfl, a, hlocal.spells hvalue, rfl⟩
  · rintro ⟨rfl, a, hspells, rfl⟩
    intro fuel gap indent tail hfuel hgap hindent htail
    exact Fields.readMember_own_eq_ok_iff.mpr
      ⟨rfl, a, readMember_spells hlocal hspells hfuel note.key hgap hindent htail, rfl⟩

/-- The member of another key leaves the place of the first field as it is. -/
theorem Fields.assigns_other_iff {key : String} (hkey : note.key ≠ key) {slot : Option α}
    {slots : σ} {value : Bytes} {next : Option α × σ} :
    Assigns (fun fuel key slots bs =>
        (Fields.cons note shape others).readMember key fuel depth slots bs)
      key (slot, slots) value next ↔
    ∃ slots', Assigns (fun fuel key slots bs => others.readMember key fuel depth slots bs)
      key slots value slots' ∧ next = (slot, slots') := by
  constructor
  · intro h
    obtain ⟨slot', slots'⟩ := next
    -- A member of another key leaves the place of this field as it is.
    have hread {fuel : Nat} {bs tail : Bytes}
        (h : (Fields.cons note shape others).readMember key fuel depth (slot, slots) bs
          = .ok ((slot', slots'), tail)) :
        others.readMember key fuel depth slots bs = .ok (slots', tail) ∧ slot' = slot := by
      obtain ⟨_, hothers, heq⟩ := (Fields.readMember_other_eq_ok_iff hkey).mp h
      cases heq
      exact ⟨hothers, rfl⟩
    obtain ⟨-, rfl⟩ :=
      hread (h (fuelFor value) [] [] [] (Nat.le_refl _) blank_nil blank_nil endsNumber_nil)
    refine ⟨slots', fun fuel gap indent tail hfuel hgap hindent htail => ?_, rfl⟩
    exact (hread (h fuel gap indent tail hfuel hgap hindent htail)).1
  · rintro ⟨slots', h, rfl⟩ fuel gap indent tail hfuel hgap hindent htail
    exact (Fields.readMember_other_eq_ok_iff hkey).mpr
      ⟨slots', h fuel gap indent tail hfuel hgap hindent htail, rfl⟩

/-- **Fields one by one.** The place of the first field is filled from the members of its key, and
    the places of the others from the members of other keys. -/
theorem Fields.gathers_cons_iff {slot slot' : Option α} {slots slots' : σ}
    {pairs : List (String × Bytes)} :
    (Fields.cons note shape others).Gathers depth (slot, slots) pairs (slot', slots') ↔
      shape.Fills depth slot (valuesOf note.key pairs) slot' ∧
        others.Gathers depth slots (without note.key pairs) slots' := by
  induction pairs generalizing slot slots with
  | nil =>
    constructor
    · intro h
      cases h
      exact ⟨.none _, .nil _⟩
    · rintro ⟨hfills, hothers⟩
      cases hfills
      cases hothers
      exact .nil _
  | cons pair pairs ih =>
    obtain ⟨key, value⟩ := pair
    by_cases hkey : key = note.key
    · subst hkey
      rw [valuesOf_cons_self, without_cons_self]
      constructor
      · intro h
        cases h with
        | cons hassigns hruns =>
          obtain ⟨rfl, a, hspells, rfl⟩ := Fields.assigns_own_iff.mp hassigns
          obtain ⟨hfills, hothers⟩ := ih.mp hruns
          -- The place is filled now, so that no other member has this key.
          generalize valuesOf note.key pairs = values at hfills
          cases hfills
          exact ⟨.one hspells, hothers⟩
      · rintro ⟨hfills, hothers⟩
        generalize hvalues : valuesOf note.key pairs = values at hfills
        cases hfills with
        | one hspells =>
          refine .cons (Fields.assigns_own_iff.mpr ⟨rfl, _, hspells, rfl⟩) (ih.mpr ⟨?_, hothers⟩)
          rw [hvalues]
          exact .none _
    · rw [valuesOf_cons_of_ne hkey, without_cons_of_ne hkey]
      constructor
      · intro h
        cases h with
        | cons hassigns hruns =>
          obtain ⟨next, hassigns', rfl⟩ := (Fields.assigns_other_iff (Ne.symm hkey)).mp hassigns
          obtain ⟨hfills, hothers⟩ := ih.mp hruns
          exact ⟨hfills, .cons hassigns' hothers⟩
      · rintro ⟨hfills, hothers⟩
        cases hothers with
        | cons hassigns hruns =>
          exact .cons ((Fields.assigns_other_iff (Ne.symm hkey)).mpr ⟨_, hassigns, rfl⟩)
            (ih.mpr ⟨hfills, hruns⟩)

/-- Where there are no fields, values of all keys are passed over. -/
theorem Fields.gathers_nil {pairs : List (String × Bytes)}
    (h : ∀ pair ∈ pairs, IsValue pair.2) : Fields.nil.Gathers depth () pairs () := by
  induction pairs with
  | nil => exact .nil ()
  | cons pair pairs ih =>
    obtain ⟨hvalue, hothers⟩ := List.forall_mem_cons.mp h
    refine .cons (fun fuel gap indent tail hfuel hgap hindent htail => ?_) (ih hothers)
    rw [Fields.readMember, skipMember_isValue hvalue hfuel pair.1 hgap hindent htail]

end Fields

/-! ### Records -/

section Record

variable {σ ρ α : Type} {name : String} {doc : Option String} {fields : Fields σ ρ} {build : ρ → α}
  {parts : α → ρ} {law : ∀ a, build (parts a) = a}

/-- What a record reads of a whole text. -/
theorem readDocument_eq_ok_iff {read : Nat → Nat → Bytes → Read α} {bs : Bytes} {a : α} :
    readDocument read bs = .ok a ↔
      ∃ rest, read (fuelFor bs) maxDepth bs = .ok (a, rest) ∧ Blank rest := by
  rw [readDocument]
  constructor
  · intro h
    -- The value was read; behind it there may be nothing but white space.
    split at h
    · cases h
    rename_i rest hread
    split at h
    · rename_i hblank
      cases h
      obtain ⟨blank, hblanks, heq, -⟩ := exists_blank rest
      rw [hblank, List.append_nil] at heq
      exact ⟨rest, hread, heq ▸ hblanks⟩
    · cases h
  · rintro ⟨rest, hread, hblank⟩
    rw [hread]
    dsimp only
    have hskip := skipBlank_append hblank []
    rw [List.append_nil] at hskip
    rw [hskip]
    rfl

/-- **A record is read from its members**, in whatever way they are written. -/
theorem Shape.ofBytes_text_iff {o : ObjectText} {a : α} :
    (Shape.record name doc fields build parts law).ofBytes o.text = .ok a ↔
      ∃ slots values, fields.Gathers 126 fields.empty o.pairs slots ∧
        fields.finish slots = .ok values ∧ build values = a := by
  have hlocal := fields.readMember_local 126
  have hread (fuel : Nat) : (Shape.record name doc fields build parts law).read fuel 127 o.text =
      (Shape.record name doc fields build parts law).read fuel 127
        (0x7B :: (o.inner ++ membersText o.members o.after)) := by
    rw [Shape.read_object o.skipBlank_text, Shape.read_object (skipBlank_cons (by decide) _)]
  rw [Shape.ofBytes, readDocument_eq_ok_iff, maxDepth]
  constructor
  · rintro ⟨rest, h, -⟩
    rw [hread] at h
    obtain ⟨slots, values, hmembers, hfinish, hbuild⟩ := Shape.read_object_eq_ok_iff.mp h
    exact ⟨slots, values, (runs_of_readMembers hlocal o.inner_blank hmembers).1, hfinish, hbuild⟩
  · rintro ⟨slots, values, hruns, hfinish, hbuild⟩
    -- The white space before the object only adds to the fuel.
    have hfuel : fuelFor (0x7B :: (o.inner ++ membersText o.members o.after)) ≤ fuelFor o.text := by
      simp only [fuelFor, ObjectText.text, List.length_append]
      omega
    refine ⟨o.after, ?_, o.after_blank⟩
    rw [hread]
    exact Shape.read_object_eq_ok_iff.mpr ⟨slots, values,
      readMembers_object hruns o.inner_blank hfuel o.after, hfinish, hbuild⟩

/-- Every object from which a record is read is written in this way. -/
theorem Shape.exists_text_of_ofBytes {bs rest : Bytes} {a : α}
    (hobject : skipBlank bs = 0x7B :: rest)
    (h : (Shape.record name doc fields build parts law).ofBytes bs = .ok a) :
    ∃ o : ObjectText, o.text = bs := by
  obtain ⟨after, hread, hafter⟩ := readDocument_eq_ok_iff.mp h
  obtain ⟨before, hbefore, rfl, -⟩ := eq_append_of_skipBlank hobject
  rw [(Shape.read_local _ _).blank _ hbefore, maxDepth] at hread
  obtain ⟨slots, values, hmembers, -⟩ := Shape.read_object_eq_ok_iff.mp hread
  obtain ⟨inner, members, hinner, -, rfl⟩ :=
    exists_text_of_readMembers (fields.readMember_local 126) hmembers
  exact ⟨⟨before, inner, members, after, hbefore, hinner, hafter⟩, rfl⟩

end Record

end DialogStub.Json
