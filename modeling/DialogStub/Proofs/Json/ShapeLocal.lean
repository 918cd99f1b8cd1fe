import DialogStub.Proofs.Json.Choice

/-!
# Shapes look at one value only

* `Fields.readMember_own_eq_ok_iff`, `Fields.readMember_other_eq_ok_iff` — a member is read into the
  place of its field;
* `Fields.readItems_cons_item`, `Fields.readItems_cons_close` — a record is also read from an array,
  field by field;
* `Shape.read_local`, `Fields.readMember_local`, `Fields.readItems_local` — whatever a shape takes
  is one value.
-/

namespace DialogStub.Json

/-! ### Records -/

section Records

variable {α β σ ρ : Type}

/-- Nothing is read from an empty text. -/
theorem Local.read_nil {read : Nat → Bytes → Read α} (h : Local read) (fuel : Nat)
    (result : α × Bytes) : read fuel [] ≠ .ok result := by
  intro hread
  obtain ⟨used, hused, -, hvalue⟩ := h.extent hread
  exact hvalue.ne_nil (List.append_eq_nil_iff.mp hused.symm).1

/-- A `null` says that the value is missing. -/
theorem Shape.read_option_null {item : Shape α} (fuel depth : Nat) (bs : Bytes) :
    (Shape.option item).read fuel depth (0x6E :: bs) = match literal (Utf8.bytes "ull") bs with
      | .error failure => .error failure
      | .ok rest => .ok (none, rest) := by
  rw [Shape.read, skipBlank_cons (by decide)]
  rfl

/-- Of an empty text, the error is that of the value. -/
theorem Shape.read_option_nil {item : Shape α} (fuel depth : Nat) :
    (Shape.option item).read fuel depth [] = match item.read fuel depth [] with
      | .error failure => .error failure
      | .ok (a, rest) => .ok (some a, rest) := by
  rw [Shape.read]
  exact rfl

/-- A value that may be missing is read from its own text. -/
theorem Shape.read_option_local {item : Shape α} {depth : Nat}
    (h : Local fun fuel => item.read fuel depth) :
    Local fun fuel => (Shape.option item).read fuel depth := by
  refine .of_cons (fun fuel _ hblank bs => ?_) (fun fuel result hread => ?_)
    (fun {fuel b bs a rest} hspace hread => ?_)
  · rw [Shape.read, Shape.read, skipBlank_append hblank]
  · rw [Shape.read_option_nil] at hread
    split at hread
    · cases hread
    · rename_i a rest hitem
      exact h.read_nil fuel _ hitem
  · -- With the first byte of `null` nothing but this word is read.
    by_cases hnull : b = 0x6E
    · subst hnull
      rw [Shape.read_option_null] at hread
      split at hread
      · cases hread
      rename_i rest' hliteral
      cases hread
      refine ⟨0x6E :: Utf8.bytes "ull", congrArg _ (literal_extent hliteral), fun _ _ tail _ => ?_,
        isValue_of_skipScalar hspace (by decide) (by decide) fun tail _ => literal_append _ tail⟩
      show (Shape.option item).read _ depth (0x6E :: (Utf8.bytes "ull" ++ tail)) = _
      rw [Shape.read_option_null, literal_append]
    · rw [Shape.read_option (skipBlank_cons hspace bs) hnull] at hread
      split at hread
      · cases hread
      rename_i a' rest' hitem
      cases hread
      obtain ⟨used, heq, hspells, hvalue⟩ := h.extent hitem
      obtain ⟨more, rfl, rfl⟩ := hvalue.exists_cons heq
      refine ⟨b :: more, rfl, fun fuel' hfuel tail htail => ?_, hvalue⟩
      dsimp only
      rw [List.cons_append, Shape.read_option (skipBlank_cons hspace _) hnull]
      have hagain : item.read fuel' depth (b :: (more ++ tail)) = .ok (a', tail) :=
        hspells fuel' hfuel tail htail
      rw [hagain]

/-- A list is read item by item. -/
theorem Shape.read_list {item : Shape α} (fuel depth : Nat) (bs : Bytes) :
    (Shape.list item).read fuel (depth + 1) (0x5B :: bs) =
      readItems (item.read fuel depth) fuel 0 [] bs := by
  rw [Shape.read]
  rfl

/-- A list is read from its own text. -/
theorem Shape.read_list_local {item : Shape α} (depth : Nat)
    (h : ∀ depth, Local fun fuel => item.read fuel depth) :
    Local fun fuel => (Shape.list item).read fuel depth := by
  refine .of_cons (fun fuel _ hblank bs => ?_) (fun fuel result => ?_)
    (fun {fuel b bs a rest} hspace hread => ?_)
  · rw [Shape.read, Shape.read, skipBlank_append hblank]
  · rw [Shape.read]
    rintro ⟨⟩
  · -- A list begins with its bracket and takes one level.
    by_cases hbracket : b = 0x5B
    · subst hbracket
      cases depth with
      | zero =>
        rw [Shape.read, skipBlank_cons hspace] at hread
        cases hread
      | succ depth =>
        rw [Shape.read_list] at hread
        obtain ⟨used, rfl, hvalue, hagain⟩ := list_extent (h depth) hread
        refine ⟨0x5B :: used, rfl, fun fuel' hfuel tail _ => ?_, hvalue⟩
        dsimp only
        rw [List.cons_append, Shape.read_list]
        exact hagain fuel' tail hfuel
    · rw [Shape.read, skipBlank_cons hspace] at hread
      split at hread
      · rename_i heq
        exact absurd (List.cons.inj heq).1 hbracket
      · cases hread

/-! #### In object form -/

/-- A member that no field asks for is read from its own text. -/
theorem Fields.readMember_nil_local (depth : Nat) :
    LocalMember fun fuel key slots bs => Fields.nil.readMember key fuel depth slots bs := by
  intro fuel key slots bs next rest hread
  dsimp only at hread
  rw [Fields.readMember] at hread
  split at hread
  · cases hread
  rename_i rest' hskip
  cases hread
  obtain ⟨gap, indent, value, hgap, hindent, rfl, hvalue, hflush⟩ := skipMember_extent hskip
  refine ⟨gap, indent, value, hgap, hindent, rfl, hvalue, hflush,
    fun fuel' gap' indent' tail hfuel hgap' hindent' htail => ?_⟩
  dsimp only
  rw [Fields.readMember, skipMember_isValue hvalue hfuel key hgap' hindent' htail]

section Members

variable {note : Note α} {shape : Shape α} {others : Fields σ ρ} {depth : Nat}

/-- The member of the first field is read into its place, which has to be empty. -/
theorem Fields.readMember_own_eq_ok_iff {fuel : Nat} {slot : Option α} {slots : σ}
    {bs rest : Bytes} {next : Option α × σ} :
    (Fields.cons note shape others).readMember note.key fuel depth (slot, slots) bs
        = .ok (next, rest) ↔
      slot = none ∧ ∃ a, Json.readMember note.key (shape.read fuel depth) bs = .ok (a, rest) ∧
        next = (some a, slots) := by
  rw [Fields.readMember.eq_def]
  dsimp only
  rw [if_pos rfl]
  -- A place that is full makes the member a repeated one.
  cases slot with
  | some a =>
    constructor
    · intro h
      cases h
    · rintro ⟨hslot, -⟩
      cases hslot
  | none =>
    constructor
    · intro h
      dsimp only at h
      split at h
      · cases h
      rename_i a rest' hmember
      cases h
      exact ⟨rfl, a, hmember, rfl⟩
    · rintro ⟨-, a, hmember, rfl⟩
      dsimp only
      rw [hmember]

/-- The member of another field leaves the place of the first as it is. -/
theorem Fields.readMember_other_eq_ok_iff {key : String} (hkey : note.key ≠ key) {fuel : Nat}
    {slot : Option α} {slots : σ} {bs rest : Bytes} {next : Option α × σ} :
    (Fields.cons note shape others).readMember key fuel depth (slot, slots) bs
        = .ok (next, rest) ↔
      ∃ slots', others.readMember key fuel depth slots bs = .ok (slots', rest) ∧
        next = (slot, slots') := by
  rw [Fields.readMember.eq_def]
  dsimp only
  rw [if_neg hkey]
  constructor
  · intro h
    split at h
    · cases h
    rename_i slots' rest' hothers
    cases h
    exact ⟨slots', hothers, rfl⟩
  · rintro ⟨slots', hothers, rfl⟩
    rw [hothers]

/-- A member is read from its own text, by the first field or by the others. -/
theorem Fields.readMember_cons_local (h : Local fun fuel => shape.read fuel depth)
    (hothers : LocalMember fun fuel key slots bs => others.readMember key fuel depth slots bs) :
    LocalMember fun fuel key slots bs =>
      (Fields.cons note shape others).readMember key fuel depth slots bs := by
  intro fuel key slots bs next rest hread
  obtain ⟨slot, slots⟩ := slots
  -- The member belongs to the first field or to one of the others.
  by_cases hkey : note.key = key
  · subst hkey
    obtain ⟨rfl, a, hmember, rfl⟩ := readMember_own_eq_ok_iff.mp hread
    obtain ⟨gap, indent, value, hgap, hindent, rfl, hvalue, hflush, hspells⟩ :=
      readMember_extent h hmember
    refine ⟨gap, indent, value, hgap, hindent, rfl, hvalue, hflush,
      fun fuel' gap' indent' tail hfuel hgap' hindent' htail => ?_⟩
    exact readMember_own_eq_ok_iff.mpr
      ⟨rfl, a, readMember_spells h hspells hfuel note.key hgap' hindent' htail, rfl⟩
  · obtain ⟨slots', hmember, rfl⟩ := (readMember_other_eq_ok_iff hkey).mp hread
    obtain ⟨gap, indent, value, hgap, hindent, rfl, hvalue, hflush, hassigns⟩ :=
      hothers _ _ _ _ _ _ hmember
    refine ⟨gap, indent, value, hgap, hindent, rfl, hvalue, hflush,
      fun fuel' gap' indent' tail hfuel hgap' hindent' htail => ?_⟩
    exact (readMember_other_eq_ok_iff hkey).mpr
      ⟨slots', hassigns fuel' gap' indent' tail hfuel hgap' hindent' htail, rfl⟩

end Members

/-! #### In array form -/

/-- An array ends with white space and a bracket. -/
theorem closeList_extent {bs rest : Bytes} (h : closeList bs = .ok rest) :
    ∃ blank, Blank blank ∧ bs = blank ++ 0x5D :: rest := by
  unfold closeList at h
  split at h
  · cases h
  rename_i b more hblank
  obtain ⟨blank, hblanks, rfl, -⟩ := eq_append_of_skipBlank hblank
  split at h
  · rename_i hclose
    subst hclose
    cases h
    exact ⟨blank, hblanks, rfl⟩
  · split at h
    · split at h <;> cases h
    · cases h

/-- A bracket behind white space ends an array. -/
theorem closeList_append {blank : Bytes} (h : Blank blank) (rest : Bytes) :
    closeList (blank ++ 0x5D :: rest) = .ok rest := by
  rw [closeList, skipBlank_append_cons h (by decide)]
  rfl

section Items

variable {note : Note α} {shape : Shape α} {others : Fields σ ρ} {name : String}
  {size index fuel depth : Nat} {rest : Bytes}

/-- Before a field an array has ended, or there is an item for it. -/
theorem Fields.cases_of_readItems_cons {bs : Bytes} {parts : α × ρ}
    (h : (Fields.cons note shape others).readItems name size index fuel depth bs
      = .ok (parts, rest)) :
    (∃ blank more, Blank blank ∧ bs = blank ++ 0x5D :: more) ∨
      ∃ front b more, BeforeItem (index = 0) front b ∧ bs = front ++ b :: more := by
  cases hnext : nextItem (index = 0) bs with
  | error failure =>
    rw [Fields.readItems, hnext] at h
    cases h
  | ok next =>
    rcases nextItem_extent hnext with ⟨-, blank, hblank, heq⟩ | ⟨front, b, more, -, heq, hbefore⟩
    · exact .inl ⟨blank, _, hblank, heq⟩
    · exact .inr ⟨front, b, more, hbefore, heq⟩

/-- A field at which an array has ended has the value that stands for it. -/
theorem Fields.readItems_cons_close {blank : Bytes} (hblank : Blank blank) (more : Bytes) {a : α}
    {parts : ρ} :
    (Fields.cons note shape others).readItems name size index fuel depth (blank ++ 0x5D :: more)
        = .ok ((a, parts), rest) ↔
      note.default = some a ∧
        others.readItems name size (index + 1) fuel depth (blank ++ 0x5D :: more)
          = .ok (parts, rest) := by
  rw [Fields.readItems, nextItem_close hblank]
  dsimp only
  constructor
  · intro h
    split at h
    · cases h
    rename_i hdefault
    split at h
    · cases h
    rename_i hothers
    cases h
    exact ⟨hdefault, hothers⟩
  · rintro ⟨hdefault, hothers⟩
    rw [hdefault]
    dsimp only
    rw [hothers]

/-- A field that has an item is read from it. -/
theorem Fields.readItems_cons_item {front : Bytes} {b : UInt8}
    (hbefore : BeforeItem (index = 0) front b) (more : Bytes) {a : α} {parts : ρ} :
    (Fields.cons note shape others).readItems name size index fuel depth (front ++ b :: more)
        = .ok ((a, parts), rest) ↔
      ∃ after, shape.read fuel depth (b :: more) = .ok (a, after) ∧
        others.readItems name size (index + 1) fuel depth after = .ok (parts, rest) := by
  rw [Fields.readItems, hbefore.nextItem]
  dsimp only
  constructor
  · intro h
    split at h
    · cases h
    rename_i hitem
    split at h
    · cases h
    rename_i hothers
    cases h
    exact ⟨_, hitem, hothers⟩
  · rintro ⟨after, hitem, hothers⟩
    rw [hitem]
    dsimp only
    rw [hothers]

end Items

/-- At the end of an array all fields that are left have the values that stand for them, and the end
    stays in place. By recursion on the fields. -/
theorem Fields.readItems_end : {σ ρ : Type} → (fields : Fields σ ρ) → {name : String} →
    {size index fuel depth : Nat} → {blank rest mid : Bytes} → {parts : ρ} → Blank blank →
    fields.readItems name size index fuel depth (blank ++ 0x5D :: rest) = .ok (parts, mid) →
    mid = blank ++ 0x5D :: rest ∧ ∀ fuel' rest',
      fields.readItems name size index fuel' depth (blank ++ 0x5D :: rest')
        = .ok (parts, blank ++ 0x5D :: rest')
  | _, _, .nil, _, _, _, _, _, _, _, _, _, _, h => by
    cases h
    exact ⟨rfl, fun _ _ => rfl⟩
  | _, _, .cons note shape others, _, _, _, _, _, _, _, _, (a, parts), hblank, h => by
    obtain ⟨hdefault, hothers⟩ := (Fields.readItems_cons_close hblank _).mp h
    obtain ⟨rfl, hagain⟩ := others.readItems_end hblank hothers
    -- The value stands in for this field, and the end of the array is left for the others.
    exact ⟨rfl, fun fuel' rest' =>
      (Fields.readItems_cons_close hblank rest').mpr ⟨hdefault, hagain fuel' rest'⟩⟩

/-- Fields from an array and the end of the array, as `Shape.read` takes them. -/
def Fields.FromArray (fields : Fields σ ρ) (name : String) (size index fuel depth : Nat)
    (bs : Bytes) (parts : ρ) (rest : Bytes) : Prop :=
  ∃ mid, fields.readItems name size index fuel depth bs = .ok (parts, mid) ∧
    closeList mid = .ok rest

/-- What fields take from an array from one place on, up to its end, does not depend on what stands
    behind it. -/
def Fields.LocalItems (fields : Fields σ ρ) (depth : Nat) : Prop :=
  ∀ {name : String} {size index fuel : Nat} {bs rest : Bytes} {parts : ρ},
    fields.FromArray name size index fuel depth bs parts rest →
    ∃ used, bs = used ++ rest ∧ Scans (dueAt (index = 0)) [.list] used ∧
      ∀ fuel' tail, fuelFor used ≤ fuel' → EndsNumber tail →
        fields.FromArray name size index fuel' depth (used ++ tail) parts tail

/-- The end of an array is read from its own text. -/
theorem Fields.readItems_nil_local (depth : Nat) : Fields.nil.LocalItems depth := by
  rintro name size index fuel bs rest ⟨⟩ ⟨mid, hread, hclose⟩
  cases hread
  obtain ⟨blank, hblank, rfl⟩ := closeList_extent hclose
  have htext (rest : Bytes) : (blank ++ [0x5D]) ++ rest = blank ++ 0x5D :: rest := by
    simp
  refine ⟨blank ++ [0x5D], (htext rest).symm, scans_closeList hblank _, fun _ tail _ _ => ?_⟩
  rw [htext]
  exact ⟨_, rfl, closeList_append hblank tail⟩

/-- A field that stands in an array is read from its own text, or not at all. -/
theorem Fields.readItems_cons_local {note : Note α} {shape : Shape α} {others : Fields σ ρ}
    {depth : Nat} (h : Local fun fuel => shape.read fuel depth)
    (hothers : others.LocalItems depth) :
    (Fields.cons note shape others).LocalItems depth := by
  rintro name size index fuel bs rest ⟨a, parts⟩ ⟨mid, hread, hclose⟩
  rcases cases_of_readItems_cons hread with ⟨blank, more, hblank, rfl⟩ |
    ⟨front, b, more, hbefore, rfl⟩
  · -- The array ends before this field.
    obtain ⟨rfl, hagain⟩ := readItems_end _ hblank hread
    rw [closeList_append hblank] at hclose
    cases hclose
    have htext (rest : Bytes) : (blank ++ [0x5D]) ++ rest = blank ++ 0x5D :: rest := by
      simp
    refine ⟨blank ++ [0x5D], (htext _).symm, scans_closeList hblank _, fun fuel' tail _ _ => ?_⟩
    rw [htext]
    exact ⟨_, hagain fuel' tail, closeList_append hblank tail⟩
  · obtain ⟨after, hitem, hparts⟩ := (readItems_cons_item hbefore more).mp hread
    obtain ⟨used', rfl, hscans, hagain⟩ := hothers ⟨mid, hparts, hclose⟩
    have hnot : decide (index + 1 = 0) = false := decide_eq_false (Nat.succ_ne_zero index)
    rw [hnot] at hscans
    obtain ⟨used, hused, hscans', hfollows⟩ := hbefore.extent h hitem hscans
    refine ⟨used, hused, hscans', fun fuel' tail hfuel htail => ?_⟩
    obtain ⟨hfuel', more', htext, hone⟩ := hfollows fuel' tail hfuel htail
    obtain ⟨mid', hmid, hclose'⟩ := hagain fuel' tail hfuel' htail
    rw [htext]
    exact ⟨mid', (readItems_cons_item hbefore more').mpr ⟨_, hone, hmid⟩, hclose'⟩

/-! #### All shapes -/

section Record

variable {name : String} {doc : Option String} {fields : Fields σ ρ} {build : ρ → α}
  {parts : α → ρ} {law : ∀ a, build (parts a) = a}

/-- An array is read field by field. -/
theorem Shape.read_array (fuel depth : Nat) (bs : Bytes) :
    (Shape.record name doc fields build parts law).read fuel (depth + 1) (0x5B :: bs) =
      match fields.readItems name fields.size 0 fuel depth bs with
      | .error failure => .error failure
      | .ok (parts, rest) => match closeList rest with
        | .error failure => .error failure
        | .ok rest => .ok (build parts, rest) := by
  rw [Shape.read]
  rfl

/-- A record is read from an array whose items are its fields. -/
theorem Shape.read_array_eq_ok_iff {fuel depth : Nat} {bs rest : Bytes} {a : α} :
    (Shape.record name doc fields build parts law).read fuel (depth + 1) (0x5B :: bs)
        = .ok (a, rest) ↔
      ∃ values, fields.FromArray name fields.size 0 fuel depth bs values rest ∧
        build values = a := by
  rw [Shape.read_array]
  constructor
  · intro h
    split at h
    · cases h
    rename_i values mid hread
    split at h
    · cases h
    rename_i rest' hclose
    cases h
    exact ⟨values, ⟨mid, hread, hclose⟩, rfl⟩
  · rintro ⟨values, ⟨mid, hread, hclose⟩, rfl⟩
    rw [hread]
    dsimp only
    rw [hclose]

/-- A record is read from an object whose members fill its places. -/
theorem Shape.read_object_eq_ok_iff {fuel depth : Nat} {bs rest : Bytes} {a : α} :
    (Shape.record name doc fields build parts law).read fuel (depth + 1) (0x7B :: bs)
        = .ok (a, rest) ↔
      ∃ slots values,
        readMembers (fun key slots bs => fields.readMember key fuel depth slots bs) fuel true
          fields.empty bs = .ok (slots, rest) ∧
        fields.finish slots = .ok values ∧ build values = a := by
  rw [Shape.read_object (skipBlank_cons (by decide) bs)]
  constructor
  · intro h
    split at h
    · cases h
    rename_i slots rest' hread
    split at h
    · cases h
    rename_i values hfinish
    cases h
    exact ⟨slots, values, hread, hfinish, rfl⟩
  · rintro ⟨slots, values, hread, hfinish, rfl⟩
    rw [hread]
    dsimp only
    rw [hfinish]

/-- A record is read from its own text. -/
theorem Shape.read_record_local (depth : Nat)
    (hmember : ∀ depth, LocalMember fun fuel key slots bs =>
      fields.readMember key fuel depth slots bs)
    (hitems : ∀ depth, fields.LocalItems depth) :
    Local fun fuel => (Shape.record name doc fields build parts law).read fuel depth := by
  refine .of_cons (fun fuel _ hblank bs => ?_) (fun fuel result => ?_)
    (fun {fuel b bs a rest} hspace hread => ?_)
  · rw [Shape.read, Shape.read, skipBlank_append hblank]
  · rw [Shape.read]
    rintro ⟨⟩
  -- A record stands in an array or in an object, and one level of the depth is used up for it.
  by_cases hlist : b = 0x5B
  · subst hlist
    cases depth with
    | zero =>
      rw [Shape.read, skipBlank_cons hspace] at hread
      cases hread
    | succ depth =>
      obtain ⟨values, hvalues, rfl⟩ := Shape.read_array_eq_ok_iff.mp hread
      obtain ⟨used, rfl, hscans, hagain⟩ := hitems depth hvalues
      refine ⟨0x5B :: used, rfl, fun fuel' hfuel tail htail => ?_, isValue_list hscans⟩
      exact Shape.read_array_eq_ok_iff.mpr
        ⟨values, hagain fuel' tail (Nat.le_trans (fuelFor_append [0x5B] used) hfuel) htail, rfl⟩
  by_cases hobject : b = 0x7B
  · subst hobject
    cases depth with
    | zero =>
      rw [Shape.read, skipBlank_cons hspace] at hread
      cases hread
    | succ depth =>
      obtain ⟨slots, values, hmembers, hfinish, rfl⟩ := Shape.read_object_eq_ok_iff.mp hread
      obtain ⟨used, rfl, hvalue, hagain⟩ := readMembers_extent (hmember depth) hmembers
      refine ⟨0x7B :: used, rfl, fun fuel' hfuel tail _ => ?_, hvalue⟩
      exact Shape.read_object_eq_ok_iff.mpr ⟨slots, values, hagain fuel' tail hfuel, hfinish, rfl⟩
  · rw [Shape.read, skipBlank_cons hspace] at hread
    split at hread
    · rename_i heq
      exact absurd (List.cons.inj heq).1 hlist
    · rename_i heq
      exact absurd (List.cons.inj heq).1 hobject
    · cases hread

end Record

end Records

mutual

/-- **Shapes are read from one value only**: what a shape takes of a text does not depend on what
    follows it, and it is one value to the scanner. -/
theorem Shape.read_local : {α : Type} → (shape : Shape α) → (depth : Nat) →
    Local fun fuel => shape.read fuel depth
  | _, .scalar kind, _ => by
    simpa only [Shape.read] using kind.read_local
  | _, .any, depth => by
    simpa only [Shape.read] using Json.read_local depth
  | _, .option item, depth => Shape.read_option_local (item.read_local depth)
  | _, .list item, depth => Shape.read_list_local depth item.read_local
  | _, .choice _ _ variants _ _, depth => by
    simpa only [Shape.read] using readChoice_local variants depth
  | _, .record _ _ fields _ _ _, depth =>
    Shape.read_record_local depth fields.readMember_local fields.readItems_local

/-- And so are the members of records. -/
theorem Fields.readMember_local : {σ ρ : Type} → (fields : Fields σ ρ) → (depth : Nat) →
    LocalMember fun fuel key slots bs => fields.readMember key fuel depth slots bs
  | _, _, .nil, depth => Fields.readMember_nil_local depth
  | _, _, .cons _ shape others, depth =>
    Fields.readMember_cons_local (shape.read_local depth) (others.readMember_local depth)

/-- And their items, where they are arrays. -/
theorem Fields.readItems_local : {σ ρ : Type} → (fields : Fields σ ρ) → (depth : Nat) →
    fields.LocalItems depth
  | _, _, .nil, depth => Fields.readItems_nil_local depth
  | _, _, .cons _ shape others, depth =>
    Fields.readItems_cons_local (shape.read_local depth) (others.readItems_local depth)

end

end DialogStub.Json
