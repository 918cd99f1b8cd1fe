import DialogStub.Proofs.Json.Brackets
import DialogStub.Proofs.Json.Grammar

/-!
# Members that are found by their keys

* `Fields.Has`, `Fields.Nth` — a field of a record, by its key and by its place;
* `Fields.Has.gives_iff` — what a record is given by members of one key goes to one field;
* `Fields.gives_of_perm` — the order of members counts within one key only;
* `Fields.Harmless` — members may come in another order, members of unknown keys may come in, and so
  may a `null` for an option that is missing;
* `Fields.Harmless.gives_iff` — this makes no difference to the record;
* `Fields.Fatal.not_gives` — but without a member that it needs, or with one that comes twice, there
  is no record.
-/

namespace DialogStub.Json

open Utf8 (Valid)

/-! ### Fields -/

/-- A field of a record, the first one with its key. -/
inductive Fields.Has {α : Type} (note : Note α) (shape : Shape α) :
    {σ ρ : Type} → Fields σ ρ → Prop where
  | here {σ ρ : Type} {others : Fields σ ρ} : Has note shape (.cons note shape others)
  | there {β σ ρ : Type} {first : Note β} {shape' : Shape β} {others : Fields σ ρ}
      (hkey : first.key ≠ note.key) (h : Has note shape others) :
      Has note shape (.cons first shape' others)

/-- The shape of the field at a place of a record, counted from zero. -/
inductive Fields.Nth {α : Type} (shape : Shape α) : {σ ρ : Type} → Fields σ ρ → Nat → Prop where
  | zero {σ ρ : Type} {note : Note α} {others : Fields σ ρ} : Nth shape (.cons note shape others) 0
  | succ {β σ ρ : Type} {note : Note β} {shape' : Shape β} {others : Fields σ ρ} {n : Nat}
      (h : Nth shape others n) : Nth shape (.cons note shape' others) (n + 1)

mutual

/-- Wherever a value of this shape holds a field that is an option, it has no value when it is
    missing. -/
def Shape.Nullable : {α : Type} → Shape α → Prop
  | _, .option item => item.Nullable
  | _, .list item => item.Nullable
  | _, .record _ _ fields _ _ _ => fields.Nullable
  | _, _ => True

/-- The same of the fields of a record. -/
def Fields.Nullable : {σ ρ : Type} → Fields σ ρ → Prop
  | _, _, .nil => True
  | _, _, .cons note shape rest =>
    (∀ a ∈ shape.absent, note.settle shape none = some a) ∧ shape.Nullable ∧ rest.Nullable

end

section Fields

variable {α σ ρ : Type} {note : Note α} {shape : Shape α} {fields : Fields σ ρ} {depth : Nat}
  {pairs pairs' : List (String × Bytes)}

/-- A field of a nullable record can do without a value, and so can its parts. -/
theorem Fields.Has.nullable (h : fields.Has note shape) (hnullable : fields.Nullable) :
    (∀ a ∈ shape.absent, note.settle shape none = some a) ∧ shape.Nullable := by
  induction h with
  | here => exact ⟨hnullable.1, hnullable.2.1⟩
  | there _ _ ih => exact ih hnullable.2.2

/-- So can an item of the record in the form of an array. -/
theorem Fields.Nth.nullable {n : Nat} (h : fields.Nth shape n) (hnullable : fields.Nullable) :
    shape.Nullable := by
  induction h with
  | zero => exact hnullable.2.1
  | succ _ ih => exact ih hnullable.2.2

/-- **One key, one field.** Where members differ in one key only, it is all that counts what they
    give to its field. By induction on the way to the field. -/
theorem Fields.Has.gives_iff (h : fields.Has note shape)
    (hothers : without note.key pairs = without note.key pairs')
    (hown : ∀ a, note.Gives shape depth (valuesOf note.key pairs) a ↔
      note.Gives shape depth (valuesOf note.key pairs') a) {parts : ρ} :
    fields.Gives depth pairs parts ↔ fields.Gives depth pairs' parts := by
  induction h generalizing pairs pairs' with
  | here =>
    obtain ⟨a, parts⟩ := parts
    rw [Fields.gives_cons_iff, Fields.gives_cons_iff, hown, hothers]
  | @there β σ ρ first shape' others hkey _ ih =>
    obtain ⟨a, parts⟩ := parts
    -- The key of the first field is another one, so that its values are the same.
    have hvalues : valuesOf first.key pairs = valuesOf first.key pairs' := by
      rw [← valuesOf_without hkey.symm pairs, hothers, valuesOf_without hkey.symm]
    rw [Fields.gives_cons_iff, Fields.gives_cons_iff, hvalues]
    refine and_congr_right fun _ => ih ?_ ?_
    · rw [without_comm, hothers, without_comm]
    · simpa only [valuesOf_without hkey] using hown

/-- A record that is given has been given each of its fields. -/
theorem Fields.Has.exists_gives (h : fields.Has note shape) {parts : ρ}
    (hgives : fields.Gives depth pairs parts) :
    ∃ a, note.Gives shape depth (valuesOf note.key pairs) a := by
  induction h generalizing pairs with
  | here => exact ⟨parts.1, (Fields.gives_cons_iff.mp hgives).1⟩
  | there hkey _ ih =>
    obtain ⟨a, ha⟩ := ih (Fields.gives_cons_iff.mp hgives).2
    rw [valuesOf_without hkey] at ha
    exact ⟨a, ha⟩

/-- A field takes one value, and nothing beside it. -/
theorem Note.gives_append_cons_iff {before after : List Bytes} {value : Bytes} {a : α} :
    note.Gives shape depth (before ++ value :: after) a ↔
      before = [] ∧ after = [] ∧ Spells (fun fuel => shape.read fuel depth) value a := by
  rw [Note.gives_iff]
  constructor
  · rintro (⟨hnil, -⟩ | ⟨value', hsingle, hspells⟩)
    · simp at hnil
    · obtain ⟨rfl, hvalue⟩ := List.append_eq_singleton_iff.mp hsingle |>.resolve_right (by simp)
      cases hvalue
      exact ⟨rfl, rfl, hspells⟩
  · rintro ⟨rfl, rfl, hspells⟩
    exact .inr ⟨value, rfl, hspells⟩

/-- Values in another order give the same, for there is one at most. -/
theorem Note.Gives.perm {values values' : List Bytes} (hperm : values.Perm values') {a : α}
    (h : note.Gives shape depth values a) : note.Gives shape depth values' a := by
  rw [Note.gives_iff] at h
  rcases h with ⟨rfl, hsettle⟩ | ⟨value, rfl, hspells⟩
  · rw [hperm.nil_eq.symm]
    exact Note.gives_iff.mpr (.inl ⟨rfl, hsettle⟩)
  · rw [List.perm_singleton.mp hperm.symm]
    exact Note.gives_iff.mpr (.inr ⟨value, rfl, hspells⟩)

theorem valuesOf_without_self (key : String) (pairs : List (String × Bytes)) :
    valuesOf key (without key pairs) = [] := by
  simp [valuesOf, without, List.filter_filter]

/-- **The order of members** counts within one key only, and members of no field do not count. By
    recursion on the fields. -/
theorem Fields.gives_of_perm : {σ ρ : Type} → (fields : Fields σ ρ) →
    {pairs pairs' : List (String × Bytes)} → {parts : ρ} →
    (∀ key ∈ fields.keys, (valuesOf key pairs).Perm (valuesOf key pairs')) →
    (∀ pair ∈ pairs', IsValue pair.2) → fields.Gives depth pairs parts →
    fields.Gives depth pairs' parts
  | _, _, .nil, _, _, _, _, hvalues, _ => Fields.gives_nil hvalues
  | _, _, .cons note shape others, pairs, pairs', (a, parts), hperm, hvalues, hgives => by
    obtain ⟨hown, hothers⟩ := Fields.gives_cons_iff.mp hgives
    refine Fields.gives_cons_iff.mpr ⟨hown.perm (hperm _ List.mem_cons_self), ?_⟩
    refine others.gives_of_perm (fun key hkey => ?_)
      (fun pair hpair => hvalues pair (List.mem_filter.mp hpair).1) hothers
    by_cases heq : note.key = key
    · -- A field that has the key of one before it gets nothing, in whatever order.
      subst heq
      rw [valuesOf_without_self, valuesOf_without_self]
    · rw [valuesOf_without heq, valuesOf_without heq]
      exact hperm key (List.mem_cons_of_mem _ hkey)

end Fields

/-! ### Members -/

section Members

variable {key : String} {before after : List MemberText} {m : MemberText}

/-- A member of the key is one of its values. -/
theorem valuesOf_member (hkey : m.key = key) :
    valuesOf key ((before ++ m :: after).map MemberText.pair) =
      valuesOf key (before.map MemberText.pair) ++
        m.value :: valuesOf key (after.map MemberText.pair) := by
  subst hkey
  rw [List.map_append, List.map_cons, MemberText.pair, valuesOf_append, valuesOf_cons_self]

/-- And it is none of the others. -/
theorem without_member (hkey : m.key = key) :
    without key ((before ++ m :: after).map MemberText.pair) =
      without key ((before ++ after).map MemberText.pair) := by
  subst hkey
  rw [List.map_append, List.map_append, List.map_cons, MemberText.pair, without_append,
    without_append, without_cons_self]

/-- A member of another key does not count. -/
theorem valuesOf_other (hkey : m.key ≠ key) :
    valuesOf key ((before ++ m :: after).map MemberText.pair) =
      valuesOf key ((before ++ after).map MemberText.pair) := by
  rw [List.map_append, List.map_append, List.map_cons, MemberText.pair, valuesOf_append,
    valuesOf_append, valuesOf_cons_of_ne hkey]

theorem isValue_of_mem_pairs {members : List MemberText} :
    ∀ pair ∈ members.map MemberText.pair, IsValue pair.2 :=
  List.forall_mem_map.mpr fun m _ => m.isValue

end Members

section Changes

variable {σ ρ : Type}

/-- **What does not count** in the members of a record. -/
inductive Fields.Harmless (fields : Fields σ ρ) : List MemberText → List MemberText → Prop where
  /-- The members come in another order. -/
  | permuted {members members' : List MemberText} (h : members.Perm members') :
      Harmless fields members members'
  /-- A member comes in at any place, of which no field has the key. -/
  | inserted {before after : List MemberText} {m : MemberText} (unknown : m.key ∉ fields.keys)
      (value : WellFormed m.value) : Harmless fields (before ++ after) (before ++ m :: after)
  /-- An option that is missing is `null`. -/
  | nulled {α : Type} {note : Note (Option α)} {item : Shape α}
      (h : fields.Has note (.option item)) {before after : List MemberText} {m : MemberText}
      (key_eq : m.key = note.key) (missing : ∀ k ∈ before ++ after, k.key ≠ note.key)
      (value_eq : m.value = Utf8.bytes "null") :
      Harmless fields (before ++ after) (before ++ m :: after)

/-- **What spoils a record.** -/
inductive Fields.Fatal (fields : Fields σ ρ) : List MemberText → List MemberText → Prop where
  /-- A member is taken out, and its field has no value without it. -/
  | removed {α : Type} {note : Note α} {shape : Shape α} (h : fields.Has note shape)
      (no_default : note.default = none) (no_option : shape.absent = none)
      {before after : List MemberText} {m : MemberText} (key_eq : m.key = note.key) :
      Fatal fields (before ++ m :: after) (before ++ after)
  /-- A member comes in with a key that is there. -/
  | repeated {before after : List MemberText} {m k : MemberText} (known : m.key ∈ fields.keys)
      (there : k ∈ before ++ after) (key_eq : k.key = m.key) :
      Fatal fields (before ++ after) (before ++ m :: after)

variable {fields : Fields σ ρ} {members members' : List MemberText} {depth : Nat} {parts : ρ}

/-- An option is none if it is missing, and if it is `null`. -/
theorem Note.gives_null_iff {α : Type} {note : Note (Option α)} {item : Shape α}
    (hnullable : ∀ a ∈ (Shape.option item).absent, note.settle (.option item) none = some a)
    {field : Option α} :
    note.Gives (.option item) depth [] field ↔
      note.Gives (.option item) depth [Utf8.bytes "null"] field := by
  have hsettle : note.settle (.option item) none = some none := hnullable none rfl
  rw [Note.gives_iff, Note.gives_iff, hsettle]
  simp [Shape.spells_null_iff, eq_comm]

/-- **Harmless changes** make no difference to what a record is given. -/
theorem Fields.Harmless.gives_iff (h : fields.Harmless members members')
    (hnullable : fields.Nullable) :
    fields.Gives depth (members.map MemberText.pair) parts ↔
      fields.Gives depth (members'.map MemberText.pair) parts := by
  -- What fields get depends on the values of each key, and not on the order of the members.
  have hequal {left right : List MemberText}
      (hperm : ∀ key ∈ fields.keys, (valuesOf key (left.map MemberText.pair)).Perm
        (valuesOf key (right.map MemberText.pair))) :
      fields.Gives depth (left.map MemberText.pair) parts ↔
        fields.Gives depth (right.map MemberText.pair) parts :=
    ⟨fields.gives_of_perm hperm isValue_of_mem_pairs,
      fields.gives_of_perm (fun key hkey => (hperm key hkey).symm) isValue_of_mem_pairs⟩
  cases h with
  | permuted h =>
    refine hequal fun key _ => ?_
    exact ((h.map MemberText.pair).filter _).map Prod.snd
  | @inserted before after m unknown =>
    refine hequal fun key hkey => ?_
    have hne : m.key ≠ key := by
      rintro rfl
      exact unknown hkey
    rw [valuesOf_other hne]
  | @nulled α note item h before after m key_eq missing value_eq =>
    -- The field gets `null` instead of nothing, and all others get what they got.
    refine h.gives_iff (without_member key_eq).symm fun field => ?_
    have hnil := Puts.valuesOf_eq_nil_iff.mpr missing
    rw [List.map_append, valuesOf_append, List.append_eq_nil_iff] at hnil
    rw [valuesOf_member key_eq, value_eq, List.map_append, valuesOf_append, hnil.1, hnil.2]
    exact Note.gives_null_iff (h.nullable hnullable).1

/-- What comes in harmlessly is UTF-8. -/
theorem Fields.Harmless.valid_iff (h : fields.Harmless members members') :
    (∀ m ∈ members, Valid m.value) ↔ ∀ m ∈ members', Valid m.value := by
  have hinsert {before after : List MemberText} {m : MemberText} (hm : Valid m.value) :
      (∀ k ∈ before ++ after, Valid k.value) ↔ ∀ k ∈ before ++ m :: after, Valid k.value := by
    simp only [List.forall_mem_append, List.forall_mem_cons, hm, true_and]
  cases h with
  | permuted h => simp only [h.mem_iff]
  | inserted _ value => exact hinsert value.sound.valid
  | nulled _ _ _ value_eq =>
    refine hinsert ?_
    rw [value_eq]
    exact Utf8.valid_encode _

/-- **Fatal changes** leave no record. -/
theorem Fields.Fatal.not_gives (h : fields.Fatal members members')
    (hgives : fields.Gives depth (members.map MemberText.pair) parts) {depth' : Nat} {parts' : ρ} :
    ¬fields.Gives depth' (members'.map MemberText.pair) parts' := by
  intro hgives'
  cases h with
  | @removed α note shape h no_default no_option before after m key_eq =>
    -- The member was the only one of its key.
    obtain ⟨a, ha⟩ := h.exists_gives hgives
    rw [valuesOf_member key_eq, Note.gives_append_cons_iff] at ha
    obtain ⟨a', ha'⟩ := h.exists_gives hgives'
    rw [List.map_append, valuesOf_append, ha.1, ha.2.1, Note.gives_iff] at ha'
    rcases ha' with ⟨-, hsettle⟩ | ⟨value, hvalue, -⟩
    · simp [Note.settle, no_default, no_option] at hsettle
    · cases hvalue
  | @repeated before after m k known there key_eq =>
    obtain ⟨slots, hgathers, -⟩ := hgives'
    have hle := fields.length_valuesOf_le known hgathers
    have hne : valuesOf m.key ((before ++ after).map MemberText.pair) ≠ [] := by
      intro hnil
      exact Puts.valuesOf_eq_nil_iff.mp hnil k there key_eq
    rw [List.map_append, valuesOf_append, ← List.length_pos_iff, List.length_append] at hne
    rw [valuesOf_member rfl, List.length_append, List.length_cons] at hle
    omega

end Changes

end DialogStub.Json
