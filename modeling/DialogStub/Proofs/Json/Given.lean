import DialogStub.Proofs.Json.Edit

/-!
# What members give to fields

* `Fields.Gives` — the members of an object give the fields of a record their values, which is told
  field by field by `Fields.gives_cons_iff`;
* `Says`, `SaysFlag` — a text or a flag that may be missing, told from the values of its key;
* `Names` — one of a few names, which may be missing;
* `Note.gives_text_iff`, `Note.gives_flag_iff`, `Note.gives_choice_iff` — fields are given what is
  said, or named;
* `ObjectText.gives_text_iff`, `ObjectText.gives_flag_iff`, `ObjectText.gives_choice_iff` — the same
  for the first field of a record, with the other fields behind it.

A key that comes twice gives nothing, so that no record is read. Members of other keys do not count.
-/

namespace DialogStub.Json

variable {α σ ρ : Type}

/-! ### Field by field -/

/-- The members of an object give the fields of a record their values. -/
def Fields.Gives (fields : Fields σ ρ) (depth : Nat) (pairs : List (String × Bytes)) (parts : ρ) :
    Prop :=
  ∃ slots, fields.Gathers depth fields.empty pairs slots ∧ fields.finish slots = .ok parts

/-- The values of its key give a field its value. -/
def Note.Gives (note : Note α) (shape : Shape α) (depth : Nat) (values : List Bytes) (a : α) :
    Prop :=
  ∃ slot, shape.Fills depth none values slot ∧ note.settle shape slot = some a

section Fields

variable {note : Note α} {shape : Shape α} {others : Fields σ ρ} {depth : Nat}
  {pairs : List (String × Bytes)}

/-- Fields are given what their first one is given and what the others are given without it. -/
theorem Fields.gives_cons_iff {a : α} {parts : ρ} :
    (Fields.cons note shape others).Gives depth pairs (a, parts) ↔
      note.Gives shape depth (valuesOf note.key pairs) a ∧
        others.Gives depth (without note.key pairs) parts := by
  constructor
  · rintro ⟨⟨slot, slots⟩, hgathers, hfinish⟩
    obtain ⟨hfills, hothers⟩ := Fields.gathers_cons_iff.mp hgathers
    obtain ⟨hsettle, hfinish'⟩ := Fields.finish_cons_eq_ok_iff.mp hfinish
    exact ⟨⟨slot, hfills, hsettle⟩, slots, hothers, hfinish'⟩
  · rintro ⟨⟨slot, hfills, hsettle⟩, slots, hothers, hfinish⟩
    exact ⟨(slot, slots), Fields.gathers_cons_iff.mpr ⟨hfills, hothers⟩,
      Fields.finish_cons_eq_ok_iff.mpr ⟨hsettle, hfinish⟩⟩

/-- Members of no field do not count. -/
theorem Fields.gives_nil (h : ∀ pair ∈ pairs, IsValue pair.2) : Fields.nil.Gives depth pairs () :=
  ⟨(), Fields.gathers_nil h, rfl⟩

/-- A field gets what stands for it when it is missing, or what its only value spells. -/
theorem Note.gives_iff {values : List Bytes} {a : α} :
    note.Gives shape depth values a ↔
      (values = [] ∧ note.settle shape none = some a) ∨
        ∃ value, values = [value] ∧ Spells (fun fuel => shape.read fuel depth) value a := by
  constructor
  · rintro ⟨slot, hfills, hsettle⟩
    cases hfills with
    | none => exact .inl ⟨rfl, hsettle⟩
    | @one value a' hspells =>
      cases hsettle
      exact .inr ⟨value, rfl, hspells⟩
  · rintro (⟨rfl, hsettle⟩ | ⟨value, rfl, hspells⟩)
    · exact ⟨none, .none _, hsettle⟩
    · exact ⟨some a, .one hspells, rfl⟩

end Fields

section Records

variable {name : String} {doc : Option String} {fields : Fields σ ρ} {build : ρ → α}
  {parts : α → ρ} {law : ∀ a, build (parts a) = a} {o : ObjectText}

/-- A record is read from an object whose members give its parts. -/
theorem Shape.ofBytes_iff_gives {a : α} :
    (Shape.record name doc fields build parts law).ofBytes o.text = .ok a ↔
      ∃ values, fields.Gives 126 o.pairs values ∧ build values = a := by
  rw [Shape.ofBytes_text_iff]
  constructor
  · rintro ⟨slots, values, hgathers, hfinish, hbuild⟩
    exact ⟨values, ⟨slots, hgathers, hfinish⟩, hbuild⟩
  · rintro ⟨values, ⟨slots, hgathers, hfinish⟩, hbuild⟩
    exact ⟨slots, values, hgathers, hfinish, hbuild⟩

/-- The values of a key in an object. -/
def ObjectText.valuesOf (o : ObjectText) (key : String) : List Bytes :=
  Json.valuesOf key o.pairs

/-- What stands behind a key is one value, with nothing before it. -/
theorem ObjectText.isValue_of_mem_pairs {pair : String × Bytes} (h : pair ∈ o.pairs) :
    IsValue pair.2 ∧ Flush pair.2 := by
  obtain ⟨m, -, rfl⟩ := List.mem_map.mp h
  exact ⟨m.isValue, m.value_flush⟩

/-- Nothing stands before a value that is looked up. -/
theorem ObjectText.flush_of_mem_valuesOf {key : String} {value : Bytes}
    (h : value ∈ o.valuesOf key) : Flush value := by
  obtain ⟨pair, hpair, rfl⟩ := List.mem_map.mp h
  exact (o.isValue_of_mem_pairs (List.mem_filter.mp hpair).1).2

end Records

/-! ### Texts -/

/-- The text of a string: its spelling behind a quote. -/
def IsText (value : Bytes) (s : String) : Prop :=
  ∃ spelling, value = 0x22 :: spelling ∧ readString spelling = .ok (s, [])

/-- What the values of its key say of a text that may be missing: there is none, or one that is
    `null`, or one that is a text. -/
inductive Says : List Bytes → Option String → Prop where
  | missing : Says [] none
  | null : Says [Utf8.bytes "null"] none
  | text {value : Bytes} {s : String} (h : IsText value s) : Says [value] (some s)

/-- One value says nothing if it is `null`, or else the text that it spells. -/
theorem says_value_iff {value : Bytes} {field : Option String} :
    Says [value] field ↔
      (value = Utf8.bytes "null" ∧ field = none) ∨ ∃ s, field = some s ∧ IsText value s := by
  constructor
  · intro h
    cases h with
    | null => exact .inl ⟨rfl, rfl⟩
    | text htext => exact .inr ⟨_, rfl, htext⟩
  · rintro (⟨rfl, rfl⟩ | ⟨s, rfl, htext⟩)
    · exact .null
    · exact .text htext

/-- A key that comes twice says nothing. -/
theorem Says.length_le_one {values : List Bytes} {field : Option String} (h : Says values field) :
    values.length ≤ 1 := by
  cases h with
  | missing => exact Nat.zero_le 1
  | null => exact Nat.le_refl 1
  | text => exact Nat.le_refl 1

/-- What a local reader takes is settled by one run of it. -/
theorem Local.spells_iff {read : Nat → Bytes → Read α} (h : Local read) {value : Bytes} {a : α} :
    Spells read value a ↔ read (fuelFor value) value = .ok (a, []) := by
  constructor
  · intro hspells
    have hread := hspells (fuelFor value) (Nat.le_refl _) [] endsNumber_nil
    rwa [List.append_nil] at hread
  · exact h.spells

/-- No fixed word stands for a text. -/
theorem not_fixedWord_str {b : UInt8} {word s : String} : (b, word, Json.str s) ∉ fixedWords := by
  simp [fixedWords]

/-- No byte but a quote begins a text. -/
theorem readStart_eq_str_iff {b : UInt8} {bs rest : Bytes} {s : String} (hb : isSpace b = false) :
    readStart (b :: bs) = .ok (.scalar (.str s), rest) ↔
      b = 0x22 ∧ readString bs = .ok (s, rest) := by
  rw [readStart_eq_ok_iff hb]
  constructor
  · intro h
    cases h with
    | word hword => exact absurd hword not_fixedWord_str
    | str hquote hread => exact ⟨hquote, hread⟩
  · rintro ⟨hquote, hread⟩
    exact .str hquote hread

/-- A scalar that only one value stands for is read where this value begins. -/
theorem Scalar.read_eq_ok_iff {kind : Scalar α} {a : α} {bs rest : Bytes}
    (honly : ∀ value, kind.ofJson value = .ok a ↔ value = kind.toJson a) :
    kind.read bs = .ok (a, rest) ↔ readStart bs = .ok (.scalar (kind.toJson a), rest) := by
  constructor
  · intro h
    unfold Scalar.read at h
    -- Of what may begin here, only a scalar goes on, and only one of the right kind.
    split at h
    · cases h
    · rename_i found rest' hstart
      split at h
      · cases h
      rename_i hfound
      cases h
      rw [hstart, (honly found).mp hfound]
    · cases h
  · intro h
    rw [Scalar.read_eq h, (honly _).mpr rfl]

theorem Scalar.ofJson_text_iff {value : Json} {s : String} :
    Scalar.text.ofJson value = .ok s ↔ value = .str s := by
  cases value <;> simp [Scalar.ofJson]

theorem Scalar.ofJson_flag_iff {value : Json} {b : Bool} :
    Scalar.flag.ofJson value = .ok b ↔ value = .bool b := by
  cases value <;> simp [Scalar.ofJson]

/-- A text begins with its quote. -/
theorem read_text_iff {value rest : Bytes} (hflush : Flush value) {s : String} :
    Scalar.text.read value = .ok (s, rest) ↔
      ∃ spelling, value = 0x22 :: spelling ∧ readString spelling = .ok (s, rest) := by
  rw [Scalar.read_eq_ok_iff fun _ => Scalar.ofJson_text_iff, Scalar.toJson]
  cases value with
  | nil => exact iff_of_false nofun nofun
  | cons b more =>
    rw [readStart_eq_str_iff (flush_cons_iff.mp hflush)]
    constructor
    · rintro ⟨rfl, hread⟩
      exact ⟨more, rfl, hread⟩
    · rintro ⟨spelling, hvalue, hread⟩
      cases hvalue
      exact ⟨rfl, hread⟩

/-- A word is all of a text only if it is that text. -/
theorem literal_eq_ok_nil_iff {word bs : Bytes} : literal word bs = .ok [] ↔ bs = word := by
  constructor
  · intro h
    rw [literal_extent h, List.append_nil]
  · rintro rfl
    have hliteral := literal_append bs []
    rwa [List.append_nil] at hliteral

/-- An option of a scalar is spelt as `null`, or as the scalar where no `null` begins. -/
theorem spells_option_scalar_iff {item : Scalar α} {value : Bytes} (hflush : Flush value)
    {field : Option α} {depth : Nat} :
    Spells (fun fuel => (Shape.option (.scalar item)).read fuel depth) value field ↔
      (value = Utf8.bytes "null" ∧ field = none) ∨
        ∃ a, field = some a ∧ value.head? ≠ some 0x6E ∧ item.read value = .ok (a, []) := by
  rw [((Shape.option (.scalar item)).read_local depth).spells_iff]
  -- The first byte decides which of both it is: that of `null` leads to nothing else.
  cases value with
  | nil =>
    have hnil (fuel : Nat) {a : Option α} {rest : Bytes} :
        (Shape.option (.scalar item)).read fuel depth [] ≠ .ok (a, rest) :=
      ((Shape.option (.scalar item)).read_local depth).read_nil _ _
    refine iff_of_false (hnil _) ?_
    rintro (⟨hvalue, -⟩ | ⟨a, -, -, hread⟩)
    · cases hvalue
    · exact ((Shape.scalar item).read_local depth).read_nil 0 _ (by rw [Shape.read]; exact hread)
  | cons b more =>
    by_cases hnull : b = 0x6E
    · subst hnull
      rw [Shape.read_option_null]
      constructor
      · intro h
        split at h
        · cases h
        rename_i rest hliteral
        cases h
        exact .inl ⟨congrArg (0x6E :: ·) (literal_eq_ok_nil_iff.mp hliteral), rfl⟩
      · rintro (⟨hvalue, rfl⟩ | ⟨a, -, hhead, -⟩)
        · have hmore : more = Utf8.bytes "ull" := (List.cons.inj hvalue).2
          rw [literal_eq_ok_nil_iff.mpr hmore]
        · exact absurd rfl hhead
    · rw [Shape.read_option (skipBlank_cons (flush_cons_iff.mp hflush) more) hnull]
      have hread : (Shape.scalar item).read (fuelFor (b :: more)) depth (b :: more) =
          item.read (b :: more) := by
        rw [Shape.read]
      rw [hread]
      constructor
      · intro h
        split at h
        · cases h
        rename_i a rest hitem
        cases h
        exact .inr ⟨a, rfl, by simpa using hnull, hitem⟩
      · rintro (⟨hvalue, -⟩ | ⟨a, rfl, -, hitem⟩)
        · exact absurd (List.cons.inj hvalue).1 hnull
        · rw [hitem]

/-- An option of a text is spelt as `null`, or as the text. -/
theorem spells_option_text_iff {value : Bytes} (hflush : Flush value) {field : Option String}
    {depth : Nat} :
    Spells (fun fuel => (Shape.option .text).read fuel depth) value field ↔ Says [value] field := by
  rw [spells_option_scalar_iff hflush, says_value_iff]
  refine or_congr_right (exists_congr fun s => and_congr_right fun _ => ?_)
  rw [read_text_iff hflush]
  constructor
  · exact fun h => h.2
  · rintro ⟨spelling, rfl, hread⟩
    exact ⟨by simp, spelling, rfl, hread⟩

/-- A field that may be missing is given what is said of it, if this is told from one value at
    most. -/
theorem Note.gives_option_iff {item : Shape α} {said : List Bytes → Option α → Prop} {key : String}
    {values : List Bytes} {field : Option α} {depth : Nat}
    (missing : said [] field ↔ field = none)
    (spells : ∀ value ∈ values,
      (Spells (fun fuel => (Shape.option item).read fuel depth) value field ↔ said [value] field))
    (single : said values field → values.length ≤ 1) :
    (Note.plain key).Gives (.option item) depth values field ↔ said values field := by
  have hsettle : (Note.plain key).settle (.option item) none = some field ↔ field = none :=
    ⟨fun h => (Option.some.inj h).symm, fun h => congrArg some h.symm⟩
  rw [Note.gives_iff, hsettle]
  -- A field is looked up by its key: none, one or more values, and more are an error.
  match values with
  | [] => simp [missing]
  | [value] =>
    rw [← spells value List.mem_cons_self]
    simp
  | _ :: _ :: _ =>
    have htwo : ¬said _ field := fun h => by simpa using single h
    simp [htwo]

/-- **A text that may be missing** is given what is said of it. -/
theorem Note.gives_text_iff {key : String} {values : List Bytes}
    (hflush : ∀ value ∈ values, Flush value) {field : Option String} {depth : Nat} :
    (Note.plain key).Gives (.option .text) depth values field ↔ Says values field := by
  refine Note.gives_option_iff ⟨fun h => ?_, fun h => h ▸ .missing⟩
    (fun value hvalue => spells_option_text_iff (hflush value hvalue)) Says.length_le_one
  cases h
  rfl

/-! ### Flags -/

/-- What the values of its key say of a flag that may be missing: there is none, or one that is
    `null`, or one that is the flag. -/
inductive SaysFlag : List Bytes → Option Bool → Prop where
  | missing : SaysFlag [] none
  | null : SaysFlag [Utf8.bytes "null"] none
  | flag (b : Bool) : SaysFlag [(Json.bool b).print] (some b)

/-- One value says nothing of a flag if it is `null`, or else the flag that it spells. -/
theorem saysFlag_value_iff {value : Bytes} {field : Option Bool} :
    SaysFlag [value] field ↔
      (value = Utf8.bytes "null" ∧ field = none) ∨
        ∃ b, field = some b ∧ value = (Json.bool b).print := by
  constructor
  · intro h
    cases h with
    | null => exact .inl ⟨rfl, rfl⟩
    | flag b => exact .inr ⟨b, rfl, rfl⟩
  · rintro (⟨rfl, rfl⟩ | ⟨b, rfl, rfl⟩)
    · exact .null
    · exact .flag b

/-- A flag is said once at most. -/
theorem SaysFlag.length_le_one {values : List Bytes} {field : Option Bool}
    (h : SaysFlag values field) : values.length ≤ 1 := by
  cases h with
  | missing => exact Nat.zero_le 1
  | null => exact Nat.le_refl 1
  | flag => exact Nat.le_refl 1

/-- No flag is read but where its word stands. -/
theorem eq_of_readStart_bool {c : UInt8} {bs : Bytes} {b : Bool} (hc : isSpace c = false)
    (h : readStart (c :: bs) = .ok (.scalar (.bool b), [])) : c :: bs = (Json.bool b).print := by
  cases (readStart_eq_ok_iff hc).mp h with
  | word hword heq =>
    rw [List.append_nil] at heq
    rcases mem_fixedWords_iff.mp hword with ⟨-, -, ⟨⟩⟩ | ⟨rfl, rfl, ⟨⟩⟩ | ⟨rfl, rfl, ⟨⟩⟩
    all_goals
      rw [heq]
      rfl

/-- A flag is its word. -/
theorem read_flag_iff {value : Bytes} (hflush : Flush value) {b : Bool} :
    Scalar.flag.read value = .ok (b, []) ↔ value = (Json.bool b).print := by
  rw [Scalar.read_eq_ok_iff fun _ => Scalar.ofJson_flag_iff, Scalar.toJson]
  constructor
  · intro h
    cases value with
    | nil => cases h
    | cons c bs => exact eq_of_readStart_bool (flush_cons_iff.mp hflush) h
  · rintro rfl
    cases b <;> rfl

/-- An option of a flag is spelt as `null`, or as the word of the flag. -/
theorem spells_option_flag_iff {value : Bytes} (hflush : Flush value) {field : Option Bool}
    {depth : Nat} :
    Spells (fun fuel => (Shape.option .flag).read fuel depth) value field ↔
      SaysFlag [value] field := by
  rw [spells_option_scalar_iff hflush, saysFlag_value_iff]
  refine or_congr_right (exists_congr fun b => and_congr_right fun _ => ?_)
  rw [read_flag_iff hflush]
  refine and_iff_right_of_imp ?_
  rintro rfl
  cases b <;> decide

/-- **A flag that may be missing** is given what is said of it. -/
theorem Note.gives_flag_iff {key : String} {values : List Bytes}
    (hflush : ∀ value ∈ values, Flush value) {field : Option Bool} {depth : Nat} :
    (Note.plain key).Gives (.option .flag) depth values field ↔ SaysFlag values field := by
  refine Note.gives_option_iff ⟨fun h => ?_, fun h => h ▸ .missing⟩
    (fun value hvalue => spells_option_flag_iff (hflush value hvalue)) SaysFlag.length_le_one
  cases h
  rfl

/-! ### Names -/

section Names

variable {variants : List (String × α)}

/-- What the values of its key name: what stands for them if there is none, or the one that is a
    name, or an object with a name as its only key. -/
inductive Names (variants : List (String × α)) (default : α) : List Bytes → α → Prop where
  | missing : Names variants default [] default
  | text {value : Bytes} {name : String} {a : α} (h : IsText value name)
      (hlookup : variants.lookup name = some a) : Names variants default [value] a
  | object {rest : Bytes} {a : α} (h : readVariantObject variants rest = .ok (a, [])) :
      Names variants default [0x7B :: rest] a

/-- One value names a choice as a text, or as an object with one member. -/
theorem names_value_iff {default a : α} {value : Bytes} :
    Names variants default [value] a ↔
      (∃ name, IsText value name ∧ variants.lookup name = some a) ∨
        ∃ rest, value = 0x7B :: rest ∧ readVariantObject variants rest = .ok (a, []) := by
  constructor
  · intro h
    cases h with
    | text htext hlookup => exact .inl ⟨_, htext, hlookup⟩
    | object hread => exact .inr ⟨_, rfl, hread⟩
  · rintro (⟨name, htext, hlookup⟩ | ⟨rest, rfl, hread⟩)
    · exact .text htext hlookup
    · exact .object hread

/-- A key that comes twice names nothing. -/
theorem Names.length_le_one {default a : α} {values : List Bytes}
    (h : Names variants default values a) : values.length ≤ 1 := by
  cases h with
  | missing => exact Nat.zero_le 1
  | text => exact Nat.le_refl 1
  | object => exact Nat.le_refl 1

/-- No `null` is a name. -/
theorem not_names_null {default a : α} : ¬Names variants default [Utf8.bytes "null"] a := by
  rw [names_value_iff]
  rintro (⟨name, ⟨spelling, hvalue, -⟩, -⟩ | ⟨rest, hvalue, -⟩)
  · cases hvalue
  · cases hvalue

/-- A text names what its string is the name of. -/
theorem names_text_iff {default a : α} {value : Bytes} {s : String} (h : IsText value s) :
    Names variants default [value] a ↔ variants.lookup s = some a := by
  obtain ⟨spelling, rfl, hspelling⟩ := h
  rw [names_value_iff]
  constructor
  · rintro (⟨name, ⟨spelling', hvalue, hspelling'⟩, hlookup⟩ | ⟨rest, hvalue, -⟩)
    · cases hvalue
      rw [hspelling] at hspelling'
      cases hspelling'
      exact hlookup
    · cases hvalue
  · exact fun hlookup => .inl ⟨s, ⟨spelling, rfl, hspelling⟩, hlookup⟩

/-- A name is spelt as a text, or as an object. -/
theorem readChoice_iff {depth : Nat} {value : Bytes} (hflush : Flush value) {default a : α} :
    readChoice variants (depth + 1) value = .ok (a, []) ↔ Names variants default [value] a := by
  rw [names_value_iff]
  cases value with
  | nil =>
    -- Neither a name nor an object is empty.
    refine iff_of_false nofun ?_
    rintro (⟨name, ⟨spelling, hvalue, -⟩, -⟩ | ⟨rest, hvalue, -⟩)
    · cases hvalue
    · cases hvalue
  | cons b more =>
    rw [readChoice, skipBlank_cons (flush_cons_iff.mp hflush)]
    dsimp only
    constructor
    · intro h
      split at h
      · rename_i hquote
        split at h
        · cases h
        rename_i name a' rest hvariant
        cases h
        obtain ⟨hread, hlookup⟩ := readVariant_eq_ok_iff.mp hvariant
        exact .inl ⟨name, ⟨more, congrArg (· :: more) hquote, hread⟩, hlookup⟩
      split at h
      · rename_i hobject
        exact .inr ⟨more, congrArg (· :: more) hobject, h⟩
      · cases h
    · rintro (⟨name, ⟨spelling, hvalue, hread⟩, hlookup⟩ | ⟨rest, hvalue, hread⟩)
      · cases hvalue
        rw [if_pos rfl, readVariant_eq_ok_iff.mpr ⟨hread, hlookup⟩]
      · cases hvalue
        rw [if_neg (by decide), if_pos rfl]
        exact hread

/-- **One of a few names** is given as it is named. -/
theorem Note.gives_choice_iff {key name : String} {doc : Option String} {label : α → String}
    {law : ∀ a, variants.lookup (label a) = some a} {values : List Bytes}
    (hflush : ∀ value ∈ values, Flush value) {default a : α} {depth : Nat} :
    (Note.defaulting key default).Gives (.choice name doc variants label law) (depth + 1) values a ↔
      Names variants default values a := by
  have hspells {value : Bytes} (hvalue : Flush value) :
      Spells (fun fuel => (Shape.choice name doc variants label law).read fuel (depth + 1)) value
        a ↔ Names variants default [value] a := by
    rw [((Shape.choice name doc variants label law).read_local (depth + 1)).spells_iff, Shape.read]
    exact readChoice_iff hvalue
  rw [Note.gives_iff]
  constructor
  · rintro (⟨rfl, hsettle⟩ | ⟨value, rfl, h⟩)
    · cases hsettle
      exact .missing
    · exact (hspells (hflush value List.mem_cons_self)).mp h
  · intro h
    -- Where there is a value at all, there is one only.
    have hone {value : Bytes} (hvalues : values = [value])
        (h : Names variants default [value] a) :
        ∃ value, values = [value] ∧ Spells (fun fuel =>
          (Shape.choice name doc variants label law).read fuel (depth + 1)) value a :=
      ⟨value, hvalues, (hspells (hflush value (by simp [hvalues]))).mpr h⟩
    cases h with
    | missing => exact .inl ⟨rfl, rfl⟩
    | text htext hlookup => exact .inr (hone rfl (.text htext hlookup))
    | object hread => exact .inr (hone rfl (.object hread))

end Names

/-! ### Key by key -/

namespace ObjectText

variable {o : ObjectText} {keys : List String} {key : String} {others : Fields σ ρ} {parts : ρ}

/-- The members of an object whose keys are not among the given ones. -/
def pairsBut (o : ObjectText) (keys : List String) : List (String × Bytes) :=
  o.pairs.filter fun pair => pair.1 ∉ keys

/-- With no key left out, all pairs are left. -/
theorem pairsBut_nil (o : ObjectText) : o.pairsBut [] = o.pairs :=
  List.filter_eq_self.mpr fun _ _ => by simp

/-- Another key is left out behind the first ones. -/
theorem without_pairsBut (o : ObjectText) (key : String) (keys : List String) :
    without key (o.pairsBut keys) = o.pairsBut (key :: keys) := by
  rw [without, pairsBut, pairsBut, List.filter_filter]
  refine List.filter_congr fun pair _ => ?_
  simp

/-- What a key stands for does not depend on the other keys that are left out. -/
theorem valuesOf_pairsBut (o : ObjectText) (h : key ∉ keys) :
    Json.valuesOf key (o.pairsBut keys) = o.valuesOf key := by
  rw [valuesOf, Json.valuesOf, Json.valuesOf, pairsBut, List.filter_filter]
  congr 1
  refine List.filter_congr fun pair _ => ?_
  by_cases hkey : pair.1 = key
  · simp [hkey, h]
  · simp [hkey]

/-- A text that may be missing is given what its key says, if no field before it has this key. -/
theorem gives_text_iff (h : key ∉ keys) {field : Option String} {depth : Nat} :
    (Fields.cons (.plain key) (.option .text) others).Gives depth (o.pairsBut keys) (field, parts) ↔
      Says (o.valuesOf key) field ∧ others.Gives depth (o.pairsBut (key :: keys)) parts := by
  rw [Fields.gives_cons_iff]
  show (Note.plain key).Gives _ depth (Json.valuesOf key (o.pairsBut keys)) field ∧
    others.Gives depth (without key (o.pairsBut keys)) parts ↔ _
  rw [valuesOf_pairsBut o h, without_pairsBut,
    Note.gives_text_iff fun _ => flush_of_mem_valuesOf]

/-- A flag that may be missing is given what its key says, if no field before it has this key. -/
theorem gives_flag_iff (h : key ∉ keys) {field : Option Bool} {depth : Nat} :
    (Fields.cons (.plain key) (.option .flag) others).Gives depth (o.pairsBut keys) (field, parts) ↔
      SaysFlag (o.valuesOf key) field ∧ others.Gives depth (o.pairsBut (key :: keys)) parts := by
  rw [Fields.gives_cons_iff]
  show (Note.plain key).Gives _ depth (Json.valuesOf key (o.pairsBut keys)) field ∧
    others.Gives depth (without key (o.pairsBut keys)) parts ↔ _
  rw [valuesOf_pairsBut o h, without_pairsBut,
    Note.gives_flag_iff fun _ => flush_of_mem_valuesOf]

/-- One of a few names is given as its key names it, if no field before it has this key. -/
theorem gives_choice_iff (h : key ∉ keys) {name : String} {doc : Option String}
    {variants : List (String × α)} {label : α → String}
    {law : ∀ a, variants.lookup (label a) = some a} {default a : α} {depth : Nat} :
    (Fields.cons (.defaulting key default) (.choice name doc variants label law) others).Gives
        (depth + 1) (o.pairsBut keys) (a, parts) ↔
      Names variants default (o.valuesOf key) a ∧
        others.Gives (depth + 1) (o.pairsBut (key :: keys)) parts := by
  rw [Fields.gives_cons_iff]
  show (Note.defaulting key default).Gives _ (depth + 1) (Json.valuesOf key (o.pairsBut keys)) a ∧
    others.Gives (depth + 1) (without key (o.pairsBut keys)) parts ↔ _
  rw [valuesOf_pairsBut o h, without_pairsBut,
    Note.gives_choice_iff fun _ => flush_of_mem_valuesOf]

theorem gives_nil {depth : Nat} : Fields.nil.Gives depth (o.pairsBut keys) () :=
  Fields.gives_nil fun _ hpair => (isValue_of_mem_pairs (List.mem_filter.mp hpair).1).1

end ObjectText

/-- **Two texts.** A record of two texts that may be missing is read from what their keys say. -/
theorem Shape.ofBytes_two_texts_iff {o : ObjectText} {name : String} {doc : Option String}
    {first second : String} (h : second ≠ first)
    {build : Option String × Option String × Unit → α}
    {parts : α → Option String × Option String × Unit} {law : ∀ a, build (parts a) = a}
    (unique : ∀ p, parts (build p) = p) {a : α} :
    (Shape.record name doc (.cons (.plain first) (.option .text) <|
        .cons (.plain second) (.option .text) .nil) build parts law).ofBytes o.text = .ok a ↔
      Says (o.valuesOf first) (parts a).1 ∧ Says (o.valuesOf second) (parts a).2.1 := by
  rw [Shape.ofBytes_iff_gives, ← o.pairsBut_nil]
  constructor
  · rintro ⟨⟨a, b, ⟨⟩⟩, hgives, rfl⟩
    rw [ObjectText.gives_text_iff (by simp), ObjectText.gives_text_iff (by simpa using h)] at hgives
    rw [unique]
    exact ⟨hgives.1, hgives.2.1⟩
  · rintro ⟨hfirst, hsecond⟩
    refine ⟨parts a, ?_, law a⟩
    -- The second key is looked up without the first, which changes nothing as they differ.
    rw [show parts a = ((parts a).1, (parts a).2.1, ()) from rfl,
      ObjectText.gives_text_iff (by simp), ObjectText.gives_text_iff (by simpa using h)]
    exact ⟨hfirst, hsecond, ObjectText.gives_nil⟩

end DialogStub.Json
