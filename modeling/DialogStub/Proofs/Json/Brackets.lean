import DialogStub.Proofs.Json.Form
import Mathlib.Data.List.Forall2

/-!
# What arrays and objects spell

* `Json.readItems_eq_ok_iff`, `Json.readMembers_eq_ok_iff` — the readers of items and of members
  take an array, or an object, apart in the way in which it is written;
* `Shape.spells_list_iff`, `Json.spells_arr_iff` — an array spells the list of what its items spell;
* `Shape.spells_array_iff` — or a record, whose fields come in order;
* `Shape.spells_object_iff` — an object spells the record to whose fields its members give values;
* `Json.spells_obj_iff`, `Shape.spells_variant_iff` — or any value, or a name;
* `Shape.spells_some_iff` — an option is spelt as what it holds.

From here on it is told by the values of items and members what a text spells: the white space
around them is gone.
-/

namespace DialogStub.Json

/-! ### Readers of items and of members -/

section Readers

variable {α σ : Type} {inner : Bytes} {items : List ItemText} {members : List MemberText}

/-- **An array is read item by item**, each from its value. -/
theorem readItems_eq_ok_iff {read : Nat → Bytes → Read α} (hlocal : Local read)
    (hinner : Blank inner) {fuel : Nat} (hfuel : fuelFor (brackets inner items) ≤ fuel)
    {tail rest : Bytes} {as : List α} :
    readItems (read fuel) fuel 0 [] (inner ++ itemsText items tail) = .ok (as, rest) ↔
      List.Forall₂ (Spells read) (items.map ItemText.value) as ∧ rest = tail := by
  constructor
  · intro h
    obtain ⟨blank, parts, hblank, hspells, rfl, htext⟩ := exists_items_of_readItems hlocal h
    obtain ⟨hvalues, rfl⟩ := values_eq_of_itemsText hinner hblank htext
    refine ⟨?_, rfl⟩
    rw [hvalues]
    simpa [List.forall₂_map_left_iff, List.forall₂_map_right_iff, List.forall₂_same] using hspells
  · rintro ⟨hspells, rfl⟩
    rw [List.forall₂_map_left_iff, List.forall₂_iff_zip] at hspells
    obtain ⟨hlength, hzip⟩ := hspells
    -- Each item goes with what it spells.
    have hitems : (items.zip as).map Prod.fst = items :=
      List.map_fst_zip (Nat.le_of_eq hlength)
    have hread :=
      readItems_brackets (fun item hitem => hzip hitem) hinner (hitems.symm ▸ hfuel) rest
    rwa [hitems, List.map_snd_zip (Nat.le_of_eq hlength.symm)] at hread

/-- **An object is read member by member.** -/
theorem readMembers_eq_ok_iff {member : Nat → String → σ → Bytes → Read σ}
    (hlocal : LocalMember member) (hinner : Blank inner) {fuel : Nat}
    (hfuel : fuelFor (braces inner members) ≤ fuel) {state last : σ} {tail rest : Bytes} :
    readMembers (member fuel) fuel true state (inner ++ membersText members tail)
        = .ok (last, rest) ↔
      Runs member state (members.map MemberText.pair) last ∧ rest = tail := by
  constructor
  · intro h
    exact runs_of_readMembers hlocal hinner h
  · rintro ⟨hruns, rfl⟩
    exact readMembers_object hruns hinner hfuel rest

end Readers

/-! ### Arrays -/

section Arrays

variable {α β σ ρ : Type} {inner : Bytes} {items : List ItemText} {depth : Nat}

/-- **A list** is spelt by the items of an array. -/
theorem Shape.spells_list_iff {item : Shape α} (hinner : Blank inner) {as : List α} :
    Spells (fun fuel => (Shape.list item).read fuel (depth + 1)) (brackets inner items) as ↔
      List.Forall₂ (Spells fun fuel => item.read fuel depth) (items.map ItemText.value) as := by
  rw [((Shape.list item).read_local (depth + 1)).spells_iff]
  show (Shape.list item).read _ (depth + 1) (0x5B :: (inner ++ itemsText items [])) = _ ↔ _
  rw [Shape.read_list, readItems_eq_ok_iff (item.read_local depth) hinner (Nat.le_refl _)]
  exact and_iff_left rfl

/-- Any value that an array spells is the list of what its items spell. -/
theorem spells_arr_iff (hinner : Blank inner) {j : Json} :
    Spells (fun fuel => Json.read fuel (depth + 1)) (brackets inner items) j ↔
      ∃ js, List.Forall₂ (Spells fun fuel => Json.read fuel depth) (items.map ItemText.value) js ∧
        j = .arr js := by
  -- The array is read to its end, and all of its items are.
  have hitems (js : List Json) (rest : Bytes) : _ ↔ List.Forall₂ (Spells fun fuel =>
      Json.read fuel depth) (items.map ItemText.value) js ∧ rest = [] :=
    readItems_eq_ok_iff (read_local depth) hinner (Nat.le_refl (fuelFor (brackets inner items)))
  rw [(read_local (depth + 1)).spells_iff]
  show Json.read _ (depth + 1) (0x5B :: (inner ++ itemsText items [])) = _ ↔ _
  rw [read_list]
  constructor
  · intro h
    split at h
    · cases h
    rename_i js rest hread
    cases h
    exact ⟨js, ((hitems js _).mp hread).1, rfl⟩
  · rintro ⟨js, hspells, rfl⟩
    rw [(hitems js []).mpr ⟨hspells, rfl⟩]

/-- The values of an array give the fields of a record their values, in order. Fields at which the
    array has ended have the values that stand for them. -/
def Fields.Lists : {σ ρ : Type} → Fields σ ρ → (depth : Nat) → List Bytes → ρ → Prop
  | _, _, .nil, _, values, _ => values = []
  | _, _, .cons note _ rest, depth, [], (a, parts) =>
    note.default = some a ∧ rest.Lists depth [] parts
  | _, _, .cons _ shape rest, depth, value :: values, (a, parts) =>
    Spells (fun fuel => shape.read fuel depth) value a ∧ rest.Lists depth values parts

/-- Fields are read from the values that an array lists. By recursion on the fields. -/
theorem Fields.Lists.fromArray : {σ ρ : Type} → (fields : Fields σ ρ) → {name : String} →
    {size index fuel : Nat} → {items : List ItemText} → {parts : ρ} →
    fields.Lists depth (items.map ItemText.value) parts →
    (∀ i ∈ items, fuelFor i.value ≤ fuel) → {blank : Bytes} → Blank blank → (rest : Bytes) →
    fields.FromArray name size index fuel depth (blank ++ itemsFrom index items rest) parts rest
  | _, _, .nil, _, _, _, _, items, _, h, _, _, hblank, rest => by
    obtain rfl : items = [] := List.map_eq_nil_iff.mp h
    rw [itemsFrom_nil]
    exact ⟨_, rfl, closeList_append hblank rest⟩
  | _, _, .cons note shape others, name, size, index, fuel, items, (a, parts), h, hfuel, blank,
      hblank, rest => by
    cases items with
    | nil =>
      -- The array has ended before this field, and it has ended before all others too.
      obtain ⟨hdefault, hothers⟩ := h
      replace hothers : others.Lists depth (([] : List ItemText).map ItemText.value) parts :=
        hothers
      obtain ⟨mid, hread, hclose⟩ :
          others.FromArray name size (index + 1) fuel depth (blank ++ itemsFrom (index + 1) [] rest)
            parts rest :=
        Fields.Lists.fromArray others hothers hfuel hblank rest
      rw [itemsFrom_nil] at hread ⊢
      exact ⟨mid, (Fields.readItems_cons_close hblank rest).mpr ⟨hdefault, hread⟩, hclose⟩
    | cons i items =>
      obtain ⟨hspells, hothers⟩ := h
      obtain ⟨hi, hfuels⟩ := List.forall_mem_cons.mp hfuel
      obtain ⟨front, htext, hbefore⟩ := @exists_front index _ hblank i items rest
      obtain ⟨mid, hread, hclose⟩ :
          others.FromArray name size (index + 1) fuel depth
            (i.trail ++ itemsFrom (index + 1) items rest) parts rest :=
        Fields.Lists.fromArray others hothers hfuels i.trail_blank rest
      have hitem := hspells fuel hi _
        (i.trail_blank.endsNumber (endsNumber_itemsFrom_succ index items rest))
      obtain ⟨b, more, hbegin, hspace, hne⟩ := i.exists_begin
      dsimp only at hitem
      rw [hbegin, List.cons_append] at hitem
      rw [htext, hbegin, List.cons_append]
      exact ⟨mid, (Fields.readItems_cons_item (hbefore b hspace hne) _).mpr ⟨_, hitem, hread⟩,
        hclose⟩

/-- What fields take from an array is what its values list. By recursion on the fields. -/
theorem Fields.exists_items_of_fromArray : {σ ρ : Type} → (fields : Fields σ ρ) → {name : String} →
    {size index fuel : Nat} → {bs rest : Bytes} → {parts : ρ} →
    fields.FromArray name size index fuel depth bs parts rest →
    ∃ blank items, Blank blank ∧ fields.Lists depth (items.map ItemText.value) parts ∧
      bs = blank ++ itemsFrom index items rest
  | _, _, .nil, _, _, index, _, _, rest, _, ⟨mid, hread, hclose⟩ => by
    cases hread
    obtain ⟨blank, hblank, rfl⟩ := closeList_extent hclose
    exact ⟨blank, [], hblank, rfl, by rw [itemsFrom_nil]⟩
  | _, _, .cons note shape others, name, size, index, fuel, bs, rest, (a, parts),
      ⟨mid, hread, hclose⟩ => by
    rcases Fields.cases_of_readItems_cons hread with ⟨blank, more, hblank, rfl⟩ |
      ⟨front, b, more, hbefore, rfl⟩
    · -- The array has ended.
      obtain ⟨hdefault, hothers⟩ := (Fields.readItems_cons_close hblank more).mp hread
      obtain ⟨blank', items, hblank', hlists, htext⟩ :=
        Fields.exists_items_of_fromArray others ⟨mid, hothers, hclose⟩
      have hafter := eq_of_blank_append hblank hblank' (flush_cons_iff.mpr (by decide))
        (flush_afterItems (items.map ItemText.text) rest) htext
      -- No comma stands where the array has ended.
      cases items with
      | nil =>
        rw [itemsFrom_nil] at htext
        exact ⟨blank', [], hblank', ⟨hdefault, hlists⟩, by rw [htext, itemsFrom_nil]⟩
      | cons i items => cases hafter
    · obtain ⟨after, hitem, hothers⟩ := (Fields.readItems_cons_item hbefore more).mp hread
      obtain ⟨trail, items, htrail, hlists, rfl⟩ :=
        Fields.exists_items_of_fromArray others ⟨mid, hothers, hclose⟩
      obtain ⟨value, hvalue, hspells, hisValue⟩ := (shape.read_local depth).extent hitem
      have hflush : Flush value := by
        rw [← flush_append_iff hisValue.ne_nil, ← hvalue]
        exact flush_cons_iff.mpr hbefore.space
      obtain ⟨blank, i, hblank, hi, htext⟩ := hbefore.exists_item hflush hisValue htrail items rest
      exact ⟨blank, i :: items, hblank, ⟨hi.symm ▸ hspells, hlists⟩, by rw [hvalue, htext]⟩

section Records

variable {name : String} {doc : Option String} {fields : Fields σ ρ} {build : ρ → α} {parts : α → ρ}
  {law : ∀ a, build (parts a) = a}

/-- A record is spelt by an array that lists its parts. -/
theorem Shape.spells_array_iff (hinner : Blank inner) {a : α} :
    Spells (fun fuel => (Shape.record name doc fields build parts law).read fuel (depth + 1))
        (brackets inner items) a ↔
      ∃ values, fields.Lists depth (items.map ItemText.value) values ∧ build values = a := by
  rw [((Shape.record name doc fields build parts law).read_local (depth + 1)).spells_iff]
  show Shape.read _ _ (depth + 1) (0x5B :: (inner ++ itemsText items [])) = _ ↔ _
  rw [Shape.read_array_eq_ok_iff]
  constructor
  · -- The items that were read are those of the array, since it is taken apart in one way.
    rintro ⟨values, hfrom, rfl⟩
    obtain ⟨blank, items', hblank, hlists, htext⟩ := fields.exists_items_of_fromArray hfrom
    obtain ⟨hvalues, -⟩ := values_eq_of_itemsText hinner hblank htext
    exact ⟨values, hvalues ▸ hlists, rfl⟩
  · rintro ⟨values, hlists, rfl⟩
    exact ⟨values, hlists.fromArray fields (fuelFor_items (Nat.le_refl _)).2 hinner [], rfl⟩

end Records

end Arrays

/-! ### Objects -/

section Objects

variable {α σ ρ : Type} {inner : Bytes} {members : List MemberText} {depth : Nat}

/-- **A record** is spelt by an object whose members give its parts. -/
theorem Shape.spells_object_iff {name : String} {doc : Option String} {fields : Fields σ ρ}
    {build : ρ → α} {parts : α → ρ} {law : ∀ a, build (parts a) = a} (hinner : Blank inner)
    {a : α} :
    Spells (fun fuel => (Shape.record name doc fields build parts law).read fuel (depth + 1))
        (braces inner members) a ↔
      ∃ values, fields.Gives depth (members.map MemberText.pair) values ∧ build values = a := by
  -- The members are read to the closing bracket, so that nothing is left.
  have hmembers (slots : σ) (rest : Bytes) :
      _ ↔ fields.Gathers depth fields.empty (members.map MemberText.pair) slots ∧ rest = [] :=
    readMembers_eq_ok_iff (fields.readMember_local depth) hinner
      (Nat.le_refl (fuelFor (braces inner members)))
  rw [((Shape.record name doc fields build parts law).read_local (depth + 1)).spells_iff]
  show Shape.read _ _ (depth + 1) (0x7B :: (inner ++ membersText members [])) = _ ↔ _
  rw [Shape.read_object_eq_ok_iff]
  constructor
  · rintro ⟨slots, values, hread, hfinish, rfl⟩
    exact ⟨values, ⟨slots, ((hmembers slots []).mp hread).1, hfinish⟩, rfl⟩
  · rintro ⟨values, ⟨slots, hgathers, hfinish⟩, rfl⟩
    exact ⟨slots, values, (hmembers slots []).mpr ⟨hgathers, rfl⟩, hfinish, rfl⟩

/-- Any value that an object spells is made of its members. -/
theorem spells_obj_iff (hinner : Blank inner) {j : Json} :
    Spells (fun fuel => Json.read fuel (depth + 1)) (braces inner members) j ↔
      ∃ done, Runs (fun fuel key done bs => addMember (Json.read fuel depth) key done bs) []
        (members.map MemberText.pair) done ∧ j = object done.reverse := by
  have hmembers (done : List (String × Json)) (rest : Bytes) :
      _ ↔ Runs (fun fuel key done bs => addMember (Json.read fuel depth) key done bs) []
        (members.map MemberText.pair) done ∧ rest = [] :=
    readMembers_eq_ok_iff (addMember_local (read_local depth)) hinner
      (Nat.le_refl (fuelFor (braces inner members)))
  rw [(read_local (depth + 1)).spells_iff]
  show Json.read _ (depth + 1) (0x7B :: (inner ++ membersText members [])) = _ ↔ _
  rw [read_object]
  constructor
  · intro h
    split at h
    · cases h
    rename_i done rest hread
    cases h
    exact ⟨done, ((hmembers done _).mp hread).1, rfl⟩
  · rintro ⟨done, hruns, rfl⟩
    rw [(hmembers done []).mpr ⟨hruns, rfl⟩]

/-- A name is spelt by an object with this name as its only key, and `null` as its value. -/
theorem Shape.spells_variant_iff {name : String} {doc : Option String}
    {variants : List (String × α)} {label : α → String}
    {law : ∀ a, variants.lookup (label a) = some a} (hinner : Blank inner) {a : α} :
    Spells (fun fuel => (Shape.choice name doc variants label law).read fuel (depth + 1))
        (braces inner members) a ↔
      ∃ key value, members.map MemberText.pair = [(key, value)] ∧ variants.lookup key = some a ∧
        Consumes readStart value (.scalar .null) := by
  rw [((Shape.choice name doc variants label law).read_local (depth + 1)).spells_iff]
  have hread : (Shape.choice name doc variants label law).read (fuelFor (braces inner members))
      (depth + 1) (braces inner members) =
        readVariantObject variants (inner ++ membersText members []) := by
    rw [Shape.read, readChoice, braces, skipBlank_cons (by decide)]
    rfl
  rw [hread]
  constructor
  · -- The object has one member, since it is taken apart in one way.
    intro h
    obtain ⟨m, htext, hlookup, hnull⟩ := exists_member_of_readVariantObject h
    obtain ⟨hpairs, -⟩ := pairs_eq_of_membersText hinner blank_nil htext
    exact ⟨m.key, m.value, hpairs, hlookup, hnull⟩
  · rintro ⟨key, value, hpairs, hlookup, hnull⟩
    obtain ⟨m, rfl, hpair⟩ := List.map_eq_singleton_iff.mp hpairs
    cases hpair
    exact readVariantObject_member hlookup hnull hinner []

end Objects

/-! ### Options -/

section Options

variable {α : Type} {item : Shape α} {depth : Nat}

/-- What does not begin like `null` is what an option holds. -/
theorem Shape.spells_some_iff {b : UInt8} {more : Bytes} (hspace : isSpace b = false)
    (hb : b ≠ 0x6E) {field : Option α} :
    Spells (fun fuel => (Shape.option item).read fuel depth) (b :: more) field ↔
      ∃ a, field = some a ∧ Spells (fun fuel => item.read fuel depth) (b :: more) a := by
  rw [((Shape.option item).read_local depth).spells_iff]
  simp only [(item.read_local depth).spells_iff]
  rw [Shape.read_option (skipBlank_cons hspace more) hb]
  constructor
  · -- The text does not begin like the word, and so the item is read.
    intro h
    split at h
    · cases h
    rename_i a rest hread
    cases h
    exact ⟨a, rfl, hread⟩
  · rintro ⟨a, rfl, hread⟩
    rw [hread]

/-- A `null` is no value. -/
theorem Shape.spells_null_iff {field : Option α} :
    Spells (fun fuel => (Shape.option item).read fuel depth) (Utf8.bytes "null") field ↔
      field = none := by
  have hnull : Utf8.bytes "null" = 0x6E :: Utf8.bytes "ull" := by decide
  have hliteral := literal_append (Utf8.bytes "ull") []
  rw [List.append_nil] at hliteral
  rw [((Shape.option item).read_local depth).spells_iff]
  rw [hnull, Shape.read_option_null, hliteral]
  constructor
  · intro h
    cases h
    rfl
  · rintro rfl
    rfl

end Options

/-! ### All that begins with a bracket -/

section Begins

variable {α : Type} {b : UInt8} {more : Bytes} {depth : Nat}

/-- No scalar begins with a bracket. -/
theorem Scalar.not_spells {kind : Scalar α} (hb : b = 0x5B ∨ b = 0x7B) {a : α} :
    ¬Spells (fun _ => kind.read) (b :: more) a := by
  intro h
  have hread : kind.read (b :: more) = .ok (a, []) := kind.read_local.spells_iff.mp h
  rw [Scalar.read] at hread
  rcases hb with rfl | rfl
  · rw [show readStart (0x5B :: more) = .ok (.bracket .list, 0x5B :: more) from rfl] at hread
    cases hread
  · rw [show readStart (0x7B :: more) = .ok (.bracket .object, 0x7B :: more) from rfl] at hread
    cases hread

/-- No list is spelt by an object. -/
theorem Shape.not_spells_list {item : Shape α} {as : List α} :
    ¬Spells (fun fuel => (Shape.list item).read fuel depth) (0x7B :: more) as := by
  intro h
  have hread := ((Shape.list item).read_local depth).spells_iff.mp h
  rw [Shape.read, skipBlank_cons (by decide)] at hread
  cases hread

/-- No name is spelt by an array. -/
theorem Shape.not_spells_choice {name : String} {doc : Option String}
    {variants : List (String × α)} {label : α → String}
    {law : ∀ a, variants.lookup (label a) = some a} {a : α} :
    ¬Spells (fun fuel => (Shape.choice name doc variants label law).read fuel depth)
      (0x5B :: more) a := by
  intro h
  have hread := ((Shape.choice name doc variants label law).read_local depth).spells_iff.mp h
  rw [Shape.read, readChoice, skipBlank_cons (by decide)] at hread
  cases hread

/-- Where no bracket may be opened, none is read. By recursion on the shape, for an option is read
    as what it holds. -/
theorem Shape.not_spells_zero (hb : b = 0x5B ∨ b = 0x7B) : {α : Type} → (shape : Shape α) →
    {a : α} → ¬Spells (fun fuel => shape.read fuel 0) (b :: more) a
  | _, .scalar kind, _, h => by
    simp only [Shape.read] at h
    exact Scalar.not_spells hb h
  | _, .option item, _, h => by
    -- Neither bracket is white space, nor the letter with which `null` begins.
    have hspace : isSpace b = false := by rcases hb with rfl | rfl <;> decide
    have hnull : b ≠ 0x6E := by rcases hb with rfl | rfl <;> decide
    obtain ⟨a, -, ha⟩ := (Shape.spells_some_iff hspace hnull).mp h
    exact item.not_spells_zero hb ha
  | _, .any, _, h => by
    have hread := (Shape.any.read_local 0).spells_iff.mp h
    rw [Shape.read, Json.read] at hread
    rcases hb with rfl | rfl <;> cases hread
  | _, .list item, _, h => by
    have hread := ((Shape.list item).read_local 0).spells_iff.mp h
    rw [Shape.read] at hread
    rcases hb with rfl | rfl <;> cases hread
  | _, .choice name doc variants label law, _, h => by
    have hread := ((Shape.choice name doc variants label law).read_local 0).spells_iff.mp h
    rw [Shape.read] at hread
    rcases hb with rfl | rfl <;> cases hread
  | _, .record name doc fields build parts law, _, h => by
    have hread := ((Shape.record name doc fields build parts law).read_local 0).spells_iff.mp h
    rw [Shape.read] at hread
    rcases hb with rfl | rfl <;> cases hread

/-- A bracket is only read where one may be opened. -/
theorem Shape.exists_depth (shape : Shape α) {a : α} (hb : b = 0x5B ∨ b = 0x7B)
    (h : Spells (fun fuel => shape.read fuel depth) (b :: more) a) : ∃ d, depth = d + 1 := by
  cases depth with
  | zero => exact absurd h (shape.not_spells_zero hb)
  | succ d => exact ⟨d, rfl⟩

/-- An object that is read has strings for keys. By recursion on the shape. -/
theorem Shape.exists_braces : {α : Type} → (shape : Shape α) → {a : α} →
    Spells (fun fuel => shape.read fuel (depth + 1)) (0x7B :: more) a →
    ∃ inner members, Blank inner ∧ 0x7B :: more = braces inner members
  | _, .scalar kind, _, h => by
    simp only [Shape.read] at h
    exact absurd h (Scalar.not_spells (.inr rfl))
  | _, .list item, _, h => absurd h Shape.not_spells_list
  | _, .option item, _, h => by
    obtain ⟨a, -, ha⟩ := (Shape.spells_some_iff (by decide) (by decide)).mp h
    exact item.exists_braces ha
  | _, .any, _, h => by
    have hread := (Shape.any.read_local (depth + 1)).spells_iff.mp h
    -- The members were read one after the other, and each of them has a text.
    rw [Shape.read, Json.read_object] at hread
    split at hread
    · cases hread
    rename_i done rest hmembers
    cases hread
    obtain ⟨inner, members, hinner, -, htext⟩ :=
      exists_text_of_readMembers (addMember_local (Json.read_local depth)) hmembers
    exact ⟨inner, members, hinner, congrArg _ htext⟩
  | _, .choice name doc variants label law, a, h => by
    have hread :=
      ((Shape.choice name doc variants label law).read_local (depth + 1)).spells_iff.mp h
    have hobject : readVariantObject variants more = .ok (a, []) := by
      rw [Shape.read, readChoice, skipBlank_cons (by decide)] at hread
      exact hread
    obtain ⟨m, htext, -, -⟩ := exists_member_of_readVariantObject hobject
    exact ⟨[], [m], blank_nil, congrArg _ htext⟩
  | _, .record name doc fields build parts law, _, h => by
    have hread :=
      ((Shape.record name doc fields build parts law).read_local (depth + 1)).spells_iff.mp h
    obtain ⟨slots, values, hmembers, -, -⟩ := Shape.read_object_eq_ok_iff.mp hread
    obtain ⟨inner, members, hinner, -, htext⟩ :=
      exists_text_of_readMembers (fields.readMember_local depth) hmembers
    exact ⟨inner, members, hinner, congrArg _ htext⟩

end Begins

end DialogStub.Json
