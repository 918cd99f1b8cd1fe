import DialogStub.Proofs.Json.Local

/-!
# The items of an array as they are written

* `Json.ItemText` — the parts of which an item is written;
* `Json.brackets`, `Json.braces` — the texts of an array and of an object, with no white space
  around them;
* `Json.readItems_text`, `Json.readItems_brackets` — items that a reader takes are read up to the
  end of their array;
* `Json.exists_items_of_readItems` — whatever is read as items is written in this way;
* `Json.isValue_brackets`, `Json.isValue_braces` — these texts are passed over as one value;
* `Json.values_eq_of_itemsText`, `Json.parts_eq_of_keyedText` — and are taken apart in one way;
* `Json.read_local` — the reader of any value looks at this value only.

An item goes with what is read from it, so that one list tells both the text and the values.
-/

namespace DialogStub.Json

/-! ### Texts of items -/

/-- The parts of which an item is written: a value with white space around it. -/
structure ItemText where
  lead : Bytes
  value : Bytes
  trail : Bytes
  lead_blank : Blank lead
  value_flush : Flush value
  value_passes : skipValue (fuelFor value) value = .ok []
  trail_blank : Blank trail

namespace ItemText

/-- The text of an item. -/
def text (i : ItemText) : Bytes :=
  i.lead ++ (i.value ++ i.trail)

theorem isValue (i : ItemText) : IsValue i.value :=
  isValue_of_passes i.value_passes

theorem text_append (i : ItemText) (rest : Bytes) :
    i.text ++ rest = i.lead ++ (i.value ++ (i.trail ++ rest)) := by
  simp [text]

theorem length_value_le (i : ItemText) : i.value.length ≤ i.text.length := by
  simp only [text, List.length_append]
  omega

/-- No value begins with white space or with the end of an array. -/
theorem exists_begin (i : ItemText) :
    ∃ b more, i.value = b :: more ∧ isSpace b = false ∧ b ≠ 0x5D := by
  obtain ⟨b, more, heq⟩ := List.exists_cons_of_ne_nil i.isValue.ne_nil
  have hspace := i.value_flush
  have hpasses := i.value_passes
  rw [heq] at hspace hpasses
  refine ⟨b, more, heq, flush_cons_iff.mp hspace, ?_⟩
  rintro rfl
  cases hpasses

end ItemText

/-- The text behind an item of an array: the items that follow, each behind a comma, and the end. -/
def afterItems (texts : List Bytes) (rest : Bytes) : Bytes :=
  texts.flatMap (fun text => 0x2C :: text) ++ 0x5D :: rest

theorem endsNumber_afterItems (texts : List Bytes) (rest : Bytes) :
    EndsNumber (afterItems texts rest) :=
  endsNumber_behindCommas (.inl rfl) texts rest

theorem flush_afterItems (texts : List Bytes) (rest : Bytes) : Flush (afterItems texts rest) :=
  flush_behindCommas (.inl rfl) texts rest

theorem afterItems_cons (text : Bytes) (texts : List Bytes) (rest : Bytes) :
    afterItems (text :: texts) rest = 0x2C :: (text ++ afterItems texts rest) :=
  behindCommas_cons text texts rest

/-- The text between the brackets of an array, and its end. -/
def itemsText (items : List ItemText) (rest : Bytes) : Bytes :=
  commaSeparated (items.map ItemText.text) ++ 0x5D :: rest

/-- The text of an array. -/
def brackets (inner : Bytes) (items : List ItemText) : Bytes :=
  0x5B :: (inner ++ itemsText items [])

/-- The text of an object. -/
def braces (inner : Bytes) (members : List MemberText) : Bytes :=
  0x7B :: (inner ++ membersText members [])

/-- The text of an object, whatever its keys are. -/
def keyedBraces (inner : Bytes) (members : List KeyedText) : Bytes :=
  0x7B :: (inner ++ keyedText members [])

theorem braces_eq_keyedBraces (inner : Bytes) (members : List MemberText) :
    braces inner members = keyedBraces inner (members.map MemberText.keyed) := by
  rw [braces, keyedBraces, membersText_eq_keyedText]

theorem itemsText_cons (i : ItemText) (items : List ItemText) (rest : Bytes) :
    itemsText (i :: items) rest = i.text ++ afterItems (items.map ItemText.text) rest :=
  commaSeparated_append_close i.text (items.map ItemText.text) rest

/-- What is left of an array where `index` items are gone: the other items, and its end. -/
def itemsFrom (index : Nat) (items : List ItemText) (rest : Bytes) : Bytes :=
  if index = 0 then itemsText items rest else afterItems (items.map ItemText.text) rest

@[simp] theorem itemsFrom_zero (items : List ItemText) (rest : Bytes) :
    itemsFrom 0 items rest = itemsText items rest := rfl

/-- With no item left, the bracket follows at every place. -/
@[simp] theorem itemsFrom_nil (index : Nat) (rest : Bytes) :
    itemsFrom index [] rest = 0x5D :: rest := by
  unfold itemsFrom
  split <;> rfl

theorem endsNumber_itemsFrom_succ (index : Nat) (items : List ItemText) (rest : Bytes) :
    EndsNumber (itemsFrom (index + 1) items rest) :=
  endsNumber_afterItems _ rest

/-- An item is what leads to it, its value, and what is left behind it. -/
theorem exists_front {index : Nat} {blank : Bytes} (hblank : Blank blank) (i : ItemText)
    (items : List ItemText) (rest : Bytes) :
    ∃ front, blank ++ itemsFrom index (i :: items) rest =
        front ++ (i.value ++ (i.trail ++ itemsFrom (index + 1) items rest)) ∧
      ∀ b, isSpace b = false → b ≠ 0x5D → BeforeItem (index = 0) front b := by
  have hafter : itemsFrom (index + 1) items rest = afterItems (items.map ItemText.text) rest := rfl
  -- The first item has no comma before it; each other one has.
  by_cases hindex : index = 0
  · subst hindex
    refine ⟨blank ++ i.lead, ?_, fun b hspace hclose =>
      ⟨hspace, hclose, hblank.append i.lead_blank⟩⟩
    rw [itemsFrom_zero, itemsText_cons, i.text_append, hafter, List.append_assoc]
  · refine ⟨blank ++ 0x2C :: i.lead, ?_, fun b hspace hclose => ?_⟩
    · rw [itemsFrom, if_neg hindex, List.map_cons, afterItems_cons, i.text_append, hafter,
        List.append_assoc]
      rfl
    · rw [decide_eq_false hindex]
      exact ⟨hspace, hclose, blank, i.lead, hblank, i.lead_blank, rfl⟩

/-- A value that was met as an item is one, with what led to it and the white space behind it. -/
theorem BeforeItem.exists_item {index : Nat} {front value trail : Bytes} {b : UInt8}
    (h : BeforeItem (index = 0) front b) (hflush : Flush value) (hvalue : IsValue value)
    (htrail : Blank trail) (items : List ItemText) (rest : Bytes) :
    ∃ blank i, Blank blank ∧ i.value = value ∧
      front ++ (value ++ (trail ++ itemsFrom (index + 1) items rest)) =
        blank ++ itemsFrom index (i :: items) rest := by
  have hafter : itemsFrom (index + 1) items rest = afterItems (items.map ItemText.text) rest := rfl
  have hfront := h.front_eq
  -- The item is put together from what was met: behind a comma, or at the first place.
  by_cases hindex : index = 0
  · subst hindex
    let i : ItemText := ⟨front, value, trail, hfront, hflush, hvalue.passes, htrail⟩
    refine ⟨[], i, blank_nil, rfl, ?_⟩
    rw [itemsFrom_zero, itemsText_cons, i.text_append]
    rfl
  · rw [decide_eq_false hindex, if_neg (by decide)] at hfront
    obtain ⟨blank, indent, hblank, hindent, rfl⟩ := hfront
    let i : ItemText := ⟨indent, value, trail, hindent, hflush, hvalue.passes, htrail⟩
    refine ⟨blank, i, hblank, rfl, ?_⟩
    rw [hafter, itemsFrom, if_neg hindex, List.map_cons, afterItems_cons, i.text_append,
      List.append_assoc]
    rfl

theorem flush_brackets (inner : Bytes) (items : List ItemText) : Flush (brackets inner items) :=
  flush_cons_iff.mpr (by decide)

theorem flush_braces (inner : Bytes) (members : List MemberText) : Flush (braces inner members) :=
  flush_cons_iff.mpr (by decide)

theorem brackets_append (inner : Bytes) (items : List ItemText) (tail : Bytes) :
    brackets inner items ++ tail = 0x5B :: (inner ++ itemsText items tail) := by
  simp [brackets, itemsText]

theorem braces_append (inner : Bytes) (members : List MemberText) (tail : Bytes) :
    braces inner members ++ tail = 0x7B :: (inner ++ membersText members tail) := by
  simp [braces, membersText]

/-- The text of an array is longer than its items are many, and than any of their values. -/
theorem lengths_lt_brackets (inner : Bytes) (items : List ItemText) :
    items.length < (brackets inner items).length ∧
      ∀ i ∈ items, i.value.length < (brackets inner items).length := by
  obtain ⟨hcount, htexts⟩ := @length_commaSeparated_close 0x5D (items.map ItemText.text) []
  rw [List.length_map] at hcount
  simp only [brackets, itemsText, List.length_cons, List.length_append] at hcount htexts ⊢
  refine ⟨by omega, fun i hi => ?_⟩
  have hvalue := i.length_value_le
  have htext := htexts i.text (List.mem_map_of_mem hi)
  omega

/-- The fuel for an array is enough for its items. -/
theorem fuelFor_items {inner : Bytes} {items : List ItemText} {fuel : Nat}
    (h : fuelFor (brackets inner items) ≤ fuel) :
    items.length < fuel ∧ ∀ i ∈ items, fuelFor i.value ≤ fuel := by
  obtain ⟨hcount, hvalues⟩ := lengths_lt_brackets inner items
  unfold fuelFor at h ⊢
  refine ⟨by omega, fun i hi => ?_⟩
  have := hvalues i hi
  omega

/-! ### Items that are read -/

section Readers

variable {α : Type} {read : Nat → Bytes → Read α}

/-- An item is read where it begins, whatever led to it. -/
theorem readItems_step {i : ItemText} {a : α} (h : Spells read i.value a) {fuel loop index : Nat}
    (hfuel : fuelFor i.value ≤ fuel) {front : Bytes}
    (hbefore : ∀ b, isSpace b = false → b ≠ 0x5D → BeforeItem (index = 0) front b)
    (done : List α) {tail : Bytes} (htail : EndsNumber tail) :
    readItems (read fuel) (loop + 1) index done (front ++ (i.value ++ tail))
      = readItems (read fuel) loop (index + 1) (a :: done) tail := by
  obtain ⟨b, more, heq, hspace, hclose⟩ := i.exists_begin
  have hread := h fuel hfuel tail htail
  rw [heq, List.cons_append] at hread ⊢
  rw [readItems, (hbefore b hspace hclose).nextItem]
  dsimp only
  rw [hread]

/-- **Items that a reader takes** are read up to the end of their array. By induction on the items
    that are left. -/
theorem readItems_text {items : List (ItemText × α)}
    (h : ∀ item ∈ items, Spells read item.1.value item.2) {fuel loop : Nat}
    (hfuel : ∀ item ∈ items, fuelFor item.1.value ≤ fuel) (hloop : items.length < loop)
    (index : Nat) (done : List α) {blank : Bytes} (hblank : Blank blank) (rest : Bytes) :
    readItems (read fuel) loop index done (blank ++ itemsFrom index (items.map Prod.fst) rest)
      = .ok (done.reverse ++ items.map Prod.snd, rest) := by
  induction items generalizing loop index done blank with
  | nil =>
    obtain ⟨n, rfl⟩ := Nat.exists_eq_add_one.mpr (Nat.zero_lt_of_lt hloop)
    rw [List.map_nil, List.map_nil, List.append_nil, itemsFrom_nil]
    exact readItems_close hblank rest
  | cons item items ih =>
    obtain ⟨i, a⟩ := item
    obtain ⟨n, rfl⟩ := Nat.exists_eq_add_one.mpr (Nat.zero_lt_of_lt hloop)
    obtain ⟨ha, hothers⟩ := List.forall_mem_cons.mp h
    obtain ⟨hi, hfuels⟩ := List.forall_mem_cons.mp hfuel
    obtain ⟨front, htext, hbefore⟩ := exists_front hblank i (items.map Prod.fst) rest
    -- One step reads this item; the induction hypothesis reads the others, one place further on.
    rw [List.map_cons, htext, readItems_step ha hi hbefore done
        (i.trail_blank.endsNumber (endsNumber_itemsFrom_succ index _ rest)),
      ih hothers hfuels (by simp at hloop; omega) (index + 1) _ i.trail_blank]
    simp

/-- Items that a reader takes are read from inside the brackets. -/
theorem readItems_brackets {items : List (ItemText × α)}
    (h : ∀ item ∈ items, Spells read item.1.value item.2) {inner : Bytes} (hinner : Blank inner)
    {fuel : Nat} (hfuel : fuelFor (brackets inner (items.map Prod.fst)) ≤ fuel) (rest : Bytes) :
    readItems (read fuel) fuel 0 [] (inner ++ itemsText (items.map Prod.fst) rest)
      = .ok (items.map Prod.snd, rest) := by
  obtain ⟨hcount, hvalues⟩ := fuelFor_items hfuel
  rw [List.length_map] at hcount
  exact readItems_text h (fun item hitem => hvalues item.1 (List.mem_map_of_mem hitem)) hcount 0 []
    hinner rest

/-- **Whatever is read as items** is written as items, each of which is spelt by its value. By
    induction on the fuel; the white space behind an item belongs to it. -/
theorem exists_items_of_readItems (hlocal : Local read) {fuel loop index : Nat} {done as : List α}
    {bs rest : Bytes} (h : readItems (read fuel) loop index done bs = .ok (as, rest)) :
    ∃ (blank : Bytes) (items : List (ItemText × α)), Blank blank ∧
      (∀ item ∈ items, Spells read item.1.value item.2) ∧
      as = done.reverse ++ items.map Prod.snd ∧
      bs = blank ++ itemsFrom index (items.map Prod.fst) rest := by
  induction loop generalizing index done bs with
  | zero => cases h
  | succ loop ih =>
    rw [readItems] at h
    split at h
    · cases h
    · rename_i hnext
      rcases nextItem_extent hnext with ⟨-, blank, hblank, heq⟩ | ⟨_, _, _, hsome, -⟩
      · -- The array ends.
        cases h
        refine ⟨blank, [], hblank, List.forall_mem_nil _, (List.append_nil _).symm, heq.trans ?_⟩
        rw [List.map_nil, itemsFrom_nil]
      · cases hsome
    · rename_i more hnext
      rcases nextItem_extent hnext with ⟨hnone, -⟩ | ⟨front, b, more', hsome, heq, hbefore⟩
      · cases hnone
      cases hsome
      split at h
      · cases h
      rename_i a after hitem
      -- What the induction leaves before the next item is the white space behind this one.
      obtain ⟨trail, items, htrail, hitems, rfl, rfl⟩ := ih h
      obtain ⟨value, hvalue, hspells, hisValue⟩ := hlocal.extent hitem
      have hflush : Flush value := by
        rw [← flush_append_iff hisValue.ne_nil, ← hvalue]
        exact flush_cons_iff.mpr hbefore.space
      obtain ⟨blank, i, hblank, hi, htext⟩ := hbefore.exists_item hflush hisValue htrail
        (items.map Prod.fst) rest
      refine ⟨blank, (i, a) :: items, hblank, List.forall_mem_cons.mpr ⟨hi.symm ▸ hspells, hitems⟩,
        by simp, ?_⟩
      rw [heq, hvalue, htext, List.map_cons]

end Readers

/-! ### Items that are passed over -/

/-- Items that follow are scanned up to the end of the list. -/
theorem scans_afterItems (items : List ItemText) {trail : Bytes} (htrail : Blank trail) :
    Scans .next [.list] (trail ++ afterItems (items.map ItemText.text) []) := by
  induction items generalizing trail with
  | nil => exact scans_closeList htrail false
  | cons i items ih =>
    obtain ⟨b, more, heq, hspace, hclose⟩ := i.exists_begin
    have hbefore : BeforeItem false (trail ++ 0x2C :: i.lead) b :=
      ⟨hspace, hclose, trail, i.lead, htrail, i.lead_blank, rfl⟩
    have hscans := hbefore.scans (heq ▸ i.isValue) (ih i.trail_blank)
    rw [← heq] at hscans
    rw [List.map_cons, afterItems_cons, i.text_append]
    show Scans (dueAt false) _ _
    simpa using hscans

/-- **An array** is passed over as one value. -/
theorem isValue_brackets {inner : Bytes} (hinner : Blank inner) (items : List ItemText) :
    IsValue (brackets inner items) := by
  refine isValue_list ?_
  -- Without an item, white space may stand between the brackets.
  cases items with
  | nil => exact scans_closeList hinner true
  | cons i items =>
    obtain ⟨b, more, heq, hspace, hclose⟩ := i.exists_begin
    have hbefore : BeforeItem true (inner ++ i.lead) b :=
      ⟨hspace, hclose, hinner.append i.lead_blank⟩
    have hscans := hbefore.scans (heq ▸ i.isValue) (scans_afterItems items i.trail_blank)
    rw [← heq] at hscans
    rw [itemsText_cons, i.text_append]
    show Scans (dueAt true) _ _
    simpa using hscans

/-- **An object** is passed over as one value. -/
theorem isValue_keyedBraces {inner : Bytes} (hinner : Blank inner) (members : List KeyedText) :
    IsValue (keyedBraces inner members) :=
  isValue_object (scans_keyedText members hinner)

theorem isValue_braces {inner : Bytes} (hinner : Blank inner) (members : List MemberText) :
    IsValue (braces inner members) :=
  isValue_object (scans_text members hinner)

/-! ### One way to take a text apart -/

/-- Two values with white space before them, and what stands behind them. -/
theorem eq_of_value {lead lead' value value' rest rest' : Bytes} (hlead : Blank lead)
    (hlead' : Blank lead') (hvalue : IsValue value) (hvalue' : IsValue value')
    (hflush : Flush value) (hflush' : Flush value') (hrest : EndsNumber rest)
    (hrest' : EndsNumber rest') (heq : lead ++ (value ++ rest) = lead' ++ (value' ++ rest')) :
    value = value' ∧ rest = rest' :=
  hvalue.eq_of_append hvalue' hrest hrest' (eq_of_blank_append hlead hlead'
    ((flush_append_iff hvalue.ne_nil).mpr hflush)
    ((flush_append_iff hvalue'.ne_nil).mpr hflush') heq)

/-- An item is settled by its value, and does not begin with the end of an array. -/
theorem apart_items : Apart 0x5D ItemText.text ItemText.trail ItemText.value where
  close_eq := .inl rfl
  trail_blank := ItemText.trail_blank
  begins i := by
    obtain ⟨b, more, hbegin, hspace, hclose⟩ := i.exists_begin
    exact ⟨i.lead, b, more ++ i.trail, by rw [ItemText.text, hbegin, List.cons_append],
      i.lead_blank, hspace, hclose⟩
  settled {i i' lead lead' rest rest'} hlead hlead' hrest hrest' heq := by
    rw [i.text_append, i'.text_append, ← List.append_assoc, ← List.append_assoc lead'] at heq
    exact eq_of_value (hlead.append i.lead_blank) (hlead'.append i'.lead_blank) i.isValue i'.isValue
      i.value_flush i'.value_flush (i.trail_blank.endsNumber hrest)
      (i'.trail_blank.endsNumber hrest') heq

/-- **Items are taken apart in one way.** -/
theorem values_eq_of_itemsText {items items' : List ItemText} {inner inner' rest rest' : Bytes}
    (hinner : Blank inner) (hinner' : Blank inner')
    (heq : inner ++ itemsText items rest = inner' ++ itemsText items' rest') :
    items.map ItemText.value = items'.map ItemText.value ∧ rest = rest' :=
  apart_items.parts_eq hinner hinner' heq

/-- Two members with white space before them, and what stands behind them. -/
theorem eq_of_keyed {k k' : KeyedText} {lead lead' rest rest' : Bytes} (hlead : Blank lead)
    (hlead' : Blank lead') (hrest : EndsNumber rest) (hrest' : EndsNumber rest')
    (heq : lead ++ (k.text ++ rest) = lead' ++ (k'.text ++ rest')) :
    k.part = k'.part ∧ k.trail ++ rest = k'.trail ++ rest' := by
  have hquote (bs : Bytes) : Flush (0x22 :: bs) := flush_cons_iff.mpr (by decide)
  rw [k.text_append, k'.text_append, ← List.append_assoc, ← List.append_assoc lead'] at heq
  have hbehind := (List.cons.inj (eq_of_blank_append (hlead.append k.lead_blank)
    (hlead'.append k'.lead_blank) (hquote _) (hquote _) heq)).2
  -- The spellings end where their strings do.
  have hskip := k.skipString_spelling
    (k.gap ++ 0x3A :: (k.indent ++ (k.value ++ (k.trail ++ rest))))
  rw [hbehind, k'.skipString_spelling] at hskip
  have hcolon := Except.ok.inj hskip
  rw [hcolon] at hbehind
  obtain ⟨hvalue, htail⟩ := eq_of_value k.indent_blank k'.indent_blank k.isValue k'.isValue
    k.value_flush k'.value_flush (k.trail_blank.endsNumber hrest) (k'.trail_blank.endsNumber hrest')
    (eq_of_colon k.gap_blank k'.gap_blank hcolon.symm)
  exact ⟨Prod.ext (List.append_cancel_right hbehind) hvalue, htail⟩

/-- A member is settled by the spelling of its key and its value. -/
theorem apart_members : Apart 0x7D KeyedText.text KeyedText.trail KeyedText.part where
  close_eq := .inr rfl
  trail_blank := KeyedText.trail_blank
  begins k := ⟨k.lead, 0x22, _, rfl, k.lead_blank, by decide, by decide⟩
  settled := eq_of_keyed

/-- **Members are taken apart in one way**, whatever their keys are. -/
theorem parts_eq_of_keyedText {members members' : List KeyedText} {inner inner' rest rest' : Bytes}
    (hinner : Blank inner) (hinner' : Blank inner')
    (heq : inner ++ keyedText members rest = inner' ++ keyedText members' rest') :
    members.map KeyedText.part = members'.map KeyedText.part ∧ rest = rest' :=
  apart_members.parts_eq hinner hinner' heq

/-- A key is told by its spelling. -/
theorem MemberText.pair_eq_of_part {m m' : MemberText} (h : m.keyed.part = m'.keyed.part) :
    m.pair = m'.pair := by
  obtain ⟨hspelling, hvalue⟩ : m.spelling = m'.spelling ∧ m.value = m'.value := Prod.mk.inj h
  have hkey := m.spelling_reads
  rw [hspelling, m'.spelling_reads] at hkey
  exact Prod.ext (Prod.mk.inj (Except.ok.inj hkey)).1.symm hvalue

/-- Members that are read are taken apart in one way. -/
theorem pairs_eq_of_membersText {members members' : List MemberText}
    {inner inner' rest rest' : Bytes}
    (hinner : Blank inner) (hinner' : Blank inner')
    (heq : inner ++ membersText members rest = inner' ++ membersText members' rest') :
    members.map MemberText.pair = members'.map MemberText.pair ∧ rest = rest' := by
  rw [membersText_eq_keyedText, membersText_eq_keyedText] at heq
  obtain ⟨hparts, hrest⟩ := parts_eq_of_keyedText hinner hinner' heq
  -- The parts of a member determine its pair, so the equal lists are gone through together.
  refine ⟨?_, hrest⟩
  clear heq
  induction members generalizing members' with
  | nil =>
    cases members' with
    | nil => rfl
    | cons m' members' => cases hparts
  | cons m members ih =>
    cases members' with
    | nil => cases hparts
    | cons m' members' =>
      obtain ⟨hpart, hparts⟩ := List.cons.inj hparts
      rw [List.map_cons, List.map_cons, MemberText.pair_eq_of_part hpart, ih hparts]

/-! ### Any value -/

/-- An array as one value, whose items a local reader takes. -/
theorem list_extent {α : Type} {read : Nat → Bytes → Read α} (h : Local read) {fuel : Nat}
    {as : List α} {bs rest : Bytes} (hread : readItems (read fuel) fuel 0 [] bs = .ok (as, rest)) :
    ∃ used, bs = used ++ rest ∧ IsValue (0x5B :: used) ∧
      ∀ fuel' tail, fuelFor (0x5B :: used) ≤ fuel' →
        readItems (read fuel') fuel' 0 [] (used ++ tail) = .ok (as, tail) := by
  obtain ⟨inner, items, hinner, hspells, rfl, heq⟩ := exists_items_of_readItems h hread
  have htext (rest : Bytes) : (inner ++ itemsText (items.map Prod.fst) []) ++ rest =
      inner ++ itemsText (items.map Prod.fst) rest := by
    simp [itemsText]
  refine ⟨inner ++ itemsText (items.map Prod.fst) [], ?_, isValue_brackets hinner _,
    fun fuel' tail hfuel => ?_⟩
  · rw [htext]
    exact heq
  · rw [htext]
    exact readItems_brackets hspells hinner hfuel tail

/-- The reader of the members of any object. -/
theorem addMember_local {read : Nat → Bytes → Read Json} (h : Local read) :
    LocalMember fun fuel key done bs => addMember (read fuel) key done bs := by
  intro fuel key done bs next rest hread
  replace hread : addMember (read fuel) key done bs = .ok (next, rest) := hread
  unfold addMember at hread
  split at hread
  · cases hread
  rename_i j rest' hmember
  cases hread
  obtain ⟨gap, indent, value, hgap, hindent, rfl, hvalue, hflush, hspells⟩ :=
    readMember_extent h hmember
  refine ⟨gap, indent, value, hgap, hindent, rfl, hvalue, hflush,
    fun fuel' gap' indent' tail hfuel hgap' hindent' htail => ?_⟩
  dsimp only
  rw [addMember, readMember_spells h hspells hfuel key hgap' hindent' htail]

theorem read_scalar {fuel depth : Nat} {bs rest : Bytes} {value : Json}
    (h : readStart bs = .ok (.scalar value, rest)) :
    Json.read fuel depth bs = .ok (value, rest) := by
  rw [Json.read, h]

/-- An array is read item by item, one level down. -/
theorem read_list (fuel depth : Nat) (bs : Bytes) :
    Json.read fuel (depth + 1) (0x5B :: bs) =
      match readItems (Json.read fuel depth) fuel 0 [] bs with
      | .error failure => .error failure
      | .ok (items, rest) => .ok (.arr items, rest) := by
  rw [Json.read]
  rfl

/-- An object is read member by member, one level down. -/
theorem read_object (fuel depth : Nat) (bs : Bytes) :
    Json.read fuel (depth + 1) (0x7B :: bs) =
      match readMembers (addMember (Json.read fuel depth)) fuel true [] bs with
      | .error failure => .error failure
      | .ok (members, rest) => .ok (object members.reverse, rest) := by
  rw [Json.read]
  rfl

/-- **Any value** is read from a text that does not depend on what follows it. By induction on the
    depth that is left. -/
theorem read_local (depth : Nat) : Local fun fuel => Json.read fuel depth := by
  induction depth using Nat.strongRecOn with
  | ind depth ih =>
    refine .of_cons (fun fuel _ hblank bs => ?_) (fun fuel _ => ?_)
      (fun {fuel b bs j rest} hspace h => ?_)
    · rw [Json.read, Json.read, readStart_blank hblank]
    · rw [Json.read]
      rintro ⟨⟩
    cases hstart : readStart (b :: bs) with
    | error failure =>
      rw [Json.read, hstart] at h
      cases h
    | ok result =>
      obtain ⟨start, rest'⟩ := result
      -- A word, an array or an object; the last two use up one level of the depth.
      rcases readStart_extent hspace hstart with ⟨value, used, rfl, hused, hconsumes, hvalue⟩ |
        ⟨-, rfl, -⟩ | ⟨-, rfl, -⟩
      · rw [read_scalar hstart] at h
        cases h
        exact ⟨used, hused, fun _ _ tail htail => read_scalar (hconsumes tail htail), hvalue⟩
      · cases depth with
        | zero =>
          rw [Json.read] at h
          cases h
        | succ depth =>
          rw [read_list] at h
          split at h
          · cases h
          rename_i items after hitems
          cases h
          obtain ⟨used, rfl, hvalue, hagain⟩ := list_extent (ih depth (Nat.lt_succ_self _)) hitems
          refine ⟨0x5B :: used, rfl, fun fuel' hfuel tail _ => ?_, hvalue⟩
          show Json.read fuel' (depth + 1) (0x5B :: (used ++ tail)) = _
          rw [read_list, hagain fuel' tail hfuel]
      · cases depth with
        | zero =>
          rw [Json.read] at h
          cases h
        | succ depth =>
          rw [read_object] at h
          split at h
          · cases h
          rename_i members after hmembers
          cases h
          obtain ⟨used, rfl, hvalue, hagain⟩ :=
            readMembers_extent (addMember_local (ih depth (Nat.lt_succ_self _))) hmembers
          refine ⟨0x7B :: used, rfl, fun fuel' hfuel tail _ => ?_, hvalue⟩
          show Json.read fuel' (depth + 1) (0x7B :: (used ++ tail)) = _
          rw [read_object, hagain fuel' tail hfuel]

end DialogStub.Json
