import DialogStub.Proofs.Json.ObjectText
import DialogStub.Proofs.Time.Rfc3339

/-!
# Reading back what was written

* `Shape.Writable` — the values of a shape whose JSON the shape reads;
* `Json.Begins` — how a printed value begins;
* `Json.exists_print_arr`, `Json.exists_print_obj` — the items and members of what is printed;
* `Shape.restores` — the printed JSON of such a value is read as this value, whatever stands behind
  it;
* `Fields.gathers_toMembers` — and its members fill the places of the fields.

Numbers have to be in range, and no number with a fraction and no value of any kind is among them;
an option holds nothing that is written `null`. The keys of a record differ.
-/

namespace DialogStub.Json

/-! ### Values that can be written -/

/-- A scalar that is in its range. -/
def Scalar.Writable : {α : Type} → Scalar α → α → Prop
  | _, .text, _ => True
  | _, .flag, _ => True
  | _, .word, n => n < 0x10000000000000000
  | _, .count, n => n < 0x10000000000000000
  | _, .integer, n => -0x8000000000000000 ≤ n ∧ n < 0x8000000000000000
  | _, .real, _ => False
  | _, .time, _ => True

/-- The keys of fields. -/
def Fields.keys : {σ ρ : Type} → Fields σ ρ → List String
  | _, _, .nil => []
  | _, _, .cons note _ rest => note.key :: rest.keys

/-- Places that are all filled. -/
def Fields.full : {σ ρ : Type} → Fields σ ρ → ρ → σ
  | _, _, .nil, _ => ()
  | _, _, .cons _ _ rest, (a, parts) => (some a, rest.full parts)

mutual

/-- A value whose JSON is read as this value, with arrays and objects nested `depth` deep. -/
def Shape.Writable : {α : Type} → Shape α → (depth : Nat) → α → Prop
  | _, .scalar kind, _, a => kind.Writable a
  | _, .any, _, _ => False
  | _, .option _, _, none => True
  | _, .option item, depth, some a => item.toJson a ≠ .null ∧ item.Writable depth a
  | _, .list _, 0, _ => False
  | _, .list item, depth + 1, as => ∀ a ∈ as, item.Writable depth a
  | _, .choice _ _ _ _ _, _, _ => True
  | _, .record _ _ _ _ _ _, 0, _ => False
  | _, .record _ _ fields _ parts _, depth + 1, a =>
    fields.keys.Nodup ∧ fields.Writable depth (parts a)

/-- Parts of a record that can be written; none of them is left out. -/
def Fields.Writable : {σ ρ : Type} → Fields σ ρ → (depth : Nat) → ρ → Prop
  | _, _, .nil, _, _ => True
  | _, _, .cons note shape rest, depth, (a, parts) =>
    note.omitsNull = false ∧ shape.Writable depth a ∧ rest.Writable depth parts

end

/-- Places that are all full give what they hold. -/
theorem Fields.finish_full : {σ ρ : Type} → (fields : Fields σ ρ) → (parts : ρ) →
    fields.finish (fields.full parts) = .ok parts
  | _, _, .nil, _ => rfl
  | _, _, .cons note shape rest, (a, parts) => by
    rw [Fields.full, Fields.finish, Note.settle, finish_full rest parts]

/-- A field that is never left out is always written. -/
theorem Note.write_of_not_omits {α : Type} {note : Note α} (h : note.omitsNull = false)
    (value : Json) (rest : List (String × Json)) :
    note.write value rest = (note.key, value) :: rest := by
  unfold Note.write
  rw [h]

/-- What a local reader takes is one value. -/
theorem Local.isValue {α : Type} {read : Nat → Bytes → Read α} (h : Local read) {value : Bytes}
    {a : α} (hspells : Spells read value a) : IsValue value := by
  have hread := hspells (fuelFor value) (Nat.le_refl _) [] endsNumber_nil
  obtain ⟨used, heq, -, hvalue⟩ := h.extent hread
  rw [List.append_nil, List.append_nil] at heq
  rwa [heq]

/-! ### Begins of printed values -/

/-- A text begins with a byte with which a value begins, and with that of `null` for `null` only. -/
structure Begins (j : Json) (b : UInt8) : Prop where
  space : isSpace b = false
  ne_close : b ≠ 0x5D
  null : b = 0x6E → j = .null

/-- What is printed begins with no white space and no closing bracket, and only `null` with its
    letter. -/
theorem exists_begins {j : Json} (h : ∀ x, j ≠ .real x) :
    ∃ b more, j.print = b :: more ∧ Begins j b := by
  have hbyte {j : Json} {b : UInt8} {more : Bytes} (htext : j.print = b :: more)
      (hspace : isSpace b = false) (hclose : b ≠ 0x5D) (hnull : b ≠ 0x6E) :
      ∃ b more, j.print = b :: more ∧ Begins j b :=
    ⟨b, more, htext, hspace, hclose, fun h => absurd h hnull⟩
  -- A number begins with a digit or a minus sign; all others have a fixed first byte.
  cases j with
  | null => exact ⟨0x6E, _, rfl, by decide, by decide, fun _ => rfl⟩
  | bool b => cases b <;> exact hbyte rfl (by decide) (by decide) (by decide)
  | int n =>
    obtain ⟨b, more, htext, hb, -⟩ := exists_print_int_eq n
    obtain ⟨hspace, -⟩ := skipScalar_number hb []
    refine hbyte htext hspace ?_ ?_
    all_goals
      rintro rfl
      revert hb
      decide
  | real x => exact absurd rfl (h x)
  | str s => exact hbyte rfl (by decide) (by decide) (by decide)
  | arr items => exact hbyte rfl (by decide) (by decide) (by decide)
  | obj members => exact hbyte rfl (by decide) (by decide) (by decide)

/-- No white space stands before what is printed. -/
theorem Begins.flush {j : Json} {b : UInt8} {more : Bytes} (h : Begins j b)
    (htext : j.print = b :: more) : Flush j.print := by
  rw [htext]
  exact flush_cons_iff.mpr h.space

/-- An integer of any size is passed over. -/
theorem isValue_print_int (n : Int) : IsValue (Json.int n).print ∧ Flush (Json.int n).print := by
  obtain ⟨b, more, htext, hb, hskip⟩ := exists_print_int_eq n
  obtain ⟨hspace, hlist, hobject, -⟩ := skipScalar_number hb []
  rw [htext]
  refine ⟨isValue_of_skipScalar hspace hlist hobject fun tail htail => ?_,
    flush_cons_iff.mpr hspace⟩
  rw [(skipScalar_number hb _).2.2.2]
  exact hskip tail htail

/-! ### Scalars -/

theorem readStart_print_bool (b : Bool) (tail : Bytes) :
    readStart ((Json.bool b).print ++ tail) = .ok (.scalar (.bool b), tail) := by
  cases b <;> rfl

/-- A printed integer is read back, if 64 bits hold it. -/
theorem readStart_print_int {n : Int} (hn : -0x8000000000000000 ≤ n ∧ n < 0x10000000000000000)
    {tail : Bytes} (htail : EndsNumber tail) :
    readStart ((Json.int n).print ++ tail) = .ok (.scalar (.int n), tail) := by
  obtain ⟨b, more, htext, hb, -⟩ := exists_print_int_eq n
  have hread := readNumber_print_int hn htail
  rw [htext] at hread ⊢
  exact (readStart_eq_ok_iff (skipScalar_number hb []).1).mpr (.int hb hread)

theorem natural_ofNat {n : Nat} (h : n < 0x10000000000000000) (expected : String) :
    natural expected (.int n) = .ok n := by
  rw [natural, if_pos ⟨by omega, by omega⟩, Int.toNat_natCast]

theorem Scalar.ofJson_word (j : Json) : Scalar.word.ofJson j = natural "u64" j := by
  rw [Scalar.ofJson]

theorem Scalar.ofJson_count (j : Json) : Scalar.count.ofJson j = natural "usize" j := by
  rw [Scalar.ofJson]

/-- A time is read from a text. -/
theorem Scalar.ofJson_time (s : String) :
    Scalar.time.ofJson (.str s) = match Rfc3339.read s.toList with
      | .ok t => .ok t
      | .error fault => .error (.timestamp fault) := rfl

/-- A scalar is read from its own text. -/
theorem Scalar.consumes_toJson {α : Type} (kind : Scalar α) {a : α} (h : kind.Writable a) :
    Consumes kind.read (kind.toJson a).print a := by
  intro tail htail
  have hread {j : Json} (hstart : readStart (j.print ++ tail) = .ok (.scalar j, tail))
      (hjson : kind.ofJson j = .ok a) : kind.read (j.print ++ tail) = .ok (a, tail) := by
    rw [Scalar.read, hstart]
    dsimp only
    rw [hjson]
  -- Each scalar is read from its own text; the bounds of a count are those of its type.
  cases kind with
  | text => exact hread (readStart_str a tail) rfl
  | flag => exact hread (readStart_print_bool a tail) rfl
  | word =>
    replace h : a < 0x10000000000000000 := h
    refine hread (readStart_print_int ⟨by omega, by omega⟩ htail) ?_
    rw [Scalar.ofJson_word]
    exact natural_ofNat h _
  | count =>
    replace h : a < 0x10000000000000000 := h
    refine hread (readStart_print_int ⟨by omega, by omega⟩ htail) ?_
    rw [Scalar.ofJson_count]
    exact natural_ofNat h _
  | integer =>
    replace h : -0x8000000000000000 ≤ a ∧ a < 0x8000000000000000 := h
    exact hread (readStart_print_int ⟨h.1, by omega⟩ htail) (if_pos h)
  | real => exact h.elim
  | time =>
    refine hread (j := .str (String.ofList (Rfc3339.write a))) (readStart_str _ tail) ?_
    rw [Scalar.ofJson_time, String.toList_ofList, Rfc3339.read_write]

/-- No scalar that can be written back is a number with a fraction. -/
theorem Scalar.toJson_ne_real {α : Type} (kind : Scalar α) {a : α} (h : kind.Writable a)
    (x : Binary64) : kind.toJson a ≠ .real x := by
  cases kind with
  | real => exact h.elim
  | text | flag | word | count | integer | time => exact nofun

/-! ### Printed arrays -/

section Lists

variable {α : Type} {item : Shape α} {depth : Nat}

/-- A value that is read from its own text, wherever it stands. -/
structure Shape.Restores (shape : Shape α) (depth : Nat) (a : α) : Prop where
  spells : Spells (fun fuel => shape.read fuel depth) (shape.toJson a).print a
  begins : ∃ b more, (shape.toJson a).print = b :: more ∧ Begins (shape.toJson a) b

/-- Its text is one value, with no white space before it. -/
theorem Shape.Restores.printed {shape : Shape α} {a : α} (h : shape.Restores depth a) :
    IsValue (shape.toJson a).print ∧ Flush (shape.toJson a).print := by
  obtain ⟨b, more, htext, hbegins⟩ := h.begins
  exact ⟨(shape.read_local depth).isValue h.spells, hbegins.flush htext⟩

/-- An item as it is printed. -/
def ItemText.plain {value : Bytes} (hvalue : IsValue value) (hflush : Flush value) : ItemText where
  lead := []
  value := value
  trail := []
  lead_blank := blank_nil
  value_flush := hflush
  value_passes := hvalue.passes
  trail_blank := blank_nil

theorem ItemText.plain_text {value : Bytes} (hvalue : IsValue value) (hflush : Flush value) :
    (ItemText.plain hvalue hflush).text = value := by
  simp [plain, text]

/-- The items of an array are printed one by one. -/
theorem printItems_eq_map (items : List Json) : printItems items = items.map print := by
  induction items with
  | nil => rfl
  | cons item items ih => rw [printItems, ih, List.map_cons]

/-- Items that are printed, each as a value of its own. -/
theorem exists_itemTexts {toJson : α → Json} {as : List α}
    (h : ∀ a ∈ as, IsValue (toJson a).print ∧ Flush (toJson a).print) :
    ∃ items : List (ItemText × α), items.map Prod.snd = as ∧
      (items.map Prod.fst).map ItemText.text = printItems (as.map toJson) ∧
      ∀ item ∈ items, item.1.value = (toJson item.2).print := by
  induction as with
  | nil => exact ⟨[], rfl, rfl, List.forall_mem_nil _⟩
  | cons a as ih =>
    obtain ⟨⟨hvalue, hflush⟩, hothers⟩ := List.forall_mem_cons.mp h
    obtain ⟨items, rfl, htexts, hvalues⟩ := ih hothers
    refine ⟨(.plain hvalue hflush, a) :: items, rfl, ?_, List.forall_mem_cons.mpr ⟨rfl, hvalues⟩⟩
    rw [List.map_cons, List.map_cons, htexts, List.map_cons, printItems, ItemText.plain_text]

/-- A printed array is written with its items printed. -/
theorem exists_print_arr {toJson : α → Json} {as : List α}
    (h : ∀ a ∈ as, IsValue (toJson a).print ∧ Flush (toJson a).print) :
    ∃ items : List (ItemText × α), items.map Prod.snd = as ∧
      (Json.arr (as.map toJson)).print = brackets [] (items.map Prod.fst) ∧
      ∀ item ∈ items, item.1.value = (toJson item.2).print := by
  obtain ⟨items, hvalues, htexts, hprinted⟩ := exists_itemTexts h
  refine ⟨items, hvalues, ?_, hprinted⟩
  rw [print, brackets, itemsText, htexts]
  rfl

end Lists

/-! ### Printed objects -/

/-- A key between quotes as it is printed, behind its opening quote. -/
def plainSpelling (key : String) : Bytes :=
  key.toList.flatMap printChar ++ [0x22]

theorem readString_plainSpelling (key : String) :
    readString (plainSpelling key) = .ok (key, []) :=
  readString_printString key []

/-- A member as it is printed, with no white space. -/
def MemberText.plain (key : String) {value : Bytes} (hvalue : IsValue value)
    (hflush : Flush value) : MemberText where
  key := key
  lead := []
  spelling := plainSpelling key
  gap := []
  indent := []
  value := value
  trail := []
  lead_blank := blank_nil
  spelling_reads := readString_plainSpelling key
  gap_blank := blank_nil
  indent_blank := blank_nil
  value_flush := hflush
  value_passes := hvalue.passes
  trail_blank := blank_nil

/-- A member with no white space is its key, a colon and its value. -/
@[simp] theorem MemberText.plain_text (key : String) {value : Bytes} (hvalue : IsValue value)
    (hflush : Flush value) :
    (MemberText.plain key hvalue hflush).text = printString key ++ 0x3A :: value := by
  simp [plain, text, plainSpelling, printString]

/-- Members that are printed, each with a value of its own. -/
theorem exists_memberTexts {members : List (String × Json)}
    (h : ∀ m ∈ members, IsValue m.2.print ∧ Flush m.2.print) :
    ∃ texts : List (MemberText × Json), (texts.map fun m => (m.1.key, m.2)) = members ∧
      (texts.map Prod.fst).map MemberText.text = printMembers members ∧
      ∀ m ∈ texts, m.1.value = m.2.print := by
  induction members with
  | nil => exact ⟨[], rfl, rfl, List.forall_mem_nil _⟩
  | cons m members ih =>
    obtain ⟨key, j⟩ := m
    obtain ⟨⟨hvalue, hflush⟩, hothers⟩ := List.forall_mem_cons.mp h
    obtain ⟨texts, rfl, htexts, hvalues⟩ := ih hothers
    -- The first member gets its own value and no white space; the others are done.
    refine ⟨(.plain key hvalue hflush, j) :: texts, rfl, ?_,
      List.forall_mem_cons.mpr ⟨rfl, hvalues⟩⟩
    rw [List.map_cons, List.map_cons, htexts, printMembers, MemberText.plain_text]

/-- A printed object is written with its members printed. -/
theorem exists_print_obj {members : List (String × Json)}
    (h : ∀ m ∈ members, IsValue m.2.print ∧ Flush m.2.print) :
    ∃ texts : List (MemberText × Json), (texts.map fun m => (m.1.key, m.2)) = members ∧
      (Json.obj members).print = braces [] (texts.map Prod.fst) ∧
      ∀ m ∈ texts, m.1.value = m.2.print := by
  obtain ⟨texts, hmembers, hprinted, hvalues⟩ := exists_memberTexts h
  refine ⟨texts, hmembers, ?_, hvalues⟩
  rw [print, braces, membersText, hprinted]
  rfl

/-- The keys of members that are printed, each with the text of its value. -/
theorem map_pair_of_printed {texts : List (MemberText × Json)}
    (h : ∀ m ∈ texts, m.1.value = m.2.print) :
    (texts.map Prod.fst).map MemberText.pair =
      (texts.map fun m => (m.1.key, m.2)).map fun m => (m.1, m.2.print) := by
  rw [List.map_map, List.map_map]
  refine List.map_congr_left fun m hm => ?_
  show (m.1.key, m.1.value) = (m.1.key, m.2.print)
  rw [h m hm]

/-- A printed object as an object of a text. -/
theorem exists_objectText (members : List (String × Json))
    (h : ∀ m ∈ members, IsValue m.2.print ∧ Flush m.2.print) :
    ∃ o : ObjectText, o.text = (Json.obj members).print ∧
      o.pairs = members.map (fun m => (m.1, m.2.print)) := by
  obtain ⟨texts, rfl, hprint, hvalues⟩ := exists_print_obj h
  refine ⟨⟨[], [], texts.map Prod.fst, [], blank_nil, blank_nil, blank_nil⟩, ?_,
    map_pair_of_printed hvalues⟩
  rw [hprint]
  rfl

/-- Members of other keys have no value of a key. -/
theorem valuesOf_of_ne {key : String} {pairs : List (String × Bytes)}
    (h : ∀ pair ∈ pairs, pair.1 ≠ key) : valuesOf key pairs = [] ∧ without key pairs = pairs := by
  refine ⟨?_, ?_⟩
  · rw [valuesOf, List.filter_eq_nil_iff.mpr (fun pair hpair => by simpa using h pair hpair)]
    rfl
  · exact List.filter_eq_self.mpr (fun pair hpair => by simpa using h pair hpair)

/-! ### All shapes -/

section Shapes

variable {α σ ρ : Type}

/-- A scalar is restored. -/
theorem Shape.restores_scalar {kind : Scalar α} {a : α} (depth : Nat) (h : kind.Writable a) :
    (Shape.scalar kind).Restores depth a := by
  refine ⟨fun fuel _ tail htail => ?_, exists_begins (kind.toJson_ne_real h)⟩
  exact kind.consumes_toJson h tail htail

/-- A value that is missing is restored. -/
theorem Shape.restores_none (item : Shape α) (depth : Nat) :
    (Shape.option item).Restores depth none := by
  refine ⟨fun fuel _ tail _ => ?_, exists_begins (j := .null) nofun⟩
  show (Shape.option item).read fuel depth (0x6E :: (Utf8.bytes "ull" ++ tail)) = _
  rw [Shape.read_option_null, literal_append]

/-- A value that may be missing is restored, unless it is written as `null`. -/
theorem Shape.Restores.some {item : Shape α} {depth : Nat} {a : α} (h : item.Restores depth a)
    (hnull : item.toJson a ≠ .null) : (Shape.option item).Restores depth (some a) := by
  obtain ⟨b, more, htext, hbegins⟩ := h.begins
  refine ⟨fun fuel hfuel tail htail => ?_, ⟨b, more, htext, hbegins⟩⟩
  have hb : b ≠ 0x6E := fun hb => hnull (hbegins.null hb)
  have hread := h.spells fuel hfuel tail htail
  dsimp only at hread
  show (Shape.option item).read fuel depth ((item.toJson a).print ++ tail) = _
  rw [htext, List.cons_append] at hread ⊢
  rw [Shape.read_option (skipBlank_cons hbegins.space _) hb, hread]

/-- A list is restored, if its items are. -/
theorem Shape.restores_list {item : Shape α} {depth : Nat} {as : List α}
    (h : ∀ a ∈ as, item.Restores depth a) : (Shape.list item).Restores (depth + 1) as := by
  refine ⟨fun fuel hfuel tail _ => ?_, exists_begins (j := .arr _) nofun⟩
  obtain ⟨items, rfl, hprint, hvalues⟩ := exists_print_arr fun a ha => (h a ha).printed
  have hspells : ∀ i ∈ items, Spells (fun fuel => item.read fuel depth) i.1.value i.2 := by
    intro i hi
    rw [hvalues i hi]
    exact (h i.2 (List.mem_map_of_mem hi)).spells
  rw [Shape.toJson, hprint] at hfuel ⊢
  have hread := readItems_brackets hspells blank_nil hfuel tail
  dsimp only at hread ⊢
  rw [brackets_append, Shape.read_list, hread]

/-- A choice is restored from its label. -/
theorem Shape.restores_choice {name : String} {doc : Option String} {variants : List (String × α)}
    {label : α → String} {law : ∀ a, variants.lookup (label a) = some a} (depth : Nat) (a : α) :
    (Shape.choice name doc variants label law).Restores depth a := by
  refine ⟨fun fuel _ tail _ => ?_, exists_begins (j := .str _) nofun⟩
  dsimp only
  rw [Shape.toJson, print_str_append, Shape.read, readChoice, skipBlank_cons (by decide)]
  dsimp only
  rw [if_pos rfl, readVariant, readString_printString]
  dsimp only
  rw [variantOf, law a]

/-- A record is written as an object, whose members fill the places of its fields. -/
theorem Shape.restores_record {name : String} {doc : Option String} {fields : Fields σ ρ}
    {build : ρ → α} {parts : α → ρ} {law : ∀ a, build (parts a) = a} {depth : Nat} {a : α}
    (hgathers : fields.Gathers depth fields.empty
      ((fields.toMembers (parts a)).map fun m => (m.1, m.2.print)) (fields.full (parts a)))
    (hmembers : ∀ m ∈ fields.toMembers (parts a), IsValue m.2.print ∧ Flush m.2.print) :
    (Shape.record name doc fields build parts law).Restores (depth + 1) a := by
  refine ⟨fun fuel hfuel tail _ => ?_, exists_begins (j := .obj _) nofun⟩
  obtain ⟨texts, htexts, hprint, hvalues⟩ := exists_print_obj hmembers
  -- The members of the text are the pairs that the places gather.
  rw [← htexts, ← map_pair_of_printed hvalues] at hgathers
  rw [Shape.toJson, hprint] at hfuel ⊢
  dsimp only
  rw [braces_append]
  exact Shape.read_object_eq_ok_iff.mpr ⟨_, _, readMembers_object hgathers blank_nil hfuel tail,
    fields.finish_full (parts a), law a⟩

end Shapes

mutual

/-- **What a shape writes it reads back**, wherever it stands. -/
theorem Shape.restores : {α : Type} → (shape : Shape α) → (depth : Nat) → {a : α} →
    shape.Writable depth a → shape.Restores depth a
  | _, .scalar _, depth, _, h => Shape.restores_scalar depth h
  | _, .any, _, _, h => h.elim
  | _, .option item, depth, none, _ => Shape.restores_none item depth
  | _, .option item, depth, some _, h => (item.restores depth h.2).some h.1
  | _, .list _, 0, _, h => h.elim
  | _, .list item, depth + 1, _, h =>
    Shape.restores_list fun a ha => item.restores depth (h a ha)
  | _, .choice _ _ _ _ _, depth, a, _ => Shape.restores_choice depth a
  | _, .record _ _ _ _ _ _, 0, _, h => h.elim
  | _, .record _ _ fields _ _ _, depth + 1, _, h => by
    obtain ⟨hgathers, hmembers⟩ := fields.gathers_toMembers depth h.1 h.2
    exact Shape.restores_record hgathers fun m hm => (hmembers m hm).2

/-- The printed members of a record fill the places of its fields. -/
theorem Fields.gathers_toMembers : {σ ρ : Type} → (fields : Fields σ ρ) → (depth : Nat) →
    {parts : ρ} → fields.keys.Nodup → fields.Writable depth parts →
    fields.Gathers depth fields.empty
      ((fields.toMembers parts).map fun m => (m.1, m.2.print)) (fields.full parts) ∧
    ∀ m ∈ fields.toMembers parts,
      m.1 ∈ fields.keys ∧ IsValue m.2.print ∧ Flush m.2.print
  | _, _, .nil, _, _, _, _ => ⟨.nil _, List.forall_mem_nil _⟩
  | _, _, .cons note shape rest, depth, (a, parts), hkeys, h => by
    obtain ⟨homits, ha, hparts⟩ := h
    obtain ⟨hkey, hkeys'⟩ := List.nodup_cons.mp hkeys
    have hrestores := shape.restores depth ha
    obtain ⟨hgathers, hmembers⟩ := rest.gathers_toMembers depth hkeys' hparts
    have hwrite : (Fields.cons note shape rest).toMembers (a, parts) =
        (note.key, shape.toJson a) :: rest.toMembers parts := by
      rw [Fields.toMembers, Note.write_of_not_omits homits]
    -- No later member has the key of this field.
    have hother : ∀ pair ∈ (rest.toMembers parts).map fun m => (m.1, m.2.print),
        pair.1 ≠ note.key := by
      intro pair hpair heq
      obtain ⟨m, hm, rfl⟩ := List.mem_map.mp hpair
      exact hkey (heq ▸ (hmembers m hm).1)
    obtain ⟨hvalues, hwithout⟩ := valuesOf_of_ne hother
    rw [hwrite]
    refine ⟨?_, List.forall_mem_cons.mpr ⟨⟨List.mem_cons_self, hrestores.printed⟩,
      fun m hm => ⟨List.mem_cons_of_mem _ (hmembers m hm).1, (hmembers m hm).2⟩⟩⟩
    refine Fields.gathers_cons_iff.mpr ⟨?_, ?_⟩
    · rw [List.map_cons, valuesOf_cons_self, hvalues]
      exact .one hrestores.spells
    · rw [List.map_cons, without_cons_self, hwithout]
      exact hgathers

end

end DialogStub.Json
