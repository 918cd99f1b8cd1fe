import DialogStub.Proofs.Json.ObjectText
import DialogStub.Proofs.Json.Object
import DialogStub.Proofs.Json.Words

/-!
# How a text spells a value

* `Json.Form` — a text is made of words, arrays and objects, and the value is made in the same way;
  an object keeps the last member of each key, in the order of the keys;
* `Json.spells_iff_form` — values are read from texts of this form, and from no others;
* `Json.ofBytes_eq_ok_iff` — and documents from such a text with white space around it;
* `Form.valid` — such a text is well-formed, so that no other document is read.

What is read is told by induction on the form from here on, and not by the reader.
-/

namespace DialogStub.Json

open Utf8 (Valid valid_append_cons_iff valid_append_iff_of_ascii valid_cons_iff)

/-- **How a text spells a value**, in which arrays and objects are nested `depth` deep. -/
inductive Form : (depth : Nat) → Bytes → Json → Prop where
  /-- A value that is no array and no object. -/
  | word {depth : Nat} {text : Bytes} {value : Json} (flush : Flush text)
      (reads : Consumes readStart text (.scalar value)) : Form depth text value
  /-- An array with its items. -/
  | list {depth : Nat} {inner : Bytes} {items : List (ItemText × Json)} (blank : Blank inner)
      (forms : ∀ item ∈ items, Form depth item.1.value item.2) :
      Form (depth + 1) (brackets inner (items.map Prod.fst)) (.arr (items.map Prod.snd))
  /-- An object with its members, of which it keeps the last of each key. -/
  | object {depth : Nat} {inner : Bytes} {members : List (MemberText × Json)}
      {kept : List (String × Json)} (blank : Blank inner)
      (forms : ∀ m ∈ members, Form depth m.1.value m.2) (order : InOrder kept)
      (last : kept.Perm (lasts (members.map fun m => (m.1.key, m.2)))) :
      Form (depth + 1) (braces inner (members.map Prod.fst)) (.obj kept)

/-- A scalar is read from a word. -/
theorem word_of_consumes {text : Bytes} {value : Json} (flush : Flush text)
    (reads : Consumes readStart text (.scalar value)) : Word text value := by
  have hread := reads [] endsNumber_nil
  rw [List.append_nil] at hread
  exact word_of_readStart flush hread

/-! ### Members of any object -/

section Members

variable {read : Nat → Bytes → Read Json}

/-- A member is put in front of those before. -/
theorem assigns_addMember_iff (hlocal : Local read) {key : String}
    {done next : List (String × Json)} {value : Bytes} :
    Assigns (fun fuel key done bs => addMember (read fuel) key done bs) key done value next ↔
      ∃ j, Spells read value j ∧ next = (key, j) :: done := by
  constructor
  · intro h
    -- The member is followed by nothing, and its value is read to the end.
    have hread := h (fuelFor value) [] [] [] (Nat.le_refl _) blank_nil blank_nil endsNumber_nil
    simp only [List.nil_append, List.append_nil] at hread
    rw [addMember, Json.readMember, show skipColon (0x3A :: value) = .ok value from rfl] at hread
    dsimp only at hread
    cases hvalue : read (fuelFor value) value with
    | error failure =>
      rw [hvalue] at hread
      cases hread
    | ok result =>
      obtain ⟨j, rest⟩ := result
      rw [hvalue] at hread
      cases hread
      exact ⟨j, hlocal.spells hvalue, rfl⟩
  · rintro ⟨j, hspells, rfl⟩ fuel gap indent tail hfuel hgap hindent htail
    dsimp only
    rw [addMember, readMember_spells hlocal hspells hfuel key hgap hindent htail]

/-- Members that are read one after the other are spelt by their values. -/
theorem exists_values_of_runs (hlocal : Local read) {members : List MemberText}
    {done last : List (String × Json)}
    (h : Runs (fun fuel key done bs => addMember (read fuel) key done bs) done
      (members.map MemberText.pair) last) :
    ∃ values : List (MemberText × Json), values.map Prod.fst = members ∧
      (∀ m ∈ values, Spells read m.1.value m.2) ∧
      last = (values.map fun m => (m.1.key, m.2)).reverse ++ done := by
  induction members generalizing done with
  | nil =>
    cases h
    exact ⟨[], rfl, List.forall_mem_nil _, rfl⟩
  | cons m members ih =>
    cases h with
    | cons hassigns hruns =>
      obtain ⟨j, hspells, rfl⟩ := (assigns_addMember_iff hlocal).mp hassigns
      obtain ⟨values, rfl, hvalues, rfl⟩ := ih hruns
      exact ⟨(m, j) :: values, rfl, List.forall_mem_cons.mpr ⟨hspells, hvalues⟩, by simp⟩

/-- Members whose values are spelt are read one after the other. -/
theorem runs_of_values (hlocal : Local read) {values : List (MemberText × Json)}
    (h : ∀ m ∈ values, Spells read m.1.value m.2) (done : List (String × Json)) :
    Runs (fun fuel key done bs => addMember (read fuel) key done bs) done
      ((values.map Prod.fst).map MemberText.pair)
      ((values.map fun m => (m.1.key, m.2)).reverse ++ done) := by
  induction values generalizing done with
  | nil => exact .nil _
  | cons m values ih =>
    obtain ⟨hm, hvalues⟩ := List.forall_mem_cons.mp h
    have hruns := ih hvalues ((m.1.key, m.2) :: done)
    simp only [List.map_cons, List.reverse_cons, List.append_assoc, List.singleton_append]
    exact .cons ((assigns_addMember_iff hlocal).mpr ⟨_, hm, rfl⟩) hruns

end Members

/-! ### Values -/

/-- What is read from a text is a word, or it begins with a bracket. -/
theorem cases_of_read {fuel depth : Nat} {text : Bytes} {j : Json} (flush : Flush text)
    (h : Json.read fuel depth text = .ok (j, [])) :
    Consumes readStart text (.scalar j) ∨ (∃ more, text = 0x5B :: more) ∨
      ∃ more, text = 0x7B :: more := by
  cases text with
  | nil => exact absurd h ((read_local depth).read_nil _ _)
  | cons b more =>
    -- The first byte tells what comes.
    cases hstart : readStart (b :: more) with
    | error failure =>
      rw [Json.read, hstart] at h
      cases h
    | ok result =>
      obtain ⟨start, rest⟩ := result
      rcases readStart_extent (flush_cons_iff.mp flush) hstart with
        ⟨value, used, rfl, hused, hconsumes, -⟩ | ⟨-, rfl, -⟩ | ⟨-, rfl, -⟩
      · rw [read_scalar hstart] at h
        cases h
        rw [List.append_nil] at hused
        exact .inl (hused ▸ hconsumes)
      · exact .inr (.inl ⟨more, rfl⟩)
      · exact .inr (.inr ⟨more, rfl⟩)

section Brackets

variable {fuel depth : Nat} {more : Bytes} {j : Json}

/-- An array has a form if what is read from its items has one. -/
theorem form_of_read_list
    (form : ∀ {value j}, Flush value → Spells (fun fuel => Json.read fuel depth) value j →
      Form depth value j)
    (h : Json.read fuel (depth + 1) (0x5B :: more) = .ok (j, [])) :
    Form (depth + 1) (0x5B :: more) j := by
  rw [read_list] at h
  split at h
  · cases h
  rename_i items rest hitems
  cases h
  obtain ⟨inner, items, hinner, hspells, rfl, rfl⟩ :=
    exists_items_of_readItems (read_local depth) hitems
  exact .list hinner fun item hitem => form item.1.value_flush (hspells item hitem)

/-- And so has an object if what is read from its members has one. -/
theorem form_of_read_object
    (form : ∀ {value j}, Flush value → Spells (fun fuel => Json.read fuel depth) value j →
      Form depth value j)
    (h : Json.read fuel (depth + 1) (0x7B :: more) = .ok (j, [])) :
    Form (depth + 1) (0x7B :: more) j := by
  rw [read_object] at h
  split at h
  · cases h
  rename_i members rest hmembers
  cases h
  obtain ⟨inner, members, hinner, hruns, rfl⟩ :=
    exists_text_of_readMembers (addMember_local (read_local depth)) hmembers
  obtain ⟨values, rfl, hspells, rfl⟩ := exists_values_of_runs (read_local depth) hruns
  rw [List.append_nil, List.reverse_reverse]
  obtain ⟨order, last⟩ := object_eq_iff.mp
    (rfl : object (values.map fun m => (m.1.key, m.2)) = .obj _)
  exact .object hinner (fun m hm => form m.1.value_flush (hspells m hm)) order last

end Brackets

/-- **Whatever is read has a form.** By induction on the depth. -/
theorem form_of_read {fuel depth : Nat} {text : Bytes} {j : Json} (flush : Flush text)
    (h : Json.read fuel depth text = .ok (j, [])) : Form depth text j := by
  induction depth generalizing fuel text j with
  | zero =>
    -- Where no bracket may be opened, only words can be read.
    rcases cases_of_read flush h with hword | ⟨more, rfl⟩ | ⟨more, rfl⟩
    · exact .word flush hword
    · rw [Json.read] at h
      cases h
    · rw [Json.read] at h
      cases h
  | succ depth ih =>
    -- What is inside is read one level deeper.
    have form {value : Bytes} {j : Json} (hflush : Flush value)
        (hspells : Spells (fun fuel => Json.read fuel depth) value j) : Form depth value j :=
      ih hflush ((read_local depth).spells_iff.mp hspells)
    rcases cases_of_read flush h with hword | ⟨more, rfl⟩ | ⟨more, rfl⟩
    · exact .word flush hword
    · exact form_of_read_list form h
    · exact form_of_read_object form h

namespace Form

variable {depth : Nat} {text : Bytes} {j : Json}

/-- A form has no white space before it. -/
theorem flush (h : Form depth text j) : Flush text := by
  cases h with
  | word flush reads => exact flush
  | list => exact flush_brackets _ _
  | object => exact flush_braces _ _

/-- A value is read from its form. By induction on the form. -/
theorem spells (h : Form depth text j) : Spells (fun fuel => Json.read fuel depth) text j := by
  induction h with
  | word flush reads => exact fun _ _ tail htail => read_scalar (reads tail htail)
  | @list depth inner items blank forms ih =>
    intro fuel hfuel tail _
    have hread := readItems_brackets ih blank hfuel tail
    dsimp only at hread ⊢
    rw [brackets_append, read_list, hread]
  | @object depth inner members kept blank forms order last ih =>
    intro fuel hfuel tail _
    have hread := readMembers_object (runs_of_values (read_local depth) ih []) blank hfuel tail
    dsimp only at hread ⊢
    rw [braces_append, read_object, hread]
    dsimp only
    rw [List.append_nil, List.reverse_reverse, object_eq_iff.mpr ⟨order, last⟩]

/-- Such a text is one value. -/
theorem isValue (h : Form depth text j) : IsValue text :=
  (read_local depth).isValue h.spells

end Form

/-- **Values are read from texts of this form**, and from no others. -/
theorem spells_iff_form {depth : Nat} {text : Bytes} {j : Json} (flush : Flush text) :
    Spells (fun fuel => Json.read fuel depth) text j ↔ Form depth text j :=
  ⟨fun h => form_of_read flush ((read_local depth).spells_iff.mp h), Form.spells⟩

/-- **A document** is such a text with white space around it. -/
theorem ofBytes_eq_ok_iff {bs : Bytes} {j : Json} :
    ofBytes bs = .ok j ↔ ∃ lead text trail, Blank lead ∧ Blank trail ∧
      bs = lead ++ (text ++ trail) ∧ Form maxDepth text j := by
  have hlocal := read_local maxDepth
  rw [ofBytes, readDocument_eq_ok_iff]
  constructor
  · rintro ⟨rest, hread, hrest⟩
    obtain ⟨lead, hlead, heq, hflush⟩ := exists_blank bs
    rw [heq, hlocal.blank _ hlead] at hread
    obtain ⟨text, htext, hspells, hvalue⟩ := hlocal.extent hread
    rw [htext, flush_append_iff hvalue.ne_nil] at hflush
    exact ⟨lead, text, rest, hlead, hrest, by rw [← htext]; exact heq,
      (spells_iff_form hflush).mp hspells⟩
  · rintro ⟨lead, text, trail, hlead, htrail, rfl, hform⟩
    refine ⟨trail, ?_, htrail⟩
    -- The fuel of the document is enough for the value in it.
    have hfuel : fuelFor text ≤ fuelFor (lead ++ (text ++ trail)) := by
      simp only [fuelFor, List.length_append]
      omega
    have hends : EndsNumber trail := by
      have := htrail.endsNumber endsNumber_nil
      rwa [List.append_nil] at this
    rw [hlocal.blank _ hlead]
    exact hform.spells _ hfuel trail hends

/-! ### Well-formed documents -/

theorem ItemText.valid_text_iff (i : ItemText) : Valid i.text ↔ Valid i.value := by
  rw [text, valid_append_iff_of_ascii i.lead_blank.ascii, valid_append_blank_iff i.trail_blank]

/-- An array is UTF-8 if its items are. -/
theorem valid_brackets_iff {inner : Bytes} (h : Blank inner) (items : List ItemText) :
    Valid (brackets inner items) ↔ ∀ i ∈ items, Valid i.value := by
  rw [brackets, valid_cons_iff (by decide), valid_append_iff_of_ascii h.ascii, itemsText,
    valid_commaSeparated_append_iff (by decide), List.forall_mem_map]
  simp [ItemText.valid_text_iff, Utf8.valid_nil]

/-- An object is UTF-8 if its keys and values are. -/
theorem valid_keyedBraces_iff {inner : Bytes} (h : Blank inner) (members : List KeyedText) :
    Valid (keyedBraces inner members) ↔ ∀ k ∈ members, Valid k.spelling ∧ Valid k.value := by
  rw [keyedBraces, valid_cons_iff (by decide), valid_append_iff_of_ascii h.ascii, keyedText,
    valid_commaSeparated_append_iff (by decide), List.forall_mem_map]
  simp [KeyedText.valid_text_iff, Utf8.valid_nil]

/-- The spelling of a key is well-formed, as the key is. -/
theorem MemberText.valid_spelling (m : MemberText) : Valid m.spelling := by
  obtain ⟨used, heq, hspelling⟩ := valid_of_readString m.spelling_reads
  rw [List.append_nil] at heq
  exact heq ▸ hspelling

/-- **An object is well-formed** if all its values are. -/
theorem valid_braces_iff {inner : Bytes} (h : Blank inner) (members : List MemberText) :
    Valid (braces inner members) ↔ ∀ m ∈ members, Valid m.value := by
  rw [braces_eq_keyedBraces, valid_keyedBraces_iff h, List.forall_mem_map]
  exact forall₂_congr fun m _ => and_iff_right m.valid_spelling

/-- **What is read is well-formed.** By induction on the form: a string is, and all other bytes are
    ASCII. -/
theorem Form.valid {depth : Nat} {text : Bytes} {j : Json} (h : Form depth text j) :
    Valid text := by
  induction h with
  | word flush reads => exact (word_of_consumes flush reads).valid
  | list blank forms ih =>
    refine (valid_brackets_iff blank _).mpr fun i hi => ?_
    obtain ⟨item, hitem, rfl⟩ := List.mem_map.mp hi
    exact ih item hitem
  | object blank forms order last ih =>
    refine (valid_braces_iff blank _).mpr fun m hm => ?_
    obtain ⟨member, hmember, rfl⟩ := List.mem_map.mp hm
    exact ih member hmember

/-- **No other document is read.** -/
theorem valid_of_ofBytes {bs : Bytes} {j : Json} (h : ofBytes bs = .ok j) : Valid bs := by
  obtain ⟨lead, text, trail, hlead, htrail, rfl, hform⟩ := ofBytes_eq_ok_iff.mp h
  have htext := (valid_append_blank_iff htrail).mpr hform.valid
  exact (valid_append_iff_of_ascii hlead.ascii).mpr htext

end DialogStub.Json
