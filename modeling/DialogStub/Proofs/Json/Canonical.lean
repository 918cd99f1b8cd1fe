import DialogStub.Proofs.Json.Form

/-!
# The printed text of a value is canonical

* `Json.Integral` — all numbers of a value are integers that 64 bits hold;
* `Json.Ordered` — the keys of all its objects are in the order of their bytes;
* `Json.outside` — the bytes of a text that stand outside its strings;
* `Form.ordered` — a value that was read is ordered;
* `Form.print` — and is read from its printed text, if it is integral;
* `Form.length_print_le` — which is no longer than the text from which it was read;
* `Integral.solid` — and has no white space outside its strings.

A floating point number is left out: its printed text is another matter.
-/

namespace DialogStub.Json

/-- All numbers of a value are integers that 64 bits hold. -/
inductive Integral : Json → Prop where
  | null : Integral .null
  | bool (b : Bool) : Integral (.bool b)
  | int (n : Int) (range : -0x8000000000000000 ≤ n ∧ n < 0x10000000000000000) : Integral (.int n)
  | str (s : String) : Integral (.str s)
  | arr {items : List Json} (h : ∀ item ∈ items, Integral item) : Integral (.arr items)
  | obj {members : List (String × Json)} (h : ∀ m ∈ members, Integral m.2) :
      Integral (.obj members)

/-- The keys of all objects of a value are in the order of their bytes, and no key comes twice. -/
inductive Ordered : Json → Prop where
  | null : Ordered .null
  | bool (b : Bool) : Ordered (.bool b)
  | int (n : Int) : Ordered (.int n)
  | real (x : Binary64) : Ordered (.real x)
  | str (s : String) : Ordered (.str s)
  | arr {items : List Json} (h : ∀ item ∈ items, Ordered item) : Ordered (.arr items)
  | obj {members : List (String × Json)} (order : InOrder members)
      (h : ∀ m ∈ members, Ordered m.2) : Ordered (.obj members)

theorem Integral.ne_real {j : Json} (h : j.Integral) (x : Binary64) : j ≠ .real x := by
  rintro rfl
  cases h

/-- **A value that was read is ordered.** By induction on the form. -/
theorem Form.ordered {depth : Nat} {text : Bytes} {j : Json} (h : Form depth text j) :
    j.Ordered := by
  induction h with
  | word flush reads =>
    -- The words are told apart by what they mean.
    cases word_of_consumes flush reads with
    | null => exact .null
    | bool b => exact .bool b
    | int n => exact .int n
    | str => exact .str _
    | real x => exact .real x
  | list blank forms ih =>
    refine .arr fun j hj => ?_
    obtain ⟨item, hitem, rfl⟩ := List.mem_map.mp hj
    exact ih item hitem
  | object blank forms order last ih =>
    refine .obj order fun m hm => ?_
    -- A member that is kept was a member of the text.
    have hsource := (lasts_sublist _).subset (last.mem_iff.mp hm)
    obtain ⟨value, hvalue, rfl⟩ := List.mem_map.mp hsource
    exact ih value hvalue

/-! ### Printed arrays and objects -/

section Print

variable {depth : Nat}

/-- A printed array is of its form, if its items are. -/
theorem form_print_arr {items : List Json} (h : ∀ j ∈ items, Form depth j.print j) :
    Form (depth + 1) (Json.arr items).print (.arr items) := by
  obtain ⟨texts, hitems, hprint, hvalues⟩ :=
    exists_print_arr (fun j hj => ⟨(h j hj).isValue, (h j hj).flush⟩)
  have hforms : ∀ item ∈ texts, Form depth item.1.value item.2 := by
    intro item hitem
    rw [hvalues item hitem]
    exact h item.2 (hitems ▸ List.mem_map_of_mem hitem)
  rw [List.map_id'] at hprint
  rw [hprint, ← hitems]
  exact .list blank_nil hforms

/-- A printed object is of its form, if its members are in order and their values are of theirs. -/
theorem form_print_obj {members : List (String × Json)} (order : InOrder members)
    (h : ∀ m ∈ members, Form depth m.2.print m.2) :
    Form (depth + 1) (Json.obj members).print (.obj members) := by
  obtain ⟨texts, hmembers, hprint, hvalues⟩ :=
    exists_print_obj fun m hm => ⟨(h m hm).isValue, (h m hm).flush⟩
  have hforms : ∀ m ∈ texts, Form depth m.1.value m.2 := by
    intro m hm
    rw [hvalues m hm]
    exact h (m.1.key, m.2) (hmembers ▸ List.mem_map_of_mem hm)
  rw [hprint]
  refine .object blank_nil hforms order ?_
  rw [hmembers, order.lasts_eq]

end Print

/-- **A value is read from its printed text**, if it is integral. By induction on the form of the
    text from which it was read. -/
theorem Form.print {depth : Nat} {text : Bytes} {j : Json} (h : Form depth text j)
    (hj : j.Integral) : Form depth j.print j := by
  induction h with
  | word flush reads =>
    obtain ⟨b, more, htext, hbegins⟩ := exists_begins hj.ne_real
    exact .word (hbegins.flush htext) ((word_of_consumes flush reads).consumes_print hj.ne_real)
  | list blank forms ih =>
    -- The items are the values of the texts, and each is printed by itself.
    cases hj with
    | arr hitems =>
      refine form_print_arr fun j hj => ?_
      obtain ⟨item, hitem, rfl⟩ := List.mem_map.mp hj
      exact ih item hitem (hitems item.2 hj)
  | object blank forms order last ih =>
    cases hj with
    | obj hmembers =>
      refine form_print_obj order fun m hm => ?_
      have hsource := (lasts_sublist _).subset (last.mem_iff.mp hm)
      obtain ⟨value, hvalue, rfl⟩ := List.mem_map.mp hsource
      exact ih value hvalue (hmembers _ hm)

/-! ### The length of a printed text -/

section Lengths

variable {α : Type}

/-- The values of a function added up over a list. -/
def total (f : α → Nat) : List α → Nat
  | [] => 0
  | a :: as => f a + total f as

theorem total_cons (f : α → Nat) (a : α) (as : List α) : total f (a :: as) = f a + total f as := rfl

/-- Over the images of a list. -/
theorem total_map {β : Type} (f : β → Nat) (g : α → β) (as : List α) :
    total f (as.map g) = total (fun a => f (g a)) as := by
  induction as with
  | nil => rfl
  | cons a as ih => rw [List.map_cons, total_cons, ih, total_cons]

/-- The order does not count in a sum. -/
theorem total_perm {as bs : List α} (h : as.Perm bs) (f : α → Nat) : total f as = total f bs := by
  induction h with
  | nil => rfl
  | cons a _ ih => rw [total_cons, total_cons, ih]
  | swap a b as => exact Nat.add_left_comm _ _ _
  | trans _ _ ih ih' => exact ih.trans ih'

/-- Some of many, each of which is no greater. -/
theorem total_le_of_sublist {f g : α → Nat} {as bs : List α} (h : as.Sublist bs)
    (hle : ∀ a ∈ as, f a ≤ g a) : total f as ≤ total g bs := by
  induction h with
  | slnil => exact Nat.le_refl _
  | cons b _ ih =>
    rw [total_cons]
    exact Nat.le_trans (ih hle) (Nat.le_add_left _ _)
  | cons_cons a _ ih =>
    obtain ⟨ha, has⟩ := List.forall_mem_cons.mp hle
    exact Nat.add_le_add ha (ih has)

/-- Each part has a comma before it. -/
theorem length_flatMap_comma (parts : List Bytes) :
    (parts.flatMap fun part => 0x2C :: part).length =
      total (fun part => part.length + 1) parts := by
  induction parts with
  | nil => rfl
  | cons part parts ih =>
    rw [List.flatMap_cons, List.length_append, ih, total_cons, List.length_cons]

/-- Parts with a comma between each two have a byte less than parts with a comma behind each. -/
theorem length_commaSeparated (parts : List Bytes) :
    (commaSeparated parts).length = total (fun part => part.length + 1) parts - 1 := by
  cases parts with
  | nil => rfl
  | cons part parts =>
    rw [commaSeparated_cons, List.length_append, length_flatMap_comma, total_cons]
    omega

/-- The members are printed one by one. -/
theorem printMembers_eq_map (members : List (String × Json)) :
    printMembers members = members.map fun m => printString m.1 ++ 0x3A :: m.2.print := by
  induction members with
  | nil => rfl
  | cons m members ih => rw [printMembers, ih, List.map_cons]

/-- A member is no shorter than the printed one, if its value is not. -/
theorem length_printMember_le (m : MemberText) {j : Json} (h : j.print.length ≤ m.value.length) :
    (printString m.key ++ 0x3A :: j.print).length ≤ m.text.length := by
  have hkey := length_printString_le m.spelling_reads
  rw [List.length_nil, Nat.add_zero] at hkey
  simp only [MemberText.text, List.length_append, List.length_cons]
  omega

end Lengths

/-- **The printed text is no longer** than the text from which the value was read. By induction on
    the form: white space and members that are replaced only make a text longer. -/
theorem Form.length_print_le {depth : Nat} {text : Bytes} {j : Json} (h : Form depth text j)
    (hj : j.Integral) : j.print.length ≤ text.length := by
  induction h with
  | word flush reads => exact (word_of_consumes flush reads).length_print_le hj.ne_real
  | @list depth inner items blank forms ih =>
    cases hj with
    | arr hitems =>
      have htotal : total (fun item => item.2.print.length + 1) items ≤
          total (fun item => item.1.text.length + 1) items := by
        refine total_le_of_sublist (.refl _) fun item hitem => Nat.succ_le_succ ?_
        exact Nat.le_trans (ih item hitem (hitems _ (List.mem_map_of_mem hitem)))
          item.1.length_value_le
      rw [Json.print, printItems_eq_map, brackets, itemsText]
      simp only [List.length_cons, List.length_append, length_commaSeparated, List.map_map,
        total_map, Function.comp_apply, List.length_nil]
      omega
  | @object depth inner members kept blank forms order last ih =>
    cases hj with
    | obj hkept =>
      -- The members that are kept are some of those that were read.
      obtain ⟨sources, hsources, hlasts⟩ := List.sublist_map_iff.mp
        (lasts_sublist (members.map fun m => (m.1.key, m.2)))
      rw [hlasts] at last
      have htotal : total (fun m => (printString m.1.key ++ 0x3A :: m.2.print).length + 1) sources ≤
          total (fun m => m.1.text.length + 1) members := by
        refine total_le_of_sublist hsources fun m hm => Nat.succ_le_succ ?_
        have hmem := last.mem_iff.mpr (List.mem_map_of_mem hm)
        exact length_printMember_le m.1 (ih m (hsources.subset hm) (hkept _ hmem))
      have hsame := total_perm last fun m => (printString m.1 ++ 0x3A :: m.2.print).length + 1
      rw [total_map] at hsame
      rw [Json.print, printMembers_eq_map, braces, membersText]
      simp only [List.length_cons, List.length_append, length_commaSeparated, List.map_map,
        total_map, Function.comp_apply, List.length_nil] at htotal hsame ⊢
      omega

/-! ### White space outside strings -/

/-- Where a byte of a text stands: outside all strings, inside a string, or behind a backslash
    there. -/
inductive Region where
  | outside
  | inside
  | escape

/-- The bytes of a text that stand outside its strings. -/
def outside : Region → Bytes → Bytes
  | _, [] => []
  | .outside, b :: rest =>
    if b = 0x22 then outside .inside rest else b :: outside .outside rest
  | .inside, b :: rest =>
    if b = 0x22 then outside .outside rest
    else if b = 0x5C then outside .escape rest
    else outside .inside rest
  | .escape, _ :: rest => outside .inside rest

/-- A text with no white space outside its strings, each of which comes to its end. -/
def Solid (bs : Bytes) : Prop :=
  ∃ word, (∀ b ∈ word, isSpace b = false) ∧
    ∀ tail, outside .outside (bs ++ tail) = word ++ outside .outside tail

theorem solid_nil : Solid [] :=
  ⟨[], List.forall_mem_nil _, fun _ => rfl⟩

/-- Solid texts can be put together. -/
theorem Solid.append {bs bs' : Bytes} (h : Solid bs) (h' : Solid bs') : Solid (bs ++ bs') := by
  obtain ⟨word, hword, houtside⟩ := h
  obtain ⟨word', hword', houtside'⟩ := h'
  refine ⟨word ++ word', List.forall_mem_append.mpr ⟨hword, hword'⟩, fun tail => ?_⟩
  rw [List.append_assoc, houtside, houtside', List.append_assoc]

/-- A byte that is neither a quote nor white space. -/
theorem Solid.cons {b : UInt8} {bs : Bytes} (h : Solid bs) (hquote : b ≠ 0x22)
    (hspace : isSpace b = false) : Solid (b :: bs) := by
  obtain ⟨word, hword, houtside⟩ := h
  refine ⟨b :: word, List.forall_mem_cons.mpr ⟨hspace, hword⟩, fun tail => ?_⟩
  rw [List.cons_append, outside, if_neg hquote, houtside, List.cons_append]

/-- Bytes that are neither quotes nor white space are solid. -/
theorem solid_of_forall {bs : Bytes} (h : ∀ b ∈ bs, b ≠ 0x22 ∧ isSpace b = false) : Solid bs := by
  induction bs with
  | nil => exact solid_nil
  | cons b bs ih =>
    obtain ⟨⟨hquote, hspace⟩, hbs⟩ := List.forall_mem_cons.mp h
    exact (ih hbs).cons hquote hspace

/-- Bytes that can be looked at one by one. -/
theorem solid_of_all {bs : Bytes} (h : bs.all (fun b => b ≠ 0x22 && !isSpace b) = true) :
    Solid bs :=
  solid_of_forall fun b hb => by simpa using List.all_eq_true.mp h b hb

/-- A text as a whole. -/
theorem Solid.forall_outside {bs : Bytes} (h : Solid bs) :
    ∀ b ∈ outside .outside bs, isSpace b = false := by
  obtain ⟨word, hword, houtside⟩ := h
  have hall := houtside []
  rw [List.append_nil] at hall
  rw [hall, outside, List.append_nil]
  exact hword

/-- No byte that stands for itself ends a string. -/
theorem outside_plain {bs : Bytes} (h : ∀ b ∈ bs, IsPlain b) (tail : Bytes) :
    outside .inside (bs ++ tail) = outside .inside tail := by
  induction bs with
  | nil => rfl
  | cons b bs ih =>
    obtain ⟨⟨hquote, hslash, -⟩, hbs⟩ := List.forall_mem_cons.mp h
    rw [List.cons_append, outside, if_neg hquote, if_neg hslash, ih hbs]

/-- No printed character does. -/
theorem outside_printChar (c : Char) (tail : Bytes) :
    outside .inside (printChar c ++ tail) = outside .inside tail := by
  -- A character is escaped by a letter, spelt by digits, or stands for itself.
  rcases printChar_cases c with ⟨letter, htext, -⟩ | ⟨hcontrol, htext⟩ | ⟨htext, hplain⟩
  · rw [htext]
    rfl
  · have hdigit : ∀ d < 16, hexDigit d ≠ 0x22 ∧ hexDigit d ≠ 0x5C := by
      decide
    obtain ⟨hquote, hslash⟩ := hdigit (c.toNat / 16) (by omega)
    obtain ⟨hquote', hslash'⟩ := hdigit (c.toNat % 16) (by omega)
    rw [htext]
    show outside .inside (hexDigit (c.toNat / 16) :: hexDigit (c.toNat % 16) :: tail) = _
    rw [outside, if_neg hquote, if_neg hslash, outside, if_neg hquote', if_neg hslash']
  · rw [htext]
    exact outside_plain hplain tail

/-- A text between quotes is inside of them to its end. -/
theorem outside_flatMap_printChar (cs : List Char) (tail : Bytes) :
    outside .inside (cs.flatMap printChar ++ tail) = outside .inside tail := by
  induction cs with
  | nil => rfl
  | cons c cs ih => rw [List.flatMap_cons, List.append_assoc, outside_printChar, ih]

/-- So a printed string is solid. -/
theorem solid_printString (s : String) : Solid (printString s) := by
  refine ⟨[], List.forall_mem_nil _, fun tail => ?_⟩
  rw [printString, List.append_assoc, List.cons_append]
  show outside .inside (s.toList.flatMap printChar ++ ([0x22] ++ tail)) = _
  rw [outside_flatMap_printChar]
  rfl

/-- So are solid parts with commas between them. -/
theorem solid_commaSeparated {parts : List Bytes} (h : ∀ part ∈ parts, Solid part) :
    Solid (commaSeparated parts) := by
  induction parts with
  | nil => exact solid_nil
  | cons part parts ih =>
    obtain ⟨hpart, hparts⟩ := List.forall_mem_cons.mp h
    cases parts with
    | nil => exact hpart
    | cons part' parts =>
      rw [commaSeparated]
      · exact hpart.append ((ih hparts).cons (by decide) (by decide))
      · simp

/-- The digits and the sign of an integer. -/
theorem solid_print_int (n : Int) : Solid (Json.int n).print := by
  -- A digit is neither a quote nor white space.
  have hdigits (m : Nat) : ∀ b ∈ Utf8.encode (Nat.toDigits 10 m), b ≠ 0x22 ∧ isSpace b = false := by
    intro b hb
    obtain ⟨c, hc, hbc⟩ := List.mem_flatMap.mp hb
    obtain ⟨b', hencode, hdigit, -⟩ :=
      encodeChar_digit (Nat.isDigit_of_mem_toDigits (by decide) (by decide) hc)
    rw [hencode] at hbc
    obtain rfl := List.mem_singleton.mp hbc
    obtain ⟨hspace, -⟩ := skipScalar_number (.inr (by rw [hdigit]; rfl)) []
    refine ⟨?_, hspace⟩
    rintro rfl
    cases hdigit
  cases n with
  | ofNat m =>
    have hprint : (Json.int (.ofNat m)).print = Utf8.encode (Nat.toDigits 10 m) := print_ofNat m
    rw [hprint]
    exact solid_of_forall (hdigits m)
  | negSucc m =>
    rw [print_negSucc]
    exact (solid_of_forall (hdigits (m + 1))).cons (by decide) (by decide)

/-- **A printed text has no white space outside its strings.** By induction on the value. -/
theorem Integral.solid {j : Json} (h : j.Integral) : Solid j.print := by
  induction h with
  | null => exact solid_of_all (by decide)
  | bool b => cases b <;> exact solid_of_all (by decide)
  | int n => exact solid_print_int n
  | str s =>
    rw [print]
    exact solid_printString s
  | arr _ ih =>
    rw [print, printItems_eq_map]
    refine ((solid_commaSeparated fun part hpart => ?_).cons (by decide) (by decide)).append
      (solid_of_all (by decide))
    obtain ⟨item, hitem, rfl⟩ := List.mem_map.mp hpart
    exact ih item hitem
  | obj _ ih =>
    rw [print, printMembers_eq_map]
    refine ((solid_commaSeparated fun part hpart => ?_).cons (by decide) (by decide)).append
      (solid_of_all (by decide))
    obtain ⟨m, hm, rfl⟩ := List.mem_map.mp hpart
    exact (solid_printString m.1).append ((ih m hm).cons (by decide) (by decide))

end DialogStub.Json
