import DialogStub.Json.Shape.Reader
import DialogStub.Proofs.Json.Token

/-!
# Reading printed objects

* `Json.Behind` — what stands behind a value inside brackets;
* `Json.Takes` — a reader of members that takes printed members one after the other;
* `Json.readMembers_of_takes` — such members are read up to the end of their object;
* `Shape.Reads`, `Fields.Accepts` — what a shape reads from a printed value, and where its fields
  put a printed member;
* `Shape.ofBytes_print` — a record is read from a whole printed object.

A reader never looks behind the value that it reads, but for the one byte that ends a number. So
every lemma is stated with the bytes that follow, and they are put together like the text.
-/

namespace DialogStub.Json

/-! ### What stands behind a value -/

/-- What stands behind a value inside brackets: a comma, or the end of the bracket. -/
def Behind (tail : Bytes) : Prop :=
  ∃ b more, tail = b :: more ∧ (b = 0x2C ∨ b = 0x5D ∨ b = 0x7D)

/-- A number may end before a comma or a bracket. -/
theorem Behind.endsNumber {tail : Bytes} (h : Behind tail) : EndsNumber tail := by
  obtain ⟨b, more, rfl, hb⟩ := h
  intro x hx
  cases hx
  rcases hb with rfl | rfl | rfl <;> decide

/-! ### Values that are passed over -/

theorem print_str_append (s : String) (tail : Bytes) :
    print (.str s) ++ tail = 0x22 :: (s.toList.flatMap printChar ++ 0x22 :: tail) := by
  simp [print, printString]

/-- A value of one word is passed over with its word. -/
theorem skipValue_of_skipScalar {fuel : Nat} {b : UInt8} {rest tail : Bytes} (hfuel : 2 ≤ fuel)
    (hspace : isSpace b = false) (hlist : b ≠ 0x5B) (hobject : b ≠ 0x7B)
    (h : skipScalar b rest = .ok tail) : skipValue fuel (b :: rest) = .ok tail := by
  obtain ⟨n, rfl⟩ : ∃ n, fuel = n + 2 := ⟨fuel - 2, by omega⟩
  have hblank : skipBlank (b :: rest) = b :: rest := by
    rw [skipBlank, hspace]
    rfl
  rw [skipValue, skipFrom, hblank]
  dsimp only
  rw [if_neg hlist, if_neg hobject, h]
  rfl

/-- A printed text is passed over. -/
theorem skipValue_print_str {fuel : Nat} (hfuel : 2 ≤ fuel) (s : String) (tail : Bytes) :
    skipValue fuel (print (.str s) ++ tail) = .ok tail := by
  rw [print_str_append]
  refine skipValue_of_skipScalar hfuel (by decide) (by decide) (by decide) ?_
  exact skipString_printString s tail

/-- A printed flag is passed over. -/
theorem skipValue_print_bool {fuel : Nat} (hfuel : 2 ≤ fuel) (b : Bool) (tail : Bytes) :
    skipValue fuel (print (.bool b) ++ tail) = .ok tail := by
  cases b with
  | false => exact skipValue_of_skipScalar hfuel (by decide) (by decide) (by decide) rfl
  | true => exact skipValue_of_skipScalar hfuel (by decide) (by decide) (by decide) rfl

/-- A minus or a digit is no other byte. -/
theorem ne_of_startsNumber {b x : UInt8} (h : b = 0x2D ∨ (digit? b).isSome = true)
    (hminus : x ≠ 0x2D) (hdigit : digit? x = none) : b ≠ x := by
  rintro rfl
  rw [hdigit] at h
  exact h.elim hminus nofun

/-- A byte that begins a number begins nothing else. -/
theorem skipScalar_number {b : UInt8} (h : b = 0x2D ∨ (digit? b).isSome = true) (rest : Bytes) :
    isSpace b = false ∧ b ≠ 0x5B ∧ b ≠ 0x7B ∧ skipScalar b rest = skipNumber (b :: rest) := by
  have hne {x : UInt8} (hminus : x ≠ 0x2D) (hdigit : digit? x = none) : b ≠ x :=
    ne_of_startsNumber h hminus hdigit
  refine ⟨?_, hne (by decide) (by decide), hne (by decide) (by decide), ?_⟩
  · have hblank : b ≠ 0x20 := hne (by decide) (by decide)
    have htab : b ≠ 0x09 := hne (by decide) (by decide)
    have hfeed : b ≠ 0x0A := hne (by decide) (by decide)
    have hreturn : b ≠ 0x0D := hne (by decide) (by decide)
    simp [isSpace, hblank, htab, hfeed, hreturn]
  · rw [skipScalar, if_neg (hne (by decide) (by decide)), if_neg (hne (by decide) (by decide)),
      if_neg (hne (by decide) (by decide)), if_neg (hne (by decide) (by decide)), if_pos h]

/-- A printed integer is passed over. -/
theorem skipValue_print_int {fuel : Nat} (hfuel : 2 ≤ fuel) (n : Int) {tail : Bytes}
    (h : Behind tail) : skipValue fuel (print (.int n) ++ tail) = .ok tail := by
  obtain ⟨b, more, htext, hb, hskip⟩ := exists_print_int_eq n
  obtain ⟨hspace, hlist, hobject, hscalar⟩ := skipScalar_number hb (more ++ tail)
  rw [htext, List.cons_append]
  refine skipValue_of_skipScalar hfuel hspace hlist hobject ?_
  rw [hscalar]
  exact hskip tail h.endsNumber

/-! ### Printed members -/

/-- The text of a member. -/
def memberText (m : String × Json) : Bytes :=
  printString m.1 ++ 0x3A :: m.2.print

/-- The text behind a member: the members that follow, each behind a comma, and the end. -/
def restText (members : List (String × Json)) (rest : Bytes) : Bytes :=
  members.flatMap (fun m => 0x2C :: memberText m) ++ 0x7D :: rest

/-- A comma or a brace stands before the members that follow. -/
theorem behind_restText (members : List (String × Json)) (rest : Bytes) :
    Behind (restText members rest) := by
  cases members with
  | nil => exact ⟨0x7D, rest, rfl, .inr (.inr rfl)⟩
  | cons m members => exact ⟨0x2C, _, rfl, .inl rfl⟩

/-- A printed member in front of a text. -/
theorem memberText_append (key : String) (value : Json) (tail : Bytes) :
    memberText (key, value) ++ tail
      = 0x22 :: (key.toList.flatMap printChar ++ 0x22 :: 0x3A :: (value.print ++ tail)) := by
  simp [memberText, printString]

/-- Printed members that follow begin with a comma. -/
theorem restText_cons (key : String) (value : Json) (members : List (String × Json))
    (rest : Bytes) : restText ((key, value) :: members) rest
      = 0x2C :: 0x22 :: (key.toList.flatMap printChar ++
          0x22 :: 0x3A :: (value.print ++ restText members rest)) := by
  rw [← memberText_append, restText, restText, List.flatMap_cons]
  simp

/-- The first printed member has no comma before it. -/
theorem printMembers_cons (key : String) (value : Json) (members : List (String × Json))
    (rest : Bytes) : commaSeparated (printMembers ((key, value) :: members)) ++ 0x7D :: rest
      = 0x22 :: (key.toList.flatMap printChar ++
          0x22 :: 0x3A :: (value.print ++ restText members rest)) := by
  rw [← memberText_append]
  induction members generalizing key value with
  | nil => rfl
  | cons m members ih =>
    obtain ⟨key', value'⟩ := m
    have hnext := ih key' value'
    rw [printMembers] at hnext ⊢
    rw [printMembers, commaSeparated, List.append_assoc, List.cons_append, hnext,
      restText_cons, ← memberText_append]
    · rfl
    · simp

/-- Printed members that a reader takes one after the other, each with the colon before its
    value. -/
inductive Takes {σ : Type} (member : String → σ → Bytes → Read σ) :
    σ → List (String × Json) → σ → Prop where
  | nil (state : σ) : Takes member state [] state
  | cons {state next last : σ} {key : String} {value : Json} {members : List (String × Json)}
      (h : ∀ tail, Behind tail →
        member key state (0x3A :: (value.print ++ tail)) = .ok (next, tail))
      (rest : Takes member next members last) : Takes member state ((key, value) :: members) last

section Members

variable {σ : Type} {member : String → σ → Bytes → Read σ}

/-- A member is read behind its opening quote. -/
theorem readMembers_next {fuel : Nat} {first : Bool} {state next : σ} {key : String}
    {value : Json} {bs tail : Bytes}
    (hnext : nextMember first bs
      = .ok (some (key.toList.flatMap printChar ++ 0x22 :: 0x3A :: (value.print ++ tail))))
    (h : member key state (0x3A :: (value.print ++ tail)) = .ok (next, tail)) :
    readMembers member (fuel + 1) first state bs = readMembers member fuel false next tail := by
  rw [readMembers, hnext]
  dsimp only
  rw [readString_printString]
  dsimp only
  rw [h]

/-- By induction on the members that are left: behind each of them stands a comma, or the end. -/
theorem readMembers_rest {fuel : Nat} {state last : σ} {members : List (String × Json)}
    (h : Takes member state members last) (hfuel : members.length < fuel) (rest : Bytes) :
    readMembers member fuel false state (restText members rest) = .ok (last, rest) := by
  induction h generalizing fuel with
  | nil state =>
    obtain ⟨n, rfl⟩ : ∃ n, fuel = n + 1 := ⟨fuel - 1, by simp at hfuel; omega⟩
    rfl
  | @cons state next last key value members hmember _ ih =>
    obtain ⟨n, rfl⟩ : ∃ n, fuel = n + 1 := ⟨fuel - 1, by simp at hfuel; omega⟩
    rw [restText_cons, readMembers_next rfl (hmember _ (behind_restText members rest))]
    exact ih (by simp at hfuel; omega)

/-- **Printed members are read** up to the end of their object. -/
theorem readMembers_of_takes {fuel : Nat} {state last : σ} {members : List (String × Json)}
    (h : Takes member state members last) (hfuel : members.length < fuel) (rest : Bytes) :
    readMembers member fuel true state (commaSeparated (printMembers members) ++ 0x7D :: rest)
      = .ok (last, rest) := by
  obtain ⟨n, rfl⟩ : ∃ n, fuel = n + 1 := ⟨fuel - 1, by omega⟩
  cases h with
  | nil => rfl
  | @cons _ next _ key value members hmember htakes =>
    rw [printMembers_cons, readMembers_next rfl (hmember _ (behind_restText members rest))]
    exact readMembers_rest htakes (by simp at hfuel; omega) rest

end Members

/-! ### Shapes -/

/-- A shape reads a value from its text, whatever stands behind it. -/
def Shape.Reads {α : Type} (shape : Shape α) (value : Json) (a : α) : Prop :=
  ∀ fuel depth tail, Behind tail → shape.read fuel depth (value.print ++ tail) = .ok (a, tail)

/-- A printed text begins with its quote and is read as one. -/
theorem readStart_str (s : String) (tail : Bytes) :
    readStart (print (.str s) ++ tail) = .ok (.scalar (.str s), tail) := by
  have hblank : skipBlank (print (.str s) ++ tail) =
      0x22 :: (s.toList.flatMap printChar ++ 0x22 :: tail) := by
    rw [print_str_append]
    rfl
  rw [readStart, hblank]
  dsimp only
  rw [if_neg (by decide), if_neg (by decide), if_neg (by decide), if_pos rfl,
    readString_printString]

/-- A text is read back. -/
theorem Shape.reads_text (s : String) : Shape.text.Reads (.str s) s := by
  intro fuel depth tail _
  rw [Shape.read, Scalar.read, readStart_str]
  rfl

/-- An option is read like what it holds, unless its text begins like `null`. -/
theorem Shape.read_option {α : Type} {item : Shape α} {fuel depth : Nat} {bs rest : Bytes}
    {b : UInt8} (h : skipBlank bs = b :: rest) (hb : b ≠ 0x6E) :
    (Shape.option item).read fuel depth bs = match item.read fuel depth (b :: rest) with
      | .error failure => .error failure
      | .ok (a, rest) => .ok (some a, rest) := by
  rw [Shape.read, h]
  split
  · rename_i heq
    exact absurd (List.cons.inj heq).1 hb
  · rfl

/-- A text that may be missing is read back. -/
theorem Shape.reads_option_text (s : String) : (Shape.option .text).Reads (.str s) (some s) := by
  intro fuel depth tail h
  have hblank : skipBlank (print (.str s) ++ tail) =
      0x22 :: (s.toList.flatMap printChar ++ 0x22 :: tail) := by
    rw [print_str_append]
    rfl
  rw [Shape.read_option hblank (by decide), ← print_str_append,
    Shape.reads_text s fuel depth tail h]

/-! ### Fields -/

/-- Fields put a printed member into their places, or pass it over. The fuel is what a member of one
    word needs. -/
def Fields.Accepts {σ ρ : Type} (fields : Fields σ ρ) (key : String) (value : Json)
    (slots slots' : σ) : Prop :=
  ∀ fuel depth tail, 2 ≤ fuel → Behind tail →
    fields.readMember key fuel depth slots (0x3A :: (value.print ++ tail)) = .ok (slots', tail)

namespace Fields.Accepts

variable {α σ ρ : Type} {note : Note α} {shape : Shape α} {rest : Fields σ ρ} {value : Json}

/-- The member of the first field, whose place is empty. -/
theorem here {a : α} {slots : σ} (h : shape.Reads value a) :
    (Fields.cons note shape rest).Accepts note.key value (none, slots) (some a, slots) := by
  intro fuel depth tail _ htail
  have hcolon : skipColon (0x3A :: (value.print ++ tail)) = .ok (value.print ++ tail) := rfl
  rw [Fields.readMember, if_pos rfl, Json.readMember, hcolon]
  dsimp only
  rw [h fuel depth tail htail]

/-- The member of another field, or of none. -/
theorem there {key : String} {slot : Option α} {slots slots' : σ} (hkey : note.key ≠ key)
    (h : rest.Accepts key value slots slots') :
    (Fields.cons note shape rest).Accepts key value (slot, slots) (slot, slots') := by
  intro fuel depth tail hfuel htail
  cases slot with
  | none => rw [Fields.readMember, if_neg hkey, h fuel depth tail hfuel htail]
  | some a => rw [Fields.readMember, if_neg hkey, h fuel depth tail hfuel htail]

/-- A member that belongs to no field is passed over. -/
theorem unknown {key : String}
    (h : ∀ fuel tail, 2 ≤ fuel → Behind tail → skipValue fuel (value.print ++ tail) = .ok tail) :
    Fields.nil.Accepts key value () () := by
  intro fuel depth tail hfuel htail
  have hcolon : skipColon (0x3A :: (value.print ++ tail)) = .ok (value.print ++ tail) := rfl
  rw [Fields.readMember, skipMember, hcolon]
  dsimp only
  rw [h fuel tail hfuel htail]

theorem unknown_str {key : String} (s : String) : Fields.nil.Accepts key (.str s) () () :=
  unknown fun _ tail hfuel _ => skipValue_print_str hfuel s tail

theorem unknown_bool {key : String} (b : Bool) : Fields.nil.Accepts key (.bool b) () () :=
  unknown fun _ tail hfuel _ => skipValue_print_bool hfuel b tail

theorem unknown_int {key : String} (n : Int) : Fields.nil.Accepts key (.int n) () () :=
  unknown fun _ _ hfuel htail => skipValue_print_int hfuel n htail

end Fields.Accepts

/-- Printed members that fields put into their places one after the other. -/
inductive Fields.Fills {σ ρ : Type} (fields : Fields σ ρ) :
    σ → List (String × Json) → σ → Prop where
  | nil (slots : σ) : fields.Fills slots [] slots
  | cons {slots next last : σ} {key : String} {value : Json} {members : List (String × Json)}
      (h : fields.Accepts key value slots next) (rest : fields.Fills next members last) :
      fields.Fills slots ((key, value) :: members) last

/-- Members that fill the places are taken by the reader. -/
theorem Fields.Fills.takes {σ ρ : Type} {fields : Fields σ ρ} {slots last : σ}
    {members : List (String × Json)} (h : fields.Fills slots members last) {fuel : Nat}
    (hfuel : 2 ≤ fuel) (depth : Nat) :
    Takes (fun key slots bs => fields.readMember key fuel depth slots bs) slots members last := by
  induction h with
  | nil slots => exact .nil slots
  | cons h _ ih => exact .cons (fun tail htail => h fuel depth tail hfuel htail) ih

/-! ### Records -/

/-- There are no more members than bytes. -/
theorem length_le_restText (members : List (String × Json)) (rest : Bytes) :
    members.length ≤ (restText members rest).length := by
  induction members with
  | nil => exact Nat.zero_le _
  | cons m members ih =>
    obtain ⟨key, value⟩ := m
    rw [restText_cons]
    simp
    omega

/-- A member takes at least one byte. -/
theorem length_le_print (members : List (String × Json)) :
    members.length ≤ (print (.obj members)).length := by
  suffices members.length ≤ (commaSeparated (printMembers members) ++ [0x7D]).length by
    rw [print]
    exact Nat.le_succ_of_le this
  cases members with
  | nil => exact Nat.zero_le _
  | cons m members =>
    obtain ⟨key, value⟩ := m
    rw [printMembers_cons]
    have hrest := length_le_restText members []
    simp
    omega

/-- An object is read member by member. -/
theorem Shape.read_object {σ ρ α : Type} {name : String} {doc : Option String}
    {fields : Fields σ ρ} {build : ρ → α} {parts : α → ρ} {law : ∀ a, build (parts a) = a}
    {fuel depth : Nat} {bs rest : Bytes} (h : skipBlank bs = 0x7B :: rest) :
    (Shape.record name doc fields build parts law).read fuel (depth + 1) bs =
      match readMembers (fun key slots bs => fields.readMember key fuel depth slots bs) fuel true
          fields.empty rest with
      | .error failure => .error failure
      | .ok (slots, rest) => match fields.finish slots with
        | .error key => .error (.before (.missing key) rest)
        | .ok parts => .ok (build parts, rest) := by
  rw [Shape.read, h]
  rfl

/-- **A record is read from a printed object** whose members fill the places of its fields. -/
theorem Shape.ofBytes_print {σ ρ α : Type} {name : String} {doc : Option String}
    {fields : Fields σ ρ} {build : ρ → α} {parts : α → ρ} {law : ∀ a, build (parts a) = a}
    {members : List (String × Json)} (slots : σ) (values : ρ)
    (h : fields.Fills fields.empty members slots) (hvalues : fields.finish slots = .ok values) :
    (Shape.record name doc fields build parts law).ofBytes (print (.obj members))
      = .ok (build values) := by
  -- The text is longer than its members are many, so that the fuel for it is enough for them.
  have hlength := length_le_print members
  have hfuel : 2 ≤ fuelFor (print (.obj members)) := by
    rw [fuelFor]
    omega
  have hfuel' : members.length < fuelFor (print (.obj members)) := by
    rw [fuelFor]
    omega
  have hblank : skipBlank (print (.obj members)) =
      0x7B :: (commaSeparated (printMembers members) ++ [0x7D]) := by
    rw [print]
    rfl
  have hread : (Shape.record name doc fields build parts law).read (fuelFor (print (.obj members)))
      maxDepth (print (.obj members)) = .ok (build values, []) := by
    rw [maxDepth, Shape.read_object hblank, readMembers_of_takes (h.takes hfuel 126) hfuel' []]
    dsimp only
    rw [hvalues]
  rw [Shape.ofBytes, readDocument, hread]
  rfl

/-! ### Objects of texts -/

/-- A text is added to the members that are there, last first. -/
theorem addMember_str (fuel depth : Nat) (key text : String) (done : List (String × Json))
    (tail : Bytes) :
    addMember (read fuel depth) key done (0x3A :: (print (.str text) ++ tail)) =
      .ok ((key, .str text) :: done, tail) := by
  have hcolon : skipColon (0x3A :: (print (.str text) ++ tail)) = .ok (print (.str text) ++ tail) :=
    rfl
  have hvalue : read fuel depth (print (.str text) ++ tail) = .ok (.str text, tail) := by
    rw [read, readStart_str]
  rw [addMember, Json.readMember, hcolon]
  dsimp only
  rw [hvalue]

/-- Texts are added one behind the other. -/
theorem takes_texts (fuel depth : Nat) (texts : List (String × String))
    (done : List (String × Json)) :
    Takes (addMember (read fuel depth)) done (texts.map fun m => (m.1, .str m.2))
      ((texts.map fun m => (m.1, .str m.2)).reverse ++ done) := by
  induction texts generalizing done with
  | nil => exact .nil _
  | cons m texts ih =>
    refine .cons (fun tail _ => addMember_str fuel depth m.1 m.2 done tail) ?_
    rw [List.map_cons, List.reverse_cons, List.append_assoc]
    exact ih _

/-- **An object of texts** is read back, whatever characters are in the texts. -/
theorem ofBytes_print_texts (texts : List (String × String)) :
    ofBytes (print (.obj (texts.map fun m => (m.1, .str m.2)))) =
      .ok (object (texts.map fun m => (m.1, .str m.2))) := by
  have htakes := takes_texts (fuelFor (print (.obj (texts.map fun m => (m.1, .str m.2))))) 126
    texts []
  generalize texts.map (fun m => (m.1, Json.str m.2)) = members at htakes ⊢
  have hlength := length_le_print members
  have hfuel : members.length < fuelFor (print (.obj members)) := by
    rw [fuelFor]
    omega
  have hstart : readStart (print (.obj members)) =
      .ok (.bracket .object, print (.obj members)) := by
    rw [print]
    rfl
  -- Behind the brace, the members are taken one after the other.
  have hread : read (fuelFor (print (.obj members))) maxDepth (print (.obj members)) =
      .ok (object members, []) := by
    have hall := readMembers_of_takes htakes hfuel []
    have htail : (print (.obj members)).tail = commaSeparated (printMembers members) ++ [0x7D] := by
      rw [print]
      rfl
    rw [maxDepth, read, hstart]
    dsimp only
    rw [htail, hall]
    dsimp only
    rw [List.append_nil, List.reverse_reverse]
  rw [ofBytes, readDocument, hread]
  rfl

/-- An object with one text is read back as it was written. -/
theorem ofBytes_print_member (key text : String) :
    ofBytes (print (.obj [(key, .str text)])) = .ok (.obj [(key, .str text)]) :=
  ofBytes_print_texts [(key, text)]

end DialogStub.Json
