import DialogStub.Json.Shape.Reader
import DialogStub.Proofs.Json.Members

/-!
# Readers look at one value only

* `Json.Spells` — a text from which a reader takes a value, with enough fuel and whatever follows;
* `Json.Local` — whatever a reader takes is such a text, and one value to the scanner as well;
* `Json.BeforeItem` — what stands before an item of an array, which a reader and the scanner pass
  over;
* `Json.readMembers_extent` — members that are read in this way make an object of which that holds
  as well.

The fuel of a reader is bounded by the length of the whole text. A value needs no more of it than
its own length says, so that it can be moved to another text.
-/

namespace DialogStub.Json

/-! ### Local readers -/

/-- A reader takes `a` from `used`, with fuel that is enough for `used`. -/
def Spells {α : Type} (read : Nat → Bytes → Read α) (used : Bytes) (a : α) : Prop :=
  ∀ fuel, fuelFor used ≤ fuel → Consumes (read fuel) used a

/-- A reader passes over white space, and whatever it takes is one value that does not depend on
    what follows it. -/
structure Local {α : Type} (read : Nat → Bytes → Read α) : Prop where
  blank : ∀ fuel {blank : Bytes}, Blank blank → ∀ bs, read fuel (blank ++ bs) = read fuel bs
  extent : ∀ {fuel bs a rest}, read fuel bs = .ok (a, rest) →
    ∃ used, bs = used ++ rest ∧ Spells read used a ∧ IsValue used

/-- A longer text is given more fuel. -/
theorem fuelFor_append (front used : Bytes) : fuelFor used ≤ fuelFor (front ++ used) := by
  unfold fuelFor
  rw [List.length_append]
  omega

section Readers

variable {α β : Type} {read : Nat → Bytes → Read α}

/-- What a text spells is spelled with white space before it. -/
theorem Spells.blank_append {blank used : Bytes} {a : α} (h : Spells read used a)
    (hblank : Blank blank)
    (hskip : ∀ fuel {blank : Bytes}, Blank blank → ∀ bs, read fuel (blank ++ bs) = read fuel bs) :
    Spells read (blank ++ used) a := by
  intro fuel hfuel tail htail
  rw [List.append_assoc, hskip fuel hblank]
  exact h fuel (Nat.le_trans (fuelFor_append blank used) hfuel) tail htail

/-- A reader that passes over white space need only be followed from another byte on. -/
theorem Local.of_cons
    (hblank : ∀ fuel {blank : Bytes}, Blank blank → ∀ bs, read fuel (blank ++ bs) = read fuel bs)
    (hnil : ∀ fuel result, read fuel [] ≠ .ok result)
    (h : ∀ {fuel b bs a rest}, isSpace b = false → read fuel (b :: bs) = .ok (a, rest) →
      ∃ used, b :: bs = used ++ rest ∧ Spells read used a ∧ IsValue used) : Local read := by
  refine ⟨hblank, fun {fuel bs a rest} hread => ?_⟩
  -- The white space in front is split off first; the reader starts at the byte behind it.
  obtain ⟨blank, hblanks, heq, hfirst⟩ := exists_blank bs
  rw [heq, hblank fuel hblanks] at hread
  cases hbs : skipBlank bs with
  | nil =>
    rw [hbs] at hread
    exact absurd hread (hnil fuel _)
  | cons b more =>
    rw [hbs] at hread hfirst heq
    obtain ⟨used, hused, hspells, hvalue⟩ := h (hfirst b rfl) hread
    refine ⟨blank ++ used, ?_, hspells.blank_append hblanks hblank, hvalue.blank_append hblanks⟩
    rw [heq, hused, List.append_assoc]

/-! ### Scalars -/

/-- What a scalar makes of a value that is no array and no object. -/
theorem Scalar.read_eq {kind : Scalar α} {bs rest : Bytes} {value : Json}
    (h : readStart bs = .ok (.scalar value, rest)) :
    kind.read bs = match kind.ofJson value with
      | .error cause => .error (.before cause rest)
      | .ok a => .ok (a, rest) := by
  rewrite [Scalar.read, h]
  rfl

/-- The reader of a scalar takes the same whatever stands behind it. -/
theorem Scalar.read_local (kind : Scalar α) : Local fun (_ : Nat) => kind.read := by
  refine .of_cons (fun _ _ hblank bs => ?_) (fun _ _ => by rintro ⟨⟩) ?_
  · show kind.read _ = kind.read _
    rw [Scalar.read, Scalar.read, readStart_blank hblank]
  · intro fuel b bs a rest hspace h
    unfold Scalar.read at h
    -- Of what may begin here, only a scalar is taken.
    split at h
    · cases h
    · rename_i value rest' hstart
      rcases readStart_extent hspace hstart with ⟨_, used, heq, hused, hconsumes, hvalue⟩ |
        ⟨heq, -⟩ | ⟨heq, -⟩
      · cases heq
        cases hjson : kind.ofJson value with
        | error cause =>
          rw [hjson] at h
          cases h
        | ok a' =>
          rw [hjson] at h
          cases h
          refine ⟨used, hused, fun fuel' _ tail htail => ?_, hvalue⟩
          show kind.read (used ++ tail) = _
          rw [Scalar.read_eq (hconsumes tail htail), hjson]
      · cases heq
      · cases heq
    · cases h

/-! ### Items of arrays -/

/-- What is due at the first item of an array, or at another one. -/
def dueAt (first : Bool) : Due :=
  if first then .first else .next

theorem dueAt_ne_value (first : Bool) : dueAt first ≠ .value := by
  cases first <;> decide

/-- What stands before an item that begins with `b`: white space, and a comma unless it is the
    first. -/
structure BeforeItem (first : Bool) (front : Bytes) (b : UInt8) : Prop where
  space : isSpace b = false
  ne_close : b ≠ 0x5D
  front_eq : if first then Blank front else
    ∃ blank indent, Blank blank ∧ Blank indent ∧ front = blank ++ 0x2C :: indent

/-- There is no item before the bracket that closes. -/
theorem nextItem_close {first : Bool} {blank : Bytes} (h : Blank blank) (rest : Bytes) :
    nextItem first (blank ++ 0x5D :: rest) = .ok none := by
  rw [nextItem, skipBlank_append_cons h (by decide)]
  rfl

/-- The items end at their bracket. -/
theorem readItems_close {item : Bytes → Read α} {loop index : Nat} {done : List α} {blank : Bytes}
    (h : Blank blank) (rest : Bytes) :
    readItems item (loop + 1) index done (blank ++ 0x5D :: rest) = .ok (done.reverse, rest) := by
  rw [readItems, nextItem_close h]
  dsimp only
  rw [skipBlank_append_cons h (by decide)]
  rfl

/-- An item begins where it was led to. -/
theorem BeforeItem.nextItem {first : Bool} {front : Bytes} {b : UInt8}
    (h : BeforeItem first front b) (more : Bytes) :
    Json.nextItem first (front ++ b :: more) = .ok (some (b :: more)) := by
  obtain ⟨hspace, hclose, hfront⟩ := h
  -- The first item follows white space; each other one follows a comma too.
  cases first with
  | true =>
    rw [if_pos rfl] at hfront
    rw [Json.nextItem, skipBlank_append_cons hfront hspace]
    dsimp only
    rw [if_neg hclose, if_pos rfl]
  | false =>
    rw [if_neg (by decide)] at hfront
    obtain ⟨blank, indent, hblank, hindent, rfl⟩ := hfront
    rw [List.append_assoc, List.cons_append, Json.nextItem,
      skipBlank_append_cons hblank (by decide)]
    dsimp only
    rw [if_neg (by decide), if_neg (by decide), if_pos rfl, skipBlank_append_cons hindent hspace]
    dsimp only
    rw [if_neg hclose]

/-- An item that is one value is passed over with what led to it. -/
theorem BeforeItem.scans {first : Bool} {front : Bytes} {b : UInt8} (h : BeforeItem first front b)
    {more used : Bytes} (hvalue : IsValue (b :: more)) {stack : List Bracket}
    (hused : Scans .next (.list :: stack) used) :
    Scans (dueAt first) (.list :: stack) (front ++ ((b :: more) ++ used)) := by
  obtain ⟨hspace, hclose, hfront⟩ := h
  cases first with
  | true =>
    rw [if_pos rfl] at hfront
    have hfirst : Scans .first (.list :: stack) ((front ++ []) ++ ((b :: more) ++ used)) := by
      refine (hvalue.scans hused).first hfront (fun _ => rfl) (fun x hx => ?_)
      cases hx
      exact ⟨hspace, hclose⟩
    rwa [List.append_nil] at hfirst
  | false =>
    rw [if_neg (by decide)] at hfront
    obtain ⟨blank, indent, hblank, hindent, rfl⟩ := hfront
    have hcomma : Scans .next (.list :: stack)
        ((blank ++ 0x2C :: []) ++ ((indent ++ b :: more) ++ used)) :=
      ((hvalue.blank_append hindent).scans hused).comma hblank (fun _ => rfl)
    show Scans .next _ _
    simpa using hcomma

/-- What comes next: the end of the array, or an item. -/
theorem nextItem_extent {first : Bool} {bs : Bytes} {next : Option Bytes}
    (h : nextItem first bs = .ok next) :
    (next = none ∧ ∃ blank, Blank blank ∧ bs = blank ++ 0x5D :: (skipBlank bs).tail) ∨
    ∃ front b more, next = some (b :: more) ∧ bs = front ++ b :: more ∧
      BeforeItem first front b := by
  unfold nextItem at h
  split at h
  · cases h
  rename_i b rest hblank
  obtain ⟨blank, hblanks, heq, hspace⟩ := eq_append_of_skipBlank hblank
  by_cases hclose : b = 0x5D
  · subst hclose
    cases h
    exact .inl ⟨rfl, blank, hblanks, by rw [hblank]; exact heq⟩
  rw [if_neg hclose] at h
  cases first with
  | true =>
    cases h
    exact .inr ⟨blank, b, rest, rfl, heq, hspace, hclose, hblanks⟩
  -- Behind an item there is a comma, with an item and no end behind it.
  | false =>
    rw [if_neg (by decide)] at h
    split at h
    · rename_i hcomma
      subst hcomma
      split at h
      · cases h
      rename_i c more hblank'
      obtain ⟨indent, hindent, rfl, hspace'⟩ := eq_append_of_skipBlank hblank'
      split at h
      · cases h
      · rename_i hclose'
        cases h
        exact .inr ⟨blank ++ 0x2C :: indent, c, more, rfl, by rw [heq]; simp, hspace', hclose',
          blank, indent, hblanks, hindent, rfl⟩
    · cases h

/-- An item with what stands behind it, up to the end of the array: a local reader takes this item
    whatever stands behind the array. -/
theorem BeforeItem.extent (h : Local read) {first : Bool} {front : Bytes} {b : UInt8}
    (hbefore : BeforeItem first front b) {fuel : Nat} {more used' rest : Bytes} {a : α}
    (hitem : read fuel (b :: more) = .ok (a, used' ++ rest)) (hscans : Scans .next [.list] used') :
    ∃ used, front ++ b :: more = used ++ rest ∧ Scans (dueAt first) [.list] used ∧
      ∀ fuel' tail, fuelFor used ≤ fuel' → EndsNumber tail → fuelFor used' ≤ fuel' ∧
        ∃ more', used ++ tail = front ++ b :: more' ∧
          read fuel' (b :: more') = .ok (a, used' ++ tail) := by
  obtain ⟨used, hused, hspells, hvalue⟩ := h.extent hitem
  obtain ⟨w, rfl, rfl⟩ := hvalue.exists_cons hused
  have htext (rest : Bytes) :
      (front ++ ((b :: w) ++ used')) ++ rest = front ++ b :: (w ++ (used' ++ rest)) := by
    simp
  refine ⟨front ++ ((b :: w) ++ used'), (htext rest).symm, hbefore.scans hvalue hscans,
    fun fuel' tail hfuel htail => ?_⟩
  -- The text is at least as long as the item, and as what stands behind it.
  have hitem' : fuelFor (b :: w) ≤ fuel' := by
    refine Nat.le_trans ?_ hfuel
    simp only [fuelFor, List.length_append]
    omega
  rw [← List.append_assoc] at hfuel
  exact ⟨Nat.le_trans (fuelFor_append _ used') hfuel, w ++ (used' ++ tail), htext tail,
    hspells fuel' hitem' _ (hscans.endsNumber htail)⟩

/-- The end of an array, whatever is due. -/
theorem scans_closeList {blank : Bytes} (h : Blank blank) (first : Bool) :
    Scans (dueAt first) [.list] (blank ++ [0x5D]) := by
  have hclose : Scans (dueAt first) [.list] ((blank ++ [Bracket.list.close]) ++ []) :=
    Scans.nil.close (dueAt_ne_value first) h
  rwa [List.append_nil] at hclose

/-- An array, behind its bracket, as one value. -/
theorem isValue_list {used : Bytes} (h : Scans .first [.list] used) : IsValue (0x5B :: used) :=
  h.list blank_nil

theorem isValue_object {used : Bytes} (h : Scans .first [.object] used) : IsValue (0x7B :: used) :=
  h.object blank_nil

/-! ### Members of objects -/

/-- What a reader takes as a member is a colon and a text from which it takes the value. -/
theorem readMember_extent (h : Local read) {fuel : Nat} {key : String} {bs rest : Bytes} {a : α}
    (hread : readMember key (read fuel) bs = .ok (a, rest)) :
    ∃ gap indent value, Blank gap ∧ Blank indent ∧
      bs = gap ++ 0x3A :: (indent ++ (value ++ rest)) ∧ IsValue value ∧ Flush value ∧
      Spells read value a := by
  unfold readMember at hread
  split at hread
  · cases hread
  rename_i after hcolon
  obtain ⟨gap, hgap, rfl⟩ := skipColon_extent hcolon
  split at hread
  · cases hread
  rename_i result hvalue
  -- The reader passes over the white space behind the colon, so the value begins behind it.
  cases hread
  obtain ⟨indent, hindent, heq, hflush⟩ := exists_blank after
  rw [heq, h.blank fuel hindent] at hvalue
  obtain ⟨value, hused, hspells, hisValue⟩ := h.extent hvalue
  rw [hused, flush_append_iff hisValue.ne_nil] at hflush
  exact ⟨gap, indent, value, hgap, hindent, by rw [heq, hused], hisValue, hflush, hspells⟩

/-- A member whose value a reader takes is read. -/
theorem readMember_spells (h : Local read) {value : Bytes} {a : α} (hspells : Spells read value a)
    {fuel : Nat} (hfuel : fuelFor value ≤ fuel) (key : String) {gap indent : Bytes}
    (hgap : Blank gap) (hindent : Blank indent) {tail : Bytes} (htail : EndsNumber tail) :
    readMember key (read fuel) (gap ++ 0x3A :: (indent ++ (value ++ tail))) = .ok (a, tail) := by
  rw [readMember, skipColon_append hgap]
  dsimp only
  rw [h.blank fuel hindent, hspells fuel hfuel tail htail]

/-- A member that no field asks for is passed over. -/
theorem skipMember_extent {fuel : Nat} {key : String} {bs rest : Bytes}
    (h : skipMember fuel key bs = .ok rest) :
    ∃ gap indent value, Blank gap ∧ Blank indent ∧
      bs = gap ++ 0x3A :: (indent ++ (value ++ rest)) ∧ IsValue value ∧ Flush value := by
  unfold skipMember at h
  split at h
  · cases h
  rename_i after hcolon
  obtain ⟨gap, hgap, rfl⟩ := skipColon_extent hcolon
  split at h
  · cases h
  rename_i rest' hvalue
  cases h
  obtain ⟨indent, hindent, heq, hflush⟩ := exists_blank after
  -- Fuel was given for the value and its white space; it is enough for the value.
  have hskip : skipValue fuel (skipBlank after) = .ok rest := by
    rw [heq] at hvalue
    cases fuel with
    | zero => cases hvalue
    | succ fuel => rwa [skipValue, skipFrom_value_blank hindent] at hvalue
  obtain ⟨value, hused, hisValue⟩ := exists_isValue hskip
  rw [hused, flush_append_iff hisValue.ne_nil] at hflush
  exact ⟨gap, indent, value, hgap, hindent, by rw [heq, hused], hisValue, hflush⟩

/-- A member whose value is one value is passed over. -/
theorem skipMember_isValue {value : Bytes} (h : IsValue value) {fuel : Nat}
    (hfuel : fuelFor value ≤ fuel) (key : String) {gap indent : Bytes} (hgap : Blank gap)
    (hindent : Blank indent) {tail : Bytes} (htail : EndsNumber tail) :
    skipMember fuel key (gap ++ 0x3A :: (indent ++ (value ++ tail))) = .ok tail := by
  have hskip : skipValue fuel (indent ++ (value ++ tail)) = .ok tail := by
    have hvalue := h.skipValue hfuel tail htail
    cases fuel with
    | zero => cases hvalue
    | succ fuel => rwa [skipValue, skipFrom_value_blank hindent]
  rw [skipMember, skipColon_append hgap]
  dsimp only
  rw [hskip]

/-- **An object, behind its bracket.** What a reader of members takes is the same whatever stands
    behind the object, and is passed over as one. -/
theorem readMembers_extent {σ : Type} {member : Nat → String → σ → Bytes → Read σ}
    (hlocal : LocalMember member) {fuel : Nat} {state last : σ} {bs rest : Bytes}
    (h : readMembers (member fuel) fuel true state bs = .ok (last, rest)) :
    ∃ used, bs = used ++ rest ∧ IsValue (0x7B :: used) ∧
      ∀ fuel' tail, fuelFor (0x7B :: used) ≤ fuel' →
        readMembers (member fuel') fuel' true state (used ++ tail) = .ok (last, tail) := by
  obtain ⟨inner, members, hinner, hruns, heq⟩ := exists_text_of_readMembers hlocal h
  have htext (rest : Bytes) :
      (inner ++ membersText members []) ++ rest = inner ++ membersText members rest := by
    simp [membersText]
  -- The text of the members is what was used, as it does not depend on what stands behind it.
  refine ⟨inner ++ membersText members [], ?_, isValue_object (scans_text members hinner),
    fun fuel' tail hfuel => ?_⟩
  · rw [htext]
    exact heq
  · rw [htext]
    exact readMembers_object hruns hinner hfuel tail

end Readers

end DialogStub.Json
