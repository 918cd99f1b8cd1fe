import DialogStub.Proofs.Json.Items

/-!
# Choices look at one value only

* `Json.readVariantObject_member`, `Json.exists_member_of_readVariantObject` — an object stands for
  a variant if it has one member, whose key is the name and whose value is `null`, and only then;
* `Json.readChoice_local` — a choice is read from a string or from such an object.
-/

namespace DialogStub.Json

/-! ### Choices -/

section Choices

variable {α : Type} {variants : List (String × α)}

/-- A name is read if it is a string, and the name of a variant. -/
theorem readVariant_eq_ok_iff {bs rest : Bytes} {name : String} {a : α} :
    readVariant variants bs = .ok ((name, a), rest) ↔
      readString bs = .ok (name, rest) ∧ variants.lookup name = some a := by
  unfold readVariant variantOf
  constructor
  · intro h
    split at h
    · cases h
    rename_i name' rest' hread
    -- The string is one of the names, or the reader fails.
    cases hlookup : variants.lookup name' with
    | none =>
      rw [hlookup] at h
      cases h
    | some a' =>
      rw [hlookup] at h
      cases h
      exact ⟨hread, hlookup⟩
  · rintro ⟨hread, hlookup⟩
    rw [hread]
    dsimp only
    rw [hlookup]

/-- A name that is read has a spelling, which is also passed over as a string. -/
theorem readVariant_extent {bs rest : Bytes} {name : String} {a : α}
    (h : readVariant variants bs = .ok ((name, a), rest)) :
    ∃ spelling, bs = spelling ++ rest ∧ readString spelling = .ok (name, []) ∧
      (∀ tail, readVariant variants (spelling ++ tail) = .ok ((name, a), tail)) ∧
      ∀ tail, skipString .plain (spelling ++ tail) = .ok tail := by
  unfold readVariant at h
  split at h
  · cases h
  rename_i name' rest' hstring
  obtain ⟨spelling, rfl, hread, hskip⟩ := readString_extent hstring
  have hwhole := hread []
  rw [List.append_nil] at hwhole
  split at h
  · cases h
  rename_i a' hvariant
  cases h
  refine ⟨spelling, rfl, hwhole, fun tail => ?_, hskip⟩
  rw [readVariant, hread]
  dsimp only
  rw [hvariant]

/-- A closing bracket may have white space before it. -/
theorem closeVariant_extent {bs rest : Bytes} (h : closeVariant bs = .ok rest) :
    ∃ trail, Blank trail ∧ bs = trail ++ 0x7D :: rest := by
  unfold closeVariant at h
  split at h
  · cases h
  rename_i b more hblank
  obtain ⟨trail, htrail, rfl, -⟩ := eq_append_of_skipBlank hblank
  split at h
  · rename_i hclose
    subst hclose
    cases h
    exact ⟨trail, htrail, rfl⟩
  · cases h

/-- The value of the only member of such an object is a `null`. -/
theorem readNothing_extent {name : String} {bs rest : Bytes} (h : readNothing name bs = .ok rest) :
    ∃ indent used, Blank indent ∧ bs = indent ++ (used ++ rest) ∧ IsValue used ∧ Flush used ∧
      Consumes readStart used (.scalar .null) := by
  unfold readNothing at h
  split at h
  · cases h
  · rename_i rest' hstart
    cases h
    obtain ⟨indent, hindent, heq, hfirst⟩ := exists_blank bs
    rw [heq, readStart_blank hindent] at hstart
    -- The value begins behind the white space, with a byte that is none.
    cases hbs : skipBlank bs with
    | nil =>
      rw [hbs] at hstart
      cases hstart
    | cons b more =>
      rw [hbs] at hstart hfirst heq
      rcases readStart_extent (hfirst b rfl) hstart with
        ⟨_, used, hnull, hused, hconsumes, hvalue⟩ |
        ⟨hlist, -⟩ | ⟨hobject, -⟩
      · cases hnull
        have hflush : Flush used := (flush_append_iff hvalue.ne_nil).mp (hused ▸ hfirst)
        exact ⟨indent, used, hindent, by rw [heq, hused], hvalue, hflush, hconsumes⟩
      · cases hlist
      · cases hobject
  · cases h

/-- An object that begins with a quote has its first key there. -/
theorem readVariantObject_quote {bs rest : Bytes} (h : skipBlank bs = 0x22 :: rest) :
    readVariantObject variants bs = match readVariant variants rest with
      | .error failure => .error failure
      | .ok ((name, a), rest) => match skipColon rest with
        | .error failure => .error failure
        | .ok rest => match readNothing name rest with
          | .error failure => .error failure
          | .ok rest => match closeVariant rest with
            | .error failure => .error failure
            | .ok rest => .ok (a, rest) := by
  rw [readVariantObject, h]
  rfl

/-- An object with a single member, whose key is a name and whose value is `null`, stands for a
    variant. -/
theorem readVariantObject_member {m : MemberText} {a : α} (hlookup : variants.lookup m.key = some a)
    (hnull : Consumes readStart m.value (.scalar .null)) {inner : Bytes} (hinner : Blank inner)
    (tail : Bytes) :
    readVariantObject variants (inner ++ membersText [m] tail) = .ok (a, tail) := by
  -- All of the text in order: white space, key, colon, value and bracket.
  have htext : inner ++ membersText [m] tail = (inner ++ m.lead) ++ 0x22 :: (m.spelling ++
      (m.gap ++ 0x3A :: (m.indent ++ (m.value ++ (m.trail ++ 0x7D :: tail))))) := by
    simp [membersText, MemberText.text]
  have hname (rest : Bytes) :
      readVariant variants (m.spelling ++ rest) = .ok ((m.key, a), rest) := by
    rw [readVariant, m.readString_spelling]
    dsimp only
    rw [variantOf, hlookup]
  have hends : EndsNumber (m.trail ++ 0x7D :: tail) :=
    m.trail_blank.endsNumber (endsNumber_cons (by decide))
  have hblank : Blank (inner ++ m.lead) := hinner.append m.lead_blank
  rw [htext, readVariantObject_quote (skipBlank_append_cons hblank (by decide) _), hname]
  dsimp only
  rw [skipColon_append m.gap_blank]
  dsimp only
  rw [readNothing, readStart_blank m.indent_blank, hnull _ hends]
  dsimp only
  rw [closeVariant, skipBlank_append_cons m.trail_blank (by decide)]
  rfl

/-- Whatever stands for a variant is such an object. -/
theorem exists_member_of_readVariantObject {bs rest : Bytes} {a : α}
    (h : readVariantObject variants bs = .ok (a, rest)) :
    ∃ m : MemberText, bs = [] ++ membersText [m] rest ∧ variants.lookup m.key = some a ∧
      Consumes readStart m.value (.scalar .null) := by
  unfold readVariantObject at h
  split at h
  case h_2 => cases h
  rename_i more hblank
  obtain ⟨lead, hlead, rfl, -⟩ := eq_append_of_skipBlank hblank
  split at h
  · cases h
  rename_i name a' after hvariant
  obtain ⟨spelling, rfl, hspelling, -, -⟩ := readVariant_extent hvariant
  split at h
  · cases h
  rename_i after hcolon
  obtain ⟨gap, hgap, rfl⟩ := skipColon_extent hcolon
  split at h
  · cases h
  rename_i behind hnothing
  obtain ⟨indent, value, hindent, rfl, hvalue, hflush, hnull⟩ := readNothing_extent hnothing
  split at h
  · cases h
  rename_i rest' hclose
  cases h
  obtain ⟨trail, htrail, rfl⟩ := closeVariant_extent hclose
  -- Put together again, these parts are a single member.
  let m : MemberText :=
    ⟨name, lead, spelling, gap, indent, value, trail, hlead, hspelling, hgap, hindent, hflush,
      hvalue.passes, htrail⟩
  refine ⟨m, by simp [membersText, MemberText.text, m],
    (readVariant_eq_ok_iff.mp hvariant).2, hnull⟩

/-- Such an object is passed over as others are, and does not depend on what follows it. -/
theorem readVariantObject_extent {bs rest : Bytes} {a : α}
    (h : readVariantObject variants bs = .ok (a, rest)) :
    ∃ used, bs = used ++ rest ∧ IsValue (0x7B :: used) ∧
      ∀ tail, readVariantObject variants (used ++ tail) = .ok (a, tail) := by
  obtain ⟨m, rfl, hlookup, hnull⟩ := exists_member_of_readVariantObject h
  have htext (rest : Bytes) :
      ([] ++ membersText [m] []) ++ rest = [] ++ membersText [m] rest := by
    simp [membersText]
  refine ⟨[] ++ membersText [m] [], (htext rest).symm, isValue_object (scans_text [m] blank_nil),
    fun tail => ?_⟩
  rw [htext]
  exact readVariantObject_member hlookup hnull blank_nil tail

/-- A choice does not depend on what follows it. -/
theorem readChoice_local (variants : List (String × α)) (depth : Nat) :
    Local fun (_ : Nat) => readChoice variants depth := by
  have hskip (bs bs' : Bytes) (h : skipBlank bs = skipBlank bs') :
      readChoice variants depth bs = readChoice variants depth bs' := by
    rw [readChoice, readChoice, h]
  refine .of_cons (fun _ _ hblank bs => hskip _ _ (skipBlank_append hblank bs)) (fun _ _ => nofun)
    (fun {_ b bs a rest} hspace h => ?_)
  replace h : readChoice variants depth (b :: bs) = .ok (a, rest) := h
  rw [readChoice, skipBlank_cons hspace] at h
  dsimp only at h
  split at h
  · -- A name between quotes.
    rename_i hquote
    subst hquote
    split at h
    · cases h
    rename_i name _ _ hvariant
    cases h
    obtain ⟨spelling, rfl, -, hread, hpass⟩ := readVariant_extent hvariant
    refine ⟨0x22 :: spelling, rfl, fun _ _ tail _ => ?_,
      isValue_of_skipScalar (by decide) (by decide) (by decide) fun tail _ => hpass tail⟩
    show readChoice variants depth (0x22 :: (spelling ++ tail)) = _
    rw [readChoice, skipBlank_cons (by decide)]
    dsimp only
    rw [if_pos rfl, hread]
  · split at h
    · -- An object with the name as its key, one level deeper.
      rename_i hbrace
      subst hbrace
      cases depth with
      | zero => cases h
      | succ depth =>
        obtain ⟨used, rfl, hvalue, hagain⟩ := readVariantObject_extent h
        refine ⟨0x7B :: used, rfl, fun _ _ tail _ => ?_, hvalue⟩
        show readChoice variants (depth + 1) (0x7B :: (used ++ tail)) = _
        rw [readChoice, skipBlank_cons (by decide)]
        dsimp only
        rw [if_neg (by decide), if_pos rfl, hagain]
    · cases h

end Choices

end DialogStub.Json
