import DialogStub.Text.LowerCase
import DialogStub.Text.Search
import Mathlib.Data.List.Forall2

/-!
# Words in the lower-case form of a text

The small letters of the Russian alphabet, and how a word of them is found in the lower-case form of
a text:

* `Text.contains_eq_true_iff` — what the search for a word says;
* `Text.IsSmall`, `Text.IsForm` — a small letter, and the two forms in which it may stand;
* `Text.shiftBy_lowered_iff` — which code points the table of capitals takes to such a letter;
* `Text.Lowers` — a lower-case form, as far as small letters go;
* `Text.contains_lowerCase_iff` — a word of small letters stands in the lower-case form of a text
  where the text spells it, each letter in one of its forms.

The lower-case form may be longer than its text, and the form of a sigma depends on its neighbours.
Neither makes a small letter, so that each such letter comes from one character, which does not
depend on any other.
-/

namespace DialogStub.Text

/-! ### Searching -/

/-- The search finds a word exactly where it stands. -/
theorem contains_eq_true_iff (word cs : List Char) : contains word cs = true ↔ word <:+: cs := by
  induction cs with
  | nil => rw [contains, List.isEmpty_iff, List.infix_nil]
  | cons c cs ih =>
    rw [contains, Bool.or_eq_true, List.isPrefixOf_iff_prefix, ih, List.infix_cons_iff]

/-! ### Small letters -/

/-- A small letter of the Russian alphabet: U+0430 to U+044F. -/
def IsSmall (k : Char) : Prop :=
  0x430 ≤ k.toNat ∧ k.toNat ≤ 0x44F

instance (k : Char) : Decidable (IsSmall k) :=
  inferInstanceAs (Decidable (_ ∧ _))

/-- The forms of a small letter: itself and its capital, which stands 32 places before it, in
    U+0410 to U+042F. -/
def IsForm (k c : Char) : Prop :=
  c = k ∨ c.toNat + 0x20 = k.toNat

instance (k c : Char) : Decidable (IsForm k c) :=
  inferInstanceAs (Decidable (_ ∨ _))

/-- Both forms are letters of the basic Russian alphabet. -/
theorem IsForm.mem {k c : Char} (h : IsForm k c) (hk : IsSmall k) :
    0x410 ≤ c.toNat ∧ c.toNat ≤ 0x44F := by
  unfold IsSmall at hk
  rcases h with rfl | h
  · omega
  · omega

/-- A code point stays, or is shifted with a run of the table. -/
theorem shiftBy_cases (n : Nat) (runs : List Case.Run) :
    shiftBy n runs = n ∨ ∃ run ∈ runs, run.first ≤ n ∧ n ≤ run.last ∧
      shiftBy n runs = (n + run.shift).toNat := by
  induction runs with
  | nil => exact .inl rfl
  | cons run runs ih =>
    rw [shiftBy]
    split
    · -- The runs are in order: a code point before the first run is in none.
      exact .inl rfl
    rename_i hfirst
    split
    · rename_i hlast
      split
      · exact .inr ⟨run, List.mem_cons_self, by omega, hlast, rfl⟩
      · exact .inl rfl
    · rcases ih with h | ⟨run', hmem, h⟩
      · exact .inl h
      · exact .inr ⟨run', List.mem_cons_of_mem run hmem, h⟩

/-- Only one run of capitals goes to the small letters. -/
theorem lowered_run_small : ∀ run ∈ Case.lowered,
    (run.last + run.shift < 0x430 ∨ 0x44F < run.first + run.shift) ∨
      run = ⟨0x410, 0x42F, 1, 32⟩ := by
  decide +kernel

/-- The small letters stay, and their capitals go to them. -/
theorem shiftBy_lowered_small : ∀ i < 32,
    shiftBy (0x430 + i) Case.lowered = 0x430 + i ∧
      shiftBy (0x410 + i) Case.lowered = 0x430 + i := by
  decide +kernel

/-- **The table of capitals.** What goes to a small letter is this letter or its capital. -/
theorem shiftBy_lowered_iff {n m : Nat} (h : 0x430 ≤ m ∧ m ≤ 0x44F) :
    shiftBy n Case.lowered = m ↔ n = m ∨ n + 0x20 = m := by
  constructor
  · intro heq
    rcases shiftBy_cases n Case.lowered with hsame | ⟨run, hmem, hfirst, hlast, hshift⟩
    · exact .inl (hsame.symm.trans heq)
    · rw [heq] at hshift
      -- No other run of the table ends in the small letters.
      rcases lowered_run_small run hmem with houtside | rfl
      · omega
      · dsimp only at hshift
        omega
  · have hpair := shiftBy_lowered_small (m - 0x430) (by omega)
    rw [show 0x430 + (m - 0x430) = m by omega] at hpair
    rintro (rfl | hcapital)
    · exact hpair.1
    · rw [show n = 0x410 + (m - 0x430) by omega]
      exact hpair.2

/-- The character of a code point, if it has one; all others give the null character. -/
theorem toNat_ofNat_cases (n : Nat) : (Char.ofNat n).toNat = n ∨ (Char.ofNat n).toNat = 0 := by
  by_cases hvalid : n.isValidChar
  · rw [Char.ofNat, dif_pos hvalid]
    exact .inl UInt32.toNat_ofNatLT
  · rw [Char.ofNat, dif_neg hvalid]
    exact .inr rfl

/-- A character has a small letter for its lower-case form if it is one of the forms of this
    letter. -/
theorem ofNat_shiftBy_iff {k : Char} (hk : IsSmall k) (c : Char) :
    Char.ofNat (shiftBy c.toNat Case.lowered) = k ↔ IsForm k c := by
  have hforms : shiftBy c.toNat Case.lowered = k.toNat ↔ IsForm k c := by
    rw [shiftBy_lowered_iff hk, Char.toNat_inj]
    rfl
  rw [← hforms]
  constructor
  · rintro rfl
    have hne : (Char.ofNat (shiftBy c.toNat Case.lowered)).toNat ≠ 0 := by
      have hpos := hk.1
      omega
    exact ((toNat_ofNat_cases _).resolve_right hne).symm
  · intro h
    rw [h, Char.ofNat_toNat]

/-! ### Lower-case forms -/

/-- A lower-case form, as far as small letters go: each character becomes one, which is a small
    letter if the character is a form of it, or the two characters of U+0130, which are none. -/
inductive Lowers : List Char → List Char → Prop where
  | nil : Lowers [] []
  | single {c d : Char} {cs ds : List Char} (h : ∀ k, IsSmall k → (d = k ↔ IsForm k c))
      (rest : Lowers cs ds) : Lowers (c :: cs) (d :: ds)
  | dotted {cs ds : List Char} (rest : Lowers cs ds) :
      Lowers ('İ' :: cs) ('i' :: '\u0307' :: ds)

/-- The rest of a text is lowered in this way, whatever stands before it. -/
theorem exists_lowers_lowerFrom (before done cs : List Char) :
    ∃ ds, lowerFrom before done cs = done.reverse ++ ds ∧ Lowers cs ds := by
  induction cs generalizing before done with
  | nil => exact ⟨[], (List.append_nil _).symm, .nil⟩
  | cons c cs ih =>
    -- The form of the character stands between what is done and the rest.
    have hform {form : List Char}
        (heq : (if c = 'Σ' then [if endsWord before cs then 'ς' else 'σ'] else lowerChar c) = form)
        (hlowers : ∀ ds, Lowers cs ds → Lowers (c :: cs) (form ++ ds)) :
        ∃ ds, lowerFrom before done (c :: cs) = done.reverse ++ ds ∧ Lowers (c :: cs) ds := by
      obtain ⟨ds, hds, hrest⟩ := ih (c :: before) (form.reverse ++ done)
      refine ⟨form ++ ds, ?_, hlowers ds hrest⟩
      rw [lowerFrom, heq, hds, List.reverse_append, List.reverse_reverse, List.append_assoc]
    by_cases hsigma : c = 'Σ'
    · -- Neither a sigma nor one of its forms has to do with small letters.
      subst hsigma
      refine hform (if_pos rfl) fun ds hrest => .single (fun k hk => iff_of_false ?_ ?_) hrest
      · rintro rfl
        revert hk
        split
        · decide
        · decide
      · exact fun h => absurd (h.mem hk) (by decide)
    · by_cases hdotted : c = 'İ'
      · subst hdotted
        exact hform (if_neg hsigma) fun ds hrest => .dotted hrest
      · have heq : (if c = 'Σ' then [if endsWord before cs then 'ς' else 'σ'] else lowerChar c)
            = [Char.ofNat (shiftBy c.toNat Case.lowered)] := by
          rw [if_neg hsigma, lowerChar, if_neg hdotted]
        exact hform heq fun ds hrest => .single (fun k hk => ofNat_shiftBy_iff hk c) hrest

/-- The lower-case form of a text is made character by character. -/
theorem lowers_lowerCase (cs : List Char) : Lowers cs (lowerCase cs) := by
  obtain ⟨ds, heq, hlowers⟩ := exists_lowers_lowerFrom [] [] cs
  rw [lowerCase, heq]
  exact hlowers

/-! ### Words -/

/-- A text spells a word somewhere, each letter in one of its forms. -/
def Spells (word cs : List Char) : Prop :=
  ∃ run, run <:+: cs ∧ List.Forall₂ IsForm word run

/-- A text spells a word at its start. -/
def SpellsFirst (word cs : List Char) : Prop :=
  ∃ run, run <+: cs ∧ List.Forall₂ IsForm word run

variable {k c : Char} {word cs ds : List Char}

theorem spellsFirst_nil_left (cs : List Char) : SpellsFirst [] cs :=
  ⟨[], List.nil_prefix, .nil⟩

/-- No letter is spelled at the end of a text. -/
theorem not_spellsFirst_cons_nil : ¬SpellsFirst (k :: word) [] := by
  rintro ⟨run, hrun, hforms⟩
  cases hforms with
  | cons hform hforms => exact absurd (List.prefix_nil.mp hrun) (List.cons_ne_nil _ _)

/-- A word is spelled here if its first letter is, and the others behind it. -/
theorem spellsFirst_cons_cons : SpellsFirst (k :: word) (c :: cs) ↔
    IsForm k c ∧ SpellsFirst word cs := by
  constructor
  · rintro ⟨run, hrun, hforms⟩
    cases hforms with
    | cons hform hforms =>
      obtain ⟨rfl, hrun'⟩ := List.cons_prefix_cons.mp hrun
      exact ⟨hform, _, hrun', hforms⟩
  · rintro ⟨hform, run, hrun, hforms⟩
    exact ⟨c :: run, List.cons_prefix_cons.mpr ⟨rfl, hrun⟩, .cons hform hforms⟩

/-- Nothing but the empty word is spelled by the empty text. -/
theorem spells_nil : Spells word [] ↔ word = [] := by
  constructor
  · rintro ⟨run, hrun, hforms⟩
    obtain rfl := List.infix_nil.mp hrun
    exact List.forall₂_nil_right_iff.mp hforms
  · rintro rfl
    exact ⟨[], List.infix_refl [], .nil⟩

theorem spells_cons : Spells word (c :: cs) ↔ SpellsFirst word (c :: cs) ∨ Spells word cs := by
  simp only [Spells, SpellsFirst, List.infix_cons_iff, or_and_right, exists_or]

/-- Text around it does not disturb a word. -/
theorem Spells.append (h : Spells word cs) (before after : List Char) :
    Spells word (before ++ cs ++ after) := by
  obtain ⟨run, hrun, hforms⟩ := h
  exact ⟨run, hrun.trans (List.infix_append before cs after), hforms⟩

/-- At the start of a lower-case form a word stands if the text spells it there. -/
theorem Lowers.prefix_iff (h : Lowers cs ds) (hword : ∀ k ∈ word, IsSmall k) :
    word <+: ds ↔ SpellsFirst word cs := by
  induction h generalizing word with
  | nil =>
    cases word with
    | nil => exact iff_of_true List.nil_prefix (spellsFirst_nil_left [])
    | cons k word => exact iff_of_false (by simp) not_spellsFirst_cons_nil
  | single hd _ ih =>
    cases word with
    | nil => exact iff_of_true List.nil_prefix (spellsFirst_nil_left _)
    | cons k word =>
      obtain ⟨hk, hword'⟩ := List.forall_mem_cons.mp hword
      rw [List.cons_prefix_cons, spellsFirst_cons_cons, ih hword', ← hd k hk, eq_comm]
  | dotted _ ih =>
    cases word with
    | nil => exact iff_of_true List.nil_prefix (spellsFirst_nil_left _)
    | cons k word =>
      obtain ⟨hk, -⟩ := List.forall_mem_cons.mp hword
      -- The lower-case form has two characters here, an `i` and a dot, and no small letter of
      -- Cyrillic.
      refine iff_of_false (fun hprefix => ?_) (fun hspells => ?_)
      · obtain ⟨rfl, -⟩ := List.cons_prefix_cons.mp hprefix
        exact absurd hk (by decide)
      · exact absurd ((spellsFirst_cons_cons.mp hspells).1.mem hk) (by decide)

/-- Anywhere in a lower-case form: by induction on the characters that come before the word. -/
theorem Lowers.infix_iff (h : Lowers cs ds) (hword : ∀ k ∈ word, IsSmall k) :
    word <:+: ds ↔ Spells word cs := by
  induction h with
  | nil => rw [List.infix_nil, spells_nil]
  | single hd hrest ih =>
    rw [List.infix_cons_iff, spells_cons, ih, (Lowers.single hd hrest).prefix_iff hword]
  | dotted hrest ih =>
    -- No word begins with the second of the two characters.
    have hsecond (ds : List Char) (h : word <+: '\u0307' :: ds) : word = [] := by
      cases word with
      | nil => rfl
      | cons k word =>
        obtain ⟨rfl, -⟩ := List.cons_prefix_cons.mp h
        exact absurd (hword _ List.mem_cons_self) (by decide)
    rw [List.infix_cons_iff, List.infix_cons_iff, spells_cons, ih,
      (Lowers.dotted hrest).prefix_iff hword]
    refine or_congr_right (or_iff_right_of_imp fun h => ?_)
    rw [hsecond _ h]
    exact ⟨[], List.nil_infix, .nil⟩

/-- **Words of small letters.** Such a word is found in the lower-case form of a text where the text
    spells it. -/
theorem contains_lowerCase_iff (hword : ∀ k ∈ word, IsSmall k) (cs : List Char) :
    contains word (lowerCase cs) = true ↔ Spells word cs := by
  rw [contains_eq_true_iff, (lowers_lowerCase cs).infix_iff hword]

end DialogStub.Text
