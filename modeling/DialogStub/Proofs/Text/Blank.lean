import DialogStub.Text.Blank
import Mathlib.Data.List.TakeWhile

/-!
# White space at both ends

* `Text.exists_trim` — a text is what is left of it between white space;
* `Text.trim_eq_singleton_iff` — when a single character is left;
* `Text.trimText_eq_empty_iff` — when nothing is left.
-/

namespace DialogStub.Text

variable {cs left right : List Char}

/-- What is trimmed is white space. -/
theorem exists_trim (cs : List Char) :
    ∃ left right, cs = left ++ trim cs ++ right ∧ ∀ c ∈ left ++ right, isBlank c = true := by
  have hstart (ds : List Char) : ds.takeWhile isBlank ++ trimStart ds = ds :=
    List.takeWhile_append_dropWhile
  have hblank {ds : List Char} {c : Char} (hc : c ∈ ds.takeWhile isBlank) : isBlank c = true :=
    List.mem_takeWhile_imp hc
  refine ⟨cs.takeWhile isBlank, ((trimStart cs).reverse.takeWhile isBlank).reverse, ?_, ?_⟩
  · rw [trim, List.append_assoc, ← List.reverse_append, hstart, List.reverse_reverse, hstart]
  · intro c hc
    rcases List.mem_append.mp hc with hleft | hright
    · exact hblank hleft
    · exact hblank (List.mem_reverse.mp hright)

/-- White space in front is left out, and no more. -/
theorem trimStart_append (hleft : ∀ c ∈ left, isBlank c = true) {c : Char}
    (hc : isBlank c = false) (right : List Char) : trimStart (left ++ c :: right) = c :: right := by
  rw [trimStart, List.dropWhile_append_of_pos hleft,
    List.dropWhile_cons_of_neg (by simp [hc])]

/-- A character without white space is left when the white space around it is trimmed. -/
theorem trim_eq_singleton_iff {c : Char} (hc : isBlank c = false) :
    trim cs = [c] ↔
      ∃ left right, cs = left ++ c :: right ∧ ∀ d ∈ left ++ right, isBlank d = true := by
  constructor
  · intro h
    obtain ⟨left, right, hcs, hblank⟩ := exists_trim cs
    rw [h, List.append_assoc] at hcs
    exact ⟨left, right, hcs, hblank⟩
  · rintro ⟨left, right, rfl, hblank⟩
    -- From both ends the white space goes up to the character, which stops it.
    have hleft : ∀ d ∈ left, isBlank d = true := fun d hd => hblank d (List.mem_append_left _ hd)
    have hright : ∀ d ∈ right.reverse, isBlank d = true :=
      fun d hd => hblank d (List.mem_append_right _ (List.mem_reverse.mp hd))
    rw [trim, trimStart_append hleft hc, List.reverse_cons, trimStart_append hright hc]
    rfl

/-- Nothing is left exactly of white space. -/
theorem trim_eq_nil_iff : trim cs = [] ↔ ∀ c ∈ cs, isBlank c = true := by
  constructor
  · intro hnil
    obtain ⟨left, right, hcs, hblank⟩ := exists_trim cs
    rw [hnil, List.append_nil] at hcs
    rw [hcs]
    exact hblank
  · intro hblank
    have hstart : trimStart cs = [] := List.dropWhile_eq_nil_iff.mpr hblank
    rw [trim, hstart]
    rfl

/-- What is left of a text is empty if it is all white space. -/
theorem trimText_eq_empty_iff {s : String} :
    trimText s = "" ↔ ∀ c ∈ s.toList, isBlank c = true := by
  rw [trimText, ← trim_eq_nil_iff]
  constructor
  · intro h
    rw [← String.toList_ofList (l := trim s.toList), h]
    rfl
  · intro h
    rw [h, String.ofList_nil]

end DialogStub.Text
