import DialogStub.Proofs.Json.Strings

/-!
# Where a value ends

* `Json.Scans` — a text that the scanner passes over, out of some brackets;
* `Json.IsValue` — a text that it passes over as one value, inside any brackets;
* `Json.IsValue.skipValue`, `Json.exists_isValue` — the texts that `skipValue` passes over.

The scanner takes a known number of steps for a value, so that its steps can be added up; each byte
is worth two of them.
-/

namespace DialogStub.Json

/-! ### One step of the scanner -/

section Steps

variable {fuel : Nat} {bracket : Bracket} {stack : List Bracket}

/-- White space before a value is passed over. -/
theorem skipFrom_value_blank {blank : Bytes} (h : Blank blank) (bs : Bytes) :
    skipFrom (fuel + 1) .value stack (blank ++ bs) = skipFrom (fuel + 1) .value stack bs := by
  rw [skipFrom, skipFrom, skipBlank_append h]

/-- There are two other places to stand. -/
theorem Due.eq_of_ne_value {due : Due} (h : due ≠ .value) : due = .first ∨ due = .next := by
  cases due with
  | value => exact absurd rfl h
  | first => exact .inl rfl
  | next => exact .inr rfl

/-- Inside a bracket, the scanner looks for its end or for the way to a value. -/
theorem skipFrom_inside {due : Due} (hdue : due ≠ .value) (bs : Bytes) :
    skipFrom (fuel + 1) due (bracket :: stack) bs = match skipBlank bs with
      | [] => .error (.at bracket.ends [])
      | b :: rest =>
        if b = bracket.close then skipFrom fuel .next stack rest
        else if due = .first ∨ b = 0x2C then
          match skipToValue bracket (if due = .first then b :: rest else rest) with
          | .error failure => .error failure
          | .ok rest => skipFrom fuel .value (bracket :: stack) rest
        else .error (.at bracket.noNext (b :: rest)) := by
  rcases Due.eq_of_ne_value hdue with rfl | rfl <;> rfl

/-- White space inside of brackets is passed over. -/
theorem skipFrom_inside_blank {due : Due} (hdue : due ≠ .value) {blank : Bytes} (h : Blank blank)
    (bs : Bytes) : skipFrom (fuel + 1) due (bracket :: stack) (blank ++ bs)
      = skipFrom (fuel + 1) due (bracket :: stack) bs := by
  rw [skipFrom_inside hdue, skipFrom_inside hdue, skipBlank_append h]

/-- A value that is no array and no object takes one step. -/
theorem skipFrom_scalar {b : UInt8} {bs rest : Bytes} (hspace : isSpace b = false)
    (hlist : b ≠ 0x5B) (hobject : b ≠ 0x7B) (h : skipScalar b bs = .ok rest) :
    skipFrom (fuel + 1) .value stack (b :: bs) = skipFrom fuel .next stack rest := by
  rw [skipFrom, skipBlank_cons hspace]
  dsimp only
  rw [if_neg hlist, if_neg hobject, h]

/-- A square bracket is put on the stack. -/
theorem skipFrom_list (bs : Bytes) : skipFrom (fuel + 1) .value stack (0x5B :: bs)
    = skipFrom fuel .first (.list :: stack) bs := rfl

/-- So is a curly one. -/
theorem skipFrom_object (bs : Bytes) : skipFrom (fuel + 1) .value stack (0x7B :: bs)
    = skipFrom fuel .first (.object :: stack) bs := rfl

/-- The closing byte of a bracket takes one step. -/
theorem skipFrom_close {due : Due} (hdue : due ≠ .value) (bs : Bytes) :
    skipFrom (fuel + 1) due (bracket :: stack) (bracket.close :: bs)
      = skipFrom fuel .next stack bs := by
  have hspace : isSpace bracket.close = false := by cases bracket <;> decide
  rw [skipFrom_inside hdue, skipBlank_cons hspace]
  exact if_pos rfl

/-- The first element of a bracket takes one step to its value. -/
theorem skipFrom_first {b : UInt8} {bs rest : Bytes} (hspace : isSpace b = false)
    (hclose : b ≠ bracket.close) (h : skipToValue bracket (b :: bs) = .ok rest) :
    skipFrom (fuel + 1) .first (bracket :: stack) (b :: bs)
      = skipFrom fuel .value (bracket :: stack) rest := by
  rw [skipFrom_inside (by decide), skipBlank_cons hspace]
  dsimp only
  rw [if_neg hclose, if_pos (.inl rfl), if_pos rfl, h]

/-- A comma, and what leads to the value behind it, take one step. -/
theorem skipFrom_comma {bs rest : Bytes} (h : skipToValue bracket bs = .ok rest) :
    skipFrom (fuel + 1) .next (bracket :: stack) (0x2C :: bs)
      = skipFrom fuel .value (bracket :: stack) rest := by
  have hclose : 0x2C ≠ bracket.close := by cases bracket <;> decide
  rw [skipFrom_inside (by decide), skipBlank_cons (by decide)]
  dsimp only
  rw [if_neg hclose, if_pos (.inr rfl), if_neg (by decide), h]

end Steps

/-! ### Texts that are passed over -/

/-- The step that a value is ahead of its bytes. -/
def Due.ahead : Due → Nat
  | .value => 1
  | _ => 0

/-- One byte pays for the step to it and for the step that a value is ahead. -/
theorem Due.ahead_value_le (front : Bytes) (b : UInt8) :
    1 + Due.value.ahead ≤ 2 * (front ++ [b]).length + Due.first.ahead := by
  rw [List.length_append, List.length_singleton]
  show 2 ≤ 2 * (front.length + 1)
  omega

/-- The scanner passes over `used`, and is then out of the brackets of `stack`. The steps that it
    takes are at most two for each byte. -/
def Scans (due : Due) (stack : List Bracket) (used : Bytes) : Prop :=
  ∃ steps, due.ahead ≤ steps ∧ steps + due.ahead ≤ 2 * used.length ∧
    ∀ fuel base tail, EndsNumber tail →
      skipFrom (fuel + steps) due (stack ++ base) (used ++ tail) = skipFrom fuel .next base tail

/-- A text that the scanner passes over as one value. -/
def IsValue (used : Bytes) : Prop :=
  Scans .value [] used

namespace Scans

variable {bracket : Bracket} {stack : List Bracket} {blank used : Bytes}

theorem nil : Scans .next [] [] :=
  ⟨0, Nat.zero_le _, Nat.zero_le _, fun _ _ _ _ => rfl⟩

/-- A value takes at least one byte. -/
theorem ne_nil (h : Scans .value stack used) : used ≠ [] := by
  obtain ⟨steps, hahead, hsteps, -⟩ := h
  rintro rfl
  simp [Due.ahead] at hsteps

/-- One step over `front`, and the steps behind it. -/
theorem step {due due' : Due} {stack' : List Bracket} {front : Bytes} (h : Scans due' stack' used)
    (hfront : 1 + due.ahead ≤ 2 * front.length + due'.ahead)
    (hstep : ∀ fuel base tail, EndsNumber tail →
      skipFrom (fuel + 1) due (stack ++ base) (front ++ (used ++ tail))
        = skipFrom fuel due' (stack' ++ base) (used ++ tail)) :
    Scans due stack (front ++ used) := by
  obtain ⟨steps, hahead, hsteps, hskip⟩ := h
  have hone : due.ahead ≤ 1 := by cases due <;> decide
  refine ⟨steps + 1, by omega, by rw [List.length_append]; omega, fun fuel base tail htail => ?_⟩
  rw [← Nat.add_assoc, List.append_assoc, hstep (fuel + steps) base tail htail]
  exact hskip fuel base tail htail

/-- The end of a bracket. -/
theorem close {due : Due} (hdue : due ≠ .value) (hblank : Blank blank)
    (h : Scans .next stack used) :
    Scans due (bracket :: stack) ((blank ++ [bracket.close]) ++ used) := by
  have hahead : due.ahead = 0 := by
    rcases Due.eq_of_ne_value hdue with rfl | rfl <;> rfl
  refine h.step (by simp [hahead]; omega) (fun fuel base tail _ => ?_)
  rw [List.append_assoc, List.cons_append, skipFrom_inside_blank hdue hblank]
  exact skipFrom_close hdue _

/-- The begin of an array. -/
theorem list (hblank : Blank blank) (h : Scans .first (.list :: stack) used) :
    Scans .value stack ((blank ++ [0x5B]) ++ used) := by
  refine h.step (Due.ahead_value_le blank 0x5B) (fun fuel base tail _ => ?_)
  rw [List.append_assoc, skipFrom_value_blank hblank]
  exact skipFrom_list _

/-- The begin of an object. -/
theorem object (hblank : Blank blank) (h : Scans .first (.object :: stack) used) :
    Scans .value stack ((blank ++ [0x7B]) ++ used) := by
  refine h.step (Due.ahead_value_le blank 0x7B) (fun fuel base tail _ => ?_)
  rw [List.append_assoc, skipFrom_value_blank hblank]
  exact skipFrom_object _

/-- The way to the first element. -/
theorem first {key : Bytes} (hblank : Blank blank) (h : Scans .value (bracket :: stack) used)
    (hkey : ∀ tail, skipToValue bracket (key ++ tail) = .ok tail)
    (hstart : ∀ b ∈ (key ++ used).head?, isSpace b = false ∧ b ≠ bracket.close) :
    Scans .first (bracket :: stack) ((blank ++ key) ++ used) := by
  refine h.step (by simp [Due.ahead]) (fun fuel base tail _ => ?_)
  rw [List.append_assoc, List.cons_append, skipFrom_inside_blank (by decide) hblank]
  -- The first byte is that of the key, or else that of the value.
  obtain ⟨b, more, hmore⟩ :=
    List.exists_cons_of_ne_nil (List.append_ne_nil_of_right_ne_nil key h.ne_nil)
  rw [hmore] at hstart
  obtain ⟨hspace, hclose⟩ := hstart b rfl
  have hvalue : skipToValue bracket (b :: (more ++ tail)) = .ok (used ++ tail) := by
    rw [← List.cons_append, ← hmore, List.append_assoc]
    exact hkey (used ++ tail)
  rw [← List.append_assoc, hmore]
  exact skipFrom_first hspace hclose hvalue

/-- The way to another element. -/
theorem comma {key : Bytes} (hblank : Blank blank) (h : Scans .value (bracket :: stack) used)
    (hkey : ∀ tail, skipToValue bracket (key ++ tail) = .ok tail) :
    Scans .next (bracket :: stack) ((blank ++ 0x2C :: key) ++ used) := by
  refine h.step (by simp [Due.ahead]) (fun fuel base tail _ => ?_)
  rw [List.append_assoc, List.cons_append, skipFrom_inside_blank (by decide) hblank]
  exact skipFrom_comma (hkey (used ++ tail))

/-- What stands where a comma or an end is due ends a number. -/
theorem endsNumber (h : Scans .next stack used) {tail : Bytes} (htail : EndsNumber tail) :
    EndsNumber (used ++ tail) := by
  obtain ⟨steps, -, -, hskip⟩ := h
  -- The scanner goes on behind the text, so that it has found an end or a comma before.
  have hend := hskip 1 [] tail htail
  rw [Nat.add_comm, List.append_nil] at hend
  cases stack with
  | nil =>
    have heq : used ++ tail = tail := Except.ok.inj hend
    rwa [heq]
  | cons bracket stack =>
    rw [skipFrom_inside (by decide)] at hend
    split at hend
    · cases hend
    · rename_i b more hblank
      obtain ⟨blank, hblanks, heq, -⟩ := eq_append_of_skipBlank hblank
      rw [heq]
      refine hblanks.endsNumber (endsNumber_cons ?_)
      split at hend
      · rename_i hclose
        rw [hclose]
        cases bracket <;> decide
      · split at hend
        · rename_i hcomma
          rw [hcomma.resolve_left (by decide)]
          decide
        · cases hend

end Scans

/-! ### Values -/

namespace IsValue

variable {stack : List Bracket} {used : Bytes}

/-- A value, and what comes behind it. -/
theorem scans {value : Bytes} (hvalue : IsValue value) (h : Scans .next stack used) :
    Scans .value stack (value ++ used) := by
  obtain ⟨steps, hahead, hsteps, hskip⟩ := hvalue
  obtain ⟨steps', hahead', hsteps', hskip'⟩ := id h
  refine ⟨steps + steps', by omega, ?_, fun fuel base tail htail => ?_⟩
  · simp only [Due.ahead, List.length_append] at hsteps hsteps' ⊢
    omega
  · rw [Nat.add_comm steps, ← Nat.add_assoc, List.append_assoc]
    exact (hskip _ (stack ++ base) _ (h.endsNumber htail)).trans (hskip' fuel base tail htail)

/-- White space in front does not count. -/
theorem blank_append {blank : Bytes} (hblank : Blank blank) (h : IsValue used) :
    IsValue (blank ++ used) := by
  obtain ⟨steps, hahead, hsteps, hskip⟩ := h
  obtain ⟨n, rfl⟩ := Nat.exists_eq_add_one.mpr hahead
  refine ⟨n + 1, hahead, by rw [List.length_append]; omega, fun fuel base tail htail => ?_⟩
  rw [List.append_assoc, ← Nat.add_assoc, skipFrom_value_blank hblank]
  exact hskip fuel base tail htail

/-- A value is passed over with the fuel that is enough to read it. -/
theorem skipValue (h : IsValue used) {fuel : Nat} (hfuel : fuelFor used ≤ fuel) :
    Passes (Json.skipValue fuel) used := by
  obtain ⟨steps, hahead, hsteps, hskip⟩ := h
  intro tail htail
  unfold fuelFor at hfuel
  obtain ⟨extra, rfl⟩ : ∃ extra, fuel = extra + 1 + steps := ⟨fuel - steps - 1, by omega⟩
  exact hskip (extra + 1) [] tail htail

/-- Where one value ends does not depend on how the text is taken apart. -/
theorem eq_of_append {used used' rest rest' : Bytes} (h : IsValue used) (h' : IsValue used')
    (hrest : EndsNumber rest) (hrest' : EndsNumber rest') (heq : used ++ rest = used' ++ rest') :
    used = used' ∧ rest = rest' := by
  have hskip := h.skipValue (Nat.le_max_left (fuelFor used) (fuelFor used')) rest hrest
  have hskip' := h'.skipValue (Nat.le_max_right (fuelFor used) (fuelFor used')) rest' hrest'
  rw [heq, hskip'] at hskip
  cases hskip
  exact ⟨List.append_cancel_right heq, rfl⟩

/-- A value begins with the byte with which the whole text begins. -/
theorem exists_cons {bs rest : Bytes} {b : UInt8} (h : IsValue used)
    (heq : b :: bs = used ++ rest) : ∃ more, used = b :: more ∧ bs = more ++ rest := by
  obtain ⟨c, more, rfl⟩ := List.exists_cons_of_ne_nil h.ne_nil
  obtain ⟨rfl, hbs⟩ := List.cons.inj heq
  exact ⟨more, rfl, hbs⟩

end IsValue

/-- A text that is no array and no object is one value. -/
theorem isValue_of_skipScalar {b : UInt8} {more : Bytes} (hspace : isSpace b = false)
    (hlist : b ≠ 0x5B) (hobject : b ≠ 0x7B) (h : Passes (skipScalar b) more) :
    IsValue (b :: more) := by
  have hscans : Scans .value [] ((b :: more) ++ []) := by
    have hfront : 1 + Due.value.ahead ≤ 2 * (b :: more).length + Due.next.ahead := by
      simp only [Due.ahead, List.length_cons]
      omega
    refine Scans.nil.step hfront (fun fuel base tail htail => ?_)
    exact skipFrom_scalar hspace hlist hobject (h tail htail)
  rwa [List.append_nil] at hscans

/-! ### All that the scanner passes over -/

/-- A byte that begins no number is looked at in one way. -/
theorem skipScalar_extent {b : UInt8} {bs rest : Bytes} (h : skipScalar b bs = .ok rest) :
    ∃ used, bs = used ++ rest ∧ Passes (skipScalar b) used := by
  have word {w : Bytes} (hw : literal w bs = .ok rest)
      (heq : ∀ bs, skipScalar b bs = literal w bs) :
      ∃ used, bs = used ++ rest ∧ Passes (skipScalar b) used :=
    ⟨w, literal_extent hw, fun tail _ => by rw [heq, literal_append]⟩
  unfold skipScalar at h
  by_cases hn : b = 0x6E
  · subst hn
    exact word h (fun _ => rfl)
  rw [if_neg hn] at h
  by_cases ht : b = 0x74
  · subst ht
    exact word h (fun _ => rfl)
  rw [if_neg ht] at h
  by_cases hf : b = 0x66
  · subst hf
    exact word h (fun _ => rfl)
  rw [if_neg hf] at h
  by_cases hquote : b = 0x22
  · subst hquote
    obtain ⟨used, rfl, hpass⟩ := skipString_extent h
    exact ⟨used, rfl, fun tail _ => hpass tail⟩
  rw [if_neg hquote] at h
  by_cases hnumber : b = 0x2D ∨ (digit? b).isSome = true
  · rw [if_pos hnumber] at h
    obtain ⟨used, heq, -, hpasses⟩ := skipNumber_follows _ () _ (measured_eq_ok.mpr h)
    -- The first byte belongs to the number, since there is no number without bytes.
    cases used with
    | nil => cases hpasses [] endsNumber_nil
    | cons c used =>
      obtain ⟨rfl, rfl⟩ := List.cons.inj heq
      refine ⟨used, rfl, fun tail htail => ?_⟩
      rw [(skipScalar_number hnumber _).2.2.2]
      exact hpasses tail htail
  · rw [if_neg hnumber] at h
    cases h

/-- A colon may have white space before it. -/
theorem skipColon_extent {bs rest : Bytes} (h : skipColon bs = .ok rest) :
    ∃ gap, Blank gap ∧ bs = gap ++ 0x3A :: rest := by
  unfold skipColon at h
  split at h
  · cases h
  · rename_i b rest' hblank
    obtain ⟨gap, hgap, rfl, -⟩ := eq_append_of_skipBlank hblank
    split at h
    · rename_i hb
      cases h
      exact ⟨gap, hgap, by rw [hb]⟩
    · cases h

/-- So it is passed over with the white space. -/
theorem skipColon_append {gap : Bytes} (h : Blank gap) (rest : Bytes) :
    skipColon (gap ++ 0x3A :: rest) = .ok rest := by
  rw [skipColon, skipBlank_append_cons h (by decide)]
  rfl

/-- A key is passed over with its colon. -/
theorem skipKey_append {lead spelling gap : Bytes} (hlead : Blank lead) (hgap : Blank gap)
    (h : ∀ tail, skipString .plain (spelling ++ tail) = .ok tail) (rest : Bytes) :
    skipKey (lead ++ 0x22 :: (spelling ++ (gap ++ 0x3A :: rest))) = .ok rest := by
  rw [skipKey, skipBlank_append_cons hlead (by decide)]
  dsimp only
  rw [if_pos rfl, h]
  exact skipColon_append hgap rest

/-- In a list the value comes at once, and in an object behind its key. -/
theorem skipToValue_extent {bracket : Bracket} {bs rest : Bytes}
    (h : skipToValue bracket bs = .ok rest) :
    ∃ used, bs = used ++ rest ∧ ∀ tail, skipToValue bracket (used ++ tail) = .ok tail := by
  cases bracket with
  | list =>
    cases h
    exact ⟨[], rfl, fun _ => rfl⟩
  | object =>
    unfold skipToValue skipKey at h
    dsimp only at h
    split at h
    · cases h
    · rename_i b more hblank
      obtain ⟨lead, hlead, rfl, -⟩ := eq_append_of_skipBlank hblank
      split at h
      · rename_i hb
        subst hb
        split at h
        · cases h
        · rename_i after hstring
          obtain ⟨spelling, rfl, hspelling⟩ := skipString_extent hstring
          obtain ⟨gap, hgap, rfl⟩ := skipColon_extent h
          -- The text goes up to the colon, whatever stands behind it.
          refine ⟨lead ++ 0x22 :: (spelling ++ (gap ++ [0x3A])), by simp, fun tail => ?_⟩
          rw [List.append_assoc, List.cons_append, List.append_assoc, List.append_assoc]
          exact skipKey_append hlead hgap hspelling tail
      · cases h

/-- The scanner makes a step over some bytes of `bs`: whatever takes the bytes behind them up to
    `rest` takes all of `bs` up to there. -/
def Steps (fuel : Nat) (due : Due) (stack : List Bracket) (bs rest : Bytes) : Prop :=
  ∃ due' stack' bs', (due' = .first → stack' ≠ []) ∧ skipFrom fuel due' stack' bs' = .ok rest ∧
    ∀ used, bs' = used ++ rest → Scans due' stack' used →
      ∃ used', bs = used' ++ rest ∧ Scans due stack used'

section Step

variable {fuel : Nat} {bracket : Bracket} {stack : List Bracket} {bs rest : Bytes}

/-- The step at a value: a bracket, or a whole value that is no array and no object. -/
theorem steps_value (h : skipFrom (fuel + 1) .value stack bs = .ok rest) :
    Steps fuel .value stack bs rest := by
  rw [skipFrom] at h
  split at h
  · cases h
  rename_i b more hblank
  obtain ⟨blank, hblanks, rfl, hspace⟩ := eq_append_of_skipBlank hblank
  -- A bracket is put on the stack, and a word is passed over at once.
  by_cases hlist : b = 0x5B
  · subst hlist
    rw [if_pos rfl] at h
    refine ⟨.first, .list :: stack, more, by simp, h, ?_⟩
    rintro used rfl hscans
    exact ⟨_, by simp, hscans.list hblanks⟩
  rw [if_neg hlist] at h
  by_cases hobject : b = 0x7B
  · subst hobject
    rw [if_pos rfl] at h
    refine ⟨.first, .object :: stack, more, by simp, h, ?_⟩
    rintro used rfl hscans
    exact ⟨_, by simp, hscans.object hblanks⟩
  rw [if_neg hobject] at h
  split at h
  · cases h
  rename_i after hscalar
  obtain ⟨word, rfl, hword⟩ := skipScalar_extent hscalar
  have hisValue := isValue_of_skipScalar hspace hlist hobject hword
  refine ⟨.next, stack, after, by simp, h, ?_⟩
  rintro used rfl hscans
  exact ⟨_, by simp, (hisValue.blank_append hblanks).scans hscans⟩

/-- The step inside a bracket: its end, or the way to a value. -/
theorem steps_inside {due : Due} (hdue : due ≠ .value)
    (h : skipFrom (fuel + 1) due (bracket :: stack) bs = .ok rest) :
    Steps fuel due (bracket :: stack) bs rest := by
  rw [skipFrom_inside hdue] at h
  split at h
  · cases h
  rename_i b more hblank
  obtain ⟨blank, hblanks, rfl, hspace⟩ := eq_append_of_skipBlank hblank
  by_cases hclose : b = bracket.close
  · subst hclose
    rw [if_pos rfl] at h
    refine ⟨.next, stack, more, by simp, h, ?_⟩
    rintro used rfl hscans
    exact ⟨_, by simp, hscans.close hdue hblanks⟩
  rw [if_neg hclose] at h
  split at h
  case isFalse => cases h
  rename_i hcomma
  split at h
  · cases h
  rename_i after hkey
  obtain ⟨key, heq, hskip⟩ := skipToValue_extent hkey
  refine ⟨.value, bracket :: stack, after, by simp, h, ?_⟩
  rintro used rfl hscans
  by_cases hfirst : due = .first
  · subst hfirst
    rw [if_pos rfl] at heq
    refine ⟨(blank ++ key) ++ used, by rw [heq]; simp, hscans.first hblanks hskip ?_⟩
    -- The first byte is the one that was looked at.
    intro x hx
    have hx' : x ∈ (b :: more).head? := by
      rw [heq, ← List.append_assoc, List.head?_append]
      exact Option.or_eq_some_iff.mpr (.inl hx)
    cases hx'
    exact ⟨hspace, hclose⟩
  · rw [if_neg hfirst] at heq
    have hb := hcomma.resolve_left hfirst
    obtain rfl := (Due.eq_of_ne_value hdue).resolve_left hfirst
    subst hb
    exact ⟨(blank ++ 0x2C :: key) ++ used, by rw [heq]; simp, hscans.comma hblanks hskip⟩

/-- **What is passed over** does not depend on what follows it. By induction on the fuel, step by
    step. -/
theorem exists_scans {due : Due} (hdue : due = .first → stack ≠ [])
    (h : skipFrom fuel due stack bs = .ok rest) :
    ∃ used, bs = used ++ rest ∧ Scans due stack used := by
  induction fuel generalizing due stack bs with
  | zero => cases h
  | succ fuel ih =>
    have run (hsteps : Steps fuel due stack bs rest) :
        ∃ used, bs = used ++ rest ∧ Scans due stack used := by
      obtain ⟨due', stack', bs', hdue', h', hback⟩ := hsteps
      obtain ⟨used, heq, hscans⟩ := ih hdue' h'
      exact hback used heq hscans
    by_cases hvalue : due = .value
    · subst hvalue
      exact run (steps_value h)
    cases stack with
    | cons bracket stack => exact run (steps_inside hvalue h)
    | nil =>
      -- Outside all brackets the scanner is done.
      obtain rfl := (Due.eq_of_ne_value hvalue).resolve_left fun hfirst => hdue hfirst rfl
      cases h
      exact ⟨[], rfl, .nil⟩

end Step

/-- The texts that are passed over as a value are values. -/
theorem exists_isValue {fuel : Nat} {bs rest : Bytes} (h : skipValue fuel bs = .ok rest) :
    ∃ used, bs = used ++ rest ∧ IsValue used :=
  exists_scans (by simp) h

end DialogStub.Json
