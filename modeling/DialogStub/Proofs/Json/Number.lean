import DialogStub.Json.Token
import DialogStub.Proofs.Json.Token

/-!
# Where a number ends

* `Json.Consumes`, `Json.Passes` — a reader, or a scanner, takes a text and stops behind it;
* `Json.Follows` — a reader that takes a text does so whatever follows, and a scanner takes the same
  text;
* `Json.readNumber_follows` — numbers are read in this way, and `skipNumber` passes over them;
* `Json.readNumber_print_int` — a printed integer of 64 bits is read back.

Both ways through a number meet the same runs of digits. What a reader makes of such a run does not
depend on what stands behind it, so that each part of a number is a run and a part that follows it.
-/

namespace DialogStub.Json

/-! ### Texts that are taken -/

/-- A reader takes `used` and gives `a`, and stops before whatever can stand behind a number. -/
def Consumes {α : Type} (read : Bytes → Read α) (used : Bytes) (a : α) : Prop :=
  ∀ tail, EndsNumber tail → read (used ++ tail) = .ok (a, tail)

/-- A scanner takes `used`, and stops before whatever can stand behind a number. -/
def Passes (skip : Bytes → Except Failure Bytes) (used : Bytes) : Prop :=
  ∀ tail, EndsNumber tail → skip (used ++ tail) = .ok tail

/-- What the reader takes does not depend on what follows it, and the scanner takes it as well. -/
def Follows {α : Type} (read : Bytes → Read α) (skip : Bytes → Except Failure Bytes) : Prop :=
  ∀ bs a rest, read bs = .ok (a, rest) →
    ∃ used, bs = used ++ rest ∧ Consumes read used a ∧ Passes skip used

section Follows

variable {α : Type} {read read' : Bytes → Read α} {skip skip' : Bytes → Except Failure Bytes}

/-- A reader that fails at the end of the text takes at least one byte. -/
theorem Consumes.ne_nil {used : Bytes} {a : α} (h : Consumes read used a)
    (hnil : ∀ result, read [] ≠ .ok result) : used ≠ [] := by
  rintro rfl
  exact hnil _ (h [] (by simp [EndsNumber]))

/-- Behind a byte of its own, a reader goes on as another one does. -/
theorem Follows.cons (h : Follows read skip) {b : UInt8} (hread : ∀ bs, read' (b :: bs) = read bs)
    (hskip : ∀ bs, skip' (b :: bs) = skip bs) {bs rest : Bytes} {a : α}
    (hok : read' (b :: bs) = .ok (a, rest)) :
    ∃ used, b :: bs = used ++ rest ∧ Consumes read' used a ∧ Passes skip' used := by
  rw [hread] at hok
  obtain ⟨used, rfl, hconsumes, hpasses⟩ := h _ _ _ hok
  refine ⟨b :: used, rfl, fun tail htail => ?_, fun tail htail => ?_⟩
  · rw [List.cons_append, hread]
    exact hconsumes tail htail
  · rw [List.cons_append, hskip]
    exact hpasses tail htail

/-- Before a byte, a reader does as another one does. -/
theorem Follows.congr (h : Follows read skip) (hnil : ∀ result, read [] ≠ .ok result) {b : UInt8}
    (hread : ∀ bs, read' (b :: bs) = read (b :: bs))
    (hskip : ∀ bs, skip' (b :: bs) = skip (b :: bs)) {bs rest : Bytes} {a : α}
    (hok : read' (b :: bs) = .ok (a, rest)) :
    ∃ used, b :: bs = used ++ rest ∧ Consumes read' used a ∧ Passes skip' used := by
  rw [hread] at hok
  obtain ⟨used, heq, hconsumes, hpasses⟩ := h _ _ _ hok
  cases used with
  | nil => exact absurd rfl (hconsumes.ne_nil hnil)
  -- What was used begins with the byte that is looked at, as something was used.
  | cons c used =>
    cases (List.cons.inj heq).1
    refine ⟨b :: used, heq, fun tail htail => ?_, fun tail htail => ?_⟩
    · rw [List.cons_append, hread]
      exact hconsumes tail htail
    · rw [List.cons_append, hskip]
      exact hpasses tail htail

end Follows

/-! ### Runs of digits -/

/-- A run of digits. -/
def Digits (ds : Bytes) : Prop :=
  ∀ b ∈ ds, (digit? b).isSome = true

/-- What may stand behind a run of digits. -/
def NoDigit (tail : Bytes) : Prop :=
  ∀ b ∈ tail.head?, digit? b = none

theorem EndsNumber.noDigit {tail : Bytes} (h : EndsNumber tail) : NoDigit tail :=
  fun b hb => (h b hb).1

/-- The first byte decides, and it is that of `used` unless this is empty. -/
theorem NoDigit.append {used rest tail : Bytes} (h : NoDigit (used ++ rest))
    (htail : NoDigit tail) :
    NoDigit (used ++ tail) := by
  cases used with
  | nil => exact htail
  | cons b used => exact h

/-- A reader that goes on behind a run of digits: nothing but the end of the run matters to it. -/
theorem Follows.run {α : Type} {read read' : Bytes → Read α}
    {skip skip' : Bytes → Except Failure Bytes}
    (h : Follows read skip) (front : Bytes) {tail rest : Bytes} {a : α} (htail : NoDigit tail)
    (hread : ∀ tail, NoDigit tail → read' (front ++ tail) = read tail)
    (hskip : ∀ tail, NoDigit tail → skip' (front ++ tail) = skip tail)
    (hok : read' (front ++ tail) = .ok (a, rest)) :
    ∃ used, front ++ tail = used ++ rest ∧ Consumes read' used a ∧ Passes skip' used := by
  rw [hread tail htail] at hok
  obtain ⟨used, rfl, hconsumes, hpasses⟩ := h _ _ _ hok
  refine ⟨front ++ used, (List.append_assoc _ _ _).symm, fun tail' htail' => ?_,
    fun tail' htail' => ?_⟩
  · rw [List.append_assoc, hread _ (htail.append htail'.noDigit)]
    exact hconsumes tail' htail'
  · rw [List.append_assoc, hskip _ (htail.append htail'.noDigit)]
    exact hpasses tail' htail'

/-- Every text begins with a run of digits that no digit follows. -/
theorem exists_run (bs : Bytes) : ∃ ds tail, bs = ds ++ tail ∧ Digits ds ∧ NoDigit tail := by
  induction bs with
  | nil => exact ⟨[], [], rfl, List.forall_mem_nil _, fun _ h => nomatch h⟩
  | cons b bs ih =>
    obtain ⟨ds, tail, rfl, hds, htail⟩ := ih
    -- The run ends before the first byte that is no digit.
    cases hb : digit? b with
    | none =>
      refine ⟨[], b :: (ds ++ tail), rfl, List.forall_mem_nil _, ?_⟩
      intro x hx
      cases hx
      exact hb
    | some d =>
      refine ⟨b :: ds, tail, rfl, ?_, htail⟩
      exact List.forall_mem_cons.mpr ⟨by rw [hb]; rfl, hds⟩

/-- A run of digits is counted up to its end. -/
theorem countDigits_append {ds tail : Bytes} (hds : Digits ds) (htail : NoDigit tail)
    (count : Nat) : countDigits count (ds ++ tail) = (count + ds.length, tail) := by
  induction ds generalizing count with
  | nil =>
    cases tail with
    | nil => rfl
    | cons b tail =>
      rw [List.nil_append, countDigits, htail b rfl]
      rfl
  | cons b ds ih =>
    obtain ⟨hb, hds⟩ := List.forall_mem_cons.mp hds
    rw [List.cons_append, countDigits, if_pos hb, ih hds, List.length_cons, Nat.add_assoc,
      Nat.add_comm 1]

/-- A significand takes digits until it is full, and leaves the others of the run. -/
theorem exists_absorb {ds : Bytes} (hds : Digits ds) (significand taken : Nat) :
    ∃ significand' taken' more, Digits more ∧ taken' + more.length = taken + ds.length ∧
      ∀ tail, NoDigit tail →
        absorb significand taken (ds ++ tail) = (significand', taken', more ++ tail) := by
  induction ds generalizing significand taken with
  | nil =>
    refine ⟨significand, taken, [], hds, rfl, fun tail htail => ?_⟩
    cases tail with
    | nil => rfl
    | cons b tail =>
      rw [List.nil_append, absorb, htail b rfl]
  | cons b ds ih =>
    obtain ⟨hb, hds'⟩ := List.forall_mem_cons.mp hds
    obtain ⟨d, hd⟩ := Option.isSome_iff_exists.mp hb
    -- Either there is room for one more digit, or this one and all others are left.
    by_cases hfull : significand * 10 + d < 0x10000000000000000
    · obtain ⟨s, t, more, hmore, hlength, heq⟩ := ih hds' (significand * 10 + d) (taken + 1)
      have hlength' : t + more.length = taken + (b :: ds).length := by
        rw [hlength, List.length_cons, Nat.add_assoc, Nat.add_comm 1]
      refine ⟨s, t, more, hmore, hlength', fun tail htail => ?_⟩
      rw [List.cons_append, absorb, hd]
      dsimp only
      rw [if_pos hfull]
      exact heq tail htail
    · refine ⟨significand, taken, b :: ds, hds, rfl, fun tail _ => ?_⟩
      rw [List.cons_append, absorb, hd]
      dsimp only
      rw [if_neg hfull]

/-- The digits of an exponent are read to the end of their run, or until the limit is reached. -/
theorem readExponentDigits_append {ds : Bytes} (hds : Digits ds) (value : Nat) :
    (∃ value', ∀ tail, NoDigit tail →
      readExponentDigits value (ds ++ tail) = .inl (value', tail)) ∨
    ∃ more, Digits more ∧ ∀ tail, readExponentDigits value (ds ++ tail) = .inr (more ++ tail) := by
  induction ds generalizing value with
  | nil =>
    refine .inl ⟨value, fun tail htail => ?_⟩
    cases tail with
    | nil => rfl
    | cons b tail =>
      rw [List.nil_append, readExponentDigits, htail b rfl]
  | cons b ds ih =>
    obtain ⟨hb, hds'⟩ := List.forall_mem_cons.mp hds
    obtain ⟨d, hd⟩ := Option.isSome_iff_exists.mp hb
    have hstep (tail : Bytes) : readExponentDigits value (b :: ds ++ tail) =
        if value * 10 + d < exponentLimit then
          readExponentDigits (value * 10 + d) (ds ++ tail)
        else .inr (ds ++ tail) := by
      rw [List.cons_append, readExponentDigits, hd]
    -- The limit is reached at this digit, or later, or nowhere in the run.
    by_cases hlimit : value * 10 + d < exponentLimit
    · refine (ih hds' (value * 10 + d)).imp ?_ ?_
      · rintro ⟨value', h⟩
        refine ⟨value', fun tail htail => ?_⟩
        rw [hstep, if_pos hlimit, h tail htail]
      · rintro ⟨more, hmore, h⟩
        refine ⟨more, hmore, fun tail => ?_⟩
        rw [hstep, if_pos hlimit, h tail]
    · refine .inr ⟨ds, hds', fun tail => ?_⟩
      rw [hstep, if_neg hlimit]

/-! ### Exponents -/

/-- An exponent without its sign. -/
def readPower (negative : Bool) (significand : Nat) (power : Int) (down : Bool) (bs : Bytes) :
    Read Number :=
  match bs with
  | [] => .error (.before .endInValue [])
  | b :: rest => match digit? b with
    | none => .error (.before .number rest)
    | some d => match readExponentDigits d rest with
      | .inl (value, rest) =>
        settleReal negative significand (if down then power - value else power + value) rest
      | .inr rest =>
        if significand ≠ 0 ∧ down = false then .error (.before .range rest)
        else .ok (.real (Binary64.zero negative), (countDigits 0 rest).2)

/-- An exponent that is passed over, without its sign. -/
def skipPower (bs : Bytes) : Except Failure Bytes :=
  skipDigits (.before .number bs.tail) bs

/-- A number that is settled takes nothing more of the text. -/
theorem settleReal_eq_ok {negative : Bool} {significand : Nat} {power : Int} {rest rest' : Bytes}
    {n : Number} (h : settleReal negative significand power rest = .ok (n, rest')) :
    rest' = rest ∧ ∀ tail, settleReal negative significand power tail = .ok (n, tail) := by
  unfold settleReal at h ⊢
  cases hreal : Binary64.ofDecimal negative significand power with
  | none =>
    rw [hreal] at h
    cases h
  | some x =>
    rw [hreal] at h
    cases h
    exact ⟨rfl, fun _ => rfl⟩

/-- A run of digits is passed over up to its end. -/
theorem skipDigits_append {ds tail : Bytes} (hds : Digits ds) (hne : ds ≠ [])
    (htail : NoDigit tail) (failure : Failure) :
    skipDigits failure (ds ++ tail) = .ok tail := by
  have hpos : 0 + ds.length ≠ 0 := by
    simpa using hne
  rw [skipDigits, countDigits_append hds htail]
  exact if_neg hpos

/-- The digits of an exponent are passed over as they are read. -/
theorem readPower_follows (negative : Bool) (significand : Nat) (power : Int) (down : Bool) :
    Follows (readPower negative significand power down) skipPower := by
  intro bs n rest h
  cases bs with
  | nil => cases h
  | cons b bs =>
    cases hb : digit? b with
    | none =>
      rw [readPower, hb] at h
      cases h
    | some d =>
      obtain ⟨ds, tail, rfl, hds, htail⟩ := exists_run bs
      have hrun : Digits (b :: ds) := List.forall_mem_cons.mpr ⟨by rw [hb]; rfl, hds⟩
      have hskip : Passes skipPower (b :: ds) := fun tail' htail' =>
        skipDigits_append hrun (List.cons_ne_nil b ds) htail'.noDigit _
      -- The run is read as a whole, whether the limit is reached on the way or not.
      have hread (tail' : Bytes) : readPower negative significand power down (b :: ds ++ tail') =
          match readExponentDigits d (ds ++ tail') with
          | .inl (value, rest) =>
            settleReal negative significand (if down then power - value else power + value) rest
          | .inr rest =>
            if significand ≠ 0 ∧ down = false then .error (.before .range rest)
            else .ok (.real (Binary64.zero negative), (countDigits 0 rest).2) := by
        rw [List.cons_append, readPower, hb]
      rw [← List.cons_append, hread] at h
      rcases readExponentDigits_append hds d with ⟨value, heq⟩ | ⟨more, hmore, heq⟩
      · rw [heq tail htail] at h
        obtain ⟨rfl, hsettle⟩ := settleReal_eq_ok h
        refine ⟨b :: ds, rfl, fun tail' htail' => ?_, hskip⟩
        rw [hread, heq tail' htail'.noDigit]
        exact hsettle tail'
      · rw [heq tail] at h
        dsimp only at h
        split at h
        · cases h
        · rename_i hrange
          rw [countDigits_append hmore htail] at h
          cases h
          refine ⟨b :: ds, rfl, fun tail' htail' => ?_, hskip⟩
          rw [hread, heq tail']
          dsimp only
          rw [if_neg hrange, countDigits_append hmore htail'.noDigit]

/-- Without a sign, an exponent is its digits. -/
theorem skipExponent_of_unsigned {b : UInt8} (hplus : b ≠ 0x2B) (hminus : b ≠ 0x2D) (bs : Bytes) :
    skipExponent (b :: bs) = skipPower (b :: bs) := by
  unfold skipExponent
  split
  · rename_i heq
    exact absurd (List.cons.inj heq).1 hplus
  · rename_i heq
    exact absurd (List.cons.inj heq).1 hminus
  · rfl

/-- An exponent may have a sign in front. -/
theorem readExponent_follows (negative : Bool) (significand : Nat) (power : Int) :
    Follows (readExponent negative significand power) skipExponent := by
  intro bs n rest h
  have hpower := readPower_follows negative significand power
  cases bs with
  | nil => cases h
  | cons b bs =>
    by_cases hplus : b = 0x2B
    · subst hplus
      exact (hpower false).cons (fun _ => rfl) (fun _ => rfl) h
    by_cases hminus : b = 0x2D
    · subst hminus
      exact (hpower true).cons (fun _ => rfl) (fun _ => rfl) h
    · -- Neither sign stands here, so the exponent is its digits.
      have hread (bs : Bytes) : readExponent negative significand power (b :: bs) =
          readPower negative significand power false (b :: bs) := by
        unfold readExponent
        split
        rename_i heq
        split at heq
        · rename_i heq'
          exact absurd (List.cons.inj heq').1 hplus
        · rename_i heq'
          exact absurd (List.cons.inj heq').1 hminus
        · cases heq
          rfl
      exact (hpower false).congr (fun _ h => nomatch h) hread
        (skipExponent_of_unsigned hplus hminus) h

/-! ### Fractions -/

/-- What is passed over behind the digits of a fraction. -/
def skipScale (bs : Bytes) : Except Failure Bytes :=
  match bs with
  | 0x65 :: rest => skipExponent rest
  | 0x45 :: rest => skipExponent rest
  | _ => .ok bs

/-- Where a number may end, no exponent begins. -/
theorem skipScale_of_ends {tail : Bytes} (h : EndsNumber tail) : skipScale tail = .ok tail := by
  unfold skipScale
  split
  · exact absurd rfl (h _ rfl).2.2.1
  · exact absurd rfl (h _ rfl).2.2.2
  · rfl

/-- An exponent that may be missing is passed over as it is read. -/
theorem readScale_follows (negative : Bool) (significand : Nat) (power : Int) :
    Follows (readScale negative significand power) skipScale := by
  intro bs n rest h
  have hexponent := readExponent_follows negative significand power
  unfold readScale at h
  split at h
  · exact hexponent.cons (fun _ => rfl) (fun _ => rfl) h
  · exact hexponent.cons (fun _ => rfl) (fun _ => rfl) h
  · obtain ⟨rfl, hsettle⟩ := settleReal_eq_ok h
    refine ⟨[], rfl, fun tail htail => ?_, fun tail htail => ?_⟩
    · rw [List.nil_append]
      unfold readScale
      split
      · exact absurd rfl (htail _ rfl).2.2.1
      · exact absurd rfl (htail _ rfl).2.2.2
      · exact hsettle tail
    · exact skipScale_of_ends htail

/-- What is passed over behind a decimal point. -/
def skipFraction (bs : Bytes) : Except Failure Bytes :=
  match skipDigits (.at .number bs) bs with
  | .error failure => .error failure
  | .ok rest => skipScale rest

/-- A fraction is passed over as it is read. -/
theorem readFraction_follows (negative : Bool) (significand : Nat) (power : Int) :
    Follows (readFraction negative significand power) skipFraction := by
  intro bs n rest h
  obtain ⟨ds, tail, rfl, hds, htail⟩ := exists_run bs
  obtain ⟨significand', taken, more, hmore, hlength, habsorb⟩ := exists_absorb hds significand 0
  -- What is read of the fraction depends on the digits and on what stands behind them only.
  have hread (tail' : Bytes) (htail' : NoDigit tail') :
      readFraction negative significand power (ds ++ tail') =
        if ds.length = 0 then .error (.at (if tail'.isEmpty then .endInValue else .number) tail')
        else readScale negative significand' (power - taken) tail' := by
    rw [readFraction, habsorb tail' htail']
    dsimp only
    rw [countDigits_append hmore htail']
    dsimp only
    rw [Nat.zero_add, hlength, Nat.zero_add]
  by_cases hnone : ds.length = 0
  · rw [hread tail htail, if_pos hnone] at h
    cases h
  · have hne : ds ≠ [] := fun heq => hnone (congrArg List.length heq)
    refine (readScale_follows negative significand' (power - taken)).run ds htail
      (fun tail' htail' => ?_) (fun tail' htail' => ?_) h
    · rw [hread tail' htail', if_neg hnone]
    · rw [skipFraction, skipDigits_append hds hne htail']

/-- Behind a point, digits and an exponent are passed over. -/
theorem skipTail_digits (bs : Bytes) :
    skipTail (0x2E :: bs) = match skipDigits (.at .number bs) bs with
      | .error failure => .error failure
      | .ok (0x65 :: rest) => skipExponent rest
      | .ok (0x45 :: rest) => skipExponent rest
      | .ok rest => .ok rest :=
  rfl

/-- Behind a point, a fraction is passed over. -/
theorem skipTail_point (bs : Bytes) : skipTail (0x2E :: bs) = skipFraction bs := by
  rw [skipTail_digits]
  unfold skipFraction
  cases skipDigits (.at .number bs) bs with
  | error failure => rfl
  | ok rest =>
    show _ = skipScale rest
    -- The two definitions ask for the letter of an exponent in different places.
    unfold skipScale
    split
    · rename_i heq
      cases heq
    · rename_i heq
      cases heq
      rfl
    · rename_i heq
      cases heq
      rfl
    · rename_i hlower hupper heq
      cases heq
      split
      · exact absurd rfl (hlower _)
      · exact absurd rfl (hupper _)
      · rfl

/-- What may stand behind the whole digits is passed over as it is read. -/
theorem readTail_follows (negative : Bool) (significand extra : Nat) :
    Follows (readTail negative significand extra) skipTail := by
  intro bs n rest h
  unfold readTail at h
  split at h
  · exact (readFraction_follows negative significand extra).cons (fun _ => rfl) skipTail_point h
  · exact (readExponent_follows negative significand extra).cons (fun _ => rfl) (fun _ => rfl) h
  · exact (readExponent_follows negative significand extra).cons (fun _ => rfl) (fun _ => rfl) h
  · -- Nothing belongs to the number any more, and this stays so before another end.
    have hread (tail : Bytes) (htail : EndsNumber tail) : readTail negative significand extra tail =
        if extra = 0 then .ok (settleInteger negative significand, tail)
        else settleReal negative significand extra tail := by
      unfold readTail
      split
      · exact absurd rfl (htail _ rfl).2.1
      · exact absurd rfl (htail _ rfl).2.2.1
      · exact absurd rfl (htail _ rfl).2.2.2
      · rfl
    have hpasses : Passes skipTail [] := fun tail htail => skipTail_of_ends htail
    by_cases hextra : extra = 0
    · rw [if_pos hextra] at h
      cases h
      refine ⟨[], rfl, fun tail htail => ?_, hpasses⟩
      rw [List.nil_append, hread tail htail, if_pos hextra]
    · rw [if_neg hextra] at h
      obtain ⟨rfl, hsettle⟩ := settleReal_eq_ok h
      refine ⟨[], rfl, fun tail htail => ?_, hpasses⟩
      rw [List.nil_append, hread tail htail, if_neg hextra]
      exact hsettle tail

/-! ### Numbers -/

/-- A number without its sign that is passed over. -/
def skipMagnitude (bs : Bytes) : Except Failure Bytes :=
  match bs with
  | [] => .error (.before .number [])
  | b :: rest => match digit? b with
    | none => .error (.before .number rest)
    | some 0 =>
      if (countDigits 0 rest).1 = 0 then skipTail rest else .error (.at .number rest)
    | some _ => skipTail (countDigits 0 rest).2

section Magnitudes

variable {b : UInt8} {d : Nat} {ds more tail : Bytes}

theorem countDigits_of_noDigit (htail : NoDigit tail) : countDigits 0 tail = (0, tail) :=
  countDigits_append (List.forall_mem_nil _) htail 0

/-- A zero stands alone. -/
theorem readMagnitude_zero (negative : Bool) (hb : digit? b = some 0) (htail : NoDigit tail) :
    readMagnitude negative (b :: tail) = readTail negative 0 0 tail := by
  rw [readMagnitude, hb]
  dsimp only
  rw [countDigits_of_noDigit htail]
  rfl

/-- A leading zero stands alone. -/
theorem skipMagnitude_zero (hb : digit? b = some 0) (htail : NoDigit tail) :
    skipMagnitude (b :: tail) = skipTail tail := by
  rw [skipMagnitude, hb, countDigits_of_noDigit htail]
  rfl

/-- Any other digit begins a run, of which the significand may leave some digits. -/
theorem readMagnitude_run {negative : Bool} (hb : digit? b = some (d + 1)) {significand taken : Nat}
    (hmore : Digits more) (htail : NoDigit tail)
    (habsorb : absorb (d + 1) 0 (ds ++ tail) = (significand, taken, more ++ tail)) :
    readMagnitude negative (b :: (ds ++ tail)) =
      readTail negative significand more.length tail := by
  rw [readMagnitude, hb]
  dsimp only
  rw [habsorb]
  dsimp only
  rw [countDigits_append hmore htail, Nat.zero_add]

/-- Other leading digits are passed over with those behind them. -/
theorem skipMagnitude_run (hb : digit? b = some (d + 1)) (hds : Digits ds) (htail : NoDigit tail) :
    skipMagnitude (b :: (ds ++ tail)) = skipTail tail := by
  rw [skipMagnitude, hb, countDigits_append hds htail]
  rfl

end Magnitudes

/-- A number without its sign is passed over as it is read. -/
theorem readMagnitude_follows (negative : Bool) :
    Follows (readMagnitude negative) skipMagnitude := by
  intro bs n rest h
  cases bs with
  | nil => cases h
  | cons b bs =>
    obtain ⟨ds, tail, rfl, hds, htail⟩ := exists_run bs
    cases hb : digit? b with
    | none =>
      rw [readMagnitude, hb] at h
      cases h
    | some d =>
      cases d with
      | zero =>
        -- A zero has no digit behind it.
        cases ds with
        | cons c ds =>
          rw [readMagnitude, hb] at h
          dsimp only at h
          rw [countDigits_append hds htail, if_neg (by simp)] at h
          cases h
        | nil =>
          exact (readTail_follows negative 0 0).run [b] htail
            (fun _ htail' => readMagnitude_zero negative hb htail')
            (fun _ htail' => skipMagnitude_zero hb htail') h
      | succ d =>
        obtain ⟨significand, taken, more, hmore, -, habsorb⟩ := exists_absorb hds (d + 1) 0
        exact (readTail_follows negative significand more.length).run (b :: ds) htail
          (fun tail' htail' => readMagnitude_run hb hmore htail' (habsorb tail' htail'))
          (fun _ htail' => skipMagnitude_run hb hds htail') h

/-- Without a sign, a number is its magnitude. -/
theorem skipNumber_of_unsigned {b : UInt8} (hminus : b ≠ 0x2D) (bs : Bytes) :
    skipNumber (b :: bs) = skipMagnitude (b :: bs) := by
  unfold skipNumber
  split
  · rename_i heq
    exact absurd (List.cons.inj heq).1 hminus
  · rfl

/-- **Numbers.** What is read as a number does not depend on what follows it, and is passed over as
    one. -/
theorem readNumber_follows : Follows readNumber skipNumber := by
  intro bs n rest h
  cases bs with
  | nil => cases h
  | cons b bs =>
    by_cases hminus : b = 0x2D
    · subst hminus
      exact (readMagnitude_follows true).cons (fun _ => rfl) (fun _ => rfl) h
    · have hread (bs : Bytes) : readNumber (b :: bs) = readMagnitude false (b :: bs) := by
        unfold readNumber
        split
        · rename_i heq
          exact absurd (List.cons.inj heq).1 hminus
        · rfl
      exact (readMagnitude_follows false).congr (fun _ h => nomatch h) hread
        (skipNumber_of_unsigned hminus) h

/-! ### Numbers of any size -/

/-- A scanner as a reader of nothing but the end. -/
def measured (skip : Bytes → Except Failure Bytes) (bs : Bytes) : Read Unit :=
  (skip bs).map fun rest => ((), rest)

section Measured

variable {skip skip' : Bytes → Except Failure Bytes}

/-- Passing over is read as a value that says nothing. -/
theorem measured_eq_ok {bs rest : Bytes} {u : Unit} :
    measured skip bs = .ok (u, rest) ↔ skip bs = .ok rest := by
  unfold measured
  cases skip bs with
  | error failure => simp [Except.map]
  | ok rest' => simp [Except.map]

theorem Passes.measured {used : Bytes} (h : Passes skip used) :
    Consumes (measured skip) used () :=
  fun tail htail => measured_eq_ok.mpr (h tail htail)

theorem measured_congr {bs bs' : Bytes} (h : skip bs = skip' bs') :
    measured skip bs = measured skip' bs' :=
  congrArg (Except.map _) h

end Measured

/-- A run of digits that is passed over is not empty. -/
theorem skipDigits_eq_ok {failure : Failure} {bs rest : Bytes}
    (h : skipDigits failure bs = .ok rest) :
    ∃ ds, bs = ds ++ rest ∧ Digits ds ∧ ds ≠ [] ∧ NoDigit rest := by
  obtain ⟨ds, tail, rfl, hds, htail⟩ := exists_run bs
  unfold skipDigits at h
  rw [countDigits_append hds htail] at h
  dsimp only at h
  split at h
  · cases h
  · rename_i hsome
    cases h
    exact ⟨ds, rfl, hds, fun heq => hsome (by rw [heq]; rfl), htail⟩

/-- The digits of an exponent are passed over whatever stands behind them. -/
theorem skipPower_follows : Follows (measured skipPower) skipPower := by
  intro bs u rest h
  obtain ⟨ds, rfl, hds, hne, -⟩ := skipDigits_eq_ok (measured_eq_ok.mp h)
  have hpasses : Passes skipPower ds := fun tail htail =>
    skipDigits_append hds hne htail.noDigit _
  exact ⟨ds, rfl, hpasses.measured, hpasses⟩

/-- An exponent is passed over whatever stands behind it. -/
theorem skipExponent_follows : Follows (measured skipExponent) skipExponent := by
  intro bs u rest h
  cases bs with
  | nil => cases h
  | cons b bs =>
    by_cases hplus : b = 0x2B
    · subst hplus
      exact skipPower_follows.cons (fun _ => rfl) (fun _ => rfl) h
    by_cases hminus : b = 0x2D
    · subst hminus
      exact skipPower_follows.cons (fun _ => rfl) (fun _ => rfl) h
    · have hskip := skipExponent_of_unsigned hplus hminus
      exact skipPower_follows.congr (fun _ h => nomatch h) (fun bs => measured_congr (hskip bs))
        hskip h

/-- An exponent that may be missing is passed over whatever stands behind it. -/
theorem skipScale_follows : Follows (measured skipScale) skipScale := by
  intro bs u rest h
  have hends : Passes skipScale [] := fun tail htail => skipScale_of_ends htail
  rw [measured_eq_ok] at h
  unfold skipScale at h
  split at h
  · exact skipExponent_follows.cons (fun _ => rfl) (fun _ => rfl) (measured_eq_ok.mpr h)
  · exact skipExponent_follows.cons (fun _ => rfl) (fun _ => rfl) (measured_eq_ok.mpr h)
  · cases h
    exact ⟨[], rfl, hends.measured, hends⟩

/-- A fraction is passed over whatever stands behind it. -/
theorem skipFraction_follows : Follows (measured skipFraction) skipFraction := by
  intro bs u rest h
  obtain ⟨ds, tail, rfl, hds, htail⟩ := exists_run bs
  by_cases hne : ds = []
  · subst hne
    rw [measured_eq_ok, skipFraction, skipDigits, countDigits_append hds htail] at h
    cases h
  · have hskip (tail' : Bytes) (htail' : NoDigit tail') :
        skipFraction (ds ++ tail') = skipScale tail' := by
      rw [skipFraction, skipDigits_append hds hne htail']
    exact skipScale_follows.run ds htail (fun tail' htail' => measured_congr (hskip tail' htail'))
      hskip h

/-- What may stand behind the whole digits is passed over whatever stands behind it. -/
theorem skipTail_follows : Follows (measured skipTail) skipTail := by
  intro bs u rest h
  have hends : Passes skipTail [] := fun tail htail => skipTail_of_ends htail
  rw [measured_eq_ok] at h
  -- A point begins a fraction; of the rest, only an exponent is passed over.
  by_cases hpoint : ∃ more, bs = 0x2E :: more
  · obtain ⟨more, rfl⟩ := hpoint
    exact skipFraction_follows.cons (fun bs => measured_congr (skipTail_point bs)) skipTail_point
      (measured_eq_ok.mpr h)
  unfold skipTail at h
  split at h
  · exact absurd ⟨_, rfl⟩ hpoint
  · exact skipExponent_follows.cons (fun _ => rfl) (fun _ => rfl) (measured_eq_ok.mpr h)
  · exact skipExponent_follows.cons (fun _ => rfl) (fun _ => rfl) (measured_eq_ok.mpr h)
  · cases h
    exact ⟨[], rfl, hends.measured, hends⟩

/-- A number without its sign is passed over whatever stands behind it. -/
theorem skipMagnitude_follows : Follows (measured skipMagnitude) skipMagnitude := by
  intro bs u rest h
  cases bs with
  | nil => cases h
  | cons b bs =>
    obtain ⟨ds, tail, rfl, hds, htail⟩ := exists_run bs
    cases hb : digit? b with
    | none =>
      rw [measured_eq_ok, skipMagnitude, hb] at h
      cases h
    | some d =>
      -- No digit may stand behind a leading zero.
      cases d with
      | zero =>
        cases ds with
        | cons c ds =>
          rw [measured_eq_ok, skipMagnitude, hb, countDigits_append hds htail] at h
          dsimp only at h
          rw [if_neg (by simp)] at h
          cases h
        | nil =>
          exact skipTail_follows.run [b] htail
            (fun _ htail' => measured_congr (skipMagnitude_zero hb htail'))
            (fun _ htail' => skipMagnitude_zero hb htail') h
      | succ d =>
        exact skipTail_follows.run (b :: ds) htail
          (fun _ htail' => measured_congr (skipMagnitude_run hb hds htail'))
          (fun _ htail' => skipMagnitude_run hb hds htail') h

/-- What is passed over as a number does not depend on what follows it. -/
theorem skipNumber_follows : Follows (measured skipNumber) skipNumber := by
  intro bs u rest h
  cases bs with
  | nil => cases h
  | cons b bs =>
    by_cases hminus : b = 0x2D
    · subst hminus
      exact skipMagnitude_follows.cons (fun _ => rfl) (fun _ => rfl) h
    · have hskip := skipNumber_of_unsigned hminus
      exact skipMagnitude_follows.congr (fun _ h => nomatch h)
        (fun bs => measured_congr (hskip bs)) hskip h

/-! ### Printed integers -/

/-- More digits never make a number smaller. -/
theorem le_ofDigitChars (cs : List Char) (n : Nat) : n ≤ Nat.ofDigitChars 10 cs n := by
  induction cs generalizing n with
  | nil => exact Nat.le_refl n
  | cons c cs ih =>
    rw [Nat.ofDigitChars_cons]
    have := ih (10 * n + (c.toNat - '0'.toNat))
    omega

/-- A significand that 64 bits hold takes all its digits. -/
theorem absorb_encode {cs : List Char} (hcs : ∀ c ∈ cs, c.isDigit = true) {significand : Nat}
    (hvalue : Nat.ofDigitChars 10 cs significand < 0x10000000000000000) {tail : Bytes}
    (htail : NoDigit tail) (taken : Nat) :
    absorb significand taken (Utf8.encode cs ++ tail)
      = (Nat.ofDigitChars 10 cs significand, taken + cs.length, tail) := by
  induction cs generalizing significand taken with
  | nil =>
    cases tail with
    | nil => rfl
    | cons b tail =>
      rw [Utf8.encode_nil, List.nil_append, absorb, htail b rfl]
      rfl
  | cons c cs ih =>
    obtain ⟨b, hencode, hb, -⟩ := encodeChar_digit (hcs c List.mem_cons_self)
    have hzero : '0'.toNat = 0x30 := rfl
    rw [Nat.ofDigitChars_cons, Nat.mul_comm, hzero] at hvalue ⊢
    -- The value so far is at most the whole one, so there is room for this digit.
    have hnext := Nat.lt_of_le_of_lt (le_ofDigitChars cs _) hvalue
    rw [Utf8.encode_cons, hencode, List.append_assoc, List.singleton_append, absorb, hb]
    dsimp only
    rw [if_pos hnext, ih (fun d hd => hcs d (List.mem_cons_of_mem c hd)) hvalue,
      List.length_cons, Nat.add_assoc, Nat.add_comm 1]

/-- A number that ends here is an integer. -/
theorem readTail_of_ends (negative : Bool) (significand : Nat) {tail : Bytes}
    (h : EndsNumber tail) :
    readTail negative significand 0 tail = .ok (settleInteger negative significand, tail) := by
  unfold readTail
  split
  · exact absurd rfl (h _ rfl).2.1
  · exact absurd rfl (h _ rfl).2.2.1
  · exact absurd rfl (h _ rfl).2.2.2
  · rfl

/-- The digits of a natural number of 64 bits are read back. -/
theorem readMagnitude_digits (negative : Bool) {n : Nat} (hn : n < 0x10000000000000000)
    {tail : Bytes} (htail : EndsNumber tail) :
    readMagnitude negative (Utf8.encode (Nat.toDigits 10 n) ++ tail)
      = .ok (settleInteger negative n, tail) := by
  by_cases hzero : n = 0
  · subst hzero
    have hdigit : digit? 0x30 = some 0 := by decide
    show readMagnitude negative (0x30 :: tail) = _
    rw [readMagnitude_zero negative hdigit htail.noDigit]
    exact readTail_of_ends negative 0 htail
  · obtain ⟨c, cs, heq, hc⟩ := exists_toDigits_eq_cons (Nat.pos_of_ne_zero hzero)
    have hdigits : ∀ x ∈ c :: cs, x.isDigit = true := fun x hx =>
      Nat.isDigit_of_mem_toDigits (by decide) (by decide) (heq ▸ hx)
    have hvalue : Nat.ofDigitChars 10 cs (c.toNat - 0x30) = n := by
      have hall := Nat.ofDigitChars_ten_toDigits (n := n)
      rw [heq, Nat.ofDigitChars_cons] at hall
      simpa using hall
    obtain ⟨b, hencode, hb, -⟩ := encodeChar_digit (hdigits c List.mem_cons_self)
    obtain ⟨d, hd⟩ : ∃ d, c.toNat - 0x30 = d + 1 := ⟨c.toNat - 0x30 - 1, by omega⟩
    -- The significand takes all digits, since 64 bits hold the number.
    have habsorb : absorb (d + 1) 0 (Utf8.encode cs ++ tail) = (n, 0 + cs.length, [] ++ tail) := by
      rw [← hd, absorb_encode (fun x hx => hdigits x (List.mem_cons_of_mem c hx))
        (by rw [hvalue]; exact hn) htail.noDigit, hvalue]
      rfl
    rw [heq, Utf8.encode_cons, hencode, List.append_assoc, List.singleton_append,
      readMagnitude_run (hd ▸ hb) (List.forall_mem_nil _) htail.noDigit habsorb]
    exact readTail_of_ends negative n htail

/-- **A printed integer is read back**, if 64 bits hold it. -/
theorem readNumber_print_int {n : Int} (hn : -0x8000000000000000 ≤ n ∧ n < 0x10000000000000000)
    {tail : Bytes} (htail : EndsNumber tail) :
    readNumber (print (.int n) ++ tail) = .ok (.int n, tail) := by
  cases n with
  | ofNat n =>
    obtain ⟨b, more, heq, -, hminus, -⟩ := exists_digits_eq n
    have hsmall : n < 0x10000000000000000 := Int.ofNat_lt.mp hn.2
    have hmagnitude := readMagnitude_digits false hsmall htail
    have hprint : print (.int (.ofNat n)) = b :: more := (print_ofNat n).trans heq
    rw [heq] at hmagnitude
    rw [hprint]
    show readNumber (b :: (more ++ tail)) = _
    unfold readNumber
    -- The first byte printed is a digit, so no sign is read.
    split
    · rename_i hfirst
      exact absurd (List.cons.inj hfirst).1 hminus
    · exact hmagnitude
  | negSucc n =>
    have hmagnitude := readMagnitude_digits true (n := n + 1) (by omega) htail
    rw [print_negSucc]
    show readMagnitude true (Utf8.encode (Nat.toDigits 10 (n + 1)) ++ tail) = _
    rw [hmagnitude, settleInteger, if_pos rfl, if_neg (by omega)]
    rfl

end DialogStub.Json
