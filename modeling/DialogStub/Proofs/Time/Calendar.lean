import DialogStub.Time.Calendar

/-!
# From days to dates and back

* `Calendar.InEra` — the century, the four years, the year and the day that a day of an era is in;
* `Calendar.marchDate` — a date by its year and month from March on;
* `Calendar.exists_marchDate` — every day has such a date, and this is the one that `dateOf` finds;
* `Calendar.daysOf_dateOf`, `Calendar.dateOf_isValid` — the date of a day is in the calendar, and it
  is the date of no other day;
* `Calendar.dateOf_year_mem` — the years of the days that a timestamp can have.

An era is cut into centuries, these into four years each, and these into years. The last century,
the last four years and the last year may be one day longer than the others, so that a quotient has
to be held at its greatest value on the last day.
-/

namespace DialogStub.Calendar

/-! ### Dates in the calendar -/

/-- The month of a date in the calendar is one of twelve. -/
theorem Date.month_mem {date : Date} (h : date.isValid = true) :
    1 ≤ date.month ∧ date.month ≤ 12 := by
  simp only [isValid, Bool.and_eq_true, decide_eq_true_eq] at h
  omega

/-- The day of a date in the calendar is one of 31 at most. -/
theorem Date.day_mem {date : Date} (h : date.isValid = true) : 1 ≤ date.day ∧ date.day ≤ 31 := by
  have hle : monthLength date.year date.month ≤ 31 := by
    unfold monthLength
    split
    · split <;> decide
    · split <;> decide
  simp only [isValid, Bool.and_eq_true, decide_eq_true_eq] at h
  omega

/-! ### Days of an era -/

/-- The century, the four years, the year and the day that a day of an era is in. Only years with a
    leap day have a day 365. -/
structure InEra (dayOfEra century four year day : Int) : Prop where
  eq : dayOfEra = 36524 * century + (1461 * four + (365 * year + day))
  century_mem : 0 ≤ century ∧ century ≤ 3
  four_mem : 0 ≤ four ∧ four ≤ 24
  year_mem : 0 ≤ year ∧ year ≤ 3
  day_mem : 0 ≤ day ∧ day ≤ 365
  leap : day = 365 → year = 3 ∧ (four ≤ 23 ∨ century = 3)

/-- Each day of an era has a century, a group of four years, a year and a day in it. -/
theorem exists_inEra {d : Int} (h₀ : 0 ≤ d) (h₁ : d < eraDays) :
    ∃ century four year day, InEra d century four year day := by
  unfold eraDays at h₁
  -- The day of the century, and the day of the four years.
  obtain ⟨c, hc⟩ : ∃ c, c = min (d / 36524) 3 := ⟨_, rfl⟩
  obtain ⟨q, hq⟩ : ∃ q, q = (d - 36524 * c) / 1461 := ⟨_, rfl⟩
  obtain ⟨a, ha⟩ : ∃ a, a = min ((d - 36524 * c) % 1461 / 365) 3 := ⟨_, rfl⟩
  refine ⟨c, q, a, (d - 36524 * c) % 1461 - 365 * a, ?_, ?_, ?_, ?_, ?_, ?_⟩
  all_goals omega

namespace InEra

variable {d c q a r : Int}

/-- The leap days before a day are taken out of the count, so that all years have one length. -/
theorem yearOfEra_eq (h : InEra d c q a r) :
    (d - d / 1460 + d / 36524 - d / 146096) / 365 = 100 * c + 4 * q + a := by
  obtain ⟨hd, hc, hq, ha, hr, hleap⟩ := h
  have hcentury : d / 36524 - d / 146096 = c := by
    -- The fourth century has one day more than the others, at its end.
    have hlast : 1461 * q + (365 * a + r) ≤ 36523 ∨
        1461 * q + (365 * a + r) = 36524 ∧ c = 3 := by
      omega
    have hpos : 0 ≤ 1461 * q + (365 * a + r) := by omega
    generalize 1461 * q + (365 * a + r) = t at *
    omega
  have hfour : d / 1460 = 25 * c + q + (24 * c + q + (365 * a + r)) / 1460 := by omega
  have hday : (24 * c + q + (365 * a + r)) / 1460 ≤ r ∧
      r < 365 + (24 * c + q + (365 * a + r)) / 1460 := by
    omega
  omega

/-- What is left of a day without its years is the day of the year. -/
theorem dayOfYear_eq (h : InEra d c q a r) :
    d - (365 * (100 * c + 4 * q + a) + (100 * c + 4 * q + a) / 4 - (100 * c + 4 * q + a) / 100)
      = r := by
  obtain ⟨hd, hc, hq, ha, hr, -⟩ := h
  omega

/-- A year with a day 365 ends with the leap day, in the year after it as months are counted. -/
theorem isLeap_of_day (h : InEra d c q a r) (era : Int) (hr : r = 365) :
    isLeap (100 * c + 4 * q + a + era * 400 + 1) = true := by
  obtain ⟨-, hc, hq, -, -, hleap⟩ := h
  obtain ⟨rfl, hlast⟩ := hleap hr
  have hfour : (100 * c + 4 * q + 3 + era * 400 + 1) % 4 = 0 := by omega
  have hcentury : (100 * c + 4 * q + 3 + era * 400 + 1) % 100 ≠ 0 ∨
      (100 * c + 4 * q + 3 + era * 400 + 1) % 400 = 0 := by
    omega
  simp only [isLeap, hfour, hcentury, decide_true, Bool.true_and, ← Bool.decide_or]

end InEra

/-! ### Years from March on -/

/-- A date of an era by its year from March on, its month from March on and its day of this month,
    all of them counted from zero. -/
def marchDate (era year month day : Int) : Date :=
  ⟨year + era * 400 + (if month < 10 then 0 else 1),
    (if month < 10 then month + 3 else month - 9).toNat, (day + 1).toNat⟩

section March

variable {era year month day : Int}

/-- A date counted from March has its day counted from the era. -/
theorem daysOf_marchDate (hyear : 0 ≤ year ∧ year < 400) (hmonth : 0 ≤ month ∧ month ≤ 11)
    (hday : 0 ≤ day) :
    daysOf (marchDate era year month day) =
      era * eraDays + (year * 365 + year / 4 - year / 100 + ((153 * month + 2) / 5 + day))
        - eraOffset := by
  have hmarch : (if (marchDate era year month day).month ≤ 2
      then ((marchDate era year month day).month : Int) + 9
      else (marchDate era year month day).month - 3) = month := by
    unfold marchDate
    dsimp only
    split <;> split <;> omega
  -- January and February end the year that began in the March before.
  have hstart : (if (marchDate era year month day).month ≤ 2
      then (marchDate era year month day).year - 1
      else (marchDate era year month day).year) = year + era * 400 := by
    unfold marchDate
    dsimp only
    split <;> split <;> omega
  have hera : (year + era * 400) / 400 = era := by omega
  have hyearOfEra : (year + era * 400) % 400 = year := by omega
  have hdayOfMonth : ((marchDate era year month day).day : Int) = day + 1 := by
    show (((day + 1).toNat : Nat) : Int) = day + 1
    omega
  unfold daysOf
  dsimp only
  rw [hstart, hmarch, hera, hyearOfEra, hdayOfMonth]
  omega

/-- Months from March on have the lengths that 153 days for five months make, but for the last. -/
theorem marchDate_day_le (hmonth : 0 ≤ month ∧ month ≤ 11) (hday : 0 ≤ day)
    (hlast : (153 * month + 2) / 5 + day < (153 * (month + 1) + 2) / 5)
    (hleap : month = 11 → day ≤ 28 ∧ (day = 28 → isLeap (year + era * 400 + 1) = true)) :
    (marchDate era year month day).day ≤
      monthLength (marchDate era year month day).year (marchDate era year month day).month := by
  unfold marchDate monthLength
  dsimp only
  -- February is the last month; it ends where the year does.
  by_cases hfeb : month = 11
  · subst hfeb
    obtain ⟨hle, h28⟩ := hleap rfl
    show (day + 1).toNat ≤ if isLeap (year + era * 400 + 1) then 29 else 28
    by_cases h : day = 28
    · rw [if_pos (h28 h)]
      omega
    · split <;> omega
  · rw [if_neg (by split <;> omega)]
    split
    · split <;> omega
    · split <;> omega

/-- A date counted from March is one of the calendar. -/
theorem marchDate_isValid (hmonth : 0 ≤ month ∧ month ≤ 11) (hday : 0 ≤ day)
    (hlast : (153 * month + 2) / 5 + day < (153 * (month + 1) + 2) / 5)
    (hleap : month = 11 → day ≤ 28 ∧ (day = 28 → isLeap (year + era * 400 + 1) = true)) :
    (marchDate era year month day).isValid = true := by
  have hle : (marchDate era year month day).day ≤
      monthLength (marchDate era year month day).year (marchDate era year month day).month :=
    marchDate_day_le hmonth hday hlast hleap
  have hmonth' : 1 ≤ (marchDate era year month day).month ∧
      (marchDate era year month day).month ≤ 12 := by
    unfold marchDate
    dsimp only
    split <;> omega
  have hday' : 1 ≤ (marchDate era year month day).day := by
    show 1 ≤ (day + 1).toNat
    omega
  simp [Date.isValid, hmonth', hday', hle]

end March

/-! ### Dates of days -/

/-- **Every day has a date**: its era, its year and its month from March on, and its day of this
    month, as `dateOf` finds them. -/
theorem exists_marchDate (days : Int) :
    ∃ era year month day, dateOf days = marchDate era year month day ∧
      days + eraOffset = era * eraDays +
        (year * 365 + year / 4 - year / 100 + ((153 * month + 2) / 5 + day)) ∧
      (0 ≤ year ∧ year < 400) ∧ (0 ≤ month ∧ month ≤ 11) ∧ 0 ≤ day ∧
      (153 * month + 2) / 5 + day < (153 * (month + 1) + 2) / 5 ∧
      (month = 11 → day ≤ 28 ∧ (day = 28 → isLeap (year + era * 400 + 1) = true)) := by
  have hpos : 0 < eraDays := by decide
  have hdiv := Int.mul_ediv_add_emod (days + eraOffset) eraDays
  obtain ⟨c, q, a, r, h⟩ := exists_inEra (Int.emod_nonneg (days + eraOffset) (by decide))
    (Int.emod_lt_of_pos (days + eraOffset) hpos)
  obtain ⟨hr₀, hr₁⟩ := h.day_mem
  have hday := h.dayOfYear_eq
  have hleap := h.isLeap_of_day ((days + eraOffset) / eraDays)
  -- Once the quotients have names, everything but the leap day is linear.
  refine ⟨(days + eraOffset) / eraDays, 100 * c + 4 * q + a, (5 * r + 2) / 153,
    r - (153 * ((5 * r + 2) / 153) + 2) / 5, ?_, ?_, ?_, by omega, by omega, by omega, ?_⟩
  · unfold dateOf marchDate
    dsimp only
    rw [h.yearOfEra_eq, h.dayOfYear_eq]
    congr 2
    split <;> split <;> omega
  · rw [Int.mul_comm] at hdiv
    omega
  · obtain ⟨-, hc, hq, ha, -, -⟩ := h
    omega
  · intro hmonth
    refine ⟨by omega, fun hlast => hleap (by omega)⟩

/-- **The date of a day is the date of no other day.** -/
theorem daysOf_dateOf (days : Int) : daysOf (dateOf days) = days := by
  obtain ⟨era, year, month, day, heq, hdays, hyear, hmonth, hday, -, -⟩ := exists_marchDate days
  rw [heq, daysOf_marchDate hyear hmonth hday]
  omega

/-- **The date of a day is in the calendar.** -/
theorem dateOf_isValid (days : Int) : (dateOf days).isValid = true := by
  obtain ⟨era, year, month, day, heq, -, -, hmonth, hday, hlast, hleap⟩ := exists_marchDate days
  rw [heq]
  exact marchDate_isValid hmonth hday hlast hleap

/-- The days from the first of January of the year -262143 to the end of the year 262142 have years
    between these. -/
theorem dateOf_year_mem {days : Int} (h₀ : -96465292 ≤ days) (h₁ : days ≤ 95026236) :
    -262143 ≤ (dateOf days).year ∧ (dateOf days).year ≤ 262142 := by
  obtain ⟨era, year, month, day, heq, hdays, hyear, hmonth, hday, hlast, -⟩ :=
    exists_marchDate days
  unfold eraOffset eraDays at hdays
  rw [heq]
  show -262143 ≤ year + era * 400 + (if month < 10 then 0 else 1) ∧
    year + era * 400 + (if month < 10 then 0 else 1) ≤ 262142
  -- Only in the first and in the last era do the months count.
  have hera : era = -656 ∨ -655 ≤ era ∧ era ≤ 654 ∨ era = 655 := by omega
  rcases hera with rfl | hera | rfl
  · split <;> omega
  · split <;> omega
  · split <;> omega

end DialogStub.Calendar
