import Interchange.Calendar.Day
import Mathlib.Tactic.Common
/-!
# Days and their dates

A year that begins in March ends with its leap day, so that a day of it is found by its number
alone.  The date of a day is computed by way of such years, and counting the days up to that date
leads back to the day.

* `Civil.Occurs` — the calendar has a date.
* `Civil.occurs_ofDay` — it has the date of every day.
* `Civil.toDay_ofDay` — the days up to the date of a day are that day.
* `Civil.bounds_ofDay` — where the days of a year lie.
-/

namespace Interchange.Calendar

/-- The day of the first of March of a year. -/
def firstOfMarch (year : Int) : Int := 365 * year + year / 4 - year / 100 + year / 400 - 719468

/-- **A day of a year that begins in March.**  Only a year with a leap day at its end has a day
365. -/
structure InMarchYear (n year dayOfYear : Int) : Prop where
  day_eq : n = firstOfMarch year + dayOfYear
  nonneg : 0 ≤ dayOfYear
  le : dayOfYear ≤ 365
  isLeap_of_last : dayOfYear = 365 → isLeap (year + 1) = true

/-- Every fourth year is a leap year, but of the centuries only every fourth one. -/
theorem isLeap_iff {year : Int} :
    isLeap year = true ↔ year % 4 = 0 ∧ (year % 100 ≠ 0 ∨ year % 400 = 0) := by
  simp [isLeap]

/-! ### The 400 years after which the calendar repeats itself -/

/-- **The parts of a day of an era**: it lies in one of 4 centuries, in one of the 25 groups of 4
years of this, in one of the 4 years of that.  The last group of a century has a leap day only in
the last century. -/
structure EraParts (dayOfEra century group year dayOfYear : Int) : Prop where
  inEra : 0 ≤ century ∧ century ≤ 3
  inCentury : 0 ≤ group ∧ group ≤ 24
  inGroup : 0 ≤ year ∧ year ≤ 3
  inYear : 0 ≤ dayOfYear ∧ dayOfYear ≤ 365
  last : dayOfYear = 365 → year = 3 ∧ (group = 24 → century = 3)
  day_eq : dayOfEra = 36524 * century + 1461 * group + 365 * year + dayOfYear

/-- Every day of an era has such parts.  The last day of an era belongs to its last century, and not
to a fifth one; so a minimum is taken. -/
theorem exists_eraParts {dayOfEra : Int} (inEra : 0 ≤ dayOfEra ∧ dayOfEra < 146097) :
    ∃ century group year dayOfYear, EraParts dayOfEra century group year dayOfYear := by
  let century := min (dayOfEra / 36524) 3
  let group := (dayOfEra - 36524 * century) / 1461
  let year := min ((dayOfEra - 36524 * century - 1461 * group) / 365) 3
  refine ⟨century, group, year, dayOfEra - 36524 * century - 1461 * group - 365 * year, ?_⟩
  constructor
  all_goals omega

namespace EraParts

variable {dayOfEra century group year dayOfYear : Int}

/-- The year of the era is computed by one division, once the days are taken off by which groups and
centuries exceed years of 365 days. -/
theorem yearOfEra_eq (parts : EraParts dayOfEra century group year dayOfYear) :
    (dayOfEra - dayOfEra / 1460 + dayOfEra / 36524 - dayOfEra / 146096) / 365 =
      100 * century + 4 * group + year := by
  obtain ⟨inEra, inCentury, inGroup, inYear, last, day⟩ := parts
  have inside : 1461 * group + 365 * year + dayOfYear < 36524 ∨
      century = 3 ∧ 1461 * group + 365 * year + dayOfYear = 36524 := by omega
  have centuries : dayOfEra / 146096 = dayOfEra / 36524 - century := by
    rcases inside with inside | ⟨rfl, inside⟩
    · have whole : dayOfEra / 36524 = century := by omega
      have none : dayOfEra / 146096 = 0 := by omega
      omega
    · omega
  have rest : 0 ≤ dayOfYear - (24 * century + group + 365 * year + dayOfYear) / 1460 ∧
      dayOfYear - (24 * century + group + 365 * year + dayOfYear) / 1460 ≤ 364 := by omega
  have groups : dayOfEra / 1460 =
      25 * century + group + (24 * century + group + 365 * year + dayOfYear) / 1460 := by omega
  rw [centuries, groups]
  generalize (24 * century + group + 365 * year + dayOfYear) / 1460 = extra at rest
  omega

/-- Of the years of an era, every fourth one begins a group, -/
theorem div_four (parts : EraParts dayOfEra century group year dayOfYear) :
    (100 * century + 4 * group + year) / 4 = 25 * century + group := by
  have inGroup := parts.inGroup
  omega

/-- and every hundredth one begins a century. -/
theorem div_hundred (parts : EraParts dayOfEra century group year dayOfYear) :
    (100 * century + 4 * group + year) / 100 = century := by
  have inCentury := parts.inCentury
  have inGroup := parts.inGroup
  omega

/-- The day of the year is what is left of the day of the era. -/
theorem dayOfYear_eq (parts : EraParts dayOfEra century group year dayOfYear) :
    dayOfEra - (365 * (100 * century + 4 * group + year) + (100 * century + 4 * group + year) / 4 -
      (100 * century + 4 * group + year) / 100) = dayOfYear := by
  have day := parts.day_eq
  rw [parts.div_four, parts.div_hundred]
  omega

/-- A year that begins in March has a last day 365 only if its February belongs to a leap year. -/
theorem isLeap_of_last (parts : EraParts dayOfEra century group year dayOfYear) (era : Int)
    (last : dayOfYear = 365) :
    isLeap (100 * century + 4 * group + year + era * 400 + 1) = true := by
  obtain ⟨inEra, inCentury, -, -, full, -⟩ := parts
  obtain ⟨rfl, lastGroup⟩ := full last
  clear full
  rw [isLeap_iff]
  by_cases final : group = 24
  · obtain rfl := lastGroup final
    omega
  · omega

/-- An era has 146097 days. -/
theorem firstOfMarch_eq (parts : EraParts dayOfEra century group year dayOfYear) (era : Int) :
    firstOfMarch (100 * century + 4 * group + year + era * 400) + dayOfYear =
      era * 146097 + dayOfEra - 719468 := by
  have day := parts.dayOfYear_eq
  have inRange : 0 ≤ 100 * century + 4 * group + year ∧ 100 * century + 4 * group + year < 400 := by
    obtain ⟨inEra, inCentury, inGroup, -, -, -⟩ := parts
    omega
  generalize 100 * century + 4 * group + year = yearOfEra at day inRange
  have groups : (yearOfEra + era * 400) / 4 = yearOfEra / 4 + 100 * era := by omega
  have centuries : (yearOfEra + era * 400) / 100 = yearOfEra / 100 + 4 * era := by omega
  have eras : (yearOfEra + era * 400) / 400 = era := by omega
  rw [firstOfMarch, groups, centuries, eras]
  omega

end EraParts

/-- No month has more than 31 days. -/
theorem daysIn_le (year : Int) (month : Nat) : daysIn year month ≤ 31 := by
  unfold daysIn
  repeat' split
  all_goals decide

namespace Civil

/-! ### From a day to its date -/

/-- The date of a day of a year that begins in March. -/
def ofMarchYear (year dayOfYear : Int) : Civil :=
  let month := (5 * dayOfYear + 2) / 153
  let day := dayOfYear - (153 * month + 2) / 5 + 1
  let civilMonth := if month < 10 then month + 3 else month - 9
  ⟨if civilMonth ≤ 2 then year + 1 else year, civilMonth.toNat, day.toNat⟩

/-- The date of a day is found by way of the year that begins in March before it. -/
theorem exists_ofDay_eq (n : Int) :
    ∃ year dayOfYear, InMarchYear n year dayOfYear ∧ ofDay n = ofMarchYear year dayOfYear := by
  have floor : (n + 719468).fdiv 146097 = (n + 719468) / 146097 :=
    Int.fdiv_eq_ediv_of_nonneg _ (by decide)
  have inEra : 0 ≤ n + 719468 - (n + 719468) / 146097 * 146097 ∧
      n + 719468 - (n + 719468) / 146097 * 146097 < 146097 := by omega
  obtain ⟨century, group, year, dayOfYear, parts⟩ := exists_eraParts inEra
  generalize (n + 719468) / 146097 = era at floor parts
  refine ⟨100 * century + 4 * group + year + era * 400, dayOfYear,
    ⟨?_, parts.inYear.1, parts.inYear.2, parts.isLeap_of_last era⟩, ?_⟩
  · rw [parts.firstOfMarch_eq]
    omega
  · simp only [ofDay, floor, parts.yearOfEra_eq, parts.dayOfYear_eq, ofMarchYear]

/-- **The date of a day of a year that begins in March**: from `start` days on it lies in one of the
months to December, or in January or February of the next year. -/
inductive IsDateOf (year dayOfYear : Int) : Civil → Prop
  | sinceMarch {month day : Nat} (range : 3 ≤ month ∧ month ≤ 12) (first : 1 ≤ day)
      (start : dayOfYear + 1 = (153 * ((month : Int) - 3) + 2) / 5 + day)
      (next : dayOfYear < (153 * ((month : Int) - 2) + 2) / 5) :
      IsDateOf year dayOfYear ⟨year, month, day⟩
  | beforeMarch {month day : Nat} (range : 1 ≤ month ∧ month ≤ 2) (first : 1 ≤ day)
      (start : dayOfYear + 1 = (153 * ((month : Int) + 9) + 2) / 5 + day)
      (next : dayOfYear < (153 * ((month : Int) + 10) + 2) / 5) :
      IsDateOf year dayOfYear ⟨year + 1, month, day⟩

variable {n year dayOfYear : Int} {c : Civil}

/-- The month is found by one division, since from March on the months have 31 and 30 days in a turn
that repeats itself after five. -/
theorem isDateOf_ofMarchYear (inYear : InMarchYear n year dayOfYear) :
    IsDateOf year dayOfYear (ofMarchYear year dayOfYear) := by
  obtain ⟨-, nonneg, le, -⟩ := inYear
  unfold ofMarchYear
  generalize month : (5 * dayOfYear + 2) / 153 = m
  dsimp only
  by_cases early : m < 10
  · have later : ¬ m + 3 ≤ 2 := by omega
    rw [if_pos early, if_neg later]
    constructor
    all_goals omega
  · have january : m - 9 ≤ 2 := by omega
    rw [if_neg early, if_pos january]
    refine .beforeMarch ?_ ?_ ?_ ?_
    all_goals omega

/-- So the date of a day lies in one of the months of such a year. -/
theorem exists_isDateOf_ofDay (n : Int) :
    ∃ year dayOfYear, InMarchYear n year dayOfYear ∧ IsDateOf year dayOfYear (ofDay n) := by
  obtain ⟨year, dayOfYear, inYear, date⟩ := exists_ofDay_eq n
  exact ⟨year, dayOfYear, inYear, date ▸ isDateOf_ofMarchYear inYear⟩

/-! ### Dates of the calendar -/

/-- **The calendar has a date.** -/
structure Occurs (c : Civil) : Prop where
  month : 1 ≤ c.month ∧ c.month ≤ 12
  day : 1 ≤ c.day ∧ c.day ≤ daysIn c.year c.month

/-- A date is taken as valid if the calendar has it and its year is one that is covered. -/
theorem isValid_iff :
    c.isValid = true ↔ (firstYear ≤ c.year ∧ c.year ≤ lastYear) ∧ c.Occurs := by
  constructor
  · intro valid
    simp only [isValid, Bool.and_eq_true, decide_eq_true_eq] at valid
    obtain ⟨⟨⟨⟨years, januaryOn⟩, toDecember⟩, firstOn⟩, toLast⟩ := valid
    exact ⟨years, ⟨januaryOn, toDecember⟩, firstOn, toLast⟩
  · rintro ⟨years, month, day⟩
    simp [isValid, years, month, day]

/-- February has 28 days at least, -/
theorem le_daysIn_february (year : Int) : 28 ≤ daysIn year 2 := by
  rw [daysIn, if_pos rfl]
  split
  all_goals decide

/-- and 29 in a leap year. -/
theorem daysIn_february_of_isLeap (leap : isLeap year = true) : daysIn year 2 = 29 := by
  rw [daysIn, if_pos rfl, if_pos leap]

/-- The calendar has the dates that are found so; the 29th of February is the one that asks for a
leap year. -/
theorem IsDateOf.occurs (date : IsDateOf year dayOfYear c) (inYear : InMarchYear n year dayOfYear) :
    c.Occurs := by
  obtain ⟨-, -, le, leap⟩ := inYear
  cases date with
  | @sinceMarch month day range first start next =>
      refine ⟨⟨Nat.le_trans (by decide) range.1, range.2⟩, first, ?_⟩
      have months : month = 3 ∨ month = 4 ∨ month = 5 ∨ month = 6 ∨ month = 7 ∨ month = 8 ∨
          month = 9 ∨ month = 10 ∨ month = 11 ∨ month = 12 := by omega
      rcases months with rfl | rfl | rfl | rfl | rfl | rfl | rfl | rfl | rfl | rfl
      all_goals
        simp only [daysIn]
        simp at start next ⊢
        omega
  | @beforeMarch month day range first start next =>
      refine ⟨⟨range.1, Nat.le_trans range.2 (by decide)⟩, first, ?_⟩
      dsimp only
      have months : month = 1 ∨ month = 2 := by omega
      rcases months with rfl | rfl
      · simp [daysIn]
        omega
      · have short := le_daysIn_february (year + 1)
        by_cases last : dayOfYear = 365
        · rw [daysIn_february_of_isLeap (leap last)]
          omega
        · omega

/-- **The calendar has the date of every day.** -/
theorem occurs_ofDay (n : Int) : (ofDay n).Occurs := by
  obtain ⟨year, dayOfYear, inYear, date⟩ := exists_isDateOf_ofDay n
  exact date.occurs inYear

/-! ### From a date to its day -/

theorem toDay_eq (c : Civil) : c.toDay =
    firstOfMarch (if c.month ≤ 2 then c.year - 1 else c.year) +
      ((153 * (if c.month ≤ 2 then (c.month : Int) + 9 else c.month - 3) + 2) / 5 + c.day - 1) := by
  have floor (y : Int) : y.fdiv 400 = y / 400 := Int.fdiv_eq_ediv_of_nonneg _ (by decide)
  simp only [toDay, firstOfMarch, floor]
  generalize (153 * (if c.month ≤ 2 then (c.month : Int) + 9 else c.month - 3) + 2) / 5 = start
  generalize (if c.month ≤ 2 then c.year - 1 else c.year) = y
  omega

/-- Counting the days up to such a date leads back into the year that begins in March. -/
theorem IsDateOf.toDay_eq (date : IsDateOf year dayOfYear c) :
    c.toDay = firstOfMarch year + dayOfYear := by
  rw [Civil.toDay_eq]
  cases date with
  | @sinceMarch month day range first start next =>
      have later : ¬ month ≤ 2 := by omega
      rw [if_neg later, if_neg later]
      dsimp only
      omega
  | beforeMarch range first start next =>
      rw [if_pos range.2, if_pos range.2, Int.add_sub_cancel]
      dsimp only
      omega

/-- **The days up to the date of a day are that day.** -/
theorem toDay_ofDay (n : Int) : (ofDay n).toDay = n := by
  obtain ⟨year, dayOfYear, inYear, date⟩ := exists_isDateOf_ofDay n
  rw [date.toDay_eq, inYear.day_eq]

/-- January and February belong to the next year. -/
theorem IsDateOf.year_eq (date : IsDateOf year dayOfYear c) :
    c.year = year ∨ c.year = year + 1 := by
  cases date with
  | sinceMarch => exact .inl rfl
  | beforeMarch => exact .inr rfl

/-- **The days of a year** lie between the firsts of March around it. -/
theorem bounds_ofDay (n : Int) :
    firstOfMarch ((ofDay n).year - 1) ≤ n ∧ n ≤ firstOfMarch (ofDay n).year + 365 := by
  obtain ⟨year, dayOfYear, ⟨day, nonneg, le, -⟩, date⟩ := exists_isDateOf_ofDay n
  unfold firstOfMarch at *
  rcases date.year_eq with same | next
  · rw [same]
    omega
  · rw [next]
    omega

end Civil

end Interchange.Calendar
