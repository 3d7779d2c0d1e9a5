import Interchange.Calendar.Reader
import Interchange.Proofs.Calendar.Day
/-!
# Instants and what they are written as

An instant is written as a date and a time of day, down to the millisecond, and these lead back to
the instant.  As a count of milliseconds it is only found again outside of leap seconds: there the
count is that of the second which follows.

* `Instant.IsProper` — a leap second is the end of a minute.
* `Instant.instant?_parts`, `Instant.instant?_date` — from what is written back to the instant, and
  to its midnight.
* `Instant.ofMillis?_millis` — from the count back to the instant.
-/

namespace Interchange.Calendar

namespace Instant

variable {i : Instant}

/-- **An instant is proper**: it lies within its second, or in the leap second that ends a
minute. -/
def IsProper (i : Instant) : Prop :=
  i.nanos < 1000000000 ∨ i.nanos < 2000000000 ∧ i.seconds % 60 = 59

/-- The instant without fractions of milliseconds. -/
def truncated (i : Instant) : Instant := ⟨i.seconds, i.nanos / 1000000 * 1000000⟩

/-- The instant without fractions of milliseconds on a clock that has no leap seconds: what lies in
one is as far into the second that follows. -/
def counted (i : Instant) : Instant :=
  ⟨i.seconds + (i.nanos / 1000000000 : Nat), i.nanos % 1000000000 / 1000000 * 1000000⟩

/-- The midnight with which the day of the instant begins. -/
def midnight (i : Instant) : Instant := ⟨i.day * 86400, 0⟩

/-- What an instant is written as. -/
def parts (i : Instant) : Parts where
  year := i.civil.year
  month := i.civil.month
  day := i.civil.day
  hour := i.secondOfDay / 3600
  minute := i.secondOfDay / 60 % 60
  second := i.secondOfDay % 60 + i.nanos / 1000000000
  nanos := i.nanos % 1000000000 / 1000000 * 1000000

instance (i : Instant) : Decidable i.IsProper := inferInstanceAs (Decidable (_ ∨ _))

/-- A proper instant is at most one leap second beyond its second. -/
theorem IsProper.leap_le_one (proper : i.IsProper) : i.nanos / 1000000000 ≤ 1 := by
  unfold IsProper at proper
  omega

/-- Counting milliseconds and cutting off what is below them come to the same but for leap
seconds. -/
theorem counted_eq_truncated_iff : i.counted = i.truncated ↔ i.nanos < 1000000000 := by
  simp only [counted, truncated, Instant.mk.injEq]
  omega

/-- The day of an instant, by the division that rounds down, -/
theorem day_eq (i : Instant) : i.day = i.seconds / 86400 :=
  Int.fdiv_eq_ediv_of_nonneg _ (by decide)

/-- the second of the day, which is its remainder, -/
theorem secondOfDay_eq (i : Instant) : (i.secondOfDay : Int) = i.seconds % 86400 := by
  rw [secondOfDay, Int.fmod_eq_emod_of_nonneg _ (by decide)]
  omega

/-- and the bound that this gives. -/
theorem secondOfDay_lt (i : Instant) : i.secondOfDay < 86400 := by
  have second := i.secondOfDay_eq
  omega

/-- The midnight of an instant is the beginning of its date. -/
theorem civil_midnight (i : Instant) :
    i.midnight.civil = i.civil ∧ i.midnight.secondOfDay = 0 ∧ i.midnight.nanos = 0 := by
  have day : i.midnight.day = i.day := by
    rw [day_eq, midnight, Int.mul_ediv_cancel _ (by decide)]
  have second := i.midnight.secondOfDay_eq
  rw [midnight, Int.mul_emod_left] at second
  exact ⟨congrArg Civil.ofDay day, Int.ofNat_eq_zero.mp second, rfl⟩

/-! ### From what is written back -/

/-- The date of an instant is valid if its year is one of the calendar. -/
theorem isValid_civil (covered : firstYear ≤ i.civil.year ∧ i.civil.year ≤ lastYear) :
    i.civil.isValid = true :=
  Civil.isValid_iff.mpr ⟨covered, Civil.occurs_ofDay _⟩

/-- **What an instant is written as leads back to it.** -/
theorem instant?_parts (proper : i.IsProper)
    (covered : firstYear ≤ i.civil.year ∧ i.civil.year ≤ lastYear) :
    i.parts.instant? 0 = some i.truncated := by
  have valid : Civil.isValid ⟨i.parts.year, i.parts.month, i.parts.day⟩ = true :=
    isValid_civil covered
  have day : Civil.toDay ⟨i.parts.year, i.parts.month, i.parts.day⟩ = i.day := Civil.toDay_ofDay _
  have days := i.day_eq
  have second := i.secondOfDay_eq
  have below := i.secondOfDay_lt
  have leap := proper.leap_le_one
  unfold IsProper at proper
  have inDay : (i.parts.hour ≤ 23 ∧ i.parts.minute ≤ 59) ∧ i.parts.second ≤ 60 := by
    simp only [parts]
    omega
  have time : i.parts.hour * 3600 + i.parts.minute * 60 + min i.parts.second 59 =
      i.secondOfDay := by
    simp only [parts]
    omega
  have leaps : i.parts.second = 60 ↔ 1000000000 ≤ i.nanos := by
    simp only [parts]
    omega
  have nanos : i.parts.nanos = i.nanos % 1000000000 / 1000000 * 1000000 := rfl
  simp only [Parts.instant?, valid, day, inDay, time, leaps, nanos, decide_true, Bool.and_self,
    if_true, truncated, Option.some.injEq, Instant.mk.injEq]
  clear valid day inDay time leaps nanos
  constructor
  · omega
  · split
    all_goals omega

/-- **A date leads back to its midnight.** -/
theorem instant?_date (covered : firstYear ≤ i.civil.year ∧ i.civil.year ≤ lastYear) :
    Parts.instant? { year := i.civil.year, month := i.civil.month, day := i.civil.day } 0 =
      some i.midnight := by
  have valid := isValid_civil covered
  have day : Civil.toDay ⟨i.civil.year, i.civil.month, i.civil.day⟩ = i.day := Civil.toDay_ofDay _
  simp [Parts.instant?, valid, day, midnight]

/-! ### From the count back -/

/-- A count of milliseconds is an instant if its year is one of the calendar. -/
theorem ofMillis?_eq_some_iff {n : Int} {j : Instant} : ofMillis? n = some j ↔
    j = ⟨n / 1000, (n % 1000).toNat * 1000000⟩ ∧
      firstYear ≤ j.civil.year ∧ j.civil.year ≤ lastYear := by
  have whole : n.fdiv 1000 = n / 1000 := Int.fdiv_eq_ediv_of_nonneg _ (by decide)
  have rest : n.fmod 1000 = n % 1000 := Int.fmod_eq_emod_of_nonneg _ (by decide)
  simp only [ofMillis?, whole, rest, Bool.and_eq_true, decide_eq_true_eq]
  split
  · next covered =>
      simp only [Option.some.injEq]
      exact ⟨fun same => ⟨same.symm, same ▸ covered⟩, fun same => same.1.symm⟩
  · next outside =>
      simp only [reduceCtorEq, false_iff, not_and]
      rintro rfl
      simpa using outside

/-- The days of the years of four digits. -/
theorem day_bounds (years : 0 ≤ i.civil.year ∧ i.civil.year ≤ 9999) :
    -719834 ≤ i.day ∧ i.day ≤ 2933261 := by
  have bounds := Civil.bounds_ofDay i.day
  unfold civil at years
  unfold firstOfMarch at bounds
  omega

/-- **The count of milliseconds leads back to the instant**, on a clock without leap seconds. -/
theorem ofMillis?_millis (proper : i.IsProper) (years : 0 ≤ i.civil.year ∧ i.civil.year ≤ 9999) :
    ofMillis? i.millis = some i.counted := by
  have leap := proper.leap_le_one
  rw [ofMillis?_eq_some_iff]
  constructor
  · simp only [counted, millis, Instant.mk.injEq]
    omega
  · have bounds := day_bounds years
    have next : i.counted.day ≤ i.day + 1 ∧ i.day ≤ i.counted.day := by
      rw [day_eq, day_eq]
      simp only [counted]
      omega
    have range := Civil.bounds_ofDay i.counted.day
    unfold firstOfMarch at range
    simp only [civil, firstYear, lastYear]
    omega

/-! ### Whatever is read is proper -/

/-- A leap second is read as the one after second 59, whatever the offset in minutes. -/
theorem isProper_instant? {p : Parts} {offset : Int} {j : Instant} (fraction : p.nanos < 1000000000)
    (minutes : offset % 60 = 0) (found : p.instant? offset = some j) : j.IsProper := by
  simp only [Parts.instant?] at found
  split at found
  · rw [Option.some.injEq] at found
    subst found
    simp only [IsProper]
    split
    · next leap =>
        rw [leap]
        omega
    · exact .inl (by omega)
  · cases found

/-- It is a proper one. -/
theorem isProper_ofMillis? {n : Int} {j : Instant} (found : ofMillis? n = some j) : j.IsProper := by
  rw [ofMillis?_eq_some_iff] at found
  rw [found.1]
  exact .inl (by simp only; omega)

end Instant

end Interchange.Calendar
