import Interchange.Proofs.Calendar.Proper
import Interchange.Proofs.Calendar.ReadBack
/-!
# Timestamps

What an instant is given out as has the form of ISO 8601, where a year of other than four digits
carries a sign.  It holds all of the instant down to the millisecond, so that it does not change
when these are all that is left.

* `IsTimestamp` — a text is a date and a time of day in UTC.
* `isTimestamp_render` — the timestamp of a proper instant is one.
* `render_truncated` — it does not tell what is below the milliseconds.
-/

namespace Interchange.Calendar

variable {i : Instant}

/-- **A text is a timestamp** of a date that occurs and a time of day in UTC, with milliseconds.
Second 60 is a leap second. -/
inductive IsTimestamp : List Char → Prop
  | intro {date : Civil} {hour minute second milli : Nat} {ys ms ds hs ns ss fs : List Char}
      (occurs : date.Occurs) (time : hour < 24 ∧ minute < 60 ∧ second ≤ 60)
      (year : WritesYear date.year ys) (month : Spells 2 date.month ms) (day : Spells 2 date.day ds)
      (hours : Spells 2 hour hs) (minutes : Spells 2 minute ns) (seconds : Spells 2 second ss)
      (millis : Spells 3 milli fs) :
      IsTimestamp (ys ++ '-' :: (ms ++ '-' :: (ds ++ 'T' :: (hs ++ ':' :: (ns ++ ':' ::
        (ss ++ '.' :: (fs ++ ['Z'])))))))

/-- **A proper instant is given out as a timestamp.** -/
theorem isTimestamp_render (proper : i.IsProper) :
    IsTimestamp (DateFormat.timestamp.render i).toList := by
  have below := i.secondOfDay_lt
  have leap := proper.leap_le_one
  rw [toList_render_timestamp]
  exact .intro (Civil.occurs_ofDay i.day) (by omega) (writesYear_yearText _) (spells_month i)
    (spells_day i) (spells_padded_of_lt (by decide) (by omega))
    (spells_padded_of_lt (by decide) (by omega)) (spells_padded_of_lt (by decide) (by omega))
    (spells_padded_of_lt (by decide) (by omega))

/-- A timestamp tells nothing of what is below the milliseconds. -/
theorem render_truncated (i : Instant) :
    DateFormat.timestamp.render i.truncated = DateFormat.timestamp.render i := by
  have leap : i.truncated.nanos / 1000000000 = i.nanos / 1000000000 := by
    simp only [Instant.truncated]
    omega
  have milli : i.truncated.nanos % 1000000000 / 1000000 = i.nanos % 1000000000 / 1000000 := by
    simp only [Instant.truncated]
    omega
  have civil : i.truncated.civil = i.civil := rfl
  have second : i.truncated.secondOfDay = i.secondOfDay := rfl
  simp only [DateFormat.render, leap, milli, civil, second]

/-- **Every value that denotes an instant denotes a proper one.** -/
theorem isProper_toInstant {v : Value} (denoted : v.toInstant = .ok i) : i.IsProper := by
  have found : v.toInstant? = some i := by
    unfold Value.toInstant at denoted
    split at denoted
    · next j found =>
        rw [found, Except.ok.inj denoted]
    · cases denoted
  cases v
  case num number =>
    obtain ⟨n, -, found⟩ := Option.bind_eq_some_iff.mp found
    exact Instant.isProper_ofMillis? found
  case str text => exact isProper_parse? found
  all_goals cases found

end Interchange.Calendar
