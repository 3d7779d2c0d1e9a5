import Interchange.Mapping.DataType
import Interchange.Proofs.Calendar.Reader
import Interchange.Proofs.Number.Integers
/-!
# Dates are read back

A date that was given out comes in again as a text, and the readers of dates are tried on it one
after the other.  In the years of four digits each form that is given out is read by the reader that
is meant for it, since all readers before that one stop at its first separator.  A year with a
sign is another matter.  A timestamp of such a year is read by none: the form that allows for the
`Z` at its end allows for no sign, and the forms that allow for the sign stop before the `Z`.

* `readsYear_yearText` — a year is read again, with its sign if it has one.
* `readBy_iso`, `readBy_us`, `readBy_timestamp`, `readBy_epoch` — which reader is the first to read
  a form, and what it reads.
* `readsBack_render` — dates in the years of four digits come in again as they were given out.
* `parse?_timestamp_of_not_years` — timestamps of all other years are read by none.
-/

namespace Interchange.Calendar

open Text (isBlank Solid)

variable {i : Instant} {y : Int} {ys ms ds hs ns ss fs : List Char}

/-! ### The texts -/

/-- The characters of a date: year, month and day, -/
theorem toList_render_iso (i : Instant) : (DateFormat.iso.render i).toList =
    (yearText i.civil.year).toList ++
      '-' :: ((padded 2 i.civil.month).toList ++ '-' :: (padded 2 i.civil.day).toList) := by
  simp [DateFormat.render, toString]

/-- month, day and year, -/
theorem toList_render_us (i : Instant) : (DateFormat.us.render i).toList =
    (padded 2 i.civil.month).toList ++
      '/' :: ((padded 2 i.civil.day).toList ++ '/' :: (yearText i.civil.year).toList) := by
  simp [DateFormat.render, toString]

/-- or day, month and year; -/
theorem toList_render_eu (i : Instant) : (DateFormat.eu.render i).toList =
    (padded 2 i.civil.day).toList ++
      '/' :: ((padded 2 i.civil.month).toList ++ '/' :: (yearText i.civil.year).toList) := by
  simp [DateFormat.render, toString]

/-- and those of a timestamp, with the milliseconds and the `Z` at its end. -/
theorem toList_render_timestamp (i : Instant) : (DateFormat.timestamp.render i).toList =
    (yearText i.civil.year).toList ++ '-' :: ((padded 2 i.civil.month).toList ++ '-' ::
      ((padded 2 i.civil.day).toList ++ 'T' :: ((padded 2 (i.secondOfDay / 3600)).toList ++ ':' ::
        ((padded 2 (i.secondOfDay / 60 % 60)).toList ++ ':' ::
          ((padded 2 (i.secondOfDay % 60 + i.nanos / 1000000000)).toList ++ '.' ::
            ((padded 3 (i.nanos % 1000000000 / 1000000)).toList ++ ['Z'])))))) := by
  simp [DateFormat.render, toString]

/-- Years of four digits are written in four digits, without a sign. -/
theorem yearText_of_years (years : 0 ≤ y ∧ y ≤ 9999) : yearText y = padded 4 y.toNat := by
  rw [yearText, if_pos (by simpa using years)]

/-- A year outside of the four digits begins with a sign. -/
theorem yearText_of_not_years (outside : ¬ (0 ≤ y ∧ y ≤ 9999)) :
    yearText y = (if y < 0 then "-" else "+") ++ padded 4 y.natAbs := by
  rw [yearText, if_neg (by simpa using outside)]

/-- Years of four digits are spelled by their texts. -/
theorem spells_yearText (years : 0 ≤ y ∧ y ≤ 9999) : Spells 4 y.toNat (yearText y).toList := by
  rw [yearText_of_years years]
  exact spells_padded_of_lt (by decide) (by omega)

/-- **A year is written** with four digits, or with a sign and at least four. -/
inductive WritesYear : Int → List Char → Prop
  | plain {n : Nat} {ds : List Char} (spelled : Spells 4 n ds) : WritesYear n ds
  | minus {width n : Nat} {ds : List Char} (long : 4 ≤ width) (spelled : Spells width n ds) :
      WritesYear (-n) ('-' :: ds)
  | plus {width n : Nat} {ds : List Char} (long : 4 ≤ width) (spelled : Spells width n ds) :
      WritesYear n ('+' :: ds)

/-- A year that is written in either way is read, -/
theorem WritesYear.readsYear (written : WritesYear y ys) : ReadsYear y ys := by
  cases written with
  | plain spelled => exact spelled.readsYear (by decide) (by decide)
  | minus long spelled => exact spelled.readsYear_minus (Nat.lt_of_lt_of_le (by decide) long)
  | plus long spelled => exact spelled.readsYear_plus (Nat.lt_of_lt_of_le (by decide) long)

/-- and every year is written in one of them. -/
theorem writesYear_yearText (y : Int) : WritesYear y (yearText y).toList := by
  by_cases years : 0 ≤ y ∧ y ≤ 9999
  · have written := WritesYear.plain (spells_yearText years)
    rwa [Int.toNat_of_nonneg years.1] at written
  · have spelled := spells_padded 4 y.natAbs
    have long : 4 ≤ max 4 (Nat.toDigits 10 y.natAbs).length := Nat.le_max_left _ _
    rw [yearText_of_not_years years, String.toList_append]
    by_cases negative : y < 0
    · have written := WritesYear.minus long spelled
      rw [if_pos negative]
      rwa [Int.ofNat_natAbs_of_nonpos (Int.le_of_lt negative), Int.neg_neg] at written
    · have written := WritesYear.plus long spelled
      rw [if_neg negative]
      rwa [Int.natAbs_of_nonneg (Int.not_lt.mp negative)] at written

/-- A year is read again, with its sign if it has one. -/
theorem readsYear_yearText (y : Int) : ReadsYear y (yearText y).toList :=
  (writesYear_yearText y).readsYear

theorem spells_month (i : Instant) : Spells 2 i.civil.month (padded 2 i.civil.month).toList := by
  have month : i.civil.month ≤ 12 := (Civil.occurs_ofDay i.day).month.2
  exact spells_padded_of_lt (by decide) (by omega)

theorem spells_day (i : Instant) : Spells 2 i.civil.day (padded 2 i.civil.day).toList := by
  have day : i.civil.day ≤ 31 :=
    Nat.le_trans (Civil.occurs_ofDay i.day).day.2 (daysIn_le _ _)
  exact spells_padded_of_lt (by decide) (by omega)

/-- The calendar reaches beyond the years of four digits on both sides. -/
theorem covered_of_years (years : 0 ≤ y ∧ y ≤ 9999) : firstYear ≤ y ∧ y ≤ lastYear := by
  unfold firstYear lastYear
  omega

/-- Digits leave no room for a blank, so that trimming takes nothing off a date, -/
theorem Spells.solid {width n : Nat} (spelled : Spells width n ds) : Solid ds := fun c member =>
  isBlank_of_isDigit (spelled.digits c member)

theorem solid_padded (width n : Nat) : Solid (padded width n).toList :=
  (spells_padded width n).solid

/-- and neither does the sign of a year. -/
theorem WritesYear.solid (written : WritesYear y ys) : Solid ys := by
  cases written with
  | plain spelled => exact spelled.solid
  | minus long spelled => exact List.forall_mem_cons.mpr ⟨by decide, spelled.solid⟩
  | plus long spelled => exact List.forall_mem_cons.mpr ⟨by decide, spelled.solid⟩

/-- There are no blanks in a date that is given out. -/
theorem solid_render (f : DateFormat) (i : Instant) : Solid (f.render i).toList := by
  have year := (writesYear_yearText i.civil.year).solid
  have hyphen : isBlank '-' = false ∧ isBlank '/' = false := by decide
  have time : isBlank 'T' = false ∧ isBlank ':' = false ∧ isBlank '.' = false ∧
      isBlank 'Z' = false := by decide
  unfold Solid at year
  cases f with
  | iso =>
      simp only [Solid, toList_render_iso, List.forall_mem_append, List.forall_mem_cons]
      exact ⟨year, hyphen.1, solid_padded _ _, hyphen.1, solid_padded _ _⟩
  | us =>
      simp only [Solid, toList_render_us, List.forall_mem_append, List.forall_mem_cons]
      exact ⟨solid_padded _ _, hyphen.2, solid_padded _ _, hyphen.2, year⟩
  | eu =>
      simp only [Solid, toList_render_eu, List.forall_mem_append, List.forall_mem_cons]
      exact ⟨solid_padded _ _, hyphen.2, solid_padded _ _, hyphen.2, year⟩
  | timestamp =>
      simp only [Solid, toList_render_timestamp, List.forall_mem_append, List.forall_mem_cons]
      exact ⟨year, hyphen.1, solid_padded _ _, hyphen.1, solid_padded _ _, time.1,
        solid_padded _ _, time.2.1, solid_padded _ _, time.2.1, solid_padded _ _, time.2.2.1,
        solid_padded _ _, time.2.2.2, nofun⟩
  | epoch =>
      have text : (DateFormat.epoch.render i).toList = (toString i.millis).toList := rfl
      have digits := Json.all_isDigit_toDigits i.millis.natAbs
      rw [text, toList_toString_int, Json.integerText]
      have solid : Solid (Nat.toDigits 10 i.millis.natAbs) := fun c member =>
        isBlank_of_isDigit (digits c member)
      split
      · exact List.forall_mem_cons.mpr ⟨hyphen.1, solid⟩
      · exact solid

/-! ### Days -/

/-- A text that ends with the date has no time of day. -/
theorem rfc3339?_day {n month day : Nat} (spellsYear : Spells 4 n ys)
    (spellsMonth : Spells 2 month ms) (spellsDay : Spells 2 day ds) :
    rfc3339? (ys ++ '-' :: (ms ++ '-' :: ds)) = none := by
  have ended : fixed? 2 ['T', 't', ' '] ds = none := by
    have read := spellsDay.exactDigits?_append []
    rw [List.append_nil] at read
    rw [fixed?, read]
  simp [rfc3339?, fixed?_append spellsYear, fixed?_append spellsMonth, ended]

/-- The readers before the one for dates with hyphens need a time of day, and a date has none. -/
theorem readBy_iso (years : 0 ≤ i.civil.year ∧ i.civil.year ≤ 9999) :
    ReadBy 4 (DateFormat.iso.render i).toList i.midnight := by
  have month := spells_month i
  have day := spells_day i
  have date (is : List Item) :=
    readItems_date (readsYear_yearText i.civil.year) month day (s := '-') (by decide) is {} []
  simp only [List.append_nil] at date
  have onlyDate := date []
  rw [List.append_nil] at onlyDate
  rw [toList_render_iso]
  refine .of_reader (r := form? (ymd '-')) rfl ?earlier ?reads
  case earlier =>
    intro r earlier
    simp only [readers_eq, List.take_succ_cons, List.take_zero, List.mem_cons, List.not_mem_nil,
      or_false] at earlier
    obtain rfl | rfl | rfl | rfl := earlier
    · exact rfc3339?_day (spells_yearText years) month day
    all_goals
      rw [form?, date]
      rfl
  case reads =>
    rw [form?, onlyDate]
    exact Instant.instant?_date (covered_of_years years)

/-- The readers before the one for dates that begin with the month need four digits for the year, or
a hyphen behind it. -/
theorem readBy_us (years : 0 ≤ i.civil.year ∧ i.civil.year ≤ 9999) :
    ReadBy 5 (DateFormat.us.render i).toList i.midnight := by
  have month := spells_month i
  have day := spells_day i
  have noYear (is : List Item) (rest : List Char) :=
    readItems_ymd_of_ne (month.readsYear (by decide) (by decide)) (c := '/') (s := '-')
      (by decide) (by decide) is {} rest
  have onlyNoYear := noYear []
  simp only [List.append_nil] at onlyNoYear
  rw [toList_render_us]
  refine .of_reader (r := form? [.month, .literal '/', .day, .literal '/', .year]) rfl
    ?earlier ?reads
  case earlier =>
    intro r earlier
    simp only [readers_eq, List.take_succ_cons, List.take_zero, List.mem_cons, List.not_mem_nil,
      or_false] at earlier
    obtain rfl | rfl | rfl | rfl | rfl := earlier
    · rw [rfc3339?, fixed?, month.exactDigits?_append_cons (by decide) (by decide)]
      rfl
    · rw [form?, noYear, Option.bind_none]
    · rw [form?, noYear, Option.bind_none]
    · rw [form?, noYear, Option.bind_none]
    · rw [form?, onlyNoYear, Option.bind_none]
  case reads =>
    rw [form?, readItems_mdy month day (spells_yearText years), Int.toNat_of_nonneg years.1]
    exact Instant.instant?_date (covered_of_years years)

/-! ### Instants -/

/-- A timestamp in the years of four digits is read by the first of all readers. -/
theorem readBy_timestamp (proper : i.IsProper) (years : 0 ≤ i.civil.year ∧ i.civil.year ≤ 9999) :
    ReadBy 0 (DateFormat.timestamp.render i).toList i.truncated := by
  have second := i.secondOfDay_lt
  have leap := proper.leap_le_one
  refine .of_reader (r := rfc3339?) rfl (fun r earlier => absurd earlier List.not_mem_nil) ?_
  · rw [toList_render_timestamp, rfc3339?_stamp (spells_yearText years) (spells_month i)
      (spells_day i) (spells_padded_of_lt (by decide) (by omega))
      (spells_padded_of_lt (by decide) (by omega)) (spells_padded_of_lt (by decide) (by omega))
      (spells_padded_of_lt (by decide) (by omega)), Int.toNat_of_nonneg years.1]
    exact Instant.instant?_parts proper (covered_of_years years)

/-- A count is written with digits behind its first character. -/
theorem isDigit_of_mem_tail_epoch (i : Instant) :
    ∀ c ∈ (DateFormat.epoch.render i).toList.tail, c.isDigit = true := by
  intro c member
  have digits := Json.all_isDigit_toDigits i.millis.natAbs
  have text : (DateFormat.epoch.render i).toList = (toString i.millis).toList := rfl
  rw [text, toList_toString_int, Json.integerText] at member
  split at member
  · exact digits c member
  · exact digits c (List.mem_of_mem_tail member)

/-- A count holds no separator, and so is left to the last of all readers. -/
theorem readBy_epoch (proper : i.IsProper) (years : 0 ≤ i.civil.year ∧ i.civil.year ≤ 9999) :
    ReadBy 7 (DateFormat.epoch.render i).toList i.counted := by
  have bounds := Instant.day_bounds years
  have leap := proper.leap_le_one
  have day := i.day_eq
  have word : -0x8000000000000000 ≤ i.millis ∧ i.millis < 0x8000000000000000 := by
    unfold Instant.millis
    omega
  have noSeparator {c : Char} (other : c.isDigit = false) :
      c ∉ (DateFormat.epoch.render i).toList.tail := fun member =>
    Bool.false_ne_true (other ▸ isDigit_of_mem_tail_epoch i c member)
  refine .of_reader (r := count?) rfl ?earlier ?reads
  case earlier =>
    intro r earlier
    simp only [readers_eq, List.take_succ_cons, List.take_zero, List.mem_cons, List.not_mem_nil,
      or_false] at earlier
    obtain rfl | rfl | rfl | rfl | rfl | rfl | rfl := earlier
    · exact rfc3339?_of_not_mem (noSeparator (by decide))
    · exact form?_of_not_mem (.inl rfl) (noSeparator (by decide)) _
    · exact form?_of_not_mem (.inl rfl) (noSeparator (by decide)) _
    · exact form?_of_not_mem (.inl rfl) (noSeparator (by decide)) _
    · exact form?_of_not_mem (.inl rfl) (noSeparator (by decide)) _
    · exact form?_of_not_mem (.inr rfl) (noSeparator (by decide)) _
    · exact form?_of_not_mem (.inl rfl) (noSeparator (by decide)) _
  case reads =>
    have read : Numeral.integer? (String.ofList (DateFormat.epoch.render i).toList) =
        some i.millis := by
      rw [String.ofList_toList]
      exact Numeral.integer?_toString word
    rw [count?, read]
    exact Instant.ofMillis?_millis proper years

/-! ### Years with a sign -/

/-- The form of RFC 3339 has no sign, and all other forms with a hyphen stop before the `Z`. -/
theorem readers_signedStamp {month day hour minute second milli : Nat} {c : Char}
    (readsYear : ReadsYear y (c :: ys)) (stop : c.isDigit = false) (solid : isBlank c = false)
    (spellsMonth : Spells 2 month ms) (spellsDay : Spells 2 day ds) (spellsHour : Spells 2 hour hs)
    (spellsMinute : Spells 2 minute ns) (spellsSecond : Spells 2 second ss)
    (spellsMilli : Spells 3 milli fs) :
    ∀ r ∈ readers, r (c :: (ys ++ '-' :: (ms ++ '-' :: (ds ++ 'T' :: (hs ++ ':' :: (ns ++ ':' ::
      (ss ++ '.' :: (fs ++ ['Z'])))))))) = none := by
  have date (is : List Item) (rest : List Char) :=
    readItems_date readsYear spellsMonth spellsDay (s := '-') (by decide) is {} rest
  have onlyDate (rest : List Char) := date [] rest
  have slashed (rest : List Char) :=
    readItems_ymd_of_ne readsYear (c := '-') (s := '/') (by decide) (by decide) [] {} rest
  simp only [List.append_nil, List.cons_append] at date onlyDate slashed
  have time (is : List Item) (p : Parts) (rest : List Char) :=
    readItems_hm spellsHour spellsMinute is p rest
  have onlyTime (p : Parts) (rest : List Char) := time [] p rest
  simp only [List.append_nil] at onlyTime
  intro r member
  simp only [readers_eq, List.mem_cons, List.not_mem_nil, or_false] at member
  obtain rfl | rfl | rfl | rfl | rfl | rfl | rfl | rfl := member
  · exact rfc3339?_of_no_digit stop _
  · -- the fraction is taken up, and the `Z` is left
    have fraction (p : Parts) : Item.fraction.read p ('.' :: (fs ++ ['Z'])) =
        some ({ p with nanos := milli * 1000000 }, ['Z']) := by
      rw [Item.read, spellsMilli.fraction?_append_cons (by decide), Option.map_some]
    rw [form?, date, readItems_literal, hms, time, readItems_literal,
      readItems_of_read (Item.read_twoDigits rfl spellsSecond _ _), readItems_of_read (fraction _)]
    rfl
  · -- there is a letter before the hour
    have blank (p : Parts) (cs : List Char) :
        Item.blank.read p ('T' :: cs) = some (p, 'T' :: cs) := by
      rw [Item.read, List.dropWhile_cons_of_neg (by decide)]
    rw [form?, date, readItems_of_read (blank _ _)]
    exact congrArg (Option.bind · _)
      (readItems_of_read_eq_none (Item.read_of_no_digit rfl (by decide) (by decide) _ _) _)
  · rw [form?, date, readItems_literal, onlyTime]
    rfl
  · rw [form?, onlyDate]
    rfl
  · rw [form?, readItems_of_read_eq_none (Item.read_of_no_digit rfl solid stop _ _)]
    rfl
  · rw [form?, slashed]
    rfl
  · exact count?_of_mem_tail (c := '-') (by simp) (by decide)

/-- **A timestamp of a year with a sign is read by none.** -/
theorem parse?_timestamp_of_not_years (proper : i.IsProper)
    (outside : ¬ (0 ≤ i.civil.year ∧ i.civil.year ≤ 9999)) :
    Instant.parse? (DateFormat.timestamp.render i) = none := by
  have second := i.secondOfDay_lt
  have leap := proper.leap_le_one
  obtain ⟨c, ys, signed, stop, solid⟩ : ∃ c ys, (yearText i.civil.year).toList = c :: ys ∧
      c.isDigit = false ∧ isBlank c = false := by
    rw [yearText_of_not_years outside, String.toList_append]
    split
    · exact ⟨'-', _, rfl, by decide, by decide⟩
    · exact ⟨'+', _, rfl, by decide, by decide⟩
  have readsYear : ReadsYear i.civil.year (c :: ys) := signed ▸ readsYear_yearText _
  apply parse?_eq_none
  rw [(solid_render _ i).trimWhere, toList_render_timestamp, signed]
  exact readers_signedStamp readsYear stop solid (spells_month i) (spells_day i)
    (spells_padded_of_lt (by decide) (by omega)) (spells_padded_of_lt (by decide) (by omega))
    (spells_padded_of_lt (by decide) (by omega)) (spells_padded_of_lt (by decide) (by omega))

/-! ### What comes in again -/

/-- **A text that was given out comes in again** as an instant, by the reader at a place. -/
structure DateFormat.ReadsBack (f : DateFormat) (place : Nat) (i j : Instant) : Prop where
  reader : ReadBy place (f.render i).toList j
  value : Value.toInstant (.str (f.render i)) = .ok j

/-- A text that one reader is the first to read is read back as what that reader makes of it. -/
theorem ReadBy.readsBack {f : DateFormat} {place : Nat} {j : Instant}
    (read : ReadBy place (f.render i).toList j) : f.ReadsBack place i j := by
  refine ⟨read, ?_⟩
  have trimmed : ReadBy place (Text.trimWhere isBlank (f.render i).toList) j := by
    rwa [(solid_render f i).trimWhere]
  simp only [Value.toInstant, Value.toInstant?, trimmed.parse?_eq]

/-- **Dates come in again as they were given out.**  A date is its midnight, a timestamp and a count
are the instant down to the millisecond, but in a leap second a count is the one of the second that
follows.  No reader takes up what is meant for a later one. -/
theorem readsBack_render (proper : i.IsProper)
    (years : 0 ≤ i.civil.year ∧ i.civil.year ≤ 9999) :
    DateFormat.iso.ReadsBack 4 i i.midnight ∧
    DateFormat.us.ReadsBack 5 i i.midnight ∧
    (i.midnight.civil = i.civil ∧ i.midnight.secondOfDay = 0 ∧ i.midnight.nanos = 0) ∧
    DateFormat.timestamp.ReadsBack 0 i i.truncated ∧
    DateFormat.epoch.ReadsBack 7 i i.counted ∧
    (i.counted = i.truncated ↔ i.nanos < 1000000000) :=
  ⟨(readBy_iso years).readsBack, (readBy_us years).readsBack, i.civil_midnight,
    (readBy_timestamp proper years).readsBack, (readBy_epoch proper years).readsBack,
    Instant.counted_eq_truncated_iff⟩

/-- The second before the leap second at the end of 2016. -/
theorem readsBack_beforeLeapSecond :
    let i : Instant := ⟨1483228798, 123456789⟩
    i.IsProper ∧ (0 ≤ i.civil.year ∧ i.civil.year ≤ 9999) ∧
      DateFormat.epoch.ReadsBack 7 i ⟨1483228798, 123000000⟩ :=
  ⟨by decide, by decide +kernel, (readsBack_render (by decide) (by decide +kernel)).2.2.2.2.1⟩

/-- In the leap second at the end of 2016 the count is that of the beginning of 2017. -/
theorem not_readsBack_leapSecond :
    let i : Instant := ⟨1483228799, 1000000000⟩
    Instant.parse? "2016-12-31T23:59:60Z" = some i ∧ i.truncated = i ∧
      (0 ≤ i.civil.year ∧ i.civil.year ≤ 9999) ∧
      Value.toInstant (.str (DateFormat.epoch.render i)) = .ok ⟨1483228800, 0⟩ ∧
      Value.toInstant (.str (DateFormat.epoch.render i)) ≠ .ok i.truncated := by
  have leap : Instant.parse? "2016-12-31T23:59:60Z" = some ⟨1483228799, 1000000000⟩ := by
    decide +kernel
  have count : Value.toInstant (.str (DateFormat.epoch.render ⟨1483228799, 1000000000⟩)) =
      .ok ⟨1483228800, 0⟩ := by
    have parsed : Instant.parse? (DateFormat.epoch.render ⟨1483228799, 1000000000⟩) =
        some ⟨1483228800, 0⟩ := by
      decide +kernel
    simp only [Value.toInstant, Value.toInstant?, parsed]
  refine ⟨leap, rfl, by decide +kernel, count, ?_⟩
  rw [count]
  simp [Instant.truncated]

end Interchange.Calendar
