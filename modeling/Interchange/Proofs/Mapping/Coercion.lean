import Interchange.Proofs.Calendar.Timestamp
import Interchange.Proofs.Mapping.Integers
/-!
# What coercion leads to

A value that was coerced to a type belongs to it, and coercing it once more changes nothing.  There
is one exception: a date outside of the years of four digits is given out with a sign, and with sign
and `Z` together it is not read again.

* `DataType.Holds` — which values belong to a type.
* `DataType.Keeps` — which of them are coerced to themselves.
* `DataType.holds_and_kept_iff` — whatever was coerced to a type belongs to it, and is kept exactly
  if it is no date outside of these years.
-/

namespace Interchange

namespace DataType

open Binary64 (toInt? truncate)
open Value (ofNumber? IsSafe)

variable {v w : Value} {x : Float} {i : Calendar.Instant}

/-- **A number has no fraction.** -/
def IsWhole : Number → Prop
  | .int _ _ => True
  | .float x _ => ∃ a, toInt? x = some a

/-- **A value belongs to a type.** -/
def Holds : DataType → Value → Prop
  | string, w => ∃ text, w = .str text
  | number, w => ∃ n, w = .num n
  | integer, w => ∃ n, w = .num n ∧ IsWhole n
  | boolean, w => ∃ b, w = .bool b
  | date, w => ∃ text, w = .str text ∧ Calendar.IsTimestamp text.toList
  | object, w => ∃ members, w = .obj members
  | array, w => ∃ items, w = .list items
  | any, _ => True

/-- **A type keeps a value**: it is of the type, and coercing it gives it back. -/
structure Keeps (t : DataType) (w : Value) : Prop where
  holds : t.Holds w
  coerce_eq : t.coerce w = .ok w

/-! ### Numbers -/

/-- A number comes of a value that reads as a float, and that float must be one that a document
holds. -/
theorem coerce_number_eq_ok_iff :
    number.coerce v = .ok w ↔ ∃ x, v.toNumber? = some x ∧ ofNumber? x = some w := by
  rw [← Option.bind_eq_some_iff]
  simp only [coerce]
  cases v.toNumber?.bind ofNumber? with
  | some made => simp
  | none => simp

/-- An integer comes of the same float with its fraction cut off. -/
theorem coerce_integer_eq_ok_iff :
    integer.coerce v = .ok w ↔ ∃ x, v.toNumber? = some x ∧ ofNumber? (truncate x) = some w := by
  rw [← Option.bind_eq_some_iff]
  simp only [coerce]
  cases v.toNumber?.bind fun x => ofNumber? (truncate x) with
  | some made => simp
  | none => simp

/-- **A float becomes a value in two ways**, as an integer of safe size or as it is. -/
theorem ofNumber?_cases (made : ofNumber? x = some w) :
    (∃ a, IsSafe a ∧ w = .ofInt a) ∨
      (∃ finite, w = .num (.float x finite)) ∧ ∀ a, toInt? x = some a → ¬ IsSafe a := by
  have float (made : (Number.ofFloat? x).map Value.num = some w) :
      ∃ finite, w = .num (.float x finite) := by
    obtain ⟨n, found, rfl⟩ := Option.map_eq_some_iff.mp made
    unfold Number.ofFloat? at found
    split at found
    · next finite => exact ⟨finite, congrArg _ (Option.some.inj found).symm⟩
    · cases found
  unfold ofNumber? at made
  split at made
  · next a whole =>
      split at made
      · next safe => exact .inl ⟨a, safe, (Option.some.inj made).symm⟩
      · next beyond =>
          refine .inr ⟨float made, fun b also => ?_⟩
          rwa [← Option.some.inj (whole.symm.trans also)]
  · next fraction =>
      exact .inr ⟨float made, fun a whole => absurd (fraction.symm.trans whole) (by simp)⟩

/-- Integers of safe size are kept. -/
theorem keeps_ofInt {a : Int} (safe : IsSafe a) :
    number.Keeps (.ofInt a) ∧ integer.Keeps (.ofInt a) := by
  have inRange : -0x8000000000000000 ≤ a ∧ a < 0x10000000000000000 := by
    unfold IsSafe Value.safeInteger at safe
    omega
  have itself : Value.asNumber a = .ofInt a := (Value.asNumber_eq_ofInt_iff inRange).mpr safe
  have denotes : Value.Denotes (.ofInt a) a := by
    rw [Value.ofInt_eq inRange]
    exact .num a inRange
  have number : ∃ n, Value.ofInt a = .num n ∧ IsWhole n := ⟨_, Value.ofInt_eq inRange, trivial⟩
  exact ⟨⟨number.imp fun n made => made.1, itself ▸ denotes.coerce_number⟩,
    ⟨number, itself ▸ denotes.coerce_integer⟩⟩

/-- A number is kept by coercing it again. -/
theorem keeps_number (coerced : number.coerce v = .ok w) : number.Keeps w := by
  obtain ⟨x, -, made⟩ := coerce_number_eq_ok_iff.mp coerced
  obtain ⟨a, safe, rfl⟩ | ⟨⟨finite, rfl⟩, -⟩ := ofNumber?_cases made
  · exact (keeps_ofInt safe).1
  · exact ⟨⟨_, rfl⟩, coerce_number_eq_ok_iff.mpr ⟨x, rfl, made⟩⟩

/-- A float that is left behind the point is so large that there was nothing below it. -/
theorem keeps_integer (coerced : integer.coerce v = .ok w) : integer.Keeps w := by
  obtain ⟨x, -, made⟩ := coerce_integer_eq_ok_iff.mp coerced
  obtain ⟨a, safe, rfl⟩ | ⟨⟨finite, rfl⟩, beyond⟩ := ofNumber?_cases made
  · exact (keeps_ofInt safe).2
  · have before := Binary64.isFinite_of_truncate finite
    obtain ⟨a, whole⟩ := Binary64.exists_toInt?_truncate before
    have large : 2 ^ 52 ≤ a.natAbs := by
      have beyond := beyond a whole
      rw [Value.isSafe_iff] at beyond
      omega
    have again : truncate (truncate x) = truncate x :=
      congrArg truncate (Binary64.truncate_of_large before whole large)
    refine ⟨⟨_, rfl, a, whole⟩, coerce_integer_eq_ok_iff.mpr ⟨truncate x, rfl, ?_⟩⟩
    rwa [again]

/-! ### Dates -/

/-- A date comes of a value that reads as an instant, as its timestamp. -/
theorem coerce_date_eq_ok_iff : date.coerce v = .ok w ↔
    ∃ i, v.toInstant = .ok i ∧ w = .str (Calendar.DateFormat.timestamp.render i) := by
  simp only [coerce]
  cases v.toInstant with
  | ok i => simp [Except.map, eq_comm]
  | error e => simp [Except.map]

/-- The timestamp of a year with four digits is read back, to the millisecond. -/
theorem toInstant_timestamp (proper : i.IsProper)
    (years : 0 ≤ i.civil.year ∧ i.civil.year ≤ 9999) :
    (Value.str (Calendar.DateFormat.timestamp.render i)).toInstant = .ok i.truncated :=
  (Calendar.readBy_timestamp proper years).readsBack.value

/-- **A date is kept exactly in the years of four digits.** -/
theorem coerce_date (denoted : v.toInstant = .ok i)
    (written : w = .str (Calendar.DateFormat.timestamp.render i)) :
    date.Holds w ∧ (date.coerce w = .ok w ↔ 0 ≤ i.civil.year ∧ i.civil.year ≤ 9999) := by
  subst written
  have proper := Calendar.isProper_toInstant denoted
  refine ⟨⟨_, rfl, Calendar.isTimestamp_render proper⟩, ?_⟩
  rw [coerce_date_eq_ok_iff]
  constructor
  · rintro ⟨j, read, -⟩
    by_contra outside
    have unread := Calendar.parse?_timestamp_of_not_years proper outside
    simp only [Value.toInstant, Value.toInstant?, unread] at read
    cases read
  · intro years
    exact ⟨i.truncated, toInstant_timestamp proper years,
      congrArg _ (Calendar.render_truncated i).symm⟩

/-! ### Containers -/

/-- An object is kept, whatever it was made of, -/
theorem keeps_object (coerced : object.coerce v = .ok w) : object.Keeps w := by
  have members : ∃ ms, w = .obj ms := by
    simp only [coerce] at coerced
    split at coerced
    · exact ⟨_, (Except.ok.inj coerced).symm⟩
    · exact ⟨[], (Except.ok.inj coerced).symm⟩
    · split at coerced
      · exact ⟨_, (Except.ok.inj coerced).symm⟩
      · cases coerced
    · cases coerced
  obtain ⟨ms, rfl⟩ := members
  exact ⟨⟨ms, rfl⟩, rfl⟩

/-- and so is a list. -/
theorem keeps_array (coerced : array.coerce v = .ok w) : array.Keeps w := by
  have items : ∃ items, w = .list items := by
    simp only [coerce] at coerced
    split at coerced
    case h_3 =>
      split at coerced
      all_goals exact ⟨_, (Except.ok.inj coerced).symm⟩
    all_goals exact ⟨_, (Except.ok.inj coerced).symm⟩
  obtain ⟨items, rfl⟩ := items
  exact ⟨⟨items, rfl⟩, rfl⟩

/-! ### All types -/

/-- **Whatever was coerced to a type belongs to it**, and is kept, unless it is a date outside of
the years of four digits. -/
theorem holds_and_kept_iff (t : DataType) (coerced : t.coerce v = .ok w) :
    t.Holds w ∧ (t.coerce w = .ok w ↔
      ∀ i, t = date → v.toInstant = .ok i → 0 ≤ i.civil.year ∧ i.civil.year ≤ 9999) := by
  have kept {t : DataType} (other : t ≠ date) (keeps : t.Keeps w) :
      t.Holds w ∧ (t.coerce w = .ok w ↔
        ∀ i, t = date → v.toInstant = .ok i → 0 ≤ i.civil.year ∧ i.civil.year ≤ 9999) :=
    ⟨keeps.holds, iff_of_true keeps.coerce_eq fun i same => absurd same other⟩
  cases t
  case date =>
    obtain ⟨i, denoted, written⟩ := coerce_date_eq_ok_iff.mp coerced
    obtain ⟨holds, kept⟩ := coerce_date denoted written
    refine ⟨holds, kept.trans ⟨fun years j _ same => ?_, fun years => years i rfl denoted⟩⟩
    rwa [← Except.ok.inj (denoted.symm.trans same)]
  case number => exact kept (by decide) (keeps_number coerced)
  case integer => exact kept (by decide) (keeps_integer coerced)
  case string =>
    obtain rfl := Except.ok.inj coerced
    exact kept (by decide) ⟨⟨_, rfl⟩, rfl⟩
  case boolean =>
    obtain rfl := Except.ok.inj coerced
    exact kept (by decide) ⟨⟨_, rfl⟩, rfl⟩
  case object => exact kept (by decide) (keeps_object coerced)
  case array => exact kept (by decide) (keeps_array coerced)
  case any =>
    obtain rfl := Except.ok.inj coerced
    exact kept (by decide) ⟨trivial, rfl⟩

/-- Half past midnight on New Year's Day, two hours ahead of UTC. -/
theorem newYear_kept :
    date.coerce (.str "2024-01-01T00:30:00+02:00") = .ok (.str "2023-12-31T22:30:00.000Z") ∧
      date.coerce (.str "2023-12-31T22:30:00.000Z") = .ok (.str "2023-12-31T22:30:00.000Z") := by
  have read : Calendar.Instant.parse? "2024-01-01T00:30:00+02:00" = some ⟨1704061800, 0⟩ := by
    decide +kernel
  have denoted : (Value.str "2024-01-01T00:30:00+02:00").toInstant = .ok ⟨1704061800, 0⟩ := by
    simp only [Value.toInstant, Value.toInstant?, read]
  have coerced : date.coerce (.str "2024-01-01T00:30:00+02:00") =
      .ok (.str "2023-12-31T22:30:00.000Z") :=
    coerce_date_eq_ok_iff.mpr ⟨_, denoted, by decide +kernel⟩
  refine ⟨coerced, (holds_and_kept_iff date coerced).2.mpr fun i _ same => ?_⟩
  rw [denoted, Except.ok.injEq] at same
  subst same
  decide +kernel

/-- An hour before the end of the year 9999, one hour behind UTC. -/
theorem endOfYear9999_not_kept :
    date.coerce (.str "9999-12-31T23:00:00-01:00") = .ok (.str "+10000-01-01T00:00:00.000Z") ∧
      date.coerce (.str "+10000-01-01T00:00:00.000Z") =
        .error (.invalidDate (.str "+10000-01-01T00:00:00.000Z")) := by
  have read : Calendar.Instant.parse? "9999-12-31T23:00:00-01:00" = some ⟨253402300800, 0⟩ := by
    decide +kernel
  have unread : Calendar.Instant.parse? "+10000-01-01T00:00:00.000Z" = none := by decide +kernel
  constructor
  · have denoted : (Value.str "9999-12-31T23:00:00-01:00").toInstant = .ok ⟨253402300800, 0⟩ := by
      simp only [Value.toInstant, Value.toInstant?, read]
    exact coerce_date_eq_ok_iff.mpr ⟨_, denoted, by decide +kernel⟩
  · simp only [coerce, Value.toInstant, Value.toInstant?, unread]
    rfl

end DataType

end Interchange
