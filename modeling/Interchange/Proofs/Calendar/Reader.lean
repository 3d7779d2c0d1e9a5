import Interchange.Proofs.Calendar.Instant
import Interchange.Proofs.Number.ReadBack
import Mathlib.Algebra.Ring.Nat
/-!
# Reading what was written as a date

A date is written with numbers in a fixed width, and what follows a number tells the forms of dates
apart: each reader takes up the digits and then needs a certain character.  So a reader either takes
up a whole part of the text or stops at its first separator.

* `Spells` — digits that spell a number in a width.
* `Item.read_twoDigits`, `ReadsYear` — one item takes up its digits.
* `readItems_date`, `rfc3339?_stamp` — a date and a time of day are taken up.
* `ReadBy`, `ReadBy.parse?_eq` — the first reader that reads a text decides what it denotes.
-/

namespace Interchange.Calendar

open Text (isBlank)

variable {width n most : Nat} {ds rest cs : List Char} {c : Char} {p : Parts}

/-! ### Digits -/

/-- **Digits spell a number** in a width. -/
structure Spells (width n : Nat) (ds : List Char) : Prop where
  length : ds.length = width
  digits : ∀ c ∈ ds, c.isDigit = true
  value : Numeral.ofDigits ds = n

/-- A digit is no blank. -/
theorem isBlank_of_isDigit (digit : c.isDigit = true) : isBlank c = false :=
  not_isBlank_of_isNumeric (by simp [isNumeric, Char.isAlphanum, digit])

/-- A number that is written with a width is spelled in that width, or in a longer one if it needs
that. -/
theorem spells_padded (width n : Nat) :
    Spells (max width (Nat.toDigits 10 n).length) n (padded width n).toList := by
  have text : (padded width n).toList =
      List.replicate (width - (Nat.toDigits 10 n).length) '0' ++ Nat.toDigits 10 n :=
    String.toList_ofList
  rw [text]
  refine ⟨?_, ?_, ?_⟩
  · rw [List.length_append, List.length_replicate]
    omega
  · rw [List.forall_mem_append]
    refine ⟨fun c member => ?_, Json.all_isDigit_toDigits n⟩
    rw [List.eq_of_mem_replicate member]
    rfl
  · change Nat.ofDigitChars 10 _ 0 = n
    rw [Nat.ofDigitChars_append, Nat.ofDigitChars_replicate_zero, Nat.mul_zero,
      Nat.ofDigitChars_ten_toDigits]

/-- A number that is no longer than the width takes up just the width. -/
theorem spells_padded_of_lt (positive : 0 < width) (fits : n < 10 ^ width) :
    Spells width n (padded width n).toList := by
  have short : (Nat.toDigits 10 n).length ≤ width :=
    (Nat.length_toDigits_le_iff (by decide) positive).mpr fits
  have spelled := spells_padded width n
  rwa [Nat.max_eq_left short] at spelled

namespace Spells

/-- All digits of a number are taken up, and perhaps some behind it. -/
theorem takeWhile_append (spelled : Spells width n ds) (rest : List Char) :
    (ds ++ rest).takeWhile Char.isDigit = ds ++ rest.takeWhile Char.isDigit :=
  List.takeWhile_append_of_pos spelled.digits

theorem ne_nil (spelled : Spells width n ds) (positive : 0 < width) : ds ≠ [] :=
  List.ne_nil_of_length_pos (spelled.length ▸ positive)

/-- A reader of just so many digits takes up the number, whatever follows, -/
theorem exactDigits?_append (spelled : Spells width n ds) (rest : List Char) :
    exactDigits? width (ds ++ rest) = some (n, rest) := by
  have taken : ((ds ++ rest).takeWhile Char.isDigit).take width = ds := by
    rw [spelled.takeWhile_append, ← spelled.length, List.take_left]
  have dropped : (ds ++ rest).drop width = rest := by rw [← spelled.length, List.drop_left]
  rw [exactDigits?, taken, dropped, if_pos spelled.length, spelled.value]

/-- and so does a reader of at most so many. -/
theorem digits?_append (spelled : Spells width n ds) (positive : 0 < width) (rest : List Char) :
    digits? width (ds ++ rest) = some (n, rest) := by
  have taken : ((ds ++ rest).takeWhile Char.isDigit).take width = ds := by
    rw [spelled.takeWhile_append, ← spelled.length, List.take_left]
  have filled : ds.isEmpty = false := List.isEmpty_eq_false_iff.mpr (spelled.ne_nil positive)
  simp only [digits?, taken, filled, Bool.false_eq_true, if_false, List.drop_left, spelled.value]

/-- Without a limit a run of digits ends where something else follows. -/
theorem digits?_append_cons (spelled : Spells width n ds) (positive : 0 < width)
    (stop : c.isDigit = false) (room : width ≤ most) :
    digits? most (ds ++ c :: rest) = some (n, c :: rest) := by
  have taken : ((ds ++ c :: rest).takeWhile Char.isDigit).take most = ds := by
    rw [spelled.takeWhile_append, List.takeWhile_cons_of_neg (by simp [stop]), List.append_nil,
      List.take_of_length_le (spelled.length ▸ room)]
  have filled : ds.isEmpty = false := List.isEmpty_eq_false_iff.mpr (spelled.ne_nil positive)
  simp only [digits?, taken, filled, Bool.false_eq_true, if_false, List.drop_left, spelled.value]

/-- A reader of more digits stops where the number ends. -/
theorem exactDigits?_append_cons (spelled : Spells width n ds) (stop : c.isDigit = false)
    (short : width < most) : exactDigits? most (ds ++ c :: rest) = none := by
  have taken : ((ds ++ c :: rest).takeWhile Char.isDigit).take most = ds := by
    rw [spelled.takeWhile_append, List.takeWhile_cons_of_neg (by simp [stop]), List.append_nil,
      List.take_of_length_le (spelled.length ▸ Nat.le_of_lt short)]
  rw [exactDigits?, taken, if_neg (by rw [spelled.length]; exact Nat.ne_of_lt short)]

/-- There are no blanks in front of digits. -/
theorem dropWhile_append (spelled : Spells width n ds) (positive : 0 < width) (rest : List Char) :
    (ds ++ rest).dropWhile isBlank = ds ++ rest := by
  obtain ⟨d, more, rfl⟩ := List.exists_cons_of_ne_nil (spelled.ne_nil positive)
  have digit := spelled.digits d List.mem_cons_self
  rw [List.cons_append, List.dropWhile_cons_of_neg (by simp [isBlank_of_isDigit digit])]

end Spells

/-- What is no digit ends a run of digits. -/
theorem takeWhile_cons_stop (stop : c.isDigit = false) (cs : List Char) :
    (c :: cs).takeWhile Char.isDigit = [] :=
  List.takeWhile_cons_of_neg (by simp [stop])

/-- Without a digit there is no number. -/
theorem digits?_of_takeWhile (none : cs.takeWhile Char.isDigit = []) : digits? most cs = .none := by
  simp [digits?, none]

/-! ### Items -/

namespace Item

/-- Whether an item has two digits. -/
def hasTwoDigits : Item → Bool
  | .month | .day | .hour | .minute | .second => true
  | _ => false

/-- What is known of a date once an item of two digits was read. -/
def store (i : Item) (p : Parts) (n : Nat) : Parts :=
  match i with
  | .month => { p with month := n }
  | .day => { p with day := n }
  | .hour => { p with hour := n }
  | .minute => { p with minute := n }
  | .second => { p with second := n }
  | _ => p

/-- An item of two digits is read behind blanks, and its number is stored. -/
theorem read_eq {i : Item} (two : i.hasTwoDigits = true) (p : Parts) (cs : List Char) :
    i.read p cs = (digits? 2 (cs.dropWhile isBlank)).map fun (n, rest) => (i.store p n, rest) := by
  cases i
  all_goals first | rfl | cases two

/-- **An item takes up its digits.** -/
theorem read_twoDigits {i : Item} (two : i.hasTwoDigits = true) (spelled : Spells 2 n ds)
    (p : Parts) (rest : List Char) : i.read p (ds ++ rest) = some (i.store p n, rest) := by
  rw [read_eq two, spelled.dropWhile_append (by decide), spelled.digits?_append (by decide),
    Option.map_some]

/-- Without a digit there is nothing to read. -/
theorem read_of_no_digit {i : Item} (two : i.hasTwoDigits = true) (solid : isBlank c = false)
    (stop : c.isDigit = false) (p : Parts) (cs : List Char) : i.read p (c :: cs) = none := by
  rw [read_eq two, List.dropWhile_cons_of_neg (by simp [solid]),
    digits?_of_takeWhile (takeWhile_cons_stop stop cs), Option.map_none]

/-- A character is read where it stands, -/
theorem read_literal (c : Char) (p : Parts) (cs : List Char) :
    (literal c).read p (c :: cs) = some (p, cs) := by
  simp [Item.read]

/-- and nowhere else. -/
theorem read_literal_of_ne {d : Char} (other : d ≠ c) (p : Parts) (cs : List Char) :
    (literal c).read p (d :: cs) = none := by
  simp [Item.read, other]

end Item

/-- **A text is read as a year**, whatever follows it that is no digit. -/
def ReadsYear (y : Int) (ys : List Char) : Prop :=
  ∀ (p : Parts) (c : Char) (rest : List Char), c.isDigit = false →
    Item.year.read p (ys ++ c :: rest) = some ({ p with year := y }, c :: rest)

/-- A year without a sign has four digits at most. -/
theorem year?_eq_of_isDigit (digit : c.isDigit = true) (cs : List Char) :
    year? (c :: cs) = (digits? 4 (c :: cs)).map fun (n, rest) => ((n : Int), rest) := by
  unfold year?
  split
  · next minus => exact absurd ((List.cons.inj minus).1 ▸ digit) (by decide)
  · next plus => exact absurd ((List.cons.inj plus).1 ▸ digit) (by decide)
  · rfl

/-- A number of up to four digits is read as a year. -/
theorem Spells.year?_append_cons (spelled : Spells width n ds) (positive : 0 < width)
    (room : width ≤ 4) (stop : c.isDigit = false) :
    year? (ds ++ c :: rest) = some ((n : Int), c :: rest) := by
  obtain ⟨d, more, rfl⟩ := List.exists_cons_of_ne_nil (spelled.ne_nil positive)
  have digit := spelled.digits d List.mem_cons_self
  rw [List.cons_append, year?_eq_of_isDigit digit, ← List.cons_append,
    spelled.digits?_append_cons positive stop room, Option.map_some]

/-- A number of up to four digits is a year. -/
theorem Spells.readsYear (spelled : Spells width n ds) (positive : 0 < width) (room : width ≤ 4) :
    ReadsYear n ds := by
  intro p c rest stop
  rw [Item.read, spelled.dropWhile_append positive, spelled.year?_append_cons positive room stop,
    Option.map_some]

/-- Four digits are read as a year at the end of a text, too. -/
theorem Spells.read_year (spelled : Spells 4 n ds) (p : Parts) :
    Item.year.read p ds = some ({ p with year := n }, []) := by
  have skipped := spelled.dropWhile_append (by decide) []
  have taken := spelled.digits?_append (by decide) []
  rw [List.append_nil] at skipped taken
  obtain ⟨d, more, rfl⟩ := List.exists_cons_of_ne_nil (spelled.ne_nil (by decide))
  have digit := spelled.digits d List.mem_cons_self
  rw [Item.read, skipped, year?_eq_of_isDigit digit, taken]
  rfl

/-- A number behind a minus is one of any length, -/
theorem Spells.readsYear_minus (spelled : Spells width n ds) (positive : 0 < width) :
    ReadsYear (-n) ('-' :: ds) := by
  intro p c rest stop
  have room : width ≤ (ds ++ c :: rest).length := by
    rw [List.length_append, spelled.length]
    omega
  have read : year? ('-' :: (ds ++ c :: rest)) = some (-(n : Int), c :: rest) := by
    rw [year?, spelled.digits?_append_cons positive stop room, Option.map_some]
  rw [Item.read, List.cons_append, List.dropWhile_cons_of_neg (by decide), read, Option.map_some]

/-- and so is a number behind a plus. -/
theorem Spells.readsYear_plus (spelled : Spells width n ds) (positive : 0 < width) :
    ReadsYear n ('+' :: ds) := by
  intro p c rest stop
  have room : width ≤ (ds ++ c :: rest).length := by
    rw [List.length_append, spelled.length]
    omega
  have read : year? ('+' :: (ds ++ c :: rest)) = some ((n : Int), c :: rest) := by
    rw [year?, spelled.digits?_append_cons positive stop room, Option.map_some]
  rw [Item.read, List.cons_append, List.dropWhile_cons_of_neg (by decide), read, Option.map_some]

/-! ### Forms -/

variable {y : Int} {month day hour minute second milli : Nat}
variable {ys ms ds hs ns ss fs : List Char} {s : Char}

theorem readItems_cons (i : Item) (is : List Item) (p : Parts) (cs : List Char) :
    readItems (i :: is) p cs = (i.read p cs).bind fun (p, rest) => readItems is p rest := rfl

/-- Items are read one after the other, -/
theorem readItems_of_read {i : Item} {q : Parts} (read : i.read p cs = some (q, rest))
    (is : List Item) : readItems (i :: is) p cs = readItems is q rest := by
  rw [readItems_cons, read, Option.bind_some]

/-- and none is read behind one that is not. -/
theorem readItems_of_read_eq_none {i : Item} (read : i.read p cs = none) (is : List Item) :
    readItems (i :: is) p cs = none := by
  rw [readItems_cons, read, Option.bind_none]

theorem readItems_literal (c : Char) (is : List Item) (p : Parts) (cs : List Char) :
    readItems (.literal c :: is) p (c :: cs) = readItems is p cs :=
  readItems_of_read (Item.read_literal c p cs) is

/-- **A date is taken up** by a form that begins with it. -/
theorem readItems_date (readsYear : ReadsYear y ys) (spellsMonth : Spells 2 month ms)
    (spellsDay : Spells 2 day ds) (stop : s.isDigit = false) (is : List Item) (p : Parts)
    (rest : List Char) :
    readItems (ymd s ++ is) p (ys ++ s :: (ms ++ s :: (ds ++ rest))) =
      readItems is { p with year := y, month := month, day := day } rest := by
  have two : Item.month.hasTwoDigits = true ∧ Item.day.hasTwoDigits = true := ⟨rfl, rfl⟩
  simp only [ymd, List.cons_append, List.nil_append, readItems_cons, readsYear _ _ _ stop,
    Item.read_literal, Item.read_twoDigits two.1 spellsMonth, Item.read_twoDigits two.2 spellsDay,
    Option.bind_some, Item.store]

/-- A form with another separator stops behind the year. -/
theorem readItems_ymd_of_ne (readsYear : ReadsYear y ys) (stop : c.isDigit = false)
    (other : c ≠ s) (is : List Item) (p : Parts) (rest : List Char) :
    readItems (ymd s ++ is) p (ys ++ c :: rest) = none := by
  simp only [ymd, List.cons_append, readItems_cons, readsYear _ _ _ stop,
    Item.read_literal_of_ne other, Option.bind_some, Option.bind_none]

/-- **A date that begins with the month is taken up** to its end. -/
theorem readItems_mdy {year : Nat} (spellsMonth : Spells 2 month ms) (spellsDay : Spells 2 day ds)
    (spellsYear : Spells 4 year ys) (p : Parts) :
    readItems [.month, .literal '/', .day, .literal '/', .year] p
        (ms ++ '/' :: (ds ++ '/' :: ys)) =
      some { p with year := year, month := month, day := day } := by
  have two : Item.month.hasTwoDigits = true ∧ Item.day.hasTwoDigits = true := ⟨rfl, rfl⟩
  simp [readItems, Item.read_literal, Item.read_twoDigits two.1 spellsMonth,
    Item.read_twoDigits two.2 spellsDay, spellsYear.read_year, Item.store]

/-- An hour and a minute are taken up. -/
theorem readItems_hm (spellsHour : Spells 2 hour hs) (spellsMinute : Spells 2 minute ns)
    (is : List Item) (p : Parts) (rest : List Char) :
    readItems (hm ++ is) p (hs ++ ':' :: (ns ++ rest)) =
      readItems is { p with hour := hour, minute := minute } rest := by
  have two : Item.hour.hasTwoDigits = true ∧ Item.minute.hasTwoDigits = true := ⟨rfl, rfl⟩
  simp only [hm, List.cons_append, List.nil_append, readItems_cons, Item.read_literal,
    Item.read_twoDigits two.1 spellsHour, Item.read_twoDigits two.2 spellsMinute,
    Option.bind_some, Item.store]

/-- Digits are taken up with the character behind them, if it is one of those that are asked for. -/
theorem fixed?_append {after : List Char} (spelled : Spells width n ds)
    (member : after.contains c = true) (rest : List Char) :
    fixed? width after (ds ++ c :: rest) = some (n, rest) := by
  simp only [fixed?, spelled.exactDigits?_append, member, if_true]

/-- Three digits of a fraction are milliseconds. -/
theorem Spells.nanosOf (spelled : Spells 3 n ds) : nanosOf ds = n * 1000000 := by
  have short : ds.take 9 = ds := List.take_of_length_le (by rw [spelled.length]; decide)
  simp only [Calendar.nanosOf, short, spelled.length, spelled.value]

/-- A fraction of three digits is taken up. -/
theorem Spells.fraction?_append_cons (spelled : Spells 3 n ds) (stop : c.isDigit = false) :
    fraction? ('.' :: (ds ++ c :: rest)) = some (n * 1000000, c :: rest) := by
  have taken : (ds ++ c :: rest).takeWhile Char.isDigit = ds := by
    rw [spelled.takeWhile_append, takeWhile_cons_stop stop, List.append_nil]
  have filled : ds.isEmpty = false := List.isEmpty_eq_false_iff.mpr (spelled.ne_nil (by decide))
  simp only [fraction?, taken, filled, Bool.false_eq_true, if_false, List.drop_left,
    spelled.nanosOf]

/-- **The form of RFC 3339 takes up a date and a time of day** in UTC. -/
theorem rfc3339?_stamp (spellsYear : Spells 4 n ys) (spellsMonth : Spells 2 month ms)
    (spellsDay : Spells 2 day ds) (spellsHour : Spells 2 hour hs)
    (spellsMinute : Spells 2 minute ns) (spellsSecond : Spells 2 second ss)
    (spellsMilli : Spells 3 milli fs) :
    rfc3339? (ys ++ '-' :: (ms ++ '-' :: (ds ++ 'T' :: (hs ++ ':' :: (ns ++ ':' ::
        (ss ++ '.' :: (fs ++ ['Z']))))))) =
      Parts.instant? ⟨n, month, day, hour, minute, second, milli * 1000000⟩ 0 := by
  have fraction : fraction? ('.' :: (fs ++ ['Z'])) = some (milli * 1000000, ['Z']) :=
    spellsMilli.fraction?_append_cons (by decide)
  simp [rfc3339?, fixed?_append spellsYear, fixed?_append spellsMonth, fixed?_append spellsDay,
    fixed?_append spellsHour, fixed?_append spellsMinute, spellsSecond.exactDigits?_append,
    fraction, offset?]

/-! ### Texts that a form does not take up -/

theorem digits?_suffix (taken : digits? most cs = some (n, rest)) : rest <:+ cs.tail := by
  simp only [digits?] at taken
  split at taken
  · cases taken
  · next filled =>
      have positive := List.length_pos_iff.mpr fun empty => filled (List.isEmpty_iff.mpr empty)
      rw [Option.some.injEq, Prod.mk.injEq] at taken
      rw [← taken.2, ← List.drop_one]
      exact List.drop_suffix_drop_left cs positive

/-- A year takes up one character at least. -/
theorem year?_suffix {y : Int} (read : year? cs = some (y, rest)) : rest <:+ cs.tail := by
  unfold year? at read
  split at read
  all_goals obtain ⟨⟨n, left⟩, taken, same⟩ := Option.map_eq_some_iff.mp read
  all_goals obtain rfl := (Prod.mk.inj same).2
  all_goals have suffix := digits?_suffix taken
  · exact suffix.trans (List.tail_suffix _)
  · exact suffix.trans (List.tail_suffix _)
  · exact suffix

theorem suffix_tail {as bs : List Char} (suffix : as <:+ bs) : as.tail <:+ bs.tail := by
  obtain ⟨front, rfl⟩ := suffix
  cases front with
  | nil => exact List.suffix_rfl
  | cons c front =>
      exact (List.tail_suffix as).trans (List.suffix_append front as)

/-- A number takes up one character at least, and so leaves a part of what is behind the first. -/
theorem Item.read_suffix {i : Item} {q : Parts} (number : i = .year ∨ i.hasTwoDigits = true)
    (read : i.read p cs = some (q, rest)) : rest <:+ cs.tail := by
  have behind := suffix_tail (List.dropWhile_suffix (l := cs) isBlank)
  obtain rfl | two := number
  · obtain ⟨⟨n, left⟩, taken, same⟩ := Option.map_eq_some_iff.mp read
    obtain rfl := (Prod.mk.inj same).2
    exact (year?_suffix taken).trans behind
  · rw [Item.read_eq two] at read
    obtain ⟨⟨n, left⟩, taken, same⟩ := Option.map_eq_some_iff.mp read
    obtain rfl := (Prod.mk.inj same).2
    exact (digits?_suffix taken).trans behind

/-- A form whose first separator is not in the text, but perhaps for its sign, does not fit. -/
theorem readItems_of_not_mem {i : Item} (number : i = .year ∨ i.hasTwoDigits = true)
    (absent : c ∉ cs.tail) (is : List Item) (p : Parts) :
    readItems (i :: .literal c :: is) p cs = none := by
  rw [readItems_cons, Option.bind_eq_none_iff]
  rintro ⟨q, rest⟩ read
  have leaves := Item.read_suffix number read
  change readItems (.literal c :: is) q rest = none
  cases rest with
  | nil => rfl
  | cons d rest =>
      have other : d ≠ c := fun same => absent (same ▸ leaves.subset List.mem_cons_self)
      rw [readItems_cons, Item.read_literal_of_ne other, Option.bind_none]

/-- The form of RFC 3339 has a hyphen behind the year. -/
theorem rfc3339?_of_not_mem (absent : '-' ∉ cs.tail) : rfc3339? cs = none := by
  have noYear : fixed? 4 ['-'] cs = none := by
    unfold fixed?
    split
    · next n c rest read =>
        have member : c ∈ cs.tail := by
          simp only [exactDigits?] at read
          split at read
          · rw [Option.some.injEq, Prod.mk.injEq] at read
            have behind : c ∈ cs.drop 4 := read.2 ▸ List.mem_cons_self
            rw [← List.drop_one]
            exact (List.drop_suffix_drop_left cs (by decide)).subset behind
          · cases read
        have other : c ≠ '-' := fun same => absent (same ▸ member)
        simp [other]
    · rfl
  rw [rfc3339?, noYear]
  rfl

/-- The form with an offset begins with a digit. -/
theorem rfc3339?_of_no_digit (stop : c.isDigit = false) (cs : List Char) :
    rfc3339? (c :: cs) = none := by
  have noYear : exactDigits? 4 (c :: cs) = none := by
    simp [exactDigits?, takeWhile_cons_stop stop]
  rw [rfc3339?, fixed?, noYear]
  rfl

/-! ### One reader after the other -/

/-- Reads a form without an offset. -/
def form? (items : List Item) (cs : List Char) : Option Instant :=
  (readItems items {} cs).bind fun p => p.instant? 0

/-- A form whose second item is a separator reads no text without one, behind the first character.
-/
theorem form?_of_not_mem {i : Item} (number : i = .year ∨ i.hasTwoDigits = true)
    (absent : c ∉ cs.tail) (is : List Item) : form? (i :: .literal c :: is) cs = none := by
  rw [form?, readItems_of_not_mem number absent, Option.bind_none]

/-- Reads a count of milliseconds. -/
def count? (cs : List Char) : Option Instant :=
  (Numeral.integer? (String.ofList cs)).bind Instant.ofMillis?

/-- What holds something else than digits behind its first character is no count. -/
theorem count?_of_mem_tail (member : c ∈ cs.tail) (stop : c.isDigit = false) :
    count? cs = none := by
  have inRest : c ∈ (Numeral.sign cs).2 := by
    unfold Numeral.sign
    split
    · exact member
    · exact member
    · exact List.mem_of_mem_tail member
  have notAll : (Numeral.sign cs).2.all Char.isDigit = false :=
    List.all_eq_false.mpr ⟨c, inRest, by simp [stop]⟩
  have noNumeral : Numeral.integer? (String.ofList cs) = none := by
    simp [Numeral.integer?, notAll]
  rw [count?, noNumeral, Option.bind_none]

/-- The readers of dates, in the order in which they are tried. -/
def readers : List (List Char → Option Instant) := rfc3339? :: forms.map form? ++ [count?]

/-- **All readers**, in the order in which they are tried. -/
theorem readers_eq : readers =
    [rfc3339?, form? (ymd '-' ++ .literal 'T' :: hms), form? (ymd '-' ++ .blank :: hms),
      form? (ymd '-' ++ .literal 'T' :: hm), form? (ymd '-'),
      form? [.month, .literal '/', .day, .literal '/', .year], form? (ymd '/'), count?] := rfl

/-- **The reader at a place is the first that reads a text.** -/
structure ReadBy (place : Nat) (cs : List Char) (i : Instant) : Prop where
  earlier : ∀ r ∈ readers.take place, r cs = none
  reads : (readers[place]?).bind (· cs) = some i

/-- A text is read by a reader if that reads it and none before it does. -/
theorem ReadBy.of_reader {place : Nat} {i : Instant} {r : List Char → Option Instant}
    (here : readers[place]? = some r) (earlier : ∀ r ∈ readers.take place, r cs = none)
    (reads : r cs = some i) : ReadBy place cs i :=
  ⟨earlier, by rw [here, Option.bind_some, reads]⟩

/-- **A date is what the first reader makes of its text**, without the blanks around it. -/
theorem parse?_eq (text : String) :
    Instant.parse? text = readers.findSome? (· (Text.trimWhere isBlank text.toList)) := by
  have inTurn : Instant.parse? text = (rfc3339? (Text.trimWhere isBlank text.toList)).or
      ((forms.findSome? (form? · (Text.trimWhere isBlank text.toList))).or
        (count? (Text.trimWhere isBlank text.toList))) := rfl
  rw [inTurn]
  generalize Text.trimWhere isBlank text.toList = cs
  simp only [readers, List.cons_append, List.findSome?_cons, List.findSome?_append,
    List.findSome?_map, List.findSome?_nil, Function.comp_def]
  cases rfc3339? cs with
  | some i => rfl
  | none =>
      cases count? cs with
      | some i => rfl
      | none => rfl

/-- What the first reader reads is what the text denotes. -/
theorem ReadBy.parse?_eq {place : Nat} {text : String} {i : Instant}
    (read : ReadBy place (Text.trimWhere isBlank text.toList) i) :
    Instant.parse? text = some i := by
  obtain ⟨r, here, found⟩ := Option.bind_eq_some_iff.mp read.reads
  rw [Calendar.parse?_eq, List.findSome?_eq_some_iff]
  obtain ⟨inside, rfl⟩ := List.getElem?_eq_some_iff.mp here
  exact ⟨readers.take place, readers[place], readers.drop (place + 1),
    by rw [List.getElem_cons_drop, List.take_append_drop], found, read.earlier⟩

/-- A text that no reader reads denotes nothing. -/
theorem parse?_eq_none {text : String}
    (unread : ∀ r ∈ readers, r (Text.trimWhere isBlank text.toList) = none) :
    Instant.parse? text = none := by
  rw [parse?_eq, List.findSome?_eq_none_iff]
  exact unread

end Interchange.Calendar
