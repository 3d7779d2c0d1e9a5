import Interchange.Proofs.Calendar.Reader
/-!
# Whatever is read is proper

An instant has its nanoseconds beside its second, and they may go up to two seconds: from the first
one on they stand for a leap second, which is written as second 60.  Not every such record is an
instant that a clock shows.  A leap second ends a minute, and one in the middle of a minute would be
written as the second that follows and come in again as that one.  So what is said of dates that are
given out and come in again is said of proper instants only.  It would say little of the program if
others could get into it.  They cannot, since every instant of a run was read from a value.

## What keeps an instant proper

Three things have to come together, and each is up to another part of a reader.

* *A fraction is less than a second.*  No more than nine of the digits behind a point count, and so
  many digits make a number below that power of ten (`ofDigits_lt`, `nanosOf_lt`).  The forms are
  read item by item into parts that begin without a fraction.  There is no saying which item brings
  one, so the bound is an invariant of the parts: every item keeps it (`Item.read_nanos`), and with
  that every list of items (`readItems_nanos`).
* *Second 60 is the one after 59.*  The parts are put together so, and it is proved where this is
  done, in `Instant.isProper_instant?`.
* *An offset is in minutes.*  A time of day is moved by its offset, and a leap second goes on ending
  a minute only because it is moved by whole minutes (`offset?_minutes`).  A form without an offset
  is not moved at all.

A count of milliseconds knows of no leap second, and the last reader needs nothing of this.

## Main statements

* `fraction?_lt`, `offset?_minutes` — what is read of fractions and offsets.
* `readItems_nanos` — no list of items takes up more than a fraction of a second.
* `isProper_rfc3339?` — the form with an offset gives a proper instant.
* `isProper_parse?` — every reader gives a proper instant.
-/

namespace Interchange.Calendar

variable {n : Nat} {ds rest cs : List Char} {p : Parts}

/-! ### Fractions and offsets -/

/-- One digit more is worth ten times what was there before. -/
theorem ofDigits_append_singleton (ds : List Char) (d : Char) :
    Numeral.ofDigits (ds ++ [d]) = 10 * Numeral.ofDigits ds + Numeral.digitValue d := by
  simp [Numeral.ofDigits, List.foldl_append]

/-- A number with so many digits stays below that power of ten.  A number grows at its end, so this
is by induction from there. -/
theorem ofDigits_lt (digits : ∀ c ∈ ds, c.isDigit = true) :
    Numeral.ofDigits ds < 10 ^ ds.length := by
  induction ds using List.reverseRecOn with
  | nil => decide
  | append_singleton ds d ih =>
      have fewer := ih fun c member => digits c (List.mem_append_left _ member)
      have digit := digits d (List.mem_append_right _ (List.mem_singleton.mpr rfl))
      have below : Numeral.digitValue d ≤ 9 := by
        have range : d.toNat ≤ '9'.toNat := (Char.isDigit_iff_toNat.mp digit).2
        have nine : '9'.toNat = 57 := rfl
        have zero : '0'.toNat = 48 := rfl
        unfold Numeral.digitValue
        omega
      rw [ofDigits_append_singleton, List.length_append, List.length_singleton, Nat.pow_succ]
      omega

/-- The digits of a fraction are filled up to nine, and so they make less than a second. -/
theorem nanosOf_lt (digits : ∀ c ∈ ds, c.isDigit = true) : nanosOf ds < 1000000000 := by
  have fewer := ofDigits_lt fun c member => digits c (List.mem_of_mem_take (i := 9) member)
  have short : (ds.take 9).length ≤ 9 := List.length_take_le _ _
  have positive : 0 < 10 ^ (9 - (ds.take 9).length) := Nat.pow_pos (by decide)
  calc nanosOf ds
    _ = Numeral.ofDigits (ds.take 9) * 10 ^ (9 - (ds.take 9).length) := rfl
    _ < 10 ^ (ds.take 9).length * 10 ^ (9 - (ds.take 9).length) :=
        Nat.mul_lt_mul_of_pos_right fewer positive
    _ = 1000000000 := by
        rw [← Nat.pow_add, Nat.add_sub_cancel' short]

/-- **A fraction is less than a second**, also if there is none. -/
theorem fraction?_lt (read : fraction? cs = some (n, rest)) : n < 1000000000 := by
  unfold fraction? at read
  split at read
  · next more =>
      simp only at read
      split at read
      · cases read
      · rw [Option.some.injEq, Prod.mk.injEq] at read
        rw [← read.1]
        exact nanosOf_lt fun c member => List.mem_takeWhile_imp member
  · rw [Option.some.injEq, Prod.mk.injEq] at read
    omega

/-- **Offsets are in minutes**, with either sign; `Z` is none. -/
theorem offset?_minutes {offset : Int} (read : offset? cs = some (offset, rest)) :
    offset % 60 = 0 := by
  unfold offset? at read
  split at read
  case h_1 | h_2 =>
    rw [Option.some.injEq, Prod.mk.injEq] at read
    rw [← read.1]
    rfl
  case h_3 =>
    split at read
    · split at read
      · next hours cs taken =>
          split at read
          · next minutes cs taken =>
              simp only at read
              split at read
              · rw [Option.some.injEq, Prod.mk.injEq] at read
                rw [← read.1]
                split
                all_goals omega
              · cases read
          · cases read
      · cases read
    · cases read
  case h_4 => cases read

/-! ### Readers -/

/-- An item keeps the bound on the fraction: it is the fraction, or it leaves that as it is. -/
theorem Item.read_nanos {i : Item} {q : Parts} (before : p.nanos < 1000000000)
    (read : i.read p cs = some (q, rest)) : q.nanos < 1000000000 := by
  cases i
  case fraction =>
    obtain ⟨⟨n, left⟩, taken, same⟩ := Option.map_eq_some_iff.mp read
    rw [← (Prod.mk.inj same).1]
    exact fraction?_lt taken
  case blank =>
    rw [← (Prod.mk.inj (Option.some.inj read)).1]
    exact before
  case literal c =>
    cases cs with
    | nil => cases read
    | cons d cs =>
        simp only [Item.read] at read
        split at read
        · rw [← (Prod.mk.inj (Option.some.inj read)).1]
          exact before
        · cases read
  all_goals
    obtain ⟨⟨n, left⟩, taken, same⟩ := Option.map_eq_some_iff.mp read
    rw [← (Prod.mk.inj same).1]
    exact before

/-- **A list of items keeps the bound** on the fraction. -/
theorem readItems_nanos {is : List Item} {q : Parts} (before : p.nanos < 1000000000)
    (read : readItems is p cs = some q) : q.nanos < 1000000000 := by
  induction is generalizing p cs with
  | nil =>
      rw [readItems] at read
      split at read
      · rw [← Option.some.inj read]
        exact before
      · cases read
  | cons i is ih =>
      obtain ⟨⟨r, rest⟩, first, others⟩ := Option.bind_eq_some_iff.mp read
      exact ih (Item.read_nanos before first) others

/-- The form with an offset gives a proper instant: here a leap second may be moved. -/
theorem isProper_rfc3339? {i : Instant} (read : rfc3339? cs = some i) : i.IsProper := by
  simp only [rfc3339?, Option.bind_eq_bind, Option.bind_eq_some_iff] at read
  obtain ⟨year, -, month, -, day, -, hour, -, minute, -, second, -, nanos, fraction, offset, shift,
    found⟩ := read
  split at found
  · exact Instant.isProper_instant? (fraction?_lt fraction) (offset?_minutes shift) found
  · cases found

/-- **Every instant that is read from a text is proper**, whichever reader it is that reads it. -/
theorem isProper_parse? {text : String} {i : Instant} (read : Instant.parse? text = some i) :
    i.IsProper := by
  rw [parse?_eq] at read
  obtain ⟨r, member, found⟩ := List.exists_of_findSome?_eq_some read
  simp only [readers, List.cons_append, List.mem_cons, List.mem_append, List.mem_map,
    List.not_mem_nil, or_false] at member
  obtain rfl | ⟨is, -, rfl⟩ | rfl := member
  · exact isProper_rfc3339? found
  · obtain ⟨p, items, found⟩ := Option.bind_eq_some_iff.mp found
    exact Instant.isProper_instant? (readItems_nanos (by decide) items) (by decide) found
  · obtain ⟨n, -, found⟩ := Option.bind_eq_some_iff.mp found
    exact Instant.isProper_ofMillis? found

end Interchange.Calendar
