import Mathlib.Algebra.Order.Ring.Nat
import PromptPacks.Pack.Timestamp
import PromptPacks.Proofs.Number.Decimal
import PromptPacks.Proofs.Text.Word

namespace PromptPacks

open PromptPacks.Number PromptPacks.Text

section

variable {width n : Nat}

/-- Padded digits are digits, the padding included. -/
theorem isDigit_of_mem_paddedDigits : ∀ c ∈ paddedDigits width n, c.isDigit = true :=
  List.forall_mem_append.2 ⟨isDigit_of_mem_zeros _, isDigit_of_mem_decimalDigits⟩

theorem paddedDigits_ne_nil : paddedDigits width n ≠ [] :=
  List.append_ne_nil_of_right_ne_nil _ (decimalDigits_ne_nil n)

/-- A number that fits is padded to exactly the width, so the fields of a date
    have a fixed length. -/
theorem length_paddedDigits (hwidth : 0 < width) (hn : n < 10 ^ width) :
    (paddedDigits width n).length = width := by
  rw [paddedDigits, List.length_leftpad]
  exact Nat.max_eq_left ((Nat.length_toDigits_le_iff (by decide) hwidth).2 hn)

/-- Padding does not change the number that the digits write. -/
theorem ofDigitChars_paddedDigits : Nat.ofDigitChars 10 (paddedDigits width n) 0 = n := by
  rw [paddedDigits, List.leftpad, Nat.ofDigitChars_append, Nat.ofDigitChars_replicate_zero,
    Nat.mul_zero, ofDigitChars_decimalDigits]

/-- A padded number begins with a digit. No white space and no sign is taken for
    a part of it. -/
theorem exists_paddedDigits_eq_cons (width n : Nat) :
    ∃ c rest, paddedDigits width n = c :: rest ∧ c.isDigit = true := by
  have hsome : paddedDigits width n ≠ [] := paddedDigits_ne_nil
  obtain ⟨c, rest, heq⟩ := List.exists_cons_of_ne_nil hsome
  exact ⟨c, rest, heq, isDigit_of_mem_paddedDigits c (heq ▸ List.mem_cons_self)⟩

end

namespace TimeReader

variable {α β : Type} {cs tail : List Char}

/-- Once one part has been read, the next one is read from what is left. The
    proofs below go through a reader by this rule, part by part. -/
theorem bind_eq {reader : TimeReader α} {next : α → TimeReader β} {a : α}
    (hread : reader cs = some (a, tail)) : (reader >>= next) cs = next a tail := by
  change (reader cs).bind _ = _
  rw [hread]
  rfl

/-- A value that is found without reading leaves the text as it is. -/
theorem lift_eq {value? : Option α} {a : α} (hvalue : value? = some a) :
    (liftM value? : TimeReader α) cs = some (a, cs) := by
  rw [hvalue]
  rfl

/-- There is no white space in front of a digit. -/
theorem trimStart_of_isDigit {c : Char} (hdigit : c.isDigit = true) :
    trimStart (c :: cs) = c :: cs := by
  rw [trimStart, List.dropWhile_cons_of_neg]
  simp [isBlank_of_isDigit hdigit]

/-- Digits are read up to what ends them: another character, or their greatest
    number. In the second case it does not matter what follows. -/
theorem digits_append {ds : List Char} {most : Nat} (hsome : ds ≠ [])
    (hdigits : ∀ c ∈ ds, c.isDigit = true) (hmost : ds.length ≤ most)
    (hends : ds.length = most ∨ EndsDigits tail) :
    digits most (ds ++ tail) = some (Nat.ofDigitChars 10 ds 0, tail) := by
  have hrest : EndsDigits (tail.take (most - ds.length)) := by
    obtain heq | hends := hends
    · rw [heq, Nat.sub_self]
      simp [EndsDigits]
    · cases tail with
      | nil => simpa using hends
      | cons c rest =>
        cases most - ds.length with
        | zero => simp [EndsDigits]
        | succ k => exact hends
  have htake : ((ds ++ tail).take most).takeWhile Char.isDigit = ds := by
    rw [List.take_append, List.take_of_length_le hmost, takeWhile_isDigit hdigits hrest]
  rw [digits, htake, readDigits?_of_isDigit hsome hdigits, List.drop_left]
  rfl

/-- A padded number is read whole where as many digits are wanted as it has at
    least. -/
theorem digits_paddedDigits {width n : Nat} (hwidth : 0 < width) (hn : n < 10 ^ width) :
    digits width (paddedDigits width n ++ tail) = some (n, tail) := by
  have hlength := length_paddedDigits hwidth hn
  rw [digits_append paddedDigits_ne_nil isDigit_of_mem_paddedDigits (Nat.le_of_eq hlength)
    (.inl hlength), ofDigitChars_paddedDigits]

/-- Two digits are read as the number below a hundred that they write. -/
theorem number_paddedDigits {n : Nat} (hn : n < 100) :
    number 2 (paddedDigits 2 n ++ tail) = some (n, tail) := by
  have hdigits : digits 2 (paddedDigits 2 n ++ tail) = some (n, tail) :=
    digits_paddedDigits (by decide) hn
  obtain ⟨c, rest, heq, hdigit⟩ := exists_paddedDigits_eq_cons 2 n
  rw [heq, List.cons_append] at hdigits ⊢
  rw [number, trimStart_of_isDigit hdigit, hdigits]

/-- A sign between two parts is skipped. It must be no white space, which would
    be dropped before the sign is looked for. -/
theorem separator_cons {sign : Char} (hblank : isBlank sign = false) :
    separator sign (sign :: tail) = some ((), tail) := by
  rw [separator, trimStart, List.dropWhile_cons_of_neg (by simp [hblank])]
  simp [oneOf]

/-- A year is read back from its text, with four digits or with a sign and more
    of them. -/
theorem year_yearText (year : Int) :
    TimeReader.year (Day.yearText year ++ '-' :: tail) = some (year, '-' :: tail) := by
  rw [Day.yearText]
  split
  · next hfour =>
    have hdigits : digits 4 (paddedDigits 4 year.natAbs ++ '-' :: tail) =
        some (year.natAbs, '-' :: tail) := digits_paddedDigits (by decide) (by omega)
    obtain ⟨c, rest, heq, hdigit⟩ := exists_paddedDigits_eq_cons 4 year.natAbs
    have hminus : c ≠ '-' := ne_minus_of_isDigit hdigit
    have hplus : c ≠ '+' := ne_plus_of_isDigit hdigit
    rw [heq, List.cons_append] at hdigits ⊢
    rw [TimeReader.year, trimStart_of_isDigit hdigit]
    simp [hminus, hplus, hdigits, Int.natAbs_of_nonneg hfour.1]
  · next hmore =>
    have hdigits : digits (paddedDigits 4 year.natAbs ++ '-' :: tail).length
        (paddedDigits 4 year.natAbs ++ '-' :: tail) = some (year.natAbs, '-' :: tail) := by
      rw [digits_append paddedDigits_ne_nil isDigit_of_mem_paddedDigits (by simp)
        (.inr (by simp [EndsDigits])), ofDigitChars_paddedDigits]
    by_cases hneg : year < 0
    · have hstart (cs : List Char) : trimStart ('-' :: cs) = '-' :: cs := rfl
      rw [if_pos hneg, List.cons_append, TimeReader.year, hstart]
      simp only [hdigits, Option.map_some, Int.ofNat_natAbs_of_nonpos (Int.le_of_lt hneg),
        Int.neg_neg]
    · have hstart (cs : List Char) : trimStart ('+' :: cs) = '+' :: cs := rfl
      rw [if_neg hneg, List.cons_append, TimeReader.year, hstart]
      simp only [hdigits, Option.map_some, Int.natAbs_of_nonneg (Int.not_lt.1 hneg)]

/-- No month has more than thirty-one days, so the day of a month has two
    digits. -/
theorem monthLength_le (year : Int) (month : Nat) : monthLength year month ≤ 31 := by
  rw [monthLength]
  split
  · split <;> decide
  · split <;> decide

/-- A date is read back from its text, whatever follows it. -/
theorem date_text (day : Day) : date (day.text ++ tail) = some (day, tail) := by
  obtain ⟨hmonth, hday⟩ : day.month < 100 ∧ day.day < 100 := by
    have hmonth := day.month_bounds
    have hday := day.day_bounds
    have hlength := monthLength_le day.year day.month
    omega
  have hof : Day.of? day.year day.month day.day = some day :=
    dif_pos ⟨day.year_bounds, day.month_bounds, day.day_bounds⟩
  rw [date, Day.text]
  simp only [List.append_assoc, List.cons_append]
  rw [bind_eq (year_yearText day.year), bind_eq (separator_cons (by decide)),
    bind_eq (number_paddedDigits hmonth), bind_eq (separator_cons (by decide)),
    bind_eq (number_paddedDigits hday), lift_eq hof]

/-- The parts of a second that some digits tell as they stand behind a point.
    Digits that are left out count as zeros. -/
theorem fraction_paddedDigits {width n : Nat} (hwidth : 0 < width) (hnine : width ≤ 9)
    (hn : n < 10 ^ width) (htail : EndsDigits tail) :
    fraction ('.' :: paddedDigits width n ++ tail) = some (n * 10 ^ (9 - width), tail) := by
  have hlength := length_paddedDigits hwidth hn
  have hnanosecond : readDigits? 10 ((paddedDigits width n).rightpad 9 '0') =
      some (n * 10 ^ (9 - width)) := by
    rw [List.rightpad, hlength, readDigits?_of_isDigit
      (List.append_ne_nil_of_left_ne_nil paddedDigits_ne_nil _)
      (List.forall_mem_append.2 ⟨isDigit_of_mem_paddedDigits, isDigit_of_mem_zeros _⟩),
      Nat.ofDigitChars_append, ofDigitChars_paddedDigits, Nat.ofDigitChars_replicate_zero,
      Nat.mul_comm]
  simp only [fraction, List.cons_append, takeWhile_isDigit isDigit_of_mem_paddedDigits htail,
    List.isEmpty_eq_false_iff.2 paddedDigits_ne_nil,
    List.take_of_length_le (Nat.le_trans (Nat.le_of_eq hlength) hnine), hnanosecond,
    List.drop_left]
  rfl

/-- The parts of a second are read back from the shortest of the texts that tell
    them: none, three, six or nine digits. -/
theorem fraction_fractionText {n : Nat} (hn : n < 1000000000) :
    fraction (TimeOfDay.fractionText n ++ 'Z' :: tail) = some (n, 'Z' :: tail) := by
  have htail : EndsDigits ('Z' :: tail) := by simp [EndsDigits]
  rw [TimeOfDay.fractionText]
  split
  · next hzero => rw [hzero]; rfl
  split
  · next hmillis =>
    have htold : n / 1000000 * 10 ^ (9 - 3) = n :=
      Nat.div_mul_cancel (Nat.dvd_of_mod_eq_zero hmillis)
    rw [fraction_paddedDigits (by decide) (by decide) (by omega) htail, htold]
  split
  · next hmicros =>
    have htold : n / 1000 * 10 ^ (9 - 6) = n :=
      Nat.div_mul_cancel (Nat.dvd_of_mod_eq_zero hmicros)
    rw [fraction_paddedDigits (by decide) (by decide) (by omega) htail, htold]
  · rw [fraction_paddedDigits (by decide) (by decide) hn htail, Nat.sub_self, Nat.pow_zero,
      Nat.mul_one]

/-- A time of day is read back from its text, a leap second included. Behind it
    comes the mark of the zone, which ends the fraction of the second. -/
theorem time_text (time : TimeOfDay) :
    TimeReader.time (time.text ++ 'Z' :: tail) = some (time, 'Z' :: tail) := by
  obtain ⟨hhour, hminute, hsecond⟩ :
      time.hour < 100 ∧ time.minute < 100 ∧ time.second < 100 := by
    have hhour := time.hour_lt
    have hminute := time.minute_lt
    have hsecond := time.second_le
    omega
  have hof : TimeOfDay.of? time.hour time.minute time.second time.nanosecond = some time :=
    dif_pos ⟨time.hour_lt, time.minute_lt, time.second_le, time.nanosecond_lt⟩
  rw [TimeReader.time, TimeOfDay.text]
  simp only [List.append_assoc, List.cons_append]
  rw [bind_eq (number_paddedDigits hhour), bind_eq (separator_cons (by decide)),
    bind_eq (number_paddedDigits hminute), bind_eq (separator_cons (by decide)),
    bind_eq (number_paddedDigits hsecond), bind_eq (fraction_fractionText time.nanosecond_lt),
    lift_eq hof]

end TimeReader

namespace TimeOfDay

/-- There are 1440 minutes in a day. -/
theorem minuteOfDay_lt (time : TimeOfDay) : time.minuteOfDay < 1440 := by
  have hhour := time.hour_lt
  have hminute := time.minute_lt
  rw [minuteOfDay]
  omega

/-- To put a time of day at its own minute does not change it. -/
theorem atMinute_minuteOfDay (time : TimeOfDay) : time.atMinute time.minuteOfDay = time := by
  have hhour := time.hour_lt
  have hminute := time.minute_lt
  obtain ⟨hour, minute, second, nanosecond, _, _, _, _⟩ := time
  simp only [atMinute, minuteOfDay, mk.injEq, and_true]
  simp only at hhour hminute
  omega

end TimeOfDay

namespace Moment

/-- In universal time a moment is told by its own day and time of day, as
    nothing is taken from it. -/
theorem earlier?_zero (moment : Moment) : moment.earlier? 0 = some moment := by
  have hday := moment.time.minuteOfDay_lt
  have hminute : ((moment.time.minuteOfDay : Int) % 1440).toNat = moment.time.minuteOfDay := by
    omega
  simp only [earlier?, Int.sub_zero]
  rw [if_neg (by omega), if_pos (by omega), Option.map_some, hminute,
    TimeOfDay.atMinute_minuteOfDay]

/-- The text of a moment is read as the moment, and nothing of it is left. -/
theorem timestamp_text (moment : Moment) :
    TimeReader.timestamp moment.text.toList = some (moment, []) := by
  have hseparator (tail : List Char) :
      TimeReader.oneOf ['T', 't', ' '] ('T' :: tail) = some ('T', tail) := rfl
  have hoffset : TimeReader.offset ['Z'] = some (0, []) := by decide
  have hend : TimeReader.rest (fun cs => cs.all isBlank) [] = some ((), []) := rfl
  rw [TimeReader.timestamp, text, String.toList_ofList]
  simp only [List.append_assoc, List.cons_append]
  rw [TimeReader.bind_eq (TimeReader.date_text moment.day), TimeReader.bind_eq (hseparator _),
    TimeReader.bind_eq (TimeReader.time_text moment.time), TimeReader.bind_eq hoffset,
    TimeReader.bind_eq hend, TimeReader.lift_eq moment.earlier?_zero]

/-- A moment is told by its text. Years beyond four digits and leap seconds are
    among the moments. -/
theorem ofText?_text (moment : Moment) : ofText? moment.text = some moment := by
  change (TimeReader.timestamp moment.text.toList).map Prod.fst = _
  rw [timestamp_text]
  rfl

end Moment

end PromptPacks
