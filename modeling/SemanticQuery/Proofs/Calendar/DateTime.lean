import SemanticQuery.Calendar.DateTime
import SemanticQuery.Proofs.Number.Digits

/-!
# Written dates

A written date is read back unless its year has fewer than four digits, which happens to the years
from -999 to -1: their minus sign takes the place of a digit. No two dates are written alike, those
years included, because every part but the last is a run of digits up to a separator.
-/

set_option autoImplicit false

namespace SemanticQuery.Calendar

open SemanticQuery.Number

/-- The years that are written with fewer than four digits. -/
def IsShortYear (year : Int) : Prop :=
  -999 ≤ year ∧ year ≤ -1

/-- The fields of a date are accepted and give the date back. -/
theorem Date.of?_eq (d : Date) : Date.of? d.year d.month d.day = some d :=
  dif_pos ⟨d.year_range, d.month_range, d.day_range⟩

/-- The fields of a time of day are accepted and give the time back. -/
theorem Time.of?_eq (t : Time) : Time.of? t.hour t.minute t.second t.nanosecond = some t :=
  dif_pos ⟨t.hour_range, t.minute_range, t.second_range, t.nanosecond_range⟩

/-- A day is written with at most two digits. -/
theorem Date.day_lt (d : Date) : d.day < 10 ^ 2 := by
  have hday := d.day_range.2
  have hmonth : daysInMonth d.year d.month ≤ 31 := by
    unfold daysInMonth
    split
    · split <;> omega
    · split <;> omega
  omega

namespace DateTime

/-! ## Parts -/

/-- As many digits as are wanted are taken off a text. -/
theorem takeDigits_append {digits : List Char} {width : Nat} (h : IsDigits digits)
    (hlength : digits.length = width) (rest : List Char) :
    takeDigits width (digits ++ rest) = some (digitsValue digits, rest) := by
  have htake : (digits ++ rest).take width = digits := by
    rw [← hlength, List.take_left]
  have hdrop : (digits ++ rest).drop width = rest := by
    rw [← hlength, List.drop_left]
  simp only [takeDigits, htake, hdrop]
  exact if_pos ⟨hlength, h.all_eq_true⟩

/-- A number that fits into the width is taken off the front of a text that starts with its padded
digits. -/
theorem takeDigits_padded {width n : Nat} (hwidth : 0 < width) (h : n < 10 ^ width)
    (rest : List Char) : takeDigits width (padded width n ++ rest) = some (n, rest) := by
  rw [takeDigits_append (isDigits_padded width n) (length_padded hwidth h), digitsValue_padded]

/-- A run of digits that ends too early is not taken. -/
theorem takeDigits_eq_none {digits : List Char} {c : Char} {width : Nat}
    (hlength : digits.length < width) (hc : c.isDigit = false) (rest : List Char) :
    takeDigits width (digits ++ c :: rest) = none := by
  have hmem : c ∈ (digits ++ c :: rest).take width := by
    obtain ⟨more, rfl⟩ : ∃ more, width = digits.length + (more + 1) :=
      ⟨width - digits.length - 1, by omega⟩
    rw [List.take_length_add_append, List.take_succ_cons]
    exact List.mem_append_right _ (List.mem_cons_self ..)
  simp only [takeDigits]
  rw [if_neg]
  rintro ⟨-, hdigits⟩
  rw [List.all_eq_true.1 hdigits c hmem] at hc
  cases hc

/-- A character that is expected and found is taken off the front. -/
theorem takeChar_cons (c : Char) (rest : List Char) : takeChar c (c :: rest) = some rest :=
  if_pos rfl

/-- A written fraction is read back: three digits are milliseconds, nine are nanoseconds. -/
theorem readFraction_writeFraction {nanosecond : Nat} (h : nanosecond < 1000000000) :
    readFraction (writeFraction nanosecond) = some nanosecond := by
  have hread (width n : Nat) (hwidth : 0 < width ∧ width ≤ 9) (hn : n < 10 ^ width) :
      readFraction (padded width n) = some (n * 10 ^ (9 - width)) := by
    have hlength := length_padded hwidth.1 hn
    have hcounted : (padded width n).take 9 = padded width n :=
      List.take_of_length_le (by omega)
    simp only [readFraction, (isDigits_padded width n).all_eq_true,
      List.isEmpty_eq_false_iff.2 (padded_ne_nil width n), hcounted, hlength, digitsValue_padded]
    rfl
  unfold writeFraction
  split
  case isTrue hmilliseconds =>
    rw [hread 3 (nanosecond / 1000000) (by decide) (by omega)]
    exact congrArg some (by omega)
  case isFalse =>
    rw [hread 9 nanosecond (by decide) h]
    exact congrArg some (Nat.mul_one nanosecond)

/-- The width to which the digits of a year are padded. -/
def yearWidth (year : Int) : Nat :=
  if year < 0 then 3 else 4

/-- The sign of a written year is split off its digits. -/
theorem splitSign_writeYear (year : Int) (rest : List Char) :
    splitSign (writeYear year ++ rest) =
      (decide (year < 0), padded (yearWidth year) year.natAbs ++ rest) := by
  unfold writeYear yearWidth
  by_cases hnegative : year < 0
  · rw [if_pos hnegative, if_pos hnegative, decide_eq_true hnegative]
    rfl
  · rw [if_neg hnegative, if_neg hnegative, decide_eq_false hnegative]
    exact ((isDigits_padded 4 _).startsWithDigit (padded_ne_nil 4 _) rest).splitSign_eq

/-- All years but the short ones have four digits. -/
theorem takeDigits_year {year : Int} (hrange : -9999 ≤ year ∧ year ≤ 9999)
    (hlong : ¬ IsShortYear year) (rest : List Char) :
    takeDigits 4 (padded (yearWidth year) year.natAbs ++ rest) = some (year.natAbs, rest) := by
  unfold IsShortYear at hlong
  have hlength : (padded (yearWidth year) year.natAbs).length = 4 := by
    have hfour := Nat.length_toDigits_le_iff (n := year.natAbs) (b := 10) (k := 4) (by decide)
      (by decide)
    have hthree := Nat.length_toDigits_le_iff (n := year.natAbs) (b := 10) (k := 3) (by decide)
      (by decide)
    rw [padded, List.length_append, List.length_replicate, yearWidth]
    split <;> omega
  rw [takeDigits_append (isDigits_padded _ _) hlength, digitsValue_padded]

/-- The sign and the digits make the year. -/
theorem signed_natAbs (year : Int) :
    (if decide (year < 0) = true then -(year.natAbs : Int) else year.natAbs) = year := by
  by_cases hnegative : year < 0
  · rw [if_pos (decide_eq_true hnegative)]
    omega
  · rw [decide_eq_false hnegative, if_neg Bool.false_ne_true]
    omega

/-! ## Reading what was written -/

/-- The written form, part by part. -/
theorem write_eq (t : DateTime) :
    t.write = writeYear t.date.year ++ '-' :: (padded 2 t.date.month ++ '-' ::
      (padded 2 t.date.day ++ 'T' :: (padded 2 t.time.hour ++ ':' :: (padded 2 t.time.minute ++
        ':' :: (padded 2 t.time.second ++ '.' :: writeFraction t.time.nanosecond))))) := by
  simp only [write, List.append_assoc, List.cons_append]

/-- **A written date is read back** if its year has four digits. -/
theorem read_write (t : DateTime) (hlong : ¬ IsShortYear t.date.year) : read t.write = some t := by
  have hmonth : t.date.month < 10 ^ 2 := by
    have hrange := t.date.month_range
    omega
  have hhour : t.time.hour < 10 ^ 2 := Nat.lt_trans t.time.hour_range (by decide)
  have hminute : t.time.minute < 10 ^ 2 := Nat.lt_trans t.time.minute_range (by decide)
  have hsecond : t.time.second < 10 ^ 2 := Nat.lt_trans t.time.second_range (by decide)
  have hwidth : 0 < 2 := by decide
  rw [write_eq, read, splitSign_writeYear]
  -- Each part is taken off the front and leaves the rest to the next reader.
  refine Option.bind_eq_some_iff.2 ⟨_, takeDigits_year t.date.year_range hlong _, ?_⟩
  refine Option.bind_eq_some_iff.2 ⟨_, takeChar_cons '-' _, ?_⟩
  refine Option.bind_eq_some_iff.2 ⟨_, takeDigits_padded hwidth hmonth _, ?_⟩
  refine Option.bind_eq_some_iff.2 ⟨_, takeChar_cons '-' _, ?_⟩
  refine Option.bind_eq_some_iff.2 ⟨_, takeDigits_padded hwidth t.date.day_lt _, ?_⟩
  refine Option.bind_eq_some_iff.2 ⟨_, takeChar_cons 'T' _, ?_⟩
  refine Option.bind_eq_some_iff.2 ⟨_, takeDigits_padded hwidth hhour _, ?_⟩
  refine Option.bind_eq_some_iff.2 ⟨_, takeChar_cons ':' _, ?_⟩
  refine Option.bind_eq_some_iff.2 ⟨_, takeDigits_padded hwidth hminute _, ?_⟩
  refine Option.bind_eq_some_iff.2 ⟨_, takeChar_cons ':' _, ?_⟩
  refine Option.bind_eq_some_iff.2 ⟨_, takeDigits_padded hwidth hsecond _, ?_⟩
  refine Option.bind_eq_some_iff.2 ⟨_, takeChar_cons '.' _, ?_⟩
  refine Option.bind_eq_some_iff.2 ⟨_, readFraction_writeFraction t.time.nanosecond_range, ?_⟩
  refine Option.bind_eq_some_iff.2 ⟨t.date, ?_, ?_⟩
  · show Date.of? (if decide (t.date.year < 0) = true then _ else _) _ _ = _
    rw [signed_natAbs, Date.of?_eq]
  · exact Option.bind_eq_some_iff.2 ⟨t.time, t.time.of?_eq, rfl⟩

/-- A date whose year has fewer than four digits is not read back. -/
theorem read_write_eq_none (t : DateTime) (hshort : IsShortYear t.date.year) :
    read t.write = none := by
  unfold IsShortYear at hshort
  have hlength : (padded (yearWidth t.date.year) t.date.year.natAbs).length = 3 := by
    rw [yearWidth, if_pos (by omega)]
    exact length_padded (by decide) (by omega)
  rw [write_eq]
  simp only [read, splitSign_writeYear]
  rw [takeDigits_eq_none (by omega) rfl]
  rfl

/-! ## Dates that are written alike -/

/-- Years that are written alike, up to the separator behind them, are the same. -/
theorem writeYear_append_inj {year year' : Int} {rest rest' : List Char}
    (h : writeYear year ++ '-' :: rest = writeYear year' ++ '-' :: rest') :
    year = year' ∧ rest = rest' := by
  have hseparator : ('-' : Char).isDigit = false := rfl
  have hsigned (n m : Nat) (rest rest' : List Char) :
      '-' :: padded 3 n ++ '-' :: rest ≠ padded 4 m ++ '-' :: rest' := by
    intro heq
    obtain ⟨c, tail, hstart, hdigit⟩ :=
      (isDigits_padded 4 m).startsWithDigit (padded_ne_nil 4 m) ('-' :: rest')
    rw [hstart, List.cons_append] at heq
    rw [← (List.cons.inj heq).1] at hdigit
    cases hdigit
  unfold writeYear at h
  split at h <;> split at h
  case isTrue.isTrue =>
    have hpadded := (isDigits_padded 3 _).append_cons_inj (isDigits_padded 3 _) hseparator
      (List.cons.inj h).2
    have habs := padded_inj hpadded.1
    exact ⟨by omega, hpadded.2⟩
  case isTrue.isFalse => exact absurd h (hsigned _ _ _ _)
  case isFalse.isTrue => exact absurd h.symm (hsigned _ _ _ _)
  case isFalse.isFalse =>
    have hpadded := (isDigits_padded 4 _).append_cons_inj (isDigits_padded 4 _) hseparator h
    have habs := padded_inj hpadded.1
    exact ⟨by omega, hpadded.2⟩

/-- **Dates that are written alike are the same**, whatever their years. -/
theorem write_injective {t t' : DateTime} (h : t.write = t'.write) : t = t' := by
  have hpart {n m : Nat} {c : Char} {rest rest' : List Char} (hc : c.isDigit = false)
      (heq : padded 2 n ++ c :: rest = padded 2 m ++ c :: rest') : n = m ∧ rest = rest' := by
    have hboth := (isDigits_padded 2 n).append_cons_inj (isDigits_padded 2 m) hc heq
    exact ⟨padded_inj hboth.1, hboth.2⟩
  rw [write_eq, write_eq] at h
  obtain ⟨hyear, h⟩ := writeYear_append_inj h
  obtain ⟨hmonth, h⟩ := hpart rfl h
  obtain ⟨hday, h⟩ := hpart rfl h
  obtain ⟨hhour, h⟩ := hpart rfl h
  obtain ⟨hminute, h⟩ := hpart rfl h
  obtain ⟨hsecond, h⟩ := hpart rfl h
  have hnanosecond : t.time.nanosecond = t'.time.nanosecond := by
    have hread := readFraction_writeFraction t.time.nanosecond_range
    rw [h, readFraction_writeFraction t'.time.nanosecond_range] at hread
    exact (Option.some.inj hread).symm
  obtain ⟨⟨_, _, _, _, _, _⟩, ⟨_, _, _, _, _, _, _, _⟩⟩ := t
  obtain ⟨⟨_, _, _, _, _, _⟩, ⟨_, _, _, _, _, _, _, _⟩⟩ := t'
  cases hyear
  cases hmonth
  cases hday
  cases hhour
  cases hminute
  cases hsecond
  cases hnanosecond
  rfl

end DateTime

end SemanticQuery.Calendar
