import SemanticQuery.Datum.Constant
import SemanticQuery.Proofs.Calendar.DateTime
import SemanticQuery.Proofs.Number.Shortest
import SemanticQuery.Proofs.Text.Quoted

/-!
# Encodings are lossless

An encoding is decoded along the branch it was written for: the words, the opening of a date, the
apostrophes of a text and the capital letter behind a number exclude one another. Each branch gives
back the datum. The only exception are dates whose years are written with fewer than four digits,
which are not decoded at all; even so no two data have the same encoding.
-/

set_option autoImplicit false

namespace SemanticQuery

open SemanticQuery.Number SemanticQuery.Calendar SemanticQuery.Text

namespace Datum

/-! ## Branches -/

/-- Behind its opening a text goes on with the rest. -/
theorem afterOpening_append (opening rest : List Char) :
    afterOpening opening (opening ++ rest) = some rest := by
  induction opening with
  | nil => rfl
  | cons c opening ih =>
    rw [List.cons_append, afterOpening, if_pos rfl]
    exact ih

/-- Only a text with the opening has something after it. -/
theorem eq_append_of_afterOpening {opening cs rest : List Char}
    (h : afterOpening opening cs = some rest) : cs = opening ++ rest := by
  induction opening generalizing cs with
  | nil => exact Option.some.inj h
  | cons c opening ih =>
    cases cs with
    | nil => cases h
    | cons d cs =>
      rw [afterOpening] at h
      split at h
      case isTrue hsame => rw [hsame, ih h, List.cons_append]
      case isFalse => cases h

/-- A text that is not delimited like a date has no body of one. -/
theorem dateTimeBody_eq_none {cs : List Char}
    (h : ∀ body, cs ≠ dateTimeOpening ++ body ++ ['\'']) : dateTimeBody cs = none := by
  refine Option.bind_eq_none_iff.2 fun rest hrest => if_neg fun hlast => ?_
  obtain ⟨body, rfl⟩ := List.getLast?_eq_some_iff.1 hlast
  apply h body
  rw [eq_append_of_afterOpening hrest, List.append_assoc]

/-- A text that ends in a capital letter is decoded as a number. -/
theorem decodeChars_number {suffix : Char} (hsuffix : suffix.isUpper = true)
    (digits : List Char) :
    decodeChars (digits ++ [suffix]) = decodeNumber (digits ++ [suffix]) := by
  have hends (front : List Char) (last : Char) (hlast : last.isUpper = false) :
      digits ++ [suffix] ≠ front ++ [last] := by
    intro heq
    rw [(List.append_singleton_inj.1 heq).2, hlast] at hsuffix
    cases hsuffix
  have hnull : digits ++ [suffix] ≠ encodeChars null := hends ['n', 'u', 'l'] 'l' rfl
  have htrue : digits ++ [suffix] ≠ encodeChars (boolean true) :=
    hends ['t', 'r', 'u'] 'e' rfl
  have hfalse : digits ++ [suffix] ≠ encodeChars (boolean false) :=
    hends ['f', 'a', 'l', 's'] 'e' rfl
  have hdate : dateTimeBody (digits ++ [suffix]) = none :=
    dateTimeBody_eq_none fun body => hends (dateTimeOpening ++ body) '\'' rfl
  have hquoted : Quoted.read (digits ++ [suffix]) = none := by
    cases digits with
    | nil => exact if_neg fun hread => nomatch hread.2
    | cons c rest =>
      refine if_neg fun hread => ?_
      have hlast : (rest ++ [suffix]).getLast? = some '\'' := hread.2
      rw [List.getLast?_concat] at hlast
      rw [Option.some.inj hlast] at hsuffix
      cases hsuffix
  rw [decodeChars, if_neg hnull, if_neg htrue, if_neg hfalse, hdate, hquoted]

/-- A text that starts differently from the words is none of them. -/
theorem ne_words {cs : List Char} {c : Char} (hhead : cs.head? = some c)
    (hc : c ∉ ['n', 't', 'f']) :
    cs ≠ encodeChars null ∧ cs ≠ encodeChars (boolean true) ∧ cs ≠ encodeChars (boolean false) := by
  refine ⟨?_, ?_, ?_⟩ <;>
    · rintro rfl
      rw [← Option.some.inj hhead] at hc
      exact hc (by decide)

/-- What is read as a quoted text is decoded as a text. -/
theorem decodeChars_of_read {cs body : List Char} (h : Quoted.read cs = some body) :
    decodeChars cs = some (text (String.ofList body)) := by
  have hhead : cs.head? = some '\'' := by
    obtain ⟨inner, rfl, -⟩ := (Quoted.read_eq_some_iff cs body).1 h
    rfl
  have hdate : dateTimeBody cs = none := by
    apply dateTimeBody_eq_none
    rintro inner rfl
    cases hhead
  obtain ⟨hnull, htrue, hfalse⟩ := ne_words hhead (by decide)
  rw [decodeChars, if_neg hnull, if_neg htrue, if_neg hfalse, hdate, h]

/-- A text that is delimited like a date is decoded as one. -/
theorem decodeChars_dateTime (body : List Char) :
    decodeChars (dateTimeOpening ++ body ++ ['\'']) = (DateTime.read body).map dateTime := by
  have hbody : dateTimeBody (dateTimeOpening ++ body ++ ['\'']) = some body := by
    rw [dateTimeBody, List.append_assoc, afterOpening_append, Option.bind_some,
      if_pos List.getLast?_concat, List.dropLast_concat]
  have hhead : (dateTimeOpening ++ body ++ ['\'']).head? = some 'd' := rfl
  obtain ⟨hnull, htrue, hfalse⟩ := ne_words hhead (by decide)
  rw [decodeChars, if_neg hnull, if_neg htrue, if_neg hfalse, hbody]

/-! ## Decoding what was encoded -/

/-- A 64-bit integer is read as it was written. -/
theorem readInt64_writeInt (i : Int64) : readInt64 (writeInt i.toInt) = some i := by
  have hrange : Int64.minValue.toInt ≤ i.toInt ∧ i.toInt ≤ Int64.maxValue.toInt :=
    ⟨Int64.le_toInt i, Int64.toInt_le i⟩
  rw [readInt64, readInt_writeInt, Option.bind_some, if_pos hrange, Int64.ofInt_toInt]

/-- An encoded date-time is decoded as what its written form is read as, if it is read. -/
theorem decode_encode_dateTime (t : DateTime) :
    decode (dateTime t).encode = (DateTime.read t.write).map dateTime := by
  rw [decode, encode, String.toList_ofList, encodeChars, decodeChars_dateTime]

/-- **Encodings are decoded**, those of the dates with short years excepted. -/
theorem decode_encode (x : Datum) (hlong : ∀ t, x = dateTime t → ¬ IsShortYear t.date.year) :
    decode x.encode = some x := by
  cases x with
  | dateTime t => rw [decode_encode_dateTime, t.read_write (hlong t rfl), Option.map_some]
  | null => rfl
  | boolean value => cases value <;> rfl
  | integer i =>
    rw [decode, encode, String.toList_ofList, encodeChars, decodeChars_number rfl,
      decodeNumber, List.getLast?_concat, List.dropLast_concat]
    exact congrArg (Option.map integer) (readInt64_writeInt i)
  | double x =>
    rw [decode, encode, String.toList_ofList, encodeChars, decodeChars_number rfl,
      decodeNumber, List.getLast?_concat, List.dropLast_concat]
    exact congrArg (Option.map double) x.read_write
  | decimal x =>
    rw [decode, encode, String.toList_ofList, encodeChars, decodeChars_number rfl,
      decodeNumber, List.getLast?_concat, List.dropLast_concat]
    exact congrArg (Option.map decimal) x.read_write
  | text s =>
    rw [decode, encode, String.toList_ofList, encodeChars,
      decodeChars_of_read (Quoted.read_write _), String.ofList_toList]

/-- Whatever an encoding is decoded as, it is the datum that was encoded. -/
theorem eq_of_decode_encode {x y : Datum} (h : decode x.encode = some y) : y = x := by
  have hlong : ∀ t, x = dateTime t → ¬ IsShortYear t.date.year := by
    rintro t rfl hshort
    rw [decode_encode_dateTime, t.read_write_eq_none hshort] at h
    cases h
  rw [decode_encode x hlong] at h
  exact (Option.some.inj h).symm

/-- **Data with the same encoding are the same**, dates with short years included. -/
theorem encode_injective {x y : Datum} (h : x.encode = y.encode) : x = y := by
  -- Only dates may fail to be decoded. A datum that is none is told from any other by decoding.
  by_cases hx : ∃ t, x = dateTime t
  case neg =>
    have hdecode := decode_encode x fun t ht => absurd ⟨t, ht⟩ hx
    rw [h] at hdecode
    exact eq_of_decode_encode hdecode
  by_cases hy : ∃ t, y = dateTime t
  case neg =>
    have hdecode := decode_encode y fun t ht => absurd ⟨t, ht⟩ hy
    rw [← h] at hdecode
    exact (eq_of_decode_encode hdecode).symm
  obtain ⟨t, rfl⟩ := hx
  obtain ⟨t', rfl⟩ := hy
  have hwritten : dateTimeOpening ++ t.write ++ ['\''] = dateTimeOpening ++ t'.write ++ ['\''] :=
    String.ofList_inj.1 h
  rw [DateTime.write_injective
    (List.append_cancel_left (List.append_cancel_right hwritten))]

/-- **The encoding of a datum is decoded as the same datum**: the words, every 64-bit integer, every
floating-point number, every text, and every date of the years 0 to 9999. -/
theorem decode_encode_same (x : Datum) (hyear : ∀ t, x = dateTime t → 0 ≤ t.date.year) :
    ∃ y, decode x.encode = some y ∧ y.same x = true := by
  have hlong : ∀ t, x = dateTime t → ¬ IsShortYear t.date.year := by
    rintro t ht hshort
    have hnegative := hshort.2
    have hpositive := hyear t ht
    omega
  exact ⟨x, decode_encode x hlong, beq_self_eq_true x⟩

/-- The last nanosecond of the leap day of the year 0. -/
def endOfFirstLeapDay : DateTime :=
  ⟨⟨0, 2, 29, by decide, by decide, by decide⟩,
    ⟨23, 59, 59, 999999999, by decide, by decide, by decide, by decide⟩⟩

/-- The last instant of the first leap day is decoded as it was encoded. -/
theorem decode_encode_same_of_leapDay :
    (∀ t, dateTime endOfFirstLeapDay = dateTime t → 0 ≤ t.date.year) ∧
      ∃ y, decode (dateTime endOfFirstLeapDay).encode = some y ∧
        y.same (dateTime endOfFirstLeapDay) = true := by
  have hyear : ∀ t, dateTime endOfFirstLeapDay = dateTime t → 0 ≤ t.date.year := by
    rintro t ht
    rw [← dateTime.inj ht]
    decide
  exact ⟨hyear, decode_encode_same (dateTime endOfFirstLeapDay) hyear⟩

/-! ## Years before 0 -/

/-- **A date constant is decoded as its date unless its year is short.** From -9999 to -1000 a year
takes four digits beside its minus sign, and every month, day and time of it is decoded. The years
from -999 to -1 lose a digit to the sign. Their constants are not decoded at all, so there the value
and the spelling of a constant disagree. -/
theorem decode_encoded_dateTime (t : DateTime) :
    decode (Constant.ofDatum (dateTime t)).encoded =
      if -999 ≤ t.date.year ∧ t.date.year ≤ -1 then none
      else some (Constant.ofDatum (dateTime t)).value := by
  have hencoded : (Constant.ofDatum (dateTime t)).encoded = (dateTime t).encode := rfl
  rw [hencoded]
  split
  case isTrue hshort =>
    rw [decode_encode_dateTime, t.read_write_eq_none hshort, Option.map_none]
  case isFalse hlong =>
    apply decode_encode
    intro t' ht
    rw [← dateTime.inj ht]
    exact hlong

/-- The start of the last day before the year 0. -/
def dayBeforeYearZero : DateTime :=
  ⟨⟨-1, 12, 31, by decide, by decide, by decide⟩, ⟨0, 0, 0, 0, by decide, by decide, by decide,
    by decide⟩⟩

/-- The last day before the year 0 is written with three digits, and is not decoded. -/
theorem dayBeforeYearZero_is_not_decoded :
    (Constant.ofDatum (dateTime dayBeforeYearZero)).encoded =
        "datetime'-001-12-31T00:00:00.000'" ∧
      decode (Constant.ofDatum (dateTime dayBeforeYearZero)).encoded = none := by
  have hshort : IsShortYear dayBeforeYearZero.date.year := ⟨by decide, by decide⟩
  have hread := dayBeforeYearZero.read_write_eq_none hshort
  constructor
  · rfl
  · have hdecode := decode_encode_dateTime dayBeforeYearZero
    rw [hread, Option.map_none] at hdecode
    exact hdecode

end Datum

end SemanticQuery
