import SemanticQuery.Proofs.Number.Digits

/-!
# Positional numerals

Reading the positional text of a numeral gives a numeral of the same value. With a negative exponent
it is the numeral itself; otherwise the zeros that were written for the power of ten have become
part of the significand.
-/

set_option autoImplicit false

namespace SemanticQuery.Number.Numeral

/-- The numeral of the same value whose exponent is not positive: the power of ten is multiplied
out. -/
def multipliedOut (x : Numeral) : Numeral :=
  match x.exponent with
  | .ofNat zeros => ⟨x.significand * Nat.pow 10 zeros, 0⟩
  | .negSucc _ => x

/-- A text of digits alone is a whole number. -/
theorem read_digits {digits : List Char} (h : IsDigits digits) (hne : digits ≠ []) :
    read digits = some ⟨digitsValue digits, 0⟩ := by
  simp only [read, h.spanDigits_eq, List.isEmpty_eq_false_iff.2 hne, Bool.false_and,
    Bool.false_eq_true, if_false, readExponent, Option.map_some, List.append_nil, List.length_nil]
  rfl

/-- Digits, a point and further digits are a numeral with as many places. -/
theorem read_point {whole fraction : List Char} (hwhole : IsDigits whole) (hne : whole ≠ [])
    (hfraction : IsDigits fraction) :
    read (whole ++ '.' :: fraction) =
      some ⟨digitsValue (whole ++ fraction), -(fraction.length : Int)⟩ := by
  have hpoint : ('.' : Char).isDigit = false := rfl
  simp only [read, hwhole.spanDigits_append hpoint, hfraction.spanDigits_eq,
    List.isEmpty_eq_false_iff.2 hne, Bool.false_and, Bool.false_eq_true, if_false, readExponent,
    Option.map_some, Int.zero_sub]

/-- The positional text of a numeral starts with a digit. -/
theorem startsWithDigit_write (x : Numeral) : StartsWithDigit x.write := by
  obtain ⟨significand, exponent⟩ := x
  cases exponent with
  | ofNat zeros => exact (isDigits_toDigits significand).startsWithDigit Nat.toDigits_ne_nil _
  | negSucc below =>
    have hlength := le_length_padded (below + 1 + 1) significand
    simp only [write]
    refine ((isDigits_padded (below + 1 + 1) significand).take _).startsWithDigit ?_ _
    rw [← List.length_pos_iff, List.length_take]
    omega

/-- **The positional text of a numeral is read as a numeral of its value.** -/
theorem read_write (x : Numeral) : read x.write = some x.multipliedOut := by
  obtain ⟨significand, exponent⟩ := x
  cases exponent with
  | ofNat zeros =>
    have hdigits := (isDigits_toDigits significand).append (isDigits_zeros zeros)
    have hne : Nat.toDigits 10 significand ++ List.replicate zeros '0' ≠ [] := fun hnil =>
      Nat.toDigits_ne_nil (List.append_eq_nil_iff.1 hnil).1
    show read (Nat.toDigits 10 significand ++ List.replicate zeros '0') = _
    rw [read_digits hdigits hne, digitsValue_append_zeros]
    rfl
  | negSucc below =>
    -- At least one digit is left of the point, and `below + 1` digits are right of it.
    have hlength := le_length_padded (below + 1 + 1) significand
    have hdigits := isDigits_padded (below + 1 + 1) significand
    simp only [write]
    generalize hall : padded (below + 1 + 1) significand = digits at hlength hdigits
    have hne : digits.take (digits.length - (below + 1)) ≠ [] := by
      rw [← List.length_pos_iff, List.length_take]
      omega
    have hplaces : (digits.drop (digits.length - (below + 1))).length = below + 1 := by
      rw [List.length_drop]
      omega
    rw [read_point (hdigits.take _) hne (hdigits.drop _), List.take_append_drop, hplaces, ← hall,
      digitsValue_padded]
    rfl

end SemanticQuery.Number.Numeral
