import Mathlib.Algebra.Group.Nat.Defs
import SemanticQuery.Number.Numeral

/-!
# Runs of digits

The written digits of a number are read back, with or without zeros in front and with zeros behind.
A run of digits ends at the first character that is no digit, so a text that starts with digits and
goes on with something else can be taken apart in one way only.
-/

set_option autoImplicit false

namespace SemanticQuery.Number

/-- A text of digits only. -/
def IsDigits (cs : List Char) : Prop :=
  ∀ c ∈ cs, c.isDigit = true

namespace IsDigits

variable {cs ds : List Char}

/-- Digits pass the test for digits. -/
theorem all_eq_true (h : IsDigits cs) : cs.all Char.isDigit = true :=
  List.all_eq_true.2 h

/-- Digits and more digits are digits. -/
theorem append (h : IsDigits cs) (h' : IsDigits ds) : IsDigits (cs ++ ds) := by
  intro c hc
  rcases List.mem_append.1 hc with hc | hc
  · exact h c hc
  · exact h' c hc

/-- The front of digits is digits. -/
theorem take (h : IsDigits cs) (n : Nat) : IsDigits (cs.take n) :=
  fun c hc => h c (List.mem_of_mem_take hc)

/-- What is left of digits without their front is digits. -/
theorem drop (h : IsDigits cs) (n : Nat) : IsDigits (cs.drop n) :=
  fun c hc => h c (List.mem_of_mem_drop hc)

/-- A nonempty run of digits is read as their number. -/
theorem readDigits_eq (h : IsDigits cs) (hne : cs ≠ []) :
    readDigits cs = some (digitsValue cs) := by
  rw [readDigits, h.all_eq_true, List.isEmpty_eq_false_iff.2 hne, if_neg (by decide)]

/-- Digits are split off a text that goes on with something else. -/
theorem spanDigits_append (h : IsDigits cs) {c : Char} (hc : c.isDigit = false)
    (rest : List Char) : spanDigits (cs ++ c :: rest) = (cs, c :: rest) := by
  have hnot : ¬ c.isDigit = true := by
    rw [hc]
    exact Bool.false_ne_true
  rw [spanDigits, List.takeWhile_append_of_pos h, List.dropWhile_append_of_pos h,
    List.takeWhile_cons_of_neg hnot, List.dropWhile_cons_of_neg hnot, List.append_nil]

/-- A text of digits is split off whole. -/
theorem spanDigits_eq (h : IsDigits cs) : spanDigits cs = (cs, []) := by
  have hspan : spanDigits (cs ++ []) = (cs ++ [], []) := by
    rw [spanDigits, List.takeWhile_append_of_pos h, List.dropWhile_append_of_pos h]
    rfl
  rwa [List.append_nil] at hspan

/-- A text of digits and something behind them can be taken apart in one way only. -/
theorem append_cons_inj (h : IsDigits cs) (h' : IsDigits ds) {c : Char} (hc : c.isDigit = false)
    {rest rest' : List Char} (heq : cs ++ c :: rest = ds ++ c :: rest') :
    cs = ds ∧ rest = rest' := by
  have hspan : (cs, c :: rest) = (ds, c :: rest') := by
    rw [← h.spanDigits_append hc, ← h'.spanDigits_append hc, heq]
  exact ⟨(Prod.mk.inj hspan).1, (List.cons.inj (Prod.mk.inj hspan).2).2⟩

end IsDigits

/-! ## Texts that start with a digit -/

/-- The first character of a text is a digit. -/
def StartsWithDigit (cs : List Char) : Prop :=
  ∃ c rest, cs = c :: rest ∧ c.isDigit = true

/-- A text that starts with a run of digits starts with a digit. -/
theorem IsDigits.startsWithDigit {cs : List Char} (h : IsDigits cs) (hne : cs ≠ [])
    (rest : List Char) : StartsWithDigit (cs ++ rest) := by
  cases cs with
  | nil => exact absurd rfl hne
  | cons c tail => exact ⟨c, tail ++ rest, rfl, h c (List.mem_cons_self ..)⟩

/-- A text that starts with a digit has no sign to be split off. -/
theorem StartsWithDigit.splitSign_eq {cs : List Char} (h : StartsWithDigit cs) :
    splitSign cs = (false, cs) := by
  obtain ⟨c, rest, rfl, hdigit⟩ := h
  have hminus : c ≠ '-' := by
    rintro rfl
    exact absurd hdigit (by decide)
  have hplus : c ≠ '+' := by
    rintro rfl
    exact absurd hdigit (by decide)
  rw [splitSign, if_neg hminus, if_neg hplus]

/-! ## Written numbers -/

/-- A number is written with digits. -/
theorem isDigits_toDigits (n : Nat) : IsDigits (Nat.toDigits 10 n) :=
  fun _ hc => Nat.isDigit_of_mem_toDigits (by decide) (by decide) hc

/-- Zeros are digits. -/
theorem isDigits_zeros (n : Nat) : IsDigits (List.replicate n '0') := by
  intro c hc
  rw [(List.mem_replicate.1 hc).2]
  rfl

/-- A padded number is written with digits. -/
theorem isDigits_padded (width n : Nat) : IsDigits (padded width n) :=
  (isDigits_zeros _).append (isDigits_toDigits n)

/-- The digits of a number have its value. -/
theorem digitsValue_toDigits (n : Nat) : digitsValue (Nat.toDigits 10 n) = n :=
  Nat.ofDigitChars_ten_toDigits

/-- Padding does not change the value. -/
theorem digitsValue_padded (width n : Nat) : digitsValue (padded width n) = n := by
  rw [padded, digitsValue, Nat.ofDigitChars_append, Nat.ofDigitChars_replicate_zero, Nat.mul_zero]
  exact digitsValue_toDigits n

/-- Zeros behind multiply by powers of ten. -/
theorem digitsValue_append_zeros (n zeros : Nat) :
    digitsValue (Nat.toDigits 10 n ++ List.replicate zeros '0') = n * 10 ^ zeros := by
  rw [digitsValue, Nat.ofDigitChars_append, Nat.ofDigitChars_replicate_zero,
    Nat.ofDigitChars_ten_toDigits, Nat.mul_comm]

/-- Numbers with the same padded digits are the same. -/
theorem padded_inj {width n m : Nat} (h : padded width n = padded width m) : n = m := by
  rw [← digitsValue_padded width n, h, digitsValue_padded]

/-- Padding fills the width. -/
theorem le_length_padded (width n : Nat) : width ≤ (padded width n).length := by
  rw [padded, List.length_append, List.length_replicate]
  omega

/-- A padded number is written with some digit. -/
theorem padded_ne_nil (width n : Nat) : padded width n ≠ [] := by
  intro hnil
  exact Nat.toDigits_ne_nil (List.append_eq_nil_iff.1 hnil).2

/-- Padding does not exceed the width when the number fits. -/
theorem length_padded {width n : Nat} (hwidth : 0 < width) (h : n < 10 ^ width) :
    (padded width n).length = width := by
  have hdigits : (Nat.toDigits 10 n).length ≤ width :=
    (Nat.length_toDigits_le_iff (by decide) hwidth).2 h
  rw [padded, List.length_append, List.length_replicate]
  omega

/-- A written integer is read back. -/
theorem readInt_writeInt (i : Int) : readInt (writeInt i) = some i := by
  have hread := (isDigits_toDigits i.natAbs).readDigits_eq Nat.toDigits_ne_nil
  rw [digitsValue_toDigits] at hread
  by_cases hnegative : i < 0
  · have hsign : splitSign (writeInt i) = (true, Nat.toDigits 10 i.natAbs) := by
      rw [writeInt, if_pos hnegative]
      rfl
    have habs : -(i.natAbs : Int) = i := by omega
    simp only [readInt, hsign, hread, if_true]
    exact congrArg some habs
  · have hsign : splitSign (writeInt i) = (false, Nat.toDigits 10 i.natAbs) := by
      have hstart := (isDigits_toDigits i.natAbs).startsWithDigit Nat.toDigits_ne_nil []
      rw [List.append_nil] at hstart
      rw [writeInt, if_neg hnegative, hstart.splitSign_eq]
    have habs : (i.natAbs : Int) = i := by omega
    simp only [readInt, hsign, hread, Bool.false_eq_true, if_false]
    exact congrArg some habs

end SemanticQuery.Number
