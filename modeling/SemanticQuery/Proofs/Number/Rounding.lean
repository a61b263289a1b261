import Mathlib.Algebra.Group.Nat.Defs
import SemanticQuery.Number.Binary64

/-!
# Rounding what is exact

The ranks number the magnitudes in increasing order, so a quotient that is exactly the magnitude of
a rank lies below the middle between this rank and the next, and is rounded to it. Below `2^52` a
rank is its own magnitude. Above, a rank `(q + 1) · 2^52 + f` has the significand `2^52 + f` and the
exponent `q`, and the statements are proved in these terms.
-/

set_option autoImplicit false

namespace SemanticQuery.Number.Binary64

/-- A rank below `2^52` is its own magnitude. -/
theorem units_of_lt {rank : Nat} (h : rank < 2 ^ 52) : units rank = rank :=
  if_pos h

/-- The magnitude of a rank above, by its significand and its exponent. -/
theorem units_normal (q : Nat) {f : Nat} (hf : f < 2 ^ 52) :
    units ((q + 1) * 2 ^ 52 + f) = (2 ^ 52 + f) * 2 ^ q := by
  have hlarge : ¬ (q + 1) * 2 ^ 52 + f < Nat.pow 2 52 := by
    rw [Nat.pow_eq]
    omega
  have hfraction : ((q + 1) * 2 ^ 52 + f) % 2 ^ 52 = f := by omega
  have hexponent : ((q + 1) * 2 ^ 52 + f) / 2 ^ 52 - 1 = q := by omega
  rw [units, if_neg hlarge]
  simp only [Nat.pow_eq]
  rw [hfraction, hexponent]

/-- A rank is small or has a significand and an exponent. -/
theorem rank_cases (rank : Nat) :
    rank < 2 ^ 52 ∨ ∃ q f, f < 2 ^ 52 ∧ rank = (q + 1) * 2 ^ 52 + f := by
  rcases Nat.lt_or_ge rank (2 ^ 52) with hsmall | hlarge
  · exact .inl hsmall
  · exact .inr ⟨rank / 2 ^ 52 - 1, rank % 2 ^ 52, by omega, by omega⟩

/-- The magnitudes increase with the rank. -/
theorem units_lt_units_succ (rank : Nat) : units rank < units (rank + 1) := by
  rcases rank_cases rank with hsmall | ⟨q, f, hf, rfl⟩
  · rw [units_of_lt hsmall]
    rcases Nat.lt_or_ge (rank + 1) (2 ^ 52) with hnext | hnext
    · rw [units_of_lt hnext]
      omega
    · have hlast : rank + 1 = (0 + 1) * 2 ^ 52 + 0 := by omega
      rw [hlast, units_normal 0 (by decide)]
      omega
  · have hpower : 0 < 2 ^ q := Nat.two_pow_pos q
    rw [units_normal q hf]
    rcases Nat.lt_or_ge (f + 1) (2 ^ 52) with hnext | hnext
    · rw [Nat.add_assoc, units_normal q hnext]
      exact Nat.mul_lt_mul_of_pos_right (by omega) hpower
    -- After the last fraction comes the first one of the next exponent.
    · have hcarry : (q + 1) * 2 ^ 52 + f + 1 = (q + 1 + 1) * 2 ^ 52 + 0 := by omega
      have hdouble : 2 ^ (q + 1) = 2 * 2 ^ q := Nat.pow_succ'
      rw [hcarry, units_normal (q + 1) (by decide), hdouble, ← Nat.mul_assoc]
      exact Nat.mul_lt_mul_of_pos_right (by omega) hpower

/-- The greatest rank up to a magnitude is the rank of the magnitude. -/
theorem rankBelow_units (rank : Nat) : rankBelow (units rank) = rank := by
  rcases rank_cases rank with hsmall | ⟨q, f, hf, rfl⟩
  · have hshift : rank.log2 - 52 = 0 := by
      by_cases hzero : rank = 0
      · rw [hzero]
        rfl
      · have hlog : rank.log2 < 52 := (Nat.log2_lt hzero).2 hsmall
        omega
    rw [units_of_lt hsmall, rankBelow, hshift]
    simp only [Nat.pow_eq, Nat.pow_zero, Nat.zero_mul, Nat.zero_add, Nat.div_one]
  · have hpower : 0 < 2 ^ q := Nat.two_pow_pos q
    have hpositive : (2 ^ 52 + f) * 2 ^ q ≠ 0 :=
      Nat.mul_ne_zero (by omega) (Nat.ne_of_gt hpower)
    -- The leading bit of the significand stands at place 52.
    have hlog : ((2 ^ 52 + f) * 2 ^ q).log2 = 52 + q := by
      rw [Nat.log2_eq_iff hpositive]
      constructor
      · rw [Nat.pow_add]
        exact Nat.mul_le_mul_right _ (by omega)
      · rw [Nat.add_right_comm, Nat.pow_add]
        exact Nat.mul_lt_mul_of_pos_right (by omega) hpower
    rw [units_normal q hf, rankBelow, hlog, Nat.add_sub_cancel_left]
    simp only [Nat.pow_eq]
    rw [Nat.mul_div_cancel _ hpower]
    omega

/-- **A magnitude is rounded to its own rank.** -/
theorem nearest_units {rank den : Nat} (hfinite : rank < infiniteRank) (hden : 0 < den) :
    nearest (units rank * den) den = rank := by
  have hbelow : rankBelow (units rank * den / den) = rank := by
    rw [Nat.mul_div_cancel _ hden, rankBelow_units]
  have hmiddle : 2 * (units rank * den) < (units rank + units (rank + 1)) * den := by
    have hnext : units rank * den < units (rank + 1) * den :=
      Nat.mul_lt_mul_of_pos_right (units_lt_units_succ rank) hden
    rw [Nat.add_mul]
    omega
  simp only [nearest, hbelow]
  rw [if_neg (by omega), if_pos hmiddle]

end SemanticQuery.Number.Binary64
