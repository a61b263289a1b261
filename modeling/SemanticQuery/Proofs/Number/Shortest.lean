import SemanticQuery.Number.Shortest
import SemanticQuery.Proofs.Number.Numeral
import SemanticQuery.Proofs.Number.Rounding

/-!
# Floating-point texts are read back

The search for the shortest digits keeps only numerals that round to the rank it was started from,
and the exact expansion, which it falls back to, does so too. The positional text spells the value
of the numeral without an exponent, so reading rounds the same value again. The three words are told
apart from digits by their first character.
-/

set_option autoImplicit false

namespace SemanticQuery.Number

/-! ## The digits that are found -/

namespace Binary64

/-- A numeral with places behind the point is rounded as a quotient, unless it has so many of them
that it is settled as zero. -/
theorem rankOf_places {significand places : Nat} (hplaces : 0 < places)
    (hnonzero : significand ≠ 0) (hreach : places ≤ significand.log2) :
    rankOf ⟨significand, -(places : Int)⟩ =
      nearest (significand * Nat.pow 2 1074) (Nat.pow 10 places) := by
  obtain ⟨below, rfl⟩ : ∃ below, places = below + 1 := ⟨places - 1, by omega⟩
  have hsmall : ¬ (exponentReach : Int) < Int.negSucc below := by
    rw [Int.negSucc_eq]
    omega
  have hnear : ¬ Int.negSucc below < -((exponentReach + significand.log2 + 1 : Nat) : Int) := by
    rw [Int.negSucc_eq]
    omega
  show rankOf ⟨significand, Int.negSucc below⟩ = _
  simp only [rankOf, if_neg hnonzero, if_neg hsmall, if_neg hnear]

/-- The decimal expansion of a rank has as many places as the binary one, and is rounded to the
rank. -/
theorem rankOf_expansion {rank places : Nat} (hpositive : 0 < rank) (hfinite : rank < infiniteRank)
    (hplaces : places = 1074) :
    rankOf ⟨units rank * Nat.pow 5 places, -(places : Int)⟩ = rank := by
  have hunits : 0 < units rank := by
    have hbefore := units_lt_units_succ (rank - 1)
    rw [Nat.sub_add_cancel hpositive] at hbefore
    omega
  have hpower (base : Nat) (h : 0 < base) : 0 < Nat.pow base places := Nat.pow_pos h
  have hsignificand : units rank * Nat.pow 5 places ≠ 0 :=
    Nat.mul_ne_zero (Nat.ne_of_gt hunits) (Nat.ne_of_gt (hpower 5 (by decide)))
  -- The significand has more binary digits than its exponent takes decimal ones away.
  have hlog : places ≤ (units rank * Nat.pow 5 places).log2 := by
    rw [Nat.le_log2 hsignificand]
    calc 2 ^ places ≤ 5 ^ places := Nat.pow_le_pow_left (by decide) places
      _ ≤ units rank * 5 ^ places := Nat.le_mul_of_pos_left _ hunits
  have hscaled :
      units rank * Nat.pow 5 places * Nat.pow 2 places = units rank * Nat.pow 10 places := by
    simp only [Nat.pow_eq]
    rw [Nat.mul_assoc, ← Nat.mul_pow]
  rw [rankOf_places (by omega) hsignificand hlog, ← hplaces, hscaled]
  exact nearest_units hfinite (hpower 10 (by decide))

/-- The exact expansion of a rank is rounded to the rank. -/
theorem rankOf_exactNumeral {rank : Nat} (hpositive : 0 < rank) (hfinite : rank < infiniteRank) :
    rankOf (exactNumeral rank) = rank := by
  have hexact : exactNumeral rank = ⟨units rank * Nat.pow 5 1074, -((1074 : Nat) : Int)⟩ :=
    congrArg (Numeral.mk _) (by decide)
  rw [hexact]
  -- The number of places is named, for its powers are not to be computed.
  generalize hplaces : 1074 = places
  exact rankOf_expansion hpositive hfinite hplaces.symm

/-- A numeral that is taken from a grid is rounded to the rank. -/
theorem rankOf_of_onGrid {rank : Nat} {e : Int} {x : Numeral} (h : onGrid rank e = some x) :
    rankOf x = rank := by
  unfold onGrid at h
  dsimp only at h
  split at h
  case h_1 hlow hhigh =>
    split at h <;> cases h
    · exact of_decide_eq_true hlow
    · exact of_decide_eq_true hhigh
  case h_2 hlow _ =>
    cases h
    exact of_decide_eq_true hlow
  case h_3 _ hhigh =>
    cases h
    exact of_decide_eq_true hhigh
  case h_4 => cases h

/-- **The shortest numeral of a rank is rounded to the rank**, whether the search has a hit or
not. -/
theorem rankOf_shortest {rank : Nat} (hpositive : 0 < rank) (hfinite : rank < infiniteRank) :
    rankOf (shortest rank) = rank := by
  unfold shortest
  dsimp only
  cases hsearch : (List.range 18).findSome? fun (n : Nat) =>
      onGrid rank (wholePlaces (units rank) - n) with
  | none => exact rankOf_exactNumeral hpositive hfinite
  | some x =>
    obtain ⟨n, -, hgrid⟩ := List.exists_of_findSome?_eq_some hsearch
    exact rankOf_of_onGrid hgrid

/-! ## Texts -/

/-- Multiplying out the power of ten of a numeral does not change its rank, unless the numeral is
out of reach. -/
theorem rankOf_multipliedOut {x : Numeral} (h : rankOf x < infiniteRank) :
    rankOf x.multipliedOut = rankOf x := by
  obtain ⟨significand, exponent⟩ := x
  cases exponent with
  | negSucc below => rfl
  | ofNat zeros =>
    by_cases hzero : significand = 0
    · subst hzero
      have hproduct : 0 * Nat.pow 10 zeros = 0 := Nat.zero_mul _
      simp only [Numeral.multipliedOut, rankOf, hproduct, if_true]
    · have hproduct : significand * Nat.pow 10 zeros ≠ 0 :=
        Nat.mul_ne_zero hzero (Nat.ne_of_gt (Nat.pow_pos (by decide)))
      have hreach : ¬ (exponentReach : Int) < Int.ofNat zeros := by
        intro hout
        simp only [rankOf, if_neg hzero, if_pos hout] at h
        exact Nat.lt_irrefl _ h
      have hbelow (s : Nat) (e : Nat) :
          ¬ Int.ofNat e < -((exponentReach + s.log2 + 1 : Nat) : Int) := by
        rw [Int.ofNat_eq_natCast]
        omega
      have hnone : ¬ (exponentReach : Int) < Int.ofNat 0 := by decide
      show rankOf ⟨significand * Nat.pow 10 zeros, Int.ofNat 0⟩ = rankOf ⟨significand, _⟩
      simp only [rankOf, if_neg hproduct, if_neg hzero, if_neg hreach, if_neg hnone,
        if_neg (hbelow _ _)]
      rw [show Nat.pow 10 0 = 1 from rfl, Nat.mul_one]

/-- A digit has no other case. -/
theorem toLower_of_isDigit {c : Char} (h : c.isDigit = true) : c.toLower = c := by
  have hrange : ¬ (c.val ≥ 'A'.val ∧ c.val ≤ 'Z'.val) := by
    have hnine : c.val ≤ '9'.val := of_decide_eq_true (Bool.and_eq_true _ _ ▸ h).2
    rintro ⟨hletter, -⟩
    exact absurd (UInt32.le_trans hletter hnine) (by decide)
  exact dif_neg hrange

/-- A text that starts with a digit is none of the words. -/
theorem readWord_eq_none {cs : List Char} (h : StartsWithDigit cs) (negative : Bool) :
    readWord negative cs = none := by
  obtain ⟨c, rest, rfl, hdigit⟩ := h
  have hword (d : Char) (word : List Char) (hd : d.isDigit = false) :
      String.ofList ((c :: rest).map Char.toLower) ≠ String.ofList (d :: word) := by
    intro heq
    rw [String.ofList_inj, List.map_cons, toLower_of_isDigit hdigit] at heq
    rw [(List.cons.inj heq).1, hd] at hdigit
    cases hdigit
  have hinf := hword 'i' ['n', 'f'] rfl
  have hinfinity := hword 'i' ['n', 'f', 'i', 'n', 'i', 't', 'y'] rfl
  have hnan := hword 'n' ['a', 'n'] rfl
  unfold readWord
  dsimp only
  rw [if_neg (not_or.2 ⟨hinf, hinfinity⟩), if_neg hnan]

/-- The text of a magnitude has no sign. -/
theorem splitSign_writeRank (rank : Nat) :
    splitSign (writeRank rank) = (false, writeRank rank) := by
  unfold writeRank
  split
  case isTrue => rfl
  case isFalse =>
    split
    case isTrue => rfl
    case isFalse => exact (Numeral.startsWithDigit_write _).splitSign_eq

/-- A sign and the text of a magnitude are read as the number they make. -/
theorem read_of_splitSign {cs : List Char} {negative : Bool} {rank : Nat}
    (h : rank ≤ infiniteRank) (hsign : splitSign cs = (negative, writeRank rank)) :
    read cs = some (signed negative rank h) := by
  unfold read
  rw [hsign]
  dsimp only
  unfold writeRank
  by_cases hzero : rank = 0
  · subst hzero
    rfl
  by_cases hinfinite : rank = infiniteRank
  · subst hinfinite
    rfl
  have hrank : rankOf (shortest rank) = rank := rankOf_shortest (by omega) (by omega)
  have hread : rankOf (shortest rank).multipliedOut = rank := by
    rw [rankOf_multipliedOut (by omega), hrank]
  rw [if_neg hzero, if_neg hinfinite, readWord_eq_none (Numeral.startsWithDigit_write _),
    Numeral.read_write]
  simp only [Option.map_some, ofNumeral, hread]

/-- **The text of a number is read back as the number**, the signs of zeros and infinities
included. -/
theorem read_write (x : Binary64) : read x.write = some x := by
  cases x with
  | nan => rfl
  | signed negative rank h =>
    apply read_of_splitSign h
    cases negative with
    | true => rfl
    | false => exact splitSign_writeRank rank

end Binary64

end SemanticQuery.Number
