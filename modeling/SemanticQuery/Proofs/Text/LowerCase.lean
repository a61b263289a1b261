import SemanticQuery.Proofs.Text.Quoted
import SemanticQuery.Text.LowerCase

/-!
# Lower-casing quoted text

Lower-casing the quoted form of a text gives the quoted form of the lower-cased text. Three facts
about the apostrophe carry this. It is case-ignorable, so apostrophes around a text and doubled
ones inside do not change what a sigma sees on either side. It is its own lower-case form. And no
other character has it in its lower-case form, so the apostrophes to double are the same before and
after lower-casing, even where a character becomes two.
-/

set_option autoImplicit false

namespace SemanticQuery.Text

/-! ## The apostrophe has no case -/

/-- The apostrophe is passed over in the search for letters. -/
theorem isCaseIgnorable_apostrophe : isCaseIgnorable '\'' = true := by decide

/-- The apostrophe is its own lower case. -/
theorem lowerAlone_apostrophe : lowerAlone '\'' = ['\''] := by decide

/-- Every form in the table stands behind the apostrophe. -/
theorem apostrophe_lt_target {run : LowerRun} (hrun : run ∈ lowerRuns) {code : Nat}
    (hcovers : run.covers code = true) : '\''.toNat < run.target code := by
  have htable : ∀ run ∈ lowerRuns, ('\''.toNat : Int) < run.first + run.shift := by
    decide +kernel
  have hfirst := htable run hrun
  simp only [LowerRun.covers, Bool.and_eq_true, decide_eq_true_eq] at hcovers
  unfold LowerRun.target
  omega

/-- A code behind that of the apostrophe is not the apostrophe. -/
theorem ofNat_ne_apostrophe {code : Nat} (h : '\''.toNat < code) : Char.ofNat code ≠ '\'' := by
  by_cases hvalid : code.isValidChar
  · rw [Char.ofNat, dif_pos hvalid]
    intro heq
    have hcode : code = '\''.toNat := congrArg Char.toNat heq
    omega
  · rw [Char.ofNat, dif_neg hvalid]
    decide

/-- No other character has an apostrophe in its lower case. -/
theorem apostrophe_not_mem_lowerAlone {c : Char} (hc : c ≠ '\'') : '\'' ∉ lowerAlone c := by
  unfold lowerAlone
  split
  · decide
  · split
    case h_1 run hfound =>
      have hcovers := List.find?_some hfound
      have htarget := apostrophe_lt_target (List.mem_of_find?_eq_some hfound) hcovers
      rw [List.mem_singleton]
      exact (ofNat_ne_apostrophe htarget).symm
    case h_2 =>
      rw [List.mem_singleton]
      exact hc.symm

/-- The apostrophe is its own lower case wherever it stands. -/
theorem lowerBetween_apostrophe (before after : List Char) :
    lowerBetween before '\'' after = ['\''] := by
  rw [lowerBetween, if_neg (by decide), lowerAlone_apostrophe]

/-- Wherever it stands, no other character has an apostrophe in its lower case. -/
theorem apostrophe_not_mem_lowerBetween {c : Char} (hc : c ≠ '\'') (before after : List Char) :
    '\'' ∉ lowerBetween before c after := by
  unfold lowerBetween
  split
  · split <;> decide
  · exact apostrophe_not_mem_lowerAlone hc

/-! ## What a sigma sees -/

/-- An apostrophe in front does not change whether a cased letter comes first. -/
theorem startsCased_apostrophe (cs : List Char) : startsCased ('\'' :: cs) = startsCased cs := by
  simp [startsCased, isCaseIgnorable_apostrophe]

/-- What precedes a character matters only if the character is case-ignorable. -/
theorem startsCased_cons_congr (c : Char) {before before' : List Char}
    (h : startsCased before = startsCased before') :
    startsCased (c :: before) = startsCased (c :: before') := by
  cases hc : isCaseIgnorable c with
  | true => simpa [startsCased, hc] using h
  | false => simp [startsCased, hc]

/-- Doubling the apostrophes of a text and closing it by one does not change whether a cased letter
comes first. -/
theorem startsCased_double (cs : List Char) :
    startsCased (Quoted.double cs ++ ['\'']) = startsCased cs := by
  induction cs with
  | nil => exact startsCased_apostrophe []
  | cons c cs ih =>
    by_cases hc : c = '\''
    · subst hc
      rw [Quoted.double, if_pos rfl, List.cons_append, List.cons_append]
      simp only [startsCased_apostrophe, ih]
    · rw [Quoted.double, if_neg hc, List.cons_append]
      exact startsCased_cons_congr c ih

/-- The lower case of a character depends on its surroundings only by whether a cased letter comes
first on either side. -/
theorem lowerBetween_congr (c : Char) {before before' after after' : List Char}
    (hbefore : startsCased before = startsCased before')
    (hafter : startsCased after = startsCased after') :
    lowerBetween before c after = lowerBetween before' c after' := by
  unfold lowerBetween
  rw [hbefore, hafter]

/-! ## Lower-casing and quoting -/

/-- Doubling the apostrophes behind a text and lower-casing can be exchanged, whatever apostrophes
have been passed. By induction on the text: the part already passed only matters by the first
character in it that is not case-ignorable. -/
theorem lowerFrom_double {before before' : List Char}
    (h : startsCased before = startsCased before') (cs : List Char) :
    lowerFrom before (Quoted.double cs ++ ['\'']) =
      Quoted.double (lowerFrom before' cs) ++ ['\''] := by
  induction cs generalizing before before' with
  | nil =>
    show lowerBetween before '\'' [] ++ [] = ['\'']
    rw [lowerBetween_apostrophe, List.append_nil]
  | cons c cs ih =>
    have hpassed := startsCased_cons_congr c h
    rw [lowerFrom, Quoted.double_append]
    by_cases hc : c = '\''
    · subst hc
      have htwice : startsCased ('\'' :: '\'' :: before) = startsCased ('\'' :: before') := by
        rw [startsCased_apostrophe, hpassed]
      rw [Quoted.double, if_pos rfl, List.cons_append, List.cons_append, lowerFrom, lowerFrom,
        ih htwice]
      simp [lowerBetween_apostrophe, Quoted.double]
    · have hkept := Quoted.double_eq_self (apostrophe_not_mem_lowerBetween hc before' cs)
      rw [Quoted.double, if_neg hc, List.cons_append, lowerFrom, ih hpassed,
        lowerBetween_congr c h (startsCased_double cs), hkept, List.append_assoc]

/-- **Lower-casing a quoted text lower-cases what is quoted.** -/
theorem lowerCase_write (cs : List Char) :
    lowerCase (Quoted.write cs) = Quoted.write (lowerCase cs) := by
  have hbody := lowerFrom_double (startsCased_apostrophe []) cs
  rw [lowerCase, Quoted.write, List.cons_append, lowerFrom, lowerBetween_apostrophe, hbody]
  rfl

/-- A sigma at the end of a word takes its final form between apostrophes, too. -/
example : lowerCase (Quoted.write ['Ο', '\'', 'Σ']) = Quoted.write ['ο', '\'', 'ς'] := by
  decide +kernel

end SemanticQuery.Text
