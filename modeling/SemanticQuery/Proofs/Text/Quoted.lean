import SemanticQuery.Text.Quoted

/-!
# Runs of apostrophes

Writing a quoted text doubles every apostrophe. Reading replaces pairs of apostrophes from the left
and leaves one that stands alone as it is, so it takes more bodies than are written. The written
ones are those in which every run of apostrophes is even. A text without an apostrophe is read from
the body that is written for it and from no other; as soon as it has an apostrophe there are others,
for the last one may stand alone.
-/

set_option autoImplicit false

namespace SemanticQuery.Text.Quoted

/-! ## Doubling -/

/-- Apostrophes are doubled part by part. -/
theorem double_append (cs ds : List Char) : double (cs ++ ds) = double cs ++ double ds := by
  induction cs with
  | nil => rfl
  | cons c cs ih =>
    by_cases hc : c = '\''
    · simp [double, hc, ih]
    · simp [double, hc, ih]

/-- A text without apostrophes has none to double. -/
theorem double_eq_self {cs : List Char} (h : '\'' ∉ cs) : double cs = cs := by
  induction cs with
  | nil => rfl
  | cons c cs ih =>
    rw [List.mem_cons, not_or] at h
    rw [double, if_neg (Ne.symm h.1), ih h.2]

/-! ## Even runs -/

/-- Every run of apostrophes is even: apostrophes that neither follow one nor are followed by one
are even in number. -/
def EvenRuns (body : List Char) : Prop :=
  ∀ before count after, body = before ++ (List.replicate count '\'' ++ after) →
    before.getLast? ≠ some '\'' → after.head? ≠ some '\'' → count % 2 = 0

variable {body : List Char}

/-- What a text does not end in, it does not end in without its first character. -/
theorem getLast?_ne_of_cons {c d : Char} {before : List Char}
    (h : (d :: before).getLast? ≠ some c) : before.getLast? ≠ some c := by
  cases before with
  | nil => nofun
  | cons _ _ => rwa [List.getLast?_cons_cons] at h

/-- In the empty text every run is even. -/
theorem evenRuns_nil : EvenRuns [] := by
  intro before count after hbody _ _
  have hrun : List.replicate count '\'' = [] :=
    (List.append_eq_nil_iff.1 (List.append_eq_nil_iff.1 hbody.symm).2).1
  rw [(List.replicate_eq_nil_iff '\'').1 hrun]

/-- Another character in front does not touch the runs of apostrophes. -/
theorem evenRuns_cons_iff {c : Char} (hc : c ≠ '\'') : EvenRuns (c :: body) ↔ EvenRuns body := by
  constructor
  · intro h before count after hbody hbefore hafter
    refine h (c :: before) count after (by rw [hbody, List.cons_append]) ?_ hafter
    cases before with
    | nil => simpa using hc
    | cons d before => rwa [List.getLast?_cons_cons]
  · intro h before count after hbody hbefore hafter
    cases before with
    | nil =>
      -- No run starts with `c`.
      cases count with
      | zero => rfl
      | succ count => exact absurd (List.cons.inj hbody).1 hc
    | cons d before =>
      exact h before count after (List.cons.inj hbody).2 (getLast?_ne_of_cons hbefore) hafter

/-- Two apostrophes more leave the runs as even or odd as they are. -/
theorem evenRuns_pair_iff : EvenRuns ('\'' :: '\'' :: body) ↔ EvenRuns body := by
  constructor
  · intro h before count after hbody hbefore hafter
    cases before with
    | nil =>
      -- A run at the start is longer by two; any other run stands where it stood.
      have hrun := h [] (count + 2) after (by rw [hbody]; rfl) nofun hafter
      omega
    | cons d before =>
      refine h ('\'' :: '\'' :: d :: before) count after (by rw [hbody]; rfl) ?_ hafter
      rwa [List.getLast?_cons_cons, List.getLast?_cons_cons]
  · intro h before count after hbody hbefore hafter
    match before, count with
    | [], 0 => rfl
    | [], 1 => exact absurd (congrArg List.head? (List.cons.inj hbody).2.symm) hafter
    | [], count + 2 =>
      have hrun := h [] count after (List.cons.inj (List.cons.inj hbody).2).2 nofun hafter
      omega
    | [d], _ =>
      rw [← (List.cons.inj hbody).1] at hbefore
      exact absurd rfl hbefore
    | d :: d' :: before, count =>
      exact h before count after (List.cons.inj (List.cons.inj hbody).2).2
        (getLast?_ne_of_cons (getLast?_ne_of_cons hbefore)) hafter

/-- An apostrophe that stands alone is an odd run. -/
theorem not_evenRuns_lone (h : body.head? ≠ some '\'') : ¬ EvenRuns ('\'' :: body) := by
  intro heven
  have hrun := heven [] 1 body rfl nofun h
  cases hrun

/-- What is written has even runs. -/
theorem evenRuns_double (cs : List Char) : EvenRuns (double cs) := by
  induction cs with
  | nil => exact evenRuns_nil
  | cons c cs ih =>
    rw [double]
    split
    case isTrue => exact evenRuns_pair_iff.2 ih
    case isFalse hc => exact (evenRuns_cons_iff hc).2 ih

/-- Where the runs are even, reading and then writing gives the body back. -/
theorem double_undouble (h : EvenRuns body) : double (undouble body) = body := by
  fun_induction undouble body with
  | case1 => rfl
  | case2 c =>
    have hc : c ≠ '\'' := by
      rintro rfl
      exact absurd h (not_evenRuns_lone nofun)
    rw [double, if_neg hc, double]
  | case3 c d rest hpair ih =>
    obtain ⟨rfl, rfl⟩ := hpair
    rw [double, if_pos rfl, ih (evenRuns_pair_iff.1 h)]
  | case4 c d rest hpair ih =>
    have hc : c ≠ '\'' := by
      rintro rfl
      have hlone : (d :: rest).head? ≠ some '\'' := fun hd => hpair ⟨rfl, Option.some.inj hd⟩
      exact not_evenRuns_lone hlone h
    rw [double, if_neg hc, ih ((evenRuns_cons_iff hc).1 h)]

/-- The runs of a body are even exactly if it is written again as it was read. -/
theorem evenRuns_iff : EvenRuns body ↔ double (undouble body) = body := by
  constructor
  · exact double_undouble
  · intro h
    rw [← h]
    exact evenRuns_double _

instance : Decidable (EvenRuns body) :=
  decidable_of_iff _ evenRuns_iff.symm

/-- **The written bodies are those with even runs.** -/
theorem eq_double_iff (cs : List Char) : body = double cs ↔ undouble body = cs ∧ EvenRuns body := by
  constructor
  · rintro rfl
    exact ⟨undouble_double cs, evenRuns_double cs⟩
  · rintro ⟨rfl, heven⟩
    exact (double_undouble heven).symm

/-! ## Other bodies for the same text -/

/-- Another character in front is read as it is. -/
theorem undouble_cons {c : Char} (hc : c ≠ '\'') (body : List Char) :
    undouble (c :: body) = c :: undouble body := by
  cases body with
  | nil => rfl
  | cons d rest => rw [undouble, if_neg fun hpair => hc hpair.1]

/-- An apostrophe that no other one follows is read as it is. -/
theorem undouble_lone (h : body.head? ≠ some '\'') :
    undouble ('\'' :: body) = '\'' :: undouble body := by
  cases body with
  | nil => rfl
  | cons d rest => rw [undouble, if_neg fun hpair => h (congrArg some hpair.2)]

/-- A body without apostrophes is read as it is. -/
theorem undouble_eq_self (h : '\'' ∉ body) : undouble body = body := by
  have hread := undouble_double body
  rwa [double_eq_self h] at hread

/-- A body has an apostrophe exactly if what it is read as has one. -/
theorem apostrophe_mem_undouble_iff : '\'' ∈ undouble body ↔ '\'' ∈ body := by
  fun_induction undouble body with
  | case1 => exact Iff.rfl
  | case2 => exact Iff.rfl
  | case3 c d rest hpair ih => simp [hpair]
  | case4 c d rest hpair ih => rw [List.mem_cons, List.mem_cons, ih]

/-- **A text with an apostrophe, and no other, is read from more than what is written for it**: the
last apostrophe may stand alone. -/
theorem exists_other_body_iff (cs : List Char) :
    (∃ body, body ≠ double cs ∧ undouble body = cs) ↔ '\'' ∈ cs := by
  constructor
  · rintro ⟨body, hother, rfl⟩
    rw [apostrophe_mem_undouble_iff]
    refine Decidable.byContradiction fun hnone => hother ?_
    rw [undouble_eq_self hnone, double_eq_self hnone]
  · intro hmem
    induction cs with
    | nil => cases hmem
    | cons c cs ih =>
      by_cases hrest : '\'' ∈ cs
      case pos =>
        obtain ⟨body, hother, rfl⟩ := ih hrest
        by_cases hc : c = '\''
        · subst hc
          refine ⟨'\'' :: '\'' :: body, ?_, rfl⟩
          simpa [double] using hother
        · refine ⟨c :: body, ?_, undouble_cons hc body⟩
          simpa [double, hc] using hother
      case neg =>
        -- This is the last apostrophe, the one to leave alone.
        have hc : '\'' = c := (List.mem_cons.1 hmem).resolve_right hrest
        subst hc
        have hlone : cs.head? ≠ some '\'' := fun hhead => hrest (List.mem_of_mem_head? hhead)
        refine ⟨'\'' :: cs, ?_, by rw [undouble_lone hlone, undouble_eq_self hrest]⟩
        rw [double, if_pos rfl, double_eq_self hrest]
        intro heq
        have hlength := congrArg List.length heq
        simp at hlength

/-! ## The outer apostrophes -/

/-- What is read as a quoted text stands between two apostrophes. -/
theorem read_eq_some_iff (cs body : List Char) :
    read cs = some body ↔ ∃ inner, cs = '\'' :: inner ++ ['\''] ∧ undouble inner = body := by
  constructor
  · intro h
    cases cs with
    | nil => cases h
    | cons c rest =>
      rw [read] at h
      split at h
      case isTrue hquoted =>
        obtain ⟨rfl, hlast⟩ := hquoted
        obtain ⟨inner, rfl⟩ := List.getLast?_eq_some_iff.1 hlast
        rw [List.dropLast_concat] at h
        exact ⟨inner, rfl, Option.some.inj h⟩
      case isFalse => cases h
  · rintro ⟨inner, rfl, rfl⟩
    rw [List.cons_append, read, if_pos ⟨rfl, List.getLast?_concat⟩, List.dropLast_concat]

end SemanticQuery.Text.Quoted
