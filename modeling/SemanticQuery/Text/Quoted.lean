/-!
# Quoted text

The written form of a text between apostrophes, in which every apostrophe of the text is doubled.
Reading is lenient: only the outer apostrophes are required, and a lone apostrophe inside stands for
itself. Writing and then reading gives the text back; reading accepts more than writing produces.
-/

set_option autoImplicit false

namespace SemanticQuery.Text.Quoted

/-- Doubles every apostrophe. -/
def double : List Char → List Char
  | [] => []
  | c :: rest => if c = '\'' then '\'' :: '\'' :: double rest else c :: double rest

/-- Replaces adjacent pairs of apostrophes by one, from the left. -/
def undouble : List Char → List Char
  | [] => []
  | [c] => [c]
  | c :: d :: rest =>
      if c = '\'' ∧ d = '\'' then '\'' :: undouble rest else c :: undouble (d :: rest)

/-- The quoted form of a text. -/
def write (body : List Char) : List Char :=
  '\'' :: double body ++ ['\'']

/-- Reads a quoted text: an apostrophe at each end, pairs inside standing for one. -/
def read : List Char → Option (List Char)
  | [] => none
  | c :: rest =>
      if c = '\'' ∧ rest.getLast? = some '\'' then some (undouble rest.dropLast) else none

/-- Undoing the doubling gives the text back. -/
theorem undouble_double (body : List Char) : undouble (double body) = body := by
  induction body with
  | nil => rfl
  | cons c rest ih =>
    by_cases h : c = '\''
    · simp [double, undouble, h, ih]
    · cases hd : double rest with
      | nil =>
        have : rest = [] := by
          cases rest with
          | nil => rfl
          | cons d tail => by_cases hq : d = '\'' <;> simp [double, hq] at hd
        subst this
        simp [double, undouble, h]
      | cons d tail =>
        rw [hd] at ih
        simp [double, undouble, h, hd, ih]

/-- Writing and then reading gives the text back. -/
theorem read_write (body : List Char) : read (write body) = some body := by
  simp [read, write, undouble_double]

end SemanticQuery.Text.Quoted
