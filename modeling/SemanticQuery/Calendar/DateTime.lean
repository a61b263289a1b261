import SemanticQuery.Number.Numeral

/-!
# Dates with a time of day

Dates of the proleptic Gregorian calendar from the year -9999 to the year 9999, with a time of day
down to the nanosecond. Both parts carry the proof that they exist: month 13, February 29 of a
common year, hour 24 and second 60 cannot be built.

The written form is `YYYY-MM-DDThh:mm:ss.f` with a fraction of three digits, or of nine when three
would lose something. The year is padded to a width of four in which a minus sign counts, so the
years -999 to -1 have fewer than four digits. Reading wants four digits after an optional sign and
takes a fraction of any length, of which the first nine digits count.
-/

set_option autoImplicit false

namespace SemanticQuery.Calendar

open SemanticQuery.Number (padded digitsValue splitSign)

/-- The years with a February 29. -/
def isLeapYear (year : Int) : Bool :=
  year % 4 == 0 && (year % 100 != 0 || year % 400 == 0)

/-- The number of days of a month. -/
def daysInMonth (year : Int) (month : Nat) : Nat :=
  if month = 2 then (if isLeapYear year then 29 else 28)
  else if month = 4 ∨ month = 6 ∨ month = 9 ∨ month = 11 then 30
  else 31

/-- A day of the calendar. -/
structure Date where
  year : Int
  month : Nat
  day : Nat
  year_range : -9999 ≤ year ∧ year ≤ 9999
  month_range : 1 ≤ month ∧ month ≤ 12
  day_range : 1 ≤ day ∧ day ≤ daysInMonth year month
deriving DecidableEq

/-- A time of day. -/
structure Time where
  hour : Nat
  minute : Nat
  second : Nat
  nanosecond : Nat
  hour_range : hour < 24
  minute_range : minute < 60
  second_range : second < 60
  nanosecond_range : nanosecond < 1000000000
deriving DecidableEq

/-- A date with a time of day, in no particular time zone. -/
structure DateTime where
  date : Date
  time : Time
deriving DecidableEq

namespace Date

/-- The date with the given parts, if it exists. -/
def of? (year : Int) (month day : Nat) : Option Date :=
  if h : (-9999 ≤ year ∧ year ≤ 9999) ∧ (1 ≤ month ∧ month ≤ 12) ∧
      (1 ≤ day ∧ day ≤ daysInMonth year month) then
    some ⟨year, month, day, h.1, h.2.1, h.2.2⟩
  else none

end Date

namespace Time

/-- The time of day with the given parts, if it exists. -/
def of? (hour minute second nanosecond : Nat) : Option Time :=
  if h : hour < 24 ∧ minute < 60 ∧ second < 60 ∧ nanosecond < 1000000000 then
    some ⟨hour, minute, second, nanosecond, h.1, h.2.1, h.2.2.1, h.2.2.2⟩
  else none

end Time

namespace DateTime

/-- The written year. -/
def writeYear (year : Int) : List Char :=
  if year < 0 then '-' :: padded 3 year.natAbs else padded 4 year.natAbs

/-- The written fraction of a second: milliseconds if they are exact, and else nanoseconds. -/
def writeFraction (nanosecond : Nat) : List Char :=
  if nanosecond % 1000000 = 0 then padded 3 (nanosecond / 1000000) else padded 9 nanosecond

/-- The written form of a date with a time of day. -/
def write (t : DateTime) : List Char :=
  writeYear t.date.year ++ '-' :: padded 2 t.date.month ++ '-' :: padded 2 t.date.day ++
    'T' :: padded 2 t.time.hour ++ ':' :: padded 2 t.time.minute ++
    ':' :: padded 2 t.time.second ++ '.' :: writeFraction t.time.nanosecond

/-- Splits off a number of exactly `width` digits. -/
def takeDigits (width : Nat) (cs : List Char) : Option (Nat × List Char) :=
  let digits := cs.take width
  if digits.length = width ∧ digits.all Char.isDigit = true then
    some (digitsValue digits, cs.drop width)
  else none

/-- Splits off one given character. -/
def takeChar (c : Char) : List Char → Option (List Char)
  | [] => none
  | d :: rest => if d = c then some rest else none

/-- Reads a whole text as the fraction of a second, in nanoseconds: at least one digit, of which
the first nine count. -/
def readFraction (cs : List Char) : Option Nat :=
  if cs.isEmpty || !cs.all Char.isDigit then none
  else
    let counted := cs.take 9
    some (digitsValue counted * Nat.pow 10 (9 - counted.length))

/-- Reads a written date with a time of day. -/
def read (cs : List Char) : Option DateTime := do
  let (negative, cs) := splitSign cs
  let (year, cs) ← takeDigits 4 cs
  let cs ← takeChar '-' cs
  let (month, cs) ← takeDigits 2 cs
  let cs ← takeChar '-' cs
  let (day, cs) ← takeDigits 2 cs
  let cs ← takeChar 'T' cs
  let (hour, cs) ← takeDigits 2 cs
  let cs ← takeChar ':' cs
  let (minute, cs) ← takeDigits 2 cs
  let cs ← takeChar ':' cs
  let (second, cs) ← takeDigits 2 cs
  let cs ← takeChar '.' cs
  let nanosecond ← readFraction cs
  let date ← Date.of? (if negative then -(year : Int) else year) month day
  let time ← Time.of? hour minute second nanosecond
  return ⟨date, time⟩

end DateTime

end SemanticQuery.Calendar
