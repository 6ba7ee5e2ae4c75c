import Anywhere.Number.Digits

/-!
# Calendar dates

Dates of the proleptic Gregorian calendar, with a year 0 and negative years. A date is written
`YYYY-MM-DD`; years outside 0 to 9999 carry a sign.
-/

namespace Anywhere.Calendar

open Anywhere.Number (digits padZeros)

/-- The year has a 29th of February. -/
def isLeapYear (year : Int) : Bool := (year % 4 == 0 && year % 100 != 0) || year % 400 == 0

/-- The days of a month; an impossible month has none. -/
def daysInMonth (year : Int) (month : Nat) : Nat :=
  if month = 2 then (if isLeapYear year then 29 else 28)
  else if month ∈ [4, 6, 9, 11] then 30
  else if 1 ≤ month ∧ month ≤ 12 then 31
  else 0

/-- The first year that dates reach. -/
def firstYear : Int := -262143

/-- The last year that dates reach. -/
def lastYear : Int := 262142

/-- A day of the calendar. -/
structure Date where
  year : Int
  month : Nat
  day : Nat
  year_mem : firstYear ≤ year ∧ year ≤ lastYear
  day_mem : 1 ≤ day ∧ day ≤ daysInMonth year month
deriving DecidableEq, Repr

namespace Date

/-- The date with the given parts, if there is one. -/
def ofParts? (year : Int) (month day : Nat) : Option Date :=
  if h : (firstYear ≤ year ∧ year ≤ lastYear) ∧ 1 ≤ day ∧ day ≤ daysInMonth year month then
    some ⟨year, month, day, h.1, h.2⟩
  else none

/-- Four digits at least, and a sign on years outside 0 to 9999. -/
def yearText (year : Int) : List Char :=
  let magnitude := padZeros 4 (digits year.natAbs)
  if year < 0 then '-' :: magnitude
  else if year ≤ 9999 then magnitude
  else '+' :: magnitude

/-- Two digits at least. -/
def twoDigits (n : Nat) : List Char := padZeros 2 (digits n)

/-- Year, month and day with hyphens between them. -/
def text (d : Date) : List Char :=
  yearText d.year ++ '-' :: twoDigits d.month ++ '-' :: twoDigits d.day

end Date

end Anywhere.Calendar
