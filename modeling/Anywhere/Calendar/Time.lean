import Anywhere.Calendar.Date

/-!
# Times of day, and date-times

A time of day has a resolution of one nanosecond. A second has a thousand million of them. Any
second may be followed by a leap second, in which its nanoseconds go on counting. A clock shows a
leap second as the number behind that of its second: as 60 at the end of a minute, and as the second
that follows anyway elsewhere.

A fraction is written with three, six or nine digits, the fewest that are exact, and not at all when
it is zero.
-/

namespace Anywhere.Calendar

open Anywhere.Number (digits padZeros)

/-- A time of day without a zone. -/
structure Time where
  hour : Nat
  minute : Nat
  second : Nat
  /-- Since the second began; from a thousand million on, the leap second behind it. -/
  nanosecond : Nat
  hour_lt : hour < 24
  minute_lt : minute < 60
  second_lt : second < 60
  nanosecond_lt : nanosecond < 2000000000
deriving DecidableEq, Repr

namespace Time

/-- The second that a clock shows. -/
def shownSecond (t : Time) : Nat := t.second + t.nanosecond / 1000000000

/-- The nanoseconds since the second that a clock shows began. -/
def shownNanosecond (t : Time) : Nat := t.nanosecond % 1000000000

/-- The time at which a clock shows the given parts, if there is one. Second 60 is the leap second
at the end of a minute, and no other second is taken for a leap second. -/
def ofParts? (hour minute second nanosecond : Nat) : Option Time :=
  if h : hour < 24 ∧ minute < 60 ∧ nanosecond < 1000000000 then
    if hsecond : second < 60 then
      some ⟨hour, minute, second, nanosecond, h.1, h.2.1, hsecond, by omega⟩
    else if second = 60 then
      some ⟨hour, minute, 59, 1000000000 + nanosecond, h.1, h.2.1, Nat.lt_add_one 59, by omega⟩
    else none
  else none

/-- The fraction of a second, with the point in front of it. -/
def fractionText (nanosecond : Nat) : List Char :=
  if nanosecond = 0 then []
  else if nanosecond % 1000000 = 0 then '.' :: padZeros 3 (digits (nanosecond / 1000000))
  else if nanosecond % 1000 = 0 then '.' :: padZeros 6 (digits (nanosecond / 1000))
  else '.' :: padZeros 9 (digits nanosecond)

/-- Hour, minute and second with colons between them, and the fraction, as a clock shows them. -/
def text (t : Time) : List Char :=
  Date.twoDigits t.hour ++ ':' :: Date.twoDigits t.minute ++ ':' :: Date.twoDigits t.shownSecond ++
    fractionText t.shownNanosecond

end Time

/-- A day and a time of that day, without a zone. -/
structure DateTime where
  date : Date
  time : Time
deriving DecidableEq, Repr

/-- The date and the time with `separator` between them. -/
def DateTime.text (separator : Char) (t : DateTime) : List Char :=
  t.date.text ++ separator :: t.time.text

end Anywhere.Calendar
