import Anywhere.Calendar.Time
import Anywhere.Number.Power
import Anywhere.Text.Reader

/-!
# Reading dates and times

Two notations are read. Documents write dates and times in the *spaced* notation, in which white
space may stand on both sides of every number and the seconds of a time may be missing; a `T`
separates the halves of a date-time. Columns deliver them in the *tight* notation, in which white
space may only stand in front of a number and seconds are required; the halves of a date-time are
separated by white space or by nothing. In both, a number may have fewer digits than are written.
-/

namespace Anywhere.Calendar

open Anywhere.Number (ofDigits tenTo)
open Anywhere.Text (Reader)
open Anywhere.Text.Reader (blanks char)

/-- How a text may be laid out. -/
inductive Notation where
  | spaced
  | tight
deriving DecidableEq, Repr

namespace Reader

/-- Up to `most` digits, but at least one. -/
def number (most : Nat) : Reader Nat := fun text =>
  let run := (text.take most).takeWhile Char.isDigit
  if run.isEmpty then none else some (ofDigits run, text.drop run.length)

/-- A number of any length. -/
def anyNumber : Reader Nat := fun text => number text.length text

/-- White space is passed behind a number where the notation allows it. -/
def gap : Notation → Reader Unit
  | .spaced => blanks
  | .tight => pure ()

/-- Up to four digits, or a sign and any number of them. -/
def year : Reader Int := do
  blanks
  match ← get with
  | '-' :: rest => set rest; return -(← anyNumber)
  | '+' :: rest => set rest; return (← anyNumber)
  | _ => return (← number 4)

/-- One or two digits. -/
def twoDigits : Reader Nat := do
  blanks
  number 2

/-- Year, month and day with hyphens between them. -/
def date (layout : Notation) : Reader Date := do
  let year ← year
  gap layout
  char '-'
  let month ← twoDigits
  gap layout
  char '-'
  let day ← twoDigits
  gap layout
  Date.ofParts? year month day

/-- The nanoseconds in the digits behind a point; digits after the ninth are passed over. -/
def fraction : Reader Nat := do
  match ← get with
  | '.' :: rest =>
    let run := (rest.take 9).takeWhile Char.isDigit
    if run.isEmpty then failure
    set (rest.dropWhile Char.isDigit)
    return ofDigits run * tenTo (9 - run.length)
  | _ => return 0

/-- The second and its fraction, with the colon in front of them. -/
def seconds (layout : Notation) : Reader (Nat × Nat) := do
  gap layout
  char ':'
  let second ← twoDigits
  let nanosecond ← fraction
  gap layout
  return (second, nanosecond)

/-- Hour and minute with a colon between them. -/
def hourMinute (layout : Notation) : Reader (Nat × Nat) := do
  let hour ← twoDigits
  gap layout
  char ':'
  let minute ← twoDigits
  return (hour, minute)

/-- A time with its seconds. -/
def fullTime (layout : Notation) : Reader Time := do
  let (hour, minute) ← hourMinute layout
  let (second, nanosecond) ← seconds layout
  Time.ofParts? hour minute second nanosecond

/-- A time whose seconds may be missing. -/
def shortTime (layout : Notation) : Reader Time := do
  let (hour, minute) ← hourMinute layout
  let (second, nanosecond) ← seconds layout <|> pure (0, 0)
  gap layout
  Time.ofParts? hour minute second nanosecond

/-- A date-time. -/
def dateTime : (layout : Notation) → Reader DateTime
  | .spaced => do
    let date ← date .spaced
    char 'T'
    return ⟨date, ← fullTime .spaced⟩
  | .tight => do
    let date ← date .tight
    blanks
    return ⟨date, ← fullTime .tight⟩

end Reader

/-- The date that a text denotes. -/
def Date.ofText? (layout : Notation) (text : String) : Option Date :=
  Text.Reader.whole (Reader.date layout) text.toList

/-- The time that a text denotes. Only the spaced notation lets the seconds be missing. -/
def Time.ofText? (layout : Notation) (text : String) : Option Time :=
  match layout with
  | .spaced => Text.Reader.whole (Reader.shortTime .spaced) text.toList
  | .tight => Text.Reader.whole (Reader.fullTime .tight) text.toList

/-- The date-time that a text denotes. -/
def DateTime.ofText? (layout : Notation) (text : String) : Option DateTime :=
  Text.Reader.whole (Reader.dateTime layout) text.toList

end Anywhere.Calendar
