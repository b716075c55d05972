import Sqlwright.Text.Numeral

/-!
# Dates and times of day

Days of the proleptic Gregorian calendar and moments without a time zone. A time of
day may lie in a leap second: its nanoseconds then count on past one thousand million in
the second that the leap second follows. Written out, such a moment has the next second,
which is second 60 at the end of a minute. Leap seconds within a minute are there for
zones that are off by parts of one; they are written as the second after them is.

Years are written with four digits, later ones with a plus sign in front and earlier
ones with a minus sign.
-/

namespace Sqlwright

/-- Every fourth year is a leap year, of the full centuries only every fourth. -/
def isLeapYear (year : Int) : Bool :=
  year % 4 == 0 && (year % 100 != 0 || year % 400 == 0)

/-- The number of days in a month; none outside January to December. -/
def monthLength (year : Int) (month : Nat) : Nat :=
  match month with
  | 1 | 3 | 5 | 7 | 8 | 10 | 12 => 31
  | 4 | 6 | 9 | 11 => 30
  | 2 => if isLeapYear year then 29 else 28
  | _ => 0

/-- A day of the calendar. -/
structure Date where
  year : Int
  month : Nat
  day : Nat
  inYears : -262143 ≤ year ∧ year ≤ 262142 := by decide
  inMonth : 1 ≤ day ∧ day ≤ monthLength year month := by decide
deriving DecidableEq, Repr

/-- A time of day to the nanosecond. -/
structure TimeOfDay where
  hour : Nat
  minute : Nat
  second : Nat
  nanosecond : Nat
  inDay : hour < 24 ∧ minute < 60 ∧ second < 60 := by decide
  inSecond : nanosecond < 2000000000 := by decide
deriving DecidableEq, Repr

/-- A day and a time of day. -/
structure Timestamp where
  date : Date
  time : TimeOfDay
deriving DecidableEq, Repr

/-- The date with these fields, if the calendar has it. -/
def Date.ofFields? (year : Int) (month day : Nat) : Option Date :=
  if inYears : -262143 ≤ year ∧ year ≤ 262142 then
    if inMonth : 1 ≤ day ∧ day ≤ monthLength year month then
      some { year, month, day, inYears, inMonth }
    else none
  else none

/-- The time of day with these fields, if a day has it. -/
def TimeOfDay.ofFields? (hour minute second nanosecond : Nat) : Option TimeOfDay :=
  if inDay : hour < 24 ∧ minute < 60 ∧ second < 60 then
    if inSecond : nanosecond < 2000000000 then
      some { hour, minute, second, nanosecond, inDay, inSecond }
    else none
  else none

namespace Date

/-- The earlier date is the smaller one. -/
def compare (a b : Date) : Ordering :=
  (Ord.compare a.year b.year).then ((Ord.compare a.month b.month).then (Ord.compare a.day b.day))

/-- The order of dates can be read from both sides. -/
theorem compare_swap (a b : Date) : b.compare a = (a.compare b).swap := by
  simp only [compare, Ordering.swap_then, ← Std.OrientedCmp.eq_swap]

/-- A year with its sign where it needs one. -/
def yearText (year : Int) : String :=
  if year < 0 then "-" ++ Text.paddedDecimal 4 year.natAbs
  else if 9999 < year then "+" ++ Text.paddedDecimal 4 year.natAbs
  else Text.paddedDecimal 4 year.natAbs

/-- Year, month and day with hyphens between them. -/
def text (d : Date) : String :=
  yearText d.year ++ "-" ++ Text.paddedDecimal 2 d.month ++ "-" ++ Text.paddedDecimal 2 d.day

end Date

namespace TimeOfDay

/-- The earlier time is the smaller one; a leap second comes right behind the second that it
follows. -/
def compare (a b : TimeOfDay) : Ordering :=
  (Ord.compare a.hour b.hour).then ((Ord.compare a.minute b.minute).then
    ((Ord.compare a.second b.second).then (Ord.compare a.nanosecond b.nanosecond)))

theorem compare_swap (a b : TimeOfDay) : b.compare a = (a.compare b).swap := by
  simp only [compare, Ordering.swap_then, ← Std.OrientedCmp.eq_swap]

/-- The second as written, which is the next one within a leap second. -/
def writtenSecond (t : TimeOfDay) : Nat := t.second + t.nanosecond / 1000000000

/-- The nanoseconds within the written second. -/
def fraction (t : TimeOfDay) : Nat := t.nanosecond % 1000000000

/-- Hour, minute and second with colons between them. -/
def clockText (t : TimeOfDay) : String :=
  Text.paddedDecimal 2 t.hour ++ ":" ++ Text.paddedDecimal 2 t.minute ++ ":" ++
    Text.paddedDecimal 2 t.writtenSecond

/-- The fraction with three, six or nine digits, the fewest that are exact; nothing for
a whole second. -/
def fractionText (t : TimeOfDay) : String :=
  if t.fraction = 0 then ""
  else if t.fraction % 1000000 = 0 then "." ++ Text.paddedDecimal 3 (t.fraction / 1000000)
  else if t.fraction % 1000 = 0 then "." ++ Text.paddedDecimal 6 (t.fraction / 1000)
  else "." ++ Text.paddedDecimal 9 t.fraction

end TimeOfDay

namespace Timestamp

/-- The earlier moment is the smaller one. -/
def compare (a b : Timestamp) : Ordering := (a.date.compare b.date).then (a.time.compare b.time)

theorem compare_swap (a b : Timestamp) : b.compare a = (a.compare b).swap := by
  rw [compare, compare, Ordering.swap_then, a.date.compare_swap, a.time.compare_swap]

/-- Date, clock and fraction. -/
def text (t : Timestamp) : String := t.date.text ++ " " ++ t.time.clockText ++ t.time.fractionText

end Timestamp

end Sqlwright
