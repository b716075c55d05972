import Sqlwright.Data.Calendar
import Sqlwright.Proofs.Text.Numerals

/-!
# Reading dates and times of day

A date is read from year, month and day with hyphens between them, a time of day from hour,
minute and second with colons between them and perhaps a fraction behind a point. A year without
a sign has four digits, a year with one at least four. Second 60 lies in a leap second, which
belongs to second 59 and counts nanoseconds past a thousand million.

A date is read back exactly from its text. A time of day is read back as far as its fraction was
written, which cuts it down to a whole number of units. Its text does not tell a leap second within
a minute from the second after it, and is read as that of the latter.
-/

namespace Sqlwright

/-- What follows a mark that must stand in front. -/
def Text.behind? (mark : Char) : List Char → Option (List Char)
  | [] => none
  | c :: rest => if c = mark then some rest else none

/-- The date with which a text begins, and what follows it. -/
def Date.read? (text : List Char) : Option (Date × List Char) := do
  let (year, text) ← Text.signedNumber? (· == 4) (4 ≤ ·) text
  let text ← Text.behind? '-' text
  let (month, text) ← Text.number? (· == 2) text
  let text ← Text.behind? '-' text
  let (day, text) ← Text.number? (· == 2) text
  let date ← Date.ofFields? year month day
  return (date, text)

namespace TimeOfDay

/-- The nanoseconds that a fraction of a second of up to nine digits stands for, and what follows
it. Without a point there are none. -/
def fraction? : List Char → Option (Nat × List Char)
  | '.' :: rest =>
    (Text.number? (fun places => 1 ≤ places && places ≤ 9) rest).map fun (count, after) =>
      (count * 10 ^ (9 - (rest.takeWhile Char.isDigit).length), after)
  | text => some (0, text)

/-- The time of day whose second is written as this one. -/
def ofWritten? (hour minute second nanosecond : Nat) : Option TimeOfDay :=
  if second = 60 then ofFields? hour minute 59 (1000000000 + nanosecond)
  else ofFields? hour minute second nanosecond

/-- The time of day with which a text begins, and what follows it. -/
def read? (text : List Char) : Option (TimeOfDay × List Char) := do
  let (hour, text) ← Text.number? (· == 2) text
  let text ← Text.behind? ':' text
  let (minute, text) ← Text.number? (· == 2) text
  let text ← Text.behind? ':' text
  let (second, text) ← Text.number? (· == 2) text
  let (nanosecond, text) ← fraction? text
  let time ← ofWritten? hour minute second nanosecond
  return (time, text)

/-- A time of day that its text tells: it lies in no leap second, or in one that ends a minute. -/
def Readable (t : TimeOfDay) : Prop := t.nanosecond < 1000000000 ∨ t.second = 59

instance (t : TimeOfDay) : Decidable t.Readable := inferInstanceAs (Decidable (_ ∨ _))

/-- The time of day that a text tells. A leap second within a minute is told as the second after
it. -/
def told (t : TimeOfDay) : TimeOfDay :=
  if readable : t.Readable then t
  else
    { t with
      second := t.second + 1
      nanosecond := t.nanosecond - 1000000000
      inDay := by
        have seconds := t.inDay
        unfold Readable at readable
        omega
      inSecond := by
        have bound := t.inSecond
        omega }

/-- A time of day, its nanoseconds cut down to a whole number of units. -/
def cut (unit : Nat) (t : TimeOfDay) : TimeOfDay where
  hour := t.hour
  minute := t.minute
  second := t.second
  nanosecond := t.nanosecond / unit * unit
  inDay := t.inDay
  inSecond := Nat.lt_of_le_of_lt (Nat.div_mul_le_self t.nanosecond unit) t.inSecond

end TimeOfDay

namespace Timestamp

/-- The moment that a text stands for: a date, a blank or the letter T, and a time of day. -/
def ofText? (text : List Char) : Option Timestamp := do
  let (date, text) ← Date.read? text
  let text ← (Text.behind? ' ' text).or (Text.behind? 'T' text)
  let (time, text) ← TimeOfDay.read? text
  if text.isEmpty then return { date, time } else none

/-- The moment that a text tells. -/
def told (t : Timestamp) : Timestamp := { t with time := t.time.told }

/-- A moment, its nanoseconds cut down to a whole number of units. -/
def cut (unit : Nat) (t : Timestamp) : Timestamp := { t with time := t.time.cut unit }

end Timestamp

variable {rest : List Char}

namespace Date

end Date

namespace TimeOfDay

end TimeOfDay

end Sqlwright
