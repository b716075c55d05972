import Sqlwright.Data.Calendar
import Sqlwright.Dialect
import Sqlwright.Text.Doubling

/-!
# Literals of a dialect

Text literals double the single quote, and the backslash where it escapes. Bytes are
hexadecimal. Dates and timestamps are wrapped so that the dialect reads them with their
type. Fractions of a second are cut, never rounded, to what the dialect can hold: whole
microseconds, or units of 100 nanoseconds in SQL Server.
-/

namespace Sqlwright.Dialect

/-- Whether a backslash escapes the next character of a text literal. -/
def escapesBackslash : Dialect → Bool
  | .mysql => true
  | .sqlite | .postgresql | .sqlserver => false

/-- The characters that a text literal writes twice. -/
def doubledInText (dialect : Dialect) (c : Char) : Bool :=
  c == '\'' || (dialect.escapesBackslash && c == '\\')

/-- A text literal. -/
def textLiteral (dialect : Dialect) (text : String) : String :=
  String.ofList ('\'' :: Text.doubled dialect.doubledInText text.toList ++ ['\''])

/-- A literal of bytes. -/
def bytesLiteral (dialect : Dialect) (bytes : List UInt8) : String :=
  let digits := Text.hexadecimal bytes
  match dialect with
  | .sqlite | .mysql => "X'" ++ String.ofList (digits.map Char.toUpper) ++ "'"
  | .postgresql => "'\\x" ++ String.ofList digits ++ "'::bytea"
  | .sqlserver => "0x" ++ String.ofList (digits.map Char.toUpper)

/-- A literal of a date. -/
def dateLiteral (dialect : Dialect) (date : Date) : String :=
  match dialect with
  | .sqlite => "'" ++ date.text ++ "'"
  | .postgresql | .mysql => "DATE '" ++ date.text ++ "'"
  | .sqlserver => "CAST('" ++ date.text ++ "' AS DATE)"

/-- The digits of a fraction of a second that the dialect can hold. -/
def fractionDigits : Dialect → Nat
  | .sqlserver => 7
  | .sqlite | .postgresql | .mysql => 6

/-- The character between the date and the time of a timestamp. -/
def timeSeparator : Dialect → String
  | .sqlserver => "T"
  | .sqlite | .postgresql | .mysql => " "

/-- The text of a timestamp inside its literal. The fraction is left out only when there
is none at all. -/
def timestampText (dialect : Dialect) (moment : Timestamp) : String :=
  let places := dialect.fractionDigits
  let fraction :=
    if moment.time.fraction = 0 then ""
    else "." ++ Text.paddedDecimal places (moment.time.fraction / Nat.pow 10 (9 - places))
  moment.date.text ++ dialect.timeSeparator ++ moment.time.clockText ++ fraction

/-- A literal of a timestamp. -/
def timestampLiteral (dialect : Dialect) (moment : Timestamp) : String :=
  let text := dialect.timestampText moment
  match dialect with
  | .sqlite => "'" ++ text ++ "'"
  | .postgresql | .mysql => "TIMESTAMP '" ++ text ++ "'"
  | .sqlserver => "CAST('" ++ text ++ "' AS DATETIME2)"

end Sqlwright.Dialect
