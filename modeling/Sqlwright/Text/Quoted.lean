import Sqlwright.Text.Hidden
import Sqlwright.Text.Numeral

/-!
# Text shown in quotes

Messages show text between double quotes. A quote and a backslash are escaped by a
backslash, four control characters have short escapes, and every other character
that does not show by itself is written by its number in braces.
-/

namespace Sqlwright.Text

/-- One character between quotes. -/
def shown (c : Char) : List Char :=
  if c = '\x00' then ['\\', '0']
  else if c = '\t' then ['\\', 't']
  else if c = '\r' then ['\\', 'r']
  else if c = '\n' then ['\\', 'n']
  else if c = '\\' || c = '"' then ['\\', c]
  else if isHidden c then ['\\', 'u', '\x7b'] ++ digits 16 c.toNat ++ ['\x7d']
  else [c]

/-- A text in double quotes, every character as `shown`. -/
def quotedDisplay (text : String) : String :=
  String.ofList ('"' :: text.toList.flatMap shown ++ ['"'])

end Sqlwright.Text
