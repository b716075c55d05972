import Sqlwright.Text.Span

/-!
# Blank text

A character is blank when it has the Unicode property White_Space. Text is blank
when nothing is left of it once blanks are trimmed away.
-/

namespace Sqlwright.Text

/-- Boundaries of the white space characters. -/
def blankBoundaries : List Nat :=
  [0x9, 0xe, 0x20, 0x21, 0x85, 0x86, 0xa0, 0xa1, 0x1680, 0x1681, 0x2000, 0x200b, 0x2028, 0x202a,
   0x202f, 0x2030, 0x205f, 0x2060, 0x3000, 0x3001]

/-- White space of any script. -/
def isBlank (c : Char) : Bool := within blankBoundaries c.toNat

/-- Text of white space only; the empty text is blank too. -/
def isBlankText (text : String) : Bool := text.toList.all isBlank

end Sqlwright.Text
