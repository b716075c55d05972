import Sqlwright.Text.Numeral

/-!
# Universally unique identifiers

An identifier is a word of 128 bits. It is written as 32 lowercase hexadecimal digits
in groups of 8, 4, 4, 4 and 12, with hyphens between the groups.
-/

namespace Sqlwright

/-- A word of 128 bits. -/
structure Uuid where
  bits : BitVec 128
deriving DecidableEq, Repr

namespace Uuid

/-- All digits without hyphens. -/
def digits (u : Uuid) : List Char := Text.padded 32 (Text.digits 16 u.bits.toNat)

/-- Cut a list into groups of the given lengths. -/
def grouped : List Nat → List Char → List (List Char)
  | [], _ => []
  | length :: lengths, text => text.take length :: grouped lengths (text.drop length)

/-- The hyphenated text. -/
def text (u : Uuid) : String :=
  String.ofList (['-'].intercalate (grouped [8, 4, 4, 4, 12] u.digits))

/-- Identifiers are ordered as words, which is the order of their texts. -/
def compare (a b : Uuid) : Ordering := Ord.compare a.bits.toNat b.bits.toNat

/-- The order can be read from both sides. -/
theorem compare_swap (a b : Uuid) : b.compare a = (a.compare b).swap := by
  rw [compare, compare, ← Std.OrientedCmp.eq_swap]

end Uuid
end Sqlwright
