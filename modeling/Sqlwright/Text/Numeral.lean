/-!
# Numerals

Decimal and hexadecimal numerals, with zeros in front up to a given width.
-/

namespace Sqlwright.Text

/-- The digits of a natural number in a base of at most sixteen, the highest first. -/
def digits (base n : Nat) : List Char := Nat.toDigits base n

/-- A numeral with zeros in front until it is `width` characters long. -/
def padded (width : Nat) (numeral : List Char) : List Char :=
  List.replicate (width - numeral.length) '0' ++ numeral

/-- A natural number in decimal. -/
def decimal (n : Nat) : String := String.ofList (digits 10 n)

/-- An integer in decimal, with a minus sign only in front of a negative one. -/
def signedDecimal : Int → String
  | .ofNat n => decimal n
  | .negSucc n => "-" ++ decimal (n + 1)

/-- A natural number in decimal, at least `width` digits long. -/
def paddedDecimal (width n : Nat) : String := String.ofList (padded width (digits 10 n))

/-- Bytes as pairs of lowercase hexadecimal digits. -/
def hexadecimal (bytes : List UInt8) : List Char :=
  bytes.flatMap fun byte => padded 2 (digits 16 byte.toNat)

/-- A padded numeral is at least as long as asked for. -/
theorem width_le_padded (width : Nat) (numeral : List Char) :
    width ≤ (padded width numeral).length := by
  simp only [padded, List.length_append, List.length_replicate]
  omega

/-- A numeral that is long enough is not padded. -/
theorem padded_of_le (width : Nat) (numeral : List Char) (long : width ≤ numeral.length) :
    padded width numeral = numeral := by
  simp [padded, Nat.sub_eq_zero_of_le long]

end Sqlwright.Text
