import Mathlib.Algebra.Group.Nat.Defs
import Sqlwright.Proofs.Text.Identifier

/-!
# Reading numerals

A number is read from the longest run of decimal digits, however many zeros stand in front of it.
A format may ask for a certain count of digits, and may want a sign in front of others. Bytes are
read from pairs of hexadecimal digits of either case.

What is written with a width is as long as the width, unless the number needs more digits.
-/

namespace Sqlwright.Text

/-- The number with which a text begins, and what follows its digits. Their count must be
admitted. -/
def number? (admitted : Nat → Bool) (text : List Char) : Option (Nat × List Char) :=
  if admitted (text.takeWhile Char.isDigit).length then
    some (Nat.ofDigitChars 10 (text.takeWhile Char.isDigit) 0, text.dropWhile Char.isDigit)
  else none

/-- The same with a sign in front. A number that has one may be admitted with other counts of
digits. -/
def signedNumber? (unsigned signed : Nat → Bool) : List Char → Option (Int × List Char)
  | '-' :: rest => (number? signed rest).map fun (n, after) => (-(n : Int), after)
  | '+' :: rest => (number? signed rest).map fun (n, after) => ((n : Int), after)
  | text => (number? unsigned text).map fun (n, after) => ((n : Int), after)

/-- The value of a hexadecimal digit. -/
def nibble? (c : Char) : Option Nat :=
  if '0' ≤ c ∧ c ≤ '9' then some (c.toNat - '0'.toNat)
  else if 'a' ≤ c ∧ c ≤ 'f' then some (c.toNat - 'a'.toNat + 10)
  else if 'A' ≤ c ∧ c ≤ 'F' then some (c.toNat - 'A'.toNat + 10)
  else none

/-- The bytes that pairs of hexadecimal digits stand for. -/
def octets? : List Char → Option (List UInt8)
  | [] => some []
  | [_] => none
  | high :: low :: rest => do
    let sixteens ← nibble? high
    let ones ← nibble? low
    let others ← octets? rest
    return UInt8.ofNat (16 * sixteens + ones) :: others

section

variable {n width : Nat} {c : Char} {rest : List Char} {admitted : Nat → Bool}

/-- A padded numeral consists of digits. -/
theorem isDigit_of_mem_padded (member : c ∈ padded width (digits 10 n)) : c.isDigit = true := by
  rcases List.mem_append.mp member with zero | digit
  · rw [List.eq_of_mem_replicate zero]
    decide
  · exact Nat.isDigit_of_mem_toDigits (by decide) (Nat.le_refl 10) digit

/-- Zeros in front do not change a number. -/
theorem ofDigitChars_padded (width n : Nat) :
    Nat.ofDigitChars 10 (padded width (digits 10 n)) 0 = n := by
  rw [padded, Nat.ofDigitChars_append, Nat.ofDigitChars_replicate_zero, Nat.mul_zero, digits]
  exact Nat.ofDigitChars_toDigits (by decide) (Nat.le_refl 10)

/-- A padded number is read back, unless a digit follows it. -/
theorem number?_padded (fits : admitted (padded width (digits 10 n)).length = true)
    (ends : ∀ c ∈ rest.head?, c.isDigit = false) :
    number? admitted ((paddedDecimal width n).toList ++ rest) = some (n, rest) := by
  have inside : ∀ c ∈ padded width (digits 10 n), c.isDigit = true :=
    fun c member => isDigit_of_mem_padded member
  rw [paddedDecimal, String.toList_ofList, number?, takeWhile_run inside ends,
    dropWhile_run inside ends, if_pos fits, ofDigitChars_padded]

/-- A number of a least width is read back, however large it is. -/
theorem number?_least (width n : Nat) (ends : ∀ c ∈ rest.head?, c.isDigit = false) :
    number? (width ≤ ·) ((paddedDecimal width n).toList ++ rest) = some (n, rest) := by
  apply number?_padded
  · exact decide_eq_true (width_le_padded width (digits 10 n))
  · exact ends

variable {unsigned signed : Nat → Bool}

/-- Behind a sign, the reader of signs goes on with the number. -/
theorem signedNumber?_minus (numeral : String) :
    signedNumber? unsigned signed (("-" ++ numeral).toList ++ rest) =
      (number? signed (numeral.toList ++ rest)).map fun (n, after) => (-(n : Int), after) := by
  simp [signedNumber?]

/-- A padded number begins with neither of the signs. -/
theorem signedNumber?_unsigned :
    signedNumber? unsigned signed ((paddedDecimal width n).toList ++ rest) =
      (number? unsigned ((paddedDecimal width n).toList ++ rest)).map
        fun (n, after) => ((n : Int), after) := by
  rw [paddedDecimal, String.toList_ofList]
  have inside : ∀ c ∈ padded width (digits 10 n), c.isDigit = true :=
    fun c member => isDigit_of_mem_padded member
  cases written : padded width (digits 10 n) with
  | nil =>
    have filled : padded width (digits 10 n) ≠ [] := by simp [padded, digits, Nat.toDigits_ne_nil]
    exact absurd written filled
  | cons c others =>
    have digit : c.isDigit = true := inside c (written ▸ List.mem_cons_self)
    have noMinus : c ≠ '-' := by rintro rfl; cases digit
    have noPlus : c ≠ '+' := by rintro rfl; cases digit
    rw [List.cons_append, signedNumber?]
    · intro text same
      exact noMinus (List.cons.inj same).1
    · intro text same
      exact noPlus (List.cons.inj same).1

/-- An integer is read back from its decimal numeral. -/
theorem signedNumber?_signedDecimal (n : Int) (ends : ∀ c ∈ rest.head?, c.isDigit = false) :
    signedNumber? (1 ≤ ·) (1 ≤ ·) ((signedDecimal n).toList ++ rest) = some (n, rest) := by
  have plain (n : Nat) : decimal n = paddedDecimal 1 n := by
    have long : 1 ≤ (digits 10 n).length := List.length_pos_iff.mpr Nat.toDigits_ne_nil
    rw [decimal, paddedDecimal, padded_of_le 1 _ long]
  cases n with
  | ofNat n =>
    rw [signedDecimal, plain, signedNumber?_unsigned, number?_least 1 n ends]
    rfl
  | negSucc n =>
    rw [signedDecimal, plain, signedNumber?_minus, number?_least 1 (n + 1) ends]
    rfl

/-- What stands in a decimal numeral of an integer. -/
theorem mem_signedDecimal {n : Int} (member : c ∈ (signedDecimal n).toList) :
    c.isDigit = true ∨ c = '-' := by
  cases n with
  | ofNat n => exact .inl (isDigit_of_mem_decimal member)
  | negSucc n =>
    rw [signedDecimal, String.toList_append] at member
    rcases List.mem_append.mp member with sign | digit
    · exact .inr (List.mem_singleton.mp sign)
    · exact .inl (isDigit_of_mem_decimal digit)

/-- A byte is written as the digit of its sixteens and that of its ones. -/
theorem padded_digits_byte (small : n < 256) :
    padded 2 (digits 16 n) = [Nat.digitChar (n / 16), Nat.digitChar (n % 16)] := by
  by_cases single : n < 16
  · have noSixteens : n / 16 = 0 := by omega
    have ones : n % 16 = n := by omega
    rw [digits, Nat.toDigits_of_lt_base single, noSixteens, ones]
    rfl
  · have high : n / 16 < 16 := by omega
    rw [digits, Nat.toDigits_of_base_le (by decide) (by omega), Nat.toDigits_of_lt_base high]
    rfl

/-- What stands in the numeral of bytes. -/
theorem mem_hexadecimal {bytes : List UInt8} (member : c ∈ hexadecimal bytes) :
    ∃ d < 16, c = Nat.digitChar d := by
  obtain ⟨byte, _, inside⟩ := List.mem_flatMap.mp member
  rw [padded_digits_byte byte.toNat_lt] at inside
  have bound := byte.toNat_lt
  simp only [List.mem_cons, List.not_mem_nil, or_false] at inside
  rcases inside with high | low
  · exact ⟨byte.toNat / 16, by omega, high⟩
  · exact ⟨byte.toNat % 16, by omega, low⟩

/-- Bytes are read back from their digits, in whatever case these are spelled. All that matters
is that each of the sixteen digits is read as itself. -/
theorem octets?_hexadecimal {spelled : Char → Char}
    (read : ∀ d < 16, nibble? (spelled (Nat.digitChar d)) = some d) (bytes : List UInt8) :
    octets? ((hexadecimal bytes).map spelled) = some bytes := by
  induction bytes with
  | nil => rfl
  | cons byte bytes inductionHypothesis =>
    have bound := byte.toNat_lt
    have high := read (byte.toNat / 16) (by omega)
    have low := read (byte.toNat % 16) (by omega)
    have whole : 16 * (byte.toNat / 16) + byte.toNat % 16 = byte.toNat := Nat.div_add_mod _ _
    have written : (hexadecimal (byte :: bytes)).map spelled =
        spelled (Nat.digitChar (byte.toNat / 16)) ::
          spelled (Nat.digitChar (byte.toNat % 16)) :: (hexadecimal bytes).map spelled := by
      simp [hexadecimal, padded_digits_byte bound]
    rw [written, octets?, high, low, inductionHypothesis]
    change some (UInt8.ofNat (16 * (byte.toNat / 16) + byte.toNat % 16) :: bytes) = _
    rw [whole, UInt8.ofNat_toNat]

end

end Sqlwright.Text
