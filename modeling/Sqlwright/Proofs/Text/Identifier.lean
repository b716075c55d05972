import Sqlwright.Text.Letter
import Sqlwright.Text.Numeral

/-!
# Words of identifier characters

Letters and digits of any script and the underscore make up the names that need no quotes. A
reader takes the longest run of them; a word of such characters is taken whole, if something
else follows it.
-/

namespace Sqlwright.Text

/-- A letter, a digit or an underscore. -/
def isIdentifierChar (c : Char) : Bool := isAlphanumeric c || c == '_'

/-- Whether a text consists of letters, digits and underscores. -/
def isWord (text : String) : Bool := text.toList.all isIdentifierChar

/-- The decimal digits are identifier characters. -/
theorem isIdentifierChar_of_isDigit {c : Char} (digit : c.isDigit = true) :
    isIdentifierChar c = true := by
  have everyDigit : ∀ n < 58, 48 ≤ n → within alphanumericBoundaries n = true := by decide
  obtain ⟨low, high⟩ := Char.isDigit_iff_toNat.mp digit
  have alphanumeric : isAlphanumeric c = true := everyDigit c.toNat (Nat.lt_succ_of_le high) low
  simp [isIdentifierChar, alphanumeric]

/-- A decimal numeral consists of digits. -/
theorem isDigit_of_mem_decimal {n : Nat} {c : Char} (member : c ∈ (decimal n).toList) :
    c.isDigit = true := by
  rw [decimal, String.toList_ofList] at member
  exact Nat.isDigit_of_mem_toDigits (by decide) (Nat.le_refl 10) member

section

variable {α : Type} {continues : α → Bool} {text rest : List α}

/-- A text of one class is the longest run of it, if what follows is of another. -/
theorem takeWhile_run (inside : ∀ c ∈ text, continues c = true)
    (ended : ∀ c ∈ rest.head?, continues c = false) :
    (text ++ rest).takeWhile continues = text := by
  rw [List.takeWhile_append_of_pos inside]
  cases rest with
  | nil => simp
  | cons c rest => simp [ended c rfl]

/-- And the run ends there. -/
theorem dropWhile_run (inside : ∀ c ∈ text, continues c = true)
    (ended : ∀ c ∈ rest.head?, continues c = false) :
    (text ++ rest).dropWhile continues = rest := by
  rw [List.dropWhile_append_of_pos inside]
  cases rest with
  | nil => rfl
  | cons c rest => simp [ended c rfl]

end

end Sqlwright.Text
