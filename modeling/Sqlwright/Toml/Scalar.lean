import Sqlwright.Data.Calendar
import Sqlwright.Toml.Text
import Sqlwright.Toml.Tree

/-!
# Words of TOML

A value that is neither quoted nor bracketed is a word: a truth value, a number, or a
moment. Numbers may have single underscores between their digits. Whole numbers need to
fit into 128 bits, and a number with a fraction or an exponent must not be too large for
a floating point number of 64 bits.
-/

namespace Sqlwright.Toml

/-- Digits of a class with single underscores between them, as the digits alone. -/
def grouped? (isDigit : Char → Bool) : List Char → Option (List Char)
  | [] => none
  | [c] => if isDigit c then some [c] else none
  | c :: '_' :: rest =>
    if isDigit c then (grouped? isDigit rest).map (c :: ·) else none
  | c :: rest => if isDigit c then (grouped? isDigit rest).map (c :: ·) else none

/-- The value of digits in a base. -/
def valueOf (base : Nat) (digits : List Char) : Nat :=
  digits.foldl (fun value c => base * value + (hexDigit? c).getD 0) 0

/-- Digits of an octal numeral. -/
def isOctal (c : Char) : Bool := '0' ≤ c && c ≤ '7'

/-- Digits of a binary numeral. -/
def isBinary (c : Char) : Bool := c == '0' || c == '1'

/-- The digits of a decimal numeral. Only zero itself starts with a zero. -/
def decimalDigits? (word : List Char) : Option (List Char) :=
  (grouped? Char.isDigit word).filter fun digits => digits.length == 1 || digits.head? != some '0'

/-- A word without its sign, and whether the sign is a minus. -/
def signed : List Char → Bool × List Char
  | '-' :: rest => (true, rest)
  | '+' :: rest => (false, rest)
  | word => (false, word)

/-- A whole number. Other bases have no sign. -/
def integer? (word : List Char) : Option Int :=
  match word with
  | '0' :: 'x' :: rest =>
    (grouped? (fun c => (hexDigit? c).isSome) rest).map fun digits => (valueOf 16 digits : Nat)
  | '0' :: 'o' :: rest => (grouped? isOctal rest).map fun digits => (valueOf 8 digits : Nat)
  | '0' :: 'b' :: rest => (grouped? isBinary rest).map fun digits => (valueOf 2 digits : Nat)
  | _ =>
    let (negative, body) := signed word
    (decimalDigits? body).map fun digits =>
      if negative then -(valueOf 10 digits : Int) else (valueOf 10 digits : Int)

/-- Whether a whole number fits into 128 bits, with or without a sign. -/
def fits (n : Int) : Bool := -(1 <<< 127 : Nat) ≤ n && n < (1 <<< 128 : Nat)

/-- An exponent: a sign and digits, which may start with zeros. -/
def exponent? (word : List Char) : Option Int :=
  let (negative, body) := signed word
  (grouped? Char.isDigit body).map fun digits =>
    if negative then -(valueOf 10 digits : Int) else (valueOf 10 digits : Int)

/-- Whether `mantissa * 10 ^ exponent` rounds to infinity. -/
def overflows (mantissa : Nat) (exponent : Int) : Bool :=
  if mantissa = 0 then false
  else
    let places : Int := (Nat.toDigits 10 mantissa).length
    if places + exponent ≤ 308 then false
    else if 310 ≤ places + exponent then true
    else
      (1 <<< 1024 - 1 <<< 970) * Nat.pow 10 (-exponent).toNat
        ≤ mantissa * Nat.pow 10 exponent.toNat

/-- The word as a number with a fraction or an exponent: its digits and the power of ten
that they count. -/
def fraction? (word : List Char) : Option (Nat × Int) := do
  let body := (signed word).2
  let mantissa := body.takeWhile fun c => c != 'e' && c != 'E'
  let power := (body.dropWhile fun c => c != 'e' && c != 'E').drop 1
  let whole ← decimalDigits? (mantissa.takeWhile (· != '.'))
  let places ← match mantissa.dropWhile (· != '.') with
    | [] => some []
    | _ :: places => grouped? Char.isDigit places
  let exponent ← if mantissa.length = body.length then some 0 else exponent? power
  if places.isEmpty && mantissa.length = body.length then none
  else some (valueOf 10 (whole ++ places), exponent - places.length)

/-- Whether a word names an infinity or what is not a number. -/
def isSpecialReal (word : List Char) : Bool :=
  let body := (signed word).2
  body == ['i', 'n', 'f'] || body == ['n', 'a', 'n']

/-- The value of two digits. -/
def twoDigits? (a b : Char) : Option Nat :=
  if a.isDigit && b.isDigit then some (valueOf 10 [a, b]) else none

/-- Whether a text is the offset of a time zone. -/
def isOffset : List Char → Bool
  | ['Z'] | ['z'] => true
  | [sign, a, b, ':', c, d] =>
    (sign == '+' || sign == '-') && (twoDigits? a b).any (· < 24) && (twoDigits? c d).any (· < 60)
  | _ => false

/-- Whether a text is a time of day, perhaps with a zone. Seconds may be left out, and
there may be a leap second. -/
def isTime (zoned : Bool) : List Char → Bool
  | a :: b :: ':' :: c :: d :: rest =>
    (twoDigits? a b).any (· < 24) && (twoDigits? c d).any (· < 60) &&
      match rest with
      | ':' :: e :: f :: rest =>
        (twoDigits? e f).any (· ≤ 60) &&
          match rest with
          | '.' :: rest =>
            !(rest.takeWhile Char.isDigit).isEmpty && isEnd (rest.dropWhile Char.isDigit)
          | rest => isEnd rest
      | rest => isEnd rest
  | _ => false
where
  /-- What may follow a time: nothing, or its zone. -/
  isEnd (rest : List Char) : Bool := rest.isEmpty || (zoned && isOffset rest)

/-- Whether a text of ten characters is a date. -/
def isDate : List Char → Bool
  | [a, b, c, d, '-', e, f, '-', g, h] =>
    match twoDigits? a b, twoDigits? c d, twoDigits? e f, twoDigits? g h with
    | some century, some year, some month, some day =>
      1 ≤ day && day ≤ monthLength (100 * century + year : Nat) month
    | _, _, _, _ => false
  | _ => false

/-- Whether a word is a date, a time, or both with a `T` or a blank between them. -/
def isMoment (word : List Char) : Bool :=
  isTime false word ||
    (isDate (word.take 10) &&
      match word.drop 10 with
      | [] => true
      | separator :: time =>
        (separator == 'T' || separator == 't' || separator == ' ') && isTime true time)

/-- The value of a word. -/
def scalar? (word : List Char) : Option Value :=
  if word = ['t', 'r', 'u', 'e'] then some (.boolean true)
  else if word = ['f', 'a', 'l', 's', 'e'] then some (.boolean false)
  else if isMoment word then some (.moment (String.ofList word))
  else match integer? word with
    | some n => if fits n then some (.integer n) else none
    | none =>
      if isSpecialReal word then some (.real (String.ofList word))
      else match fraction? word with
        | some (mantissa, exponent) =>
          if overflows mantissa exponent then none else some (.real (String.ofList word))
        | none => none

/-- Characters of words. -/
def isWordChar (c : Char) : Bool :=
  c.isAlphanum || c == '_' || c == '-' || c == '+' || c == '.' || c == ':'

/-- The word at the start of a text, and what follows it. A time that follows a date after
one blank belongs to it. -/
def word (text : List Char) : List Char × List Char :=
  let first := text.takeWhile isWordChar
  let rest := text.dropWhile isWordChar
  match rest with
  | ' ' :: a :: b :: ':' :: more =>
    if isDate first && a.isDigit && b.isDigit then
      (first ++ ' ' :: a :: b :: ':' :: more.takeWhile isWordChar, more.dropWhile isWordChar)
    else (first, rest)
  | _ => (first, rest)

end Sqlwright.Toml
