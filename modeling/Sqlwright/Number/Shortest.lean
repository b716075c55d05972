import Sqlwright.Number.Binary64
import Sqlwright.Text.Numeral

/-!
# The shortest decimal of a floating point number

The reals that round to a finite number form an interval around it: up to half the
distance to each neighbour, ends included when the significand is even. Below a power
of two the neighbour is half as far away.

For one digit, two digits and so on the two multiples of the matching power of ten
that enclose the number are tried. The first count of digits with a multiple in the
interval wins; of two multiples the nearer is taken, and the larger one on a tie.
All comparisons are between natural numbers.
-/

namespace Sqlwright.Binary64

/-- A positive number and the interval that rounds to it, as fractions over one
denominator. -/
structure Surroundings where
  low : Nat
  value : Nat
  high : Nat
  denominator : Nat
  closed : Bool
deriving Repr

/-- The surroundings of a finite number other than zero. -/
def surroundings (x : Binary64) : Surroundings :=
  let below := if x.fractionField = 0 ∧ 1 < x.exponentField then 1 else 2
  let power := x.scale - 2
  let factor := 1 <<< power.toNat
  { low := (4 * x.significand - below) * factor
    value := 4 * x.significand * factor
    high := (4 * x.significand + 2) * factor
    denominator := 1 <<< (-power).toNat
    closed := x.significand % 2 == 0 }

namespace Surroundings

/-- The least `k` with the value below `10 ^ k`. -/
def decimalExponent (s : Surroundings) : Int :=
  if s.denominator ≤ s.value then (Text.digits 10 (s.value / s.denominator)).length
  else
    match (List.range 400).find? fun j => s.denominator ≤ s.value * Nat.pow 10 (j + 1) with
    | some j => -j
    | none => 0

/-- Whether `multiple` times `step` lies in the interval, everything scaled by `factor`. -/
def holds (s : Surroundings) (factor step multiple : Nat) : Bool :=
  if s.closed then s.low * factor ≤ multiple * step && multiple * step ≤ s.high * factor
  else s.low * factor < multiple * step && multiple * step < s.high * factor

/-- The multiple of `10 ^ exponent` that stands for the value, if one of its two
neighbours among them lies in the interval. -/
def nearest? (s : Surroundings) (exponent : Int) : Option Nat :=
  let factor := Nat.pow 10 (-exponent).toNat
  let step := s.denominator * Nat.pow 10 exponent.toNat
  let lower := s.value * factor / step
  let upper := lower + 1
  match s.holds factor step lower, s.holds factor step upper with
  | true, true =>
    if s.value * factor - lower * step < upper * step - s.value * factor then some lower
    else some upper
  | true, false => some lower
  | false, true => some upper
  | false, false => none

end Surroundings

/-- A decimal `digits * 10 ^ exponent`. -/
structure Decimal where
  digits : Nat
  exponent : Int
deriving DecidableEq, Repr

/-- The same decimal without zeros at the end of its digits, as far as the fuel goes. -/
def Decimal.trimmed : Nat → Decimal → Decimal
  | 0, d => d
  | fuel + 1, d =>
    if d.digits ≠ 0 ∧ d.digits % 10 = 0 then
      Decimal.trimmed fuel ⟨d.digits / 10, d.exponent + 1⟩
    else d

/-- The shortest decimal that rounds to a finite number, its sign left aside. Seventeen
digits always suffice. -/
def shortest (x : Binary64) : Decimal :=
  if x.significand = 0 then ⟨0, 0⟩
  else
    let s := x.surroundings
    let top := s.decimalExponent
    let found := (List.range 17).findSome? fun used =>
      let exponent := top - (used + 1 : Nat)
      (s.nearest? exponent).map fun multiple => (⟨multiple, exponent⟩ : Decimal)
    (found.getD ⟨0, 0⟩).trimmed 18

/-- A decimal in positional notation, without exponent and without a trailing point. -/
def Decimal.positional (d : Decimal) : List Char :=
  let ds := Text.digits 10 d.digits
  if 0 ≤ d.exponent then ds ++ List.replicate d.exponent.toNat '0'
  else
    let places := (-d.exponent).toNat
    let filled := Text.padded (places + 1) ds
    filled.take (filled.length - places) ++ '.' :: filled.drop (filled.length - places)

/-- Numbers are written positionally with the fewest digits that read back; the sign of
zero is kept, and values that are not finite have names. -/
def text (x : Binary64) : String :=
  if x.isNaN then "NaN"
  else
    let sign := if x.negative then ['-'] else []
    let body := if x.isFinite then x.shortest.positional else ['i', 'n', 'f']
    String.ofList (sign ++ body)

end Sqlwright.Binary64
