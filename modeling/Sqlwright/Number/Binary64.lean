/-!
# Binary floating point numbers of 64 bits

A number is the word of its IEEE 754 encoding, so two encodings of one value stay
apart. Numbers are ordered by rank: the word without its sign, negated when the sign
is set. The two zeros share rank zero, the infinities are the extremes, and a number
that is not a number has no place in the order.

Integers enter by rounding to the nearest number, to the even one on a tie, and
numbers of 32 bits enter exactly.
-/

namespace Sqlwright

/-- The 64 bits of a floating point number. -/
structure Binary64 where
  bits : BitVec 64
deriving DecidableEq, Repr

namespace Binary64

/-- The sign bit. -/
def negative (x : Binary64) : Bool := 1 <<< 63 ≤ x.bits.toNat

/-- The word without its sign. -/
def magnitude (x : Binary64) : Nat := x.bits.toNat % 1 <<< 63

/-- The eleven bits of the exponent. -/
def exponentField (x : Binary64) : Nat := x.magnitude >>> 52

/-- The fifty-two bits of the fraction. -/
def fractionField (x : Binary64) : Nat := x.magnitude % 1 <<< 52

/-- The exponent is below all ones. -/
def isFinite (x : Binary64) : Bool := x.exponentField < 2047

/-- All ones in the exponent and a fraction. -/
def isNaN (x : Binary64) : Bool := x.exponentField == 2047 && x.fractionField != 0

/-- A finite number is `significand * 2 ^ scale`, up to its sign. -/
def significand (x : Binary64) : Nat :=
  if x.exponentField = 0 then x.fractionField else 1 <<< 52 + x.fractionField

/-- The power of two that the significand counts. -/
def scale (x : Binary64) : Int :=
  if x.exponentField = 0 then -1074 else (x.exponentField : Int) - 1075

/-- The place of a number in the order. -/
def rank (x : Binary64) : Int :=
  if x.negative then -(x.magnitude : Int) else x.magnitude

/-- The order of two numbers; none when one of them is not a number. -/
def compare? (x y : Binary64) : Option Ordering :=
  if x.isNaN || y.isNaN then none else some (compare x.rank y.rank)

/-- Numeric equality: the zeros are equal, and what is not a number equals nothing. -/
def equal (x y : Binary64) : Bool := x.compare? y == some .eq

/-- `n / 2 ^ places` as the nearest integer, the even one on a tie. -/
def roundShift (n places : Nat) : Nat :=
  let quotient := n >>> places
  let unit := 1 <<< places
  let remainder := n % unit
  if 2 * remainder > unit ∨ (2 * remainder = unit ∧ quotient % 2 = 1) then quotient + 1
  else quotient

/-- The word of a positive integer. A significand that rounds up to the next power of
two carries into the exponent, which is the encoding of that power. -/
def wordOfNat (n : Nat) : Nat :=
  let top := Nat.log2 n
  let significand := if top ≤ 52 then n <<< (52 - top) else roundShift n (top - 52)
  (top + 1022) <<< 52 + significand

/-- The number nearest to an integer of 64 bits. -/
def ofInt64 (n : Int64) : Binary64 :=
  if n = 0 then ⟨0⟩
  else ⟨BitVec.ofNat 64 (wordOfNat n.toInt.natAbs + if n < 0 then 1 <<< 63 else 0)⟩

/-- The number with the value of 32 encoded bits. What is not a number stays none, and
becomes quiet. -/
def ofSingle (word : BitVec 32) : Binary64 :=
  let sign := word.toNat >>> 31 <<< 63
  let exponent := word.toNat >>> 23 % 256
  let fraction := word.toNat % 1 <<< 23
  let magnitude :=
    if exponent = 255 then
      2047 <<< 52 + (if fraction = 0 then 0 else fraction <<< 29 ||| 1 <<< 51)
    else if exponent = 0 then
      if fraction = 0 then 0
      else
        let top := Nat.log2 fraction
        (top + 873) <<< 52 + fraction <<< (52 - top)
    else (exponent + 896) <<< 52 + fraction <<< 29
  ⟨BitVec.ofNat 64 (sign + magnitude)⟩

/-- Comparing the other way round gives the opposite order. -/
theorem compare?_swap (x y : Binary64) : y.compare? x = (x.compare? y).map Ordering.swap := by
  unfold compare?
  rw [Bool.or_comm]
  split
  · rfl
  · simp only [Option.map_some, Option.some.injEq]
    exact @Std.OrientedCmp.eq_swap Int compare _ y.rank x.rank

end Binary64
end Sqlwright
