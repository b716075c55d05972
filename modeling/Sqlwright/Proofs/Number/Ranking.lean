import Mathlib
import Sqlwright.Number.Binary64

/-!
# Ranks and exact values

The rank of a floating point number orders it among the others without a look at its value. Here it
is shown to be the order of the values: every finite number has a rational value, by its significand
and its scale, and the infinities lie beyond all of them.

What carries this is that the word without its sign grows with the value. From one word to the next
the fraction grows by one, or it starts again from zero while the exponent grows by one.
-/

namespace Sqlwright

/-- The rational numbers and two infinities. -/
abbrev Extended : Type := WithBot (WithTop ℚ)

/-- A rational number among these. -/
def Extended.rational (q : ℚ) : Extended := ((q : WithTop ℚ) : WithBot (WithTop ℚ))

theorem Extended.strictMono_rational : StrictMono rational := fun _ _ less =>
  WithBot.coe_lt_coe.mpr (WithTop.coe_lt_coe.mpr less)

namespace Binary64

open Extended (rational strictMono_rational)

/-- The value of a word without sign, counted in steps of the smallest positive number. -/
def units (word : Nat) : Nat :=
  if word / 2 ^ 52 = 0 then word % 2 ^ 52
  else (2 ^ 52 + word % 2 ^ 52) * 2 ^ (word / 2 ^ 52 - 1)

/-- Within the first exponent the steps are those of the word. -/
theorem units_subnormal {word : Nat} (small : word < 2 ^ 52) : units word = word := by
  rw [units, if_pos (Nat.div_eq_of_lt small), Nat.mod_eq_of_lt small]

/-- Each further exponent doubles the steps. A significand that has reached the next power of two
stands for that power under the next exponent. -/
theorem units_normal (exponent : Nat) {significand : Nat} (normal : 2 ^ 52 ≤ significand)
    (bounded : significand ≤ 2 ^ 53) :
    units (exponent * 2 ^ 52 + significand) = significand * 2 ^ exponent := by
  rcases bounded.lt_or_eq with inside | rfl
  · have field : (exponent * 2 ^ 52 + significand) / 2 ^ 52 = exponent + 1 := by omega
    have fraction : 2 ^ 52 + (exponent * 2 ^ 52 + significand) % 2 ^ 52 = significand := by omega
    rw [units, field, if_neg (Nat.succ_ne_zero exponent), fraction, Nat.add_sub_cancel]
  · have field : (exponent * 2 ^ 52 + 2 ^ 53) / 2 ^ 52 = exponent + 2 := by omega
    have fraction : (exponent * 2 ^ 52 + 2 ^ 53) % 2 ^ 52 = 0 := by omega
    rw [units, field, if_neg (Nat.succ_ne_zero (exponent + 1)), fraction]
    show (2 ^ 52 + 0) * 2 ^ (exponent + 1) = 2 ^ 53 * 2 ^ exponent
    rw [pow_succ]
    ring

/-- Every word is of one of these two forms. -/
theorem subnormal_or_normal (word : Nat) :
    word < 2 ^ 52 ∨ ∃ exponent significand, word = exponent * 2 ^ 52 + significand ∧
      2 ^ 52 ≤ significand ∧ significand < 2 ^ 53 := by
  by_cases small : word < 2 ^ 52
  · exact .inl small
  · exact .inr ⟨word / 2 ^ 52 - 1, 2 ^ 52 + word % 2 ^ 52, by omega, by omega, by omega⟩

/-- The next word stands for more. -/
theorem units_lt_succ (word : Nat) : units word < units (word + 1) := by
  rcases subnormal_or_normal word with small | ⟨exponent, significand, rfl, normal, inside⟩
  · rw [units_subnormal small]
    rcases (Nat.succ_le_of_lt small).lt_or_eq with next | next
    · rw [units_subnormal next]
      exact Nat.lt_succ_self word
    · have carried := units_normal 0 (Nat.le_of_eq next.symm) (by omega)
      rw [Nat.zero_mul, Nat.zero_add, pow_zero, Nat.mul_one] at carried
      rw [carried]
      exact Nat.lt_succ_self word
  · rw [Nat.add_assoc, units_normal exponent normal inside.le,
      units_normal exponent (Nat.le_succ_of_le normal) inside]
    exact Nat.mul_lt_mul_of_pos_right (Nat.lt_succ_self significand) (Nat.two_pow_pos exponent)

theorem strictMono_units : StrictMono units := strictMono_nat_of_lt_succ units_lt_succ

/-- The value at a place in the order. -/
def placed (place : Int) : ℚ := place.sign * units place.natAbs / 2 ^ 1074

theorem placed_natCast (word : Nat) : placed word = units word / 2 ^ 1074 := by
  rcases Nat.eq_zero_or_pos word with rfl | positive
  · simp [placed, units]
  · rw [placed, Int.sign_natCast_of_ne_zero positive.ne', Int.natAbs_natCast, Int.cast_one, one_mul]

theorem placed_neg (place : Int) : placed (-place) = -placed place := by
  rw [placed, placed, Int.sign_neg, Int.natAbs_neg, Int.cast_neg, neg_mul, neg_div]

/-- Places are in the order of their values. -/
theorem strictMono_placed : StrictMono placed := by
  refine strictMono_of_odd_strictMonoOn_nonneg placed_neg ?_
  intro left leftSide right rightSide less
  obtain ⟨left, rfl⟩ := Int.eq_ofNat_of_zero_le leftSide
  obtain ⟨right, rfl⟩ := Int.eq_ofNat_of_zero_le rightSide
  have words : units left < units right := strictMono_units (Int.ofNat_lt.mp less)
  have rational : (units left : ℚ) < units right := Nat.cast_lt.mpr words
  rw [placed_natCast, placed_natCast]
  exact div_lt_div_of_pos_right rational (by positivity)

/-- The value of a finite number. -/
def value (x : Binary64) : ℚ := (if x.negative then -1 else 1) * x.significand * 2 ^ x.scale

/-- Significand and scale say how many steps a word stands for. -/
theorem significand_mul_scale (x : Binary64) :
    (x.significand : ℚ) * 2 ^ x.scale = units x.magnitude / 2 ^ 1074 := by
  have field : x.exponentField = x.magnitude / 2 ^ 52 := Nat.shiftRight_eq_div_pow _ _
  have fraction : x.fractionField = x.magnitude % 2 ^ 52 := rfl
  rw [significand, scale, units, field, fraction]
  by_cases subnormal : x.magnitude / 2 ^ 52 = 0
  · rw [if_pos subnormal, if_pos subnormal, if_pos subnormal, zpow_neg, ← div_eq_mul_inv,
      zpow_ofNat]
  · rw [if_neg subnormal, if_neg subnormal, if_neg subnormal]
    have shifted : ((x.magnitude / 2 ^ 52 : Nat) : Int) - 1075 =
        ((x.magnitude / 2 ^ 52 - 1 : Nat) : Int) + -1074 := by omega
    rw [shifted, zpow_add₀ two_ne_zero, zpow_natCast, zpow_neg, ← mul_assoc, ← div_eq_mul_inv,
      zpow_ofNat]
    push_cast
    rfl

/-- The value of a number is that of its rank. -/
theorem value_eq_placed (x : Binary64) : x.value = placed x.rank := by
  rw [value, mul_assoc, significand_mul_scale, rank]
  split
  · rw [placed_neg, placed_natCast, neg_one_mul]
  · rw [placed_natCast, one_mul]

/-- The place of the positive infinity. -/
def beyond : Int := 2047 * 2 ^ 52

/-- The value of a number that may be infinite. -/
def number? (x : Binary64) : Option Extended :=
  if x.isNaN then none
  else if x.isFinite then some (rational x.value)
  else if x.negative then some ⊥
  else some ⊤

/-- The value at a place that may be that of an infinity. -/
def placedNumber (place : Int) : Extended :=
  if place ≤ -beyond then ⊥ else if beyond ≤ place then ⊤ else rational (placed place)

theorem strictMonoOn_placedNumber : StrictMonoOn placedNumber (Set.Icc (-beyond) beyond) := by
  intro left leftSide right rightSide less
  have room : -beyond < beyond := by decide
  have aboveBottom : ¬ right ≤ -beyond := not_le.mpr (leftSide.1.trans_lt less)
  have belowTop : ¬ beyond ≤ left := not_le.mpr (less.trans_le rightSide.2)
  rw [placedNumber, placedNumber, if_neg belowTop, if_neg aboveBottom]
  split <;> split
  · exact bot_lt_top
  · exact WithBot.bot_lt_coe _
  · exact WithBot.coe_lt_coe.mpr (WithTop.coe_lt_top _)
  · exact strictMono_rational (strictMono_placed less)

theorem magnitude_lt (x : Binary64) : x.magnitude < 2 ^ 63 := Nat.mod_lt _ (Nat.two_pow_pos 63)

/-- What is not a number has a word beyond the infinities. -/
theorem isNaN_iff (x : Binary64) : x.isNaN = true ↔ beyond < x.magnitude := by
  have bound := x.magnitude_lt
  have fields : x.isNaN = true ↔ x.magnitude / 2 ^ 52 = 2047 ∧ x.magnitude % 2 ^ 52 ≠ 0 := by
    simp [isNaN, exponentField, fractionField, Nat.shiftRight_eq_div_pow]
  rw [fields, beyond]
  omega

/-- A finite number has one before them. -/
theorem isFinite_iff (x : Binary64) : x.isFinite = true ↔ (x.magnitude : Int) < beyond := by
  have field : x.isFinite = true ↔ x.magnitude / 2 ^ 52 < 2047 := by
    simp [isFinite, exponentField, Nat.shiftRight_eq_div_pow]
  rw [field, beyond]
  omega

/-- The rank of a number lies between those of the infinities. -/
theorem rank_mem_Icc {x : Binary64} (number : x.isNaN = false) :
    x.rank ∈ Set.Icc (-beyond) beyond := by
  have inside : (x.magnitude : Int) ≤ beyond := by
    rw [← not_lt, ← isNaN_iff, number]
    exact Bool.false_ne_true
  rw [Set.mem_Icc, rank]
  split <;> omega

theorem number?_of_isNaN {x : Binary64} (notNumber : x.isNaN = true) : x.number? = none :=
  if_pos notNumber

/-- The value of a number is the one at its rank. -/
theorem number?_eq_placedNumber {x : Binary64} (number : x.isNaN = false) :
    x.number? = some (placedNumber x.rank) := by
  have bounds := rank_mem_Icc number
  have positive : 0 < beyond := by decide
  rw [number?, number, if_neg Bool.false_ne_true, placedNumber]
  by_cases finite : x.isFinite = true
  · have inside := (isFinite_iff x).mp finite
    have aboveBottom : ¬ x.rank ≤ -beyond := by
      rw [rank]
      split <;> omega
    have belowTop : ¬ beyond ≤ x.rank := by
      rw [rank]
      split <;> omega
    rw [if_pos finite, if_neg aboveBottom, if_neg belowTop, value_eq_placed]
  · have outside : beyond ≤ x.magnitude := by
      rw [← not_lt, ← isFinite_iff]
      exact finite
    rw [if_neg finite]
    by_cases negative : x.negative = true
    · have bottom : x.rank ≤ -beyond := by
        rw [rank, if_pos negative]
        omega
      rw [if_pos negative, if_pos bottom]
    · have top : beyond ≤ x.rank := by
        rw [rank, if_neg negative]
        exact outside
      have aboveBottom : ¬ x.rank ≤ -beyond := by omega
      rw [if_neg negative, if_neg aboveBottom, if_pos top]

/-- Numbers are compared by their values, and what has no value is not compared. -/
theorem compare?_eq_cmp (x y : Binary64) : x.compare? y = Option.map₂ cmp x.number? y.number? := by
  rw [compare?]
  by_cases left : x.isNaN = true
  · rw [number?_of_isNaN left, left, Bool.true_or, if_pos rfl, Option.map₂_none_left]
  by_cases right : y.isNaN = true
  · rw [number?_of_isNaN right, right, Bool.or_true, if_pos rfl, Option.map₂_none_right]
  rw [Bool.not_eq_true] at left right
  rw [number?_eq_placedNumber left, number?_eq_placedNumber right, Option.map₂_some_some,
    strictMonoOn_placedNumber.cmp_map_eq (rank_mem_Icc left) (rank_mem_Icc right), left, right]
  exact congrArg some (cmp_eq_compare x.rank y.rank).symm

end Binary64
end Sqlwright
