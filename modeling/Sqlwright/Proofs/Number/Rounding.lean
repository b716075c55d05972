import Sqlwright.Proofs.Number.Ranking

/-!
# Integers rounded to floating point numbers

An integer of 64 bits becomes the floating point number nearest to it. Where two are equally near,
it becomes the one with the even significand.

Floating point numbers grow coarser with their size: from a power of two on they are the multiples
of a fixed unit. An integer of more than fifty-three bits is divided by this unit and the quotient
is rounded. No multiple of the unit is nearer than the result, and all numbers below the power of
two are farther away.
-/

namespace Sqlwright.Binary64

/-- Rounding a quotient leaves it or takes the next one, by the remainder. On a tie the result is
even. -/
theorem roundShift_cases (n places : Nat) :
    (roundShift n places = n / 2 ^ places ∧ 2 * (n % 2 ^ places) ≤ 2 ^ places ∨
      roundShift n places = n / 2 ^ places + 1 ∧ 2 ^ places ≤ 2 * (n % 2 ^ places)) ∧
    (2 * (n % 2 ^ places) = 2 ^ places → roundShift n places % 2 = 0) := by
  simp only [roundShift, Nat.shiftRight_eq_div_pow, Nat.one_shiftLeft]
  split <;> omega

/-- A whole number of units lies as far from a remainder as from the nearer end of its unit, or
farther. It is one of the ends, or it is farther away by a unit. -/
theorem distance_of_multiple {unit rest : Int} (apart : Int) (positive : 0 ≤ rest)
    (inside : rest < unit) :
    (apart = 0 ∧ |apart * unit - rest| = rest) ∨
      (apart = 1 ∧ |apart * unit - rest| = unit - rest) ∨
      (apart ≠ 0 ∧ apart ≠ 1 ∧
        (unit + rest ≤ |apart * unit - rest| ∨ unit + (unit - rest) ≤ |apart * unit - rest|)) := by
  rcases lt_trichotomy apart 0 with before | rfl | behind
  · have product : apart * unit ≤ -1 * unit :=
      mul_le_mul_of_nonneg_right (by omega) (by omega)
    rw [abs_of_nonpos (by omega)]
    omega
  · rw [zero_mul, zero_sub, abs_neg, abs_of_nonneg positive]
    exact .inl ⟨rfl, rfl⟩
  · rcases (Int.add_one_le_of_lt behind).eq_or_lt with one | more
    · obtain rfl : apart = 1 := by omega
      rw [one_mul, abs_of_nonneg (by omega)]
      exact .inr (.inl ⟨rfl, rfl⟩)
    · have product : 2 * unit ≤ apart * unit :=
        mul_le_mul_of_nonneg_right (by omega) (by omega)
      rw [abs_of_nonneg (by omega)]
      omega

/-- No multiple is nearer than the rounded one. If another is as near, the rounded one is even. -/
theorem roundShift_near (n places : Nat) (multiple : Int) :
    |(roundShift n places : Int) * 2 ^ places - n| ≤ |multiple * 2 ^ places - n| ∧
    (|multiple * 2 ^ places - n| = |(roundShift n places : Int) * 2 ^ places - n| →
      multiple = roundShift n places ∨ roundShift n places % 2 = 0) := by
  obtain ⟨rounded, tie⟩ := roundShift_cases n places
  have divided : 2 ^ places * (n / 2 ^ places) + n % 2 ^ places = n := Nat.div_add_mod n _
  have remainder : n % 2 ^ places < 2 ^ places := Nat.mod_lt n (Nat.two_pow_pos places)
  have unit : ((2 ^ places : Nat) : Int) = 2 ^ places := by push_cast; rfl
  generalize n / 2 ^ places = quotient at rounded divided
  generalize n % 2 ^ places = rest at rounded tie divided remainder
  have distance : ∀ other : Int,
      other * 2 ^ places - n = (other - quotient) * 2 ^ places - rest := by
    intro other
    rw [← divided]
    push_cast
    ring
  rw [distance, distance]
  have inside : (rest : Int) < 2 ^ places := by omega
  have ofMultiple := distance_of_multiple (multiple - quotient) (Int.natCast_nonneg rest) inside
  have ofRounded :=
    distance_of_multiple (roundShift n places - quotient) (Int.natCast_nonneg rest) inside
  generalize |(multiple - quotient) * 2 ^ places - (rest : Int)| = far at ofMultiple ⊢
  generalize |((roundShift n places : Int) - quotient) * 2 ^ places - (rest : Int)| = near
    at ofRounded ⊢
  omega

/-- The integer that a positive integer is rounded to. -/
def rounded (n : Nat) : Nat :=
  if n.log2 ≤ 52 then n else roundShift n (n.log2 - 52) * 2 ^ (n.log2 - 52)

/-- The significand that a positive integer is given. -/
def roundedSignificand (n : Nat) : Nat :=
  if n.log2 ≤ 52 then n * 2 ^ (52 - n.log2) else roundShift n (n.log2 - 52)

theorem wordOfNat_eq (n : Nat) :
    wordOfNat n = (n.log2 + 1022) * 2 ^ 52 + roundedSignificand n := by
  simp only [wordOfNat, roundedSignificand, Nat.shiftLeft_eq]

/-- The significand has its leading bit, or it has been rounded up to the next power of two. -/
theorem roundedSignificand_mem_Icc {n : Nat} (positive : 0 < n) :
    roundedSignificand n ∈ Set.Icc (2 ^ 52) (2 ^ 53) := by
  have low : 2 ^ n.log2 ≤ n := Nat.log2_self_le positive.ne'
  have high : n < 2 ^ (n.log2 + 1) := Nat.lt_log2_self
  rw [roundedSignificand]
  split
  · rename_i few
    have lowered : 2 ^ n.log2 * 2 ^ (52 - n.log2) = 2 ^ 52 := by
      rw [← pow_add, Nat.add_sub_cancel' few]
    constructor
    · rw [← lowered]
      exact Nat.mul_le_mul_right _ low
    · have raised : 2 ^ (n.log2 + 1) * 2 ^ (52 - n.log2) = 2 ^ 53 := by
        rw [pow_succ, Nat.mul_right_comm, lowered, ← pow_succ]
      rw [← raised]
      exact Nat.mul_le_mul_right _ high.le
  · rename_i many
    have places : n.log2 = 52 + (n.log2 - 52) := by omega
    have least : 2 ^ 52 ≤ n / 2 ^ (n.log2 - 52) := by
      rw [Nat.le_div_iff_mul_le (Nat.two_pow_pos _), ← pow_add, ← places]
      exact low
    have most : n / 2 ^ (n.log2 - 52) < 2 ^ 53 := by
      rw [Nat.div_lt_iff_lt_mul (Nat.two_pow_pos _), ← pow_add]
      have raised : 53 + (n.log2 - 52) = n.log2 + 1 := by omega
      rw [raised]
      exact high
    have result := (roundShift_cases n (n.log2 - 52)).1
    constructor <;> omega

/-- The word of a positive integer has the value of the rounded integer. -/
theorem units_wordOfNat {n : Nat} (positive : 0 < n) :
    units (wordOfNat n) = rounded n * 2 ^ 1074 := by
  obtain ⟨normal, bounded⟩ := roundedSignificand_mem_Icc positive
  rw [wordOfNat_eq, units_normal _ normal bounded, roundedSignificand, rounded]
  split
  · rename_i few
    have places : 52 - n.log2 + (n.log2 + 1022) = 1074 := by omega
    rw [Nat.mul_assoc, ← pow_add, places]
  · rename_i many
    have places : n.log2 + 1022 = n.log2 - 52 + 1074 := by omega
    rw [places, pow_add, Nat.mul_assoc]

/-- An integer of 64 bits is far from the infinities. -/
theorem wordOfNat_lt_beyond {n : Nat} (positive : 0 < n) (inside : n < 2 ^ 64) :
    (wordOfNat n : Int) < beyond := by
  obtain ⟨_, bounded⟩ := roundedSignificand_mem_Icc positive
  have few : n.log2 < 64 := (Nat.log2_lt positive.ne').mpr inside
  rw [wordOfNat_eq, beyond]
  omega

/-- From a power of two on all values are multiples of the same unit. -/
theorem units_coarse (word places : Nat) :
    units word < 2 ^ (52 + places) ∨ 2 ^ places ∣ units word := by
  rcases subnormal_or_normal word with small | ⟨exponent, significand, rfl, normal, inside⟩
  · left
    rw [units_subnormal small]
    exact small.trans_le (Nat.pow_le_pow_right two_pos (Nat.le_add_right 52 places))
  · rw [units_normal exponent normal inside.le]
    by_cases fine : exponent < places
    · left
      calc significand * 2 ^ exponent
          < 2 ^ 53 * 2 ^ exponent := Nat.mul_lt_mul_of_pos_right inside (Nat.two_pow_pos exponent)
        _ = 2 ^ (53 + exponent) := (pow_add 2 53 exponent).symm
        _ ≤ 2 ^ (52 + places) := Nat.pow_le_pow_right two_pos (by omega)
    · right
      exact Dvd.dvd.mul_left (pow_dvd_pow 2 (Nat.not_lt.mp fine)) significand

/-- So every value is a multiple of the unit, or it is below the power of two. -/
theorem placed_coarse (place : Int) (places : Nat) :
    placed place < 2 ^ 52 * 2 ^ places ∨
      ∃ multiple : Int, placed place = multiple * 2 ^ places := by
  have steps : (0 : ℚ) < 2 ^ 1074 := by positivity
  obtain ⟨word, rfl | rfl⟩ := Int.eq_nat_or_neg place
  · rw [placed_natCast, div_lt_iff₀ steps]
    rcases units_coarse word (places + 1074) with below | ⟨multiple, whole⟩
    · left
      have rational : (units word : ℚ) < (2 ^ (52 + (places + 1074)) : Nat) := Nat.cast_lt.mpr below
      rwa [Nat.cast_pow, Nat.cast_ofNat, pow_add, pow_add, ← mul_assoc] at rational
    · right
      refine ⟨multiple, ?_⟩
      rw [whole, div_eq_iff steps.ne', Nat.cast_mul, Nat.cast_pow, Nat.cast_ofNat, pow_add,
        Int.cast_natCast, mul_comm, mul_assoc]
  · left
    rw [placed_neg, placed_natCast]
    have nonnegative : (0 : ℚ) ≤ units word / 2 ^ 1074 := div_nonneg (Nat.cast_nonneg _) steps.le
    have positive : (0 : ℚ) < 2 ^ 52 * 2 ^ places := by positivity
    exact (neg_nonpos.mpr nonnegative).trans_lt positive

/-- No place has a value nearer to a positive integer than the rounded one. If another value is as
near, the significand is even. -/
theorem rounded_near {n : Nat} (positive : 0 < n) (place : Int) :
    |(rounded n : ℚ) - n| ≤ |placed place - n| ∧
    (|placed place - n| = |(rounded n : ℚ) - n| →
      placed place = rounded n ∨ roundedSignificand n % 2 = 0) := by
  rw [rounded, roundedSignificand]
  split
  · rw [sub_self, abs_zero]
    refine ⟨abs_nonneg _, fun exact => .inl ?_⟩
    exact sub_eq_zero.mp (abs_eq_zero.mp exact)
  · rename_i many
    have low : 2 ^ 52 * 2 ^ (n.log2 - 52) ≤ n := by
      have places : 52 + (n.log2 - 52) = n.log2 := by omega
      rw [← pow_add, places]
      exact Nat.log2_self_le positive.ne'
    generalize n.log2 - 52 = places at low
    have near : ∀ multiple : Int,
        |((roundShift n places * 2 ^ places : Nat) : ℚ) - n| ≤
          |(multiple : ℚ) * 2 ^ places - n| := by
      intro multiple
      exact_mod_cast (roundShift_near n places multiple).1
    rcases placed_coarse place places with below | ⟨multiple, whole⟩
    · -- The power of two is itself a multiple of the unit, and the value lies beyond it.
      have power := near (2 ^ 52 : Nat)
      have lowRational : (2 : ℚ) ^ 52 * 2 ^ places ≤ n := by exact_mod_cast low
      have farther : |((2 ^ 52 : Nat) : ℚ) * 2 ^ places - n| < |placed place - n| := by
        rw [Nat.cast_pow, Nat.cast_ofNat, abs_of_nonpos (sub_nonpos.mpr lowRational),
          abs_of_nonpos (by linarith only [below, lowRational])]
        linarith only [below]
      have strict := power.trans_lt farther
      exact ⟨strict.le, fun same => absurd same strict.ne'⟩
    · rw [whole]
      refine ⟨near multiple, fun same => ?_⟩
      have whole : |multiple * 2 ^ places - (n : Int)| =
          |(roundShift n places : Int) * 2 ^ places - n| := by exact_mod_cast same
      rcases (roundShift_near n places multiple).2 whole with rfl | even
      · left
        push_cast
        rfl
      · exact .inr even

/-- The number is one that the integer can be rounded to: none is nearer, and where another is as
near, its significand is even. -/
structure Nearest (n : Int) (x : Binary64) : Prop where
  finite : x.isFinite = true
  near : ∀ y : Binary64, y.isFinite = true → |x.value - n| ≤ |y.value - n|
  even : ∀ y : Binary64, y.isFinite = true → |y.value - n| = |x.value - n| →
    y.value = x.value ∨ x.significand % 2 = 0

/-- The last bit of a word is that of the significand. -/
theorem significand_mod_two (x : Binary64) : x.significand % 2 = x.magnitude % 2 := by
  have fraction : x.fractionField = x.magnitude % 2 ^ 52 := rfl
  rw [significand, fraction]
  split <;> omega

/-- The word of a positive integer stands for the rounded integer. -/
theorem placed_wordOfNat {n : Nat} (positive : 0 < n) : placed (wordOfNat n) = rounded n := by
  have steps : (2 : ℚ) ^ 1074 ≠ 0 := pow_ne_zero _ two_ne_zero
  rw [placed_natCast, units_wordOfNat positive, Nat.cast_mul, Nat.cast_pow, Nat.cast_ofNat,
    mul_div_cancel_right₀ _ steps]

/-- A number with a sign in front, if there is one. -/
def signed (negative : Bool) (n : Int) : Int := if negative then -n else n

@[simp] theorem signed_false (n : Int) : signed false n = n := rfl

@[simp] theorem signed_true (n : Int) : signed true n = -n := rfl

theorem signed_signed (negative : Bool) (n : Int) : signed negative (signed negative n) = n := by
  cases negative <;> simp

/-- The place of the word of a positive integer, with a sign, is that of the rounded integer. -/
theorem placed_signed_word {n : Nat} (positive : 0 < n) (negative : Bool) :
    placed (signed negative (wordOfNat n)) = signed negative (rounded n) := by
  cases negative
  · rw [signed_false, signed_false, placed_wordOfNat positive, Int.cast_natCast]
  · rw [signed_true, signed_true, placed_neg, placed_wordOfNat positive, Int.cast_neg,
      Int.cast_natCast]

theorem rank_of_word {x : Binary64} {n : Nat} (word : x.magnitude = wordOfNat n) :
    x.rank = signed x.negative (wordOfNat n) := by
  rw [← word, rank, signed]

/-- A sign in front of both does not change a distance. -/
theorem distance_signed (negative : Bool) (place n : Int) :
    |placed (signed negative place) - signed negative n| = |placed place - n| := by
  cases negative
  · rw [signed_false, signed_false]
  · rw [signed_true, signed_true, placed_neg, Int.cast_neg, neg_sub_neg, abs_sub_comm]

theorem natAbs_pos_of_ne_zero {n : Int64} (nonzero : n ≠ 0) : 0 < n.toInt.natAbs := by
  rw [Int.natAbs_pos]
  intro zero
  exact nonzero (Int64.toInt_inj.mp zero)

/-- An integer that is not zero keeps its sign and is given the word of its size. -/
theorem ofInt64_fields {n : Int64} (nonzero : n ≠ 0) :
    (ofInt64 n).magnitude = wordOfNat n.toInt.natAbs ∧
      signed (ofInt64 n).negative n.toInt.natAbs = n.toInt ∧
      (wordOfNat n.toInt.natAbs : Int) < beyond := by
  have positive := natAbs_pos_of_ne_zero nonzero
  have inside : n.toInt.natAbs < 2 ^ 64 := by
    have low := n.le_toInt
    have high := n.toInt_lt
    omega
  have bound := wordOfNat_lt_beyond positive inside
  have small : wordOfNat n.toInt.natAbs < 2 ^ 63 := by
    rw [beyond] at bound
    omega
  have bits : (ofInt64 n).bits.toNat =
      wordOfNat n.toInt.natAbs + if n < 0 then 2 ^ 63 else 0 := by
    rw [ofInt64, if_neg nonzero, BitVec.toNat_ofNat, Nat.one_shiftLeft]
    split <;> omega
  refine ⟨?_, ?_, bound⟩
  · rw [magnitude, bits, Nat.one_shiftLeft]
    split <;> omega
  · rw [negative, bits, Nat.one_shiftLeft, signed]
    simp only [Int64.lt_iff_toInt_lt, Int64.toInt_zero, decide_eq_true_eq]
    split <;> split <;> omega

/-- The word of a positive integer, with a sign, is the nearest number to the integer with it. -/
theorem nearest_of_word {x : Binary64} {n : Nat} (positive : 0 < n)
    (word : x.magnitude = wordOfNat n) (bound : (wordOfNat n : Int) < beyond) :
    Nearest (signed x.negative n) x := by
  have own := rank_of_word word
  have near := rounded_near positive
  rw [← placed_wordOfNat positive] at near
  have distance : ∀ y : Binary64,
      |y.value - signed x.negative n| = |placed (signed x.negative y.rank) - (n : Int)| := by
    intro y
    rw [← distance_signed x.negative, signed_signed, value_eq_placed]
  constructor
  case finite =>
    rw [isFinite_iff, word]
    exact bound
  case near =>
    intro y _
    rw [distance, distance, own, signed_signed]
    exact (near _).1
  case even =>
    intro y _ same
    rw [distance, distance, own, signed_signed] at same
    refine ((near _).2 same).imp (fun equal => ?_) fun even => ?_
    · have places := strictMono_placed.injective equal
      rw [value_eq_placed, value_eq_placed, own, ← places, signed_signed]
    · rw [significand_mod_two, word, wordOfNat_eq]
      omega

/-- An integer of 64 bits becomes the nearest number, the even one on a tie. -/
theorem nearest_ofInt64 (n : Int64) : Nearest n.toInt (ofInt64 n) := by
  by_cases zero : n = 0
  · subst zero
    have exact : (ofInt64 0).value = ((0 : Int64).toInt : ℚ) := by decide +kernel
    refine ⟨by decide, fun y _ => ?_, fun y _ same => .inl ?_⟩
    · rw [exact, sub_self, abs_zero]
      exact abs_nonneg _
    · rw [exact, sub_self, abs_zero, abs_eq_zero, sub_eq_zero] at same
      rw [same, exact]
  · obtain ⟨word, whole, bound⟩ := ofInt64_fields zero
    have nearest := nearest_of_word (natAbs_pos_of_ne_zero zero) word bound
    rwa [whole] at nearest

open Extended (rational strictMono_rational)

section

variable {n : Int} {x y : Binary64}

/-- A number above the nearest one is above the integer. -/
theorem Nearest.lt_value (nearest : Nearest n x) (finite : y.isFinite = true)
    (less : x.value < y.value) : (n : ℚ) < y.value := by
  by_contra notAbove
  have below : y.value ≤ n := not_lt.mp notAbove
  have near := nearest.near y finite
  rw [abs_of_nonpos (by linarith only [below, less]), abs_of_nonpos (by linarith only [below])]
    at near
  linarith only [near, less]

/-- And one below it is below the integer. -/
theorem Nearest.value_lt (nearest : Nearest n x) (finite : y.isFinite = true)
    (less : y.value < x.value) : y.value < n := by
  by_contra notBelow
  have above : n ≤ y.value := not_lt.mp notBelow
  have near := nearest.near y finite
  rw [abs_of_nonneg (by linarith only [above, less]), abs_of_nonneg (by linarith only [above])]
    at near
  linarith only [near, less]

theorem isNaN_of_isFinite (finite : x.isFinite = true) : x.isNaN = false := by
  rw [isFinite_iff] at finite
  rw [Bool.eq_false_iff, ne_eq, isNaN_iff]
  omega

theorem Nearest.number? (nearest : Nearest n x) : x.number? = some (rational x.value) := by
  rw [Binary64.number?, isNaN_of_isFinite nearest.finite, if_neg Bool.false_ne_true,
    if_pos nearest.finite]

/-- What has a value is finite or an infinity. -/
theorem number?_cases {v : Extended} (number : y.number? = some v) :
    y.isFinite = true ∧ v = rational y.value ∨ v = ⊥ ∨ v = ⊤ := by
  rw [Binary64.number?] at number
  split at number
  · cases number
  split at number
  · rename_i finite
    exact .inl ⟨finite, (Option.some.inj number).symm⟩
  split at number
  · exact .inr (.inl (Option.some.inj number).symm)
  · exact .inr (.inr (Option.some.inj number).symm)

/-- The nearest number is compared with others like the integer, unless it equals the other. -/
theorem Nearest.cmp_number {v : Extended} (nearest : Nearest n x) (number : y.number? = some v)
    (different : rational x.value ≠ v) : cmp (rational x.value) v = cmp (rational n) v := by
  have belowTop : ∀ q : ℚ, rational q < ⊤ := fun q => WithBot.coe_lt_coe.mpr (WithTop.coe_lt_top q)
  have aboveBottom : ∀ q : ℚ, ⊥ < rational q := fun q => WithBot.bot_lt_coe _
  rcases number?_cases number with ⟨finite, rfl⟩ | rfl | rfl
  · rw [strictMono_rational.cmp_map_eq, strictMono_rational.cmp_map_eq]
    rcases lt_trichotomy x.value y.value with less | same | more
    · rw [less.cmp_eq_lt, (nearest.lt_value finite less).cmp_eq_lt]
    · exact absurd (congrArg rational same) different
    · rw [more.cmp_eq_gt, (nearest.value_lt finite more).cmp_eq_gt]
  · rw [(aboveBottom _).cmp_eq_gt, (aboveBottom _).cmp_eq_gt]
  · rw [(belowTop _).cmp_eq_lt, (belowTop _).cmp_eq_lt]

end

/-- The rounded integers are in the order of the integers. -/
theorem rank_ofInt64_le {m n : Int64} (le : m.toInt ≤ n.toInt) :
    (ofInt64 m).rank ≤ (ofInt64 n).rank := by
  rcases le.eq_or_lt with same | less
  · rw [Int64.toInt_inj.mp same]
  · rw [← strictMono_placed.le_iff_le, ← value_eq_placed, ← value_eq_placed]
    by_contra notAtMost
    have crossed := not_le.mp notAtMost
    have left := nearest_ofInt64 m
    have right := nearest_ofInt64 n
    have farM := left.near _ right.finite
    have farN := right.near _ left.finite
    have between := left.value_lt right.finite crossed
    have beside := right.lt_value left.finite crossed
    have apart : (m.toInt : ℚ) < n.toInt := Int.cast_lt.mpr less
    rw [abs_of_nonneg (by linarith only [beside, apart]),
      abs_of_nonpos (by linarith only [between])] at farM
    rw [abs_of_nonpos (by linarith only [between, apart]),
      abs_of_nonneg (by linarith only [beside])] at farN
    linarith only [farM, farN, apart]

/-- An integer of at most fifty-three bits is not changed. -/
theorem value_ofInt64 {n : Int64} (few : n.toInt.natAbs < 2 ^ 53) :
    (ofInt64 n).value = n.toInt := by
  by_cases zero : n = 0
  · rw [zero]
    decide +kernel
  · obtain ⟨word, whole, -⟩ := ofInt64_fields zero
    have positive := natAbs_pos_of_ne_zero zero
    have exact : rounded n.toInt.natAbs = n.toInt.natAbs := by
      have short : n.toInt.natAbs.log2 < 53 := (Nat.log2_lt positive.ne').mpr few
      exact if_pos (by omega)
    rw [value_eq_placed, rank_of_word word, placed_signed_word positive, exact, whole]

end Sqlwright.Binary64
