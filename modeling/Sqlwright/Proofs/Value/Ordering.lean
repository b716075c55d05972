import Sqlwright.Proofs.Number.Rounding
import Sqlwright.Value

/-!
# How consistent the order of values is

Within a kind, floating point numbers included, values are compared by an order in the strict sense.
Between an integer and a floating point number the integer is rounded first. So the order is the one
of the exact values but for one thing: an integer may be compared as equal with a number that it is
only rounded to.

Integers that are rounded to the same number are blurred by it. They differ among themselves, and
each is compared as equal with that number. There, and nowhere else, the order fails to be
transitive.
-/

namespace Sqlwright

open Extended (rational strictMono_rational)

/-- The outcome of a comparison is less or equal. -/
def Ascending (order : Option Ordering) : Prop := order = some .lt ∨ order = some .eq

theorem ascending_some (order : Ordering) : Ascending (some order) ↔ order.isLE = true := by
  cases order <;> simp [Ascending]

/-- What is learned of the first and the last of three values that ascend: these ascend too, and
they are equal only if all three are. -/
def Chained (first second outer : Option Ordering) : Prop :=
  Ascending outer ∧ (outer = some .eq → first = some .eq ∧ second = some .eq)

/-- Orders in the strict sense chain. -/
theorem chained_of_transCmp {α : Type} {cmp : α → α → Ordering} [Std.TransCmp cmp] {a b c : α}
    (first : Ascending (some (cmp a b))) (second : Ascending (some (cmp b c))) :
    Chained (some (cmp a b)) (some (cmp b c)) (some (cmp a c)) := by
  rw [ascending_some] at first second
  refine ⟨(ascending_some _).mpr (Std.TransCmp.isLE_trans first second), fun same => ?_⟩
  have back : (cmp c a).isLE = true := by
    rw [Std.OrientedCmp.eq_symm (Option.some.inj same)]
    rfl
  have secondBack : (cmp b a).isLE = true := Std.TransCmp.isLE_trans second back
  have thirdBack : (cmp c b).isLE = true := Std.TransCmp.isLE_trans back first
  exact ⟨congrArg some (Std.OrientedCmp.isLE_antisymm first secondBack),
    congrArg some (Std.OrientedCmp.isLE_antisymm second thirdBack)⟩

instance : Std.TransCmp Date.compare :=
  inferInstanceAs (Std.TransCmp (compareLex (compareOn Date.year)
    (compareLex (compareOn Date.month) (compareOn Date.day))))

instance : Std.TransCmp TimeOfDay.compare :=
  inferInstanceAs (Std.TransCmp (compareLex (compareOn TimeOfDay.hour)
    (compareLex (compareOn TimeOfDay.minute)
      (compareLex (compareOn TimeOfDay.second) (compareOn TimeOfDay.nanosecond)))))

instance : Std.TransCmp Timestamp.compare :=
  let _ : Ord Date := ⟨Date.compare⟩
  let _ : Ord TimeOfDay := ⟨TimeOfDay.compare⟩
  have _ : Std.TransOrd Date := inferInstanceAs (Std.TransCmp Date.compare)
  have _ : Std.TransOrd TimeOfDay := inferInstanceAs (Std.TransCmp TimeOfDay.compare)
  inferInstanceAs (Std.TransCmp (compareLex (compareOn Timestamp.date) (compareOn Timestamp.time)))

instance : Std.TransCmp Uuid.compare :=
  inferInstanceAs (Std.TransCmp (compareOn fun u : Uuid => u.bits.toNat))

section

variable {a b : Int}

theorem ascending_int : Ascending (some (compare a b)) ↔ a ≤ b := by
  rw [ascending_some, Std.isLE_compare]

theorem equal_int : some (compare a b) = some .eq ↔ a = b := by
  rw [Option.some.injEq, Std.compare_eq_iff_eq]

end

namespace Binary64

variable {x y z : Binary64}

/-- Only numbers are compared, and they are compared by rank. -/
theorem compare?_eq_some_iff {order : Ordering} :
    x.compare? y = some order ↔
      x.isNaN = false ∧ y.isNaN = false ∧ compare x.rank y.rank = order := by
  cases left : x.isNaN <;> cases right : y.isNaN <;> simp [compare?, left, right]

theorem ascending_iff :
    Ascending (x.compare? y) ↔ x.isNaN = false ∧ y.isNaN = false ∧ x.rank ≤ y.rank := by
  rw [Ascending, compare?_eq_some_iff, compare?_eq_some_iff, ← and_or_left, ← and_or_left,
    ← ascending_int, Ascending, Option.some.injEq, Option.some.injEq]

theorem equal_iff :
    x.compare? y = some .eq ↔ x.isNaN = false ∧ y.isNaN = false ∧ x.rank = y.rank := by
  rw [compare?_eq_some_iff, Std.compare_eq_iff_eq]

/-- Floating point numbers chain. -/
theorem chained (first : Ascending (x.compare? y)) (second : Ascending (y.compare? z)) :
    Chained (x.compare? y) (y.compare? z) (x.compare? z) := by
  obtain ⟨left, middle, low⟩ := ascending_iff.mp first
  obtain ⟨-, right, high⟩ := ascending_iff.mp second
  refine ⟨ascending_iff.mpr ⟨left, right, low.trans high⟩, fun same => ?_⟩
  have ends := (equal_iff.mp same).2.2
  exact ⟨equal_iff.mpr ⟨left, middle, by omega⟩, equal_iff.mpr ⟨middle, right, by omega⟩⟩

theorem isNaN_ofInt64 (n : Int64) : (ofInt64 n).isNaN = false :=
  isNaN_of_isFinite (nearest_ofInt64 n).finite

end Binary64

namespace Value

/-- The exact value of a number. -/
def number? : Value → Option Extended
  | .int n => some (rational n.toInt)
  | .float x => x.number?
  | _ => none

/-- The integer is rounded to the number, whatever the sign of a zero. -/
def Rounds (n : Int64) (x : Binary64) : Prop := x.number? = (Binary64.ofInt64 n).number?

/-- An integer and a floating point number that it is rounded to without being equal to it. -/
inductive Confused : Value → Value → Prop
  | left {n : Int64} {x : Binary64} (rounds : Rounds n x)
    (inexact : x.number? ≠ some (rational n.toInt)) : Confused (.int n) (.float x)
  | right {n : Int64} {x : Binary64} (rounds : Rounds n x)
    (inexact : x.number? ≠ some (rational n.toInt)) : Confused (.float x) (.int n)

/-- Two integers that differ and a number that both are rounded to, in an order in which this is
noticed: the integers stand next to each other, or they descend from one side of the number to the
other. -/
inductive Blurred : Value → Value → Value → Prop
  | before {m n : Int64} {x : Binary64} (less : m.toInt < n.toInt) (left : Rounds m x)
    (right : Rounds n x) : Blurred (.int m) (.int n) (.float x)
  | behind {m n : Int64} {x : Binary64} (less : m.toInt < n.toInt) (left : Rounds m x)
    (right : Rounds n x) : Blurred (.float x) (.int m) (.int n)
  | around {m n : Int64} {x : Binary64} (more : n.toInt < m.toInt) (left : Rounds m x)
    (right : Rounds n x) : Blurred (.int m) (.float x) (.int n)

/-- The pairs of values that may have an order. -/
inductive Comparable : Value → Value → Prop
  | null : Comparable .null .null
  | bool (a b : Bool) : Comparable (.bool a) (.bool b)
  | int (m n : Int64) : Comparable (.int m) (.int n)
  | float (x y : Binary64) : Comparable (.float x) (.float y)
  | intFloat (n : Int64) (x : Binary64) : Comparable (.int n) (.float x)
  | floatInt (x : Binary64) (n : Int64) : Comparable (.float x) (.int n)
  | text (s t : String) : Comparable (.text s) (.text t)
  | bytes (a b : List UInt8) : Comparable (.bytes a) (.bytes b)
  | timestamp (t u : Timestamp) : Comparable (.timestamp t) (.timestamp u)
  | date (d e : Date) : Comparable (.date d) (.date e)
  | uuid (u v : Uuid) : Comparable (.uuid u) (.uuid v)

theorem comparable_of_isSome {a b : Value} (ordered : (a.compare? b).isSome = true) :
    Comparable a b := by
  cases a <;> cases b <;> first | constructor | cases ordered

theorem isSome_of_ascending {order : Option Ordering} (ascending : Ascending order) :
    order.isSome = true := by
  rcases ascending with less | equal
  · rw [less]
    rfl
  · rw [equal]
    rfl

section

variable {m n : Int64} {x : Binary64}

/-- An integer equals the numbers that it is rounded to. -/
theorem int_float_equal_iff : (Value.int n).compare? (.float x) = some .eq ↔ Rounds n x := by
  have finite := (Binary64.nearest_ofInt64 n).number?
  have compared : (Value.int n).compare? (.float x) =
      Option.map₂ cmp (Binary64.ofInt64 n).number? x.number? := Binary64.compare?_eq_cmp _ x
  rw [compared, Rounds, finite]
  cases x.number? with
  | none => exact iff_of_false nofun nofun
  | some v =>
    rw [Option.map₂_some_some, Option.some.injEq, Option.some.injEq, cmp_eq_eq_iff, eq_comm]

theorem float_int_equal_iff : (Value.float x).compare? (.int n) = some .eq ↔ Rounds n x := by
  rw [← int_float_equal_iff, compare?_swap (.int n), Option.map_eq_some_iff]
  constructor
  · rintro ⟨order, ordered, equal⟩
    rw [ordered, Ordering.swap_eq_eq.mp equal]
  · intro equal
    exact ⟨.eq, equal, rfl⟩

/-- Two integers and a number at least as high: they chain if the integers are one, or if the first
is not compared as equal with the number. -/
theorem chained_before (first : Ascending ((Value.int m).compare? (.int n)))
    (second : Ascending ((Value.int n).compare? (.float x))) :
    Chained ((Value.int m).compare? (.int n)) ((Value.int n).compare? (.float x))
      ((Value.int m).compare? (.float x)) ↔ ¬ Blurred (.int m) (.int n) (.float x) := by
  have le : m.toInt ≤ n.toInt := ascending_int.mp first
  have rounded := Binary64.rank_ofInt64_le le
  obtain ⟨-, number, below⟩ := Binary64.ascending_iff.mp second
  have ascending : Ascending ((Value.int m).compare? (.float x)) :=
    Binary64.ascending_iff.mpr ⟨Binary64.isNaN_ofInt64 m, number, rounded.trans below⟩
  constructor
  · rintro ⟨-, unequal⟩ blurred
    cases blurred with
    | before less left right =>
      have same : m.toInt = n.toInt := equal_int.mp (unequal (int_float_equal_iff.mpr left)).1
      omega
  · intro clear
    refine ⟨ascending, fun left => ?_⟩
    have reached := (Binary64.equal_iff.mp left).2.2
    have right : (Value.int n).compare? (.float x) = some .eq :=
      Binary64.equal_iff.mpr ⟨Binary64.isNaN_ofInt64 n, number, by omega⟩
    have same : ¬ m.toInt < n.toInt := fun less =>
      clear (.before less (int_float_equal_iff.mp left) (int_float_equal_iff.mp right))
    exact ⟨equal_int.mpr (by omega), right⟩

/-- The same with the number at the lower end. -/
theorem chained_behind (first : Ascending ((Value.float x).compare? (.int m)))
    (second : Ascending ((Value.int m).compare? (.int n))) :
    Chained ((Value.float x).compare? (.int m)) ((Value.int m).compare? (.int n))
      ((Value.float x).compare? (.int n)) ↔ ¬ Blurred (.float x) (.int m) (.int n) := by
  have le : m.toInt ≤ n.toInt := ascending_int.mp second
  have rounded := Binary64.rank_ofInt64_le le
  obtain ⟨number, -, below⟩ := Binary64.ascending_iff.mp first
  have ascending : Ascending ((Value.float x).compare? (.int n)) :=
    Binary64.ascending_iff.mpr ⟨number, Binary64.isNaN_ofInt64 n, below.trans rounded⟩
  constructor
  · rintro ⟨-, unequal⟩ blurred
    cases blurred with
    | behind less left right =>
      have same : m.toInt = n.toInt := equal_int.mp (unequal (float_int_equal_iff.mpr right)).2
      omega
  · intro clear
    refine ⟨ascending, fun right => ?_⟩
    have reached := (Binary64.equal_iff.mp right).2.2
    have left : (Value.float x).compare? (.int m) = some .eq :=
      Binary64.equal_iff.mpr ⟨number, Binary64.isNaN_ofInt64 m, by omega⟩
    have same : ¬ m.toInt < n.toInt := fun less =>
      clear (.behind less (float_int_equal_iff.mp left) (float_int_equal_iff.mp right))
    exact ⟨left, equal_int.mpr (by omega)⟩

/-- With the number in the middle the integers chain if they ascend themselves. -/
theorem chained_around (first : Ascending ((Value.int m).compare? (.float x)))
    (second : Ascending ((Value.float x).compare? (.int n))) :
    Chained ((Value.int m).compare? (.float x)) ((Value.float x).compare? (.int n))
      ((Value.int m).compare? (.int n)) ↔ ¬ Blurred (.int m) (.float x) (.int n) := by
  obtain ⟨-, number, low⟩ := Binary64.ascending_iff.mp first
  obtain ⟨-, -, high⟩ := Binary64.ascending_iff.mp second
  have bothEqual : n.toInt ≤ m.toInt → (Value.int m).compare? (.float x) = some .eq ∧
      (Value.float x).compare? (.int n) = some .eq := by
    intro le
    have rounded := Binary64.rank_ofInt64_le le
    exact ⟨Binary64.equal_iff.mpr ⟨Binary64.isNaN_ofInt64 m, number, by omega⟩,
      Binary64.equal_iff.mpr ⟨number, Binary64.isNaN_ofInt64 n, by omega⟩⟩
  constructor
  · rintro ⟨ascending, -⟩ blurred
    cases blurred with
    | around more left right =>
      have le : m.toInt ≤ n.toInt := ascending_int.mp ascending
      omega
  · intro clear
    have le : m.toInt ≤ n.toInt := by
      by_contra notAtMost
      have more : n.toInt < m.toInt := not_le.mp notAtMost
      obtain ⟨left, right⟩ := bothEqual more.le
      exact clear (.around more (int_float_equal_iff.mp left) (float_int_equal_iff.mp right))
    refine ⟨ascending_int.mpr le, fun same => bothEqual (equal_int.mp same).ge⟩

end

/-- Values chain unless a floating point number blurs two integers among them. -/
theorem chained_iff {a b c : Value} (first : Ascending (a.compare? b))
    (second : Ascending (b.compare? c)) :
    Chained (a.compare? b) (b.compare? c) (a.compare? c) ↔ ¬ Blurred a b c := by
  have left := comparable_of_isSome (isSome_of_ascending first)
  have right := comparable_of_isSome (isSome_of_ascending second)
  cases left with
  | null =>
    cases right
    exact iff_of_true ⟨.inr rfl, fun _ => ⟨rfl, rfl⟩⟩ nofun
  | int m n =>
    cases right with
    | int _ o => exact iff_of_true (chained_of_transCmp first second) nofun
    | intFloat _ x => exact chained_before first second
  | float x y =>
    cases right with
    | float _ z => exact iff_of_true (Binary64.chained first second) nofun
    | floatInt _ n => exact iff_of_true (Binary64.chained first second) nofun
  | intFloat n x =>
    cases right with
    | float _ y => exact iff_of_true (Binary64.chained first second) nofun
    | floatInt _ o => exact chained_around first second
  | floatInt x n =>
    cases right with
    | int _ o => exact chained_behind first second
    | intFloat _ y => exact iff_of_true (Binary64.chained first second) nofun
  | bool | text | bytes | timestamp | date | uuid =>
    cases right
    exact iff_of_true (chained_of_transCmp first second) nofun

/-- An integer is compared with a floating point number by their exact values, unless it is only
rounded to the number. -/
theorem compare?_int_float {n : Int64} {x : Binary64} {v : Extended} (number : x.number? = some v) :
    (Value.int n).compare? (.float x) = some (cmp (rational n.toInt) v) ↔
      ¬ Confused (.int n) (.float x) := by
  by_cases rounds : Rounds n x
  · rw [int_float_equal_iff.mpr rounds, Option.some.injEq, eq_comm, cmp_eq_eq_iff]
    constructor
    · intro same confused
      cases confused with
      | left _ inexact => exact inexact (number.trans (congrArg some same.symm))
    · intro clear
      by_contra different
      refine clear (.left rounds fun same => different ?_)
      exact Option.some.inj (same.symm.trans number)
  · have nearest := Binary64.nearest_ofInt64 n
    have different : rational (Binary64.ofInt64 n).value ≠ v := by
      intro same
      rw [Rounds, number, nearest.number?, same] at rounds
      exact rounds rfl
    have compared : (Value.int n).compare? (.float x) = some (cmp (rational n.toInt) v) := by
      rw [← nearest.cmp_number number different]
      show (Binary64.ofInt64 n).compare? x = _
      rw [Binary64.compare?_eq_cmp, nearest.number?, number, Option.map₂_some_some]
    refine iff_of_true compared fun confused => ?_
    cases confused with
    | left other _ => exact rounds other

theorem confused_comm (a b : Value) : Confused a b ↔ Confused b a := by
  constructor <;> rintro (⟨rounded, inexact⟩ | ⟨rounded, inexact⟩)
  · exact .right rounded inexact
  · exact .left rounded inexact
  · exact .right rounded inexact
  · exact .left rounded inexact

/-- Numbers are compared by their exact values, unless one is an integer that is only rounded to the
other. -/
theorem compare?_eq_cmp_iff {a b : Value} {v w : Extended} (left : a.number? = some v)
    (right : b.number? = some w) :
    a.compare? b = some (cmp v w) ↔ ¬ Confused a b := by
  cases a with
  | int m =>
    cases b with
    | int n =>
      cases left
      cases right
      refine iff_of_true (congrArg some ?_) nofun
      have mono : StrictMono fun k : Int => rational k :=
        strictMono_rational.comp Int.cast_strictMono
      exact ((mono.cmp_map_eq m.toInt n.toInt).trans (cmp_eq_compare _ _)).symm
    | float x =>
      cases left
      exact compare?_int_float right
    | _ => cases right
  | float x =>
    cases b with
    | int n =>
      cases right
      have turned : (some (cmp v (rational n.toInt)) : Option Ordering) =
          (some (cmp (rational n.toInt) v)).map Ordering.swap := congrArg some (cmp_swap _ _).symm
      have injective : Function.Injective (Option.map Ordering.swap) :=
        Option.map_injective fun _ _ => Ordering.swap_inj.mp
      rw [confused_comm, ← compare?_int_float left, compare?_swap (.int n), turned,
        injective.eq_iff]
    | float y =>
      have compared : (Value.float x).compare? (.float y) = some (cmp v w) := by
        show x.compare? y = _
        rw [Binary64.compare?_eq_cmp]
        exact (congrArg₂ (Option.map₂ cmp) left right)
      exact iff_of_true compared nofun
    | _ => cases right
  | _ => cases left

/-- Every value is equal to itself, but for what is not a number. -/
theorem compare?_self_iff (a : Value) :
    a.compare? a = some .eq ↔ ∀ x, a = .float x → x.isNaN = false := by
  cases a with
  | null => exact iff_of_true rfl nofun
  | float x =>
    rw [show (Value.float x).compare? (.float x) = x.compare? x from rfl, Binary64.equal_iff]
    constructor
    · rintro ⟨number, -⟩ y same
      cases same
      exact number
    · intro number
      exact ⟨number x rfl, number x rfl, rfl⟩
  | _ => exact iff_of_true (congrArg some Std.ReflCmp.compare_self) nofun

/-- No integer of more than fifty-three bits. -/
def Short : Value → Prop
  | .int n => n.toInt.natAbs < 2 ^ 53
  | _ => True

/-- Short integers are rounded to themselves. -/
theorem number?_of_rounds {n : Int64} {x : Binary64} (short : (Value.int n).Short)
    (rounds : Rounds n x) : x.number? = some (rational n.toInt) := by
  rw [rounds, (Binary64.nearest_ofInt64 n).number?, Binary64.value_ofInt64 short]

/-- Hence they are not confused with other numbers. -/
theorem not_confused_of_short {a b : Value} (left : a.Short) (right : b.Short) :
    ¬ Confused a b := by
  intro confused
  cases confused with
  | left rounds inexact => exact inexact (number?_of_rounds left rounds)
  | right rounds inexact => exact inexact (number?_of_rounds right rounds)

/-- And no number blurs them. -/
theorem not_blurred_of_short {a b c : Value} (first : a.Short) (second : b.Short)
    (third : c.Short) : ¬ Blurred a b c := by
  have apart : ∀ {m n : Int64} {x : Binary64}, (Value.int m).Short → (Value.int n).Short →
      Rounds m x → Rounds n x → m.toInt = n.toInt := by
    intro m n x shortM shortN left right
    have values := (number?_of_rounds shortM left).symm.trans (number?_of_rounds shortN right)
    exact Int.cast_injective (strictMono_rational.injective (Option.some.inj values))
  intro blurred
  cases blurred with
  | before less left right => exact less.ne (apart first second left right)
  | behind less left right => exact less.ne (apart second third left right)
  | around more left right => exact more.ne' (apart first third left right)

/-- The order of values can be read from both sides, and every value but what is not a number equals
itself. Three values that ascend chain unless a floating point number blurs two integers among them,
and numbers are compared by their exact values unless one is an integer that is only rounded to the
other. -/
theorem compare?_consistent_unless_rounded (a b c : Value) :
    b.compare? a = (a.compare? b).map Ordering.swap ∧
      (a.compare? a = some .eq ↔ ∀ x, a = .float x → x.isNaN = false) ∧
      (Ascending (a.compare? b) → Ascending (b.compare? c) →
        (Chained (a.compare? b) (b.compare? c) (a.compare? c) ↔ ¬ Blurred a b c)) ∧
      ∀ v w, a.number? = some v → b.number? = some w →
        (a.compare? b = some (cmp v w) ↔ ¬ Confused a b) :=
  ⟨compare?_swap a b, compare?_self_iff a, chained_iff, fun _ _ => compare?_eq_cmp_iff⟩

/-- Three and a half lies between three and four, and it is compared with three by its value. -/
theorem compare?_three_and_a_half :
    let half : Binary64 := ⟨BitVec.ofNat 64 0x400c000000000000⟩
    Ascending (Value.compare? (.int 3) (.float half)) ∧
      Ascending (Value.compare? (.float half) (.int 4)) ∧
      Chained (Value.compare? (.int 3) (.float half)) (Value.compare? (.float half) (.int 4))
        (Value.compare? (.int 3) (.int 4)) ∧
      Value.compare? (.int 3) (.float half) = some (cmp (rational 3) (rational (7 / 2))) := by
  intro half
  have consistent := (compare?_consistent_unless_rounded (.int 3) (.float half) (.int 4)).2.2
  have below : Ascending (Value.compare? (.int 3) (.float half)) := .inl (by decide)
  have above : Ascending (Value.compare? (.float half) (.int 4)) := .inl (by decide)
  have three : (Value.int 3).number? = some (rational 3) := by
    rw [number?, show (3 : Int64).toInt = 3 from rfl, Int.cast_ofNat]
  have number : half.number? = some (rational (7 / 2)) := by
    have exact : half.value = 7 / 2 := by decide +kernel
    rw [Binary64.number?, if_neg (by decide), if_pos (by decide), exact]
  have shortThree : (Value.int 3).Short := by
    rw [Short]
    decide
  have shortFour : (Value.int 4).Short := by
    rw [Short]
    decide
  have clear : ¬ Blurred (.int 3) (.float half) (.int 4) :=
    not_blurred_of_short shortThree trivial shortFour
  have apart : ¬ Confused (.int 3) (.float half) := not_confused_of_short shortThree trivial
  exact ⟨below, above, (consistent.1 below above).mpr clear,
    (consistent.2 _ _ three number).mpr apart⟩

/-- The integers next to each other at fifty-three bits are blurred: the higher one is rounded to
the lower one, so it is compared as equal with the number that equals the lower one. -/
theorem compare?_not_transitive :
    let power : Binary64 := ⟨BitVec.ofNat 64 0x4340000000000000⟩
    power.number? = some (rational 9007199254740992) ∧
      Value.compare? (.int 9007199254740993) (.float power) = some .eq ∧
      Value.compare? (.float power) (.int 9007199254740992) = some .eq ∧
      Value.compare? (.int 9007199254740993) (.int 9007199254740992) = some .gt := by
  intro power
  have exact : power.value = 9007199254740992 := by decide +kernel
  refine ⟨?_, by decide, by decide, by decide⟩
  rw [Binary64.number?, if_neg (by decide), if_pos (by decide), exact]

end Value
end Sqlwright
