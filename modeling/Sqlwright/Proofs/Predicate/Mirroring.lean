import Sqlwright.Proofs.Predicate.Simplifying

/-!
# Comparisons written the other way round

A constant on the left of a comparison changes sides before anything is written, and the sign is
flipped with it. What stands on the other side is compiled alike in both places, as a constant
alone binds nothing and cannot fail. So the two ways to write such a comparison are the same step.

Two constants are compared at once. Their order read from the other side is the opposite one, which
the flipped sign expects. Where they cannot be compared, both ways fail for the same reason, each
naming the sign and the constants in its own order.
-/

namespace Sqlwright

namespace PredicateError

/-- The kinds of causes, without what their messages need. -/
inductive Kind where
  | unknownField
  | nonBooleanPredicate
  | nullOrdering
  | incomparableConstants
  | markerTarget
  | spliceArgument
  | unsupportedOperand
deriving DecidableEq, Repr

/-- The kind of a cause. -/
def kind : PredicateError → Kind
  | .unknownField _ _ => .unknownField
  | .nonBooleanPredicate _ => .nonBooleanPredicate
  | .nullOrdering _ => .nullOrdering
  | .incomparableConstants _ _ => .incomparableConstants
  | .markerTarget _ => .markerTarget
  | .spliceArgument _ _ => .spliceArgument
  | .unsupportedOperand _ => .unsupportedOperand

/-- The cause when the comparison is written the other way round. -/
def mirrored : PredicateError → PredicateError
  | .nullOrdering sign => .nullOrdering sign.flipped
  | .incomparableConstants left right => .incomparableConstants right left
  | error => error

theorem kind_mirrored (error : PredicateError) : error.mirrored.kind = error.kind := by
  cases error <;> rfl

end PredicateError

namespace Compiling

variable {dialect : Dialect} {table : Table} {sign : Sql.Comparison}

/-- Two constants compare alike from both sides, or fail alike. -/
theorem folded_flipped (sign : Sql.Comparison) (left right : Value) :
    folded sign.flipped right left = (folded sign left right).mapError PredicateError.mirrored := by
  unfold folded
  by_cases unknown : (left.isNull || right.isNull) = true
  · have also : (right.isNull || left.isNull) = true := by rwa [Bool.or_comm]
    rw [if_pos unknown, if_pos also, Bool.and_comm]
    cases sign <;> rfl
  · have also : ¬ (right.isNull || left.isNull) = true := by rwa [Bool.or_comm]
    rw [if_neg unknown, if_neg also, Value.compare?_swap left right]
    cases left.compare? right with
    | none => rfl
    | some order => exact congrArg Except.ok (sign.holds_flipped order)

/-- Constants that are no NULL and have an order compare by it. -/
theorem folded_of_compare? (sign : Sql.Comparison) {left right : Value} {order : Ordering}
    (known : left.isNull = false) (knownToo : right.isNull = false)
    (ordered : left.compare? right = some order) :
    folded sign left right = .ok (sign.holds order) := by
  simp [folded, known, knownToo, ordered]

/-- A comparison with a constant is the same whichever side the constant stands on. -/
theorem compared_constant_left {operand : Operand} (noConst : operand.const? = none)
    (sign : Sql.Comparison) (value : Value) :
    compared sign (.constant value) operand = compared sign.flipped operand (.constant value) := by
  cases operand with
  | constant other => cases noConst
  | column column => rfl
  | raw fragment => rfl

/-- Nothing is bound for a constant before it is compared, so it does not matter whether it comes
first. -/
theorem outcome_compare_const_left {expr : Expr} (noConst : expr.const? = none)
    (value : Value) (params : ParamSet) :
    outcome (condition dialect table (.compare sign (.const value) expr)) params =
      outcome (condition dialect table (.compare sign.flipped expr (.const value))) params := by
  have left : condition dialect table (.compare sign (.const value) expr) =
      operand table expr >>= fun found => compared sign (.constant value) found := rfl
  have right : condition dialect table (.compare sign.flipped expr (.const value)) =
      operand table expr >>= fun found => compared sign.flipped found (.constant value) := rfl
  rw [left, right, outcome_bind, outcome_bind]
  rcases begun : outcome (operand table expr) params with ⟨error | found, later⟩
  · rfl
  · have stillNone : found.const? = none := (const?_operand begun).trans noConst
    dsimp only
    rw [compared_constant_left stillNone]

/-- Two constants bind nothing, whether they fold or fail. -/
theorem compile_constants (sign : Sql.Comparison) (left right : Value) (params : ParamSet) :
    compile dialect table (.compare sign (.const left) (.const right)) params =
      ((folded sign left right).map .literal, params) := by
  have step : condition dialect table (.compare sign (.const left) (.const right)) =
      compared sign (.constant left) (.constant right) := rfl
  rw [compile_eq_outcome, step, outcome_bind, compared]
  cases folded sign left right <;> rfl

end Compiling

open Compiling in
/-- A comparison of a constant with something else is compiled to the same predicate, or fails with
the same error, whichever way round it is written, and the parameters are the same afterwards. Two
constants fold to the same truth value both ways, or fail both ways with errors of one kind. If they
are not NULL and have an order, what they fold to is whether the sign holds of it. -/
theorem comparison_reads_both_ways (dialect : Dialect) (table : Table) (sign : Sql.Comparison)
    (value : Value) (expr : Expr) (params : ParamSet) :
    ((∀ other, expr ≠ .const other) →
      compile dialect table (.compare sign (.const value) expr) params =
        compile dialect table (.compare sign.flipped expr (.const value)) params) ∧
    (∀ other, expr = .const other →
      (∃ b, compile dialect table (.compare sign (.const value) expr) params =
          (.ok (.literal b), params) ∧
        compile dialect table (.compare sign.flipped expr (.const value)) params =
          (.ok (.literal b), params)) ∨
      ∃ error other : PredicateError, error.kind = other.kind ∧
        compile dialect table (.compare sign (.const value) expr) params = (.error error, params) ∧
        compile dialect table (.compare sign.flipped expr (.const value)) params =
          (.error other, params)) ∧
    ∀ other order, expr = .const other → value.isNull = false → other.isNull = false →
      value.compare? other = some order →
      compile dialect table (.compare sign (.const value) expr) params =
          (.ok (.literal (sign.holds order)), params) ∧
        compile dialect table (.compare sign.flipped expr (.const value)) params =
          (.ok (.literal (sign.holds order)), params) := by
  refine ⟨fun noConst => ?_, ?_, ?_⟩
  · have known : expr.const? = none := by
      cases expr with
      | const other => exact absurd rfl (noConst other)
      | _ => rfl
    exact compile_congr (outcome_compare_const_left known value params)
  · rintro other rfl
    rw [compile_constants, compile_constants, folded_flipped]
    cases folded sign value other with
    | ok b => exact .inl ⟨b, rfl, rfl⟩
    | error error => exact .inr ⟨error, error.mirrored, error.kind_mirrored.symm, rfl, rfl⟩
  · rintro other order rfl known knownToo ordered
    rw [compile_constants, compile_constants, folded_flipped,
      folded_of_compare? sign known knownToo ordered]
    exact ⟨rfl, rfl⟩

/-- Raw text with a constant of its own, compared with a constant: `2 < (lower(:p))` is written
`(lower(:p)) > :p_1` either way. And an integer against a floating point number. -/
theorem comparison_with_splice_reads_both_ways :
    let table : Table := { name := "users", schema := none, columns := [{ name := "age" }] }
    let lower : Expr := .splice "lower(\x7b0\x7d)" [.const (.text "Ann")]
    let two : Expr := .const (.int 2)
    let half : Expr := .const (.float ⟨BitVec.ofNat 64 0x3fe0000000000000⟩)
    compile .postgresql table (.compare .lt two lower) .empty =
        compile .postgresql table (.compare .gt lower two) .empty ∧
      (compile .postgresql table (.compare .lt two lower) .empty).2.names = ["p", "p_1"] ∧
      compile .postgresql table (.compare .ge two half) .empty = (.ok (.literal true), .empty) ∧
      compile .postgresql table (.compare .le half two) .empty = (.ok (.literal true), .empty) := by
  intro table lower two half
  have noConst : ∀ other, lower ≠ .const other := by simp [lower]
  have mirrors :=
    (comparison_reads_both_ways .postgresql table .lt (.int 2) lower .empty).1 noConst
  have folds := (comparison_reads_both_ways .postgresql table .ge (.int 2) half .empty).2.2
    _ .gt rfl rfl rfl (by decide)
  exact ⟨mirrors, by decide +kernel, folds.1, folds.2⟩

end Sqlwright
