import Sqlwright.Proofs.Predicate.Meaning
import Sqlwright.Proofs.Predicate.Outcome

/-!
# What folds when

Compiling decides a predicate exactly when the tree alone decides it, whatever the table,
the dialect and the bindings so far. The steps may fail; if they do not, then what they
yield is decided as the tree says.
-/

namespace Sqlwright

/-- What a condition is decided to be. -/
def Condition.decided? : Condition → Option Bool
  | .literal b => some b
  | .sql _ _ => none

/-- The value of an operand that is a constant. -/
def Operand.const? : Operand → Option Value
  | .constant value => some value
  | .column _ | .raw _ => none

namespace Condition

theorem decided?_negated (condition : Condition) :
    condition.negated.decided? = condition.decided?.map Bool.not := by
  cases condition <;> rfl

theorem decided?_conjoined (left right : Condition) :
    (left.conjoined right).decided? = decidedAnd left.decided? right.decided? := by
  rcases left with (_ | _) | _ <;> rcases right with (_ | _) | _ <;> rfl

theorem decided?_disjoined (left right : Condition) :
    (left.disjoined right).decided? = decidedOr left.decided? right.decided? := by
  rcases left with (_ | _) | _ <;> rcases right with (_ | _) | _ <;> rfl

end Condition

namespace Compiling

variable {test left right ifTrue ifFalse : Compiling Condition}
  {first second third : Option Bool}

/-- If a step succeeds, its result is decided as given. -/
def Folds (step : Compiling Condition) (decision : Option Bool) : Prop :=
  ∀ params compiled later, outcome step params = (.ok compiled, later) →
    compiled.decided? = decision

namespace Folds

variable {decision : Option Bool}

/-- A condition that is at hand. -/
theorem pure {condition : Condition} (known : condition.decided? = decision) :
    Folds (Pure.pure condition) decision := by
  intro params compiled later succeeded
  cases succeeded
  exact known

/-- A failure has no result. -/
theorem throw (error : PredicateError) : Folds (throwThe PredicateError error) decision := by
  intro params compiled later succeeded
  cases succeeded

/-- What goes before does not matter if the rest is decided alike in any case. -/
theorem bind {α : Type} {step : Compiling α} {next : α → Compiling Condition}
    (rest : ∀ result, Folds (next result) decision) : Folds (step >>= next) decision := by
  intro params compiled later succeeded
  obtain ⟨result, middle, _, ended⟩ := outcome_bind_ok succeeded
  exact rest result middle compiled later ended

end Folds

/-- A side that is not looked at does not matter. -/
theorem folds_conjunction (before : Folds left first) (after : Folds right second) :
    Folds (conjunction left right) (decidedAnd first second) := by
  intro params compiled later succeeded
  rcases outcome_conjunction_ok succeeded with
    ⟨rfl, begun⟩ | ⟨leftCompiled, middle, rightCompiled, last, begun, next, rfl, _⟩
  · rw [← before _ _ _ begun]
    rfl
  · rw [Condition.decided?_conjoined, before _ _ _ begun, after _ _ _ next]

theorem folds_disjunction (before : Folds left first) (after : Folds right second) :
    Folds (disjunction left right) (decidedOr first second) := by
  intro params compiled later succeeded
  rcases outcome_disjunction_ok succeeded with
    ⟨rfl, begun⟩ | ⟨leftCompiled, middle, rightCompiled, last, begun, next, rfl, _⟩
  · rw [← before _ _ _ begun]
    rfl
  · rw [Condition.decided?_disjoined, before _ _ _ begun, after _ _ _ next]

/-- Without a decision about the test, the branches decide if they are decided alike. -/
theorem decided?_remaining (fragment : Sql.Fragment) (grouped : Bool)
    (whenTrue whenFalse : Condition) :
    (remaining (.sql fragment grouped) whenTrue whenFalse).decided? =
      decidedAlike whenTrue.decided? whenFalse.decided? := by
  rcases whenTrue with (_ | _) | _ <;> rcases whenFalse with (_ | _) | _ <;> rfl

theorem folds_conditional (before : Folds test first) (branch : Folds ifTrue second)
    (other : Folds ifFalse third) :
    Folds (conditional test ifTrue ifFalse) (decidedIf first second third) := by
  intro params compiled later succeeded
  rcases outcome_conditional_ok succeeded with ⟨_ | _, middle, last, begun, next, _⟩ |
    ⟨fragment, grouped, middle, whenTrue, second, whenFalse, last, begun, next, nextOther, rfl, _⟩
  · rw [← before _ _ _ begun]
    exact other _ _ _ next
  · rw [← before _ _ _ begun]
    exact branch _ _ _ next
  · rw [decided?_remaining, ← before _ _ _ begun, branch _ _ _ next, other _ _ _ nextOther]
    rfl

/-- An operand is constant exactly when its tree is. -/
theorem const?_operand {table : Table} {expr : Expr} {params later : ParamSet} {found : Operand}
    (succeeded : outcome (operand table expr) params = (.ok found, later)) :
    found.const? = expr.const? := by
  cases expr with
  | const value =>
    cases succeeded
    rfl
  | field name =>
    obtain ⟨column, middle, _, ended⟩ := outcome_bind_ok succeeded
    cases ended
    rfl
  | splice template arguments =>
    obtain ⟨fragment, middle, _, ended⟩ := outcome_bind_ok succeeded
    cases ended
    rfl
  | _ => cases succeeded

/-- A comparison with a constant depends on the row. -/
theorem folds_comparedWith (sign : Sql.Comparison) (operand : Operand) (value : Value) :
    Folds (comparedWith sign operand value) none := by
  refine .bind fun written => ?_
  split
  · split
    · exact .pure rfl
    · exact .pure rfl
    all_goals exact .throw _
  · exact .bind fun parameter => .pure rfl

/-- Only two constants are compared at once. -/
theorem folds_compared (sign : Sql.Comparison) (left right : Operand) :
    Folds (compared sign left right) (decidedComparison sign left.const? right.const?) := by
  cases left with
  | constant a =>
    cases right with
    | constant b =>
      unfold decidedComparison Operand.const?
      simp only [compared]
      cases folded : folded sign a b with
      | ok holds => exact .pure rfl
      | error error => exact .throw error
    | column right => exact folds_comparedWith _ _ _
    | raw right => exact folds_comparedWith _ _ _
  | column left =>
    cases right with
    | constant b => exact folds_comparedWith _ _ _
    | column right => exact Folds.pure rfl
    | raw right => exact Folds.pure rfl
  | raw left =>
    cases right with
    | constant b => exact folds_comparedWith _ _ _
    | column right => exact Folds.pure rfl
    | raw right => exact Folds.pure rfl

/-- Compiling decides a predicate exactly when its tree is decided. -/
theorem folds_condition (dialect : Dialect) (table : Table) :
    ∀ expr, Folds (condition dialect table expr) expr.decided?
  | .const value => by
    cases value with
    | bool b => exact .pure rfl
    | _ => exact .throw _
  | .field name => .bind fun column => .pure rfl
  | .not inner => by
    intro params compiled later succeeded
    obtain ⟨condition, middle, begun, ended⟩ := outcome_bind_ok succeeded
    cases ended
    rw [Condition.decided?_negated, folds_condition dialect table inner _ _ _ begun]
    rfl
  | .binary .and left right =>
    folds_conjunction (folds_condition dialect table left) (folds_condition dialect table right)
  | .binary .or left right =>
    folds_disjunction (folds_condition dialect table left) (folds_condition dialect table right)
  | .binary (.comparison sign) left right => by
    intro params compiled later succeeded
    obtain ⟨first, middle, begun, followed⟩ := outcome_bind_ok succeeded
    obtain ⟨second, last, next, ended⟩ := outcome_bind_ok followed
    rw [folds_compared sign first second _ _ _ ended, const?_operand begun, const?_operand next]
    rfl
  | .conditional test ifTrue ifFalse =>
    folds_conditional (folds_condition dialect table test) (folds_condition dialect table ifTrue)
      (folds_condition dialect table ifFalse)
  | .like _ _ => .bind fun column => .bind fun operand => .bind fun pattern => .pure rfl
  | .between _ _ _ =>
    .bind fun column => .bind fun first => .bind fun low => .bind fun second => .bind fun high =>
      .pure rfl
  | .within _ [] => .bind fun column => .pure rfl
  | .within _ (_ :: _) => .bind fun column => .bind fun items => .pure rfl
  | .splice _ _ => .bind fun fragment => .pure rfl

end Compiling
end Sqlwright
