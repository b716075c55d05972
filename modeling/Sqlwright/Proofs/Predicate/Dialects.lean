import Sqlwright.Proofs.Predicate.Renaming

/-!
# Compiling for different dialects

A dialect comes into a predicate in one place only: a field that stands alone is compared with the
true value as the dialect spells it. No decision depends on this. So the runs for two dialects,
begun with the same parameters, take the same steps all the way. They fail with the same error or
fold to the same truth value, or their texts differ in the spelling of these values alone, and
they end with the same parameters.

The two runs are followed side by side. Operands and comparisons are even the same step in both,
since no dialect is known to them. The connectives take conditions that differ in spelling to
others that do.
-/

namespace Sqlwright

open Sql (Chunk Fragment)

/-- The fields that stand alone as predicates. Those that are compared, or have a marker, do
not. -/
def Expr.bareFields : Expr → List String
  | .field name => [name]
  | .not operand => operand.bareFields
  | .binary .and left right => left.bareFields ++ right.bareFields
  | .binary .or left right => left.bareFields ++ right.bareFields
  | .conditional test ifTrue ifFalse => test.bareFields ++ ifTrue.bareFields ++ ifFalse.bareFields
  | .const _ | .binary (.comparison _) _ _ | .like _ _ | .between _ _ _ | .within _ _
  | .splice _ _ => []

/-- The test of a column that stands alone. -/
def Column.tested (column : Column) (dialect : Dialect) : Fragment :=
  Fragment.ident column.name ++ Fragment.comparison .eq ++
    Fragment.raw (dialect.boolLiteral true)

/-- Fragments of two dialects that are the same chunk by chunk, but for the tests of columns that
the given fields name: these are each in the spelling of its dialect. -/
inductive Respelled (left right : Dialect) (table : Table) (fields : List String) :
    Fragment → Fragment → Prop
  | nil : Respelled left right table fields [] []
  | chunk (same : Chunk) {first second : Fragment}
    (rest : Respelled left right table fields first second) :
    Respelled left right table fields (same :: first) (same :: second)
  | tested {field : String} {column : Column} (bare : field ∈ fields)
    (found : table.column? field = some column) {first second : Fragment}
    (rest : Respelled left right table fields first second) :
    Respelled left right table fields (column.tested left ++ first)
      (column.tested right ++ second)

namespace Respelled

variable {left right : Dialect} {table : Table} {fields : List String}
  {first second firstOther secondOther : Fragment}

theorem refl (fragment : Fragment) : Respelled left right table fields fragment fragment := by
  induction fragment with
  | nil => exact .nil
  | cons chunk rest inductionHypothesis => exact .chunk chunk inductionHypothesis

theorem append (respelled : Respelled left right table fields first second)
    (also : Respelled left right table fields firstOther secondOther) :
    Respelled left right table fields (first ++ firstOther) (second ++ secondOther) := by
  induction respelled with
  | nil => exact also
  | chunk same _ inductionHypothesis => exact .chunk same inductionHypothesis
  | tested bare found _ inductionHypothesis =>
    rw [List.append_assoc, List.append_assoc]
    exact .tested bare found inductionHypothesis

theorem congruent : Fragment.Congruent (Respelled left right table fields) :=
  ⟨fun token => .refl [.token token], .append⟩

end Respelled

namespace Compiling

variable {α β : Type}

/-- Two outcomes with the same parameters: both have failed with the same error, or both results
are related. -/
inductive Agreed (relate : α → α → Prop) :
    Except PredicateError α × ParamSet → Except PredicateError α × ParamSet → Prop
  | ok {result other : α} {later : ParamSet} (related : relate result other) :
    Agreed relate (.ok result, later) (.ok other, later)
  | error {error : PredicateError} {later : ParamSet} :
    Agreed relate (.error error, later) (.error error, later)

/-- Begun with the same parameters, two steps have outcomes that agree. -/
def Agree (relate : α → α → Prop) (step other : Compiling α) : Prop :=
  ∀ params, Agreed relate (outcome step params) (outcome other params)

namespace Agree

variable {relate : α → α → Prop}

theorem pure {result other : α} (related : relate result other) :
    Agree relate (Pure.pure result) (Pure.pure other) :=
  fun _ => .ok related

/-- A step agrees with itself. -/
theorem refl (reflexive : ∀ result, relate result result) (step : Compiling α) :
    Agree relate step step := by
  intro params
  rcases outcome step params with ⟨error | result, later⟩
  · exact .error
  · exact .ok (reflexive result)

/-- Steps that follow related results agree. -/
theorem bind {middle : α → α → Prop} {relate : β → β → Prop} {step other : Compiling α}
    {next nextOther : α → Compiling β} (first : Agree middle step other)
    (rest : ∀ result found, middle result found → Agree relate (next result) (nextOther found)) :
    Agree relate (step >>= next) (other >>= nextOther) := by
  intro params
  have reached := first params
  rw [outcome_bind, outcome_bind]
  generalize outcome step params = ended, outcome other params = endedOther at reached ⊢
  cases reached with
  | ok related => exact rest _ _ related _
  | error => exact .error

end Agree

section

variable {relate : Fragment → Fragment → Prop} {step stepOther next nextOther : Compiling Condition}

/-- Related conditions settle alike. -/
theorem agree_settled (mark : Nat) {condition other : Condition}
    (related : condition.Related relate other) :
    Agree (Condition.Related relate) (settled mark condition) (settled mark other) := by
  intro params
  rw [outcome_settled, outcome_settled]
  cases related with
  | literal b => exact .ok (.literal b)
  | sql related disjunction => exact .ok (.sql related disjunction)

/-- A connective is decided by the same side in both runs. -/
theorem agreed_connected {decided : Bool} {join : Condition → Condition → Condition}
    (joins : ∀ {a b c d}, Condition.Related relate a b → Condition.Related relate c d →
      Condition.Related relate (join a c) (join b d))
    (first : Agree (Condition.Related relate) step stepOther)
    (second : Agree (Condition.Related relate) next nextOther) (params : ParamSet) :
    Agreed (Condition.Related relate)
      (connected decided join params (outcome step params) (outcome next))
      (connected decided join params (outcome stepOther params) (outcome nextOther)) := by
  have begun := first params
  generalize outcome step params = ended, outcome stepOther params = endedOther at begun ⊢
  cases begun with
  | error => exact .error
  | @ok condition other middle related =>
    have sameHere := related.eq_literal_iff decided
    by_cases decides : condition = .literal decided
    · simp only [connected, decides, sameHere.mp decides, if_true]
      exact .ok (.literal decided)
    · simp only [connected, decides, mt sameHere.mpr decides, if_false]
      have followed := second middle
      generalize outcome next middle = last, outcome nextOther middle = lastOther at followed ⊢
      cases followed with
      | error => exact .error
      | @ok found foundOther later also =>
        have sameThere := also.eq_literal_iff decided
        by_cases decidesToo : found = .literal decided
        · simp only [decidesToo, sameThere.mp decidesToo, if_true]
          exact .ok (.literal decided)
        · simp only [decidesToo, mt sameThere.mpr decidesToo, if_false]
          exact .ok (joins related also)

variable (congruent : Fragment.Congruent relate)

include congruent

theorem agree_conjunction (first : Agree (Condition.Related relate) step stepOther)
    (second : Agree (Condition.Related relate) next nextOther) :
    Agree (Condition.Related relate) (conjunction step next) (conjunction stepOther nextOther) := by
  intro params
  rw [outcome_conjunction_eq_connected, outcome_conjunction_eq_connected]
  exact agreed_connected (.conjoined congruent) first second params

theorem agree_disjunction (first : Agree (Condition.Related relate) step stepOther)
    (second : Agree (Condition.Related relate) next nextOther) :
    Agree (Condition.Related relate) (disjunction step next) (disjunction stepOther nextOther) := by
  intro params
  rw [outcome_disjunction_eq_connected, outcome_disjunction_eq_connected]
  exact agreed_connected (.disjoined congruent) first second params

theorem agree_conditional {last lastOther : Compiling Condition}
    (first : Agree (Condition.Related relate) step stepOther)
    (second : Agree (Condition.Related relate) next nextOther)
    (third : Agree (Condition.Related relate) last lastOther) :
    Agree (Condition.Related relate) (conditional step next last)
      (conditional stepOther nextOther lastOther) := by
  intro params
  rw [outcome_conditional, outcome_conditional]
  have tested := first params
  generalize outcome step params = ended, outcome stepOther params = endedOther at tested ⊢
  cases tested with
  | error => exact .error
  | ok related =>
    cases related with
    | literal b =>
      cases b with
      | true => exact second.bind (fun _ _ => agree_settled params.size) _
      | false => exact third.bind (fun _ _ => agree_settled params.size) _
    | sql related disjunction =>
      apply second.bind
      intro whenTrue whenTrueOther held
      apply third.bind
      intro whenFalse whenFalseOther failed
      exact agree_settled params.size
        (.remaining congruent (.sql related disjunction) held failed)

end

/-- A step that knows no dialect is the same for both. -/
theorem agree_shared {left right : Dialect} {table : Table} {fields : List String}
    (step : Compiling Condition) :
    Agree (Condition.Related (Respelled left right table fields)) step step :=
  .refl (.refl .refl) step

/-- Conditions for two dialects agree up to the spelling of tests. The recursion follows the
tree; where the dialect is not asked for, both runs are one. -/
theorem agree_condition (left right : Dialect) (table : Table) {fields : List String} :
    ∀ expr : Expr, expr.bareFields ⊆ fields →
      Agree (Condition.Related (Respelled left right table fields)) (condition left table expr)
        (condition right table expr)
  | .field name, bare => by
    intro params
    simp only [condition, outcome_bind, outcome_column]
    cases found : table.column? name with
    | none => exact .error
    | some column =>
      have tested : Respelled left right table fields (column.tested left) (column.tested right) :=
        .tested (bare (.head _)) found .nil
      exact .ok (.sql tested false)
  | .not inner, bare =>
    (agree_condition left right table inner bare).bind fun _ _ related =>
      .pure (related.negated Respelled.congruent)
  | .binary .and first second, bare =>
    have ⟨here, there⟩ := List.append_subset.mp bare
    agree_conjunction Respelled.congruent (agree_condition left right table first here)
      (agree_condition left right table second there)
  | .binary .or first second, bare =>
    have ⟨here, there⟩ := List.append_subset.mp bare
    agree_disjunction Respelled.congruent (agree_condition left right table first here)
      (agree_condition left right table second there)
  | .conditional test ifTrue ifFalse, bare =>
    have ⟨both, third⟩ := List.append_subset.mp bare
    have ⟨first, second⟩ := List.append_subset.mp both
    agree_conditional Respelled.congruent (agree_condition left right table test first)
      (agree_condition left right table ifTrue second)
      (agree_condition left right table ifFalse third)
  | .const value, _ => by
    cases value <;> exact agree_shared _
  | .binary (.comparison _) _ _, _ => agree_shared _
  | .like _ _, _ => agree_shared _
  | .between _ _ _, _ => agree_shared _
  | .within _ _, _ => agree_shared _
  | .splice _ _, _ => agree_shared _

/-- Predicates for two dialects agree up to the spelling of the tests of bare fields. -/
theorem agreed_compile (left right : Dialect) (table : Table) (expr : Expr) (params : ParamSet) :
    Agreed (Predicate.Related (Respelled left right table expr.bareFields))
      (compile left table expr params) (compile right table expr params) := by
  have conditions := agree_condition left right table expr (List.Subset.refl _)
  have predicates := conditions.bind fun _ _ related => .pure related.predicate
  rw [compile_eq_outcome, compile_eq_outcome]
  exact predicates params

end Compiling
end Sqlwright
