import Sqlwright.Proofs.Predicate.Lowering
import Sqlwright.Proofs.Predicate.Renaming

/-!
# Simplifying before compiling

Compiling folds while it goes: the sides of a connective have been compiled, and their constants
bound, before it is known that one of them decides it. A tree can be simplified instead before it
is compiled, from the leaves upwards and without regard to tables and parameters.

Both come to the same. Wherever a tree compiles, the simplified tree compiles to the same
predicate, parentheses included, and leaves the same set of parameters. What folds is a constant
already when it has been simplified.

Inside a conjunction a condition also counts by whether it has to be grouped. Therefore what is
kept up from the leaves to the root is the whole outcome of a step: the condition with its
grouping, and the parameters with their names. A condition that folds has dropped what it had
bound, so the names that follow it are the same as if it had never been there.
-/

namespace Sqlwright

open Sql (Fragment)

/-- A conjunction is decided by a side that never holds, or by two that always do. -/
theorem decidedAnd_eq_some {first second : Option Bool} {b : Bool}
    (decided : decidedAnd first second = some b) :
    b = false ∧ (first = some false ∨ second = some false) ∨
      b = true ∧ first = some true ∧ second = some true := by
  rcases first with _ | _ | _ <;> rcases second with _ | _ | _ <;> cases decided <;> simp

/-- A disjunction is decided by a side that always holds, or by two that never do. -/
theorem decidedOr_eq_some {first second : Option Bool} {b : Bool}
    (decided : decidedOr first second = some b) :
    b = true ∧ (first = some true ∨ second = some true) ∨
      b = false ∧ first = some false ∧ second = some false := by
  rcases first with _ | _ | _ <;> rcases second with _ | _ | _ <;> cases decided <;> simp

/-- A conditional is decided by the branch that its test leaves, or by branches that are decided
alike. -/
theorem decidedIf_eq_some {test ifTrue ifFalse : Option Bool} {b : Bool}
    (decided : decidedIf test ifTrue ifFalse = some b) :
    test = some true ∧ ifTrue = some b ∨ test = some false ∧ ifFalse = some b ∨
      ifTrue = some b ∧ ifFalse = some b := by
  rcases test with _ | _ | _ <;> rcases ifTrue with _ | _ | _ <;>
    rcases ifFalse with _ | _ | _ <;> cases decided <;> simp

@[simp] theorem decidedAnd_false_right (first : Option Bool) :
    decidedAnd first (some false) = some false := by
  rcases first with _ | _ | _ <;> rfl

@[simp] theorem decidedOr_true_right (first : Option Bool) :
    decidedOr first (some true) = some true := by
  rcases first with _ | _ | _ <;> rfl

@[simp] theorem decidedIf_same (test : Option Bool) (b : Bool) :
    decidedIf test (some b) (some b) = some b := by
  rcases test with _ | _ | _ <;> simp [decidedIf, decidedAlike]

namespace Expr

/-- What a node becomes if its parts decide it or leave one of them. All else is left alone. -/
def reduced : Expr → Expr
  | .not (.const (.bool b)) => .const (.bool !b)
  | .binary .and (.const (.bool false)) _ => .const (.bool false)
  | .binary .and _ (.const (.bool false)) => .const (.bool false)
  | .binary .and (.const (.bool true)) other => other
  | .binary .and other (.const (.bool true)) => other
  | .binary .or (.const (.bool true)) _ => .const (.bool true)
  | .binary .or _ (.const (.bool true)) => .const (.bool true)
  | .binary .or (.const (.bool false)) other => other
  | .binary .or other (.const (.bool false)) => other
  | .binary (.comparison sign) (.const a) (.const b) =>
    match Compiling.folded sign a b with
    | .ok holds => .const (.bool holds)
    | .error _ => .binary (.comparison sign) (.const a) (.const b)
  | .conditional (.const (.bool true)) ifTrue _ => ifTrue
  | .conditional (.const (.bool false)) _ ifFalse => ifFalse
  | .conditional test (.const (.bool a)) (.const (.bool b)) =>
    if a = b then .const (.bool a) else .conditional test (.const (.bool a)) (.const (.bool b))
  | .within _ [] => .const (.bool false)
  | other => other

mutual

/-- A tree simplified from the leaves upwards. -/
def simplified : Expr → Expr
  | .field name => .field name
  | .const value => .const value
  | .not operand => reduced (.not (simplified operand))
  | .binary op left right => reduced (.binary op (simplified left) (simplified right))
  | .conditional test ifTrue ifFalse =>
    reduced (.conditional (simplified test) (simplified ifTrue) (simplified ifFalse))
  | .like target pattern => .like (simplified target) (simplified pattern)
  | .between target low high => .between (simplified target) (simplified low) (simplified high)
  | .within target items => reduced (.within (simplified target) (simplifiedEach items))
  | .splice template arguments => .splice template (simplifiedEach arguments)

/-- Several trees simplified one by one. -/
def simplifiedEach : List Expr → List Expr
  | [] => []
  | first :: rest => simplified first :: simplifiedEach rest

end

/-- A constant side that decides a connective does so on the right as well as on the left. -/
@[simp] theorem reduced_and_false (left : Expr) :
    reduced (.binary .and left (.const (.bool false))) = .const (.bool false) := by
  unfold reduced
  split <;> simp_all

@[simp] theorem reduced_or_true (left : Expr) :
    reduced (.binary .or left (.const (.bool true))) = .const (.bool true) := by
  unfold reduced
  split <;> simp_all

/-- Branches that are the same constant leave no test, whatever the test is. -/
@[simp] theorem reduced_conditional_const (test : Expr) (b : Bool) :
    reduced (.conditional test (.const (.bool b)) (.const (.bool b))) = .const (.bool b) := by
  unfold reduced
  split <;> grind

/-- A tree that is read as a constant is one. -/
theorem eq_const_of_const? {expr : Expr} {value : Value} (known : expr.const? = some value) :
    expr = .const value := by
  cases expr <;> cases known
  rfl

/-- A tree that is decided is simplified to the constant. -/
theorem simplified_of_decided : ∀ {expr : Expr} {b : Bool}, expr.decided? = some b →
    expr.simplified = .const (.bool b)
  | .const value, b, decided => by
    cases value <;> cases decided
    rfl
  | .not inner, b, decided => by
    obtain ⟨c, known, rfl⟩ := Option.map_eq_some_iff.mp decided
    rw [simplified, simplified_of_decided known]
    rfl
  | .binary .and left right, b, decided => by
    rw [simplified]
    rcases decidedAnd_eq_some decided with ⟨rfl, known | known⟩ | ⟨rfl, known, also⟩
    · rw [simplified_of_decided known, reduced]
    · rw [simplified_of_decided known, reduced_and_false]
    · rw [simplified_of_decided known, simplified_of_decided also]
      rfl
  | .binary .or left right, b, decided => by
    rw [simplified]
    rcases decidedOr_eq_some decided with ⟨rfl, known | known⟩ | ⟨rfl, known, also⟩
    · rw [simplified_of_decided known, reduced]
    · rw [simplified_of_decided known, reduced_or_true]
    · rw [simplified_of_decided known, simplified_of_decided also]
      rfl
  | .binary (.comparison sign) left right, b, decided => by
    unfold decided? decidedComparison at decided
    split at decided
    · rename_i first second
      rw [simplified, eq_const_of_const? first, eq_const_of_const? second, simplified, simplified,
        reduced]
      cases folded : Compiling.folded sign _ _ with
      | ok holds =>
        rw [folded] at decided
        cases decided
        rfl
      | error error =>
        rw [folded] at decided
        cases decided
    · cases decided
  | .conditional test ifTrue ifFalse, b, decided => by
    rw [simplified]
    rcases decidedIf_eq_some decided with ⟨known, also⟩ | ⟨known, also⟩ | ⟨known, also⟩
    · rw [simplified_of_decided known, reduced, simplified_of_decided also]
    · rw [simplified_of_decided known, reduced, simplified_of_decided also]
    · rw [simplified_of_decided known, simplified_of_decided also, reduced_conditional_const]
  | .within _ [], b, decided => by
    cases decided
    rw [simplified, simplifiedEach, reduced]

end Expr

namespace Compiling

variable {α β : Type} {table : Table}

/-- Wherever the first step succeeds, the second does: with the same result, and with the same
parameters afterwards. -/
def Succeeds (step other : Compiling α) : Prop :=
  ∀ params result later, outcome step params = (.ok result, later) →
    outcome other params = (.ok result, later)

namespace Succeeds

theorem refl (step : Compiling α) : Succeeds step step := fun _ _ _ succeeded => succeeded

/-- Steps with the same outcomes succeed likewise. -/
theorem of_eq {step other : Compiling α}
    (same : ∀ params, outcome step params = outcome other params) : Succeeds step other :=
  fun params _ _ succeeded => (same params).symm.trans succeeded

theorem trans {first second third : Compiling α} (before : Succeeds first second)
    (after : Succeeds second third) : Succeeds first third :=
  fun params result later succeeded => after params result later
    (before params result later succeeded)

/-- A failure never succeeds. -/
theorem throw (error : PredicateError) (other : Compiling α) :
    Succeeds (throwThe PredicateError error) other := by
  intro params result later succeeded
  cases succeeded

theorem bind {step other : Compiling α} {next nextOther : α → Compiling β}
    (first : Succeeds step other) (rest : ∀ result, Succeeds (next result) (nextOther result)) :
    Succeeds (step >>= next) (other >>= nextOther) := by
  intro params result later succeeded
  obtain ⟨value, middle, begun, followed⟩ := outcome_bind_ok succeeded
  rw [outcome_bind, first params value middle begun]
  exact rest value middle result later followed

end Succeeds

section

variable {left right test ifTrue ifFalse leftOther rightOther testOther ifTrueOther
  ifFalseOther : Compiling Condition}

theorem succeeds_conjunction (first : Succeeds left leftOther)
    (second : Succeeds right rightOther) :
    Succeeds (conjunction left right) (conjunction leftOther rightOther) := by
  refine (Succeeds.refl mark).bind fun start => first.bind fun condition => ?_
  rcases condition with (_ | _) | _
  · exact .refl _
  · exact second.bind fun _ => .refl _
  · exact second.bind fun _ => .refl _

theorem succeeds_disjunction (first : Succeeds left leftOther)
    (second : Succeeds right rightOther) :
    Succeeds (disjunction left right) (disjunction leftOther rightOther) := by
  refine (Succeeds.refl mark).bind fun start => first.bind fun condition => ?_
  rcases condition with (_ | _) | _
  · exact second.bind fun _ => .refl _
  · exact .refl _
  · exact second.bind fun _ => .refl _

theorem succeeds_conditional (first : Succeeds test testOther)
    (second : Succeeds ifTrue ifTrueOther) (third : Succeeds ifFalse ifFalseOther) :
    Succeeds (conditional test ifTrue ifFalse)
      (conditional testOther ifTrueOther ifFalseOther) := by
  refine (Succeeds.refl mark).bind fun start => first.bind fun condition => ?_
  rcases condition with (_ | _) | _
  · exact third.bind fun _ => .refl _
  · exact second.bind fun _ => .refl _
  · exact second.bind fun _ => third.bind fun _ => .refl _

end

theorem succeeds_renderedEach (base : String) {steps others : List (Compiling Operand)}
    (each : List.Forall₂ Succeeds steps others) :
    Succeeds (renderedEach base steps) (renderedEach base others) := by
  induction each with
  | nil => exact .refl _
  | cons first _ inductionHypothesis =>
    exact first.bind fun _ => (Succeeds.refl _).bind fun _ => inductionHypothesis.bind fun _ =>
      .refl _

/-- A segment calls for the argument in the same place of both lists. -/
theorem succeeds_spliced {arguments others : List (Compiling Operand)}
    (each : List.Forall₂ Succeeds arguments others) (segments : List Segment) :
    Succeeds (spliced arguments segments) (spliced others segments) := by
  induction segments with
  | nil => exact .refl _
  | cons segment rest inductionHypothesis =>
    cases segment with
    | text text =>
      unfold spliced
      exact inductionHypothesis.bind fun _ => .refl _
    | argument index =>
      obtain ⟨sameLength, places⟩ := List.forall₂_iff_get.mp each
      unfold spliced
      by_cases inside : index < arguments.length
      · have also : index < others.length := sameLength ▸ inside
        rw [List.getElem?_eq_getElem inside, List.getElem?_eq_getElem also]
        exact (places index inside also).bind fun operand => (Succeeds.refl _).bind fun _ =>
          inductionHypothesis.bind fun _ => .refl _
      · rw [List.getElem?_eq_none (Nat.le_of_not_lt inside)]
        exact .throw _ _

mutual

/-- An operand is simplified to one that compiles to the same. -/
theorem succeeds_operand (table : Table) : ∀ expr : Expr,
    Succeeds (operand table expr) (operand table expr.simplified)
  | .field _ => .refl _
  | .const _ => .refl _
  | .splice _ arguments =>
    (succeeds_spliced (succeeds_operands table arguments) _).bind fun _ => .refl _
  | .like _ _ => .throw _ _
  | .between _ _ _ => .throw _ _
  | .within _ _ => .throw _ _
  | .not _ => .throw _ _
  | .binary _ _ _ => .throw _ _
  | .conditional _ _ _ => .throw _ _

theorem succeeds_operands (table : Table) : ∀ exprs : List Expr,
    List.Forall₂ Succeeds (operands table exprs) (operands table (Expr.simplifiedEach exprs))
  | [] => .nil
  | first :: rest => .cons (succeeds_operand table first) (succeeds_operands table rest)

end

/-- Only a field is the target of a marker, and a field is simple. -/
theorem succeeds_target (table : Table) (marker : Marker) (expr : Expr) :
    Succeeds (target table marker expr) (target table marker expr.simplified) := by
  cases expr with
  | field name => exact .refl _
  | _ => exact .throw _ _

/-- A step that always has the same truth value for its result and binds nothing. -/
def Constant (b : Bool) (step : Compiling Condition) : Prop :=
  ∀ params, outcome step params = (.ok (.literal b), params)

/-- A step that binds nothing if it folds. -/
def Tidy (step : Compiling Condition) : Prop :=
  ∀ params b later, outcome step params = (.ok (.literal b), later) → later = params

/-- Conditions account for their bindings, and a truth value names none. -/
theorem tidy_condition (dialect : Dialect) (table : Table) (expr : Expr) :
    Tidy (condition dialect table expr) := by
  intro params b later succeeded
  have accounted := accounted_condition dialect table expr params params (.refl params)
  rw [succeeded] at accounted
  exact accounted.eq_of_nil

section

variable {decided : Bool} {join : Condition → Condition → Condition}
  {step other : Compiling Condition} {params : ParamSet}

/-- A neutral side leaves the outcome of the other one: its error, or its condition as it is
grouped, and its bindings under their names. -/
theorem connected_of_neutral_left (neutral : ∀ condition, join (.literal !decided) condition =
    condition) (constant : Constant (!decided) step) (tidy : Tidy other) :
    connected decided join params (outcome step params) (outcome other) =
      outcome other params := by
  have undecided : (Condition.literal !decided) ≠ .literal decided := by simp
  rw [constant params]
  simp only [connected, undecided, if_false]
  rcases ended : outcome other params with ⟨error | condition, later⟩
  · rfl
  · by_cases decides : condition = .literal decided
    · subst decides
      obtain rfl := tidy params decided later ended
      have whole := ParamSet.truncate_eq_of_prefix (List.prefix_refl later.entries)
      simp [whole]
    · simp [decides, neutral]

theorem connected_of_neutral_right (neutral : ∀ condition, join condition (.literal !decided) =
    condition) (constant : Constant (!decided) other) :
    connected decided join params (outcome step params) (outcome other) =
      outcome step params := by
  rcases ended : outcome step params with ⟨error | condition, later⟩
  · rfl
  · by_cases decides : condition = .literal decided
    · simp [connected, decides]
    · simp [connected, decides, constant later, neutral]

end

/-- A constant is compiled to its truth value. -/
theorem constant_const (dialect : Dialect) (table : Table) (b : Bool) :
    Constant b (condition dialect table (.const (.bool b))) := fun _ => rfl

section

variable {dialect : Dialect} {table : Table}

/-- A conjunction with a side that always holds has the outcome of the other one, whether it
fails or succeeds. -/
theorem outcome_conjunction_neutral {unit : Expr}
    (constant : Constant true (condition dialect table unit)) (expr : Expr) (params : ParamSet) :
    outcome (condition dialect table (.binary .and unit expr)) params =
        outcome (condition dialect table expr) params ∧
      outcome (condition dialect table (.binary .and expr unit)) params =
        outcome (condition dialect table expr) params := by
  constructor
  · exact (outcome_conjunction_eq_connected _ _ params).trans
      (connected_of_neutral_left Condition.conjoined_true_left constant
        (tidy_condition dialect table expr))
  · exact (outcome_conjunction_eq_connected _ _ params).trans
      (connected_of_neutral_right Condition.conjoined_true_right constant)

/-- A disjunction with a side that never holds has the outcome of the other one likewise. -/
theorem outcome_disjunction_neutral {unit : Expr}
    (constant : Constant false (condition dialect table unit)) (expr : Expr) (params : ParamSet) :
    outcome (condition dialect table (.binary .or unit expr)) params =
        outcome (condition dialect table expr) params ∧
      outcome (condition dialect table (.binary .or expr unit)) params =
        outcome (condition dialect table expr) params := by
  constructor
  · exact (outcome_disjunction_eq_connected _ _ params).trans
      (connected_of_neutral_left Condition.disjoined_false_left constant
        (tidy_condition dialect table expr))
  · exact (outcome_disjunction_eq_connected _ _ params).trans
      (connected_of_neutral_right Condition.disjoined_false_right constant)

/-- The branch that the test of a conditional leaves is settled already. -/
theorem outcome_settled_of_tidy {step : Compiling Condition} (tidy : Tidy step)
    (params : ParamSet) :
    outcome (step >>= settled params.size) params = outcome step params := by
  rw [outcome_bind]
  rcases ended : outcome step params with ⟨error | condition, later⟩
  · rfl
  · simp only [outcome_settled]
    cases condition with
    | literal b =>
      obtain rfl := tidy params b later ended
      have whole := ParamSet.truncate_eq_of_prefix (List.prefix_refl later.entries)
      simp only [whole]
    | sql fragment disjunction => rfl

/-- A constant test has the outcome of the branch that it leaves. -/
theorem outcome_conditional_const (b : Bool) (ifTrue ifFalse : Expr) (params : ParamSet) :
    outcome (condition dialect table (.conditional (.const (.bool b)) ifTrue ifFalse)) params =
      outcome (condition dialect table (if b then ifTrue else ifFalse)) params := by
  have settles := outcome_conditional (condition dialect table (.const (.bool b)))
    (condition dialect table ifTrue) (condition dialect table ifFalse) params
  cases b with
  | true => exact settles.trans (outcome_settled_of_tidy (tidy_condition dialect table ifTrue) _)
  | false => exact settles.trans (outcome_settled_of_tidy (tidy_condition dialect table ifFalse) _)

/-- What is decided compiles to the constant, if it compiles. -/
theorem succeeds_of_decided {expr : Expr} {b : Bool} (decided : expr.decided? = some b) :
    Succeeds (condition dialect table expr) (condition dialect table (.const (.bool b))) := by
  intro params result later succeeded
  have known := (folds_condition dialect table expr params result later succeeded).trans decided
  cases result with
  | sql fragment disjunction => cases known
  | literal c =>
    obtain rfl : c = b := Option.some.inj known
    obtain rfl := tidy_condition dialect table expr params c later succeeded
    rfl

/-- Each rule for a node leaves its outcome as it is, if it has one. -/
theorem succeeds_reduced (dialect : Dialect) (table : Table) (expr : Expr) :
    Succeeds (condition dialect table expr) (condition dialect table expr.reduced) := by
  have holds := constant_const dialect table true
  have fails := constant_const dialect table false
  fun_cases Expr.reduced expr with
  | case1 b => exact succeeds_of_decided rfl
  | case2 right => exact succeeds_of_decided rfl
  | case3 left => exact succeeds_of_decided (decidedAnd_false_right _)
  | case4 other => exact .of_eq fun params => (outcome_conjunction_neutral holds other params).1
  | case5 other => exact .of_eq fun params => (outcome_conjunction_neutral holds other params).2
  | case6 right => exact succeeds_of_decided rfl
  | case7 left => exact succeeds_of_decided (decidedOr_true_right _)
  | case8 other => exact .of_eq fun params => (outcome_disjunction_neutral fails other params).1
  | case9 other => exact .of_eq fun params => (outcome_disjunction_neutral fails other params).2
  | case10 sign a b decided folded =>
    refine succeeds_of_decided ?_
    simp [Expr.decided?, Expr.const?, decidedComparison, folded, Except.toOption]
  | case11 => exact .refl _
  | case12 ifTrue ifFalse => exact .of_eq (outcome_conditional_const true ifTrue ifFalse)
  | case13 ifTrue ifFalse => exact .of_eq (outcome_conditional_const false ifTrue ifFalse)
  | case14 test b => exact succeeds_of_decided (decidedIf_same _ b)
  | case15 => exact .refl _
  | case16 subject => exact succeeds_of_decided rfl
  | case17 => exact .refl _

end

/-- Conditions are simplified to ones that compile to the same. First the parts of a node are
simplified, then the node itself. -/
theorem succeeds_condition (dialect : Dialect) (table : Table) : ∀ expr : Expr,
    Succeeds (condition dialect table expr) (condition dialect table expr.simplified)
  | .const _ => .refl _
  | .field _ => .refl _
  | .not inner =>
    have parts : Succeeds (condition dialect table (.not inner))
        (condition dialect table (.not inner.simplified)) :=
      (succeeds_condition dialect table inner).bind fun _ => .refl _
    parts.trans (succeeds_reduced dialect table _)
  | .binary .and left right =>
    (succeeds_conjunction (succeeds_condition dialect table left)
      (succeeds_condition dialect table right)).trans
        (succeeds_reduced dialect table (.binary .and left.simplified right.simplified))
  | .binary .or left right =>
    (succeeds_disjunction (succeeds_condition dialect table left)
      (succeeds_condition dialect table right)).trans
        (succeeds_reduced dialect table (.binary .or left.simplified right.simplified))
  | .binary (.comparison sign) left right =>
    have parts : Succeeds (condition dialect table (.binary (.comparison sign) left right))
        (condition dialect table
          (.binary (.comparison sign) left.simplified right.simplified)) :=
      (succeeds_operand table left).bind fun _ => (succeeds_operand table right).bind fun _ =>
        .refl _
    parts.trans (succeeds_reduced dialect table _)
  | .conditional test ifTrue ifFalse =>
    (succeeds_conditional (succeeds_condition dialect table test)
      (succeeds_condition dialect table ifTrue) (succeeds_condition dialect table ifFalse)).trans
        (succeeds_reduced dialect table
          (.conditional test.simplified ifTrue.simplified ifFalse.simplified))
  | .like subject pattern => by
    unfold Expr.simplified condition
    exact (succeeds_target table .like subject).bind fun _ =>
      (succeeds_operand table pattern).bind fun _ => .refl _
  | .between subject low high => by
    unfold Expr.simplified condition
    exact (succeeds_target table .between subject).bind fun _ =>
      (succeeds_operand table low).bind fun _ => (Succeeds.refl _).bind fun _ =>
        (succeeds_operand table high).bind fun _ => .refl _
  | .within subject items => by
    refine Succeeds.trans ?_ (succeeds_reduced dialect table
      (.within subject.simplified (Expr.simplifiedEach items)))
    unfold condition
    refine (succeeds_target table .within subject).bind fun column => ?_
    cases items with
    | nil => exact .refl _
    | cons first rest =>
      exact (succeeds_renderedEach _ (succeeds_operands table (first :: rest))).bind fun _ =>
        .refl _
  | .splice _ arguments =>
    (succeeds_spliced (succeeds_operands table arguments) _).bind fun _ => .refl _

end Compiling

section

open Compiling

variable {dialect : Dialect} {table : Table}

/-- What folds into one set of parameters folds to the same into every set, and binds nothing. -/
theorem FoldsTo.constant {expr : Expr} {b : Bool} (folds : FoldsTo dialect table expr b) :
    Constant b (condition dialect table expr) := by
  intro params
  obtain ⟨other, last, compiled⟩ := folds
  obtain ⟨found, begun, same⟩ := outcome_of_compile compiled
  have together := alike_condition dialect table expr other params other params (.refl _ _)
  rw [begun] at together
  rcases ended : outcome (condition dialect table expr) params with ⟨error | condition, later⟩
  · rw [ended] at together
    cases together
  · rw [ended] at together
    cases together with
    | ok _ matched =>
      cases matched with
      | sql matched disjunction => cases same
      | literal c =>
        obtain rfl : b = c := Predicate.literal.inj same
        obtain rfl := tidy_condition dialect table expr params b later ended
        rfl

/-- Steps for conditions with the same outcome compile to the same. -/
theorem compile_congr {expr other : Expr} {params : ParamSet}
    (same : outcome (condition dialect table expr) params =
      outcome (condition dialect table other) params) :
    compile dialect table expr params = compile dialect table other params := by
  rw [compile_eq_outcome, compile_eq_outcome, outcome_bind, outcome_bind, same]

/-- Simplifying a tree before it is compiled changes nothing. Wherever the tree compiles, the
simplified one compiles to the same predicate, chunk by chunk, and leaves the same parameters;
and if the predicate is a constant, so is the simplified tree.

In particular a side of a conjunction that folds to true, and a side of a disjunction that folds
to false, may be left out: the whole has the outcome of the other side, also if that fails. -/
theorem compile_simplified (dialect : Dialect) (table : Table) (expr : Expr)
    (params : ParamSet) :
    (∀ predicate later, compile dialect table expr params = (.ok predicate, later) →
      compile dialect table expr.simplified params = (.ok predicate, later) ∧
        ∀ b, predicate = .literal b → expr.simplified = .const (.bool b)) ∧
    (∀ unit, FoldsTo dialect table unit true →
      compile dialect table (unit.and expr) params = compile dialect table expr params ∧
        compile dialect table (expr.and unit) params = compile dialect table expr params) ∧
    ∀ unit, FoldsTo dialect table unit false →
      compile dialect table (unit.or expr) params = compile dialect table expr params ∧
        compile dialect table (expr.or unit) params = compile dialect table expr params := by
  refine ⟨fun predicate later compiled => ⟨?_, fun b folded => ?_⟩, fun unit folds => ?_,
    fun unit folds => ?_⟩
  · obtain ⟨found, begun, rfl⟩ := outcome_of_compile compiled
    have simpler := succeeds_condition dialect table expr params found later begun
    exact compile_of_outcome simpler
  · exact Expr.simplified_of_decided ((literal_iff_of_compile compiled b).mp folded)
  · have neutral := outcome_conjunction_neutral folds.constant expr params
    exact ⟨compile_congr neutral.1, compile_congr neutral.2⟩
  · have neutral := outcome_disjunction_neutral folds.constant expr params
    exact ⟨compile_congr neutral.1, compile_congr neutral.2⟩

end

/-- A tree with a side that has bound a name before it folds, a test that folds, and a branch that
could not be compiled. Without them the same names are chosen, and the disjunction is grouped as
before. -/
theorem compile_simplified_drops_bindings :
    let table : Table := { name := "users", schema := none, columns :=
      [{ name := "age" }, { name := "name" }] }
    let adult := Expr.compare .gt (.field "age") (.const (.int 18))
    let ann := Expr.compare .eq (.field "name") (.const (.text "Ann"))
    let young := Expr.compare .lt (.field "age") (.const (.int 65))
    let never := (Expr.compare .eq (.field "age") (.const (.int 5))).and
      (.compare .gt (.const (.int 1)) (.const (.int 2)))
    let always := Expr.not (.within (.field "name") [])
    let expr := (never.or (adult.or ann)).and (.conditional always young (.field "missing"))
    let simpler := (adult.or ann).and young
    let either := Fragment.ident "age" ++ Fragment.comparison .gt ++ Fragment.param "age" ++
      Fragment.keyword .OR ++
      (Fragment.ident "name" ++ Fragment.comparison .eq ++ Fragment.param "name")
    let fragment := Fragment.parens either ++ Fragment.keyword .AND ++
      (Fragment.ident "age" ++ Fragment.comparison .lt ++ Fragment.param "age_1")
    expr.simplified = simpler ∧ ∃ later,
      compile .sqlite table expr .empty = (.ok (.sql fragment), later) ∧
      compile .sqlite table simpler .empty = (.ok (.sql fragment), later) ∧
      compile .sqlite table (always.and expr) .empty = (.ok (.sql fragment), later) ∧
      compile .sqlite table (expr.or never) .empty = (.ok (.sql fragment), later) := by
  intro table adult ann young never always expr simpler either fragment
  have simplified : expr.simplified = simpler := rfl
  have written : (compile .sqlite table expr .empty).1 = .ok (.sql fragment) := by
    decide +kernel
  have compiled := Prod.ext (y := (_, (compile .sqlite table expr .empty).2)) written rfl
  obtain ⟨simplifies, holds, fails⟩ := compile_simplified .sqlite table expr .empty
  obtain ⟨same, _⟩ := simplifies _ _ compiled
  have afterHolding := (holds always ⟨.empty, _, rfl⟩).1
  have beforeFailing := (fails never ⟨.empty, _, rfl⟩).2
  exact ⟨simplified, _, compiled, simplified ▸ same, afterHolding.trans compiled,
    beforeFailing.trans compiled⟩

end Sqlwright
