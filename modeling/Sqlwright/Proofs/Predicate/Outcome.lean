import Sqlwright.Predicate.Compile

/-!
# Outcomes of compiling steps

The outcome of a step is its result or its error, with the parameters as they are
afterwards. The equations below say what each combinator does with the outcomes of its
parts. Statements about predicates are derived from them; nothing else looks into the
layers of the monad.
-/

namespace Sqlwright

open Sql (Fragment)

namespace Compiling

variable {α β : Type} {params later : ParamSet} {compiled : Condition}

/-- What a step yields when it is begun with the given parameters. -/
def outcome (step : Compiling α) (params : ParamSet) : Except PredicateError α × ParamSet :=
  step.run.run params

@[simp] theorem outcome_pure (result : α) (params : ParamSet) :
    outcome (pure result) params = (.ok result, params) := rfl

@[simp] theorem outcome_throw (error : PredicateError) (params : ParamSet) :
    outcome (throw error : Compiling α) params = (.error error, params) := rfl

/-- What follows a failure is not begun, and the failure keeps the parameters. -/
theorem outcome_bind (step : Compiling α) (next : α → Compiling β) (params : ParamSet) :
    outcome (step >>= next) params =
      match outcome step params with
      | (.ok result, later) => outcome (next result) later
      | (.error error, later) => (.error error, later) := by
  simp only [outcome, ExceptT.run_bind, StateT.run_bind]
  rcases step.run.run params with ⟨error | result, later⟩ <;> rfl

/-- Two steps succeed together when the first does and the second does after it. -/
theorem outcome_bind_ok {step : Compiling α} {next : α → Compiling β} {result : β}
    (succeeded : outcome (step >>= next) params = (.ok result, later)) :
    ∃ first middle, outcome step params = (.ok first, middle) ∧
      outcome (next first) middle = (.ok result, later) := by
  rw [outcome_bind] at succeeded
  rcases begun : outcome step params with ⟨error | first, middle⟩
  · simp [begun] at succeeded
  · exact ⟨first, middle, rfl, by simpa only [begun] using succeeded⟩

@[simp] theorem outcome_bound (base : String) (value : Value) (params : ParamSet) :
    outcome (bound base value) params =
      (.ok (Fragment.param (params.add base value).1), (params.add base value).2) := rfl

@[simp] theorem outcome_mark (params : ParamSet) :
    outcome mark params = (.ok params.size, params) := rfl

@[simp] theorem outcome_rewind (count : Nat) (params : ParamSet) :
    outcome (rewind count) params = (.ok (), params.truncate count) := rfl

/-- A condition that has folded takes the bindings since the mark with it. -/
theorem outcome_settled (mark : Nat) (condition : Condition) (params : ParamSet) :
    outcome (settled mark condition) params =
      match condition with
      | .literal b => (.ok (.literal b), params.truncate mark)
      | .sql fragment disjunction => (.ok (.sql fragment disjunction), params) := by
  cases condition <;> rfl

/-- What has been reached is kept, unless the condition has folded. -/
def Settled (reached later : ParamSet) : Condition → Prop
  | .literal _ => True
  | .sql _ _ => later = reached

/-- A condition that takes no binding with it is settled. -/
theorem settled_self (params : ParamSet) (condition : Condition) :
    Settled params params condition := by
  cases condition with
  | literal b => trivial
  | sql fragment disjunction => rfl

/-- Settling a condition does not change it. -/
theorem outcome_settled_ok {mark : Nat} {condition : Condition}
    (succeeded : outcome (settled mark condition) params = (.ok compiled, later)) :
    compiled = condition ∧ Settled params later compiled := by
  rw [outcome_settled] at succeeded
  cases condition with
  | literal b =>
    cases succeeded
    exact ⟨rfl, trivial⟩
  | sql fragment disjunction =>
    cases succeeded
    exact ⟨rfl, rfl⟩

/-- A field that names a column has its outcome, any other fails. -/
theorem outcome_column (table : Table) (field : String) (params : ParamSet) :
    outcome (column table field) params =
      match table.column? field with
      | some found => (.ok found, params)
      | none => (.error (.unknownField table.name field), params) := by
  unfold column
  cases table.column? field <;> rfl

/-- The right side of a conjunction is begun only where the left has not failed and may
hold. If the right side never holds, what both sides have bound is dropped. -/
theorem outcome_conjunction (left right : Compiling Condition) (params : ParamSet) :
    outcome (conjunction left right) params =
      match outcome left params with
      | (.error error, later) => (.error error, later)
      | (.ok (.literal false), later) => (.ok (.literal false), later)
      | (.ok first, later) =>
        match outcome right later with
        | (.error error, last) => (.error error, last)
        | (.ok (.literal false), last) => (.ok (.literal false), last.truncate params.size)
        | (.ok second, last) => (.ok (first.conjoined second), last) := by
  simp only [conjunction, outcome_bind, outcome_mark]
  rcases outcome left params with ⟨error | (_ | _) | _, later⟩
  · rfl
  · rfl
  all_goals
    simp only [outcome_bind]
    rcases outcome right later with ⟨error | (_ | _) | _, last⟩ <;> rfl

/-- A conjunction succeeds when its left side never holds, or when both sides succeed. -/
theorem outcome_conjunction_ok {left right : Compiling Condition}
    (succeeded : outcome (conjunction left right) params = (.ok compiled, later)) :
    (compiled = .literal false ∧ outcome left params = (.ok compiled, later)) ∨
      ∃ first middle second last, outcome left params = (.ok first, middle) ∧
        outcome right middle = (.ok second, last) ∧ compiled = first.conjoined second ∧
        Settled last later compiled := by
  rw [outcome_conjunction] at succeeded
  rcases begun : outcome left params with ⟨error | (_ | _) | ⟨fragment, grouped⟩, middle⟩
  · rw [begun] at succeeded
    cases succeeded
  · rw [begun] at succeeded
    cases succeeded
    exact .inl ⟨rfl, rfl⟩
  all_goals
    rw [begun] at succeeded
    dsimp only at succeeded
    rcases next : outcome right middle with ⟨error | (_ | _) | ⟨other, group⟩, last⟩
    · rw [next] at succeeded
      cases succeeded
    · rw [next] at succeeded
      cases succeeded
      exact .inr ⟨_, _, _, _, rfl, next, rfl, trivial⟩
    all_goals
      rw [next] at succeeded
      cases succeeded
      exact .inr ⟨_, _, _, _, rfl, next, rfl, settled_self _ _⟩

/-- The right side of a disjunction is begun only where the left has not failed and may
fail to hold. If the right side always holds, what both sides have bound is dropped. -/
theorem outcome_disjunction (left right : Compiling Condition) (params : ParamSet) :
    outcome (disjunction left right) params =
      match outcome left params with
      | (.error error, later) => (.error error, later)
      | (.ok (.literal true), later) => (.ok (.literal true), later)
      | (.ok first, later) =>
        match outcome right later with
        | (.error error, last) => (.error error, last)
        | (.ok (.literal true), last) => (.ok (.literal true), last.truncate params.size)
        | (.ok second, last) => (.ok (first.disjoined second), last) := by
  simp only [disjunction, outcome_bind, outcome_mark]
  rcases outcome left params with ⟨error | (_ | _) | _, later⟩
  · rfl
  · simp only [outcome_bind]
    rcases outcome right later with ⟨error | (_ | _) | _, last⟩ <;> rfl
  · rfl
  · simp only [outcome_bind]
    rcases outcome right later with ⟨error | (_ | _) | _, last⟩ <;> rfl

/-- A disjunction succeeds when its left side always holds, or when both sides succeed. -/
theorem outcome_disjunction_ok {left right : Compiling Condition}
    (succeeded : outcome (disjunction left right) params = (.ok compiled, later)) :
    (compiled = .literal true ∧ outcome left params = (.ok compiled, later)) ∨
      ∃ first middle second last, outcome left params = (.ok first, middle) ∧
        outcome right middle = (.ok second, last) ∧ compiled = first.disjoined second ∧
        Settled last later compiled := by
  rw [outcome_disjunction] at succeeded
  rcases begun : outcome left params with ⟨error | (_ | _) | ⟨fragment, grouped⟩, middle⟩
  case ok.literal.true =>
    rw [begun] at succeeded
    cases succeeded
    exact .inl ⟨rfl, rfl⟩
  case error =>
    rw [begun] at succeeded
    cases succeeded
  all_goals
    rw [begun] at succeeded
    dsimp only at succeeded
    rcases next : outcome right middle with ⟨error | (_ | _) | ⟨other, group⟩, last⟩
    case error =>
      rw [next] at succeeded
      cases succeeded
    case ok.literal.true =>
      rw [next] at succeeded
      cases succeeded
      exact .inr ⟨_, _, _, _, rfl, next, rfl, trivial⟩
    all_goals
      rw [next] at succeeded
      cases succeeded
      exact .inr ⟨_, _, _, _, rfl, next, rfl, settled_self _ _⟩

/-- What a conditional becomes whose test has not folded. -/
def remaining (test whenTrue whenFalse : Condition) : Condition :=
  match whenTrue, whenFalse with
  | .literal a, .literal b =>
    if a = b then .literal a else test.chosen (.literal a) (.literal b)
  | whenTrue, whenFalse => test.chosen whenTrue whenFalse

/-- A test that folds leaves one branch, and the other is not begun. Otherwise both are
begun, the one for a test that holds first. -/
theorem outcome_conditional (test ifTrue ifFalse : Compiling Condition) (params : ParamSet) :
    outcome (conditional test ifTrue ifFalse) params =
      match outcome test params with
      | (.error error, later) => (.error error, later)
      | (.ok (.literal true), later) => outcome (ifTrue >>= settled params.size) later
      | (.ok (.literal false), later) => outcome (ifFalse >>= settled params.size) later
      | (.ok (.sql fragment grouped), later) =>
        outcome (do
          let whenTrue ← ifTrue
          let whenFalse ← ifFalse
          settled params.size (remaining (.sql fragment grouped) whenTrue whenFalse)) later := by
  simp only [conditional, outcome_bind, outcome_mark]
  rcases outcome test params with ⟨error | (_ | _) | ⟨fragment, grouped⟩, later⟩
  · rfl
  · simp only [outcome_bind]
  · simp only [outcome_bind]
  · simp only [outcome_bind]
    rcases outcome ifTrue later with ⟨error | a | _, middle⟩
    · rfl
    · dsimp only
      rcases outcome ifFalse middle with ⟨error | b | _, last⟩
      · rfl
      · by_cases same : a = b <;> simp only [remaining, same, ↓reduceIte]
      · rfl
    · rfl

/-- A conditional succeeds with the branch that its test leaves, or with what remains of
all three parts. -/
theorem outcome_conditional_ok {test ifTrue ifFalse : Compiling Condition}
    (succeeded : outcome (conditional test ifTrue ifFalse) params = (.ok compiled, later)) :
    (∃ b middle last, outcome test params = (.ok (.literal b), middle) ∧
        outcome (if b then ifTrue else ifFalse) middle = (.ok compiled, last) ∧
        Settled last later compiled) ∨
      ∃ fragment grouped middle whenTrue second whenFalse last,
        outcome test params = (.ok (.sql fragment grouped), middle) ∧
        outcome ifTrue middle = (.ok whenTrue, second) ∧
        outcome ifFalse second = (.ok whenFalse, last) ∧
        compiled = remaining (.sql fragment grouped) whenTrue whenFalse ∧
        Settled last later compiled := by
  rw [outcome_conditional] at succeeded
  rcases begun : outcome test params with ⟨error | (_ | _) | ⟨fragment, grouped⟩, middle⟩
  case error =>
    rw [begun] at succeeded
    cases succeeded
  case ok.literal.false =>
    rw [begun] at succeeded
    obtain ⟨whenFalse, last, next, ended⟩ := outcome_bind_ok succeeded
    obtain ⟨rfl, kept⟩ := outcome_settled_ok ended
    exact .inl ⟨false, middle, last, rfl, next, kept⟩
  case ok.literal.true =>
    rw [begun] at succeeded
    obtain ⟨whenTrue, last, next, ended⟩ := outcome_bind_ok succeeded
    obtain ⟨rfl, kept⟩ := outcome_settled_ok ended
    exact .inl ⟨true, middle, last, rfl, next, kept⟩
  case ok.sql =>
    rw [begun] at succeeded
    obtain ⟨whenTrue, second, next, followed⟩ := outcome_bind_ok succeeded
    obtain ⟨whenFalse, last, nextOther, ended⟩ := outcome_bind_ok followed
    obtain ⟨same, kept⟩ := outcome_settled_ok ended
    exact .inr ⟨fragment, grouped, middle, whenTrue, second, whenFalse, last, rfl, next,
      nextOther, same, kept⟩

end Compiling

open Compiling in
/-- Compiling a predicate is the step for its condition. -/
theorem compile_eq_outcome (dialect : Dialect) (table : Table) (expr : Expr) (params : ParamSet) :
    compile dialect table expr params =
      outcome (condition dialect table expr >>= fun found => pure found.predicate) params := rfl

end Sqlwright
