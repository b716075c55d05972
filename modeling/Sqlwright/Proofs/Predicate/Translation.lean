import Sqlwright.Proofs.Predicate.Soundness

/-!
# Predicates as they stand in statements

A compiled predicate is a fragment that other parts of a statement are put around. It is
read as a condition there, and in each row the condition has the truth of the tree. Hence
the truth of what is written can be spoken of as a value of its own: it exists exactly
where the tree compiles, and it does not depend on what was bound before.
-/

namespace Sqlwright

open Sql (Engine Interpretation Truth)
open Sql.Reader (Reads)

/-- A row read with the values of a parameter set. A name without binding is NULL. -/
def Sql.Interpretation.over (engine : Engine) (row : String → Value) (params : ParamSet) :
    Interpretation :=
  ⟨engine, row, fun name => (params.get? name).getD .null⟩

/-- A reading with the values of a set knows what the set binds. -/
theorem Sql.Interpretation.knows_over (engine : Engine) (row : String → Value)
    (params : ParamSet) : (Interpretation.over engine row params).Knows params := by
  intro name value bound
  show (params.get? name).getD .null = value
  rw [bound, Option.getD_some]

section

open Compiling

variable {dialect : Dialect} {table : Table} {expr : Expr} {params later : ParamSet}
  {predicate : Predicate}

/-- A compiled predicate comes from the step for its condition. -/
theorem outcome_of_compile
    (compiled : compile dialect table expr params = (.ok predicate, later)) :
    ∃ found, outcome (condition dialect table expr) params = (.ok found, later) ∧
      predicate = found.predicate := by
  rw [compile_eq_outcome] at compiled
  obtain ⟨found, middle, begun, ended⟩ := outcome_bind_ok compiled
  cases ended
  exact ⟨found, begun, rfl⟩

/-- Where the step for a condition succeeds, the predicate compiles. -/
theorem compile_of_outcome {found : Condition}
    (succeeded : outcome (condition dialect table expr) params = (.ok found, later)) :
    compile dialect table expr params = (.ok found.predicate, later) := by
  rw [compile_eq_outcome, outcome_bind, succeeded]
  rfl

/-- Compiling folds a predicate to a constant exactly when the tree is decided so. -/
theorem literal_iff_of_compile
    (compiled : compile dialect table expr params = (.ok predicate, later)) (b : Bool) :
    predicate = .literal b ↔ expr.decided? = some b := by
  obtain ⟨found, begun, rfl⟩ := outcome_of_compile compiled
  have decision : found.decided? = expr.decided? := folds_condition dialect table expr _ _ _ begun
  rw [← decision]
  cases found with
  | literal c => simp [Condition.predicate, Condition.decided?]
  | sql fragment disjunction => simp [Condition.predicate, Condition.decided?]

/-- What a predicate compiles to is read as a condition wherever it stands, and has the
truth of the tree in every reading that knows the bindings. -/
theorem reads_of_compile
    (compiled : compile dialect table expr params = (.ok predicate, later)) :
    ∃ formula disjunction, Reads dialect predicate.fragment disjunction formula ∧
      ∀ reading : Interpretation, reading.Knows later →
        reading.truth formula = truthOf table expr reading := by
  obtain ⟨found, begun, rfl⟩ := outcome_of_compile compiled
  have means := sound_condition dialect table expr params found later begun
  cases found with
  | literal b =>
    refine ⟨.literal b, false, Sql.Reader.reads_truth b, fun reading _ => ?_⟩
    exact (means reading).symm
  | sql fragment disjunction =>
    obtain ⟨formula, reads, same⟩ := means
    exact ⟨formula, disjunction, reads, same⟩

end

/-- The truth in a row of what a tree compiles to; none if it does not compile. -/
def Expr.translated? (dialect : Dialect) (table : Table) (engine : Engine)
    (row : String → Value) (params : ParamSet) (expr : Expr) : Option Truth :=
  match compile dialect table expr params with
  | (.ok predicate, later) =>
    (Sql.Reader.read dialect predicate.fragment).map (Interpretation.over engine row later).truth
  | (.error _, _) => none

/-- What a tree compiles to has the truth of the tree. -/
theorem Expr.translated?_of_compile {dialect : Dialect} {table : Table} {expr : Expr}
    {params later : ParamSet} {predicate : Predicate}
    (compiled : compile dialect table expr params = (.ok predicate, later)) (engine : Engine)
    (row : String → Value) :
    expr.translated? dialect table engine row params = some (expr.truth engine table row) := by
  obtain ⟨formula, disjunction, ⟨parts, nests, whole, _⟩, same⟩ := reads_of_compile compiled
  have read := Sql.Reader.read_of_nests nests whole
  have truth := same _ (Interpretation.knows_over engine row later)
  simp only [translated?, compiled, read, Option.map_some, truth]
  rfl

/-- Hence it is the same whatever was bound before. -/
theorem Expr.eq_truth_of_translated? {dialect : Dialect} {table : Table} {expr : Expr}
    {engine : Engine} {row : String → Value} {params : ParamSet} {truth : Truth}
    (translated : expr.translated? dialect table engine row params = some truth) :
    truth = expr.truth engine table row := by
  rcases compiled : compile dialect table expr params with ⟨error | predicate, later⟩
  · simp [translated?, compiled] at translated
  · rw [translated?_of_compile compiled] at translated
    exact (Option.some.inj translated).symm

end Sqlwright
