import Sqlwright.Command.Delete
import Sqlwright.Command.Select
import Sqlwright.Command.Update
import Sqlwright.Proofs.Predicate.Dialects

/-!
# Commands in different dialects

A filter is compiled alike for all dialects, but for the spelling of truth values. So a command
that asks for the dialect nowhere else does the same in each: it fails with the same error, or its
statement binds the same values to the same names. What a step of building has written does not
matter for this, since no later step looks at it.
-/

namespace Sqlwright

open Sql (Fragment Statement)

namespace Building

variable {α β : Type}

/-- Two ends with the same error, or with the same parameters. -/
inductive EndsAlike :
    Except BuildError (α × ParamSet) → Except BuildError (α × ParamSet) → Prop
  | ok {result other : α} {later : ParamSet} : EndsAlike (.ok (result, later)) (.ok (other, later))
  | error {error : BuildError} : EndsAlike (.error error) (.error error)

/-- Begun with the same parameters, two steps end alike. -/
def BindsAlike (step other : Building α) : Prop :=
  ∀ params, EndsAlike (step.run params) (other.run params)

namespace BindsAlike

theorem pure (result other : α) : BindsAlike (Pure.pure result) (Pure.pure other) := fun _ => .ok

/-- A step binds what it binds. -/
theorem refl (step : Building α) : BindsAlike step step := by
  intro params
  rcases step.run params with error | ⟨result, later⟩
  · exact .error
  · exact .ok

/-- Steps bind alike one after another, whatever the first of them have written. -/
theorem bind {step other : Building α} {next nextOther : α → Building β}
    (first : BindsAlike step other)
    (rest : ∀ result found, BindsAlike (next result) (nextOther found)) :
    BindsAlike (step >>= next) (other >>= nextOther) := by
  intro params
  have reached := first params
  rw [StateT.run_bind, StateT.run_bind]
  generalize step.run params = ended, other.run params = endedOther at reached ⊢
  cases reached with
  | ok => exact rest _ _ _
  | error => exact .error

/-- Statements that are built alike fail alike or have the same parameters. -/
theorem statement {build other : Building Fragment} (alike : BindsAlike build other)
    (left right : Dialect) :
    (Building.statement left build).map (·.params) =
      (Building.statement right other).map (·.params) := by
  have reached := alike .empty
  unfold Building.statement
  generalize build.run .empty = ended, other.run .empty = endedOther at reached ⊢
  cases reached with
  | ok => rfl
  | error => rfl

end BindsAlike

/-- A clause binds what its filter binds. Where no clause is written, none is in the other
dialect. -/
theorem bindsAlike_whereClause (left right : Dialect) (table : Table) (filter : Option Expr) :
    BindsAlike (whereClause left table filter) (whereClause right table filter) := by
  intro params
  cases filter with
  | none => exact .ok
  | some expr =>
    have compiled := Compiling.agreed_compile left right table expr params
    simp only [whereClause, StateT.run]
    generalize compile left table expr params = ended,
      compile right table expr params = endedOther at compiled ⊢
    cases compiled with
    | error => exact .error
    | ok related =>
      cases related with
      | literal b =>
        cases b with
        | true => exact .ok
        | false => exact .ok
      | sql related => exact .ok

end Building

/-- The dialect does not matter to a predicate beyond the spelling of one value. Compiled for two
dialects, a predicate leaves the same parameters; and it fails with the same error, folds to the
same truth value, or becomes the same chunks but for the true value that a bare field is compared
with, which each dialect spells in its own way. So a delete, a count and an update with the same
filters fail with the same error in all dialects, or bind the same values to the same names. -/
theorem dialect_only_spells_truth (table : Table) (left right : Dialect) :
    (∀ expr params,
      (compile left table expr params).2 = (compile right table expr params).2 ∧
      match (compile left table expr params).1, (compile right table expr params).1 with
      | .error error, .error other => error = other
      | .ok (.literal b), .ok (.literal other) => b = other
      | .ok (.sql fragment), .ok (.sql other) =>
        Respelled left right table expr.bareFields fragment other
      | _, _ => False) ∧
    ∀ config : Config,
      (∀ delete : Delete,
        (delete.build { config with dialect := left } table).map (·.params) =
          (delete.build { config with dialect := right } table).map (·.params)) ∧
      (∀ count : Count,
        (count.build { config with dialect := left } table).map (·.params) =
          (count.build { config with dialect := right } table).map (·.params)) ∧
      ∀ update : Update,
        (update.build { config with dialect := left } table).map (·.params) =
          (update.build { config with dialect := right } table).map (·.params) := by
  constructor
  · intro expr params
    have compiled := Compiling.agreed_compile left right table expr params
    generalize compile left table expr params = ended,
      compile right table expr params = endedOther at compiled ⊢
    cases compiled with
    | error => exact ⟨rfl, rfl⟩
    | ok related =>
      cases related with
      | literal b => exact ⟨rfl, rfl⟩
      | sql respelled => exact ⟨rfl, respelled⟩
  · intro config
    have filtered (filters : List Expr) :
        Building.BindsAlike
          (Building.whereClause left (config.place table) (Command.combined filters))
          (Building.whereClause right (config.place table) (Command.combined filters)) :=
      Building.bindsAlike_whereClause left right _ _
    refine ⟨?delete, ?count, ?update⟩
    case delete =>
      intro delete
      exact ((filtered delete.filters).bind fun _ _ => .pure _ _).statement left right
    case count =>
      intro count
      exact ((filtered count.filters).bind fun _ _ => .pure _ _).statement left right
    case update =>
      intro update
      unfold Update.build
      split
      · rfl
      · apply Building.BindsAlike.statement
        apply (Building.BindsAlike.refl _).bind
        intro assignments assignmentsOther
        exact (filtered update.filters).bind fun _ _ => .pure _ _

end Sqlwright
