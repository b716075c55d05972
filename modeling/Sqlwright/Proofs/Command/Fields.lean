import Sqlwright.Command.Update
import Sqlwright.Proofs.Predicate.Fields

/-!
# Fields that an update names

An update names fields in its assignments and in its filters. As with a predicate alone, building
it fails for an unknown field only if one of these has no column in the table.
-/

namespace Sqlwright

open Sql (Fragment)

/-- The fields that an update names. -/
def Update.fields (update : Update) : List String :=
  update.assignments.map (·.field) ++ update.filters.flatMap Expr.fields

/-- Why building may fail, given the fields that are named: a predicate has been refused for a
reason that these allow, or no predicate has. -/
inductive BuildReason (table : Table) (fields : List String) : BuildError → Prop
  | predicate {error : PredicateError} (reason : Reason table fields error) :
    BuildReason table fields (.predicate error)
  | other {error : BuildError} (apart : ∀ refusal, error ≠ .predicate refusal) :
    BuildReason table fields error

/-- Filters put together name what each of them names. -/
theorem fields_foldl_and (first : Expr) (rest : List Expr) :
    (rest.foldl Expr.and first).fields = first.fields ++ rest.flatMap Expr.fields := by
  induction rest generalizing first with
  | nil => simp
  | cons second rest inductionHypothesis =>
    rw [List.foldl_cons, inductionHypothesis, List.flatMap_cons, ← List.append_assoc]
    rfl

theorem fields_of_combined {filters : List Expr} {filter : Expr}
    (together : Command.combined filters = some filter) :
    filter.fields = filters.flatMap Expr.fields := by
  cases filters with
  | nil => cases together
  | cons first rest =>
    cases together
    exact fields_foldl_and first rest

namespace Building

variable {α β : Type} {table : Table} {fields : List String}

/-- A step fails for a reason only that the fields allow. -/
def Fails (table : Table) (fields : List String) (step : Building α) : Prop :=
  ∀ params error, step.run params = .error error → BuildReason table fields error

namespace Fails

theorem pure (result : α) : Fails table fields (Pure.pure result) := by
  intro params error failed
  cases failed

theorem bind {step : Building α} {next : α → Building β} (first : Fails table fields step)
    (rest : ∀ result, Fails table fields (next result)) :
    Fails table fields (step >>= next) := by
  intro params error failed
  rw [StateT.run_bind] at failed
  cases begun : step.run params with
  | error refusal =>
    rw [begun] at failed
    cases failed
    exact first params _ begun
  | ok reached =>
    rw [begun] at failed
    exact rest reached.1 reached.2 error failed

/-- Steps over a list fail for the reason of one of them. -/
theorem mapM {step : α → Building β} {items : List α}
    (each : ∀ item ∈ items, Fails table fields (step item)) :
    Fails table fields (items.mapM step) := by
  induction items with
  | nil => exact .pure _
  | cons item rest inductionHypothesis =>
    rw [List.mapM_cons]
    exact (each item (.head _)).bind fun _ =>
      (inductionHypothesis fun other member => each other (.tail _ member)).bind fun _ => .pure _

end Fails

/-- A statement fails for the reason that building it from nothing has. -/
theorem Fails.statement {dialect : Dialect} {build : Building Fragment} {error : BuildError}
    (fails : Fails table fields build) (failed : statement dialect build = .error error) :
    BuildReason table fields error := by
  unfold Building.statement at failed
  cases ended : build.run .empty with
  | error refusal =>
    rw [ended] at failed
    cases failed
    exact fails .empty _ ended
  | ok reached =>
    rw [ended] at failed
    cases failed

theorem fails_column {field : String} (named : field ∈ fields) :
    Fails table fields (liftM (Command.column table field)) := by
  intro params error failed
  unfold Command.column at failed
  split at failed
  · cases failed
  · rename_i missing
    cases failed
    exact .predicate (.unknown named missing)

theorem fails_bound (base : String) (value : Value) : Fails table fields (bound base value) := by
  intro params error failed
  cases failed

/-- An assignment fails only if its field is unknown. -/
theorem fails_assignment {assignment : Assignment} (named : assignment.field ∈ fields) :
    Fails table fields (Update.assignment table assignment) := by
  obtain ⟨field, source⟩ := assignment
  refine (fails_column named).bind fun column => ?_
  cases source with
  | value value => exact (fails_bound column.property value).bind fun _ => .pure _
  | sql text => exact .pure _

/-- A clause fails for the reason of its predicate. -/
theorem fails_whereClause (dialect : Dialect) {filter : Option Expr}
    (named : ∀ expr, filter = some expr → expr.fields ⊆ fields) :
    Fails table fields (whereClause dialect table filter) := by
  intro params error failed
  cases filter with
  | none => cases failed
  | some expr =>
    simp only [whereClause, StateT.run] at failed
    rcases compiled : compile dialect table expr params with ⟨refusal | predicate, later⟩
    · rw [compiled] at failed
      cases failed
      exact .predicate ((reason_of_compile compiled).mono (named expr rfl))
    · rw [compiled] at failed
      dsimp only at failed
      split at failed <;> cases failed

end Building

/-- Building an update is refused for an unknown field only if the update names that field and the
table has no column for it. -/
theorem reason_of_update {config : Config} {table : Table} {update : Update} {error : BuildError}
    (failed : update.build config table = .error error) :
    BuildReason (config.place table) update.fields error := by
  unfold Update.build at failed
  dsimp only at failed
  split at failed
  · cases failed
    exact .other fun _ same => by cases same
  · have assigned : ∀ assignment ∈ update.assignments,
        Building.Fails (config.place table) update.fields
          (Update.assignment (config.place table) assignment) := by
      intro assignment member
      exact Building.fails_assignment (List.mem_append_left _ (List.mem_map_of_mem member))
    have filtered : ∀ expr, Command.combined update.filters = some expr →
        expr.fields ⊆ update.fields := fun expr together =>
      fields_of_combined together ▸ List.subset_append_right _ _
    have whole := (Building.Fails.mapM assigned).bind fun assignments =>
      (Building.fails_whereClause config.dialect filtered).bind fun clause => Building.Fails.pure
        (Fragment.keyword .UPDATE ++ Command.tableName (config.place table) ++
          Fragment.keyword .SET ++ Fragment.commaList assignments ++ clause)
    exact whole.statement failed

end Sqlwright
