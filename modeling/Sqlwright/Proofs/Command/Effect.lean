import Sqlwright.Proofs.Command.Closed
import Sqlwright.Proofs.Schema.Lookup
import Sqlwright.Proofs.Sql.Change

/-!
# What updates and deletes do

An update is a change of the rows that its filters are true of: its assignments give columns
the values and expressions asked for. A delete removes such rows.

All filters are written as one condition. It is left out only if it is decided to hold, so
whether a row is concerned depends on the filters alone.
-/

namespace Sqlwright

open Sql (Change Fragment Interpretation Statement Term Truth)
open Sql.Reader (ReadsAssignment ReadsRestriction)
open Compiling (truthOf)

/-- Both sides of a conjunction that holds do. -/
theorem Sql.Truth.and_eq_yes_iff (a b : Truth) : a.and b = .yes ↔ a = .yes ∧ b = .yes := by
  cases a <;> cases b <;> decide

section

variable {table : Table} {reading : Interpretation}

/-- Conditions connected from the left hold if all of them do. -/
theorem truthOf_foldl_and_eq_yes_iff (first : Expr) (rest : List Expr) :
    truthOf table (rest.foldl Expr.and first) reading = .yes ↔
      ∀ filter ∈ first :: rest, truthOf table filter reading = .yes := by
  induction rest generalizing first with
  | nil => simp
  | cons next rest inductionHypothesis =>
    have both : truthOf table (first.and next) reading = .yes ↔
        truthOf table first reading = .yes ∧ truthOf table next reading = .yes :=
      Truth.and_eq_yes_iff _ _
    rw [List.foldl_cons, inductionHypothesis]
    simp only [List.forall_mem_cons, both, and_assoc]

/-- All conditions together hold if each of them does. -/
theorem truthOf_allOf_eq_yes_iff (conditions : List Expr) :
    truthOf table (.allOf conditions) reading = .yes ↔
      ∀ condition ∈ conditions, truthOf table condition reading = .yes := by
  cases conditions with
  | nil =>
    constructor
    · intro _ condition member
      cases member
    · intro _
      rfl
  | cons first rest => exact truthOf_foldl_and_eq_yes_iff first rest

end

/-- A conjunction is not decided to hold unless its first member is. -/
theorem decided?_foldl_and_ne_true {first : Expr} (rest : List Expr)
    (undecided : first.decided? ≠ some true) :
    (rest.foldl Expr.and first).decided? ≠ some true := by
  induction rest generalizing first with
  | nil => exact undecided
  | cons next rest inductionHypothesis =>
    refine inductionHypothesis ?_
    show decidedAnd first.decided? next.decided? ≠ some true
    intro decided
    unfold decidedAnd at decided
    split at decided
    · cases decided
    · cases decided
    · rename_i holds _
      exact undecided holds
    · cases decided

/-- The condition of a change is true where all filters are. It is missing only if they are
decided to hold. -/
structure Restricts (table : Table) (params : ParamSet) (filters : List Expr)
    (condition : Option Sql.Formula) : Prop where
  unrestricted : condition = none →
    ∀ whole, Command.combined filters = some whole → whole.decided? = some true
  holds : ∀ reading : Interpretation, reading.Knows params →
    (reading.restriction condition = .yes ↔
      ∀ filter ∈ filters, truthOf table filter reading = .yes)

/-- A predicate that always holds is the constant. -/
theorem Predicate.eq_literal_of_isTrue {predicate : Predicate}
    (always : predicate.isTrue = true) : predicate = .literal true := by
  unfold Predicate.isTrue at always
  split at always
  · rfl
  · cases always

/-- The filters of a command are written as a restriction to the rows that they are true
of. -/
theorem restricts_of_whereClause {dialect : Dialect} {table : Table} {filters : List Expr}
    {params later : ParamSet} {fragment : Fragment}
    (written : (Building.whereClause dialect table (Command.combined filters)).run params =
      .ok (fragment, later)) :
    ∃ condition, ReadsRestriction dialect fragment condition ∧
      Restricts table later filters condition := by
  cases filters with
  | nil =>
    cases written
    refine ⟨none, Sql.Reader.readsRestriction_nil, ?_, fun reading _ => ?_⟩
    · intro _ whole found
      cases found
    · constructor
      · intro _ filter member
        cases member
      · intro _
        rfl
  | cons first rest =>
    let whole := rest.foldl Expr.and first
    have holds (reading : Interpretation) : truthOf table whole reading = .yes ↔
        ∀ filter ∈ first :: rest, truthOf table filter reading = .yes :=
      truthOf_foldl_and_eq_yes_iff first rest
    simp only [Command.combined, Building.whereClause, StateT.run] at written
    rcases compiled : compile dialect table whole params with ⟨error | predicate, last⟩
    · rw [compiled] at written
      cases written
    · rw [compiled] at written
      dsimp only at written
      split at written
      · rename_i constant
        cases written
        have decided : whole.decided? = some true := by
          refine (literal_iff_of_compile compiled true).mp ?_
          exact Predicate.eq_literal_of_isTrue constant
        refine ⟨none, Sql.Reader.readsRestriction_nil, ?_, fun reading _ => ?_⟩
        · intro _ other same
          cases same
          exact decided
        · have always : truthOf table whole reading = .yes :=
            Expr.decides reading.engine table reading.row whole true decided
          exact ⟨fun _ => (holds reading).mp always, fun _ => rfl⟩
      · cases written
        obtain ⟨formula, disjunction, reads, same⟩ := reads_of_compile compiled
        refine ⟨some formula, Sql.Reader.readsRestriction_where reads, ?_, ?_⟩
        · intro missing
          cases missing
        · intro reading knows
          show reading.truth formula = .yes ↔ _
          rw [same reading knows]
          exact holds reading

/-- The value of what a column is set to. -/
def Source.denotes (reading : Interpretation) : Source → Value
  | .value captured => captured
  | .sql text => reading.engine.raw [.text text]

/-- An assignment gives the column that its field names the value of its source. -/
structure Assigns (table : Table) (params : ParamSet) (assignment : Assignment)
    (read : String × Term) : Prop where
  target : ∃ column, table.column? assignment.field = some column ∧ read.1 = column.name
  source : ∀ reading : Interpretation, reading.Knows params →
    reading.value read.2 = assignment.source.denotes reading

/-- More bindings change no assignment. -/
theorem Assigns.extended {table : Table} {params later : ParamSet} {assignment : Assignment}
    {read : String × Term} (assigns : Assigns table params assignment read)
    (kept : params.entries <+: later.entries) : Assigns table later assignment read :=
  ⟨assigns.target, fun reading knows => assigns.source reading (knows.earlier kept)⟩

/-- An assignment is written as one. -/
theorem assigns_of_assignment (dialect : Dialect) {table : Table} {assignment : Assignment}
    {params later : ParamSet} {fragment : Fragment}
    (written : (Update.assignment table assignment).run params = .ok (fragment, later)) :
    ∃ read, ReadsAssignment dialect fragment read ∧ Assigns table later assignment read := by
  obtain ⟨column, middle, looked, followed⟩ := Building.run_bind_ok written
  obtain ⟨found, rfl⟩ := Building.run_lift_ok looked
  have target : table.column? assignment.field = some column := by
    unfold Command.column at found
    split at found
    · rename_i same
      cases found
      exact same
    · cases found
  cases assigned : assignment.source with
  | value value =>
    rw [assigned] at followed
    obtain ⟨source, last, bound, ended⟩ := Building.run_bind_ok followed
    cases bound
    cases ended
    refine ⟨_, Sql.Reader.readsAssignment_of_piece column.name rfl, ⟨column, target, rfl⟩, ?_⟩
    intro reading knows
    rw [assigned]
    exact knows _ _ (middle.get?_add column.property value)
  | sql text =>
    rw [assigned] at followed
    cases followed
    refine ⟨_, Sql.Reader.readsAssignment_of_piece column.name rfl, ⟨column, target, rfl⟩, ?_⟩
    intro reading _
    rw [assigned]
    rfl

/-- Assignments are written one by one. -/
theorem assigns_of_mapM (dialect : Dialect) {table : Table} {assignments : List Assignment}
    {params later : ParamSet} {fragments : List Fragment}
    (written : (assignments.mapM (Update.assignment table)).run params = .ok (fragments, later)) :
    ∃ reads : List (Fragment × String × Term), reads.map Prod.fst = fragments ∧
      (∀ read ∈ reads, ReadsAssignment dialect read.1 read.2) ∧
      List.Forall₂ (Assigns table later) assignments (reads.map Prod.snd) := by
  induction assignments generalizing params fragments with
  | nil =>
    cases written
    exact ⟨[], rfl, by simp, .nil⟩
  | cons first rest inductionHypothesis =>
    rw [List.mapM_cons] at written
    obtain ⟨fragment, middle, begun, followed⟩ := Building.run_bind_ok written
    obtain ⟨others, last, remaining, ended⟩ := Building.run_bind_ok followed
    cases ended
    obtain ⟨read, reads, assigns⟩ := assigns_of_assignment dialect begun
    obtain ⟨more, rfl, each, all⟩ := inductionHypothesis remaining
    have kept := (Building.accounted_mapM (Command.accounted_assignment table) rest _ _ _
      remaining).kept
    refine ⟨(fragment, read) :: more, rfl, ?_, .cons (assigns.extended kept) all⟩
    exact List.forall_mem_cons.mpr ⟨reads, each⟩

section

variable {config : Config} {table : Table} {statement : Statement}

/-- A delete removes the rows that its filters are true of. -/
theorem change_of_delete {command : Delete}
    (built : command.build config table = .ok statement) :
    ∃ change, statement.change? = some change ∧ change.schema = (config.place table).schema ∧
      change.table = table.name ∧
      Restricts (config.place table) change.params command.filters change.condition ∧
      change.action = .remove := by
  obtain ⟨succeeded, sameDialect⟩ := Building.run_of_statement built
  obtain ⟨filter, middle, filtered, ended⟩ := Building.run_bind_ok succeeded
  obtain ⟨condition, reads, restricts⟩ := restricts_of_whereClause filtered
  obtain ⟨written, rfl⟩ := Prod.mk.inj (Except.ok.inj ended)
  rw [← sameDialect] at reads
  exact ⟨_, Sql.Reader.change?_of_delete written.symm reads, rfl, rfl, restricts, rfl⟩

/-- An update assigns to the rows that its filters are true of. -/
theorem change_of_update {command : Update}
    (built : command.build config table = .ok statement) :
    ∃ change assigned, statement.change? = some change ∧
      change.schema = (config.place table).schema ∧ change.table = table.name ∧
      change.dialect = config.dialect ∧
      Restricts (config.place table) change.params command.filters change.condition ∧
      change.action = .assign assigned ∧
      List.Forall₂ (Assigns (config.place table) change.params) command.assignments
        assigned := by
  unfold Update.build at built
  dsimp only at built
  split at built
  · cases built
  · rename_i several
    obtain ⟨succeeded, sameDialect⟩ := Building.run_of_statement built
    obtain ⟨fragments, middle, first, succeeded⟩ := Building.run_bind_ok succeeded
    obtain ⟨filter, last, filtered, ended⟩ := Building.run_bind_ok succeeded
    obtain ⟨condition, reads, restricts⟩ := restricts_of_whereClause filtered
    obtain ⟨assigned, rfl, each, all⟩ := assigns_of_mapM config.dialect first
    obtain ⟨written, rfl⟩ := Prod.mk.inj (Except.ok.inj ended)
    have kept := (Building.accounted_whereClause _ _ _ _ _ _ filtered).kept
    have nonempty : assigned ≠ [] := by
      rintro rfl
      have none : command.assignments = [] := List.forall₂_nil_right_iff.mp all
      exact several (List.isEmpty_iff.mpr none)
    rw [← sameDialect] at reads each
    exact ⟨_, _, Sql.Reader.change?_of_update written.symm nonempty each reads, rfl, rfl,
      sameDialect, restricts, rfl, all.imp fun _ _ assigns => assigns.extended kept⟩

end

end Sqlwright
