import Sqlwright.Command
import Sqlwright.Proofs.Basic
import Sqlwright.Proofs.Predicate.Accounting
import Sqlwright.Proofs.Sql.Placeholders

/-!
# Built statements are closed

A built statement names exactly what it binds, in one order: the distinct parameters of
its text, by first appearance, are the names of its parameter set. Each step of building
keeps this up, since it binds what its own fragment names; the steps of a command are put
together in the order in which they are run.

What a command writes around the bound parts has no parameters. This includes texts of
columns and assignments that are written as they are.
-/

namespace Sqlwright

open Sql (Fragment Statement)

namespace Building

variable {α β : Type}

/-- Two steps succeed together when the first does and the second does after it. -/
theorem run_bind_ok {step : Building α} {next : α → Building β} {params later : ParamSet}
    {result : β} (succeeded : (step >>= next).run params = .ok (result, later)) :
    ∃ first middle, step.run params = .ok (first, middle) ∧
      (next first).run middle = .ok (result, later) := by
  obtain ⟨⟨first, middle⟩, begun, followed⟩ := except_bind_ok succeeded
  exact ⟨first, middle, begun, followed⟩

/-- What follows a step that succeeds runs from its result. -/
theorem run_bind_of_ok {step : Building α} {next : α → Building β} {params middle : ParamSet}
    {first : α} (begun : step.run params = .ok (first, middle)) :
    (step >>= next).run params = (next first).run middle := by
  rw [StateT.run_bind, begun]
  rfl

/-- A step without bindings leaves the parameters as they are. -/
theorem run_lift_ok {source : Except BuildError α} {params later : ParamSet} {result : α}
    (succeeded : (liftM source : Building α).run params = .ok (result, later)) :
    source = .ok result ∧ later = params := by
  obtain ⟨value, found, same⟩ := except_bind_ok succeeded
  cases same
  exact ⟨found, rfl⟩

/-- A built statement is in the dialect that it was built for. Its fragment and its parameters
are the outcome of building from nothing. -/
theorem run_of_statement {dialect : Dialect} {build : Building Fragment} {built : Statement}
    (succeeded : statement dialect build = .ok built) :
    build.run .empty = .ok (built.fragment, built.params) ∧ built.dialect = dialect := by
  unfold statement at succeeded
  cases ended : build.run .empty with
  | error error =>
    rw [ended] at succeeded
    cases succeeded
  | ok outcome =>
    rw [ended] at succeeded
    cases succeeded
    exact ⟨rfl, rfl⟩

/-- What has been built from nothing is the statement. -/
theorem statement_of_run {dialect : Dialect} {build : Building Fragment} {fragment : Fragment}
    {params : ParamSet} (ran : build.run .empty = .ok (fragment, params)) :
    statement dialect build = .ok { dialect, fragment, params } := by
  rw [statement, ran]
  rfl

/-- A step binds what its result names. -/
def Accounted (names : α → List String) (step : Building α) : Prop :=
  ∀ params result later, step.run params = .ok (result, later) →
    params.Binds later (names result)

/-- A result without parameters binds none. -/
theorem accounted_pure {names : α → List String} {result : α} (none : names result = []) :
    Accounted names (pure result : Building α) := by
  intro params found later succeeded
  cases succeeded
  rw [none]
  exact .refl params

/-- Binding a value is accounted for by the reference to it. -/
theorem accounted_bound (base : String) (value : Value) :
    Accounted Fragment.paramNames (bound base value) := by
  intro params found later succeeded
  cases succeeded
  exact params.binds_add base value

/-- A condition names what compiling it has bound. One that always holds has bound
nothing. -/
theorem accounted_whereClause (dialect : Dialect) (table : Table) (filter : Option Expr) :
    Accounted Fragment.paramNames (whereClause dialect table filter) := by
  intro params found later succeeded
  cases filter with
  | none =>
    cases succeeded
    exact .refl params
  | some filter =>
    have bound := compile_binds dialect table filter params
    simp only [whereClause, StateT.run] at succeeded
    generalize compile dialect table filter params = ended at bound succeeded
    rcases ended with ⟨error | ⟨_ | _⟩ | fragment, last⟩
    · cases succeeded
    · cases succeeded
      obtain rfl : later = params := bound
      exact .refl later
    · cases succeeded
      obtain rfl : later = params := bound
      exact .refl later
    · cases succeeded
      exact ParamSet.Binds.congr bound (by simp [Predicate.fragment])

/-- Steps over a list bind what their results name, one after another. -/
theorem accounted_mapM {step : α → Building Fragment}
    (each : ∀ item, Accounted Fragment.paramNames (step item)) (items : List α) :
    Accounted (fun fragments => fragments.flatMap Fragment.paramNames) (items.mapM step) := by
  induction items with
  | nil => exact accounted_pure rfl
  | cons item rest inductionHypothesis =>
    intro params found later succeeded
    rw [List.mapM_cons] at succeeded
    obtain ⟨first, middle, begun, succeeded⟩ := run_bind_ok succeeded
    obtain ⟨others, last, followed, succeeded⟩ := run_bind_ok succeeded
    cases succeeded
    exact (each item params first middle begun).trans
      (inductionHypothesis middle others _ followed)

end Building

namespace Command

@[simp] theorem paramNames_tableName (table : Table) : (tableName table).paramNames = [] := rfl

@[simp] theorem paramNames_insertInto (table : Table) : (insertInto table).paramNames = [] := rfl

@[simp] theorem paramNames_ofRow (row : String) (column : Column) :
    (ofRow row column).paramNames = [] := rfl

/-- Names of columns are no parameters. -/
@[simp] theorem paramNames_columnList (columns : List Column) :
    (columnList columns).paramNames = [] := by
  simp [columnList, List.flatMap_map]

/-- A cell binds its value, or is written as it is. -/
theorem accounted_cell (column : Column) (value : Value) :
    Building.Accounted Fragment.paramNames (cell column value) := by
  unfold cell
  split
  · exact Building.accounted_pure (Fragment.paramNames_raw _)
  · exact Building.accounted_bound column.property value

/-- A row binds what its cells bind. -/
theorem accounted_valueRow (row : List (Column × Value)) :
    Building.Accounted Fragment.paramNames (valueRow row) := by
  intro params found later succeeded
  obtain ⟨cells, middle, written, succeeded⟩ := Building.run_bind_ok succeeded
  cases succeeded
  have each : ∀ cell' : Column × Value,
      Building.Accounted Fragment.paramNames (cell cell'.1 cell'.2) := fun cell' =>
    accounted_cell cell'.1 cell'.2
  have bound := Building.accounted_mapM each row params cells _ written
  simpa using bound

end Command

namespace Select

open Command

@[simp] theorem paramNames_outputColumn (aliasColumns : Bool) (column : Column) :
    (outputColumn aliasColumns column).paramNames = [] := by
  unfold outputColumn
  split <;> simp

/-- The select list binds nothing. -/
theorem flatMap_outputColumn (aliasColumns : Bool) (columns : List Column) :
    (columns.map (outputColumn aliasColumns)).flatMap Fragment.paramNames = [] := by
  simp [List.flatMap_map]

/-- Sort terms bind nothing. -/
theorem paramNames_sortTerms {table : Table} {order : List SortTerm} {terms : List Fragment}
    (written : order.mapM (sortTerm table) = .ok terms) :
    terms.flatMap Fragment.paramNames = [] := by
  induction order generalizing terms with
  | nil =>
    cases written
    rfl
  | cons term rest inductionHypothesis =>
    rw [List.mapM_cons] at written
    obtain ⟨first, found, written⟩ := except_bind_ok written
    obtain ⟨others, remaining, written⟩ := except_bind_ok written
    obtain ⟨column, _, found⟩ := except_bind_ok found
    cases written
    cases found
    simp [inductionHypothesis remaining]

/-- Sorting binds nothing. -/
theorem paramNames_orderClause {table : Table} {order : List SortTerm} {clause : Fragment}
    (written : orderClause table order = .ok clause) : clause.paramNames = [] := by
  unfold orderClause at written
  split at written
  · cases written
    rfl
  · obtain ⟨terms, sorted, written⟩ := except_bind_ok written
    cases written
    simp [paramNames_sortTerms sorted]

/-- Paging binds nothing. -/
@[simp] theorem paramNames_pagingClause (dialect : Dialect) (sorted : Bool)
    (limit offset : Option UInt64) :
    (pagingClause dialect sorted limit offset).paramNames = [] := by
  cases dialect <;> cases limit <;> cases offset <;> cases sorted <;>
    simp [pagingClause, writtenLimit, rowCount]

end Select

namespace Insert

open Command

@[simp] theorem paramNames_outputClause (dialect : Dialect) (identity : Option Column) :
    (outputClause dialect identity).paramNames = [] := by
  unfold outputClause
  split <;> simp

@[simp] theorem paramNames_returningClause (dialect : Dialect) (rows : Nat)
    (identity : Option Column) : (returningClause dialect rows identity).paramNames = [] := by
  unfold returningClause
  split
  · rfl
  · split
    · simp
    · split <;> simp

/-- Rows of defaults bind nothing. -/
theorem paramNames_defaultRows {dialect : Dialect} {table : Table} {rows : Nat}
    {identity : Option Column} {fragment : Fragment}
    (written : defaultRows dialect table rows identity = .ok fragment) :
    fragment.paramNames = [] := by
  unfold defaultRows at written
  split at written
  · cases written
    simp [emptyRow]
  · split at written
    · cases written
    · cases written
      simp

end Insert

namespace Upsert

open Command

@[simp] theorem paramNames_incoming (dialect : Dialect) (column : Column) :
    (incoming dialect column).paramNames = [] := by
  cases dialect <;> simp [incoming]

@[simp] theorem paramNames_assignments (dialect : Dialect) (updated : List Column) :
    (assignments dialect updated).paramNames = [] := by
  rw [assignments, Fragment.paramNames_commaList, List.flatMap_eq_nil_iff]
  intro written member
  obtain ⟨column, _, rfl⟩ := List.mem_map.mp member
  cases column.updateSql <;> simp

theorem paramNames_onConflict (dialect : Dialect) (table : Table) (inserted : List Column)
    (values : Fragment) :
    (onConflict dialect table inserted values).paramNames = values.paramNames := by
  by_cases unchanged : table.updatable.isEmpty <;> simp [onConflict, unchanged]

theorem paramNames_onDuplicateKey (dialect : Dialect) (table : Table) (inserted : List Column)
    (values : Fragment) :
    (onDuplicateKey dialect table inserted values).paramNames = values.paramNames := by
  by_cases unchanged : table.updatable.isEmpty
  · cases key : table.keys.head? <;> simp [onDuplicateKey, unchanged, key]
  · simp [onDuplicateKey, unchanged]

theorem paramNames_merge (dialect : Dialect) (table : Table) (inserted : List Column)
    (values : Fragment) :
    (merge dialect table inserted values).paramNames = values.paramNames := by
  by_cases unchanged : table.updatable.isEmpty <;>
    simp [merge, unchanged, List.flatMap_map]

/-- Around the values of its row an upsert has no parameters. -/
theorem paramNames_body (dialect : Dialect) (table : Table) (values : Fragment) :
    (body dialect table values).paramNames = values.paramNames := by
  cases dialect
  case sqlite => exact paramNames_onConflict _ _ _ _
  case postgresql => exact paramNames_onConflict _ _ _ _
  case mysql => exact paramNames_onDuplicateKey _ _ _ _
  case sqlserver => exact paramNames_merge _ _ _ _

end Upsert

/-- The parameter set binds what the fragment names, each name once, in the order of first
appearance. -/
def Sql.Statement.Closed (statement : Statement) : Prop :=
  ParamSet.empty.Binds statement.params statement.fragment.paramNames

/-- A statement is closed when its building accounts for all bindings. -/
theorem Building.closed_of_accounted {dialect : Dialect} {build : Building Fragment}
    {statement : Statement} (accounted : Building.Accounted Fragment.paramNames build)
    (built : Building.statement dialect build = .ok statement) : statement.Closed := by
  unfold Building.statement at built
  cases ended : build.run .empty with
  | error error =>
    rw [ended] at built
    cases built
  | ok outcome =>
    rw [ended] at built
    cases built
    exact accounted _ _ _ ended

namespace Command

variable {config : Config} {table : Table} {statement : Statement}

open Building (run_bind_ok run_lift_ok closed_of_accounted accounted_whereClause)

/-- A select binds in its filter only. -/
theorem closed_select {query : Select} (built : query.build config table = .ok statement) :
    statement.Closed := by
  unfold Select.build at built
  dsimp only at built
  split at built
  · cases built
  · refine closed_of_accounted ?_ built
    intro params found later succeeded
    obtain ⟨filter, middle, filtered, followed⟩ := run_bind_ok succeeded
    obtain ⟨order, last, ordered, ended⟩ := run_bind_ok followed
    obtain ⟨sorted, rfl⟩ := run_lift_ok ordered
    cases ended
    have bound := accounted_whereClause _ _ _ params filter _ filtered
    refine bound.congr ?_
    by_cases empty : query.emptyPage config.dialect <;>
      simp [empty, Select.paramNames_orderClause sorted, Select.flatMap_outputColumn]

/-- A count binds in its filter only. -/
theorem closed_count {query : Count} (built : query.build config table = .ok statement) :
    statement.Closed := by
  refine closed_of_accounted ?_ built
  intro params found later succeeded
  obtain ⟨filter, middle, filtered, succeeded⟩ := run_bind_ok succeeded
  cases succeeded
  have bound := accounted_whereClause _ _ _ params filter _ filtered
  exact bound.congr (by simp)

/-- A delete binds in its filter only. -/
theorem closed_delete {command : Delete} (built : command.build config table = .ok statement) :
    statement.Closed := by
  refine closed_of_accounted ?_ built
  intro params found later succeeded
  obtain ⟨filter, middle, filtered, succeeded⟩ := run_bind_ok succeeded
  cases succeeded
  have bound := accounted_whereClause _ _ _ params filter _ filtered
  exact bound.congr (by simp)

/-- An assignment binds its value, or is written as it is. -/
theorem accounted_assignment (table : Table) (assignment : Assignment) :
    Building.Accounted Fragment.paramNames (Update.assignment table assignment) := by
  intro params found later succeeded
  obtain ⟨column, middle, looked, followed⟩ := run_bind_ok succeeded
  obtain ⟨_, rfl⟩ := run_lift_ok looked
  cases assigned : assignment.source with
  | value value =>
    rw [assigned] at followed
    obtain ⟨source, last, written, ended⟩ := run_bind_ok followed
    cases ended
    have bound := Building.accounted_bound column.property value _ source _ written
    exact bound.congr (by simp)
  | sql text =>
    rw [assigned] at followed
    cases followed
    exact .refl _

/-- An update binds in its assignments and then in its filter. -/
theorem closed_update {command : Update} (built : command.build config table = .ok statement) :
    statement.Closed := by
  unfold Update.build at built
  dsimp only at built
  split at built
  · cases built
  · refine closed_of_accounted ?_ built
    intro params found later succeeded
    obtain ⟨assigned, middle, first, succeeded⟩ := run_bind_ok succeeded
    obtain ⟨filter, last, second, succeeded⟩ := run_bind_ok succeeded
    cases succeeded
    have assignments := Building.accounted_mapM (accounted_assignment _) _ params assigned _ first
    have filtered := accounted_whereClause _ _ _ middle filter _ second
    exact (assignments.trans filtered).congr (by simp)

/-- What follows the table of an insert binds row by row. Rows of defaults bind nothing. -/
theorem accounted_insertBody (dialect : Dialect) (table : Table)
    (rows : List (List (Column × Value))) (identity : Option Column) :
    Building.Accounted Fragment.paramNames (Insert.body dialect table rows identity) := by
  intro params found later succeeded
  unfold Insert.body at succeeded
  split at succeeded
  · obtain ⟨written, rfl⟩ := run_lift_ok succeeded
    rw [Insert.paramNames_defaultRows written]
    exact .refl _
  · obtain ⟨values, middle, written, ended⟩ := run_bind_ok succeeded
    cases ended
    have each : ∀ row, Building.Accounted Fragment.paramNames
        (valueRow (Insert.writtenCells row)) := fun row => accounted_valueRow _
    have bound := Building.accounted_mapM each rows params values _ written
    exact bound.congr (by simp)

/-- An insert binds in its rows only. -/
theorem closed_insert {command : Insert} (built : command.build config table = .ok statement) :
    statement.Closed := by
  unfold Insert.build at built
  obtain ⟨rows, captured, built⟩ := except_bind_ok built
  dsimp only at built
  split at built
  · cases built
  · refine closed_of_accounted ?_ built
    intro params found later succeeded
    obtain ⟨body, middle, written, ended⟩ := run_bind_ok succeeded
    cases ended
    have bound :=
      accounted_insertBody config.dialect (config.place table) rows _ params body _ written
    exact bound.congr (by simp)

/-- An upsert binds in its row only. -/
theorem closed_upsert {command : Upsert} (built : command.build config table = .ok statement) :
    statement.Closed := by
  unfold Upsert.build at built
  obtain ⟨row, captured, built⟩ := except_bind_ok built
  dsimp only at built
  split at built
  · cases built
  · refine closed_of_accounted ?_ built
    intro params found later succeeded
    obtain ⟨values, middle, written, succeeded⟩ := run_bind_ok succeeded
    cases succeeded
    have bound := accounted_valueRow _ params values _ written
    exact bound.congr (by rw [Upsert.paramNames_body])

/-- The statement that empties a table binds nothing. -/
theorem closed_truncate (config : Config) (table : Table) :
    (Sqlwright.truncate config table).Closed := by
  have unbound : (Sqlwright.truncate config table).fragment.paramNames = [] := by
    simp [Sqlwright.truncate]
  unfold Sql.Statement.Closed
  rw [unbound]
  exact .refl _

/-- Every command that has a statement has a closed one. -/
theorem closed_of_build {command : Command} (built : command.build config table = .ok statement) :
    statement.Closed := by
  cases command with
  | select command => exact closed_select built
  | get key =>
    obtain ⟨query, _, built⟩ := except_bind_ok built
    exact closed_select built
  | insert record returnIdentity => exact closed_insert built
  | insertMany records returnIdentity => exact closed_insert built
  | update record assignments filters =>
    obtain ⟨update, _, built⟩ := except_bind_ok built
    exact closed_update built
  | updateWhere command => exact closed_update built
  | delete record filters =>
    obtain ⟨delete, _, built⟩ := except_bind_ok built
    exact closed_delete built
  | deleteByKey key =>
    obtain ⟨delete, _, built⟩ := except_bind_ok built
    exact closed_delete built
  | deleteWhere command => exact closed_delete built
  | upsert command => exact closed_upsert built
  | count command => exact closed_count built
  | truncate =>
    cases built
    exact closed_truncate config table

end Command

/-- The distinct parameters of a closed statement are those bound. -/
theorem Sql.Statement.Closed.names_eq {statement : Statement} (closed : statement.Closed) :
    statement.fragment.paramNames.eraseDups = statement.params.names :=
  closed.added.symm

/-- The values of the names of a set are the values of its entries. -/
theorem ParamSet.map_get?_names (params : ParamSet) :
    (params.names.map fun name => (params.get? name).getD .null) =
      params.entries.map Prod.snd := by
  rw [ParamSet.names, List.map_map]
  refine List.map_congr_left fun entry present => ?_
  have bound := (params.get?_eq_some_iff entry.1 entry.2).mpr present
  rw [Function.comp_apply, bound, Option.getD_some]

/-- Where a closed statement names each of its parameters once, its placeholders take the values
bound, by insertion, in every dialect. -/
theorem Sql.Statement.Closed.positional_values {statement : Statement} (closed : statement.Closed)
    (once : statement.fragment.paramNames = statement.params.names) :
    statement.positional.values = statement.params.entries.map Prod.snd := by
  have distinct : statement.fragment.paramNames.eraseDups = statement.fragment.paramNames :=
    closed.names_eq.trans once.symm
  rw [Sql.Statement.positional_eq_woven]
  simp only [Sql.Statement.placeholderValues, Sql.Statement.distinctParams, distinct, ite_self]
  rw [once]
  exact statement.params.map_get?_names

/-- Every statement that is built is closed and has no orphan binding: the distinct
parameters of its text, by first appearance, are the names bound, by insertion.

So where placeholders carry numbers, the values they take are the values bound, by
insertion, and each parameter is written with the number of its place among the names. -/
theorem Command.build_binds_what_it_names {config : Config} {table : Table}
    {command : Command} {statement : Statement}
    (built : command.build config table = .ok statement) :
    statement.fragment.paramNames.eraseDups = statement.params.names ∧
      (statement.dialect.numbersPlaceholders = true →
        statement.positional.values = statement.params.entries.map Prod.snd ∧
          statement.positional.text = statement.fragment.write statement.dialect fun name =>
            statement.dialect.placeholder (statement.params.names.idxOf name + 1)) := by
  have names := (Command.closed_of_build built).names_eq
  refine ⟨names, fun numbers => ?_⟩
  rw [Sql.Statement.positional_eq_woven]
  constructor
  · rw [Sql.Statement.placeholderValues, if_pos numbers, Sql.Statement.distinctParams, names]
    exact statement.params.map_get?_names
  · rw [Sql.Statement.placeholderNumbers, if_pos numbers, Fragment.write_eq_woven, List.map_map]
    simp only [Function.comp_def, Sql.rank, names]

/-- An update that binds one field in its assignments and again in its filter. The text
that is written as it is takes no value. -/
theorem Command.update_binds_what_it_names :
    let config : Config := { dialect := .postgresql }
    let table : Table := {
      name := "users", schema := none
      columns := [{ name := "id", key := true }, { name := "age" }, { name := "seen" }] }
    let command : Command := .updateWhere {
      assignments := [⟨"age", .value (.int 7)⟩, ⟨"seen", .sql "now()"⟩]
      filters := [.compare .eq (.field "id") (.const (.int 1)),
        .compare .gt (.field "age") (.const (.int 2))] }
    ∃ statement, command.build config table = .ok statement ∧
      statement.fragment.paramNames.eraseDups = ["age", "id", "age_1"] ∧
      statement.positional.values = [.int 7, .int 1, .int 2] := by
  intro config table command
  obtain ⟨statement, built, bound, numbers, entries⟩ : ∃ statement,
      command.build config table = .ok statement ∧
      statement.params.names = ["age", "id", "age_1"] ∧
      statement.dialect.numbersPlaceholders = true ∧
      statement.params.entries.map Prod.snd = [.int 7, .int 1, .int 2] :=
    ⟨_, rfl, rfl, rfl, rfl⟩
  obtain ⟨names, positional⟩ := Command.build_binds_what_it_names built
  exact ⟨statement, built, names.trans bound, (positional numbers).1.trans entries⟩

end Sqlwright
