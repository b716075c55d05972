import Sqlwright.Proofs.Command.OwnRow

/-!
# Which columns an update assigns

An update assigns what it has been told to set, in the order of the calls. The update of a record
has assigned the updatable columns of its table before. A call may name a column by its property
or by its own name, and building checks no more than that there is such a column.

So whether a column is assigned twice is up to the calls. It never is if they name different
columns, and none that the record has assigned. The names alone do not tell: a column may go by
two of them.
-/

namespace Sqlwright

open Sql (Statement Term)

/-- The columns on the left of the assignments that a statement makes, in their order. -/
def Sql.Statement.assignedColumns? (statement : Statement) : Option (List String) := do
  let change ← statement.change?
  match change.action with
  | .assign assignments => return assignments.map Prod.fst
  | .remove => none

/-- The columns that a command assigns without being told to. -/
def Command.ownColumns (table : Table) : Command → List Column
  | .update _ _ _ => table.updatable
  | _ => []

/-- What a command has been told to set, in the order of the calls. -/
def Command.calls : Command → List Assignment
  | .update _ assignments _ => assignments
  | .updateWhere command => command.assignments
  | _ => []

/-- The columns that assignments name, if each of them names one. -/
def Table.named? (table : Table) (assignments : List Assignment) : Option (List Column) :=
  assignments.mapM fun assignment => table.column? assignment.field

section

variable {config : Config} {table : Table}

/-- Only columns of the table are named. -/
theorem Table.mem_of_named? {assignments : List Assignment} {named : List Column}
    (found : table.named? assignments = some named) : ∀ column ∈ named, column ∈ table.columns := by
  intro column member
  induction assignments generalizing named with
  | nil =>
    cases found
    cases member
  | cons first rest inductionHypothesis =>
    unfold Table.named? at found
    rw [List.mapM_cons] at found
    obtain ⟨own, looked, found⟩ := Option.bind_eq_some_iff.mp found
    obtain ⟨others, remaining, found⟩ := Option.bind_eq_some_iff.mp found
    cases found
    rcases List.mem_cons.mp member with rfl | among
    · exact Table.mem_of_column? looked
    · exact inductionHypothesis remaining among

/-- Assignments that have been written name columns, and these stand on their left. -/
theorem named?_of_assigns {params : ParamSet} {assignments : List Assignment}
    {assigned : List (String × Term)}
    (assigns : List.Forall₂ (Assigns (config.place table) params) assignments assigned) :
    ∃ named, table.named? assignments = some named ∧
      assigned.map Prod.fst = named.map (·.name) := by
  induction assigns with
  | nil => exact ⟨[], rfl, rfl⟩
  | cons first _ inductionHypothesis =>
    obtain ⟨column, found, own⟩ := first.target
    have found : table.column? _ = some column := found
    obtain ⟨others, remaining, names⟩ := inductionHypothesis
    refine ⟨column :: others, ?_, ?_⟩
    · unfold Table.named? at remaining ⊢
      rw [List.mapM_cons, found, remaining]
      rfl
    · rw [List.map_cons, List.map_cons, own, names]

/-- The assignments of captured cells name the columns of the cells. -/
theorem named?_of_cells (distinct : Distinct table.columns) {cells : List (Column × Value)}
    (present : ∀ cell ∈ cells, cell.1 ∈ table.columns) :
    table.named? (cells.map fun (column, value) => Update.assignmentOf column value) =
      some (cells.map Prod.fst) := by
  induction cells with
  | nil => rfl
  | cons cell rest inductionHypothesis =>
    obtain ⟨own, others⟩ := List.forall_mem_cons.mp present
    have found : table.column? (Update.assignmentOf cell.1 cell.2).field = some cell.1 :=
      Table.column?_property distinct own
    have remaining := inductionHypothesis others
    unfold Table.named? at remaining ⊢
    rw [List.map_cons, List.mapM_cons, found, remaining]
    rfl

/-- The update of a record names the updatable columns of its table. -/
theorem named?_of_record (distinct : Distinct table.columns) {record : Record}
    {row : List (Column × Value)} (complete : Command.captured table.columns record = .ok row) :
    table.named? ((row.filter (·.1.isUpdatable)).map fun (column, value) =>
      Update.assignmentOf column value) = some table.updatable := by
  have updatable : (row.filter (·.1.isUpdatable)).map Prod.fst = table.updatable := by
    rw [Table.updatable, ← Command.columns_captured complete, List.filter_map]
    rfl
  rw [named?_of_cells distinct, updatable]
  intro cell chosen
  exact Command.mem_of_captured complete (List.mem_filter.mp chosen).1

/-- The columns that a built update assigns are its own and those that its calls name. -/
theorem assignedColumns?_of_build {command : Command} {statement : Statement}
    (distinct : Distinct table.columns)
    (about : (∃ record assignments filters, command = .update record assignments filters) ∨
      ∃ update, command = .updateWhere update)
    (built : command.build config table = .ok statement) :
    ∃ named, table.named? command.calls = some named ∧
      statement.assignedColumns? = some ((command.ownColumns table ++ named).map (·.name)) := by
  rcases about with ⟨record, assignments, filters, rfl⟩ | ⟨update, rfl⟩
  · obtain ⟨update, own, built⟩ := except_bind_ok built
    obtain ⟨row, complete, own⟩ := except_bind_ok own
    obtain ⟨filter, tested, own⟩ := except_bind_ok own
    cases own
    obtain ⟨change, assigned, changes, _, _, _, _, assigning, assigns⟩ := change_of_update built
    obtain ⟨whole, found, names⟩ := named?_of_assigns assigns
    unfold Table.named? at found
    rw [List.mapM_append] at found
    obtain ⟨first, fromRecord, found⟩ := Option.bind_eq_some_iff.mp found
    obtain ⟨named, fromCalls, found⟩ := Option.bind_eq_some_iff.mp found
    cases found
    obtain rfl : table.updatable = first :=
      Option.some.inj ((named?_of_record distinct complete).symm.trans fromRecord)
    refine ⟨named, fromCalls, ?_⟩
    simp [Sql.Statement.assignedColumns?, changes, assigning, names, Command.ownColumns]
  · obtain ⟨change, assigned, changes, _, _, _, _, assigning, assigns⟩ := change_of_update built
    obtain ⟨named, found, names⟩ := named?_of_assigns assigns
    refine ⟨named, found, ?_⟩
    simp [Sql.Statement.assignedColumns?, changes, assigning, names, Command.ownColumns]

/-- Columns of an accepted table are as distinct as their names. -/
theorem nodup_names_iff (distinct : Distinct table.columns) {columns : List Column}
    (present : ∀ column ∈ columns, column ∈ table.columns) :
    (columns.map (·.name)).Nodup ↔ columns.Nodup := by
  constructor
  · exact List.Nodup.of_map _
  · intro once
    refine once.map_on fun first member second also same => ?_
    exact distinct.eq_of_name (present first member) (present second also) same

/-- A command's own columns are columns of its table, and each is there once. -/
theorem ownColumns_sublist (table : Table) (command : Command) :
    (command.ownColumns table).Sublist table.columns := by
  cases command with
  | update record assignments filters => exact List.filter_sublist
  | _ => exact List.nil_sublist _

/-- An update that is built assigns the columns of its record, then those that the calls name, in
the order of the calls. It assigns no column twice exactly if no two calls name the same column
and none names a column that the record has assigned already; in particular if nothing is set
besides the record. -/
theorem update_assigns_twice_only_if_told {name : String} {schema : Option String}
    {columns : List Column} {command : Command} {statement : Statement}
    (accepted : Table.checked name schema columns = .ok table)
    (about : (∃ record assignments filters, command = .update record assignments filters) ∨
      ∃ update, command = .updateWhere update)
    (built : command.build config table = .ok statement) :
    ∃ named assigned, table.named? command.calls = some named ∧
      statement.assignedColumns? = some assigned ∧
      assigned = (command.ownColumns table ++ named).map (·.name) ∧
      (assigned.Nodup ↔ named.Nodup ∧ ∀ column ∈ named, column ∉ command.ownColumns table) := by
  have distinct := Table.distinct_of_checked accepted
  obtain ⟨named, found, assigned⟩ := assignedColumns?_of_build distinct about built
  refine ⟨named, _, found, assigned, rfl, ?_⟩
  have own := ownColumns_sublist table command
  have ownOnce : (command.ownColumns table).Nodup := distinct.names.of_map.sublist own
  have present : ∀ column ∈ command.ownColumns table ++ named, column ∈ table.columns := by
    intro column member
    rcases List.mem_append.mp member with byRecord | byCall
    · exact own.subset byRecord
    · exact Table.mem_of_named? found column byCall
  rw [nodup_names_iff distinct present, List.nodup_append]
  constructor
  · rintro ⟨_, once, apart⟩
    exact ⟨once, fun column member also => apart column also column member rfl⟩
  · rintro ⟨once, apart⟩
    refine ⟨ownOnce, once, fun column member other also same => ?_⟩
    exact apart other also (same ▸ member)

end

/-- The update of a document that sets one column besides. Its title is named by the property, the
column that is set by its own name, and each is assigned once. -/
theorem record_update_with_new_column_assigns_once :
    let config : Config := { dialect := .sqlserver }
    let columns : List Column := [{ name := "id", key := true, identity := true },
      { name := "doc_title", property := "title" }, { name := "created", update := false }]
    let table : Table := { name := "docs", schema := none, columns }
    let record : Record := fun property =>
      if property = "title" then some (.text "Draft") else some (.int 7)
    let command : Command :=
      .update record [{ field := "created", source := .sql "SYSUTCDATETIME()" }] []
    ∃ statement assigned, command.build config table = .ok statement ∧
      statement.assignedColumns? = some assigned ∧ assigned = ["doc_title", "created"] ∧
        assigned.Nodup := by
  intro config columns table record command
  obtain ⟨statement, built⟩ : ∃ statement, command.build config table = .ok statement := ⟨_, rfl⟩
  have accepted : Table.checked "docs" none columns = .ok table := rfl
  obtain ⟨named, assigned, found, reads, same, once⟩ :=
    update_assigns_twice_only_if_told accepted (.inl ⟨record, _, [], rfl⟩) built
  cases found
  refine ⟨statement, assigned, built, reads, same, once.mpr ?_⟩
  decide

/-- A column that goes by two names and is set under both is assigned twice. The update is built
all the same. -/
theorem column_of_two_names_is_assigned_twice :
    let config : Config := { dialect := .postgresql }
    let columns : List Column := [{ name := "id", key := true },
      { name := "doc_title", property := "title" }]
    let table : Table := { name := "docs", schema := none, columns }
    let command : Command := .updateWhere { assignments := [
      { field := "title", source := .value (.text "Draft") },
      { field := "doc_title", source := .value (.text "Final") }] }
    Table.checked "docs" none columns = .ok table ∧
      ∃ statement assigned, command.build config table = .ok statement ∧
        statement.assignedColumns? = some assigned ∧ ¬ assigned.Nodup := by
  intro config columns table command
  obtain ⟨statement, built⟩ : ∃ statement, command.build config table = .ok statement := ⟨_, rfl⟩
  have distinct : Distinct table.columns := ⟨by decide, by decide⟩
  obtain ⟨named, found, assigned⟩ := assignedColumns?_of_build distinct (.inr ⟨_, rfl⟩) built
  cases found
  exact ⟨rfl, statement, _, built, assigned, by decide⟩

end Sqlwright
