import Sqlwright.Proofs.Command.Effect

/-!
# A record's own row

The update and the delete of a record test every column of the key and every guard for the
value that was captured. The test comes first among the filters and is never decided, so it
is always written, and a row that is concerned has passed it whatever filters follow.

An update of a record assigns each updatable column once. Hence what it does to a row that
is concerned can be told column by column.
-/

namespace Sqlwright

open Sql (Change Database Row Statement Term)
open Sql.Change (Shows)
open Compiling (truthOf)

/-- A row still has the captured values in its key and its guards. -/
def Captures (database : Database) (table : Table) (record : Record) (row : Row) : Prop :=
  ∀ column ∈ table.columns, column.identifiesRow = true →
    ∃ value, record column.property = some value ∧ database.Same (row column.name) value

/-- Each captured value is the record's value for its column. -/
theorem Command.value_captured {columns : List Column} {record : Record}
    {row : List (Column × Value)} (complete : captured columns record = .ok row) :
    ∀ cell ∈ row, record cell.1.property = some cell.2 := by
  induction columns generalizing row with
  | nil =>
    cases complete
    intro cell member
    cases member
  | cons column rest inductionHypothesis =>
    unfold captured at complete
    rw [List.mapM_cons] at complete
    obtain ⟨first, found, complete⟩ := except_bind_ok complete
    obtain ⟨others, remaining, complete⟩ := except_bind_ok complete
    cases complete
    have own : record first.1.property = some first.2 := by
      split at found
      · rename_i present
        cases found
        exact present
      · cases found
    exact List.forall_mem_cons.mpr ⟨own, inductionHypothesis remaining⟩

/-- A captured row has values for columns that were asked for. -/
theorem Command.mem_of_captured {columns : List Column} {record : Record}
    {row : List (Column × Value)} (complete : captured columns record = .ok row)
    {cell : Column × Value} (member : cell ∈ row) : cell.1 ∈ columns := by
  rw [← columns_captured complete]
  exact List.mem_map.mpr ⟨cell, member, rfl⟩

/-- Every column of a captured row has a value in it. -/
theorem Command.exists_captured {columns : List Column} {record : Record}
    {row : List (Column × Value)} (complete : captured columns record = .ok row)
    {column : Column} (present : column ∈ columns) :
    ∃ value, (column, value) ∈ row ∧ record column.property = some value := by
  rw [← columns_captured complete] at present
  obtain ⟨⟨_, value⟩, member, rfl⟩ := List.mem_map.mp present
  exact ⟨value, member, value_captured complete _ member⟩

section

variable {config : Config} {table : Table} {record : Record} {row : List (Column × Value)}
  {filter : Expr}

/-- The test of a column for a captured value holds of the rows that have the same value. -/
theorem truthOf_columnEquals {column : Column} (distinct : Distinct table.columns)
    (present : column ∈ table.columns) (captured : Value) (database : Database) (now : Nat)
    (params : ParamSet) (stored : Row) :
    truthOf (config.place table) (Command.columnEquals column captured)
        (database.reading now params stored) = .yes ↔
      database.Same (stored column.name) captured := by
  have found : (config.place table).column? column.property = some column :=
    Table.column?_property distinct present
  have compared : truthOf (config.place table) (Command.columnEquals column captured)
      (database.reading now params stored) =
        comparison (database.engine now stored) .eq none (some captured)
          (stored column.name) captured := by
    simp only [truthOf, Command.columnEquals, Expr.compare, Expr.truth, Expr.value, Expr.const?,
      found]
    rfl
  rw [compared]
  exact Database.comparison_eq_yes_iff now stored (stored column.name) captured

/-- The condition for a record's row holds of the rows that still are as captured. -/
theorem truthOf_rowPredicate (distinct : Distinct table.columns)
    (complete : Command.captured table.columns record = .ok row)
    (tested : Command.rowPredicate table row = .ok filter) (database : Database) (now : Nat)
    (params : ParamSet) (stored : Row) :
    truthOf (config.place table) filter (database.reading now params stored) = .yes ↔
      Captures database table record stored := by
  unfold Command.rowPredicate at tested
  split at tested
  · cases tested
    rw [truthOf_allOf_eq_yes_iff]
    constructor
    · intro holds column present identifies
      obtain ⟨value, member, known⟩ := Command.exists_captured complete present
      have listed : (column, value) ∈ row.filter (·.1.identifiesRow) :=
        List.mem_filter.mpr ⟨member, identifies⟩
      have passed := holds _ (List.mem_map.mpr ⟨_, listed, rfl⟩)
      rw [truthOf_columnEquals distinct present] at passed
      exact ⟨value, known, passed⟩
    · intro captures condition member
      obtain ⟨⟨column, value⟩, listed, rfl⟩ := List.mem_map.mp member
      obtain ⟨member, identifies⟩ := List.mem_filter.mp listed
      have present : column ∈ table.columns := Command.mem_of_captured complete member
      obtain ⟨other, known, same⟩ := captures column present identifies
      have own := Command.value_captured complete _ member
      obtain rfl : value = other := Option.some.inj (own.symm.trans known)
      exact (truthOf_columnEquals distinct present value database now params stored).mpr same
  · cases tested

/-- The condition for a record's row is not decided: it tests at least a column of the key. -/
theorem decided?_rowPredicate (complete : Command.captured table.columns record = .ok row)
    (tested : Command.rowPredicate table row = .ok filter) : filter.decided? ≠ some true := by
  unfold Command.rowPredicate at tested
  split at tested
  · rename_i keyed
    cases tested
    obtain ⟨column, present, key⟩ := List.any_eq_true.mp keyed
    obtain ⟨value, member, _⟩ := Command.exists_captured complete present
    have listed : (column, value) ∈ row.filter (·.1.identifiesRow) :=
      List.mem_filter.mpr ⟨member, by simp [Column.identifiesRow, key]⟩
    cases conditions : row.filter (·.1.identifiesRow) with
    | nil =>
      rw [conditions] at listed
      cases listed
    | cons first rest =>
      rw [List.map_cons]
      have undecided : (Command.columnEquals first.1 first.2).decided? ≠ some true := by
        intro decided
        cases decided
      exact decided?_foldl_and_ne_true _ undecided
  · cases tested

/-- What the update of a record makes of a row: updatable columns take their captured values
or the values of their expressions, and nothing else is changed. -/
structure Rewrites (database : Database) (now : Nat) (dialect : Dialect) (table : Table)
    (record : Record) (before after : Row) : Prop where
  elsewhere : ∀ name, (∀ column ∈ table.columns, column.isUpdatable = true →
    column.name ≠ name) → after name = before name
  fixed : ∀ column ∈ table.columns,
    column.key = true ∨ column.identity = true ∨ column.update = false →
      after column.name = before column.name
  captured : ∀ column ∈ table.columns, column.isUpdatable = true → column.updateSql = none →
    record column.property = some (after column.name)
  expression : ∀ column ∈ table.columns, column.isUpdatable = true →
    ∀ sql, column.updateSql = some sql →
      ∃ shown, Shows dialect before after shown column.name ∧
        after column.name = database.raw now shown [.text sql]

/-- If nothing is changed but updatable columns, a column that is none keeps its value, for
its name is its own. -/
theorem eq_of_not_updatable {before after : Row} (distinct : Distinct table.columns)
    (elsewhere : ∀ name, (∀ column ∈ table.columns, column.isUpdatable = true →
      column.name ≠ name) → after name = before name)
    {column : Column} (present : column ∈ table.columns)
    (unwritten : column.isUpdatable = false) : after column.name = before column.name := by
  refine elsewhere column.name fun other also updatable same => ?_
  obtain rfl := distinct.eq_of_name also present same
  rw [unwritten] at updatable
  cases updatable

/-- A column is not updated if it is a key, an identity, or left out of updates. -/
theorem isUpdatable_eq_false_of_fixed {column : Column}
    (fixed : column.key = true ∨ column.identity = true ∨ column.update = false) :
    column.isUpdatable = false := by
  rcases fixed with key | identity | left <;> simp [Column.isUpdatable, *]

/-- Assignments to the given columns of a captured row. -/
def AssignsCells (config : Config) (table : Table) (params : ParamSet)
    (cells : List (Column × Value)) (assigned : List (String × Term)) : Prop :=
  List.Forall₂ (fun cell read =>
    Assigns (config.place table) params (Update.assignmentOf cell.1 cell.2) read) cells assigned

/-- In an accepted table, the assignment of a column names this column. -/
theorem name_of_assigns {params : ParamSet} {column : Column} {value : Value}
    {read : String × Term} (distinct : Distinct table.columns)
    (present : column ∈ table.columns)
    (assigns : Assigns (config.place table) params (Update.assignmentOf column value) read) :
    read.1 = column.name := by
  obtain ⟨other, found, named⟩ := assigns.target
  obtain rfl : column = other :=
    Option.some.inj ((Table.column?_property distinct present).symm.trans found)
  exact named

/-- Assignments to the columns of a captured row name these columns, in their order. -/
theorem AssignsCells.names {params : ParamSet} {cells : List (Column × Value)}
    {assigned : List (String × Term)} (distinct : Distinct table.columns)
    (present : ∀ cell ∈ cells, cell.1 ∈ table.columns)
    (assigns : AssignsCells config table params cells assigned) :
    assigned.map Prod.fst = cells.map (·.1.name) := by
  induction assigns with
  | nil => rfl
  | cons first _ inductionHypothesis =>
    obtain ⟨own, others⟩ := List.forall_mem_cons.mp present
    rw [List.map_cons, List.map_cons, name_of_assigns distinct own first,
      inductionHypothesis others]

section

variable {assigned : List (String × Term)} {change : Change}

/-- The update of a record assigns to updatable columns. -/
theorem names_of_updatable (distinct : Distinct table.columns)
    (complete : Command.captured table.columns record = .ok row)
    (assigns : AssignsCells config table change.params (row.filter (·.1.isUpdatable)) assigned) :
    assigned.map Prod.fst = (row.filter (·.1.isUpdatable)).map (·.1.name) := by
  refine assigns.names distinct fun cell chosen => ?_
  exact Command.mem_of_captured complete (List.mem_filter.mp chosen).1

/-- It leaves whatever is not the name of one as it is. -/
theorem elsewhere_of_assigns (distinct : Distinct table.columns)
    (complete : Command.captured table.columns record = .ok row)
    (assigns : AssignsCells config table change.params (row.filter (·.1.isUpdatable)) assigned)
    (database : Database) (now : Nat) (before : Row) (name : String)
    (other : ∀ column ∈ table.columns, column.isUpdatable = true → column.name ≠ name) :
    assigned.foldl (change.assigned database now before) before name = before name := by
  refine Sql.Change.foldl_assigned_of_not_mem fun assignedTo => ?_
  rw [names_of_updatable distinct complete assigns] at assignedTo
  obtain ⟨cell, chosen, same⟩ := List.mem_map.mp assignedTo
  obtain ⟨member, updatable⟩ := List.mem_filter.mp chosen
  exact other cell.1 (Command.mem_of_captured complete member) updatable same

/-- It assigns to each updatable column once. So the column becomes what its source denotes
in the row that is shown for it. -/
theorem becomes_of_assigns (distinct : Distinct table.columns)
    (complete : Command.captured table.columns record = .ok row)
    (assigns : AssignsCells config table change.params (row.filter (·.1.isUpdatable)) assigned)
    (database : Database) (now : Nat) (before : Row) {column : Column}
    (present : column ∈ table.columns) (updatable : column.isUpdatable = true) :
    ∃ value shown, record column.property = some value ∧
      Shows change.dialect before
        (assigned.foldl (change.assigned database now before) before) shown column.name ∧
      assigned.foldl (change.assigned database now before) before column.name =
        (Update.assignmentOf column value).source.denotes
          (database.reading now change.params shown) := by
  have once : (assigned.map Prod.fst).Nodup := by
    have listed : (assigned.map Prod.fst).Sublist (table.columns.map (·.name)) := by
      rw [names_of_updatable distinct complete assigns, ← Command.columns_captured complete,
        List.map_map]
      exact List.filter_sublist.map _
    exact distinct.names.sublist listed
  obtain ⟨value, member, known⟩ := Command.exists_captured complete present
  obtain ⟨⟨name, term⟩, written, own⟩ :=
    exists_related assigns (List.mem_filter.mpr ⟨member, updatable⟩)
  obtain rfl : name = column.name := name_of_assigns distinct present own
  obtain ⟨shown, shows, becomes⟩ :=
    Sql.Change.foldl_assigned_of_mem once (fun _ _ => rfl) written
  refine ⟨value, shown, known, shows, becomes.trans ?_⟩
  exact own.source _ (database.knows_reading now change.params shown)

/-- The assignments of a record's update rewrite a row. -/
theorem rewrites_of_assigns (distinct : Distinct table.columns)
    (complete : Command.captured table.columns record = .ok row)
    (assigns : AssignsCells config table change.params (row.filter (·.1.isUpdatable)) assigned)
    (database : Database) (now : Nat) (before : Row) :
    Rewrites database now change.dialect table record before
      (assigned.foldl (change.assigned database now before) before) := by
  have elsewhere := elsewhere_of_assigns distinct complete assigns database now before
  constructor
  · exact elsewhere
  · intro column present fixed
    exact eq_of_not_updatable distinct elsewhere present (isUpdatable_eq_false_of_fixed fixed)
  · intro column present updatable own
    obtain ⟨value, shown, known, _, becomes⟩ :=
      becomes_of_assigns distinct complete assigns database now before present updatable
    simp only [Update.assignmentOf, own, Source.denotes] at becomes
    rw [known, becomes]
  · intro column present updatable sql own
    obtain ⟨value, shown, _, shows, becomes⟩ :=
      becomes_of_assigns distinct complete assigns database now before present updatable
    simp only [Update.assignmentOf, own, Source.denotes] at becomes
    exact ⟨shown, shows, becomes⟩

end

/-- A change is confined to a record's row: it has a condition, which is true only of rows
that still are as captured; without further filters, of all of them. -/
structure Confined (table : Table) (record : Record) (filters : List Expr) (change : Change) :
    Prop where
  restricted : change.condition ≠ none
  captures : ∀ (database : Database) (now : Nat) (stored : Row),
    change.concerns database now stored = true → Captures database table record stored
  exactly : filters = [] → ∀ (database : Database) (now : Nat) (stored : Row),
    Captures database table record stored → change.concerns database now stored = true

/-- A change that is restricted by the condition for a record's row is confined to it. -/
theorem confined_of_restricts {filters : List Expr} {change : Change}
    (distinct : Distinct table.columns)
    (complete : Command.captured table.columns record = .ok row)
    (tested : Command.rowPredicate table row = .ok filter)
    (restricts : Restricts (config.place table) change.params (filter :: filters)
      change.condition) : Confined table record filters change := by
  have passed (database : Database) (now : Nat) (stored : Row) :
      change.concerns database now stored = true ↔
        Captures database table record stored ∧ ∀ other ∈ filters,
          truthOf (config.place table) other
            (database.reading now change.params stored) = .yes := by
    have holds := restricts.holds _ (database.knows_reading now change.params stored)
    rw [List.forall_mem_cons, truthOf_rowPredicate distinct complete tested] at holds
    rw [← holds, Change.concerns, decide_eq_true_eq]
  constructor
  · intro missing
    have decided := restricts.unrestricted missing _ rfl
    exact decided?_foldl_and_ne_true filters (decided?_rowPredicate complete tested) decided
  · intro database now stored concerns
    exact ((passed database now stored).mp concerns).1
  · rintro rfl database now stored captures
    refine (passed database now stored).mpr ⟨captures, fun other member => ?_⟩
    cases member

/-- An update of a record changes the rows that it concerns as its columns say, and no other. -/
def Updates (config : Config) (table : Table) (record : Record) (change : Change) : Prop :=
  ∀ (database : Database) (now : Nat), ∃ after : Row → Row,
    (∀ rows, change.executed database now rows = rows.map after) ∧
    (∀ stored, change.concerns database now stored = false → after stored = stored) ∧
    ∀ stored, change.concerns database now stored = true →
      Rewrites database now config.dialect table record stored (after stored)

/-- The update of a record, with whatever is set and filtered besides, is confined to the
record's row. If nothing is set besides, it rewrites that row. -/
theorem change_of_recordUpdate {filters : List Expr} {assignments : List Assignment}
    {statement : Statement} (distinct : Distinct table.columns)
    (built : Command.build config table (.update record assignments filters) = .ok statement) :
    ∃ change, statement.change? = some change ∧ change.schema = (config.place table).schema ∧
      change.table = table.name ∧ Confined table record filters change ∧
      (assignments = [] → Updates config table record change) := by
  obtain ⟨update, own, built⟩ := except_bind_ok built
  obtain ⟨row, complete, own⟩ := except_bind_ok own
  obtain ⟨filter, tested, own⟩ := except_bind_ok own
  cases own
  obtain ⟨change, assigned, changes, placed, named, sameDialect, restricts, assigning, assigns⟩ :=
    change_of_update built
  have confined := confined_of_restricts distinct complete tested restricts
  refine ⟨change, changes, placed, named, confined, ?_⟩
  rintro rfl
  rw [List.append_nil] at assigns
  have assigns := List.forall₂_map_left_iff.mp assigns
  refine fun database now => ⟨_, Change.executed_of_assign assigning, ?_, ?_⟩
  · intro stored apart
    rw [if_neg (by simp [apart])]
  · intro stored concerns
    rw [if_pos concerns, ← sameDialect]
    exact rewrites_of_assigns distinct complete assigns database now stored

/-- The delete of a record is confined to the record's row. -/
theorem change_of_recordDelete {filters : List Expr} {statement : Statement}
    (distinct : Distinct table.columns)
    (built : Command.build config table (.delete record filters) = .ok statement) :
    ∃ change, statement.change? = some change ∧ change.schema = (config.place table).schema ∧
      change.table = table.name ∧ Confined table record filters change ∧
      change.action = .remove := by
  obtain ⟨delete, own, built⟩ := except_bind_ok built
  obtain ⟨row, complete, own⟩ := except_bind_ok own
  obtain ⟨filter, tested, own⟩ := except_bind_ok own
  cases own
  obtain ⟨change, changes, placed, named, restricts, removes⟩ := change_of_delete built
  have confined := confined_of_restricts distinct complete tested restricts
  exact ⟨change, changes, placed, named, confined, removes⟩

/-- The update and the delete of a record touch only its own row, whatever is filtered
besides: they are restricted to rows that still have the captured values in key and guards,
and without further filters to exactly these. An update that sets nothing else leaves every
other row as it is; in this one it writes updatable columns only. -/
theorem record_commands_touch_own_row {name : String} {schema : Option String}
    {columns : List Column} {command : Command} {filters : List Expr} {statement : Statement}
    (accepted : Table.checked name schema columns = .ok table)
    (about : (∃ assignments, command = .update record assignments filters) ∨
      command = .delete record filters)
    (built : command.build config table = .ok statement) :
    ∃ change, statement.change? = some change ∧ change.schema = (config.place table).schema ∧
      change.table = table.name ∧ Confined table record filters change ∧
      (command = .update record [] filters → Updates config table record change) ∧
      (command = .delete record filters → ∀ (database : Database) (now : Nat) (rows : List Row),
        change.executed database now rows =
          rows.filter fun stored => !change.concerns database now stored) := by
  have distinct := Table.distinct_of_checked accepted
  rcases about with ⟨assignments, rfl⟩ | rfl
  · obtain ⟨change, changes, placed, named, confined, updates⟩ :=
      change_of_recordUpdate distinct built
    refine ⟨change, changes, placed, named, confined, fun alone => ?_, fun other => ?_⟩
    · cases alone
      exact updates rfl
    · cases other
  · obtain ⟨change, changes, placed, named, confined, removes⟩ :=
      change_of_recordDelete distinct built
    refine ⟨change, changes, placed, named, confined, fun other => ?_, fun _ _ _ => ?_⟩
    · cases other
    · exact Change.executed_of_remove removes

end

/-- The update of a record in a table of two rows that carry the same version. It writes the
name and raises the version in the row with its key, and leaves the other row alone. -/
theorem record_update_touches_own_row :
    let config : Config := { dialect := .postgresql }
    let columns : List Column := [{ name := "id", key := true, identity := true },
      { name := "name" },
      { name := "version", concurrency := true, updateSql := some "version + 1" }]
    let table : Table := { name := "users", schema := none, columns }
    let record : Record := fun property =>
      if property = "id" then some (.int 1)
      else if property = "name" then some (.text "Ann") else some (.int 3)
    let database : Database := {
      order := Value.compare?, order_swap := Value.compare?_swap
      fits := fun _ _ => false, holds := fun _ => .unknown
      raw := fun _ row _ => match row "version" with
        | .int version => .int (version + 1)
        | other => other }
    let ann : Row := fun name =>
      if name = "id" then .int 1 else if name = "name" then .text "Anne" else .int 3
    let bob : Row := fun name =>
      if name = "id" then .int 2 else if name = "name" then .text "Bob" else .int 3
    ∃ statement change, Command.build config table (.update record [] []) = .ok statement ∧
      statement.change? = some change ∧
      ∃ after : Row, change.executed database 0 [ann, bob] = [after, bob] ∧
        after "id" = .int 1 ∧ after "name" = .text "Ann" ∧ after "version" = .int 4 := by
  intro config columns table record database ann bob
  obtain ⟨statement, built⟩ : ∃ statement,
      Command.build config table (.update record [] []) = .ok statement := ⟨_, rfl⟩
  have accepted : Table.checked "users" none columns = .ok table := rfl
  obtain ⟨change, changes, _, _, confined, updates, _⟩ :=
    record_commands_touch_own_row accepted (.inl ⟨[], rfl⟩) built
  obtain ⟨after, executes, untouched, rewrites⟩ := updates rfl database 0
  have own : change.concerns database 0 ann = true := by
    refine confined.exactly rfl database 0 ann ?_
    intro column present identifies
    simp only [table, columns, List.mem_cons, List.not_mem_nil, or_false] at present
    obtain rfl | rfl | rfl := present
    · exact ⟨.int 1, rfl, by decide⟩
    · cases identifies
    · exact ⟨.int 3, rfl, by decide⟩
  have other : change.concerns database 0 bob = false := by
    refine Bool.eq_false_iff.mpr fun concerns => ?_
    obtain ⟨value, known, same⟩ := confined.captures database 0 bob concerns _ (.head _) rfl
    cases known
    exact absurd same (by decide)
  have written := rewrites ann own
  obtain ⟨shown, shows, raised⟩ :=
    written.expression _ (.tail _ (.tail _ (.head _))) rfl _ rfl
  refine ⟨statement, change, built, changes, after ann, ?_, ?_, ?_, ?_⟩
  · rw [executes, List.map_cons, List.map_singleton, untouched bob other]
  · exact written.fixed _ (.head _) (.inl rfl)
  · exact (Option.some.inj (written.captured _ (.tail _ (.head _)) rfl rfl)).symm
  · rw [raised, shows.whole (by decide)]
    rfl

end Sqlwright
