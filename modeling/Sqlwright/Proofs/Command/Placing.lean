import Sqlwright.Proofs.Command.Sorting

/-!
# What a default schema changes

A default schema is given to the table before anything is built, and the building runs on
that copy. The copy has the same columns and the same name, so every look-up in it, every
choice of columns and every error is that of the table itself. What differs is the name of
the table in the text, and this stands nowhere but in the parts that a command writes
itself: predicates, cells and assignments have no name of a table in them.

So two builds, with a default schema and without, run in step. They fail together, bind the
same parameters, and write the same chunks but for tables that name no schema.
-/

namespace Sqlwright

open Sql (Chunk Fragment Statement Token)

namespace Sql

/-- The chunk with the name of a table put into a schema, unless it names one. -/
def Chunk.inSchema (schema : String) : Chunk → Chunk
  | .qualified none name => .qualified (some schema) name
  | chunk => chunk

/-- The fragment with each name of a table put into a schema, unless it names one. -/
def Fragment.inSchema (schema : String) (fragment : Fragment) : Fragment :=
  fragment.map (Chunk.inSchema schema)

/-- The statement with each name of a table put into a schema, unless it names one. Its
parameters stay what they are. -/
def Statement.inSchema (schema : String) (statement : Statement) : Statement :=
  { statement with fragment := statement.fragment.inSchema schema }

namespace Fragment

variable (schema : String)

@[simp] theorem inSchema_nil : inSchema schema [] = [] := rfl

@[simp] theorem inSchema_append (left right : Fragment) :
    inSchema schema (left ++ right) = inSchema schema left ++ inSchema schema right := by
  simp [inSchema]

@[simp] theorem inSchema_keyword (word : Keyword) :
    inSchema schema (keyword word) = keyword word := rfl

@[simp] theorem inSchema_keywords (words : List Keyword) :
    inSchema schema (keywords words) = keywords words := by
  simp [inSchema, keywords, Chunk.inSchema]

@[simp] theorem inSchema_sign (mark : Punctuation) : inSchema schema (sign mark) = sign mark :=
  rfl

@[simp] theorem inSchema_comparison (mark : Comparison) :
    inSchema schema (comparison mark) = comparison mark := rfl

@[simp] theorem inSchema_ident (name : String) : inSchema schema (ident name) = ident name := rfl

@[simp] theorem inSchema_raw (text : String) : inSchema schema (raw text) = raw text := rfl

@[simp] theorem inSchema_param (name : String) : inSchema schema (param name) = param name := rfl

/-- Separators are no names of tables. -/
@[simp] theorem inSchema_joined (separator : Token) (items : List Fragment) :
    inSchema schema (joined separator items) = joined separator (items.map (inSchema schema)) := by
  induction items with
  | nil => rfl
  | cons first rest inductionHypothesis =>
    cases rest with
    | nil => rfl
    | cons second others =>
      calc inSchema schema (joined separator (first :: second :: others))
          = inSchema schema first ++
              .token separator :: inSchema schema (joined separator (second :: others)) :=
            inSchema_append schema first _
        _ = joined separator ((first :: second :: others).map (inSchema schema)) := by
          rw [inductionHypothesis]
          rfl

@[simp] theorem inSchema_parens (inner : Fragment) :
    inSchema schema (parens inner) = parens (inSchema schema inner) := by
  simp [parens]

/-- A fragment stays as it is if each of its chunks does. -/
theorem inSchema_of_chunks {fragment : Fragment}
    (each : ∀ chunk ∈ fragment, Chunk.inSchema schema chunk = chunk) :
    inSchema schema fragment = fragment := by
  rw [inSchema, List.map_congr_left each, List.map_id']

@[simp] theorem inSchema_commaList (items : List Fragment) :
    inSchema schema (commaList items) = commaList (items.map (inSchema schema)) :=
  inSchema_joined schema _ items

/-- A list of fragments stays as it is if each of them does. -/
theorem inSchema_commaList_of_items {items : List Fragment}
    (each : ∀ item ∈ items, inSchema schema item = item) :
    inSchema schema (commaList items) = commaList items := by
  rw [inSchema_commaList, List.map_congr_left each, List.map_id']

end Fragment
end Sql

/-- A predicate has no name of a table in it. -/
theorem Vocabulary.inSchema_eq {dialect : Dialect} {table : Table} {spliced : Prop} {chunk : Chunk}
    (known : Vocabulary dialect table spliced chunk) (schema : String) :
    chunk.inSchema schema = chunk := by
  cases known <;> rfl

namespace Compiling

variable {table other : Table}

/-- Fields are looked up by the columns of a table, and reported with its name. -/
theorem column_congr (columns : table.columns = other.columns) (name : table.name = other.name) :
    column table = column other := by
  funext field
  simp only [column, Table.column?, Table.columnByProperty?, columns, name]

theorem target_congr (same : column table = column other) (marker : Marker) (expr : Expr) :
    target table marker expr = target other marker expr := by
  unfold target
  rw [same]

mutual

/-- An operand is compiled alike for two tables with the same columns. -/
theorem operand_congr (same : column table = column other) :
    ∀ expr : Expr, operand table expr = operand other expr
  | .field name => by simp only [operand, same]
  | .splice _ arguments => by simp only [operand, operands_congr same arguments]
  | .const _ | .like _ _ | .between _ _ _ | .within _ _ | .not _ | .binary _ _ _
  | .conditional _ _ _ => rfl

theorem operands_congr (same : column table = column other) :
    ∀ exprs : List Expr, operands table exprs = operands other exprs
  | [] => rfl
  | first :: rest => by
    simp only [operands, operand_congr same first, operands_congr same rest]

end

/-- A condition is compiled alike for two tables with the same columns. -/
theorem condition_congr (dialect : Dialect) (same : column table = column other) :
    ∀ expr : Expr, condition dialect table expr = condition dialect other expr
  | .const value => by cases value <;> rfl
  | .field name => by simp only [condition, same]
  | .not inner => by simp only [condition, condition_congr dialect same inner]
  | .binary .and left right => by
    simp only [condition, condition_congr dialect same left, condition_congr dialect same right]
  | .binary .or left right => by
    simp only [condition, condition_congr dialect same left, condition_congr dialect same right]
  | .binary (.comparison sign) left right => by
    simp only [condition, operand_congr same left, operand_congr same right]
  | .conditional test ifTrue ifFalse => by
    simp only [condition, condition_congr dialect same test, condition_congr dialect same ifTrue,
      condition_congr dialect same ifFalse]
  | .like subject pattern => by
    simp only [condition, target_congr same, operand_congr same pattern]
  | .between subject low high => by
    simp only [condition, target_congr same, operand_congr same low, operand_congr same high]
  | .within subject items => by
    simp only [condition, target_congr same, operands_congr same items]
  | .splice template arguments => by simp only [condition, operands_congr same arguments]

end Compiling

/-- A schema has no part in compiling a predicate. -/
theorem compile_withDefaultSchema (dialect : Dialect) (table : Table) (schema : Option String) :
    compile dialect (table.withDefaultSchema schema) = compile dialect table := by
  have same : Compiling.column (table.withDefaultSchema schema) = Compiling.column table :=
    Compiling.column_congr rfl rfl
  funext expr params
  rw [compile, compile, Compiling.condition_congr dialect same]

namespace Building

variable {α β : Type}

/-- Whenever a step succeeds, its result has the property. -/
def Yields (property : α → Prop) (step : Building α) : Prop :=
  ∀ params result later, step.run params = .ok (result, later) → property result

/-- A step that runs like another. Its result is the same but for the schema of tables that
name none. -/
def Placed (schema : String) (bare placed : Building Fragment) : Prop :=
  ∀ params, placed.run params =
    (bare.run params).map fun (fragment, later) => (fragment.inSchema schema, later)

variable {schema : String}

theorem placed_pure {bare placed : Fragment} (related : placed = bare.inSchema schema) :
    Placed schema (pure bare) (pure placed) := by
  intro params
  rw [related]
  rfl

/-- Two runs that begin with the same step stay in step if they do so after each of its
possible results. -/
theorem Placed.bind {property : α → Prop} {step : Building α} {bare placed : α → Building Fragment}
    (yields : Yields property step)
    (next : ∀ result, property result → Placed schema (bare result) (placed result)) :
    Placed schema (step >>= bare) (step >>= placed) := by
  intro params
  rw [StateT.run_bind, StateT.run_bind]
  cases begun : step.run params with
  | error error => rfl
  | ok outcome =>
    obtain ⟨result, later⟩ := outcome
    exact next result (yields params result later begun) later

/-- Statements whose building runs in step are the same but for the schema of tables. -/
theorem Placed.statement {bare placed : Building Fragment} (related : Placed schema bare placed)
    (dialect : Dialect) :
    Building.statement dialect placed =
      (Building.statement dialect bare).map (Statement.inSchema schema) := by
  unfold Building.statement
  rw [related .empty]
  cases bare.run .empty <;> rfl

/-- What a step without bindings yields is what its source is. -/
theorem yields_lift {property : α → Prop} {source : Except BuildError α}
    (holds : ∀ result, source = .ok result → property result) :
    Yields property (liftM source : Building α) := by
  intro params result later succeeded
  exact holds result (run_lift_ok succeeded).1

/-- The results of a step over a list have what each of them has. -/
theorem yields_mapM {property : β → Prop} {step : α → Building β}
    (each : ∀ item, Yields property (step item)) (items : List α) :
    Yields (fun results => ∀ result ∈ results, property result) (items.mapM step) := by
  induction items with
  | nil =>
    intro params found later succeeded
    cases succeeded
    exact nofun
  | cons item rest inductionHypothesis =>
    intro params found later succeeded
    rw [List.mapM_cons] at succeeded
    obtain ⟨first, middle, begun, followed⟩ := run_bind_ok succeeded
    obtain ⟨others, last, remaining, ended⟩ := run_bind_ok followed
    cases ended
    intro result member
    rcases List.mem_cons.mp member with rfl | member
    · exact each item params result middle begun
    · exact inductionHypothesis middle others later remaining result member

/-- A condition on rows names no table. -/
theorem yields_whereClause (schema : String) (dialect : Dialect) (table : Table)
    (filter : Option Expr) :
    Yields (fun clause => clause.inSchema schema = clause)
      (whereClause dialect table filter) := by
  intro params clause later succeeded
  apply Fragment.inSchema_of_chunks
  intro chunk member
  rcases chunks_of_whereClause succeeded member with rfl | ⟨_, known⟩
  · rfl
  · exact known.inSchema_eq schema

/-- The condition on rows does not depend on the schema. -/
theorem whereClause_withDefaultSchema (dialect : Dialect) (table : Table)
    (schema : Option String) (filter : Option Expr) :
    whereClause dialect (table.withDefaultSchema schema) filter =
      whereClause dialect table filter := by
  unfold whereClause
  rw [compile_withDefaultSchema]

end Building

namespace Command

variable {schema : String}

/-- A table is in its own schema, or else in the default one. -/
theorem tableName_withDefaultSchema (table : Table) (schema : String) :
    tableName (table.withDefaultSchema (some schema)) =
      (tableName (table.withDefaultSchema none)).inSchema schema := by
  cases named : table.schema <;>
    simp [tableName, Table.withDefaultSchema, named, Fragment.inSchema, Chunk.inSchema]

@[simp] theorem inSchema_columnList (columns : List Column) :
    (columnList columns).inSchema schema = columnList columns := by
  simp [columnList, Function.comp_def]

@[simp] theorem inSchema_ofRow (row : String) (column : Column) :
    (ofRow row column).inSchema schema = ofRow row column := rfl

/-- An inserted cell names no table. -/
theorem yields_cell (schema : String) (column : Column) (value : Value) :
    Building.Yields (fun cell => cell.inSchema schema = cell) (cell column value) := by
  intro params written later succeeded
  unfold cell at succeeded
  split at succeeded <;> cases succeeded <;> rfl

theorem yields_valueRow (schema : String) (row : List (Column × Value)) :
    Building.Yields (fun cells => cells.inSchema schema = cells) (valueRow row) := by
  intro params written later succeeded
  obtain ⟨cells, middle, begun, ended⟩ := Building.run_bind_ok succeeded
  cases ended
  have each : ∀ written ∈ cells, Fragment.inSchema schema written = written :=
    Building.yields_mapM (fun pair => yields_cell schema pair.1 pair.2) row params cells _ begun
  rw [Fragment.inSchema_parens, Fragment.inSchema_commaList_of_items schema each]

/-- Paging names no table. -/
theorem inSchema_pagingClause (dialect : Dialect) (sorted : Bool)
    (limit offset : Option UInt64) :
    (Select.pagingClause dialect sorted limit offset).inSchema schema =
      Select.pagingClause dialect sorted limit offset := by
  cases dialect <;> cases limit <;> cases offset <;> cases sorted <;>
    simp [Select.pagingClause, Select.writtenLimit, Select.rowCount]

theorem inSchema_outputColumn (aliasColumns : Bool) (column : Column) :
    (Select.outputColumn aliasColumns column).inSchema schema =
      Select.outputColumn aliasColumns column := by
  unfold Select.outputColumn
  split <;> rfl

/-- A sort clause names no table. -/
theorem yields_orderClause (schema : String) (table : Table) (order : List SortTerm) :
    Building.Yields (fun clause => clause.inSchema schema = clause)
      (liftM (Select.orderClause table order)) := by
  apply Building.yields_lift
  intro clause written
  unfold Select.orderClause at written
  split at written
  · cases written
    rfl
  · obtain ⟨terms, sorted, ended⟩ := except_bind_ok written
    cases ended
    have each : ∀ term ∈ terms, Fragment.inSchema schema term = term := by
      intro term member
      obtain ⟨asked, _, found⟩ := exists_related (except_mapM_ok sorted).flip member
      obtain ⟨column, _, rfl⟩ := Select.sortTerm_ok found
      simp
    rw [Fragment.inSchema_append, Fragment.inSchema_commaList_of_items schema each,
      Fragment.inSchema_keywords]

/-- An assignment names no table. -/
theorem yields_assignment (schema : String) (table : Table) (assignment : Assignment) :
    Building.Yields (fun assigned => assigned.inSchema schema = assigned)
      (Update.assignment table assignment) := by
  intro params written later succeeded
  obtain ⟨column, middle, looked, followed⟩ := Building.run_bind_ok succeeded
  cases assigned : assignment.source <;> rw [assigned] at followed <;> cases followed <;> simp

/-- The clauses of an insert for its identity name no table. -/
@[simp] theorem inSchema_outputClause (dialect : Dialect) (identity : Option Column) :
    (Insert.outputClause dialect identity).inSchema schema =
      Insert.outputClause dialect identity := by
  unfold Insert.outputClause
  split <;> simp

@[simp] theorem inSchema_returningClause (dialect : Dialect) (rows : Nat)
    (identity : Option Column) :
    (Insert.returningClause dialect rows identity).inSchema schema =
      Insert.returningClause dialect rows identity := by
  unfold Insert.returningClause
  split
  · rfl
  · split
    · simp
    · split <;> simp

theorem inSchema_emptyRow : Insert.emptyRow.inSchema schema = Insert.emptyRow := rfl

/-- What follows the table of an insert names no table. -/
theorem yields_insertBody (schema : String) (dialect : Dialect) (table : Table)
    (rows : List (List (Column × Value))) (identity : Option Column) :
    Building.Yields (fun body => body.inSchema schema = body)
      (Insert.body dialect table rows identity) := by
  intro params found later succeeded
  unfold Insert.body at succeeded
  split at succeeded
  · obtain ⟨written, _⟩ := Building.run_lift_ok succeeded
    unfold Insert.defaultRows at written
    split at written
    · cases written
      have each : ∀ row ∈ List.replicate rows.length Insert.emptyRow,
          Fragment.inSchema schema row = row := by
        intro row member
        rw [List.eq_of_mem_replicate member]
        exact inSchema_emptyRow
      simp [Fragment.inSchema_commaList_of_items schema each, inSchema_emptyRow]
    · split at written <;> cases written
      simp
  · obtain ⟨values, middle, written, ended⟩ := Building.run_bind_ok succeeded
    cases ended
    have each : ∀ row ∈ values, Fragment.inSchema schema row = row :=
      Building.yields_mapM (fun row => yields_valueRow schema (Insert.writtenCells row)) rows
        params values _ written
    simp [Fragment.inSchema_commaList_of_items schema each]

/-- The value of the incoming row that an upsert assigns names no table. -/
@[simp] theorem inSchema_incoming (dialect : Dialect) (column : Column) :
    (Upsert.incoming dialect column).inSchema schema = Upsert.incoming dialect column := by
  cases dialect <;> rfl

@[simp] theorem inSchema_assignments (dialect : Dialect) (updated : List Column) :
    (Upsert.assignments dialect updated).inSchema schema =
      Upsert.assignments dialect updated := by
  unfold Upsert.assignments
  apply Fragment.inSchema_commaList_of_items
  intro assigned member
  obtain ⟨column, _, rfl⟩ := List.mem_map.mp member
  cases column.updateSql <;> simp

section

variable (dialect : Dialect) (table : Table) (inserted : List Column) {values : Fragment}

theorem onConflict_withDefaultSchema (bare : values.inSchema schema = values) :
    Upsert.onConflict dialect (table.withDefaultSchema (some schema)) inserted values =
      (Upsert.onConflict dialect (table.withDefaultSchema none) inserted values).inSchema
        schema := by
  by_cases unchanged : table.updatable.isEmpty <;>
    simp [Upsert.onConflict, insertInto, tableName_withDefaultSchema, bare, unchanged]

theorem onDuplicateKey_withDefaultSchema (bare : values.inSchema schema = values) :
    Upsert.onDuplicateKey dialect (table.withDefaultSchema (some schema)) inserted values =
      (Upsert.onDuplicateKey dialect (table.withDefaultSchema none) inserted values).inSchema
        schema := by
  by_cases unchanged : table.updatable.isEmpty
  · cases key : table.keys.head? <;>
      simp [Upsert.onDuplicateKey, insertInto, tableName_withDefaultSchema, bare, unchanged, key]
  · simp [Upsert.onDuplicateKey, insertInto, tableName_withDefaultSchema, bare, unchanged]

theorem merge_withDefaultSchema (bare : values.inSchema schema = values) :
    Upsert.merge dialect (table.withDefaultSchema (some schema)) inserted values =
      (Upsert.merge dialect (table.withDefaultSchema none) inserted values).inSchema schema := by
  by_cases unchanged : table.updatable.isEmpty <;>
    simp [Upsert.merge, tableName_withDefaultSchema, bare, unchanged, Function.comp_def]

/-- Around the values of its row an upsert names its own table and no other. -/
theorem body_withDefaultSchema (bare : values.inSchema schema = values) :
    Upsert.body dialect (table.withDefaultSchema (some schema)) values =
      (Upsert.body dialect (table.withDefaultSchema none) values).inSchema schema := by
  cases dialect
  case sqlite => exact onConflict_withDefaultSchema _ table _ bare
  case postgresql => exact onConflict_withDefaultSchema _ table _ bare
  case mysql => exact onDuplicateKey_withDefaultSchema _ table _ bare
  case sqlserver => exact merge_withDefaultSchema _ table _ bare

end

section

variable (config : Config) (table : Table)

open Building (placed_pure yields_whereClause whereClause_withDefaultSchema)

theorem select_inSchema (query : Select) :
    query.build { config with defaultSchema := some schema } table =
      (query.build { config with defaultSchema := none } table).map
        (Statement.inSchema schema) := by
  unfold Select.build
  simp only [Config.place, Table.selectable_withDefaultSchema, whereClause_withDefaultSchema]
  by_cases unreadable : (table.selectable.map (Select.outputColumn config.aliasColumns)).isEmpty
  · rw [if_pos unreadable, if_pos unreadable]
    rfl
  · rw [if_neg unreadable, if_neg unreadable]
    apply Building.Placed.statement
    refine .bind (yields_whereClause schema _ _ _) fun filter filtered =>
      .bind (yields_orderClause schema _ _) fun sorting sorted => placed_pure ?_
    by_cases empty : query.emptyPage config.dialect <;>
      simp [empty, filtered, sorted, tableName_withDefaultSchema, inSchema_pagingClause,
        inSchema_outputColumn, Function.comp_def]

theorem count_inSchema (query : Count) :
    query.build { config with defaultSchema := some schema } table =
      (query.build { config with defaultSchema := none } table).map
        (Statement.inSchema schema) := by
  unfold Count.build
  simp only [Config.place, whereClause_withDefaultSchema]
  apply Building.Placed.statement
  refine .bind (yields_whereClause schema _ _ _) fun filter filtered => placed_pure ?_
  simp [filtered, tableName_withDefaultSchema]

theorem delete_inSchema (delete : Delete) :
    delete.build { config with defaultSchema := some schema } table =
      (delete.build { config with defaultSchema := none } table).map
        (Statement.inSchema schema) := by
  unfold Delete.build
  simp only [Config.place, whereClause_withDefaultSchema]
  apply Building.Placed.statement
  refine .bind (yields_whereClause schema _ _ _) fun filter filtered => placed_pure ?_
  simp [filtered, tableName_withDefaultSchema]

theorem update_inSchema (update : Update) :
    update.build { config with defaultSchema := some schema } table =
      (update.build { config with defaultSchema := none } table).map
        (Statement.inSchema schema) := by
  unfold Update.build
  simp only [Config.place, whereClause_withDefaultSchema]
  by_cases unchanged : update.assignments.isEmpty
  · rw [if_pos unchanged, if_pos unchanged]
    rfl
  · rw [if_neg unchanged, if_neg unchanged]
    apply Building.Placed.statement
    refine .bind (Building.yields_mapM (yields_assignment schema table) _) fun assignments each =>
      .bind (yields_whereClause schema _ _ _) fun filter filtered => placed_pure ?_
    simp [filtered, Fragment.inSchema_commaList_of_items schema each,
      tableName_withDefaultSchema]

theorem insert_inSchema (insert : Insert) :
    insert.build { config with defaultSchema := some schema } table =
      (insert.build { config with defaultSchema := none } table).map
        (Statement.inSchema schema) := by
  unfold Insert.build
  cases insert.records.mapM (captured table.columns) with
  | error error => rfl
  | ok rows =>
    cases rows with
    | nil => rfl
    | cons row rest =>
      apply Building.Placed.statement
      refine .bind (yields_insertBody schema _ table _ _) fun body written => placed_pure ?_
      simp [insertInto, written, Config.place, tableName_withDefaultSchema]

theorem upsert_inSchema (upsert : Upsert) :
    upsert.build { config with defaultSchema := some schema } table =
      (upsert.build { config with defaultSchema := none } table).map
        (Statement.inSchema schema) := by
  unfold Upsert.build
  cases captured table.columns upsert.record with
  | error error => rfl
  | ok row =>
    cases keyed : table.hasKey with
    | false => simp only [Config.place, Table.hasKey_withDefaultSchema, keyed]; rfl
    | true =>
      simp only [Config.place, Table.hasKey_withDefaultSchema, keyed]
      apply Building.Placed.statement
      exact .bind (yields_valueRow schema _) fun values bare =>
        placed_pure (body_withDefaultSchema _ table bare)

/-- Emptying a table names it. -/
theorem truncate_inSchema :
    Sqlwright.truncate { config with defaultSchema := some schema } table =
      (Sqlwright.truncate { config with defaultSchema := none } table).inSchema schema := by
  simp [Sqlwright.truncate, Statement.inSchema, Config.place, tableName_withDefaultSchema]

/-- A configuration matters by its dialect, by the names of its output columns, and by where it
places the table. -/
theorem build_congr {other : Config} (dialect : config.dialect = other.dialect)
    (aliases : config.aliasColumns = other.aliasColumns)
    (place : config.place table = other.place table) (command : Command) :
    command.build config table = command.build other table := by
  cases command <;>
    simp only [Command.build, Select.build, Count.build, Insert.build, Update.build, Delete.build,
      Upsert.build, Sqlwright.truncate, dialect, aliases, place]

/-- A command about a record or a key fails before anything is placed, or goes on alike. -/
theorem bind_inSchema {α : Type} {source : Except BuildError α}
    {bare placed : α → Except BuildError Statement}
    (next : ∀ value, placed value = (bare value).map (Statement.inSchema schema)) :
    (source >>= placed) = (source >>= bare).map (Statement.inSchema schema) := by
  cases source with
  | error error => rfl
  | ok value => exact next value

/-- What is built with a default schema is what is built without, with the names of tables that
name none put into it. -/
theorem build_inSchema (command : Command) (schema : String) :
    command.build { config with defaultSchema := some schema } table =
      (command.build { config with defaultSchema := none } table).map
        (Statement.inSchema schema) := by
  cases command with
  | select query => exact select_inSchema config table query
  | get key =>
    exact bind_inSchema fun query => select_inSchema config table query
  | insert record returnIdentity => exact insert_inSchema config table _
  | insertMany records returnIdentity => exact insert_inSchema config table _
  | update record assignments filters =>
    exact bind_inSchema fun update => update_inSchema config table _
  | updateWhere update => exact update_inSchema config table update
  | delete record filters =>
    exact bind_inSchema fun delete => delete_inSchema config table _
  | deleteByKey key =>
    exact bind_inSchema fun delete => delete_inSchema config table delete
  | deleteWhere delete => exact delete_inSchema config table delete
  | upsert upsert => exact upsert_inSchema config table upsert
  | count query => exact count_inSchema config table query
  | truncate => exact congrArg Except.ok (truncate_inSchema config table)

end

end Command

/-- A default schema changes how the tables that name none are called, and nothing else. A
command fails with it as it fails without, with the same error. Otherwise the two statements have
the same parameters and the same chunks, except that the name of a table without a schema carries
the default one. For a table that names its schema they are the same statement. -/
theorem Command.default_schema_only_qualifies (config : Config) (table : Table)
    (command : Command) (schema : String) :
    command.build { config with defaultSchema := some schema } table =
        (command.build { config with defaultSchema := none } table).map
          (Statement.inSchema schema) ∧
      ∀ named, table.schema = some named →
        command.build { config with defaultSchema := some schema } table =
          command.build { config with defaultSchema := none } table := by
  refine ⟨build_inSchema config table command schema, fun named hasSchema => ?_⟩
  apply build_congr
  · rfl
  · rfl
  · rw [Config.place_of_schema _ table named hasSchema,
      Config.place_of_schema _ table named hasSchema]

/-- A delete from a table that names no schema is put into the default one, with the same
parameter. A delete from a table in a schema of its own stays as it is. -/
theorem Command.delete_in_default_schema :
    let config : Config := { dialect := .postgresql }
    let command : Command := .deleteWhere {
      filters := [.compare .eq (.field "id") (.const (.int 1))] }
    let users : Table := { name := "users", schema := none, columns := [{ name := "id" }] }
    let log : Table := { users with schema := some "audit" }
    (∃ statement, command.build { config with defaultSchema := some "app" } users = .ok statement ∧
      statement.fragment = Fragment.keywords [.DELETE, .FROM] ++
        [.qualified (some "app") "users"] ++ Fragment.keyword .WHERE ++ Fragment.ident "id" ++
        Fragment.comparison .eq ++ Fragment.param "id") ∧
      log.schema = some "audit" ∧
      command.build { config with defaultSchema := some "app" } log =
        command.build { config with defaultSchema := none } log := by
  intro config command users log
  obtain ⟨statement, built, bare⟩ : ∃ statement,
      command.build { config with defaultSchema := none } users = .ok statement ∧
      statement.fragment = Fragment.keywords [.DELETE, .FROM] ++ [.qualified none "users"] ++
        Fragment.keyword .WHERE ++ Fragment.ident "id" ++ Fragment.comparison .eq ++
        Fragment.param "id" := ⟨_, rfl, rfl⟩
  have placed := (default_schema_only_qualifies config users command "app").1
  rw [built] at placed
  refine ⟨⟨statement.inSchema "app", placed, ?_⟩, rfl,
    (default_schema_only_qualifies config log command "app").2 "audit" rfl⟩
  rw [Statement.inSchema, bare]
  rfl

end Sqlwright
