import Sqlwright.Proofs.Command.Cells

/-!
# One operation in every dialect

An upsert is an insert with a clause for conflicts, an insert with a clause for duplicate
keys, or a merge. Each is read back here, from its chunks, as the same operation: the
columns that are inserted and the cells of their row, the columns that tell a conflict, and
what is assigned on one. A merge lists the inserted columns three times, and it is read
only if the three lists agree.

MySQL does not say which columns tell a conflict, and it cannot assign nothing: instead it
gives a key column the value that it has. Apart from this the operation does not depend on
the dialect, and neither do the parameters.
-/

namespace Sqlwright

open Sql (Cell Chunk Fragment Statement)

namespace Upsert

open Command Sql.Fragment

/-- What a column is set to when its row is there already. -/
inductive Change where
  /-- An expression that is written as it is. -/
  | expression (sql : String)
  /-- The value that a column was to be inserted with. -/
  | incoming (column : String)
  /-- The value that a column has. -/
  | stored (column : String)
deriving DecidableEq, Repr

/-- What an upsert asks for. -/
structure Operation where
  schema : Option String
  table : String
  /-- The columns of the inserted row. -/
  columns : List String
  cells : List Cell
  /-- The columns that tell a conflict, if the dialect says them. -/
  conflict : Option (List String)
  /-- What is assigned on a conflict. -/
  assigned : List (String × Change)
deriving DecidableEq, Repr

/-- The assignments that may change a column. One of a column to itself does not. -/
def Operation.changes (operation : Operation) : List (String × Change) :=
  operation.assigned.filter fun (column, change) => change ≠ .stored column

/-- The column of the incoming row that a fragment is. -/
def incoming? (dialect : Dialect) (fragment : Fragment) : Option String :=
  if fragment.length = 3 then reference? dialect fragment else none

/-- What a column is set to. -/
def change? (dialect : Dialect) : Fragment → Option Change
  | [.raw sql] => some (.expression sql)
  | [.ident name] => some (.stored name)
  | fragment => (incoming? dialect fragment).map .incoming

/-- A column and what it is set to. -/
def assignment? (dialect : Dialect) : Fragment → Option (String × Change)
  | .ident column :: .token (.comparison .eq) :: source =>
    (change? dialect source).map fun change => (column, change)
  | _ => none

/-- One or more assignments. -/
def assignments? (dialect : Dialect) (fragment : Fragment) : Option (List (String × Change)) :=
  (fragment.splitOnP Select.isComma).mapM (assignment? dialect)

/-- What follows the row of an insert: the columns that tell a conflict, and what is assigned
on one. -/
def resolution? (dialect : Dialect) (fragment : Fragment) :
    Option (Option (List String) × List (String × Change)) :=
  match dialect with
  | .mysql => do
    let rest ← after? (keywords [.ON, .DUPLICATE, .KEY, .UPDATE]) fragment
    let assigned ← assignments? dialect rest
    return (none, assigned)
  | .sqlite | .postgresql | .sqlserver => do
    let rest ← after? (keywords [.ON, .CONFLICT]) fragment
    let (keys, rest) ← listed? name? rest
    let rest ← after? (keyword .DO) rest
    if rest = keyword .NOTHING then return (some keys, [])
    let rest ← after? (keywords [.UPDATE, .SET]) rest
    let assigned ← assignments? dialect rest
    return (some keys, assigned)

/-- What follows the table of an insert that says what to do on a conflict. -/
def insertedRow? (dialect : Dialect) (schema : Option String) (table : String)
    (fragment : Fragment) : Option Operation := do
  let (columns, rest) ← listed? name? fragment
  let rest ← after? (keyword .VALUES) rest
  let (cells, rest) ← listed? Cell.read? rest
  let (conflict, assigned) ← resolution? dialect rest
  return { schema, table, columns, cells, conflict, assigned }

/-- Whether a chunk connects two conditions. -/
def isAnd (chunk : Chunk) : Bool := chunk == .token (.keyword .AND)

/-- The column in which the merged row and the stored row are compared. -/
def sameKey? : Fragment → Option String
  | [.raw target, .token (.punctuation .point), .ident left, .token (.comparison .eq),
      .raw source, .token (.punctuation .point), .ident right] =>
    if target = "target" ∧ source = "source" ∧ left = right then some left else none
  | _ => none

/-- What a merge assigns where the rows match, and what follows. -/
def whenMatched? : Fragment → Option (List (String × Change) × Fragment)
  | .token (.keyword .WHEN) :: .token (.keyword .MATCHED) :: .token (.keyword .THEN) ::
      .token (.keyword .UPDATE) :: .token (.keyword .SET) :: rest =>
    (assignments? .sqlserver (rest.takeWhile (· ≠ .token (.keyword .WHEN)))).map fun assigned =>
      (assigned, rest.dropWhile (· ≠ .token (.keyword .WHEN)))
  | rest => some ([], rest)

/-- What follows the table of a merge. The columns of the merged row, those of the insert and
those that it takes from the merged row have to be the same. -/
def mergedRow? (schema : Option String) (table : String) (fragment : Fragment) :
    Option Operation := do
  let rest ← after? (keyword .AS ++ raw "target" ++ keyword .USING ++ sign .leftParen ++
    keyword .VALUES) fragment
  let (cells, rest) ← listed? Cell.read? rest
  let rest ← after? (sign .rightParen ++ keyword .AS ++ raw "source") rest
  let (columns, rest) ← listed? name? rest
  let rest ← after? (keyword .ON) rest
  let keys ← ((rest.takeWhile (· ≠ .token (.keyword .WHEN))).splitOnP isAnd).mapM sameKey?
  let (assigned, rest) ← whenMatched? (rest.dropWhile (· ≠ .token (.keyword .WHEN)))
  let rest ← after? (keywords [.WHEN, .NOT, .MATCHED, .THEN, .INSERT]) rest
  let (inserted, rest) ← listed? name? rest
  let rest ← after? (keyword .VALUES) rest
  let (sources, rest) ← listed? (incoming? .sqlserver) rest
  if inserted = columns ∧ sources = columns ∧ rest = sign .semicolon then
    return { schema, table, columns, cells, conflict := some keys, assigned }
  else none

/-- The operation that a fragment asks for: an insert that says what to do on a conflict, or a
merge in SQL Server. -/
def operation? (dialect : Dialect) : Fragment → Option Operation
  | .token (.keyword .INSERT) :: .token (.keyword .INTO) :: .qualified schema table :: rest =>
    if dialect = .sqlserver then none else insertedRow? dialect schema table rest
  | .token (.keyword .MERGE) :: .token (.keyword .INTO) :: .qualified schema table :: rest =>
    if dialect = .sqlserver then mergedRow? schema table rest else none
  | _ => none

/-- What an updated column is set to: its own expression, or the value that it was to be
inserted with. -/
def changeOf (column : Column) : Change :=
  match column.updateSql with
  | some sql => .expression sql
  | none => .incoming column.name

/-- What is assigned to the updated columns of a table. -/
def changesOf (table : Table) : List (String × Change) :=
  table.updatable.map fun column => (column.name, changeOf column)

section

variable {dialect : Dialect} {table : Table}

/-- One assignment written out. -/
def assigned (dialect : Dialect) (column : Column) : Fragment :=
  ident column.name ++ Fragment.comparison .eq ++
    match column.updateSql with
    | some sql => raw sql
    | none => incoming dialect column

theorem assignments_eq (dialect : Dialect) (updated : List Column) :
    assignments dialect updated = commaList (updated.map (assigned dialect)) := rfl

/-- A value of the incoming row is read back. -/
theorem incoming?_incoming (dialect : Dialect) (column : Column) :
    incoming? dialect (incoming dialect column) = some column.name := by
  cases dialect <;> rfl

/-- An assignment is read back. -/
theorem assignment?_assigned (dialect : Dialect) (column : Column) :
    assignment? dialect (assigned dialect column) = some (column.name, changeOf column) := by
  unfold assigned changeOf
  cases column.updateSql with
  | some sql => rfl
  | none => cases dialect <;> rfl

/-- An assignment has neither commas nor keywords in it. -/
theorem plain_assigned (dialect : Dialect) (column : Column) :
    ∀ chunk ∈ assigned dialect column,
      Select.isComma chunk = false ∧ ∀ word, chunk ≠ .token (.keyword word) := by
  unfold assigned
  cases column.updateSql with
  | some sql => simp [ident, Fragment.comparison, raw, Select.isComma]
  | none =>
    cases dialect <;>
      simp [ident, Fragment.comparison, raw, sign, incoming, ofRow, Select.isComma]

/-- Assignments are read back. -/
theorem assignments?_assignments (dialect : Dialect) {updated : List Column}
    (some : updated ≠ []) :
    assignments? dialect (assignments dialect updated) =
      Option.some (updated.map fun column => (column.name, changeOf column)) := by
  have plain : ∀ item ∈ updated.map (assigned dialect), ∀ chunk ∈ item,
      Select.isComma chunk = false := by
    intro item member chunk inside
    obtain ⟨column, _, rfl⟩ := List.mem_map.mp member
    exact (plain_assigned dialect column chunk inside).1
  have nonempty : updated.map (assigned dialect) ≠ [] := by simpa using some
  rw [assignments?, assignments_eq, Select.splitOnP_commaList nonempty plain,
    mapM_read fun column _ => assignment?_assigned dialect column]

/-- No keyword stands among assignments. -/
theorem keyword_not_mem_assignments (dialect : Dialect) (updated : List Column)
    (word : Sql.Keyword) : .token (.keyword word) ∉ assignments dialect updated := by
  intro member
  rcases mem_joined member with same | ⟨item, listed, inside⟩
  · cases same
  · obtain ⟨column, _, rfl⟩ := List.mem_map.mp listed
    exact (plain_assigned dialect column _ inside).2 word rfl

/-- The comparison of a key column in a merge. -/
def sameKey (key : Column) : Fragment :=
  ofRow "target" key ++ Fragment.comparison .eq ++ ofRow "source" key

/-- The comparisons of the key columns are read back. -/
theorem sameKeys_read {keys : List Column} (some : keys ≠ []) :
    ((joined (.keyword .AND) (keys.map sameKey)).splitOnP isAnd).mapM sameKey? =
      Option.some (keys.map (·.name)) := by
  have plain : ∀ item ∈ keys.map sameKey, ∀ chunk ∈ item, isAnd chunk = false := by
    intro item member chunk inside
    obtain ⟨key, _, rfl⟩ := List.mem_map.mp member
    simp only [sameKey, ofRow, raw, sign, ident, Fragment.comparison, List.mem_append,
      List.mem_singleton] at inside
    rcases inside with (((rfl | rfl) | rfl) | rfl) | ((rfl | rfl) | rfl) <;> rfl
  have nonempty : keys.map sameKey ≠ [] := by simpa using some
  have reads : ∀ key ∈ keys, sameKey? (sameKey key) = Option.some key.name := by
    intro key _
    simp [sameKey, ofRow, raw, sign, ident, Fragment.comparison, sameKey?]
  rw [splitOnP_joined rfl nonempty plain, mapM_read reads]

/-- What is assigned on a conflict, in the given dialect. -/
def assignedOf (dialect : Dialect) (table : Table) : List (String × Change) :=
  if table.updatable.isEmpty ∧ dialect = .mysql then
    (table.keys.take 1).map fun key => (key.name, .stored key.name)
  else changesOf table

/-- The inserted columns and their row are read back, whatever follows them. -/
theorem insertedRow?_columnList (dialect : Dialect) (schema : Option String) (table : String)
    (inserted : List Column) (cells : List Cell) (rest : Fragment) :
    insertedRow? dialect schema table (columnList inserted ++
        (keyword .VALUES ++ (row cells ++ rest))) =
      (resolution? dialect rest).map fun (conflict, assigned) =>
        { schema, table, columns := inserted.map (·.name), cells, conflict, assigned } := by
  simp only [insertedRow?, listed?_columnList, after?_append, listed?_row, bind,
    Option.bind_some]
  cases resolution? dialect rest <;> rfl

/-- A conflict clause names the key columns and assigns to the updated columns, or does
nothing. -/
theorem resolution?_onConflict (conflicting : dialect = .sqlite ∨ dialect = .postgresql)
    (table : Table) :
    resolution? dialect (keywords [.ON, .CONFLICT] ++ (columnList table.keys ++ (keyword .DO ++
        (if table.updatable.isEmpty then keyword .NOTHING
          else keywords [.UPDATE, .SET] ++ assignments dialect table.updatable)))) =
      some (some (table.keys.map (·.name)), changesOf table) := by
  by_cases unchanged : table.updatable = []
  · have nothing : table.updatable.isEmpty = true := List.isEmpty_iff.mpr unchanged
    rcases conflicting with rfl | rfl <;>
      simp [resolution?, after?_append, listed?_columnList, unchanged, changesOf]
  · have something : table.updatable.isEmpty = false := List.isEmpty_eq_false_iff.mpr unchanged
    have other : keywords [.UPDATE, .SET] ++ assignments dialect table.updatable ≠
      keyword .NOTHING := nofun
    rcases conflicting with rfl | rfl <;>
      simp [resolution?, after?_append, listed?_columnList, unchanged, changesOf, other,
        assignments?_assignments _ unchanged]

/-- What an insert assigns where a key is there already, written out. -/
def duplicate (table : Table) : Fragment :=
  if table.updatable.isEmpty then
    match table.keys.head? with
    | some key => ident key.name ++ Fragment.comparison .eq ++ ident key.name
    | none => []
  else assignments .mysql table.updatable

/-- A clause for duplicate keys assigns to the updated columns, or a key to itself. -/
theorem resolution?_duplicate (table : Table) (keyed : table.keys ≠ []) :
    resolution? .mysql (keywords [.ON, .DUPLICATE, .KEY, .UPDATE] ++ duplicate table) =
      some (none, assignedOf .mysql table) := by
  unfold duplicate
  by_cases unchanged : table.updatable = []
  · obtain ⟨key, others, keys⟩ := List.exists_cons_of_ne_nil keyed
    have itself : assignments? .mysql
        (ident key.name ++ (Fragment.comparison .eq ++ ident key.name)) =
          some [(key.name, .stored key.name)] := rfl
    simp [resolution?, after?_append, unchanged, assignedOf, keys, itself]
  · simp [resolution?, after?_append, unchanged, changesOf, assignedOf,
      assignments?_assignments _ unchanged]

/-- No WHEN stands among the comparisons of the key columns. -/
theorem when_not_mem_sameKeys (keys : List Column) :
    .token (.keyword .WHEN) ∉ joined (.keyword .AND) (keys.map sameKey) := by
  intro member
  rcases mem_joined member with same | ⟨item, listed, inside⟩
  · cases same
  · obtain ⟨key, _, rfl⟩ := List.mem_map.mp listed
    simp [sameKey, ofRow, raw, sign, ident, Fragment.comparison] at inside

/-- The columns that are taken from the merged row are read back. -/
theorem listed?_sources (inserted : List Column) (rest : Fragment) :
    listed? (incoming? .sqlserver) (parens (commaList (inserted.map (ofRow "source"))) ++ rest) =
      some (inserted.map (·.name), rest) := by
  have undivided : ∀ column ∈ inserted, Undivided (ofRow "source" column) := by
    intro column _
    simp [Undivided, ofRow, raw, sign, ident, Select.isComma]
  have reads : ∀ column ∈ inserted,
      incoming? .sqlserver (ofRow "source" column) = some column.name :=
    fun column _ => incoming?_incoming .sqlserver column
  exact listed?_parens undivided reads rest

/-- What a merge assigns where the rows match, written out. -/
def matched (table : Table) : Fragment :=
  if table.updatable.isEmpty then []
  else keywords [.WHEN, .MATCHED, .THEN, .UPDATE, .SET] ++
    assignments .sqlserver table.updatable

/-- What a merge assigns where the rows match is read back. -/
theorem whenMatched?_matched (table : Table) (rest : Fragment) :
    whenMatched? (matched table ++
        (keywords [.WHEN, .NOT, .MATCHED, .THEN, .INSERT] ++ rest)) =
      some (changesOf table, keywords [.WHEN, .NOT, .MATCHED, .THEN, .INSERT] ++ rest) := by
  unfold matched
  by_cases unchanged : table.updatable = []
  · have nothing : changesOf table = [] := by simp [changesOf, unchanged]
    rw [if_pos (List.isEmpty_iff.mpr unchanged), nothing]
    rfl
  · have absent := keyword_not_mem_assignments .sqlserver table.updatable .WHEN
    have whenFirst : keywords [.WHEN, .NOT, .MATCHED, .THEN, .INSERT] ++ rest =
        .token (.keyword .WHEN) :: (keywords [.NOT, .MATCHED, .THEN, .INSERT] ++ rest) := rfl
    have set : ∀ after, whenMatched? (keywords [.WHEN, .MATCHED, .THEN, .UPDATE, .SET] ++ after) =
        (assignments? .sqlserver (after.takeWhile (· ≠ .token (.keyword .WHEN)))).map
          fun assigned => (assigned, after.dropWhile (· ≠ .token (.keyword .WHEN))) :=
      fun _ => rfl
    rw [if_neg (by simpa using unchanged), List.append_assoc, set, whenFirst,
      takeWhile_ne_append absent, dropWhile_ne_append absent,
      assignments?_assignments _ unchanged]
    rfl

/-- Either branch of a merge begins with WHEN. -/
theorem begins_when (table : Table) (rest : Fragment) :
    ∃ tail, matched table ++ (keywords [.WHEN, .NOT, .MATCHED, .THEN, .INSERT] ++ rest) =
      .token (.keyword .WHEN) :: tail := by
  unfold matched
  split
  · exact ⟨_, rfl⟩
  · exact ⟨_, rfl⟩

/-- A merge is read back. -/
theorem operation?_merge (table : Table) (keyed : table.keys ≠ []) (inserted : List Column)
    (cells : List Cell) :
    operation? .sqlserver (merge .sqlserver table inserted (row cells)) =
      some { schema := table.schema, table := table.name, columns := inserted.map (·.name), cells,
             conflict := some (table.keys.map (·.name)), assigned := changesOf table } := by
  have written : merge .sqlserver table inserted (row cells) =
      keywords [.MERGE, .INTO] ++ (tableName table ++
        ((keyword .AS ++ raw "target" ++ keyword .USING ++ sign .leftParen ++ keyword .VALUES) ++
          (row cells ++ ((sign .rightParen ++ keyword .AS ++ raw "source") ++
            (columnList inserted ++ (keyword .ON ++
              (joined (.keyword .AND) (table.keys.map sameKey) ++ (matched table ++
                (keywords [.WHEN, .NOT, .MATCHED, .THEN, .INSERT] ++ (columnList inserted ++
                  (keyword .VALUES ++
                    (parens (commaList (inserted.map (ofRow "source"))) ++
                      sign .semicolon)))))))))))) := by
    simp only [merge, parens, List.append_assoc]
    rfl
  have into : ∀ rest, operation? .sqlserver (keywords [.MERGE, .INTO] ++
      (tableName table ++ rest)) = mergedRow? table.schema table.name rest := fun _ => rfl
  rw [written, into]
  have absent := when_not_mem_sameKeys table.keys
  obtain ⟨tail, begins⟩ := begins_when table (columnList inserted ++ (keyword .VALUES ++
    (parens (commaList (inserted.map (ofRow "source"))) ++ sign .semicolon)))
  simp only [mergedRow?, after?_append, listed?_row, listed?_columnList, bind, Option.bind_some]
  rw [begins, takeWhile_ne_append absent, dropWhile_ne_append absent, sameKeys_read keyed,
    ← begins, whenMatched?_matched]
  simp only [after?_append, listed?_columnList, listed?_sources, Option.bind_some]
  rfl

/-- An insert with a conflict clause is read back. -/
theorem operation?_onConflict (conflicting : dialect = .sqlite ∨ dialect = .postgresql)
    (table : Table) (inserted : List Column) (cells : List Cell) :
    operation? dialect (onConflict dialect table inserted (row cells)) =
      some { schema := table.schema, table := table.name, columns := inserted.map (·.name), cells,
             conflict := some (table.keys.map (·.name)), assigned := changesOf table } := by
  have into : ∀ rest, operation? dialect (insertInto table ++ rest) =
      insertedRow? dialect table.schema table.name rest := by
    rcases conflicting with rfl | rfl <;> exact fun _ => rfl
  simp only [onConflict, List.append_assoc]
  rw [into, insertedRow?_columnList, resolution?_onConflict conflicting]
  rfl

/-- An insert with a clause for duplicate keys is read back. -/
theorem operation?_onDuplicateKey (table : Table) (keyed : table.keys ≠ [])
    (inserted : List Column) (cells : List Cell) :
    operation? .mysql (onDuplicateKey .mysql table inserted (row cells)) =
      some { schema := table.schema, table := table.name, columns := inserted.map (·.name), cells,
             conflict := none, assigned := assignedOf .mysql table } := by
  have into : ∀ rest, operation? .mysql (insertInto table ++ rest) =
      insertedRow? .mysql table.schema table.name rest := fun _ => rfl
  have written : onDuplicateKey .mysql table inserted (row cells) =
      insertInto table ++ (columnList inserted ++ (keyword .VALUES ++ (row cells ++
        (keywords [.ON, .DUPLICATE, .KEY, .UPDATE] ++ duplicate table)))) := by
    show insertInto table ++ columnList inserted ++ keyword .VALUES ++ row cells ++
      keywords [.ON, .DUPLICATE, .KEY, .UPDATE] ++ duplicate table = _
    simp only [List.append_assoc]
  rw [written, into, insertedRow?_columnList, resolution?_duplicate table keyed]
  rfl

/-- The statement around a row of values is read back in every dialect. -/
theorem operation?_body (dialect : Dialect) (table : Table) (keyed : table.keys ≠ [])
    (cells : List Cell) :
    operation? dialect (body dialect table (row cells)) =
      some { schema := table.schema
             table := table.name
             columns := (table.columns.filter inserts).map (·.name)
             cells
             conflict := if dialect = .mysql then none else some (table.keys.map (·.name))
             assigned := assignedOf dialect table } := by
  have elsewhere : ∀ {other : Dialect}, other ≠ .mysql → assignedOf other table = changesOf table :=
    fun differs => if_neg fun both => differs both.2
  cases dialect
  case sqlite =>
    rw [elsewhere (by decide)]
    exact operation?_onConflict (.inl rfl) table _ cells
  case postgresql =>
    rw [elsewhere (by decide)]
    exact operation?_onConflict (.inr rfl) table _ cells
  case mysql => exact operation?_onDuplicateKey table keyed _ cells
  case sqlserver =>
    rw [elsewhere (by decide)]
    exact operation?_merge table keyed _ cells

/-- What is assigned on a conflict changes the updated columns, in every dialect alike. -/
theorem changes_assignedOf (dialect : Dialect) (table : Table) :
    (assignedOf dialect table).filter (fun (column, change) => change ≠ .stored column) =
      changesOf table := by
  have changing : (changesOf table).filter
      (fun (column, change) => decide (change ≠ .stored column)) = changesOf table := by
    rw [List.filter_eq_self]
    intro assigned member
    obtain ⟨column, _, rfl⟩ := List.mem_map.mp member
    unfold changeOf
    cases column.updateSql <;> rfl
  unfold assignedOf
  split
  · rename_i nothing
    have unchanged : changesOf table = [] := by
      rw [changesOf, List.isEmpty_iff.mp nothing.1, List.map_nil]
    rw [unchanged, List.filter_eq_nil_iff]
    intro assigned member
    obtain ⟨key, _, rfl⟩ := List.mem_map.mp member
    simp
  · exact changing

/-- A changed column is an updated one, so it is neither a key nor filled by the database. -/
theorem updatable_of_change {table : Table} {column : String} {change : Change}
    (member : (column, change) ∈ changesOf table) :
    ∃ found ∈ table.columns, found.name = column ∧ found.key = false ∧ found.identity = false := by
  obtain ⟨found, updatable, same⟩ := List.mem_map.mp member
  obtain ⟨present, updated⟩ := List.mem_filter.mp updatable
  cases same
  exact ⟨found, present, rfl, found.not_key_of_isUpdatable updated⟩

end

end Upsert

/-- An upsert of a captured record is built in every dialect around the same row, which binds the
same parameters. -/
theorem Upsert.build_of_captured {table : Table} {record : Record} {row : List (Column × Value)}
    (complete : Command.captured table.columns record = .ok row) (keyed : table.hasKey = true) :
    ∃ cells params, FillsRow (table.columns.filter inserts) record .empty params cells ∧
      ∀ config : Config, Command.build config table (.upsert { record }) = .ok
        { dialect := config.dialect
          fragment := body config.dialect (config.place table) (Fragment.row cells)
          params } := by
  obtain ⟨cells, params, ran, filled⟩ :=
    Command.run_valueRow (Command.captured_filter complete inserts) .empty
  refine ⟨cells, params, filled, fun config => ?_⟩
  have kept : (config.place table).hasKey = true := keyed
  show Upsert.build config table { record } = _
  unfold Upsert.build
  dsimp only
  rw [complete]
  simp only [kept, bind, Except.bind]
  exact Building.statement_of_run (Building.run_bind_of_ok ran)

/-- The dialects have different statements for an upsert, but one operation. In every dialect the
inserted columns are the key columns and the insertable ones, in the order of the table, and the
cell of each holds its own expression or a parameter bound to the record's value for it; the cells
and the parameters are the same throughout. A conflict is told by the key columns, where the
dialect says by which. On a conflict the updatable columns are changed, in their order, to their
own expression or to their own incoming value. If there are none nothing is changed, and only
MySQL writes an assignment then, of the first key column to itself.

A column that is changed is neither a key nor filled by the database, and where names are distinct
no such column has its name. -/
theorem Command.upsert_is_one_operation {table : Table} {record : Record}
    {row : List (Column × Value)} (complete : captured table.columns record = .ok row)
    (keyed : table.hasKey = true) :
    ∃ cells params,
      List.Forall₂ (Fills params record) (table.columns.filter Upsert.inserts) cells ∧
      ∀ config : Config, ∃ statement operation,
        Command.build config table (.upsert { record }) = .ok statement ∧
        statement.dialect = config.dialect ∧ statement.params = params ∧
        Upsert.operation? config.dialect statement.fragment = some operation ∧
        operation.schema = (config.place table).schema ∧ operation.table = table.name ∧
        operation.columns = (table.columns.filter Upsert.inserts).map (·.name) ∧
        operation.cells = cells ∧
        operation.conflict =
          (if config.dialect = .mysql then none else some (table.keys.map (·.name))) ∧
        operation.changes =
          table.updatable.map (fun column => (column.name, Upsert.changeOf column)) ∧
        (table.updatable ≠ [] → operation.assigned = operation.changes) ∧
        (table.updatable = [] → operation.assigned =
          if config.dialect = .mysql then
            (table.keys.take 1).map fun key => (key.name, .stored key.name)
          else []) ∧
        (∀ change ∈ operation.changes, ∃ column ∈ table.columns,
          column.name = change.1 ∧ column.key = false ∧ column.identity = false) ∧
        (Distinct table.columns → ∀ change ∈ operation.changes, ∀ column ∈ table.columns,
          column.name = change.1 → column.key = false ∧ column.identity = false) := by
  obtain ⟨cells, params, filled, built⟩ := Upsert.build_of_captured complete keyed
  refine ⟨cells, params, filled.fills, fun config => ?_⟩
  have keys : (config.place table).keys ≠ [] := by
    obtain ⟨key, present, isKey⟩ := List.any_eq_true.mp keyed
    exact List.ne_nil_of_mem (List.mem_filter.mpr ⟨present, isKey⟩)
  have changes := Upsert.changes_assignedOf config.dialect table
  refine ⟨_, _, built config, rfl, rfl,
    Upsert.operation?_body config.dialect (config.place table) keys cells, rfl, rfl, rfl, rfl, rfl,
    changes, fun updated => ?_, fun unchanged => ?_, fun change member => ?_,
    fun distinct change member column present same => ?_⟩
  · have some : table.updatable.isEmpty = false := List.isEmpty_eq_false_iff.mpr updated
    have assigned : Upsert.assignedOf config.dialect table = Upsert.changesOf table :=
      if_neg (by simp [some])
    exact assigned.trans changes.symm
  · have none : table.updatable.isEmpty = true := List.isEmpty_iff.mpr unchanged
    show Upsert.assignedOf config.dialect table = _
    simp [Upsert.assignedOf, Upsert.changesOf, unchanged]
  · have changed : change ∈ Upsert.changesOf table := by rwa [← changes]
    exact Upsert.updatable_of_change changed
  · have changed : change ∈ Upsert.changesOf table := by rwa [← changes]
    obtain ⟨found, listed, named, free⟩ := Upsert.updatable_of_change changed
    obtain rfl := distinct.eq_of_name listed present (named.trans same.symm)
    exact free

/-- An upsert with an identity for its key and an expression of its own, as a merge and as an
insert with a clause for duplicate keys. -/
theorem Command.upsert_of_visits_is_one_operation :
    let table : Table := {
      name := "users", schema := none
      columns := [{ name := "id", key := true, identity := true }, { name := "name" },
        { name := "visits", updateSql := some "visits + 1" }] }
    let record : Record := fun property =>
      if property = "name" then some (.text "Ann") else some (.int 1)
    let command : Command := .upsert { record }
    (∃ row, captured table.columns record = .ok row) ∧ table.hasKey = true ∧
    ∃ merged inserted one other,
      command.build { dialect := .sqlserver } table = .ok merged ∧
      command.build { dialect := .mysql } table = .ok inserted ∧
      merged.params = inserted.params ∧
      Upsert.operation? .sqlserver merged.fragment = some one ∧
      Upsert.operation? .mysql inserted.fragment = some other ∧
      one.columns = ["id", "name", "visits"] ∧ other.columns = ["id", "name", "visits"] ∧
      one.conflict = some ["id"] ∧ other.conflict = none ∧
      one.changes = [("name", .incoming "name"), ("visits", .expression "visits + 1")] ∧
      other.changes = one.changes := by
  intro table record command
  obtain ⟨row, complete⟩ : ∃ row, captured table.columns record = .ok row := ⟨_, rfl⟩
  have keyed : table.hasKey = true := rfl
  obtain ⟨cells, params, _, every⟩ := upsert_is_one_operation complete keyed
  obtain ⟨merged, one, builtMerge, _, sameParams, readMerge, _, _, columns, _, conflict, changes,
    _⟩ := every { dialect := .sqlserver }
  obtain ⟨inserted, other, builtInsert, _, otherParams, readInsert, _, _, otherColumns, _,
    otherConflict, otherChanges, _⟩ := every { dialect := .mysql }
  exact ⟨⟨row, complete⟩, keyed, merged, inserted, one, other, builtMerge, builtInsert,
    sameParams.trans otherParams.symm, readMerge, readInsert, columns, otherColumns, conflict,
    otherConflict, changes, otherChanges.trans changes.symm⟩

end Sqlwright
