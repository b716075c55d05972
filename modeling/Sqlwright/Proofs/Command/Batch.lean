import Sqlwright.Proofs.Command.Cells

/-!
# What a batch of records becomes

An insert lists its columns once and then has a row for each record. It is read back here
from its chunks: the table, the listed columns, and the rows with their cells, or the
defaults that it writes in their place. Around them stand the clauses that return the
identity, which are passed over.

The rows of a batch share one set of parameters, and a record's values are captured for all
columns but written for some. So what has to hold is that a value is not lost or moved on
its way: each cell belongs to its column and its record, and the values that are bound, row
by row, are those that the cells refer to.
-/

namespace Sqlwright

open Sql (Cell Chunk Fragment Statement)

namespace Insert

open Command Sql.Fragment

/-- What an insert writes: the defaults of all columns, or rows of cells for the columns that
it lists. -/
inductive Contents where
  | defaults
  | listed (columns : List String) (rows : List (List Cell))
deriving DecidableEq, Repr

/-- What an insert adds to which table. -/
structure Addition where
  schema : Option String
  table : String
  contents : Contents
deriving DecidableEq, Repr

/-- What follows the clause that returns the identity before the values, if there is one. -/
def afterOutput : Fragment → Fragment
  | .token (.keyword .OUTPUT) :: .raw _ :: .token (.punctuation .point) :: .ident _ :: rest => rest
  | rest => rest

/-- Whether a fragment does nothing but return the identity. -/
def returns : Fragment → Bool
  | [] => true
  | [.token (.keyword .RETURNING), .ident _] => true
  | [.token (.punctuation .semicolon), .token (.keyword .SELECT), .raw _] => true
  | _ => false

/-- The columns and rows that an insert lists. -/
def listedRows? (fragment : Fragment) : Option Contents := do
  let (columns, rest) ← listed? name? fragment
  let rest ← after? (keyword .VALUES) (afterOutput rest)
  let (rows, rest) ← rows? rest
  if returns rest then some (.listed columns rows) else none

/-- What follows the table of an insert. -/
def contents? (fragment : Fragment) : Option Contents :=
  match afterOutput fragment with
  | .token (.keyword .DEFAULT) :: .token (.keyword .VALUES) :: rest =>
    if returns rest then some .defaults else none
  | _ => listedRows? fragment

/-- What a fragment inserts. -/
def addition? : Fragment → Option Addition
  | .token (.keyword .INSERT) :: .token (.keyword .INTO) :: .qualified schema table :: rest =>
    (contents? rest).map fun contents => { schema, table, contents }
  | _ => none

/-- The clause before the values is passed over. -/
theorem afterOutput_outputClause (dialect : Dialect) (identity : Option Column)
    {word : Sql.Keyword} (other : word ≠ .OUTPUT) (rest : Fragment) :
    afterOutput (outputClause dialect identity ++ (keyword word ++ rest)) =
      keyword word ++ rest := by
  have alone : afterOutput (keyword word ++ rest) = keyword word ++ rest := by
    unfold afterOutput
    split
    · rename_i same
      cases same
      exact absurd rfl other
    · rfl
  unfold outputClause
  split
  · rfl
  · exact alone

/-- What follows the rows only returns the identity. -/
theorem returns_returningClause (dialect : Dialect) (rows : Nat) (identity : Option Column) :
    returns (returningClause dialect rows identity) = true := by
  unfold returningClause
  split
  · rfl
  · split
    · rfl
    · split <;> rfl

/-- No comma continues the rows. -/
theorem returningClause_ne_comma (dialect : Dialect) (rows : Nat) (identity : Option Column)
    (after : Fragment) :
    returningClause dialect rows identity ≠ .token (.punctuation .comma) :: after := by
  intro same
  have read := returns_returningClause dialect rows identity
  rw [same] at read
  cases read

/-- The table is read back. -/
theorem addition?_insertInto (table : Table) (rest : Fragment) :
    addition? (insertInto table ++ rest) =
      (contents? rest).map fun contents => ⟨table.schema, table.name, contents⟩ := rfl

/-- Rows are read back with their columns. -/
theorem contents?_listed (dialect : Dialect) (identity : Option Column) (columns : List Column)
    {rows : List (List Cell)} (nonempty : rows ≠ []) (count : Nat) :
    contents? (columnList columns ++ outputClause dialect identity ++ keyword .VALUES ++
        commaList (rows.map row) ++ returningClause dialect count identity) =
      some (.listed (columns.map (·.name)) rows) := by
  have values : Sql.Keyword.VALUES ≠ .OUTPUT := by decide
  show listedRows? _ = _
  simp only [List.append_assoc]
  simp only [listedRows?, listed?_columnList, bind, Option.bind_some,
    afterOutput_outputClause dialect identity values, after?_append,
    rows?_commaList nonempty (returningClause_ne_comma dialect count identity),
    returns_returningClause, if_true]

/-- Defaults are read back. -/
theorem contents?_defaults (dialect : Dialect) (identity : Option Column) (count : Nat) :
    contents? (outputClause dialect identity ++ keywords [.DEFAULT, .VALUES] ++
      returningClause dialect count identity) = some .defaults := by
  have default : Sql.Keyword.DEFAULT ≠ .OUTPUT := by decide
  have divided : keywords [.DEFAULT, .VALUES] ++ returningClause dialect count identity =
      keyword .DEFAULT ++ (keyword .VALUES ++ returningClause dialect count identity) := rfl
  rw [List.append_assoc, divided, contents?,
    afterOutput_outputClause dialect identity default]
  simp [keyword, returns_returningClause]

variable {config : Config} {table : Table} {records : List Record}
  {rows : List (List (Column × Value))} {returnIdentity : Bool}

/-- The column that an insert returns. -/
def returned (table : Table) (returnIdentity : Bool) : Option Column :=
  if returnIdentity then table.identity? else none

/-- With all records captured, and at least one, building goes on to write them. -/
theorem build_of_captured (complete : records.mapM (captured table.columns) = .ok rows)
    (nonempty : records ≠ []) :
    Command.build config table (.insertMany records returnIdentity) =
      Building.statement config.dialect do
        let body ← body config.dialect (config.place table) rows (returned table returnIdentity)
        return insertInto (config.place table) ++ body ++
          returningClause config.dialect rows.length (returned table returnIdentity) := by
  have some : rows.isEmpty = false := by
    rw [List.isEmpty_eq_false_iff]
    rintro rfl
    exact nonempty (List.forall₂_nil_right_iff.mp (except_mapM_ok complete))
  show Insert.build config table _ = _
  unfold Insert.build
  dsimp only
  rw [complete]
  simp only [some, bind, Except.bind]
  rfl

/-- Each captured row has a value for every column of its table, and what is written of it is
what belongs to the insertable columns. -/
theorem captured_writtenCells (complete : records.mapM (captured table.columns) = .ok rows) :
    List.Forall₂ (Captured table.insertable) records (rows.map writtenCells) := by
  rw [List.forall₂_map_right_iff]
  exact (except_mapM_ok complete).imp fun record row whole =>
    captured_filter whole Column.isInsertable

/-- The columns and rows that a batch writes, and what they bind. -/
theorem run_body (complete : records.mapM (captured table.columns) = .ok rows)
    (writable : table.insertable ≠ []) (config : Config) (identity : Option Column) :
    ∃ written later, (body config.dialect (config.place table) rows identity).run .empty =
        .ok (columnList table.insertable ++ outputClause config.dialect identity ++
          keyword .VALUES ++ commaList (written.map row), later) ∧
      FillsRows table.insertable records .empty later written := by
  obtain ⟨written, later, ran, filled⟩ := run_valueRows (captured_writtenCells complete) .empty
  refine ⟨written, later, ?_, filled⟩
  have several : ¬ (config.place table).insertable.isEmpty = true := by
    rw [List.isEmpty_iff]
    exact writable
  rw [List.mapM_map] at ran
  rw [body, if_neg several]
  exact Building.run_bind_of_ok ran

/-- The parameters of written rows are those of their cells. -/
theorem paramNames_rows (rows : List (List Cell)) :
    (commaList (rows.map row)).paramNames = rows.flatten.filterMap Cell.param? := by
  have each : ∀ cells : List Cell, (row cells).paramNames = cells.filterMap Cell.param? := by
    intro cells
    rw [row, paramNames_parens, paramNames_commaList, List.flatMap_map,
      List.filterMap_eq_flatMap_toList]
    simp only [Cell.paramNames_fragment]
  rw [paramNames_commaList, List.flatMap_map, List.filterMap_flatten]
  simp only [each]
  rfl

/-- A batch of captured records is built into one row for each, if there are columns to write. -/
theorem build_listed (complete : records.mapM (captured table.columns) = .ok rows)
    (nonempty : records ≠ []) (writable : table.insertable ≠ []) (config : Config)
    (returnIdentity : Bool) :
    ∃ statement written,
      Command.build config table (.insertMany records returnIdentity) = .ok statement ∧
      statement.dialect = config.dialect ∧
      addition? statement.fragment = some ⟨(config.place table).schema, table.name,
        .listed (table.insertable.map (·.name)) written⟩ ∧
      statement.fragment.paramNames = written.flatten.filterMap Cell.param? ∧
      FillsRows table.insertable records .empty statement.params written := by
  obtain ⟨written, later, ran, filled⟩ :=
    run_body complete writable config (returned table returnIdentity)
  have several : written ≠ [] := by
    rintro rfl
    exact nonempty (List.forall₂_nil_right_iff.mp filled.fills)
  have built : Command.build config table (.insertMany records returnIdentity) = .ok _ :=
    (build_of_captured complete nonempty).trans
      (Building.statement_of_run (Building.run_bind_of_ok ran))
  refine ⟨_, written, built, rfl, ?_, ?_, filled⟩
  · rw [List.append_assoc, addition?_insertInto, contents?_listed _ _ _ several]
    rfl
  · simp [-paramNames_commaList, paramNames_rows]

/-- Without columns to write the body is a row of defaults, or rows without cells. -/
theorem body_of_none (none : table.insertable = []) (dialect : Dialect)
    (rows : List (List (Column × Value))) (identity : Option Column) :
    body dialect table rows identity = liftM (defaultRows dialect table rows.length identity) := by
  have empty : table.insertable.isEmpty = true := List.isEmpty_iff.mpr none
  rw [body, if_pos empty]

/-- In MySQL there is a row without cells for each record. -/
theorem contents?_emptyRows (identity : Option Column) {count : Nat} (some : count ≠ 0) :
    contents? (emptyRow ++ keyword .VALUES ++ commaList (List.replicate count emptyRow) ++
      returningClause .mysql count identity) =
        Option.some (.listed [] (List.replicate count [])) := by
  have several : List.replicate count ([] : List Cell) ≠ [] := by
    rwa [Ne, List.replicate_eq_nil_iff]
  have written : List.replicate count emptyRow = (List.replicate count []).map row := by
    rw [List.map_replicate]
    rfl
  rw [written]
  exact contents?_listed .mysql identity [] several count

/-- A batch for a table without columns to write: rows without cells in MySQL, one row of defaults
elsewhere, and no statement for more. -/
theorem build_unlisted (complete : records.mapM (captured table.columns) = .ok rows)
    (nonempty : records ≠ []) (none : table.insertable = []) (config : Config)
    (returnIdentity : Bool) :
    if config.dialect ≠ .mysql ∧ 1 < records.length then
      Command.build config table (.insertMany records returnIdentity) =
        .error (.schema (.noInsertableColumns table.name))
    else ∃ statement,
      Command.build config table (.insertMany records returnIdentity) = .ok statement ∧
      statement.dialect = config.dialect ∧ statement.params = .empty ∧
      statement.fragment.paramNames = [] ∧
      addition? statement.fragment = some ⟨(config.place table).schema, table.name,
        if config.dialect = .mysql then .listed [] (List.replicate records.length [])
        else .defaults⟩ := by
  have count : records.length = rows.length := (except_mapM_ok complete).length_eq
  have start : Command.build config table (.insertMany records returnIdentity) = _ :=
    build_of_captured complete nonempty
  rw [body_of_none (show (config.place table).insertable = [] from none)] at start
  by_cases mysql : config.dialect = .mysql
  · have some : rows.length ≠ 0 := by
      rw [← count]
      exact Nat.ne_of_gt (List.length_pos_iff.mpr nonempty)
    rw [defaultRows, if_pos mysql] at start
    rw [if_neg fun elsewhere => elsewhere.1 mysql, if_pos mysql, count]
    refine ⟨_, start.trans (Building.statement_of_run (Building.run_bind_of_ok rfl)), rfl, rfl,
      ?_, ?_⟩
    · simp [emptyRow]
    · rw [List.append_assoc, addition?_insertInto, mysql, contents?_emptyRows _ some]
      rfl
  · rw [defaultRows, if_neg mysql] at start
    by_cases several : 1 < records.length
    · rw [if_pos (count ▸ several)] at start
      rw [if_pos ⟨mysql, several⟩]
      exact start
    · rw [if_neg (count ▸ several)] at start
      rw [if_neg fun elsewhere => several elsewhere.2, if_neg mysql]
      refine ⟨_, start.trans (Building.statement_of_run (Building.run_bind_of_ok rfl)), rfl, rfl,
        ?_, ?_⟩
      · simp
      · rw [List.append_assoc, addition?_insertInto, contents?_defaults]
        rfl

end Insert

/-- A batch keeps every value in its cell. There is a row for each record, and in it a cell for
each insertable column, in the order of the columns, that holds the column's own expression or a
parameter bound to this record's value for it. No column of the list is filled by the database.
Each parameter is named once, and in every dialect the placeholders take the values of the
columns without expressions, record by record. The values come from captured rows that have one
for every column of the table.

A table without insertable columns gets rows of defaults, as many as there are records in MySQL
and one elsewhere; more than one is an error there. Nothing is bound for them. -/
theorem Command.insert_many_keeps_cells {table : Table} {records : List Record}
    {rows : List (List (Column × Value))}
    (complete : records.mapM (captured table.columns) = .ok rows) (nonempty : records ≠ [])
    (config : Config) (returnIdentity : Bool) :
    let command : Command := .insertMany records returnIdentity
    let place := config.place table
    (∀ row ∈ rows, row.map Prod.fst = table.columns) ∧
    (table.insertable ≠ [] → ∃ statement cells,
      command.build config table = .ok statement ∧ statement.dialect = config.dialect ∧
      Insert.addition? statement.fragment =
        some ⟨place.schema, table.name, .listed (table.insertable.map (·.name)) cells⟩ ∧
      List.Forall₂ (fun record => List.Forall₂ (Fills statement.params record) table.insertable)
        records cells ∧
      (∀ column ∈ table.insertable, column ∈ table.columns ∧ column.identity = false) ∧
      statement.fragment.paramNames.Nodup ∧
      statement.positional.values = records.flatMap (boundValues table.insertable)) ∧
    (table.insertable = [] →
      if config.dialect ≠ .mysql ∧ 1 < records.length then
        command.build config table = .error (.schema (.noInsertableColumns table.name))
      else ∃ statement,
        command.build config table = .ok statement ∧ statement.dialect = config.dialect ∧
        statement.params = .empty ∧ statement.fragment.paramNames = [] ∧
        Insert.addition? statement.fragment = some ⟨place.schema, table.name,
          if config.dialect = .mysql then .listed [] (List.replicate records.length [])
          else .defaults⟩) := by
  refine ⟨?_, fun writable => ?_, fun none =>
    Insert.build_unlisted complete nonempty none config returnIdentity⟩
  · intro row member
    obtain ⟨record, _, whole⟩ := exists_related (except_mapM_ok complete).flip member
    exact columns_captured whole
  · obtain ⟨statement, cells, built, dialect, read, names, filled⟩ :=
      Insert.build_listed complete nonempty writable config returnIdentity
    have once : statement.fragment.paramNames = statement.params.names := by
      rw [names, filled.names]
      rfl
    refine ⟨statement, cells, built, dialect, read, filled.fills, ?_, ?_, ?_⟩
    · intro column member
      obtain ⟨present, insertable⟩ := List.mem_filter.mp member
      exact ⟨present, Column.not_identity_of_isInsertable column insertable⟩
    · rw [once]
      exact statement.params.nodup_names
    · rw [(closed_of_build built).positional_values once, filled.values]
      rfl

/-- Two records for columns whose properties clash with each other's suffixes. The column with an
expression of its own takes no value. -/
theorem Command.insert_many_keeps_clashing_properties :
    let config : Config := { dialect := .mysql }
    let table : Table := {
      name := "people", schema := none
      columns := [{ name := "id", key := true, identity := true }, { name := "age" },
        { name := "created", insertSql := some "now()" }, { name := "age_1" }] }
    let record (age last : Int64) : Record := fun property =>
      if property = "age" then some (.int age)
      else if property = "age_1" then some (.int last) else some .null
    let records := [record 30 29, record 40 39]
    (∃ rows, records.mapM (captured table.columns) = .ok rows) ∧ records ≠ [] ∧
    ∃ statement, Command.build config table (.insertMany records true) = .ok statement ∧
      statement.fragment.paramNames = ["age", "age_1", "age_2", "age_1_1"] ∧
      statement.fragment.paramNames.Nodup ∧
      statement.positional.values = [.int 30, .int 29, .int 40, .int 39] := by
  intro config table record records
  obtain ⟨rows, complete⟩ : ∃ rows, records.mapM (captured table.columns) = .ok rows := ⟨_, rfl⟩
  have nonempty : records ≠ [] := List.cons_ne_nil _ _
  have writable : table.insertable ≠ [] := List.cons_ne_nil _ _
  obtain ⟨statement, _, built, _, _, _, _, once, values⟩ :=
    (insert_many_keeps_cells complete nonempty config true).2.1 writable
  obtain ⟨other, builtAgain, names⟩ : ∃ other,
      Command.build config table (.insertMany records true) = .ok other ∧
      other.fragment.paramNames = ["age", "age_1", "age_2", "age_1_1"] := ⟨_, rfl, rfl⟩
  obtain rfl : statement = other := Except.ok.inj (built.symm.trans builtAgain)
  exact ⟨⟨rows, complete⟩, nonempty, statement, built, names, once, values⟩

end Sqlwright
