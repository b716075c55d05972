import Sqlwright.Config
import Sqlwright.Predicate.Compile
import Sqlwright.Sql.Statement

/-!
# What commands share

A command is built for a configuration and a table. Building writes a fragment and binds
parameters as it goes; it yields a statement, or the reason why there is none.

A record is known by the values of its properties. Captured, it has one value for each
column of the table, in the order of the columns.
-/

namespace Sqlwright

open Sql (Fragment Statement)

/-- Why a command has no statement. -/
inductive BuildError where
  /-- A filter, an assignment or a sort term has no meaning for the table. -/
  | predicate (error : PredicateError)
  /-- The columns of the table do not admit the command. -/
  | schema (error : SchemaError)
  /-- The command needs a key and the table has none. -/
  | missingKey (table : String)
  /-- There are more or fewer key values than key columns. -/
  | keyCount (table : String) (expected actual : Nat)
  /-- An update assigns nothing. -/
  | noAssignments (table : String)
  /-- An insert without records. -/
  | emptyBatch
  /-- A record has no value for a property. -/
  | missingValue (property : String)
deriving DecidableEq, Repr

/-- The wording of an error. -/
def BuildError.message : BuildError → String
  | .predicate error => "Translation error: " ++ error.message
  | .schema error => "Schema error: " ++ error.message
  | .missingKey table => "Table `" ++ table ++ "` has no key columns"
  | .keyCount table expected actual =>
    "Table `" ++ table ++ "` has " ++ Text.decimal expected ++ " key column(s), got " ++
      Text.decimal actual ++ " value(s)"
  | .noAssignments table => "No assignable columns for update of `" ++ table ++ "`"
  | .emptyBatch => "Cannot build a statement for an empty batch"
  | .missingValue property => "Entity has no value for property `" ++ property ++ "`"

/-- The values of an entity by property. -/
abbrev Record := String → Option Value

/-- A step of building: it may bind parameters, and it may fail. -/
abbrev Building := StateT ParamSet (Except BuildError)

namespace Building

/-- The statement of a finished fragment and of the parameters bound for it. -/
def statement (dialect : Dialect) (build : Building Fragment) : Except BuildError Statement :=
  (build.run .empty).map fun (fragment, params) => { dialect, fragment, params }

/-- Bind a value under a wished-for name, and refer to it. -/
def bound (base : String) (value : Value) : Building Fragment := fun params =>
  let (name, extended) := params.add base value
  .ok (Fragment.param name, extended)

/-- A predicate as a condition; nothing if it always holds. -/
def whereClause (dialect : Dialect) (table : Table) (filter : Option Expr) : Building Fragment :=
  fun params =>
    match filter with
    | none => .ok ([], params)
    | some filter =>
      match compile dialect table filter params with
      | (.error error, _) => .error (.predicate error)
      | (.ok predicate, params) =>
        if predicate.isTrue then .ok ([], params)
        else .ok (Fragment.keyword .WHERE ++ predicate.fragment, params)

end Building

namespace Command

/-- All filters together, from the left; none if there are none. -/
def combined : List Expr → Option Expr
  | [] => none
  | first :: rest => some (rest.foldl Expr.and first)

/-- The name of a table in a statement. -/
def tableName (table : Table) : Fragment := [.qualified table.schema table.name]

/-- The column that a field names. -/
def column (table : Table) (field : String) : Except BuildError Column :=
  match table.column? field with
  | some column => .ok column
  | none => .error (.predicate (.unknownField table.name field))

/-- A column has the given value. -/
def columnEquals (column : Column) (value : Value) : Expr :=
  .compare .eq (.field column.property) (.const value)

/-- Each column with the record's value for it. -/
def captured (columns : List Column) (record : Record) :
    Except BuildError (List (Column × Value)) :=
  columns.mapM fun column =>
    match record column.property with
    | some value => .ok (column, value)
    | none => .error (.missingValue column.property)

/-- The condition that the key has the given values. -/
def keyPredicate (table : Table) (values : List Value) : Except BuildError Expr :=
  let keys := table.keys
  if keys.isEmpty then .error (.missingKey table.name)
  else if keys.length ≠ values.length then
    .error (.keyCount table.name keys.length values.length)
  else .ok (.allOf (List.zipWith columnEquals keys values))

/-- The condition that a row is the captured one and has not been changed since. -/
def rowPredicate (table : Table) (row : List (Column × Value)) : Except BuildError Expr :=
  if table.hasKey then
    .ok (.allOf ((row.filter (·.1.identifiesRow)).map fun (column, value) =>
      columnEquals column value))
  else .error (.missingKey table.name)

/-- The names of columns in parentheses. -/
def columnList (columns : List Column) : Fragment :=
  Fragment.parens (Fragment.commaList (columns.map fun column => Fragment.ident column.name))

/-- One cell of an inserted row: the column's own expression, or its value. -/
def cell (column : Column) (value : Value) : Building Fragment :=
  match column.insertSql with
  | some sql => return Fragment.raw sql
  | none => Building.bound column.property value

/-- An inserted row. -/
def valueRow (row : List (Column × Value)) : Building Fragment := do
  let cells ← row.mapM fun (column, value) => cell column value
  return Fragment.parens (Fragment.commaList cells)

/-- A column of a row that goes by a name of its own. -/
def ofRow (row : String) (column : Column) : Fragment :=
  Fragment.raw row ++ Fragment.sign .point ++ Fragment.ident column.name

/-- The head of an insert. -/
def insertInto (table : Table) : Fragment :=
  Fragment.keywords [.INSERT, .INTO] ++ tableName table

/-- Captured columns are the columns asked for, in their order. -/
theorem columns_captured {columns : List Column} {record : Record} {row : List (Column × Value)}
    (complete : captured columns record = .ok row) : row.map Prod.fst = columns := by
  induction columns generalizing row with
  | nil =>
    cases complete
    rfl
  | cons column rest inductionHypothesis =>
    simp only [captured, List.mapM_cons] at complete
    cases present : record column.property with
    | none => simp [present, bind, Except.bind] at complete
    | some value =>
      simp only [present, bind, Except.bind] at complete
      cases others : rest.mapM (fun column =>
          match record column.property with
          | some value => Except.ok (column, value)
          | none => Except.error (BuildError.missingValue column.property)) with
      | error error => simp [others] at complete
      | ok tail =>
        simp only [others, pure, Except.pure, Except.ok.injEq] at complete
        subst complete
        simp [inductionHypothesis others]

end Command
end Sqlwright
