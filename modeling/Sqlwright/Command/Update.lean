import Sqlwright.Command.Basic

/-!
# Changing rows

An update assigns values or expressions to fields of all rows that its filters admit. The
update of a record assigns every updatable column and admits only the row that the record
was captured from: its key and its guards have to be unchanged.
-/

namespace Sqlwright

open Sql (Fragment Statement)

/-- What a field is set to. -/
inductive Source where
  | value (value : Value)
  /-- An expression, written as it is. -/
  | sql (text : String)
deriving DecidableEq, Repr

/-- A field and what it is set to. -/
structure Assignment where
  field : String
  source : Source
deriving DecidableEq, Repr

/-- An update of the rows that all filters admit. -/
structure Update where
  assignments : List Assignment := []
  filters : List Expr := []

namespace Update

open Command

/-- The assignment of a column from its captured value or its own expression. -/
def assignmentOf (column : Column) (value : Value) : Assignment :=
  { field := column.property
    source := match column.updateSql with
      | some sql => .sql sql
      | none => .value value }

/-- The update of a record's row. -/
def ofRecord (table : Table) (record : Record) : Except BuildError Update := do
  let row ← captured table.columns record
  let filter ← rowPredicate table row
  return {
    assignments := (row.filter (·.1.isUpdatable)).map fun (column, value) =>
      assignmentOf column value
    filters := [filter] }

/-- One assignment written out. -/
def assignment (table : Table) (assignment : Assignment) : Building Fragment := do
  let column ← column table assignment.field
  let source ← match assignment.source with
    | .value value => Building.bound column.property value
    | .sql text => pure (Fragment.raw text)
  return Fragment.ident column.name ++ Fragment.comparison .eq ++ source

/-- The update in the dialect of the configuration. -/
def build (config : Config) (table : Table) (update : Update) : Except BuildError Statement :=
  let table := config.place table
  if update.assignments.isEmpty then .error (.noAssignments table.name)
  else Building.statement config.dialect do
    let assignments ← update.assignments.mapM (assignment table)
    let whereClause ← Building.whereClause config.dialect table (combined update.filters)
    return Fragment.keyword .UPDATE ++ tableName table ++ Fragment.keyword .SET ++
      Fragment.commaList assignments ++ whereClause

end Update
end Sqlwright
