import Sqlwright.Command.Basic

/-!
# Removing rows

A delete removes the rows that its filters admit, all rows if there are none. The delete
of a record admits only the row that the record was captured from. A table is emptied by
the statement for it where the dialect has one.
-/

namespace Sqlwright

open Sql (Fragment Statement)

/-- A delete of the rows that all filters admit. -/
structure Delete where
  filters : List Expr := []

namespace Delete

open Command

/-- The delete of a record's row. -/
def ofRecord (table : Table) (record : Record) : Except BuildError Delete := do
  let row ← captured table.columns record
  let filter ← rowPredicate table row
  return { filters := [filter] }

/-- The delete of the row with the given key. -/
def byKey (table : Table) (key : List Value) : Except BuildError Delete :=
  (keyPredicate table key).map fun filter => { filters := [filter] }

/-- The delete in the dialect of the configuration. -/
def build (config : Config) (table : Table) (delete : Delete) : Except BuildError Statement :=
  let table := config.place table
  Building.statement config.dialect do
    let whereClause ← Building.whereClause config.dialect table (combined delete.filters)
    return Fragment.keywords [.DELETE, .FROM] ++ tableName table ++ whereClause

end Delete

/-- The statement that empties a table. It cannot fail. -/
def truncate (config : Config) (table : Table) : Statement :=
  let verb := if config.dialect.hasTruncate then [.TRUNCATE, .TABLE] else [.DELETE, .FROM]
  { dialect := config.dialect
    fragment := Fragment.keywords verb ++ Command.tableName (config.place table)
    params := .empty }

end Sqlwright
