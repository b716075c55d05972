import Sqlwright.Command.Basic

/-!
# Adding a row or changing it

An upsert inserts a record's row, and updates the row that is there if one has the same
key. The key columns are always inserted, also those that the database would fill. An
updated column takes its own expression, or the value of the row that was to be inserted.

The dialects name that row differently: `excluded` after a conflict, a function of the
column in MySQL, and the alias `source` in a merge.
-/

namespace Sqlwright

open Sql (Fragment Statement)

/-- An upsert of a record. -/
structure Upsert where
  record : Record

namespace Upsert

open Command

/-- Whether an upsert inserts the column. -/
def inserts (column : Column) : Bool := column.key || column.isInsertable

/-- The value that a column was to be inserted with. -/
def incoming (dialect : Dialect) (column : Column) : Fragment :=
  match dialect with
  | .sqlite | .postgresql => ofRow "excluded" column
  | .mysql => Fragment.raw "VALUES(" ++ Fragment.ident column.name ++ Fragment.sign .rightParen
  | .sqlserver => ofRow "source" column

/-- The assignments to the updated columns. -/
def assignments (dialect : Dialect) (updated : List Column) : Fragment :=
  Fragment.commaList (updated.map fun column =>
    let source := match column.updateSql with
      | some sql => Fragment.raw sql
      | none => incoming dialect column
    Fragment.ident column.name ++ Fragment.comparison .eq ++ source)

/-- An insert that ends with what to do on a conflict of keys. -/
def onConflict (dialect : Dialect) (table : Table) (inserted : List Column) (values : Fragment) :
    Fragment :=
  insertInto table ++ columnList inserted ++ Fragment.keyword .VALUES ++ values ++
    Fragment.keywords [.ON, .CONFLICT] ++ columnList table.keys ++ Fragment.keyword .DO ++
    (if table.updatable.isEmpty then Fragment.keyword .NOTHING
      else Fragment.keywords [.UPDATE, .SET] ++ assignments dialect table.updatable)

/-- An insert that ends with what to do on a duplicate key. With nothing to update, the
key is assigned to itself. -/
def onDuplicateKey (dialect : Dialect) (table : Table) (inserted : List Column)
    (values : Fragment) : Fragment :=
  insertInto table ++ columnList inserted ++ Fragment.keyword .VALUES ++ values ++
    Fragment.keywords [.ON, .DUPLICATE, .KEY, .UPDATE] ++
    (if table.updatable.isEmpty then
        match table.keys.head? with
        | some key =>
          Fragment.ident key.name ++ Fragment.comparison .eq ++ Fragment.ident key.name
        | none => []
      else assignments dialect table.updatable)

/-- A merge of a single row into the table. -/
def merge (dialect : Dialect) (table : Table) (inserted : List Column) (values : Fragment) :
    Fragment :=
  let sameKey := Fragment.joined (.keyword .AND) (table.keys.map fun key =>
    ofRow "target" key ++ Fragment.comparison .eq ++ ofRow "source" key)
  Fragment.keywords [.MERGE, .INTO] ++ tableName table ++ Fragment.keyword .AS ++
    Fragment.raw "target" ++ Fragment.keyword .USING ++
    Fragment.parens (Fragment.keyword .VALUES ++ values) ++ Fragment.keyword .AS ++
    Fragment.raw "source" ++ columnList inserted ++ Fragment.keyword .ON ++ sameKey ++
    (if table.updatable.isEmpty then []
      else Fragment.keywords [.WHEN, .MATCHED, .THEN, .UPDATE, .SET] ++
        assignments dialect table.updatable) ++
    Fragment.keywords [.WHEN, .NOT, .MATCHED, .THEN, .INSERT] ++ columnList inserted ++
    Fragment.keyword .VALUES ++
    Fragment.parens (Fragment.commaList (inserted.map (ofRow "source"))) ++
    Fragment.sign .semicolon

/-- The statement around a row of values. -/
def body (dialect : Dialect) (table : Table) (values : Fragment) : Fragment :=
  let inserted := table.columns.filter inserts
  match dialect with
  | .sqlite | .postgresql => onConflict dialect table inserted values
  | .mysql => onDuplicateKey dialect table inserted values
  | .sqlserver => merge dialect table inserted values

/-- The upsert in the dialect of the configuration. -/
def build (config : Config) (table : Table) (upsert : Upsert) : Except BuildError Statement := do
  let row ← captured table.columns upsert.record
  let table := config.place table
  if !table.hasKey then throw (.missingKey table.name)
  Building.statement config.dialect do
    let values ← valueRow (row.filter (inserts ·.1))
    return body config.dialect table values

end Upsert
end Sqlwright
