import Sqlwright.Command.Basic

/-!
# Adding rows

An insert writes the insertable columns of each record. If the database fills an
identity column, the insert can return what it has filled in: by a clause at the end, by
one before the values, or by a second statement that only makes sense for a single row.

A table without insertable columns still takes rows of defaults: any number in MySQL and
one elsewhere.
-/

namespace Sqlwright

open Sql (Fragment Statement)

/-- An insert of one or more records. -/
structure Insert where
  records : List Record
  /-- Whether to return what the database fills in. -/
  returnIdentity : Bool := true

namespace Insert

open Command

/-- The clause before the values that returns the identity. -/
def outputClause (dialect : Dialect) (identity : Option Column) : Fragment :=
  match dialect, identity with
  | .sqlserver, some identity => Fragment.keyword .OUTPUT ++ ofRow "INSERTED" identity
  | _, _ => []

/-- What follows the values to return the identity. -/
def returningClause (dialect : Dialect) (rows : Nat) (identity : Option Column) : Fragment :=
  match identity with
  | none => []
  | some identity =>
    if dialect.hasReturning then Fragment.keyword .RETURNING ++ Fragment.ident identity.name
    else if dialect = .mysql ∧ rows = 1 then
      Fragment.sign .semicolon ++ Fragment.keyword .SELECT ++ Fragment.raw "LAST_INSERT_ID()"
    else []

/-- A row without cells. -/
def emptyRow : Fragment := Fragment.parens []

/-- What follows the table when there is no column to write. -/
def defaultRows (dialect : Dialect) (table : Table) (rows : Nat) (identity : Option Column) :
    Except BuildError Fragment :=
  if dialect = .mysql then
    .ok (emptyRow ++ Fragment.keyword .VALUES ++
      Fragment.commaList (List.replicate rows emptyRow))
  else if 1 < rows then .error (.schema (.noInsertableColumns table.name))
  else .ok (outputClause dialect identity ++ Fragment.keywords [.DEFAULT, .VALUES])

/-- The cells of a captured row that an insert writes. -/
def writtenCells (row : List (Column × Value)) : List (Column × Value) :=
  row.filter (·.1.isInsertable)

/-- What follows the table: columns and rows, or rows of defaults. -/
def body (dialect : Dialect) (table : Table) (rows : List (List (Column × Value)))
    (identity : Option Column) : Building Fragment := do
  if table.insertable.isEmpty then defaultRows dialect table rows.length identity
  else
    let values ← rows.mapM fun row => valueRow (writtenCells row)
    return columnList table.insertable ++ outputClause dialect identity ++
      Fragment.keyword .VALUES ++ Fragment.commaList values

/-- The insert in the dialect of the configuration. Records are captured before anything
else, and an incomplete one is reported first. -/
def build (config : Config) (table : Table) (insert : Insert) : Except BuildError Statement := do
  let rows ← insert.records.mapM (captured table.columns)
  if rows.isEmpty then throw .emptyBatch
  let dialect := config.dialect
  let table := config.place table
  let identity := if insert.returnIdentity then table.identity? else none
  Building.statement dialect do
    let body ← body dialect table rows identity
    return insertInto table ++ body ++ returningClause dialect rows.length identity

end Insert
end Sqlwright
