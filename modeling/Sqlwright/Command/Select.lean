import Sqlwright.Command.Basic

/-!
# Reading rows

A select lists the columns that may be read, filters, sorts and pages. Paging takes a
different clause in each family of dialects. Where rows can be skipped only together with
a limit, a limit that keeps every row is written. SQL Server pages only what is sorted,
so an order that sorts nothing is written if there is none; and it cannot fetch no rows
at all, so an empty page becomes a filter that never holds.
-/

namespace Sqlwright

open Sql (Fragment Statement)

/-- A field to sort by. -/
structure SortTerm where
  field : String
  descending : Bool := false
deriving DecidableEq, Repr

/-- A query for rows of a table. -/
structure Select where
  /-- Conditions that all have to hold. -/
  filters : List Expr := []
  /-- The sort terms, the most significant first. -/
  order : List SortTerm := []
  /-- The most rows to keep. -/
  limit : Option UInt64 := none
  /-- The rows to skip. -/
  offset : Option UInt64 := none

namespace Select

open Command

/-- The query for the row with the given key. -/
def byKey (table : Table) (key : List Value) : Except BuildError Select :=
  (keyPredicate table key).map fun filter => { filters := [filter] }

/-- A column of the select list. A renamed one gets the name of its property if that is
asked for. -/
def outputColumn (aliasColumns : Bool) (column : Column) : Fragment :=
  if aliasColumns && column.isRenamed then
    Fragment.ident column.name ++ Fragment.keyword .AS ++ Fragment.ident column.property
  else Fragment.ident column.name

/-- A sort term. -/
def sortTerm (table : Table) (term : SortTerm) : Except BuildError Fragment := do
  let column ← column table term.field
  return Fragment.ident column.name ++ Fragment.keyword (if term.descending then .DESC else .ASC)

/-- The sort clause; nothing if there are no terms. -/
def orderClause (table : Table) (order : List SortTerm) : Except BuildError Fragment := do
  if order.isEmpty then return []
  let terms ← order.mapM (sortTerm table)
  return Fragment.keywords [.ORDER, .BY] ++ Fragment.commaList terms

/-- A number of rows. -/
def rowCount (n : UInt64) : Fragment := Fragment.raw (Text.decimal n.toNat)

/-- The limit to write: the one asked for, or the one that a dialect needs to skip rows. -/
def writtenLimit (dialect : Dialect) (limit : Option UInt64) : Option Fragment :=
  match limit, dialect with
  | some limit, _ => some (rowCount limit)
  | none, .sqlite => some (Fragment.raw "-1")
  | none, .mysql => some (Fragment.raw "18446744073709551615")
  | none, .postgresql | none, .sqlserver => none

/-- The paging clause; nothing if there is neither limit nor offset. -/
def pagingClause (dialect : Dialect) (sorted : Bool) (limit offset : Option UInt64) : Fragment :=
  if limit.isNone && offset.isNone then []
  else match dialect with
    | .sqlserver =>
      (if sorted then [] else Fragment.keywords [.ORDER, .BY] ++ Fragment.raw "(SELECT NULL)") ++
      Fragment.keyword .OFFSET ++ rowCount (offset.getD 0) ++ Fragment.keyword .ROWS ++
      (match limit with
        | some limit =>
          Fragment.keywords [.FETCH, .NEXT] ++ rowCount limit ++ Fragment.keywords [.ROWS, .ONLY]
        | none => [])
    | .sqlite | .postgresql | .mysql =>
      (match writtenLimit dialect limit with
        | some limit => Fragment.keyword .LIMIT ++ limit
        | none => []) ++
      (match offset with
        | some offset => Fragment.keyword .OFFSET ++ rowCount offset
        | none => [])

/-- Whether the page is empty in a dialect that cannot fetch an empty page. -/
def emptyPage (query : Select) (dialect : Dialect) : Bool :=
  dialect == .sqlserver && query.limit == some 0

/-- The select in the dialect of the configuration. -/
def build (config : Config) (table : Table) (query : Select) : Except BuildError Statement :=
  let dialect := config.dialect
  let table := config.place table
  let columns := table.selectable.map (outputColumn config.aliasColumns)
  if columns.isEmpty then .error (.schema (.noSelectableColumns table.name))
  else Building.statement dialect do
    let emptyPage := query.emptyPage dialect
    let filters := if emptyPage then query.filters ++ [.const (.bool false)] else query.filters
    let whereClause ← Building.whereClause dialect table (combined filters)
    let orderClause ← orderClause table query.order
    let paging :=
      if emptyPage then []
      else pagingClause dialect (!query.order.isEmpty) query.limit query.offset
    return Fragment.keyword .SELECT ++ Fragment.commaList columns ++ Fragment.keyword .FROM ++
      tableName table ++ whereClause ++ orderClause ++ paging

end Select

/-- A query for the number of rows. -/
structure Count where
  /-- Conditions that all have to hold. -/
  filters : List Expr := []

/-- The count in the dialect of the configuration. -/
def Count.build (config : Config) (table : Table) (query : Count) : Except BuildError Statement :=
  let table := config.place table
  Building.statement config.dialect do
    let whereClause ←
      Building.whereClause config.dialect table (Command.combined query.filters)
    return Fragment.keyword .SELECT ++ Fragment.raw "COUNT(*)" ++ Fragment.keyword .FROM ++
      Command.tableName table ++ whereClause

end Sqlwright
