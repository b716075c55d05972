import Sqlwright.Schema.Column

/-!
# Tables

A table has a name, perhaps a schema, and its columns in order. A field is looked up
among the properties first and among the column names second. A table is checked when
no two columns share a name and no two share a property; then every column is found by
its own property.
-/

namespace Sqlwright

/-- The columns of a table. -/
structure Table where
  name : String
  schema : Option String
  columns : List Column
deriving DecidableEq, Repr

/-- What is wrong with the columns of a table. -/
inductive SchemaError where
  | emptyTableName
  | noColumns (table : String)
  | duplicateColumn (column table : String)
  | duplicateProperty (property table : String)
  | noSelectableColumns (table : String)
  | noInsertableColumns (table : String)
deriving DecidableEq, Repr

/-- The wording of a schema error. -/
def SchemaError.message : SchemaError → String
  | .emptyTableName => "table name is empty"
  | .noColumns table => "table `" ++ table ++ "` has no columns"
  | .duplicateColumn column table =>
    "duplicate column `" ++ column ++ "` in table `" ++ table ++ "`"
  | .duplicateProperty property table =>
    "duplicate property `" ++ property ++ "` in table `" ++ table ++ "`"
  | .noSelectableColumns table => "table `" ++ table ++ "` has no selectable columns"
  | .noInsertableColumns table =>
    "table `" ++ table ++ "` has no insertable columns; only one default row can be inserted"

namespace Table

/-- The first column with the given property. -/
def columnByProperty? (table : Table) (property : String) : Option Column :=
  table.columns.find? (·.property == property)

/-- The column that a field names: by its property, or else by its own name. -/
def column? (table : Table) (field : String) : Option Column :=
  (table.columnByProperty? field).or (table.columns.find? (·.name == field))

/-- The columns of the key. -/
def keys (table : Table) : List Column := table.columns.filter (·.key)

/-- The columns that selects read. -/
def selectable (table : Table) : List Column := table.columns.filter (·.select)

/-- The columns that inserts write. -/
def insertable (table : Table) : List Column := table.columns.filter (·.isInsertable)

/-- The columns that updates write. -/
def updatable (table : Table) : List Column := table.columns.filter (·.isUpdatable)

/-- The columns that guard against concurrent changes. -/
def guards (table : Table) : List Column := table.columns.filter (·.concurrency)

/-- The first column that the database fills. -/
def identity? (table : Table) : Option Column := table.columns.find? (·.identity)

/-- Whether the table has a key. -/
def hasKey (table : Table) : Bool := table.columns.any (·.key)

/-- The same table, placed in a schema unless it already names one. -/
def withDefaultSchema (table : Table) (schema : Option String) : Table :=
  { table with schema := table.schema.or schema }

/-- The first column that repeats the name or the property of an earlier one. Of one
column the name is tested first. -/
def firstRepeat? (table : String) (earlier : List Column) : List Column → Option SchemaError
  | [] => none
  | column :: rest =>
    if earlier.any (·.name == column.name) then some (.duplicateColumn column.name table)
    else if earlier.any (·.property == column.property) then
      some (.duplicateProperty column.property table)
    else firstRepeat? table (earlier ++ [column]) rest

/-- A table whose fields are unambiguous, or what is wrong with it. -/
def checked (name : String) (schema : Option String) (columns : List Column) :
    Except SchemaError Table :=
  if name.isEmpty then .error .emptyTableName
  else if columns.isEmpty then .error (.noColumns name)
  else match firstRepeat? name [] columns with
    | some repeated => .error repeated
    | none => .ok { name, schema, columns }

/-- A property is found before a column of that name. -/
theorem column?_of_property {table : Table} {field : String} {column : Column}
    (found : table.columnByProperty? field = some column) : table.column? field = some column := by
  simp [column?, found]

/-- A default schema changes no column. -/
@[simp] theorem columns_withDefaultSchema (table : Table) (schema : Option String) :
    (table.withDefaultSchema schema).columns = table.columns := rfl

@[simp] theorem keys_withDefaultSchema (table : Table) (schema : Option String) :
    (table.withDefaultSchema schema).keys = table.keys := rfl

@[simp] theorem selectable_withDefaultSchema (table : Table) (schema : Option String) :
    (table.withDefaultSchema schema).selectable = table.selectable := rfl

@[simp] theorem updatable_withDefaultSchema (table : Table) (schema : Option String) :
    (table.withDefaultSchema schema).updatable = table.updatable := rfl

@[simp] theorem identity?_withDefaultSchema (table : Table) (schema : Option String) :
    (table.withDefaultSchema schema).identity? = table.identity? := rfl

@[simp] theorem hasKey_withDefaultSchema (table : Table) (schema : Option String) :
    (table.withDefaultSchema schema).hasKey = table.hasKey := rfl

/-- A default schema changes no lookup. -/
@[simp] theorem column?_withDefaultSchema (table : Table) (schema : Option String)
    (field : String) : (table.withDefaultSchema schema).column? field = table.column? field := rfl

end Table
end Sqlwright
