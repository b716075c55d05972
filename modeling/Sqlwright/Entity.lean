import Sqlwright.Entity.Settings
import Sqlwright.Predicate.Expr
import Sqlwright.Schema.Table
import Sqlwright.Text.SnakeCase

/-!
# Entities from declarations

A declaration with named fields gives an entity: a table with a column for each field
that is not ignored, a handle for each such field, and access to the stored values by
property. The property of a field is its name, and so is the column unless an attribute
names it otherwise. No two columns may have one name, and there must be at least one.
-/

namespace Sqlwright

/-- A field that is stored. -/
structure MappedField where
  /-- The identifier as declared. -/
  ident : String
  settings : ColumnSettings
deriving DecidableEq, Repr

namespace MappedField

/-- The property that the field is known by. -/
def property (field : MappedField) : String := identName field.ident

/-- The name of the field's column. -/
def columnName (field : MappedField) : String := field.settings.name.getD field.property

/-- The handle to build predicates with. -/
def handle (field : MappedField) : Field := ⟨field.property⟩

/-- The column that stores the field. -/
def column (field : MappedField) : Column where
  name := field.columnName
  property := field.property
  key := field.settings.key
  identity := field.settings.identity
  select := !field.settings.noSelect
  insert := !field.settings.readOnly && !field.settings.noInsert
  update := !field.settings.readOnly && !field.settings.noUpdate
  concurrency := field.settings.concurrency
  insertSql := field.settings.insertSql
  updateSql := field.settings.updateSql

end MappedField

/-- An entity and its table. -/
structure Entity where
  /-- The identifier of the declared type. -/
  ident : String
  tableName : String
  schema : Option String
  fields : List MappedField
deriving DecidableEq, Repr

namespace Entity

/-- The name of the type that holds the handles. -/
def handlesName (entity : Entity) : String := identName entity.ident ++ "Fields"

/-- The handles, each under the identifier of its field. -/
def handles (entity : Entity) : List (String × Field) :=
  entity.fields.map fun field => (field.ident, field.handle)

/-- The properties that have a value. -/
def properties (entity : Entity) : List String := entity.fields.map (·.property)

/-- The table of the entity. -/
def table (entity : Entity) : Table where
  name := entity.tableName
  schema := entity.schema
  columns := entity.fields.map (·.column)

/-- The values by property of an instance, given the values of its fields. -/
def valueOf (entity : Entity) (stored : String → Value) (property : String) : Option Value :=
  (entity.fields.find? (·.property == property)).map fun field => stored field.ident

/-- The stored fields among the declared ones. `taken` holds the column names so far. -/
def mappedFields (taken : List String) :
    List FieldDeclaration → Except DeclarationError (List MappedField)
  | [] => .ok []
  | declared :: rest => do
    let settings ← ColumnSettings.read declared.attributes
    if settings.ignore then mappedFields taken rest
    else
      let field : MappedField := { ident := declared.ident, settings }
      if taken.contains field.columnName then throw (.duplicateColumn field.columnName)
      let others ← mappedFields (field.columnName :: taken) rest
      return field :: others

/-- The entity of a declaration. The table has the declared name in snake case unless an
attribute names it. -/
def ofDeclaration (declaration : Declaration) : Except DeclarationError Entity := do
  if !declaration.generics.isEmpty then throw .generic
  let declared ← match declaration.shape with
    | .named fields => pure fields
    | .tuple | .unit => throw .unnamedFields
    | .enumeration | .union => throw .notStruct
  let settings ← TableSettings.read declaration.attributes
  let fields ← mappedFields [] declared
  if fields.isEmpty then throw .noColumns
  return {
    ident := declaration.ident
    tableName := settings.name.getD (Text.snakeCase (identName declaration.ident))
    schema := settings.schema
    fields }

end Entity
end Sqlwright
