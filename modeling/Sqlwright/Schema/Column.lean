/-!
# Columns

A column ties a property of an entity to a name in the database and says in which
statements it takes part. The database itself fills an identity column, so it is never
written. A column that guards against concurrent changes is tested in every update of
its row; it is written only if it has its own update expression.
-/

namespace Sqlwright

/-- A column of a table. -/
structure Column where
  /-- The name in the database. -/
  name : String
  /-- The name of the entity's property. -/
  property : String := name
  /-- Part of the table's key. -/
  key : Bool := false
  /-- Filled by the database. -/
  identity : Bool := false
  /-- Read by selects. -/
  select : Bool := true
  /-- Written by inserts. -/
  insert : Bool := true
  /-- Written by updates. -/
  update : Bool := true
  /-- Tested by updates and deletes of a row. -/
  concurrency : Bool := false
  /-- Written by inserts in place of the property's value. -/
  insertSql : Option String := none
  /-- Written by updates in place of the property's value. -/
  updateSql : Option String := none
deriving DecidableEq, Repr

namespace Column

/-- The same column, written by no statement. -/
def readOnly (column : Column) : Column := { column with insert := false, update := false }

/-- Whether inserts write the column. -/
def isInsertable (column : Column) : Bool := column.insert && !column.identity

/-- Whether updates write the column. -/
def isUpdatable (column : Column) : Bool :=
  column.update && !column.key && !column.identity &&
    (!column.concurrency || column.updateSql.isSome)

/-- Whether the property and the column have different names. -/
def isRenamed (column : Column) : Bool := column.name != column.property

/-- Whether the column tells its row apart or guards it. -/
def identifiesRow (column : Column) : Bool := column.key || column.concurrency

/-- What an update writes is neither key nor identity. -/
theorem not_key_of_isUpdatable (column : Column) (updatable : column.isUpdatable = true) :
    column.key = false ∧ column.identity = false := by
  simp only [isUpdatable, Bool.and_eq_true, Bool.not_eq_true'] at updatable
  exact ⟨updatable.1.1.2, updatable.1.2⟩

/-- What an insert writes is not filled by the database. -/
theorem not_identity_of_isInsertable (column : Column) (insertable : column.isInsertable = true) :
    column.identity = false := by
  simp only [isInsertable, Bool.and_eq_true, Bool.not_eq_true'] at insertable
  exact insertable.2

end Column
end Sqlwright
