import Sqlwright.Command.Delete
import Sqlwright.Command.Insert
import Sqlwright.Command.Select
import Sqlwright.Command.Update
import Sqlwright.Command.Upsert

/-!
# Commands

Everything that can be asked of a table. The commands about a record or a key are those
about rows, with the assignments and the filter of the record or the key in front of what
is asked for besides.
-/

namespace Sqlwright

open Sql (Statement)

/-- What is asked of a table. -/
inductive Command where
  | select (command : Select)
  /-- The row with the given key. -/
  | get (key : List Value)
  | insert (record : Record) (returnIdentity : Bool)
  | insertMany (records : List Record) (returnIdentity : Bool)
  /-- Change the row that a record was captured from. -/
  | update (record : Record) (assignments : List Assignment) (filters : List Expr)
  | updateWhere (command : Update)
  /-- Remove the row that a record was captured from. -/
  | delete (record : Record) (filters : List Expr)
  | deleteByKey (key : List Value)
  | deleteWhere (command : Delete)
  | upsert (command : Upsert)
  | count (command : Count)
  | truncate

/-- The statement of a command for a configuration and a table. -/
def Command.build (config : Config) (table : Table) : Command → Except BuildError Statement
  | .select command => command.build config table
  | .get key => do
    let query ← Select.byKey table key
    query.build config table
  | .insert record returnIdentity =>
    Insert.build config table { records := [record], returnIdentity }
  | .insertMany records returnIdentity =>
    Insert.build config table { records, returnIdentity }
  | .update record assignments filters => do
    let update ← Update.ofRecord table record
    Update.build config table
      { assignments := update.assignments ++ assignments
        filters := update.filters ++ filters }
  | .updateWhere command => command.build config table
  | .delete record filters => do
    let delete ← Delete.ofRecord table record
    Delete.build config table { filters := delete.filters ++ filters }
  | .deleteByKey key => do
    let delete ← Delete.byKey table key
    delete.build config table
  | .deleteWhere command => command.build config table
  | .upsert command => command.build config table
  | .count command => command.build config table
  | .truncate => .ok (Sqlwright.truncate config table)

end Sqlwright
