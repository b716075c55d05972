import Sqlwright.Dialect
import Sqlwright.Schema.Table

/-!
# Configurations

A configuration fixes the dialect and what all statements have in common.
-/

namespace Sqlwright

/-- How statements are built. -/
structure Config where
  dialect : Dialect := .standard
  /-- The schema of tables that name none. -/
  defaultSchema : Option String := none
  /-- Whether selects give renamed columns the names of their properties. -/
  aliasColumns : Bool := true
deriving DecidableEq, Repr

/-- The table as the configuration sees it. -/
def Config.place (config : Config) (table : Table) : Table :=
  table.withDefaultSchema config.defaultSchema

/-- A table that names its schema stays where it is. -/
theorem Config.place_of_schema (config : Config) (table : Table) (schema : String)
    (named : table.schema = some schema) : config.place table = table := by
  cases table
  cases named
  rfl

end Sqlwright
