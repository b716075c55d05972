import Sqlwright.Dialect
import Sqlwright.Text.Doubling

/-!
# Quoted names

A name stands between the quotes of the dialect, its closing quote doubled inside. A
name within a schema is two quoted names with a point between them.
-/

namespace Sqlwright.Dialect

/-- The character that opens a quoted name. -/
def openQuote : Dialect → Char
  | .sqlite | .postgresql => '"'
  | .mysql => '\x60'
  | .sqlserver => '['

/-- The character that closes a quoted name. -/
def closeQuote : Dialect → Char
  | .sqlite | .postgresql => '"'
  | .mysql => '\x60'
  | .sqlserver => ']'

/-- A name in quotes. -/
def quotedName (dialect : Dialect) (name : String) : String :=
  String.ofList
    (dialect.openQuote :: Text.doubled (· == dialect.closeQuote) name.toList ++ [dialect.closeQuote])

/-- A name in quotes, behind its schema if it has one. -/
def qualifiedName (dialect : Dialect) (schema : Option String) (name : String) : String :=
  match schema with
  | none => dialect.quotedName name
  | some schema => dialect.quotedName schema ++ "." ++ dialect.quotedName name

end Sqlwright.Dialect
