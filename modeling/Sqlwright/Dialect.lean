import Sqlwright.Text.Numeral

/-!
# SQL dialects

The dialects differ in how they spell names, placeholders, truth values and literals,
and in a few clauses that only some of them have. Everything that depends on the
dialect alone is a function of `Dialect`.
-/

namespace Sqlwright

/-- The dialects for which statements are written. -/
inductive Dialect where
  | sqlite
  | postgresql
  | mysql
  | sqlserver
deriving DecidableEq, Repr

namespace Dialect

/-- All dialects, in a fixed order. -/
def all : List Dialect := [.sqlite, .postgresql, .mysql, .sqlserver]

/-- The dialect of a configuration that names none. -/
def standard : Dialect := .sqlite

instance : Inhabited Dialect := ⟨standard⟩

/-- The name of a dialect. -/
def name : Dialect → String
  | .sqlite => "sqlite"
  | .postgresql => "postgresql"
  | .mysql => "mysql"
  | .sqlserver => "sqlserver"

/-- Every spelling of a dialect, its name first. -/
def spellings : Dialect → List String
  | .sqlite => ["sqlite", "sqlite3"]
  | .postgresql => ["postgresql", "postgres", "pg"]
  | .mysql => ["mysql", "mariadb"]
  | .sqlserver => ["sqlserver", "mssql", "tsql"]

/-- The dialect with exactly this spelling. -/
def ofSpelling? (text : String) : Option Dialect :=
  all.find? fun dialect => dialect.spellings.contains text

/-- The dialect with this spelling, whatever the case of its ASCII letters. -/
def parse? (text : String) : Option Dialect := ofSpelling? (text.map Char.toLower)

/-- The character in front of a named parameter. -/
def marker : Dialect → Char
  | .sqlite | .sqlserver => '@'
  | .postgresql | .mysql => ':'

/-- Whether placeholders carry a number, so that one value can be used twice. -/
def numbersPlaceholders : Dialect → Bool
  | .postgresql | .sqlserver => true
  | .sqlite | .mysql => false

/-- A named parameter. -/
def namedParameter (dialect : Dialect) (name : String) : String :=
  String.ofList [dialect.marker] ++ name

/-- The placeholder with the given number, counted from one. -/
def placeholder (dialect : Dialect) (number : Nat) : String :=
  match dialect with
  | .sqlite | .mysql => "?"
  | .postgresql => "$" ++ Text.decimal number
  | .sqlserver => "@P" ++ Text.decimal number

/-- A truth value where a value is expected. -/
def boolLiteral : Dialect → Bool → String
  | .sqlite, true | .sqlserver, true => "1"
  | .sqlite, false | .sqlserver, false => "0"
  | .postgresql, true | .mysql, true => "TRUE"
  | .postgresql, false | .mysql, false => "FALSE"

/-- A truth value where a condition is expected. SQL Server has no truth values there. -/
def boolPredicate : Dialect → Bool → String
  | .sqlserver, true => "(1=1)"
  | .sqlserver, false => "(1=0)"
  | dialect, b => dialect.boolLiteral b

/-- Whether an insert can return columns in a clause at its end. -/
def hasReturning : Dialect → Bool
  | .sqlite | .postgresql => true
  | .mysql | .sqlserver => false

/-- Whether there is a statement that empties a table. -/
def hasTruncate : Dialect → Bool
  | .sqlite => false
  | .postgresql | .mysql | .sqlserver => true

/-- A dialect is found under each of its spellings. -/
theorem ofSpelling?_spelling (dialect : Dialect) (text : String)
    (spelling : text ∈ dialect.spellings) : ofSpelling? text = some dialect := by
  cases dialect <;> simp only [spellings, List.mem_cons, List.not_mem_nil, or_false] at spelling
  · rcases spelling with rfl | rfl <;> decide
  · rcases spelling with rfl | rfl | rfl <;> decide
  · rcases spelling with rfl | rfl <;> decide
  · rcases spelling with rfl | rfl | rfl <;> decide

end Dialect
end Sqlwright
