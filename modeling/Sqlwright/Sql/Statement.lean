import Std.Data.ExtTreeMap
import Sqlwright.ParamSet
import Sqlwright.Sql.Fragment

/-!
# Statements

A statement is a fragment together with its dialect and the values of its parameters.
It has three texts: with named parameters, with positional placeholders, and with
literals in place of parameters. They differ only in what stands for a parameter.

Placeholders are given out while the text is written. Where they carry numbers, a
parameter keeps the number of its first appearance. Where they do not, each appearance
needs its value anew.
-/

namespace Sqlwright.Sql

/-- A statement in a dialect. -/
structure Statement where
  dialect : Dialect
  fragment : Fragment
  params : ParamSet
deriving DecidableEq

/-- A text with positional placeholders, and the values in the order of binding. -/
structure Positional where
  text : String
  values : List Value
deriving DecidableEq, Repr

/-- The placeholders given out so far. -/
structure Numbering where
  /-- The number of each parameter that has one. -/
  numbers : Std.ExtTreeMap String Nat
  /-- The values that the placeholders take, the first one first. -/
  values : List Value

/-- No placeholder has been given out. -/
def Numbering.start : Numbering := ⟨∅, []⟩

namespace Statement

/-- The value of a parameter. One without binding is NULL. -/
def valueOf (statement : Statement) (name : String) : Value :=
  (statement.params.get? name).getD .null

/-- The text with named parameters. -/
def namedText (statement : Statement) : String :=
  statement.fragment.namedText statement.dialect

/-- The placeholder of a parameter. It takes the value of the parameter unless it repeats
a number. -/
def placed (statement : Statement) (name : String) : StateM Numbering String := do
  let numbering ← get
  let values := numbering.values ++ [statement.valueOf name]
  if statement.dialect.numbersPlaceholders then
    match numbering.numbers[name]? with
    | some number => return statement.dialect.placeholder number
    | none =>
      set (Numbering.mk (numbering.numbers.insert name values.length) values)
      return statement.dialect.placeholder values.length
  else
    set (Numbering.mk numbering.numbers values)
    return statement.dialect.placeholder values.length

/-- The text with placeholders, and the values that they take. -/
def positional (statement : Statement) : Positional :=
  let (text, numbering) :=
    (statement.fragment.writtenAfter statement.dialect statement.placed "").run .start
  ⟨text, numbering.values⟩

/-- The literal that stands for a parameter. -/
def inlined (statement : Statement) (name : String) : String :=
  match statement.params.get? name with
  | some value => value.literal statement.dialect
  | none => "NULL"

/-- The text with literals in place of parameters, for reading and not for running. -/
def inlineText (statement : Statement) : String :=
  statement.fragment.write statement.dialect statement.inlined

end Statement
end Sqlwright.Sql
