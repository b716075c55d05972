import Sqlwright.Sql.Token
import Sqlwright.Value

/-!
# Predicate trees

A predicate is a tree over fields and constants. Comparisons, the logical connectives
and a conditional are its operators; LIKE, BETWEEN, IN and raw text with arguments have
nodes of their own. The tree says nothing yet about columns or dialects.
-/

namespace Sqlwright

/-- The operators with two operands. -/
inductive Operator where
  | comparison (sign : Sql.Comparison)
  | and
  | or
deriving DecidableEq, Repr

namespace Operator

/-- The token of an operator. -/
def token : Operator → Sql.Token
  | .comparison sign => .comparison sign
  | .and => .keyword .AND
  | .or => .keyword .OR

/-- Whether an operator compares its operands. -/
def isComparison : Operator → Bool
  | .comparison _ => true
  | .and | .or => false

/-- The operator that means the same with exchanged operands. -/
def flipped : Operator → Operator
  | .comparison sign => .comparison sign.flipped
  | .and => .and
  | .or => .or

/-- Whether a comparison holds of two values in the given order. A connective holds of
none. -/
def holds : Operator → Ordering → Bool
  | .comparison sign, order => sign.holds order
  | .and, _ | .or, _ => false

end Operator

/-- A predicate, or an operand of one. -/
inductive Expr where
  /-- A field of the entity. -/
  | field (name : String)
  /-- A constant. -/
  | const (value : Value)
  /-- A negation. -/
  | not (operand : Expr)
  /-- A comparison or a connective. -/
  | binary (op : Operator) (left right : Expr)
  /-- The second where the test holds, the third where it does not. -/
  | conditional (test ifTrue ifFalse : Expr)
  /-- A match against a pattern. -/
  | like (target pattern : Expr)
  /-- A test for a closed interval. -/
  | between (target low high : Expr)
  /-- Membership in a list. -/
  | within (target : Expr) (items : List Expr)
  /-- Raw text in which numbers in braces stand for arguments. -/
  | splice (template : String) (arguments : List Expr)
deriving Repr

namespace Expr

/-- A comparison. -/
def compare (sign : Sql.Comparison) (left right : Expr) : Expr :=
  .binary (.comparison sign) left right

/-- A conjunction. -/
def and (left right : Expr) : Expr := .binary .and left right

/-- A disjunction. -/
def or (left right : Expr) : Expr := .binary .or left right

/-- The conjunction of all conditions, from the left. Without conditions it holds. -/
def allOf : List Expr → Expr
  | [] => .const (.bool true)
  | first :: rest => rest.foldl and first

/-- The disjunction of all conditions, from the left. Without conditions it fails. -/
def anyOf : List Expr → Expr
  | [] => .const (.bool false)
  | first :: rest => rest.foldl or first

end Expr

/-- A field by the name of its property. -/
structure Field where
  name : String
deriving DecidableEq, Repr

namespace Field

/-- The field as an operand. -/
def expr (field : Field) : Expr := .field field.name

/-- A comparison of the field with an operand. -/
def compare (sign : Sql.Comparison) (field : Field) (operand : Expr) : Expr :=
  .compare sign field.expr operand

/-- The field is NULL. -/
def isNull (field : Field) : Expr := field.compare .eq (.const .null)

/-- The field is not NULL. -/
def isNotNull (field : Field) : Expr := field.compare .ne (.const .null)

/-- The field matches a pattern. -/
def like (field : Field) (pattern : Expr) : Expr := .like field.expr pattern

/-- The field lies between two operands. -/
def between (field : Field) (low high : Expr) : Expr := .between field.expr low high

/-- The field is one of the operands. -/
def within (field : Field) (items : List Expr) : Expr := .within field.expr items

end Field
end Sqlwright
