import Sqlwright.Sql.Token
import Sqlwright.Text.Numeral
import Sqlwright.Value

/-!
# Why a predicate cannot be compiled

Each cause keeps what its message needs and nothing else.
-/

namespace Sqlwright

/-- The nodes that take a field as their target, and raw text. -/
inductive Marker where
  | like
  | between
  | within
  | splice
deriving DecidableEq, Repr

/-- The name of a marker in messages. -/
def Marker.name : Marker → String
  | .like => "LIKE"
  | .between => "BETWEEN"
  | .within => "IN"
  | .splice => "sql_eval"

/-- The shapes that cannot be an operand. -/
inductive OperandShape where
  | marker (marker : Marker)
  | boolean
  | conditional
deriving DecidableEq, Repr

/-- The name of a shape in messages. -/
def OperandShape.name : OperandShape → String
  | .marker m => m.name
  | .boolean => "boolean expression"
  | .conditional => "conditional"

/-- Why a predicate cannot be compiled. -/
inductive PredicateError where
  /-- No column of the table answers to the field. -/
  | unknownField (table field : String)
  /-- A constant other than a truth value stands for a predicate. -/
  | nonBooleanPredicate (value : Value)
  /-- NULL is neither smaller nor larger than anything. -/
  | nullOrdering (sign : Sql.Comparison)
  /-- Two constants that have no order. -/
  | incomparableConstants (left right : Value)
  /-- The target of a marker is not a field. -/
  | markerTarget (marker : Marker)
  /-- A template calls for an argument that is not there. -/
  | spliceArgument (index count : Nat)
  /-- An operand of a shape that has no value. -/
  | unsupportedOperand (shape : OperandShape)
deriving DecidableEq, Repr

/-- The wording of an error. -/
def PredicateError.message : PredicateError → String
  | .unknownField table field => "unknown field `" ++ field ++ "` on table `" ++ table ++ "`"
  | .nonBooleanPredicate value =>
    "constant " ++ value.described ++ " cannot be used as a predicate"
  | .nullOrdering sign => "cannot apply `" ++ sign.text ++ "` to NULL"
  | .incomparableConstants left right =>
    "cannot compare constants " ++ left.described ++ " and " ++ right.described
  | .markerTarget marker => marker.name ++ " requires a column as its target"
  | .spliceArgument index count =>
    "raw sql references argument \x7b" ++ Text.decimal index ++ "\x7d but only " ++
      Text.decimal count ++ " were given"
  | .unsupportedOperand shape =>
    "unsupported expression: " ++ shape.name ++ " used as a comparison operand"

end Sqlwright
