import Sqlwright.Data.Calendar
import Sqlwright.Data.Uuid
import Sqlwright.Dialect.Literal
import Sqlwright.Number.Shortest
import Sqlwright.Text.Quoted

/-!
# SQL values

A value is NULL or one of eight kinds of data. It has a literal in each dialect and a
text for messages. Two values are comparable when they are of one kind, or when one is
an integer and the other a floating point number; the integer is then rounded to the
nearest floating point number first.
-/

namespace Sqlwright

/-- A value that can be bound to a parameter or written as a literal. -/
inductive Value where
  | null
  | bool (b : Bool)
  | int (n : Int64)
  | float (x : Binary64)
  | text (s : String)
  | bytes (bs : List UInt8)
  | timestamp (t : Timestamp)
  | date (d : Date)
  | uuid (u : Uuid)
deriving DecidableEq, Repr

namespace Value

/-- The name of a value's kind. -/
def kind : Value → String
  | .null => "null"
  | .bool _ => "bool"
  | .int _ => "int"
  | .float _ => "float"
  | .text _ => "text"
  | .bytes _ => "bytes"
  | .timestamp _ => "timestamp"
  | .date _ => "date"
  | .uuid _ => "uuid"

/-- Whether a value is NULL. -/
def isNull : Value → Bool
  | .null => true
  | _ => false

/-- The truth value that a value holds, if it is one. -/
def bool? : Value → Option Bool
  | .bool b => some b
  | _ => none

/-- The literal of a value. A floating point number that is not finite has none and
becomes NULL. -/
def literal (dialect : Dialect) : Value → String
  | .null => "NULL"
  | .bool b => dialect.boolLiteral b
  | .int n => Text.signedDecimal n.toInt
  | .float x => if x.isFinite then x.text else "NULL"
  | .text s => dialect.textLiteral s
  | .bytes bs => dialect.bytesLiteral bs
  | .timestamp t => dialect.timestampLiteral t
  | .date d => dialect.dateLiteral d
  | .uuid u => dialect.textLiteral u.text

/-- The text of a value in messages. -/
def display : Value → String
  | .null => "NULL"
  | .bool true => "true"
  | .bool false => "false"
  | .int n => Text.signedDecimal n.toInt
  | .float x => x.text
  | .text s => Text.quotedDisplay s
  | .bytes bs => "<" ++ Text.decimal bs.length ++ " bytes>"
  | .timestamp t => t.text
  | .date d => d.text
  | .uuid u => u.text

/-- The kind of a value and its text. -/
def described (v : Value) : String := v.kind ++ " " ++ v.display

/-- The order of two values; none when they are not comparable. Truth values have false
first; text is ordered by code points and bytes by value, both lexicographically. -/
def compare? : Value → Value → Option Ordering
  | .null, .null => some .eq
  | .bool a, .bool b => some (compare a b)
  | .int a, .int b => some (compare a.toInt b.toInt)
  | .float a, .float b => a.compare? b
  | .int a, .float b => (Binary64.ofInt64 a).compare? b
  | .float a, .int b => a.compare? (Binary64.ofInt64 b)
  | .text a, .text b => some (compare a b)
  | .bytes a, .bytes b => some (List.compareLex compare a b)
  | .timestamp a, .timestamp b => some (a.compare b)
  | .date a, .date b => some (a.compare b)
  | .uuid a, .uuid b => some (a.compare b)
  | _, _ => none

/-- Whether two values are of one kind and equal. Floating point numbers are equal as
numbers, whatever their bits. -/
def equal : Value → Value → Bool
  | .float a, .float b => a.equal b
  | a, b => a == b

/-- The order of values can be read from both sides. -/
theorem compare?_swap (a b : Value) : b.compare? a = (a.compare? b).map Ordering.swap := by
  cases a <;> cases b <;> try rfl
  case bool.bool a b => exact congrArg some Std.OrientedCmp.eq_swap
  case int.int a b => exact congrArg some Std.OrientedCmp.eq_swap
  case int.float a b => exact Binary64.compare?_swap _ _
  case float.int a b => exact Binary64.compare?_swap _ _
  case float.float a b => exact Binary64.compare?_swap _ _
  case text.text a b => exact congrArg some Std.OrientedCmp.eq_swap
  case bytes.bytes a b => exact congrArg some Std.OrientedCmp.eq_swap
  case timestamp.timestamp a b => exact congrArg some (a.compare_swap b)
  case date.date a b => exact congrArg some (a.compare_swap b)
  case uuid.uuid a b => exact congrArg some (a.compare_swap b)

/-- Values of different kinds compare only as numbers. -/
theorem compare?_of_kind_ne (a b : Value) (different : a.kind ≠ b.kind)
    (comparable : (a.compare? b).isSome) :
    (a.kind = "int" ∧ b.kind = "float") ∨ (a.kind = "float" ∧ b.kind = "int") := by
  cases a <;> cases b <;> simp_all [kind, compare?]

end Value

/-- Data that has a value. -/
class ToValue (α : Type) where
  /-- The value of a datum. -/
  toValue : α → Value

namespace ToValue

instance : ToValue Value := ⟨id⟩
instance : ToValue Bool := ⟨.bool⟩
instance : ToValue Int8 := ⟨fun n => .int n.toInt64⟩
instance : ToValue Int16 := ⟨fun n => .int n.toInt64⟩
instance : ToValue Int32 := ⟨fun n => .int n.toInt64⟩
instance : ToValue Int64 := ⟨.int⟩
instance : ToValue UInt8 := ⟨fun n => .int (Int64.ofNat n.toNat)⟩
instance : ToValue UInt16 := ⟨fun n => .int (Int64.ofNat n.toNat)⟩
instance : ToValue UInt32 := ⟨fun n => .int (Int64.ofNat n.toNat)⟩
instance : ToValue Binary64 := ⟨.float⟩
instance : ToValue String := ⟨.text⟩
instance : ToValue (List UInt8) := ⟨.bytes⟩
instance : ToValue Timestamp := ⟨.timestamp⟩
instance : ToValue Date := ⟨.date⟩
instance : ToValue Uuid := ⟨.uuid⟩

/-- What is absent is NULL. -/
instance {α : Type} [ToValue α] : ToValue (Option α) :=
  ⟨fun
    | none => .null
    | some a => toValue a⟩

end ToValue

end Sqlwright
