import Sqlwright.ParamSet
import Sqlwright.Predicate.Error
import Sqlwright.Predicate.Expr
import Sqlwright.Predicate.Template
import Sqlwright.Schema.Table
import Sqlwright.Sql.Fragment

/-!
# Compiling predicates

A predicate over the fields of a table becomes a condition on its columns. Fields are
resolved to columns, and constants are bound in a parameter set, from left to right.

Whatever is decided already is not written. A comparison of two constants, membership in
an empty list and the connectives over them fold to a truth value; a side that cannot
matter any more is not looked at; and what was bound for a part that has folded away is
dropped from the set. So a predicate that folds binds nothing.

Compiling that fails keeps what it has bound up to then.
-/

namespace Sqlwright

open Sql (Fragment)

/-- A compiled predicate: decided, or a condition. -/
inductive Predicate where
  | literal (b : Bool)
  | sql (fragment : Fragment)
deriving DecidableEq, Repr

namespace Predicate

/-- The condition to write. -/
def fragment : Predicate → Fragment
  | .literal b => Fragment.truth b
  | .sql fragment => fragment

/-- Whether the predicate always holds. -/
def isTrue : Predicate → Bool
  | .literal true => true
  | _ => false

end Predicate

/-- A compiled part. A condition whose outermost connective is a disjunction, or may be
one, needs parentheses within a conjunction. -/
inductive Condition where
  | literal (b : Bool)
  | sql (fragment : Fragment) (disjunction : Bool)
deriving DecidableEq, Repr

namespace Condition

/-- A condition in parentheses if needed. -/
def grouped (fragment : Fragment) (needed : Bool) : Fragment :=
  if needed then Fragment.parens fragment else fragment

/-- Grouping brings no parameters. -/
@[simp] theorem paramNames_grouped (fragment : Fragment) (needed : Bool) :
    (grouped fragment needed).paramNames = fragment.paramNames := by
  cases needed <;> simp [grouped]

/-- The negation of a condition. -/
def negated : Condition → Condition
  | .literal b => .literal (!b)
  | .sql fragment _ => .sql (Fragment.keyword .NOT ++ Fragment.parens fragment) false

/-- Both conditions. One that always holds leaves the other as it is. -/
def conjoined : Condition → Condition → Condition
  | .literal false, _ => .literal false
  | _, .literal false => .literal false
  | .literal true, other => other
  | other, .literal true => other
  | .sql left groupLeft, .sql right groupRight =>
    .sql (grouped left groupLeft ++ Fragment.keyword .AND ++ grouped right groupRight) false

/-- Either condition. One that never holds leaves the other as it is. -/
def disjoined : Condition → Condition → Condition
  | .literal true, _ => .literal true
  | _, .literal true => .literal true
  | .literal false, other => other
  | other, .literal false => other
  | .sql left _, .sql right _ => .sql (left ++ Fragment.keyword .OR ++ right) true

/-- The first condition where the test holds, the second where it does not. Two
conditions that remain are both parenthesised. -/
def chosen (test ifTrue ifFalse : Condition) : Condition :=
  match conjoined test ifTrue, conjoined test.negated ifFalse with
  | .sql left _, .sql right _ =>
    .sql (Fragment.parens left ++ Fragment.keyword .OR ++ Fragment.parens right) true
  | left, right => disjoined left right

/-- What always holds leaves the other side of a conjunction as it is. -/
@[simp] theorem conjoined_true_left (other : Condition) :
    (literal true).conjoined other = other := by
  rcases other with (_ | _) | _ <;> rfl

@[simp] theorem conjoined_true_right (other : Condition) :
    other.conjoined (literal true) = other := by
  rcases other with (_ | _) | _ <;> rfl

/-- What never holds decides a conjunction. -/
@[simp] theorem conjoined_false_left (other : Condition) :
    (literal false).conjoined other = literal false := by
  rcases other with (_ | _) | _ <;> rfl

@[simp] theorem conjoined_false_right (other : Condition) :
    other.conjoined (literal false) = literal false := by
  rcases other with (_ | _) | _ <;> rfl

/-- What never holds leaves the other side of a disjunction as it is. -/
@[simp] theorem disjoined_false_left (other : Condition) :
    (literal false).disjoined other = other := by
  rcases other with (_ | _) | _ <;> rfl

@[simp] theorem disjoined_false_right (other : Condition) :
    other.disjoined (literal false) = other := by
  rcases other with (_ | _) | _ <;> rfl

/-- What always holds decides a disjunction. -/
@[simp] theorem disjoined_true_left (other : Condition) :
    (literal true).disjoined other = literal true := by
  rcases other with (_ | _) | _ <;> rfl

@[simp] theorem disjoined_true_right (other : Condition) :
    other.disjoined (literal true) = literal true := by
  rcases other with (_ | _) | _ <;> rfl

/-- The predicate that a condition is. -/
def predicate : Condition → Predicate
  | .literal b => .literal b
  | .sql fragment _ => .sql fragment

end Condition

/-- What stands on one side of a comparison. -/
inductive Operand where
  | column (column : Column)
  | constant (value : Value)
  | raw (fragment : Fragment)
deriving DecidableEq, Repr

/-- The name to bind a constant under when it is compared with this operand. -/
def Operand.baseName : Operand → String
  | .column c => c.property
  | .constant _ | .raw _ => "p"

/-- A step of compiling: it may bind parameters, and it may fail without losing
those that it has bound. -/
abbrev Compiling := ExceptT PredicateError (StateM ParamSet)

namespace Compiling

/-- Bind a constant, and refer to it. -/
def bound (base : String) (value : Value) : Compiling Fragment := do
  let params ← get
  let (name, extended) := params.add base value
  set extended
  return Fragment.param name

/-- The number of bindings so far. -/
def mark : Compiling Nat := do
  let params ← get
  return params.size

/-- Drop the bindings made since a mark. -/
def rewind (mark : Nat) : Compiling Unit := modify (·.truncate mark)

/-- Drop the bindings made since a mark if the condition has folded. -/
def settled (mark : Nat) (condition : Condition) : Compiling Condition := do
  match condition with
  | .literal _ => rewind mark
  | .sql _ _ => pure ()
  return condition

/-- The column that a field names. -/
def column (table : Table) (field : String) : Compiling Column :=
  match table.column? field with
  | some column => pure column
  | none => throw (.unknownField table.name field)

/-- The column that the target of a marker names. -/
def target (table : Table) (marker : Marker) : Expr → Compiling Column
  | .field name => column table name
  | _ => throw (.markerTarget marker)

/-- An operand written out. A constant is bound under the given name. -/
def rendered (base : String) : Operand → Compiling Fragment
  | .column column => return Fragment.ident column.name
  | .raw fragment => return fragment
  | .constant value => bound base value

/-- Operands compiled and written out one after another. -/
def renderedEach (base : String) : List (Compiling Operand) → Compiling (List Fragment)
  | [] => return []
  | operand :: rest => do
    let first ← rendered base (← operand)
    let others ← renderedEach base rest
    return first :: others

/-- Whether a comparison of two constants holds. NULL equals only NULL, and it has no
place in an order. -/
def folded (sign : Sql.Comparison) (left right : Value) : Except PredicateError Bool :=
  if left.isNull || right.isNull then
    match sign with
    | .eq => .ok (left.isNull && right.isNull)
    | .ne => .ok !(left.isNull && right.isNull)
    | .lt | .le | .gt | .ge => .error (.nullOrdering sign)
  else match left.compare? right with
    | some order => .ok (sign.holds order)
    | none => .error (.incomparableConstants left right)

/-- A comparison of an operand with a constant. Equality with NULL becomes a test for
it. -/
def comparedWith (sign : Sql.Comparison) (operand : Operand) (value : Value) :
    Compiling Condition := do
  let written ← rendered operand.baseName operand
  if value.isNull then
    match sign with
    | .eq => return .sql (written ++ Fragment.keywords [.IS, .NULL]) false
    | .ne => return .sql (written ++ Fragment.keywords [.IS, .NOT, .NULL]) false
    | .lt | .le | .gt | .ge => throw (.nullOrdering sign)
  else
    let parameter ← bound operand.baseName value
    return .sql (written ++ Fragment.comparison sign ++ parameter) false

/-- A comparison of two operands. A constant on the left changes sides. -/
def compared (sign : Sql.Comparison) (left right : Operand) : Compiling Condition :=
  match left, right with
  | .constant a, .constant b => do
    match folded sign a b with
    | .ok b => return .literal b
    | .error error => throw error
  | .constant value, operand => comparedWith sign.flipped operand value
  | operand, .constant value => comparedWith sign operand value
  | left, right => do
    let left ← rendered "p" left
    let right ← rendered "p" right
    return .sql (left ++ Fragment.comparison sign ++ right) false

/-- The segments of a template written out, each argument compiled where it is called
for. -/
def spliced (arguments : List (Compiling Operand)) : List Segment → Compiling Fragment
  | [] => return []
  | .text text :: rest => do
    let others ← spliced arguments rest
    return Fragment.raw text ++ others
  | .argument index :: rest => do
    match arguments[index]? with
    | none => throw (.spliceArgument index arguments.length)
    | some argument =>
      let operand ← argument
      let written ← rendered operand.baseName operand
      let others ← spliced arguments rest
      return written ++ others

/-- A conjunction, given its two sides. The right side is not looked at when the left
never holds. -/
def conjunction (left right : Compiling Condition) : Compiling Condition := do
  let mark ← mark
  match ← left with
  | .literal false => return .literal false
  | left =>
    match ← right with
    | .literal false =>
      rewind mark
      return .literal false
    | right => return left.conjoined right

/-- A disjunction, given its two sides. The right side is not looked at when the left
always holds. -/
def disjunction (left right : Compiling Condition) : Compiling Condition := do
  let mark ← mark
  match ← left with
  | .literal true => return .literal true
  | left =>
    match ← right with
    | .literal true =>
      rewind mark
      return .literal true
    | right => return left.disjoined right

/-- A conditional, given its three parts. A test that folds leaves one branch and the
other is not looked at; branches that fold to the same leave no test. -/
def conditional (test ifTrue ifFalse : Compiling Condition) : Compiling Condition := do
  let mark ← mark
  match ← test with
  | .literal true => settled mark (← ifTrue)
  | .literal false => settled mark (← ifFalse)
  | test =>
    let whenTrue ← ifTrue
    let whenFalse ← ifFalse
    match whenTrue, whenFalse with
    | .literal a, .literal b =>
      if a = b then settled mark (.literal a)
      else settled mark (test.chosen (.literal a) (.literal b))
    | whenTrue, whenFalse => settled mark (test.chosen whenTrue whenFalse)

mutual

/-- A predicate compiled. A field alone stands for being true. -/
def condition (dialect : Dialect) (table : Table) : Expr → Compiling Condition
  | .const (.bool b) => return .literal b
  | .const value => throw (.nonBooleanPredicate value)
  | .field name => do
    let column ← column table name
    return .sql (Fragment.ident column.name ++ Fragment.comparison .eq ++
      Fragment.raw (dialect.boolLiteral true)) false
  | .not operand => do
    let operand ← condition dialect table operand
    return operand.negated
  | .binary .and left right =>
    conjunction (condition dialect table left) (condition dialect table right)
  | .binary .or left right =>
    disjunction (condition dialect table left) (condition dialect table right)
  | .binary (.comparison sign) left right => do
    let left ← operand table left
    let right ← operand table right
    compared sign left right
  | .conditional test ifTrue ifFalse =>
    conditional (condition dialect table test) (condition dialect table ifTrue)
      (condition dialect table ifFalse)
  | .like target pattern => do
    let column ← Compiling.target table .like target
    let pattern ← rendered column.property (← operand table pattern)
    return .sql (Fragment.ident column.name ++ Fragment.keyword .LIKE ++ pattern) false
  | .between target low high => do
    let column ← Compiling.target table .between target
    let low ← rendered column.property (← operand table low)
    let high ← rendered column.property (← operand table high)
    return .sql (Fragment.ident column.name ++ Fragment.keyword .BETWEEN ++ low ++
      Fragment.keyword .AND ++ high) false
  | .within target items => do
    let column ← Compiling.target table .within target
    if items.isEmpty then return .literal false
    let items ← renderedEach column.property (operands table items)
    return .sql (Fragment.ident column.name ++ Fragment.keyword .IN ++
      Fragment.parens (Fragment.commaList items)) false
  | .splice template arguments => do
    let fragment ← spliced (operands table arguments) (Template.segments template)
    return .sql fragment true

/-- One side of a comparison compiled. Raw text is parenthesised. -/
def operand (table : Table) : Expr → Compiling Operand
  | .field name => do
    let column ← column table name
    return .column column
  | .const value => return .constant value
  | .splice template arguments => do
    let fragment ← spliced (operands table arguments) (Template.segments template)
    return .raw (Fragment.parens fragment)
  | .like _ _ => throw (.unsupportedOperand (.marker .like))
  | .between _ _ _ => throw (.unsupportedOperand (.marker .between))
  | .within _ _ => throw (.unsupportedOperand (.marker .within))
  | .not _ => throw (.unsupportedOperand .boolean)
  | .binary _ _ _ => throw (.unsupportedOperand .boolean)
  | .conditional _ _ _ => throw (.unsupportedOperand .conditional)

/-- Several operands to compile, none of them begun. -/
def operands (table : Table) : List Expr → List (Compiling Operand)
  | [] => []
  | first :: rest => operand table first :: operands table rest

end

end Compiling

/-- The predicate for a tree, and the parameters as they are afterwards. -/
def compile (dialect : Dialect) (table : Table) (expr : Expr) (params : ParamSet) :
    Except PredicateError Predicate × ParamSet :=
  ((Compiling.condition dialect table expr).map Condition.predicate).run.run params

end Sqlwright
