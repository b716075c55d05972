import Sqlwright.Sql.Token
import Sqlwright.Value

/-!
# Conditions and their truth

A condition holds, fails to hold, or is unknown, as SQL has it: the connectives are those
of the strong three-valued logic, and whatever is compared with NULL is unknown. Only the
test for NULL itself always decides.

The database is a parameter. It orders values, matches patterns, and gives raw text a
meaning; nothing is required of it but that its order can be read from both sides.
-/

namespace Sqlwright.Sql

/-- A truth value of SQL. -/
inductive Truth where
  | yes
  | no
  | unknown
deriving DecidableEq, Repr

namespace Truth

/-- The truth value of something decided. -/
def ofBool : Bool → Truth
  | true => yes
  | false => no

/-- The negation. What is unknown stays so. -/
def not : Truth → Truth
  | yes => no
  | no => yes
  | unknown => unknown

/-- Both. One that fails decides. -/
def and : Truth → Truth → Truth
  | no, _ | _, no => no
  | yes, yes => yes
  | _, _ => unknown

/-- Either. One that holds decides. -/
def or : Truth → Truth → Truth
  | yes, _ | _, yes => yes
  | no, no => no
  | _, _ => unknown

@[simp] theorem not_ofBool (b : Bool) : (ofBool b).not = ofBool !b := by cases b <;> rfl

@[simp] theorem yes_and (a : Truth) : yes.and a = a := by cases a <;> rfl

@[simp] theorem and_yes (a : Truth) : a.and yes = a := by cases a <;> rfl

@[simp] theorem no_and (a : Truth) : no.and a = no := by cases a <;> rfl

@[simp] theorem and_no (a : Truth) : a.and no = no := by cases a <;> rfl

@[simp] theorem yes_or (a : Truth) : yes.or a = yes := by cases a <;> rfl

@[simp] theorem or_yes (a : Truth) : a.or yes = yes := by cases a <;> rfl

@[simp] theorem no_or (a : Truth) : no.or a = a := by cases a <;> rfl

@[simp] theorem or_no (a : Truth) : a.or no = a := by cases a <;> rfl

instance : Std.Associative and := ⟨fun a b c => by cases a <;> cases b <;> cases c <;> rfl⟩

instance : Std.Associative or := ⟨fun a b c => by cases a <;> cases b <;> cases c <;> rfl⟩

end Truth

/-- A stretch of raw text, or an argument within it. -/
inductive Piece (α : Type) where
  | text (s : String)
  | argument (a : α)

/-- What a database makes of values. -/
structure Engine where
  /-- The order of two values that are not NULL; none if they have none. -/
  order : Value → Value → Option Ordering
  /-- Whether a value matches a pattern, neither being NULL. -/
  fits : Value → Value → Bool
  /-- Whether a value holds where a condition is expected. -/
  holds : Value → Truth
  /-- The value of raw text with arguments. -/
  raw : List (Piece Value) → Value
  order_swap : ∀ a b, order b a = (order a b).map Ordering.swap

namespace Engine

variable (engine : Engine)

/-- A comparison. With NULL, and of values without order, it is unknown. -/
def compare (sign : Comparison) (a b : Value) : Truth :=
  if a.isNull || b.isNull then .unknown
  else match engine.order a b with
    | some order => .ofBool (sign.holds order)
    | none => .unknown

/-- A match against a pattern. -/
def like (a pattern : Value) : Truth :=
  if a.isNull || pattern.isNull then .unknown else .ofBool (engine.fits a pattern)

/-- A test for a closed interval. -/
def between (a low high : Value) : Truth :=
  (engine.compare .ge a low).and (engine.compare .le a high)

/-- Membership in a list: equality with one of its members. -/
def within (a : Value) (members : List Value) : Truth :=
  members.foldr (fun member rest => (engine.compare .eq a member).or rest) .no

/-- The value of text with arguments. An argument alone is itself. -/
def spliced : List (Piece Value) → Value
  | [.argument a] => a
  | pieces => engine.raw pieces

/-- A comparison read from the other side. -/
theorem compare_flipped (sign : Comparison) (a b : Value) :
    engine.compare sign.flipped a b = engine.compare sign b a := by
  unfold compare
  rw [engine.order_swap a b, Bool.or_comm]
  cases engine.order a b with
  | none => rfl
  | some order =>
    have same := sign.holds_flipped order.swap
    rw [Ordering.swap_swap] at same
    simp only [Option.map_some, same]

end Engine

/-- A row of a database, and the values of the parameters. -/
structure Interpretation where
  engine : Engine
  /-- The values of the columns by name. -/
  row : String → Value
  parameters : String → Value

/-- What has a value: a side of a comparison, or an argument of raw text. -/
inductive Term where
  | column (name : String)
  | constant (value : Value)
  | param (name : String)
  | splice (pieces : List (Piece Term))

/-- What has a truth value. -/
inductive Formula where
  | literal (b : Bool)
  | compare (sign : Comparison) (left right : Term)
  | isNull (term : Term)
  | like (subject pattern : Term)
  | between (subject low high : Term)
  | within (subject : Term) (members : List Term)
  /-- A term in the place of a condition. -/
  | holds (term : Term)
  | not (inner : Formula)
  | and (left right : Formula)
  | or (left right : Formula)

namespace Interpretation

variable (reading : Interpretation)

mutual

/-- The value of a term. -/
def value : Term → Value
  | .column name => reading.row name
  | .constant value => value
  | .param name => reading.parameters name
  | .splice pieces => reading.engine.spliced (pieceValues pieces)

/-- A piece with the value of its argument. -/
def pieceValue : Piece Term → Piece Value
  | .text s => .text s
  | .argument term => .argument (value term)

/-- Pieces with the values of their arguments. -/
def pieceValues : List (Piece Term) → List (Piece Value)
  | [] => []
  | piece :: rest => pieceValue piece :: pieceValues rest

end

/-- The truth of a condition. -/
def truth : Formula → Truth
  | .literal b => .ofBool b
  | .compare sign left right =>
    reading.engine.compare sign (reading.value left) (reading.value right)
  | .isNull term => .ofBool (reading.value term).isNull
  | .like subject pattern => reading.engine.like (reading.value subject) (reading.value pattern)
  | .between subject low high =>
    reading.engine.between (reading.value subject) (reading.value low) (reading.value high)
  | .within subject members =>
    reading.engine.within (reading.value subject) (members.map reading.value)
  | .holds term => reading.engine.holds (reading.value term)
  | .not inner => (truth inner).not
  | .and left right => (truth left).and (truth right)
  | .or left right => (truth left).or (truth right)

/-- A connective that is associative in its truth can be read from the left although its
operands are grouped otherwise. -/
theorem truth_foldl {connective : Formula → Formula → Formula} {op : Truth → Truth → Truth}
    [Std.Associative op]
    (means : ∀ left right,
      reading.truth (connective left right) = op (reading.truth left) (reading.truth right))
    (left right : Formula) (rest : List Formula) :
    reading.truth (rest.foldl connective (connective left right)) =
      op (reading.truth left) (reading.truth (rest.foldl connective right)) := by
  have read (first : Formula) : reading.truth (rest.foldl connective first) =
      (rest.map reading.truth).foldl op (reading.truth first) := by
    induction rest generalizing first with
    | nil => rfl
    | cons next rest inductionHypothesis =>
      rw [List.foldl_cons, inductionHypothesis, means, List.map_cons, List.foldl_cons]
  rw [read, read, means, List.foldl_assoc]

end Interpretation
end Sqlwright.Sql
