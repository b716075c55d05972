import Sqlwright.Predicate.Compile
import Sqlwright.Proofs.Sql.Formula

/-!
# The meaning of predicate trees

The truth of a predicate in a row, without reference to any text. The connectives are
those of the three-valued logic. A field by itself stands for being true. Comparisons are
those of the database, except that equality with a constant NULL tests for NULL and that
two constants are compared at once.

A conditional is the disjunction of its branches, each together with its test or with the
negation of it. If the test is unknown, so is this in general; but if both branches have
been decided alike, then so is the conditional.
-/

namespace Sqlwright

open Sql (Engine Piece Truth)

/-- A segment of a template with the value of its argument. -/
def Segment.piece (arguments : List Value) : Segment → Piece Value
  | .text s => .text s
  | .argument index => .argument (arguments[index]?.getD .null)

/-- What NULL is compared with by equality is tested for it. -/
def againstNull (sign : Sql.Comparison) (a : Value) : Truth :=
  match sign with
  | .eq => .ofBool a.isNull
  | .ne => .ofBool !a.isNull
  | .lt | .le | .gt | .ge => .unknown

/-- A comparison of two values, either of which may come from a constant. -/
def comparison (engine : Engine) (sign : Sql.Comparison) (left right : Option Value)
    (a b : Value) : Truth :=
  match left, right with
  | some left, some right =>
    match Compiling.folded sign left right with
    | .ok holds => .ofBool holds
    | .error _ => .unknown
  | some .null, none => againstNull sign b
  | none, some .null => againstNull sign a
  | _, _ => engine.compare sign a b

/-- What a comparison is decided to be: two constants are compared at once. -/
def decidedComparison (sign : Sql.Comparison) : Option Value → Option Value → Option Bool
  | some a, some b => (Compiling.folded sign a b).toOption
  | _, _ => none

/-- What two branches are decided to be, if it is the same. -/
def decidedAlike : Option Bool → Option Bool → Option Bool
  | some a, some b => if a = b then some a else none
  | _, _ => none

/-- What a conjunction is decided to be, given its sides. -/
def decidedAnd : Option Bool → Option Bool → Option Bool
  | some false, _ | _, some false => some false
  | some true, some true => some true
  | _, _ => none

/-- What a disjunction is decided to be, given its sides. -/
def decidedOr : Option Bool → Option Bool → Option Bool
  | some true, _ | _, some true => some true
  | some false, some false => some false
  | _, _ => none

/-- What a conditional is decided to be, given its test and its branches. -/
def decidedIf : Option Bool → Option Bool → Option Bool → Option Bool
  | some true, ifTrue, _ => ifTrue
  | some false, _, ifFalse => ifFalse
  | none, ifTrue, ifFalse => decidedAlike ifTrue ifFalse

/-- The truth of a conditional, given what its branches are decided to be alike. -/
def conditionalTruth (alike : Option Bool) (test ifTrue ifFalse : Truth) : Truth :=
  match alike with
  | some b => .ofBool b
  | none => (test.and ifTrue).or (test.not.and ifFalse)

namespace Expr

/-- The value of a constant. -/
def const? : Expr → Option Value
  | .const value => some value
  | _ => none

/-- What a predicate is decided to be without regard to any row. -/
def decided? : Expr → Option Bool
  | .const (.bool b) => some b
  | .not inner => (decided? inner).map Bool.not
  | .binary .and left right => decidedAnd (decided? left) (decided? right)
  | .binary .or left right => decidedOr (decided? left) (decided? right)
  | .binary (.comparison sign) left right => decidedComparison sign left.const? right.const?
  | .conditional test ifTrue ifFalse =>
    decidedIf (decided? test) (decided? ifTrue) (decided? ifFalse)
  | .within _ [] => some false
  | _ => none

section

variable (engine : Engine) (table : Table) (row : String → Value)

mutual

/-- The value of an operand. What is no operand has none. -/
def value : Expr → Value
  | .field name =>
    match table.column? name with
    | some column => row column.name
    | none => .null
  | .const value => value
  | .splice template arguments =>
    engine.spliced ((Template.segments template).map (Segment.piece (values arguments)))
  | _ => .null

/-- The values of several operands. -/
def values : List Expr → List Value
  | [] => []
  | first :: rest => value first :: values rest

end

/-- Operands are evaluated one by one. -/
theorem values_eq_map (exprs : List Expr) :
    values engine table row exprs = exprs.map (value engine table row) := by
  induction exprs with
  | nil => rfl
  | cons first rest inductionHypothesis => rw [values, inductionHypothesis, List.map_cons]

/-- The truth of a predicate. What is no predicate is unknown. -/
def truth : Expr → Truth
  | .const (.bool b) => .ofBool b
  | .const _ => .unknown
  | .field name => engine.compare .eq (value engine table row (.field name)) (.bool true)
  | .not inner => (truth inner).not
  | .binary .and left right => (truth left).and (truth right)
  | .binary .or left right => (truth left).or (truth right)
  | .binary (.comparison sign) left right =>
    comparison engine sign left.const? right.const? (value engine table row left)
      (value engine table row right)
  | .conditional test ifTrue ifFalse =>
    conditionalTruth (decidedAlike ifTrue.decided? ifFalse.decided?) (truth test) (truth ifTrue)
      (truth ifFalse)
  | .like subject pattern =>
    engine.like (value engine table row subject) (value engine table row pattern)
  | .between subject low high =>
    engine.between (value engine table row subject) (value engine table row low)
      (value engine table row high)
  | .within subject items =>
    engine.within (value engine table row subject) (values engine table row items)
  | .splice template arguments =>
    engine.holds (value engine table row (.splice template arguments))

end
end Expr

/-- Something that is decided has that truth. -/
def Decides (decision : Option Bool) (truth : Truth) : Prop :=
  ∀ b, decision = some b → truth = .ofBool b

namespace Decides

variable {first second third : Option Bool} {a b c : Truth}

/-- A conjunction with a side that fails is decided, and so is one of sides that hold. -/
theorem and (left : Decides first a) (right : Decides second b) :
    Decides (decidedAnd first second) (a.and b) := by
  intro decision decided
  unfold decidedAnd at decided
  split at decided
  · cases decided
    rw [left false rfl]
    exact Truth.no_and b
  · cases decided
    rw [right false rfl]
    exact Truth.and_no a
  · cases decided
    rw [left true rfl, right true rfl]
    rfl
  · cases decided

/-- A disjunction with a side that holds is decided, and so is one of sides that fail. -/
theorem or (left : Decides first a) (right : Decides second b) :
    Decides (decidedOr first second) (a.or b) := by
  intro decision decided
  unfold decidedOr at decided
  split at decided
  · cases decided
    rw [left true rfl]
    exact Truth.yes_or b
  · cases decided
    rw [right true rfl]
    exact Truth.or_yes a
  · cases decided
    rw [left false rfl, right false rfl]
    rfl
  · cases decided

/-- A comparison of two constants that can be compared is decided. -/
theorem comparison (engine : Engine) (sign : Sql.Comparison) (left right : Option Value)
    (x y : Value) :
    Decides (decidedComparison sign left right)
      (Sqlwright.comparison engine sign left right x y) := by
  intro decision decided
  unfold decidedComparison at decided
  split at decided
  · rename_i a b
    unfold Sqlwright.comparison
    cases folded : Compiling.folded sign a b with
    | error error => simp [folded, Except.toOption] at decided
    | ok holds =>
      simp only [folded, Except.toOption, Option.some.injEq] at decided
      simp only [folded, decided]
  · cases decided

/-- The test of a conditional leaves one branch. If both are decided alike, this branch is
decided so as well. -/
theorem conditionalTruth_yes (branch : Decides second b) :
    conditionalTruth (decidedAlike second third) .yes b c = b := by
  unfold conditionalTruth
  split
  · rename_i same
    unfold decidedAlike at same
    split at same
    · split at same
      · cases same
        exact (branch _ rfl).symm
      · cases same
    · cases same
  · simp [Truth.not]

theorem conditionalTruth_no (branch : Decides third c) :
    conditionalTruth (decidedAlike second third) .no b c = c := by
  unfold conditionalTruth
  split
  · rename_i same
    unfold decidedAlike at same
    split at same
    · split at same
      · rename_i equal
        cases same
        exact (branch _ (by rw [equal])).symm
      · cases same
    · cases same
  · simp [Truth.not]

/-- A conditional is decided if its test and the branch that remains are, or if both
branches are decided alike. -/
theorem conditional (test : Decides first a) (ifTrue : Decides second b)
    (ifFalse : Decides third c) :
    Decides (decidedIf first second third)
      (conditionalTruth (decidedAlike second third) a b c) := by
  intro decision decided
  unfold decidedIf at decided
  split at decided
  · rw [test true rfl]
    exact (conditionalTruth_yes ifTrue).trans (ifTrue decision decided)
  · rw [test false rfl]
    exact (conditionalTruth_no ifFalse).trans (ifFalse decision decided)
  · rw [decided]
    rfl

end Decides

/-- What is decided has that truth in every row. -/
theorem Expr.decides (engine : Engine) (table : Table) (row : String → Value) :
    ∀ expr : Expr, Decides expr.decided? (expr.truth engine table row)
  | .const value => by
    intro b decided
    cases value <;> cases decided
    rfl
  | .field _ => fun _ decided => nomatch decided
  | .not inner => by
    intro b decided
    obtain ⟨c, known, rfl⟩ := Option.map_eq_some_iff.mp decided
    rw [truth, decides engine table row inner c known, Truth.not_ofBool]
  | .binary .and left right => (decides engine table row left).and (decides engine table row right)
  | .binary .or left right => (decides engine table row left).or (decides engine table row right)
  | .binary (.comparison sign) left right => .comparison engine sign left.const? right.const? _ _
  | .conditional test ifTrue ifFalse =>
    (decides engine table row test).conditional (decides engine table row ifTrue)
      (decides engine table row ifFalse)
  | .like _ _ => fun _ decided => nomatch decided
  | .between _ _ _ => fun _ decided => nomatch decided
  | .within _ items => by
    intro b decided
    cases items with
    | nil =>
      cases decided
      rfl
    | cons first rest => cases decided
  | .splice _ _ => fun _ decided => nomatch decided

end Sqlwright
