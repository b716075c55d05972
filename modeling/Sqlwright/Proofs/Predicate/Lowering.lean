import Sqlwright.Proofs.Predicate.Translation

/-!
# Conditionals against their lowering

A conditional is meant as the disjunction of its branches, the one together with its test
and the other with the negation of it. Where the test or a branch is a constant, less is
written. Taken row by row, what is written then has the truth of the whole disjunction,
with one exception: if both branches are TRUE, so is the conditional, while the disjunction
is unknown in a row in which the test is unknown. Both branches FALSE are no exception.

A branch that the test rules out is not compiled and may not compile at all. It does not
matter which truth it would have had.
-/

namespace Sqlwright

open Sql (Engine Truth)

/-- The disjunction of two branches, each with its side of a test. -/
def lowered (test ifTrue ifFalse : Truth) : Truth :=
  (test.and ifTrue).or (test.not.and ifFalse)

/-- A test that holds leaves the first branch. -/
@[simp] theorem lowered_yes (ifTrue ifFalse : Truth) : lowered .yes ifTrue ifFalse = ifTrue := by
  simp [lowered, Truth.not]

/-- A test that fails leaves the second branch. -/
@[simp] theorem lowered_no (ifTrue ifFalse : Truth) : lowered .no ifTrue ifFalse = ifFalse := by
  simp [lowered, Truth.not]

/-- Branches that both fail leave nothing to hold. -/
@[simp] theorem lowered_of_no (test : Truth) : lowered test .no .no = .no := by
  simp [lowered]

/-- In the given row, the tree has this truth wherever it compiles. If it compiles
nowhere, every truth will do. -/
def TranslatesTo (dialect : Dialect) (table : Table) (engine : Engine) (row : String → Value)
    (expr : Expr) (truth : Truth) : Prop :=
  ∀ params found, expr.translated? dialect table engine row params = some found → found = truth

/-- The tree compiles to a constant. -/
def FoldsTo (dialect : Dialect) (table : Table) (expr : Expr) (b : Bool) : Prop :=
  ∃ params later, compile dialect table expr params = (.ok (.literal b), later)

section

open Compiling

variable {dialect : Dialect} {table : Table} {engine : Engine} {row : String → Value}
  {expr test ifTrue ifFalse : Expr} {params later : ParamSet} {truth : Truth} {b : Bool}

/-- The truth of a tree will always do. -/
theorem translatesTo_truth (dialect : Dialect) (table : Table) (engine : Engine)
    (row : String → Value) (expr : Expr) :
    TranslatesTo dialect table engine row expr (expr.truth engine table row) :=
  fun _ _ translated => Expr.eq_truth_of_translated? translated

/-- Where the tree compiles, no other truth does. -/
theorem TranslatesTo.eq_truth {found : Condition}
    (translates : TranslatesTo dialect table engine row expr truth)
    (succeeded : outcome (condition dialect table expr) params = (.ok found, later)) :
    truth = expr.truth engine table row := by
  have translated := Expr.translated?_of_compile (compile_of_outcome succeeded) engine row
  exact (translates params _ translated).symm

/-- What folds is decided so. -/
theorem FoldsTo.decided (folds : FoldsTo dialect table expr b) : expr.decided? = some b := by
  obtain ⟨params, later, compiled⟩ := folds
  exact (literal_iff_of_compile compiled b).mp rfl

/-- What is decided folds, if it compiles. -/
theorem foldsTo_of_decided {found : Condition}
    (succeeded : outcome (condition dialect table expr) params = (.ok found, later))
    (decided : expr.decided? = some b) : FoldsTo dialect table expr b := by
  have compiled := compile_of_outcome succeeded
  have literal := (literal_iff_of_compile compiled b).mpr decided
  exact ⟨params, later, literal ▸ compiled⟩

/-- A conditional is what its lowering is, unless both branches are decided to hold; then it
holds. -/
theorem conditionalTruth_eq_lowered {first second : Option Bool} (a : Truth) {b c : Truth}
    (branch : Decides first b) (other : Decides second c)
    (apart : ¬ (first = some true ∧ second = some true)) :
    conditionalTruth (decidedAlike first second) a b c = lowered a b c := by
  rcases first with _ | _ | _
  · rfl
  · rcases second with _ | _ | _
    · rfl
    · rw [branch false rfl, other false rfl]
      exact (lowered_of_no a).symm
    · rfl
  · rcases second with _ | _ | _
    · rfl
    · rfl
    · exact absurd ⟨rfl, rfl⟩ apart

/-- A conditional that compiles has, row by row, the truth of its lowering: the disjunction
of what its branches translate to, each with its side of what the test translates to. The
one exception is a conditional whose branches both fold to TRUE: it holds in every row, and
so also where the test is unknown and the lowering with it.

Proof: compiling says which parts were compiled. If the test folded, the branch that it
leaves was, and the lowering leaves the same branch whatever the other may be. If it did
not, all three parts were, and the tree's truth differs from the lowering only where both
branches are decided alike; where they are FALSE, the lowering is FALSE as well. -/
theorem conditional_agrees_with_lowering {predicate : Predicate}
    (compiled : compile dialect table (.conditional test ifTrue ifFalse) params =
      (.ok predicate, later))
    (engine : Engine) (row : String → Value) (a b c : Truth)
    (tested : TranslatesTo dialect table engine row test a)
    (branch : TranslatesTo dialect table engine row ifTrue b)
    (other : TranslatesTo dialect table engine row ifFalse c) :
    ∃ found,
      (Expr.conditional test ifTrue ifFalse).translated? dialect table engine row params =
        some found ∧
      (FoldsTo dialect table ifTrue true ∧ FoldsTo dialect table ifFalse true → found = .yes) ∧
      (¬ (FoldsTo dialect table ifTrue true ∧ FoldsTo dialect table ifFalse true) →
        found = lowered a b c) := by
  refine ⟨_, Expr.translated?_of_compile compiled engine row, ?_⟩
  rw [Expr.truth]
  have decides := ifTrue.decides engine table row
  have decidesOther := ifFalse.decides engine table row
  have trueOf {expr : Expr} (folds : FoldsTo dialect table expr true) :
      expr.truth engine table row = .yes := expr.decides engine table row true folds.decided
  obtain ⟨compiledTo, begun, _⟩ := outcome_of_compile compiled
  rcases outcome_conditional_ok begun with ⟨holds, middle, last, started, next, _⟩ |
    ⟨fragment, grouped, middle, whenTrue, second, whenFalse, last, started, next, nextOther, _⟩
  · have testDecided := folds_condition dialect table test _ _ _ started
    have testTruth : test.truth engine table row = .ofBool holds :=
      test.decides engine table row holds testDecided.symm
    have same : a = .ofBool holds := (tested.eq_truth started).trans testTruth
    cases holds with
    | true =>
      have remains : b = ifTrue.truth engine table row := branch.eq_truth next
      rw [testTruth, same, Truth.ofBool, Decides.conditionalTruth_yes decides]
      exact ⟨fun folds => trueOf folds.1, fun _ => by rw [lowered_yes, remains]⟩
    | false =>
      have remains : c = ifFalse.truth engine table row := other.eq_truth next
      rw [testTruth, same, Truth.ofBool, Decides.conditionalTruth_no decidesOther]
      exact ⟨fun folds => trueOf folds.2, fun _ => by rw [lowered_no, remains]⟩
  · constructor
    · rintro ⟨foldsTrue, foldsFalse⟩
      rw [foldsTrue.decided, foldsFalse.decided]
      rfl
    · intro apart
      rw [tested.eq_truth started, branch.eq_truth next, other.eq_truth nextOther]
      refine conditionalTruth_eq_lowered _ decides decidesOther ?_
      rintro ⟨decidedTrue, decidedFalse⟩
      exact apart ⟨foldsTo_of_decided next decidedTrue, foldsTo_of_decided nextOther decidedFalse⟩

/-- A test that is unknown, with one branch TRUE and the other a condition that holds. The
conditional is unknown, as its lowering is: a row matches neither branch for certain. -/
theorem conditional_with_unknown_test_agrees :
    let table : Table := {
      name := "users", schema := none, columns := [{ name := "age" }, { name := "nick" }] }
    let test : Expr := .compare .gt (.field "age") (.const (.int 18))
    let other : Expr := Field.like ⟨"nick"⟩ (.const (.text "a%"))
    let engine : Engine := {
      order := Value.compare?, order_swap := Value.compare?_swap
      fits := fun _ _ => true, holds := fun _ => .unknown, raw := fun _ => .null }
    let row : String → Value := fun column => if column = "nick" then .text "ann" else .null
    (Expr.conditional test (.const (.bool true)) other).translated? .sqlite table engine row
      .empty = some (lowered .unknown .yes .yes) := by
  intro table test other engine row
  have succeeds : (compile .sqlite table (.conditional test (.const (.bool true)) other)
      .empty).1.isOk = true := rfl
  have tested : TranslatesTo .sqlite table engine row test .unknown := by
    have unknown : test.truth engine table row = .unknown := by decide
    exact unknown ▸ translatesTo_truth .sqlite table engine row test
  have branch : TranslatesTo .sqlite table engine row (.const (.bool true)) .yes :=
    translatesTo_truth .sqlite table engine row (.const (.bool true))
  have branchOther : TranslatesTo .sqlite table engine row other .yes := by
    have holds : other.truth engine table row = .yes := by decide
    exact holds ▸ translatesTo_truth .sqlite table engine row other
  have apart : ¬ (FoldsTo .sqlite table (.const (.bool true)) true ∧
      FoldsTo .sqlite table other true) := by
    rintro ⟨_, folds⟩
    cases folds.decided
  rcases compiled : compile .sqlite table (.conditional test (.const (.bool true)) other) .empty
    with ⟨error | predicate, later⟩
  · rw [compiled] at succeeds
    cases succeeds
  · obtain ⟨found, translated, _, agrees⟩ := conditional_agrees_with_lowering compiled engine row
      .unknown .yes .yes tested branch branchOther
    rw [translated, agrees apart]

/-- The exception. In a row without an age, a conditional on the age with both branches TRUE
holds, while the lowering of what its parts translate to is unknown. -/
theorem conditional_with_equal_branches_departs :
    let table : Table := { name := "users", schema := none, columns := [{ name := "age" }] }
    let test : Expr := .compare .gt (.field "age") (.const (.int 18))
    let always : Expr := .const (.bool true)
    let engine : Engine := {
      order := Value.compare?, order_swap := Value.compare?_swap
      fits := fun _ _ => false, holds := fun _ => .unknown, raw := fun _ => .null }
    let row : String → Value := fun _ => .null
    ∃ found a b,
      (Expr.conditional test always always).translated? .sqlite table engine row .empty =
        some found ∧
      test.translated? .sqlite table engine row .empty = some a ∧
      always.translated? .sqlite table engine row .empty = some b ∧
      found ≠ lowered a b b :=
  ⟨.yes, .unknown, .yes, rfl, rfl, rfl, by decide⟩

end

end Sqlwright
