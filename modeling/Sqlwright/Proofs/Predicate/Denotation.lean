import Sqlwright.Proofs.ParamSet.Binding
import Sqlwright.Proofs.Predicate.Meaning
import Sqlwright.Proofs.Sql.Reading

/-!
# What compiled parts mean

A compiled operand has a value in every row and a compiled condition a truth, by what its
fragment is read as. The connectives keep this: what they write is of the forms that can be
read, with every parenthesis that is needed, and has the truth that their name says.

Parameters are looked up in the set as it is at the end. A part is compiled before others
are bound, so what is said of it is stated for all readings that know the bindings made up
to then. The end knows them too, because bindings are kept; those that are dropped belong
to parts that have folded, and these mean the same in every reading.
-/

namespace Sqlwright

open Sql (Fragment Interpretation Truth)
open Sql.Reader (Reads ReadsTerm ReadsPieces)

/-- A reading gives the parameters the values that are bound to them. -/
def Sql.Interpretation.Knows (reading : Interpretation) (params : ParamSet) : Prop :=
  ∀ name value, params.get? name = some value → reading.parameters name = value

/-- What is known of a later set is known of an earlier one. -/
theorem Sql.Interpretation.Knows.earlier {reading : Interpretation} {params later : ParamSet}
    (knows : reading.Knows later) (kept : params.entries <+: later.entries) :
    reading.Knows params := fun name value bound =>
  knows name value (ParamSet.get?_of_prefix kept bound)

/-- A fragment is read as a term that has the given value. -/
def Writes (dialect : Dialect) (known : ParamSet) (fragment : Fragment)
    (denotes : Interpretation → Value) : Prop :=
  ∃ term, ReadsTerm dialect fragment term ∧
    ∀ reading : Interpretation, reading.Knows known → reading.value term = denotes reading

/-- More bindings change no value. -/
theorem Writes.extended {dialect : Dialect} {params later : ParamSet} {fragment : Fragment}
    {denotes : Interpretation → Value} (writes : Writes dialect params fragment denotes)
    (kept : params.entries <+: later.entries) : Writes dialect later fragment denotes := by
  obtain ⟨term, reads, means⟩ := writes
  exact ⟨term, reads, fun reading knows => means reading (knows.earlier kept)⟩

/-- An operand has the given value. -/
def Operand.Means (dialect : Dialect) (known : ParamSet) (operand : Operand)
    (denotes : Interpretation → Value) : Prop :=
  match operand with
  | .column found => ∀ reading : Interpretation, denotes reading = reading.row found.name
  | .constant a => ∀ reading, denotes reading = a
  | .raw fragment => Writes dialect known fragment denotes

/-- More bindings change no value. -/
theorem Operand.Means.extended {dialect : Dialect} {params later : ParamSet} {operand : Operand}
    {denotes : Interpretation → Value} (means : operand.Means dialect params denotes)
    (kept : params.entries <+: later.entries) : operand.Means dialect later denotes := by
  cases operand with
  | raw fragment => exact Writes.extended means kept
  | _ => exact means

/-- A condition has the given truth. One that is decided has it in every reading. -/
def Condition.Means (dialect : Dialect) (known : ParamSet) (condition : Condition)
    (denotes : Interpretation → Truth) : Prop :=
  match condition with
  | .literal b => ∀ reading, denotes reading = .ofBool b
  | .sql fragment disjunction => ∃ formula, Reads dialect fragment disjunction formula ∧
      ∀ reading : Interpretation, reading.Knows known → reading.truth formula = denotes reading

namespace Condition

variable {dialect : Dialect} {params later known : ParamSet} {left right condition : Condition}
  {first second denotes other : Interpretation → Truth}

/-- More bindings change no truth. -/
theorem Means.extended (means : condition.Means dialect params denotes)
    (kept : params.entries <+: later.entries) : condition.Means dialect later denotes := by
  cases condition with
  | literal b => exact means
  | sql fragment disjunction =>
    obtain ⟨formula, reads, same⟩ := means
    exact ⟨formula, reads, fun reading knows => same reading (knows.earlier kept)⟩

/-- A truth can be told in other words. -/
theorem Means.congr (means : condition.Means dialect known denotes)
    (same : ∀ reading, other reading = denotes reading) :
    condition.Means dialect known other := by
  cases condition with
  | literal b => exact fun reading => (same reading).trans (means reading)
  | sql fragment disjunction =>
    obtain ⟨formula, reads, agrees⟩ := means
    exact ⟨formula, reads, fun reading knows => (agrees reading knows).trans (same reading).symm⟩

/-- A negation. -/
theorem means_negated (means : condition.Means dialect known denotes) :
    condition.negated.Means dialect known fun reading => (denotes reading).not := by
  cases condition with
  | literal b =>
    intro reading
    show (denotes reading).not = _
    rw [means reading, Truth.not_ofBool]
  | sql fragment disjunction =>
    obtain ⟨formula, reads, same⟩ := means
    refine ⟨_, reads.not, fun reading knows => ?_⟩
    rw [Interpretation.truth, same reading knows]

/-- In the parentheses it needs, any condition can stand next to AND. -/
theorem reads_grouped {fragment : Fragment} {disjunction : Bool} {formula : Sql.Formula}
    (reads : Reads dialect fragment disjunction formula) :
    Reads dialect (grouped fragment disjunction) false formula := by
  cases disjunction with
  | true => exact reads.parens
  | false => exact reads

/-- A conjunction with a side that fails, whatever has been bound for it. -/
theorem means_false_and (before : (literal false).Means dialect params first) :
    (literal false).Means dialect later fun reading => (first reading).and (second reading) := by
  intro reading
  show (first reading).and (second reading) = _
  rw [before reading]
  exact Truth.no_and _

theorem means_and_false (after : (literal false).Means dialect params second) :
    (literal false).Means dialect later fun reading => (first reading).and (second reading) := by
  intro reading
  show (first reading).and (second reading) = _
  rw [after reading]
  exact Truth.and_no _

/-- A disjunction with a side that holds likewise. -/
theorem means_true_or (before : (literal true).Means dialect params first) :
    (literal true).Means dialect later fun reading => (first reading).or (second reading) := by
  intro reading
  show (first reading).or (second reading) = _
  rw [before reading]
  exact Truth.yes_or _

theorem means_or_true (after : (literal true).Means dialect params second) :
    (literal true).Means dialect later fun reading => (first reading).or (second reading) := by
  intro reading
  show (first reading).or (second reading) = _
  rw [after reading]
  exact Truth.or_yes _

/-- A conjunction. A side that is decided is not written. -/
theorem means_conjoined (before : left.Means dialect known first)
    (after : right.Means dialect known second) :
    (left.conjoined right).Means dialect known fun reading =>
      (first reading).and (second reading) := by
  rcases left with (_ | _) | ⟨fragment, disjunction⟩
  · rw [conjoined_false_left]
    exact means_false_and before
  · rw [conjoined_true_left]
    refine after.congr fun reading => ?_
    rw [before reading]
    exact Truth.yes_and _
  · rcases right with (_ | _) | ⟨other, disjunctionOther⟩
    · rw [conjoined_false_right]
      exact means_and_false after
    · rw [conjoined_true_right]
      refine before.congr fun reading => ?_
      rw [after reading]
      exact Truth.and_yes _
    · obtain ⟨formula, reads, same⟩ := before
      obtain ⟨formulaOther, readsOther, sameOther⟩ := after
      obtain ⟨whole, readsWhole, means⟩ :=
        (reads_grouped reads).and (reads_grouped readsOther)
      refine ⟨whole, readsWhole, fun reading knows => ?_⟩
      rw [means, same reading knows, sameOther reading knows]

/-- A disjunction. A side that is decided is not written. -/
theorem means_disjoined (before : left.Means dialect known first)
    (after : right.Means dialect known second) :
    (left.disjoined right).Means dialect known fun reading =>
      (first reading).or (second reading) := by
  rcases left with (_ | _) | ⟨fragment, disjunction⟩
  · rw [disjoined_false_left]
    refine after.congr fun reading => ?_
    rw [before reading]
    exact Truth.no_or _
  · rw [disjoined_true_left]
    exact means_true_or before
  · rcases right with (_ | _) | ⟨other, disjunctionOther⟩
    · rw [disjoined_false_right]
      refine before.congr fun reading => ?_
      rw [after reading]
      exact Truth.or_no _
    · rw [disjoined_true_right]
      exact means_or_true after
    · obtain ⟨formula, reads, same⟩ := before
      obtain ⟨formulaOther, readsOther, sameOther⟩ := after
      obtain ⟨whole, readsWhole, means⟩ := reads.or readsOther
      refine ⟨whole, readsWhole, fun reading knows => ?_⟩
      rw [means, same reading knows, sameOther reading knows]

/-- A conditional that is written: the test with the one branch, or its negation with the
other. -/
theorem means_chosen {test ifTrue ifFalse : Condition} {whenTrue whenFalse : Interpretation → Truth}
    (tested : test.Means dialect known denotes) (branch : ifTrue.Means dialect known whenTrue)
    (branchOther : ifFalse.Means dialect known whenFalse) :
    (chosen test ifTrue ifFalse).Means dialect known fun reading =>
      ((denotes reading).and (whenTrue reading)).or
        ((denotes reading).not.and (whenFalse reading)) := by
  have held := means_conjoined tested branch
  have failed := means_conjoined (means_negated tested) branchOther
  unfold chosen
  split
  · rename_i left _ right _ sameLeft sameRight
    rw [sameLeft] at held
    rw [sameRight] at failed
    obtain ⟨formula, reads, same⟩ := held
    obtain ⟨formulaOther, readsOther, sameOther⟩ := failed
    obtain ⟨whole, readsWhole, means⟩ := reads.parens.or readsOther.parens
    refine ⟨whole, readsWhole, fun reading knows => ?_⟩
    rw [means, same reading knows, sameOther reading knows]
  · exact means_disjoined held failed

end Condition
end Sqlwright
