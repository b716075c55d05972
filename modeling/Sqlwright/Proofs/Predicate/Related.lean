import Sqlwright.Proofs.Predicate.Outcome

/-!
# Related conditions

Two runs over one predicate may reach conditions that are not the same and still correspond: they
have folded to one truth value, or their fragments are related in some way. A connective looks only
at whether a condition has folded. Otherwise it puts parentheses around fragments, and keywords
between them. So it takes related conditions to related ones if the relation of fragments admits
the tokens and goes on over what is put behind one another.
-/

namespace Sqlwright

open Sql (Fragment Token)

/-- A relation of fragments that are built alike: it admits every token, and what is made of
related parts. -/
structure Sql.Fragment.Congruent (relate : Fragment → Fragment → Prop) : Prop where
  token : ∀ token : Token, relate [.token token] [.token token]
  append : ∀ {first second firstOther secondOther}, relate first second →
    relate firstOther secondOther → relate (first ++ firstOther) (second ++ secondOther)

namespace Sql.Fragment.Congruent

variable {relate : Fragment → Fragment → Prop} {first second : Fragment}

theorem parens (congruent : Congruent relate) (related : relate first second) :
    relate (Fragment.parens first) (Fragment.parens second) :=
  congruent.append (congruent.append (congruent.token (.punctuation .leftParen)) related)
    (congruent.token (.punctuation .rightParen))

theorem grouped (congruent : Congruent relate) (related : relate first second) (needed : Bool) :
    relate (Condition.grouped first needed) (Condition.grouped second needed) := by
  cases needed with
  | true => exact congruent.parens related
  | false => exact related

/-- Related fragments around a keyword. -/
theorem around (congruent : Congruent relate) {firstOther secondOther : Fragment}
    (related : relate first second) (word : Sql.Keyword)
    (also : relate firstOther secondOther) :
    relate (first ++ Fragment.keyword word ++ firstOther)
      (second ++ Fragment.keyword word ++ secondOther) :=
  congruent.append (congruent.append related (congruent.token (.keyword word))) also

end Sql.Fragment.Congruent

namespace Condition

/-- Conditions that have folded to the same, or whose fragments are related. -/
inductive Related (relate : Fragment → Fragment → Prop) : Condition → Condition → Prop
  | literal (b : Bool) : Related relate (.literal b) (.literal b)
  | sql {first second : Fragment} (related : relate first second) (disjunction : Bool) :
    Related relate (.sql first disjunction) (.sql second disjunction)

namespace Related

variable {relate : Fragment → Fragment → Prop}
  {test testOther first second firstOther secondOther : Condition}

theorem refl (reflexive : ∀ fragment, relate fragment fragment) (condition : Condition) :
    Related relate condition condition := by
  cases condition with
  | literal b => exact .literal b
  | sql fragment disjunction => exact .sql (reflexive fragment) disjunction

/-- A condition is decided if a related one is. -/
theorem eq_literal_iff (related : Related relate first second) (b : Bool) :
    first = .literal b ↔ second = .literal b := by
  cases related with
  | literal a => exact Iff.rfl
  | sql related disjunction => exact iff_of_false nofun nofun

theorem negated (congruent : Fragment.Congruent relate) (related : Related relate first second) :
    Related relate first.negated second.negated := by
  cases related with
  | literal b => exact .literal _
  | sql related disjunction =>
    exact .sql (congruent.append (congruent.token (.keyword .NOT)) (congruent.parens related)) _

theorem conjoined (congruent : Fragment.Congruent relate) (related : Related relate first second)
    (also : Related relate firstOther secondOther) :
    Related relate (first.conjoined firstOther) (second.conjoined secondOther) := by
  cases related with
  | literal b => cases b with
    | false =>
      rw [conjoined_false_left, conjoined_false_left]
      exact .literal _
    | true => rwa [conjoined_true_left, conjoined_true_left]
  | sql related disjunction => cases also with
    | literal b => cases b with
      | false => exact .literal _
      | true => exact .sql related disjunction
    | sql also other =>
      exact .sql (congruent.around (congruent.grouped related disjunction) .AND
        (congruent.grouped also other)) _

theorem disjoined (congruent : Fragment.Congruent relate) (related : Related relate first second)
    (also : Related relate firstOther secondOther) :
    Related relate (first.disjoined firstOther) (second.disjoined secondOther) := by
  cases related with
  | literal b => cases b with
    | false => rwa [disjoined_false_left, disjoined_false_left]
    | true =>
      rw [disjoined_true_left, disjoined_true_left]
      exact .literal _
  | sql related disjunction => cases also with
    | literal b => cases b with
      | false => exact .sql related disjunction
      | true => exact .literal _
    | sql also other => exact .sql (congruent.around related .OR also) _

theorem chosen (congruent : Fragment.Congruent relate) (tested : Related relate test testOther)
    (related : Related relate first second) (also : Related relate firstOther secondOther) :
    Related relate (test.chosen first firstOther) (testOther.chosen second secondOther) := by
  have whenTrue := tested.conjoined congruent related
  have whenFalse := (tested.negated congruent).conjoined congruent also
  unfold Condition.chosen
  generalize test.conjoined first = held, testOther.conjoined second = heldOther,
    test.negated.conjoined firstOther = failed,
    testOther.negated.conjoined secondOther = failedOther at whenTrue whenFalse
  cases whenTrue with
  | literal a => exact disjoined congruent (.literal a) whenFalse
  | sql left disjunction => cases whenFalse with
    | literal b => exact disjoined congruent (.sql left disjunction) (.literal b)
    | sql right other =>
      exact .sql (congruent.around (congruent.parens left) .OR (congruent.parens right)) _

theorem remaining (congruent : Fragment.Congruent relate)
    (tested : Related relate test testOther) (related : Related relate first second)
    (also : Related relate firstOther secondOther) :
    Related relate (Compiling.remaining test first firstOther)
      (Compiling.remaining testOther second secondOther) := by
  cases related with
  | literal a => cases also with
    | literal b =>
      simp only [Compiling.remaining]
      split
      · exact .literal a
      · exact tested.chosen congruent (.literal a) (.literal b)
    | sql right other => exact tested.chosen congruent (.literal a) (.sql right other)
  | sql left disjunction => exact tested.chosen congruent (.sql left disjunction) also

end Related
end Condition

/-- Predicates that have been decided to the same, or whose fragments are related. -/
inductive Predicate.Related (relate : Fragment → Fragment → Prop) : Predicate → Predicate → Prop
  | literal (b : Bool) : Related relate (.literal b) (.literal b)
  | sql {first second : Fragment} (related : relate first second) :
    Related relate (.sql first) (.sql second)

/-- Related conditions are related predicates. -/
theorem Condition.Related.predicate {relate : Fragment → Fragment → Prop}
    {condition other : Condition} (related : condition.Related relate other) :
    Predicate.Related relate condition.predicate other.predicate := by
  cases related with
  | literal b => exact .literal b
  | sql related _ => exact .sql related

end Sqlwright
