import Sqlwright.Proofs.Predicate.Renaming
import Sqlwright.Proofs.Predicate.Translation

/-!
# Grouping conditions

Conditions that are connected by one connective can be grouped in many ways. Compiling does not
see how: it has the same outcome for every grouping of the same conditions in the same order, with
the same bindings left over if it fails.

A connective associates because what it does is settled by the first side that decides it or
fails. Until then the sides are compiled one after another, whichever pair they belong to. Where
a side decides, all that has been bound since the outermost pair was begun is dropped, so it does
not matter that the inner pairs have dropped some of it before.

The text of a grouping is that of its members beside each other. Only members that may be
disjunctions get parentheses, and only within a conjunction of several.
-/

namespace Sqlwright

open Sql (Fragment)

/-- What connects conditions: both sides have to hold, or either. -/
inductive Connective where
  | both
  | either
deriving DecidableEq, Repr

namespace Connective

/-- Two trees connected. -/
def expr : Connective → Expr → Expr → Expr
  | both => Expr.and
  | either => Expr.or

/-- Several trees connected from the left. -/
def exprOf : Connective → List Expr → Expr
  | both => Expr.allOf
  | either => Expr.anyOf

/-- They are connected one after another. -/
theorem exprOf_cons (connective : Connective) (first : Expr) (rest : List Expr) :
    connective.exprOf (first :: rest) = rest.foldl connective.expr first := by
  cases connective <;> rfl

/-- Two steps connected. -/
def step : Connective → Compiling Condition → Compiling Condition → Compiling Condition
  | both => Compiling.conjunction
  | either => Compiling.disjunction

/-- Two compiled conditions connected. -/
def join : Connective → Condition → Condition → Condition
  | both => Condition.conjoined
  | either => Condition.disjoined

/-- The truth value of a side that decides the whole. -/
def decided : Connective → Bool
  | both => false
  | either => true

/-- The keyword between two conditions. -/
def word : Connective → Sql.Keyword
  | both => .AND
  | either => .OR

/-- Whether the whole is a disjunction. -/
def disjoins : Connective → Bool
  | both => false
  | either => true

end Connective

/-- Conditions in pairs, and pairs of pairs. -/
inductive Grouping where
  | single (condition : Expr)
  | pair (left right : Grouping)

namespace Grouping

/-- The conditions from left to right. -/
def members : Grouping → List Expr
  | single condition => [condition]
  | pair left right => left.members ++ right.members

/-- The tree in which each pair is connected. -/
def tree (connective : Connective) : Grouping → Expr
  | single condition => condition
  | pair left right => connective.expr (left.tree connective) (right.tree connective)

/-- There is a first condition. -/
theorem exists_members (grouping : Grouping) :
    ∃ first rest, grouping.members = first :: rest := by
  induction grouping with
  | single condition => exact ⟨condition, [], rfl⟩
  | pair left right inductionLeft inductionRight =>
    obtain ⟨first, rest, same⟩ := inductionLeft
    exact ⟨first, rest ++ right.members, by rw [members, same, List.cons_append]⟩

end Grouping

/-- The text of a condition, and whether it may be a disjunction. What has folded has none. -/
def Condition.text? : Condition → Option (Fragment × Bool)
  | .literal _ => none
  | .sql fragment disjunction => some (fragment, disjunction)

namespace Connective

/-- Texts side by side. One alone stays as it is. -/
def beside (connective : Connective) : List (Fragment × Bool) → Fragment
  | [(fragment, _)] => fragment
  | several => Fragment.joined (.keyword connective.word)
      (several.map fun (fragment, disjunction) =>
        Condition.grouped fragment (disjunction && !connective.disjoins))

/-- Several conditions connected at once. Those that have folded are not written. -/
def together (connective : Connective) (conditions : List Condition) : Condition :=
  match conditions.filterMap Condition.text? with
  | [] => .literal !connective.decided
  | [(fragment, disjunction)] => .sql fragment disjunction
  | several => .sql (connective.beside several) connective.disjoins

variable (connective : Connective) {a b : Condition}

/-- What has folded without deciding the whole leaves the other side as it is. -/
theorem join_left (other : Condition) :
    connective.join (.literal !connective.decided) other = other := by
  cases connective with
  | both => exact Condition.conjoined_true_left other
  | either => exact Condition.disjoined_false_left other

theorem join_right (other : Condition) :
    connective.join other (.literal !connective.decided) = other := by
  cases connective with
  | both => exact Condition.conjoined_true_right other
  | either => exact Condition.disjoined_false_right other

/-- A condition does not decide the whole if it is left to the text, or folded to what leaves the
other side as it is. -/
theorem eq_of_ne_decided (undecided : a ≠ .literal connective.decided) :
    a = .literal !connective.decided ∨ ∃ fragment disjunction, a = .sql fragment disjunction := by
  cases a with
  | literal value =>
    left
    have other : value ≠ connective.decided := fun same => undecided (same ▸ rfl)
    rw [Bool.eq_not_of_ne other]
  | sql fragment disjunction => exact .inr ⟨fragment, disjunction, rfl⟩

/-- Connecting compiled conditions is associative. -/
theorem join_assoc (a b c : Condition) :
    connective.join (connective.join a b) c = connective.join a (connective.join b c) := by
  cases connective with
  | both =>
    rcases a with (_ | _) | _ <;> rcases b with (_ | _) | _ <;> rcases c with (_ | _) | _ <;>
      simp [join, Condition.conjoined, Condition.grouped]
  | either =>
    rcases a with (_ | _) | _ <;> rcases b with (_ | _) | _ <;> rcases c with (_ | _) | _ <;>
      simp [join, Condition.disjoined]

/-- Two conditions neither of which decides the whole do not decide it together. -/
theorem join_ne_decided (left : a ≠ .literal connective.decided)
    (right : b ≠ .literal connective.decided) :
    connective.join a b ≠ .literal connective.decided := by
  rcases connective.eq_of_ne_decided left with rfl | ⟨first, _, rfl⟩
  · rwa [join_left]
  · rcases connective.eq_of_ne_decided right with rfl | ⟨second, _, rfl⟩
    · rwa [join_right]
    · cases connective <;> exact nofun

/-- A condition alone. -/
theorem together_singleton (undecided : a ≠ .literal connective.decided) :
    connective.together [a] = a := by
  rcases connective.eq_of_ne_decided undecided with rfl | ⟨fragment, disjunction, rfl⟩ <;> rfl

/-- A condition in front of others is connected with all these together. -/
theorem together_cons (conditions : List Condition)
    (undecided : a ≠ .literal connective.decided) :
    connective.together (a :: conditions) =
      connective.join a (connective.together conditions) := by
  unfold together
  rcases connective.eq_of_ne_decided undecided with rfl | ⟨fragment, disjunction, rfl⟩
  · rw [join_left, List.filterMap_cons_none (by rfl)]
  · rw [List.filterMap_cons_some (by rfl)]
    rcases conditions.filterMap Condition.text? with _ | ⟨⟨second, other⟩, _ | ⟨third, rest⟩⟩
    · exact (connective.join_right _).symm
    all_goals
      cases connective <;>
        simp [join, beside, word, disjoins, Condition.conjoined, Condition.disjoined,
          Condition.grouped, Fragment.joined, Fragment.keyword]

/-- What several conditions are written as, if they do not fold. -/
theorem eq_beside_of_together {conditions : List Condition} {fragment : Fragment}
    {disjunction : Bool} (written : connective.together conditions = .sql fragment disjunction) :
    fragment = connective.beside (conditions.filterMap Condition.text?) := by
  unfold together at written
  split at written
  · cases written
  · rename_i alone
    cases written
    rw [alone]
    rfl
  · cases written
    rfl

end Connective

namespace Compiling

variable {connective : Connective} {left right first second third : Compiling Condition}
  {params later : ParamSet} {compiled : Condition}

/-- The outcome of connected steps. -/
theorem outcome_step (connective : Connective) (left right : Compiling Condition)
    (params : ParamSet) :
    outcome (connective.step left right) params =
      connected connective.decided connective.join params (outcome left params)
        (outcome right) := by
  cases connective with
  | both => exact outcome_conjunction_eq_connected left right params
  | either => exact outcome_disjunction_eq_connected left right params

/-- If connected steps succeed without being decided, both sides have succeeded and neither
decides the whole. -/
theorem outcome_step_ok
    (succeeded : outcome (connective.step left right) params = (.ok compiled, later))
    (undecided : compiled ≠ .literal connective.decided) :
    ∃ a middle b, outcome left params = (.ok a, middle) ∧ outcome right middle = (.ok b, later) ∧
      a ≠ .literal connective.decided ∧ b ≠ .literal connective.decided ∧
      compiled = connective.join a b := by
  rw [outcome_step] at succeeded
  rcases begun : outcome left params with ⟨error | a, middle⟩
  · rw [begun] at succeeded
    cases succeeded
  · by_cases decides : a = .literal connective.decided
    · simp only [begun, connected, decides, if_true, Prod.mk.injEq, Except.ok.injEq] at succeeded
      exact absurd succeeded.1.symm undecided
    · rcases followed : outcome right middle with ⟨error | b, last⟩
      · simp [begun, connected, decides, followed] at succeeded
      · by_cases decidesToo : b = .literal connective.decided
        · simp only [begun, connected, decides, followed, decidesToo, if_true, if_false,
            Prod.mk.injEq, Except.ok.injEq] at succeeded
          exact absurd succeeded.1.symm undecided
        · simp only [begun, connected, decides, followed, decidesToo, if_false,
            Prod.mk.injEq, Except.ok.injEq] at succeeded
          obtain ⟨rfl, rfl⟩ := succeeded
          exact ⟨a, middle, b, rfl, followed, decides, decidesToo, rfl⟩

/-- Connecting steps is associative, provided that the first one keeps the bindings there are.

The cases follow the steps in their order, up to the one that fails or decides the whole. If that
is the third one, the inner pair on the right has dropped what the second and third have bound,
before the outer pair drops what the first has bound as well. -/
theorem outcome_step_assoc
    (kept : ∀ params result later, outcome first params = (.ok result, later) →
      params.size ≤ later.size) (params : ParamSet) :
    outcome (connective.step (connective.step first second) third) params =
      outcome (connective.step first (connective.step second third)) params := by
  have inner : outcome (connective.step second third) = fun middle =>
      connected connective.decided connective.join middle (outcome second middle)
        (outcome third) := funext (outcome_step connective second third)
  rw [outcome_step, outcome_step, outcome_step, inner]
  rcases begun : outcome first params with ⟨error | a, middle⟩
  · rfl
  · by_cases decides : a = .literal connective.decided
    · simp [connected, decides]
    · rcases followed : outcome second middle with ⟨error | b, last⟩
      · simp [connected, decides, followed]
      · by_cases decidesToo : b = .literal connective.decided
        · simp [connected, decides, followed, decidesToo]
        · have undecided := connective.join_ne_decided decides decidesToo
          rcases ended : outcome third last with ⟨error | c, final⟩
          · simp [connected, decides, followed, decidesToo, undecided, ended]
          · by_cases decidesFinally : c = .literal connective.decided
            · have dropped := final.truncate_truncate (kept params a middle begun)
              simp [connected, decides, followed, decidesToo, undecided, ended, decidesFinally,
                dropped]
            · have undecidedToo := connective.join_ne_decided decidesToo decidesFinally
              simp [connected, decides, followed, decidesToo, undecided, ended, decidesFinally,
                undecidedToo, connective.join_assoc]

section

variable {dialect : Dialect} {table : Table}

/-- Connected trees are compiled by connected steps. -/
theorem condition_expr (connective : Connective) (dialect : Dialect) (table : Table)
    (left right : Expr) :
    condition dialect table (connective.expr left right) =
      connective.step (condition dialect table left) (condition dialect table right) := by
  cases connective <;> rfl

/-- Connecting trees is associative in what they compile to. -/
theorem condition_expr_assoc (a b c : Expr) :
    condition dialect table (connective.expr (connective.expr a b) c) =
      condition dialect table (connective.expr a (connective.expr b c)) := by
  have kept : ∀ params result later,
      outcome (condition dialect table a) params = (.ok result, later) →
        params.size ≤ later.size := fun params result later succeeded =>
    ((accounted_condition dialect table a).kept succeeded).length_le
  simp only [condition_expr]
  exact funext (outcome_step_assoc kept)

/-- A condition in front of others that are connected from the left can as well be connected with
the whole of them. -/
theorem condition_foldl (first second : Expr) (rest : List Expr) :
    condition dialect table (rest.foldl connective.expr (connective.expr first second)) =
      condition dialect table (connective.expr first (rest.foldl connective.expr second)) := by
  induction rest generalizing first second with
  | nil => rfl
  | cons third rest inductionHypothesis =>
    have others := inductionHypothesis second third
    calc condition dialect table
          (rest.foldl connective.expr (connective.expr (connective.expr first second) third))
      _ = condition dialect table (connective.expr (connective.expr first second)
            (rest.foldl connective.expr third)) := inductionHypothesis _ _
      _ = condition dialect table (connective.expr first (connective.expr second
            (rest.foldl connective.expr third))) := condition_expr_assoc _ _ _
      _ = condition dialect table (connective.expr first
            (rest.foldl connective.expr (connective.expr second third))) := by
          rw [condition_expr _ _ _ first, condition_expr _ _ _ first, others]

/-- A grouping compiles to what its members compile to when they are connected from the left. -/
theorem condition_tree (grouping : Grouping) :
    condition dialect table (grouping.tree connective) =
      condition dialect table (connective.exprOf grouping.members) := by
  induction grouping with
  | single member => cases connective <;> rfl
  | pair left right inductionLeft inductionRight =>
    obtain ⟨first, rest, members⟩ := left.exists_members
    obtain ⟨second, others, membersToo⟩ := right.exists_members
    have together : connective.exprOf (left.members ++ right.members) =
        others.foldl connective.expr
          (connective.expr (rest.foldl connective.expr first) second) := by
      rw [members, membersToo, List.cons_append, connective.exprOf_cons, List.foldl_append,
        List.foldl_cons]
    rw [Grouping.members, together, condition_foldl, ← connective.exprOf_cons,
      ← connective.exprOf_cons, ← members, ← membersToo, Grouping.tree, condition_expr,
      condition_expr, inductionLeft, inductionRight]

/-- What members that are connected become if they do not fold to the truth value that decides the
whole: all of them have been compiled, each with the bindings of those before it, and their texts
stand beside each other. -/
theorem outcome_exprOf_ok {first : Expr} {rest : List Expr}
    (succeeded : outcome (condition dialect table (connective.exprOf (first :: rest))) params =
      (.ok compiled, later))
    (undecided : compiled ≠ .literal connective.decided) :
    ∃ conditions,
      outcome ((first :: rest).mapM (condition dialect table)) params = (.ok conditions, later) ∧
      compiled = connective.together conditions := by
  rw [connective.exprOf_cons] at succeeded
  induction rest generalizing first params compiled with
  | nil =>
    rw [List.foldl_nil] at succeeded
    refine ⟨[compiled], ?_, (connective.together_singleton undecided).symm⟩
    rw [List.mapM_cons, outcome_bind, succeeded]
    rfl
  | cons second rest inductionHypothesis =>
    rw [List.foldl_cons, condition_foldl, condition_expr] at succeeded
    obtain ⟨a, middle, b, begun, followed, left, right, rfl⟩ :=
      outcome_step_ok succeeded undecided
    obtain ⟨conditions, compiledEach, rfl⟩ := inductionHypothesis followed right
    refine ⟨a :: conditions, ?_, (connective.together_cons conditions left).symm⟩
    rw [List.mapM_cons, outcome_bind, begun]
    dsimp only
    rw [outcome_bind, compiledEach]
    rfl

end

end Compiling

section

open Compiling

variable {connective : Connective} {dialect : Dialect} {table : Table} {grouping : Grouping}
  {params later : ParamSet}

/-- A grouping compiles to what its members compile to when they are connected from the left. -/
theorem compile_tree (connective : Connective) (dialect : Dialect) (table : Table)
    (grouping : Grouping) (params : ParamSet) :
    compile dialect table (grouping.tree connective) params =
      compile dialect table (connective.exprOf grouping.members) params := by
  rw [compile_eq_outcome, compile_eq_outcome, condition_tree]

/-- Where a grouping does not fold, its text is that of its members beside each other. -/
theorem text_of_tree {fragment : Fragment}
    (compiled : compile dialect table (grouping.tree connective) params =
      (.ok (.sql fragment), later)) :
    ∃ conditions,
      outcome (grouping.members.mapM (condition dialect table)) params = (.ok conditions, later) ∧
      fragment = connective.beside (conditions.filterMap Condition.text?) := by
  obtain ⟨found, succeeded, written⟩ := outcome_of_compile compiled
  obtain ⟨first, rest, members⟩ := grouping.exists_members
  rw [condition_tree, members] at succeeded
  cases found with
  | literal b => cases written
  | sql _ disjunction =>
    cases written
    obtain ⟨conditions, compiledEach, together⟩ := outcome_exprOf_ok succeeded nofun
    rw [members]
    exact ⟨conditions, compiledEach, connective.eq_beside_of_together together.symm⟩

end

end Sqlwright
