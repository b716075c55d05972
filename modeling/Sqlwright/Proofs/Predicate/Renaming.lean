import Sqlwright.Proofs.Basic
import Sqlwright.Proofs.Predicate.Accounting
import Sqlwright.Proofs.Predicate.Related

/-!
# Compiling into different sets

A predicate is compiled into whatever set of parameters there is, and its constants get names that
are free in that set. So two runs that begin with different sets choose different names. They do
nothing else differently: they fail with the same error or fold to the same truth value, or their
texts are the same up to the names of parameters. The runs also bind the same values in the same
order, and the i-th name bound in the one run stands where the i-th name bound in the other one
does.

The two runs are followed side by side. What they have bound is a list of twins, which are values
with the names that they have got in each run, and what they have found so far is the same up to
the names of these twins. Where a connective folds, both runs drop what they have bound since it
was begun, so the start of the runs is a parameter.
-/

namespace Sqlwright

open Sql (Chunk Fragment)

/-- A value that both runs bind, under a name in each. -/
structure Twin where
  left : String
  right : String
  value : Value

/-- Both runs have bound the values of the twins, and nothing else. -/
structure Grown (left right leftLater rightLater : ParamSet) (twins : List Twin) : Prop where
  left : leftLater.entries = left.entries ++ twins.map fun twin => (twin.left, twin.value)
  right : rightLater.entries = right.entries ++ twins.map fun twin => (twin.right, twin.value)

namespace Grown

variable {left right leftMiddle rightMiddle leftLater rightLater : ParamSet}
  {twins others : List Twin}

theorem refl (left right : ParamSet) : Grown left right left right [] :=
  ⟨by simp, by simp⟩

theorem trans (first : Grown left right leftMiddle rightMiddle twins)
    (second : Grown leftMiddle rightMiddle leftLater rightLater others) :
    Grown left right leftLater rightLater (twins ++ others) := by
  constructor
  · rw [second.left, first.left, List.map_append, List.append_assoc]
  · rw [second.right, first.right, List.map_append, List.append_assoc]

/-- A constant is bound in both runs. -/
theorem add (left right : ParamSet) (base : String) (value : Value) :
    Grown left right (left.add base value).2 (right.add base value).2
      [⟨left.freeName base, right.freeName base, value⟩] :=
  ⟨rfl, rfl⟩

/-- Without twins nothing has been bound. -/
theorem eq_of_nil (grown : Grown left right leftLater rightLater []) :
    leftLater = left ∧ rightLater = right := by
  constructor
  · exact ParamSet.ext_entries (by simpa using grown.left)
  · exact ParamSet.ext_entries (by simpa using grown.right)

/-- Dropping what has been bound gives both sets back. -/
theorem truncate (grown : Grown left right leftLater rightLater twins) :
    leftLater.truncate left.size = left ∧ rightLater.truncate right.size = right := by
  constructor
  · exact ParamSet.truncate_eq_of_prefix (grown.left ▸ List.prefix_append _ _)
  · exact ParamSet.truncate_eq_of_prefix (grown.right ▸ List.prefix_append _ _)

end Grown

/-- Chunks that are the same, or that refer to one of the twins each in its run. -/
inductive MatchedChunk (twins : List Twin) : Chunk → Chunk → Prop
  | same {chunk : Chunk} (noParam : Fragment.paramNames [chunk] = []) :
    MatchedChunk twins chunk chunk
  | param {twin : Twin} (bound : twin ∈ twins) :
    MatchedChunk twins (.param twin.left) (.param twin.right)

/-- Fragments that are the same up to the names of the twins. -/
def Matched (twins : List Twin) (left right : Fragment) : Prop :=
  List.Forall₂ (MatchedChunk twins) left right

namespace Matched

variable {twins others : List Twin} {first second firstOther secondOther : Fragment}

theorem mono (more : twins ⊆ others) (matched : Matched twins first second) :
    Matched others first second := by
  refine List.Forall₂.imp (fun left right known => ?_) matched
  cases known with
  | same noParam => exact .same noParam
  | param bound => exact .param (more bound)

theorem append (matched : Matched twins first second)
    (also : Matched twins firstOther secondOther) :
    Matched twins (first ++ firstOther) (second ++ secondOther) :=
  List.rel_append matched also

/-- Without parameters there is nothing to match. -/
theorem fixed (noParams : first.paramNames = []) : Matched twins first first := by
  refine List.forall₂_same.mpr fun chunk member => .same ?_
  rw [Fragment.paramNames, List.filterMap_eq_nil_iff] at noParams ⊢
  intro other inside
  rw [List.mem_singleton.mp inside]
  exact noParams chunk member

/-- Tokens bring no parameters. -/
theorem congruent : Fragment.Congruent (Matched twins) :=
  ⟨fun _ => fixed rfl, append⟩

theorem parens (matched : Matched twins first second) :
    Matched twins (Fragment.parens first) (Fragment.parens second) :=
  congruent.parens matched

theorem commaList {items itemsOther : List Fragment}
    (each : List.Forall₂ (Matched twins) items itemsOther) :
    Matched twins (Fragment.commaList items) (Fragment.commaList itemsOther) := by
  unfold Fragment.commaList
  induction each with
  | nil => exact .nil
  | cons head tail inductionHypothesis =>
    cases tail with
    | nil => exact head
    | cons next rest =>
      exact head.append ((fixed (by rfl) : Matched twins [.token (.punctuation .comma)] _).append
        inductionHypothesis)

end Matched

namespace Condition

/-- Conditions that are the same up to the names of the twins. -/
inductive Matched (twins : List Twin) : Condition → Condition → Prop
  | literal (b : Bool) : Matched twins (.literal b) (.literal b)
  | sql {left right : Fragment} (matched : Sqlwright.Matched twins left right)
    (disjunction : Bool) : Matched twins (.sql left disjunction) (.sql right disjunction)

namespace Matched

variable {twins others : List Twin} {test testOther first second firstOther secondOther : Condition}

theorem mono (more : twins ⊆ others) (matched : Matched twins first second) :
    Matched others first second := by
  cases matched with
  | literal b => exact .literal b
  | sql matched disjunction => exact .sql (matched.mono more) disjunction

/-- Matched conditions are related by what their fragments are matched by. -/
theorem iff_related :
    Matched twins first second ↔ Related (Sqlwright.Matched twins) first second := by
  constructor
  · intro matched
    cases matched with
    | literal b => exact .literal b
    | sql matched disjunction => exact .sql matched disjunction
  · intro related
    cases related with
    | literal b => exact .literal b
    | sql related disjunction => exact .sql related disjunction

theorem negated (matched : Matched twins first second) :
    Matched twins first.negated second.negated :=
  iff_related.mpr ((iff_related.mp matched).negated Sqlwright.Matched.congruent)

theorem conjoined (matched : Matched twins first second)
    (also : Matched twins firstOther secondOther) :
    Matched twins (first.conjoined firstOther) (second.conjoined secondOther) :=
  iff_related.mpr
    ((iff_related.mp matched).conjoined Sqlwright.Matched.congruent (iff_related.mp also))

theorem disjoined (matched : Matched twins first second)
    (also : Matched twins firstOther secondOther) :
    Matched twins (first.disjoined firstOther) (second.disjoined secondOther) :=
  iff_related.mpr
    ((iff_related.mp matched).disjoined Sqlwright.Matched.congruent (iff_related.mp also))

theorem remaining (tested : Matched twins test testOther) (matched : Matched twins first second)
    (also : Matched twins firstOther secondOther) :
    Matched twins (Compiling.remaining test first firstOther)
      (Compiling.remaining testOther second secondOther) :=
  iff_related.mpr ((iff_related.mp tested).remaining Sqlwright.Matched.congruent
    (iff_related.mp matched) (iff_related.mp also))

end Matched
end Condition

/-- Operands that are the same up to the names of the twins. -/
inductive Operand.Matched (twins : List Twin) : Operand → Operand → Prop
  | column (found : Column) : Matched twins (.column found) (.column found)
  | constant (value : Value) : Matched twins (.constant value) (.constant value)
  | raw {left right : Fragment} (matched : Sqlwright.Matched twins left right) :
    Matched twins (.raw left) (.raw right)

namespace Operand.Matched

variable {twins others : List Twin} {first second : Operand}

theorem mono (more : twins ⊆ others) (matched : Matched twins first second) :
    Matched others first second := by
  cases matched with
  | column found => exact .column found
  | constant value => exact .constant value
  | raw matched => exact .raw (matched.mono more)

/-- Constants that are compared with them are wished the same names. -/
theorem baseName_eq (matched : Matched twins first second) : first.baseName = second.baseName := by
  cases matched <;> rfl

end Operand.Matched

namespace Compiling

variable {α β : Type}

/-- Two outcomes, of runs that were begun with the given sets: both have failed with the same
error, or both results are related. -/
inductive Together (left right : ParamSet) (relate : List Twin → α → α → Prop) :
    Except PredicateError α × ParamSet → Except PredicateError α × ParamSet → Prop
  | ok {twins : List Twin} {result other : α} {leftLater rightLater : ParamSet}
    (grown : Grown left right leftLater rightLater twins) (related : relate twins result other) :
    Together left right relate (.ok result, leftLater) (.ok other, rightLater)
  | error {twins : List Twin} {error : PredicateError} {leftLater rightLater : ParamSet}
    (grown : Grown left right leftLater rightLater twins) :
    Together left right relate (.error error, leftLater) (.error error, rightLater)

/-- Begun when both runs have bound the twins since the start, two steps have outcomes that
belong together. -/
def Parallels (left right : ParamSet) (before : List Twin) (relate : List Twin → α → α → Prop)
    (step other : Compiling α) : Prop :=
  ∀ leftParams rightParams, Grown left right leftParams rightParams before →
    Together left right relate (outcome step leftParams) (outcome other rightParams)

/-- A step runs alike, whatever the two sets are that it is begun with. -/
def Alike (relate : List Twin → α → α → Prop) (step : Compiling α) : Prop :=
  ∀ left right, Parallels left right [] relate step step

/-- What is related remains so when more has been bound. -/
def Monotone (relate : List Twin → α → α → Prop) : Prop :=
  ∀ twins others first second, twins ⊆ others → relate twins first second →
    relate others first second

variable {left right : ParamSet} {before : List Twin}

namespace Parallels

theorem pure {relate : List Twin → α → α → Prop} {result other : α}
    (related : relate before result other) :
    Parallels left right before relate (Pure.pure result) (Pure.pure other) :=
  fun _ _ grown => .ok grown related

theorem throw {relate : List Twin → α → α → Prop} (error : PredicateError) :
    Parallels left right before relate (throwThe PredicateError error)
      (throwThe PredicateError error) :=
  fun _ _ grown => .error grown

/-- Steps that follow related results run together. -/
theorem bind {middle : List Twin → α → α → Prop} {relate : List Twin → β → β → Prop}
    {step other : Compiling α} {next nextOther : α → Compiling β}
    (first : Parallels left right before middle step other)
    (rest : ∀ twins result found, middle twins result found →
      Parallels left right twins relate (next result) (nextOther found)) :
    Parallels left right before relate (step >>= next) (other >>= nextOther) := by
  intro leftParams rightParams grown
  have reached := first leftParams rightParams grown
  rw [outcome_bind, outcome_bind]
  generalize outcome step leftParams = ended, outcome other rightParams = endedOther at reached ⊢
  cases reached with
  | ok grown related => exact rest _ _ _ related _ _ grown
  | error grown => exact .error grown

/-- Of what is related, less may be needed. -/
theorem weaken {relate less : List Twin → α → α → Prop} {step other : Compiling α}
    (parallels : Parallels left right before relate step other)
    (enough : ∀ twins first second, relate twins first second → less twins first second) :
    Parallels left right before less step other := by
  intro leftParams rightParams grown
  have reached := parallels leftParams rightParams grown
  generalize outcome step leftParams = ended, outcome other rightParams = endedOther at reached ⊢
  cases reached with
  | ok grown related => exact .ok grown (enough _ _ _ related)
  | error grown => exact .error grown

end Parallels

/-- A step that runs alike can follow any others. -/
theorem Alike.following {relate : List Twin → α → α → Prop} {step : Compiling α}
    (own : Alike relate step) (monotone : Monotone relate) (before : List Twin) :
    Parallels left right before
      (fun twins first second => before ⊆ twins ∧ relate twins first second) step step := by
  intro leftParams rightParams grown
  have reached := own leftParams rightParams leftParams rightParams (.refl _ _)
  generalize outcome step leftParams = ended, outcome step rightParams = endedOther at reached ⊢
  cases reached with
  | ok added related =>
    exact .ok (grown.trans added) ⟨List.subset_append_left _ _,
      monotone _ _ _ _ (List.subset_append_right _ _) related⟩
  | error added => exact .error (grown.trans added)

theorem monotone_matched : Monotone Matched := fun _ _ _ _ more matched => matched.mono more

theorem monotone_operand : Monotone Operand.Matched := fun _ _ _ _ more matched => matched.mono more

theorem monotone_condition : Monotone Condition.Matched :=
  fun _ _ _ _ more matched => matched.mono more

theorem monotone_each :
    Monotone fun twins first second => List.Forall₂ (Matched twins) first second :=
  fun _ _ _ _ more each => each.imp fun _ _ matched => matched.mono more

/-- A constant gets a name in each run, and its reference is matched. -/
theorem alike_bound (base : String) (value : Value) : Alike Matched (bound base value) := by
  intro left right leftParams rightParams grown
  exact .ok (grown.trans (.add leftParams rightParams base value))
    (.cons (.param (List.mem_append_right _ (.head _))) .nil)

/-- A look-up does not look at the set. -/
theorem parallels_column (table : Table) (field : String) :
    Parallels left right before (fun _ first second => first = second) (column table field)
      (column table field) := by
  unfold column
  split
  · exact .pure rfl
  · exact .throw _

theorem parallels_target (table : Table) (marker : Marker) (expr : Expr) :
    Parallels left right before (fun _ first second => first = second) (target table marker expr)
      (target table marker expr) := by
  unfold target
  split
  · exact parallels_column table _
  · exact .throw _

/-- Matched operands are written alike. -/
theorem parallels_rendered (base : String) {operand other : Operand}
    (matched : Operand.Matched before operand other) :
    Parallels left right before
      (fun twins first second => before ⊆ twins ∧ Matched twins first second)
      (rendered base operand) (rendered base other) := by
  cases matched with
  | column found => exact .pure ⟨List.Subset.refl _, .fixed rfl⟩
  | raw matched => exact .pure ⟨List.Subset.refl _, matched⟩
  | constant value => exact (alike_bound base value).following monotone_matched before

/-- An operand that is compiled alike is written alike. -/
theorem Alike.written {step : Compiling Operand} (own : Alike Operand.Matched step)
    (base : Operand → String)
    (sameBase : ∀ twins operand other, Operand.Matched twins operand other →
      base operand = base other) :
    Alike Matched (step >>= fun operand => rendered (base operand) operand) := by
  intro left right
  refine (own left right).bind fun twins operand other matched => ?_
  rw [sameBase twins operand other matched]
  exact (parallels_rendered (base other) matched).weaken fun _ _ _ related => related.2

theorem alike_renderedEach (base : String) {steps : List (Compiling Operand)}
    (own : ∀ step ∈ steps, Alike Operand.Matched step) :
    Alike (fun twins first second => List.Forall₂ (Matched twins) first second)
      (renderedEach base steps) := by
  induction steps with
  | nil => exact fun _ _ => .pure .nil
  | cons step rest inductionHypothesis =>
    have first := (own step (.head _)).written (fun _ => base) fun _ _ _ _ => rfl
    have others := inductionHypothesis fun other member => own other (.tail _ member)
    intro left right
    unfold renderedEach
    rw [← bind_assoc]
    exact (first left right).bind fun twins _ _ matched =>
      (others.following monotone_each twins).bind fun _ _ _ remaining =>
        .pure (.cons (matched.mono remaining.1) remaining.2)

theorem alike_spliced {arguments : List (Compiling Operand)}
    (own : ∀ step ∈ arguments, Alike Operand.Matched step) (segments : List Segment) :
    Alike Matched (spliced arguments segments) := by
  induction segments with
  | nil => exact fun _ _ => .pure .nil
  | cons segment rest inductionHypothesis =>
    intro left right
    cases segment with
    | text text =>
      unfold spliced
      exact (inductionHypothesis left right).bind fun _ _ _ matched =>
        .pure ((Matched.fixed rfl).append matched)
    | argument index =>
      unfold spliced
      split
      · exact .throw _
      · rename_i argument found
        have first := (own argument (List.mem_of_getElem? found)).written Operand.baseName
          fun _ _ _ matched => matched.baseName_eq
        rw [← bind_assoc]
        exact (first left right).bind fun twins _ _ matched =>
          (inductionHypothesis.following monotone_matched twins).bind fun _ _ _ others =>
            .pure ((matched.mono others.1).append others.2)

theorem parallels_comparedWith (sign : Sql.Comparison) {operand other : Operand}
    (matched : Operand.Matched before operand other) (value : Value) :
    Parallels left right before Condition.Matched (comparedWith sign operand value)
      (comparedWith sign other value) := by
  unfold comparedWith
  rw [matched.baseName_eq]
  refine (parallels_rendered other.baseName matched).bind fun twins _ _ ⟨_, written⟩ => ?_
  split
  · split
    · exact .pure (.sql (written.append (.fixed rfl)) _)
    · exact .pure (.sql (written.append (.fixed rfl)) _)
    all_goals exact .throw _
  · exact ((alike_bound other.baseName value).following monotone_matched twins).bind
      fun _ _ _ ⟨more, parameter⟩ =>
        .pure (.sql (((written.mono more).append (.fixed rfl)).append parameter) _)

/-- A comparison of matched operands. Neither side of it is a constant where both are written out
as they are. -/
theorem parallels_compared (sign : Sql.Comparison) {first second firstOther secondOther : Operand}
    (matched : Operand.Matched before first firstOther)
    (also : Operand.Matched before second secondOther) :
    Parallels left right before Condition.Matched (compared sign first second)
      (compared sign firstOther secondOther) := by
  have written : Parallels left right before Condition.Matched
      (do
        let first ← rendered "p" first
        let second ← rendered "p" second
        return .sql (first ++ Fragment.comparison sign ++ second) false)
      (do
        let first ← rendered "p" firstOther
        let second ← rendered "p" secondOther
        return .sql (first ++ Fragment.comparison sign ++ second) false) :=
    (parallels_rendered "p" matched).bind fun _ _ _ ⟨more, begun⟩ =>
      (parallels_rendered "p" (also.mono more)).bind fun _ _ _ ⟨evenMore, ended⟩ =>
        .pure (.sql (((begun.mono evenMore).append (.fixed rfl)).append ended) _)
  cases matched with
  | constant a => cases also with
    | constant b =>
      simp only [compared]
      split
      · exact .pure (.literal _)
      · exact .throw _
    | column found => exact parallels_comparedWith sign.flipped (.column found) a
    | raw also => exact parallels_comparedWith sign.flipped (.raw also) a
  | column found => cases also with
    | constant b => exact parallels_comparedWith sign (.column found) b
    | column other => exact written
    | raw also => exact written
  | raw matched => cases also with
    | constant b => exact parallels_comparedWith sign (.raw matched) b
    | column other => exact written
    | raw also => exact written

/-- Settling to the size of its own start, each run drops the same bindings or keeps them. -/
theorem parallels_settled {condition other : Condition}
    (matched : Condition.Matched before condition other) :
    Parallels left right before Condition.Matched (settled left.size condition)
      (settled right.size other) := by
  intro leftParams rightParams grown
  rw [outcome_settled, outcome_settled]
  cases matched with
  | literal b =>
    dsimp only
    rw [grown.truncate.1, grown.truncate.2]
    exact .ok (.refl left right) (.literal b)
  | sql matched disjunction => exact .ok grown (.sql matched disjunction)

/-- The outcome of a connective that is decided by either side. The right side is looked at only
if the left one does not decide, and if it decides itself, what both have bound is dropped. -/
def connected (decided : Bool) (join : Condition → Condition → Condition) (start : ParamSet)
    (first : Except PredicateError Condition × ParamSet)
    (second : ParamSet → Except PredicateError Condition × ParamSet) :
    Except PredicateError Condition × ParamSet :=
  match first with
  | (.error error, later) => (.error error, later)
  | (.ok condition, later) =>
    if condition = .literal decided then (.ok condition, later)
    else match second later with
      | (.error error, last) => (.error error, last)
      | (.ok other, last) =>
        if other = .literal decided then (.ok other, last.truncate start.size)
        else (.ok (join condition other), last)

theorem outcome_conjunction_eq_connected (step other : Compiling Condition) (params : ParamSet) :
    outcome (conjunction step other) params =
      connected false Condition.conjoined params (outcome step params) (outcome other) := by
  rw [outcome_conjunction]
  rcases outcome step params with ⟨error | (_ | _) | _, later⟩
  case error => rfl
  case ok.literal.false => rfl
  all_goals
    simp only [connected]
    rcases outcome other later with ⟨error | (_ | _) | _, last⟩ <;> rfl

theorem outcome_disjunction_eq_connected (step other : Compiling Condition) (params : ParamSet) :
    outcome (disjunction step other) params =
      connected true Condition.disjoined params (outcome step params) (outcome other) := by
  rw [outcome_disjunction]
  rcases outcome step params with ⟨error | (_ | _) | _, later⟩
  case error => rfl
  case ok.literal.true => rfl
  all_goals
    simp only [connected]
    rcases outcome other later with ⟨error | (_ | _) | _, last⟩ <;> rfl

/-- A connective runs alike if both sides do and it connects matched conditions to matched ones. -/
theorem together_connected {decided : Bool} {join : Condition → Condition → Condition}
    {step other : Compiling Condition} (first : Alike Condition.Matched step)
    (second : Alike Condition.Matched other)
    (joins : ∀ {twins a b c d}, Condition.Matched twins a b → Condition.Matched twins c d →
      Condition.Matched twins (join a c) (join b d)) (left right : ParamSet) :
    Together left right Condition.Matched
      (connected decided join left (outcome step left) (outcome other))
      (connected decided join right (outcome step right) (outcome other)) := by
  have begun := first left right left right (.refl left right)
  generalize outcome step left = ended, outcome step right = endedOther at begun ⊢
  cases begun with
  | error grown => exact .error grown
  | @ok twins condition found leftMiddle rightMiddle grown matched =>
    have sameHere := (Condition.Matched.iff_related.mp matched).eq_literal_iff decided
    by_cases decides : condition = .literal decided
    · simp only [connected, decides, sameHere.mp decides, if_true]
      exact .ok grown (.literal decided)
    · simp only [connected, decides, mt sameHere.mpr decides, if_false]
      have followed := second leftMiddle rightMiddle leftMiddle rightMiddle (.refl _ _)
      generalize outcome other leftMiddle = last, outcome other rightMiddle = lastOther
        at followed ⊢
      cases followed with
      | error added => exact .error (grown.trans added)
      | @ok more next nextOther _ _ added also =>
        have whole := grown.trans added
        have sameThere := (Condition.Matched.iff_related.mp also).eq_literal_iff decided
        by_cases decidesToo : next = .literal decided
        · simp only [decidesToo, sameThere.mp decidesToo, if_true]
          rw [whole.truncate.1, whole.truncate.2]
          exact .ok (.refl left right) (.literal decided)
        · simp only [decidesToo, mt sameThere.mpr decidesToo, if_false]
          exact .ok whole (joins (matched.mono (List.subset_append_left _ _))
            (also.mono (List.subset_append_right _ _)))

theorem alike_conjunction {step other : Compiling Condition}
    (first : Alike Condition.Matched step) (second : Alike Condition.Matched other) :
    Alike Condition.Matched (conjunction step other) := by
  intro left right leftParams rightParams begun
  obtain ⟨rfl, rfl⟩ := begun.eq_of_nil
  rw [outcome_conjunction_eq_connected, outcome_conjunction_eq_connected]
  exact together_connected first second (fun matched also => matched.conjoined also) _ _

theorem alike_disjunction {step other : Compiling Condition}
    (first : Alike Condition.Matched step) (second : Alike Condition.Matched other) :
    Alike Condition.Matched (disjunction step other) := by
  intro left right leftParams rightParams begun
  obtain ⟨rfl, rfl⟩ := begun.eq_of_nil
  rw [outcome_disjunction_eq_connected, outcome_disjunction_eq_connected]
  exact together_connected first second (fun matched also => matched.disjoined also) _ _

theorem alike_conditional {test ifTrue ifFalse : Compiling Condition}
    (first : Alike Condition.Matched test) (second : Alike Condition.Matched ifTrue)
    (third : Alike Condition.Matched ifFalse) :
    Alike Condition.Matched (conditional test ifTrue ifFalse) := by
  intro left right leftParams rightParams begun
  obtain ⟨rfl, rfl⟩ := begun.eq_of_nil
  rw [outcome_conditional, outcome_conditional]
  have tested := first leftParams rightParams leftParams rightParams (.refl _ _)
  generalize outcome test leftParams = ended, outcome test rightParams = endedOther at tested ⊢
  cases tested with
  | error grown => exact .error grown
  | @ok twins condition found _ _ grown matched =>
    have branch {step : Compiling Condition} (own : Alike Condition.Matched step) :
        Parallels leftParams rightParams twins Condition.Matched
          (step >>= settled leftParams.size) (step >>= settled rightParams.size) :=
      (own.following monotone_condition twins).bind fun _ _ _ matched => parallels_settled matched.2
    cases matched with
    | literal b => cases b with
      | true => exact branch second _ _ grown
      | false => exact branch third _ _ grown
    | sql matched disjunction =>
      suffices parts : Parallels leftParams rightParams twins Condition.Matched _ _ from
        parts _ _ grown
      refine (second.following monotone_condition twins).bind fun _ _ _ ⟨more, whenTrue⟩ =>
        (third.following monotone_condition _).bind fun _ _ _ ⟨evenMore, whenFalse⟩ => ?_
      have tested := matched.mono (List.Subset.trans more evenMore)
      exact parallels_settled (.remaining (.sql tested disjunction) (whenTrue.mono evenMore)
        whenFalse)

mutual

/-- Operands are compiled alike. -/
theorem alike_operand (table : Table) : ∀ expr, Alike Operand.Matched (operand table expr)
  | .field name => fun _ _ => (parallels_column table name).bind fun _ found _ same =>
    same ▸ .pure (.column found)
  | .const value => fun _ _ => .pure (.constant value)
  | .splice _ arguments => fun left right =>
    (alike_spliced (alike_operands table arguments) _ left right).bind fun _ _ _ matched =>
      .pure (.raw matched.parens)
  | .like _ _ => fun _ _ => .throw _
  | .between _ _ _ => fun _ _ => .throw _
  | .within _ _ => fun _ _ => .throw _
  | .not _ => fun _ _ => .throw _
  | .binary _ _ _ => fun _ _ => .throw _
  | .conditional _ _ _ => fun _ _ => .throw _

theorem alike_operands (table : Table) :
    ∀ exprs, ∀ step ∈ operands table exprs, Alike Operand.Matched step
  | [], _, member => nomatch member
  | first :: rest, step, member => by
    rcases List.mem_cons.mp member with rfl | member
    · exact alike_operand table first
    · exact alike_operands table rest step member

end

/-- Conditions are compiled alike. The recursion follows the tree. -/
theorem alike_condition (dialect : Dialect) (table : Table) :
    ∀ expr, Alike Condition.Matched (condition dialect table expr)
  | .const value => fun _ _ => by
    cases value with
    | bool b => exact .pure (.literal b)
    | _ => exact .throw _
  | .field name => fun _ _ => (parallels_column table name).bind fun _ _ _ same =>
    same ▸ .pure (.sql (.fixed (by simp)) _)
  | .not inner => fun left right =>
    (alike_condition dialect table inner left right).bind fun _ _ _ matched =>
      .pure matched.negated
  | .binary .and first second =>
    alike_conjunction (alike_condition dialect table first) (alike_condition dialect table second)
  | .binary .or first second =>
    alike_disjunction (alike_condition dialect table first) (alike_condition dialect table second)
  | .binary (.comparison sign) first second => fun left right =>
    (alike_operand table first left right).bind fun twins _ _ matched =>
      ((alike_operand table second).following monotone_operand twins).bind
        fun _ _ _ both => parallels_compared sign (matched.mono both.1) both.2
  | .conditional test ifTrue ifFalse =>
    alike_conditional (alike_condition dialect table test) (alike_condition dialect table ifTrue)
      (alike_condition dialect table ifFalse)
  | .like subject pattern => fun left right => by
    unfold condition
    refine (parallels_target table .like subject).bind fun twins column _ same => ?_
    subst same
    have written := (alike_operand table pattern).written (fun _ => column.property)
      fun _ _ _ _ => rfl
    rw [← bind_assoc]
    exact (written.following monotone_matched twins).bind fun _ _ _ pattern =>
      .pure (.sql ((Matched.fixed (by simp)).append pattern.2) _)
  | .between subject low high => fun left right => by
    unfold condition
    refine (parallels_target table .between subject).bind fun twins column _ same => ?_
    subst same
    have first := (alike_operand table low).written (fun _ => column.property) fun _ _ _ _ => rfl
    have second := (alike_operand table high).written (fun _ => column.property) fun _ _ _ _ => rfl
    rw [← bind_assoc]
    refine (first.following monotone_matched twins).bind fun between _ _ low => ?_
    rw [← bind_assoc, ← bind_assoc]
    exact (second.following monotone_matched between).bind fun _ _ _ high =>
      .pure (.sql ((((Matched.fixed (by simp)).append (low.2.mono high.1)).append
        (.fixed rfl)).append high.2) _)
  | .within subject items => fun left right => by
    unfold condition
    refine (parallels_target table .within subject).bind fun twins column _ same => ?_
    subst same
    split
    · exact .pure (.literal _)
    · have written := alike_renderedEach column.property (alike_operands table items)
      exact (written.following monotone_each twins).bind fun _ _ _ each =>
        .pure (.sql ((Matched.fixed (by simp)).append (Matched.commaList each.2).parens) _)
  | .splice _ arguments => fun left right =>
    (alike_spliced (alike_operands table arguments) _ left right).bind fun _ _ _ matched =>
      .pure (.sql matched _)

end Compiling

/-- A chunk that refers to its parameter by another name. -/
def Sql.Chunk.renamed (rename : String → String) : Chunk → Chunk
  | .param name => .param (rename name)
  | other => other

/-- The name of a twin in the right run, by its name in the left one. -/
def counterpart (twins : List Twin) (name : String) : String :=
  ((twins.find? (·.left == name)).map (·.right)).getD name

section

variable {twins : List Twin}

/-- Distinct names are known on the left. -/
theorem counterpart_left (distinct : (twins.map (·.left)).Nodup) {twin : Twin}
    (bound : twin ∈ twins) : counterpart twins twin.left = twin.right := by
  rw [counterpart, find?_key distinct bound]
  rfl

/-- The names of the left run are renamed to those of the right one, in order. -/
theorem map_counterpart (distinct : (twins.map (·.left)).Nodup) :
    (twins.map (·.left)).map (counterpart twins) = twins.map (·.right) := by
  rw [List.map_map]
  exact List.map_congr_left fun twin bound => counterpart_left distinct bound

/-- Where the right names are distinct as well, the renaming is injective on the left ones. -/
theorem counterpart_injective (distinct : (twins.map (·.left)).Nodup)
    (distinctRight : (twins.map (·.right)).Nodup) :
    ∀ first ∈ twins.map (·.left), ∀ second ∈ twins.map (·.left),
      counterpart twins first = counterpart twins second → first = second := by
  intro first member second also same
  obtain ⟨twin, bound, rfl⟩ := List.mem_map.mp member
  obtain ⟨other, boundToo, rfl⟩ := List.mem_map.mp also
  rw [counterpart_left distinct bound, counterpart_left distinct boundToo] at same
  exact congrArg _ (List.inj_on_of_nodup_map distinctRight bound boundToo same)

/-- A matched fragment is the renamed one. -/
theorem Matched.eq_map_renamed {left right : Fragment} (distinct : (twins.map (·.left)).Nodup)
    (matched : Matched twins left right) :
    right = left.map (Chunk.renamed (counterpart twins)) ∧
      ∀ name ∈ left.paramNames, name ∈ twins.map (·.left) := by
  induction matched with
  | nil => exact ⟨rfl, nofun⟩
  | @cons first second rest others head tail inductionHypothesis =>
    obtain ⟨same, named⟩ := inductionHypothesis
    cases head with
    | same noParam =>
      have unchanged : first.renamed (counterpart twins) = first := by
        cases first with
        | param name => cases noParam
        | _ => rfl
      refine ⟨by rw [List.map_cons, unchanged, same], fun name member => named name ?_⟩
      have divided := Fragment.paramNames_append [first] rest
      rw [noParam, List.nil_append] at divided
      exact divided ▸ member
    | @param twin bound =>
      refine ⟨?_, ?_⟩
      · rw [List.map_cons, Chunk.renamed, counterpart_left distinct bound, same]
      · intro name member
        rcases List.mem_cons.mp member with rfl | member
        · exact List.mem_map_of_mem bound
        · exact named name member

end

namespace Grown

variable {left right leftLater rightLater : ParamSet} {twins : List Twin}

/-- No name is bound twice, in neither run. -/
theorem nodup (grown : Grown left right leftLater rightLater twins) :
    (twins.map (·.left)).Nodup ∧ (twins.map (·.right)).Nodup := by
  have leftNames := leftLater.nodup_names
  have rightNames := rightLater.nodup_names
  rw [ParamSet.names, grown.left, List.map_append, List.map_map] at leftNames
  rw [ParamSet.names, grown.right, List.map_append, List.map_map] at rightNames
  exact ⟨(List.nodup_append.mp leftNames).2.1, (List.nodup_append.mp rightNames).2.1⟩

end Grown

/-- Both runs keep what there was and add bindings of the same values in the same order. -/
structure AddsAlike (left right leftLater rightLater : ParamSet)
    (added others : List (String × Value)) : Prop where
  left : leftLater.entries = left.entries ++ added
  right : rightLater.entries = right.entries ++ others
  values : added.map Prod.snd = others.map Prod.snd

/-- What two runs have grown by has the same values. -/
theorem Grown.addsAlike {left right leftLater rightLater : ParamSet} {twins : List Twin}
    (grown : Grown left right leftLater rightLater twins) :
    AddsAlike left right leftLater rightLater
      (twins.map fun twin => (twin.left, twin.value))
      (twins.map fun twin => (twin.right, twin.value)) :=
  ⟨grown.left, grown.right, by rw [List.map_map, List.map_map]; rfl⟩

open Compiling in
/-- Compiling does not depend on what is bound already. Into any two sets, a predicate fails with
the same error, or folds to the same truth value, or becomes the same text up to the names of
parameters. These are renamed injectively, the i-th name bound in the one run to the i-th one in
the other; and the values bound are the same, in the same order, also where both runs fail. -/
theorem compile_into_other_set (dialect : Dialect) (table : Table) (expr : Expr)
    (left right : ParamSet) :
    match compile dialect table expr left, compile dialect table expr right with
    | (.error error, leftLater), (.error other, rightLater) =>
      error = other ∧ ∃ added others, AddsAlike left right leftLater rightLater added others
    | (.ok (.literal b), leftLater), (.ok (.literal other), rightLater) =>
      b = other ∧ leftLater = left ∧ rightLater = right
    | (.ok (.sql fragment), leftLater), (.ok (.sql other), rightLater) =>
      ∃ added others rename, AddsAlike left right leftLater rightLater added others ∧
        (added.map Prod.fst).map rename = others.map Prod.fst ∧
        (∀ first ∈ added.map Prod.fst, ∀ second ∈ added.map Prod.fst,
          rename first = rename second → first = second) ∧
        (∀ name ∈ fragment.paramNames, name ∈ added.map Prod.fst) ∧
        other = fragment.map (Sql.Chunk.renamed rename)
    | _, _ => False := by
  have runs : Parallels left right [] (fun twins predicate other => ∃ condition found,
      Condition.Matched twins condition found ∧ predicate = condition.predicate ∧
        other = found.predicate) _ _ :=
    (alike_condition dialect table expr left right).bind fun _ _ _ matched =>
      .pure ⟨_, _, matched, rfl, rfl⟩
  have together := runs left right (.refl left right)
  rw [← compile_eq_outcome, ← compile_eq_outcome] at together
  have boundLeft := compile_binds dialect table expr left
  have boundRight := compile_binds dialect table expr right
  generalize compile dialect table expr left = ended,
    compile dialect table expr right = endedOther at together boundLeft boundRight ⊢
  cases together with
  | error grown => exact ⟨rfl, _, _, grown.addsAlike⟩
  | @ok twins _ _ _ _ grown related =>
    obtain ⟨condition, found, matched, rfl, rfl⟩ := related
    cases matched with
    | literal b => exact ⟨rfl, boundLeft, boundRight⟩
    | sql matched disjunction =>
      obtain ⟨distinct, distinctRight⟩ := grown.nodup
      obtain ⟨same, named⟩ := matched.eq_map_renamed distinct
      have leftNames : (twins.map fun twin => (twin.left, twin.value)).map Prod.fst =
          twins.map (·.left) := List.map_map
      have rightNames : (twins.map fun twin => (twin.right, twin.value)).map Prod.fst =
          twins.map (·.right) := List.map_map
      refine ⟨_, _, counterpart twins, grown.addsAlike, ?_, ?_, ?_, same⟩
      · rw [leftNames, rightNames]
        exact map_counterpart distinct
      · rw [leftNames]
        exact counterpart_injective distinct distinctRight
      · rw [leftNames]
        exact named

end Sqlwright
