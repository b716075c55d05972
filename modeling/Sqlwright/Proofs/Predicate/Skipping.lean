import Sqlwright.Proofs.Predicate.Grouping
import Sqlwright.Proofs.Predicate.Simplifying

/-!
# What compiling skips

Some parts of a tree are never compiled: the right side of a connective that its left side decides,
the branch that a folding test rules out, and the arguments that a template does not call for.
Anything may stand there, a field that no column has or a shape that nothing is written for.

Two trees are alike up to these parts if they are built alike everywhere else. Which parts are
skipped is decided by others, which may themselves have parts that are skipped. The relation
therefore goes down both trees at once. What it carries to the root is that a tree is the same
step in each of its roles: as a condition, as an operand, and as the target of a marker.
-/

namespace Sqlwright

/-- Two trees that differ only inside parts which compiling skips. -/
inductive UpToSkipped (dialect : Dialect) (table : Table) : Expr → Expr → Prop
  | same (expr : Expr) : UpToSkipped dialect table expr expr
  | not {inner other : Expr} (part : UpToSkipped dialect table inner other) :
    UpToSkipped dialect table (.not inner) (.not other)
  | binary (op : Operator) {left right leftOther rightOther : Expr}
    (first : UpToSkipped dialect table left leftOther)
    (second : UpToSkipped dialect table right rightOther) :
    UpToSkipped dialect table (.binary op left right) (.binary op leftOther rightOther)
  | conditional {test ifTrue ifFalse testOther ifTrueOther ifFalseOther : Expr}
    (first : UpToSkipped dialect table test testOther)
    (second : UpToSkipped dialect table ifTrue ifTrueOther)
    (third : UpToSkipped dialect table ifFalse ifFalseOther) :
    UpToSkipped dialect table (.conditional test ifTrue ifFalse)
      (.conditional testOther ifTrueOther ifFalseOther)
  | like {target pattern targetOther patternOther : Expr}
    (first : UpToSkipped dialect table target targetOther)
    (second : UpToSkipped dialect table pattern patternOther) :
    UpToSkipped dialect table (.like target pattern) (.like targetOther patternOther)
  | between {target low high targetOther lowOther highOther : Expr}
    (first : UpToSkipped dialect table target targetOther)
    (second : UpToSkipped dialect table low lowOther)
    (third : UpToSkipped dialect table high highOther) :
    UpToSkipped dialect table (.between target low high)
      (.between targetOther lowOther highOther)
  | within {target targetOther : Expr} {items others : List Expr}
    (first : UpToSkipped dialect table target targetOther)
    (sameLength : items.length = others.length)
    (each : ∀ index (inside : index < items.length) (also : index < others.length),
      UpToSkipped dialect table items[index] others[index]) :
    UpToSkipped dialect table (.within target items) (.within targetOther others)
  /-- Only the arguments that the template calls for count. -/
  | splice (template : String) {arguments others : List Expr}
    (sameLength : arguments.length = others.length)
    (each : ∀ index (inside : index < arguments.length) (also : index < others.length),
      .argument index ∈ Template.segments template →
        UpToSkipped dialect table arguments[index] others[index]) :
    UpToSkipped dialect table (.splice template arguments) (.splice template others)
  /-- A left side that never holds decides a conjunction, one that always holds a disjunction. -/
  | decided (connective : Connective) {left leftOther : Expr} (right rightOther : Expr)
    (first : UpToSkipped dialect table left leftOther)
    (folds : FoldsTo dialect table left connective.decided) :
    UpToSkipped dialect table (connective.expr left right) (connective.expr leftOther rightOther)
  /-- A test that folds rules out one branch. -/
  | firstBranch {test ifTrue testOther ifTrueOther : Expr} (ifFalse ifFalseOther : Expr)
    (first : UpToSkipped dialect table test testOther)
    (folds : FoldsTo dialect table test true)
    (second : UpToSkipped dialect table ifTrue ifTrueOther) :
    UpToSkipped dialect table (.conditional test ifTrue ifFalse)
      (.conditional testOther ifTrueOther ifFalseOther)
  /-- Or the other. -/
  | secondBranch {test ifFalse testOther ifFalseOther : Expr} (ifTrue ifTrueOther : Expr)
    (first : UpToSkipped dialect table test testOther)
    (folds : FoldsTo dialect table test false)
    (second : UpToSkipped dialect table ifFalse ifFalseOther) :
    UpToSkipped dialect table (.conditional test ifTrue ifFalse)
      (.conditional testOther ifTrueOther ifFalseOther)

namespace Compiling

variable {dialect : Dialect} {table : Table}

/-- Steps with the same outcomes are the same. -/
theorem eq_of_outcome {α : Type} {step other : Compiling α}
    (same : ∀ params, outcome step params = outcome other params) : step = other :=
  funext same

/-- What stands behind a side that decides a connective does not matter to it. -/
theorem step_of_constant {connective : Connective} {left : Compiling Condition}
    (constant : Constant connective.decided left) (right other : Compiling Condition) :
    connective.step left right = connective.step left other := by
  apply eq_of_outcome
  intro params
  rw [outcome_step, outcome_step, constant params]
  simp [connected]

/-- A conditional whose test folds is the branch that it leaves. -/
theorem conditional_of_constant {test : Compiling Condition} {b : Bool}
    (constant : Constant b test) (ifTrue ifFalse : Compiling Condition) :
    conditional test ifTrue ifFalse =
      mark >>= fun start => (if b then ifTrue else ifFalse) >>= settled start := by
  apply eq_of_outcome
  intro params
  rw [outcome_conditional, constant params, outcome_bind, outcome_mark]
  cases b <;> rfl

/-- What a template becomes depends on the arguments that it calls for, and on how many there
are. -/
theorem spliced_congr {arguments others : List (Compiling Operand)}
    (sameLength : arguments.length = others.length) (segments : List Segment)
    (called : ∀ index, .argument index ∈ segments → arguments[index]? = others[index]?) :
    spliced arguments segments = spliced others segments := by
  induction segments with
  | nil => rfl
  | cons segment rest inductionHypothesis =>
    have following := inductionHypothesis fun index among =>
      called index (List.mem_cons_of_mem _ among)
    cases segment with
    | text text => rw [spliced, spliced, following]
    | argument index =>
      rw [spliced, spliced, called index List.mem_cons_self, following, sameLength]

/-- Trees that are the same step in each role that a tree may have. -/
structure Exchangeable (dialect : Dialect) (table : Table) (expr other : Expr) : Prop where
  condition : condition dialect table expr = condition dialect table other
  operand : operand table expr = operand table other
  target : ∀ marker, target table marker expr = target table marker other

/-- Operands that can be exchanged one by one, as far as they are called for. -/
theorem operands_called {items others : List Expr} (sameLength : items.length = others.length)
    (index : Nat)
    (each : ∀ (inside : index < items.length) (also : index < others.length),
      operand table items[index] = operand table others[index]) :
    (operands table items)[index]? = (operands table others)[index]? := by
  rw [operands_eq_map, operands_eq_map, List.getElem?_map, List.getElem?_map]
  by_cases inside : index < items.length
  · have also : index < others.length := sameLength ▸ inside
    rw [List.getElem?_eq_getElem inside, List.getElem?_eq_getElem also, Option.map_some,
      Option.map_some, each inside also]
  · have beyond : others.length ≤ index := sameLength ▸ Nat.le_of_not_lt inside
    rw [List.getElem?_eq_none (Nat.le_of_not_lt inside), List.getElem?_eq_none beyond]

/-- Trees that can be exchanged fold alike. -/
theorem Exchangeable.constant {expr other : Expr} {b : Bool}
    (exchangeable : Exchangeable dialect table expr other)
    (folds : FoldsTo dialect table expr b) : Constant b (Compiling.condition dialect table other) :=
  exchangeable.condition ▸ folds.constant

namespace Exchangeable

variable {left right leftOther rightOther test ifTrue ifFalse testOther ifTrueOther
  ifFalseOther subject subjectOther : Expr} {items others : List Expr}

theorem refl (expr : Expr) : Exchangeable dialect table expr expr :=
  ⟨rfl, rfl, fun _ => rfl⟩

theorem not (part : Exchangeable dialect table left leftOther) :
    Exchangeable dialect table (.not left) (.not leftOther) where
  condition := by rw [Compiling.condition, Compiling.condition, part.condition]
  operand := rfl
  target _ := rfl

theorem binary (op : Operator) (first : Exchangeable dialect table left leftOther)
    (second : Exchangeable dialect table right rightOther) :
    Exchangeable dialect table (.binary op left right) (.binary op leftOther rightOther) where
  condition := by
    cases op with
    | comparison sign =>
      rw [Compiling.condition, Compiling.condition, first.operand, second.operand]
    | and => rw [Compiling.condition, Compiling.condition, first.condition, second.condition]
    | or => rw [Compiling.condition, Compiling.condition, first.condition, second.condition]
  operand := rfl
  target _ := rfl

theorem conditional (first : Exchangeable dialect table test testOther)
    (second : Exchangeable dialect table ifTrue ifTrueOther)
    (third : Exchangeable dialect table ifFalse ifFalseOther) :
    Exchangeable dialect table (.conditional test ifTrue ifFalse)
      (.conditional testOther ifTrueOther ifFalseOther) where
  condition := by
    rw [Compiling.condition, Compiling.condition, first.condition, second.condition,
      third.condition]
  operand := rfl
  target _ := rfl

theorem like (first : Exchangeable dialect table subject subjectOther)
    (second : Exchangeable dialect table left leftOther) :
    Exchangeable dialect table (.like subject left) (.like subjectOther leftOther) where
  condition := by
    rw [Compiling.condition, Compiling.condition, first.target, second.operand]
  operand := rfl
  target _ := rfl

theorem between (first : Exchangeable dialect table subject subjectOther)
    (second : Exchangeable dialect table left leftOther)
    (third : Exchangeable dialect table right rightOther) :
    Exchangeable dialect table (.between subject left right)
      (.between subjectOther leftOther rightOther) where
  condition := by
    rw [Compiling.condition, Compiling.condition, first.target, second.operand, third.operand]
  operand := rfl
  target _ := rfl

theorem within (first : Exchangeable dialect table subject subjectOther)
    (sameLength : items.length = others.length)
    (each : ∀ index (inside : index < items.length) (also : index < others.length),
      Exchangeable dialect table items[index] others[index]) :
    Exchangeable dialect table (.within subject items) (.within subjectOther others) where
  condition := by
    have listed : operands table items = operands table others :=
      List.ext_getElem? fun index => operands_called sameLength index fun inside also =>
        (each index inside also).operand
    have empty : items.isEmpty = others.isEmpty := by
      rw [Bool.eq_iff_iff, List.isEmpty_iff_length_eq_zero, List.isEmpty_iff_length_eq_zero,
        sameLength]
    rw [Compiling.condition, Compiling.condition, first.target, listed, empty]
  operand := rfl
  target _ := rfl

theorem splice (template : String) (sameLength : items.length = others.length)
    (each : ∀ index (inside : index < items.length) (also : index < others.length),
      .argument index ∈ Template.segments template →
        Exchangeable dialect table items[index] others[index]) :
    Exchangeable dialect table (.splice template items) (.splice template others) := by
  have written : spliced (operands table items) (Template.segments template) =
      spliced (operands table others) (Template.segments template) := by
    refine spliced_congr ?_ _ fun index called => operands_called sameLength index
      fun inside also => (each index inside also called).operand
    rw [operands_eq_map, operands_eq_map, List.length_map, List.length_map, sameLength]
  exact {
    condition := by rw [Compiling.condition, Compiling.condition, written]
    operand := by rw [Compiling.operand, Compiling.operand, written]
    target := fun _ => rfl }

theorem decided (connective : Connective) (right rightOther : Expr)
    (first : Exchangeable dialect table left leftOther)
    (folds : FoldsTo dialect table left connective.decided) :
    Exchangeable dialect table (connective.expr left right)
      (connective.expr leftOther rightOther) where
  condition := by
    rw [condition_expr, condition_expr, first.condition]
    exact step_of_constant (first.constant folds) _ _
  operand := by cases connective <;> rfl
  target marker := by cases connective <;> rfl

theorem firstBranch (ifFalse ifFalseOther : Expr)
    (first : Exchangeable dialect table test testOther) (folds : FoldsTo dialect table test true)
    (second : Exchangeable dialect table ifTrue ifTrueOther) :
    Exchangeable dialect table (.conditional test ifTrue ifFalse)
      (.conditional testOther ifTrueOther ifFalseOther) where
  condition := by
    have constant := first.constant folds
    rw [Compiling.condition, Compiling.condition, first.condition, second.condition,
      conditional_of_constant constant, conditional_of_constant constant]
    rfl
  operand := rfl
  target _ := rfl

theorem secondBranch (ifTrue ifTrueOther : Expr)
    (first : Exchangeable dialect table test testOther) (folds : FoldsTo dialect table test false)
    (second : Exchangeable dialect table ifFalse ifFalseOther) :
    Exchangeable dialect table (.conditional test ifTrue ifFalse)
      (.conditional testOther ifTrueOther ifFalseOther) where
  condition := by
    have constant := first.constant folds
    rw [Compiling.condition, Compiling.condition, first.condition, second.condition,
      conditional_of_constant constant, conditional_of_constant constant]
    rfl
  operand := rfl
  target _ := rfl

end Exchangeable

/-- Trees that differ only where compiling skips are the same step in every role. -/
theorem exchangeable_of_upToSkipped {expr other : Expr}
    (alike : UpToSkipped dialect table expr other) : Exchangeable dialect table expr other := by
  induction alike with
  | same expr => exact .refl expr
  | not _ part => exact part.not
  | binary op _ _ first second => exact first.binary op second
  | conditional _ _ _ first second third => exact first.conditional second third
  | like _ _ first second => exact first.like second
  | between _ _ _ first second third => exact first.between second third
  | within _ sameLength _ first each => exact first.within sameLength each
  | splice template sameLength _ each => exact .splice template sameLength each
  | decided connective right rightOther _ folds first =>
    exact first.decided connective right rightOther folds
  | firstBranch ifFalse ifFalseOther _ folds _ first second =>
    exact first.firstBranch ifFalse ifFalseOther folds second
  | secondBranch ifTrue ifTrueOther _ folds _ first second =>
    exact first.secondBranch ifTrue ifTrueOther folds second

end Compiling

open Compiling in
/-- Whatever stands in the parts that are skipped, at any depth and in any number of them, has no
influence on compiling. The trees compile to the same predicate or fail with the same error, and
the parameters are the same afterwards. -/
theorem compile_of_upToSkipped {dialect : Dialect} {table : Table} {expr other : Expr}
    (alike : UpToSkipped dialect table expr other) (params : ParamSet) :
    compile dialect table expr params = compile dialect table other params := by
  have same := (exchangeable_of_upToSkipped alike).condition
  exact compile_congr (same ▸ rfl)

/-- Five places that are skipped, two of them within sides that fold because of it. Nothing that
stands there the first time could be compiled on its own; what stands there the second time would
bind parameters. -/
theorem compile_of_skipped_nonsense :
    let table : Table := { name := "users", schema := none, columns := [{ name := "age" }] }
    let never : Expr := .compare .gt (.const (.int 1)) (.const (.int 2))
    let tree := fun a b c d : Expr => ((never.not.or a).not.and b).or
      (.conditional (never.and c) d
        (.compare .eq (.field "age") (.splice "abs(\x7b1\x7d)" [d, .const (.int 5)])))
    let nonsense := tree (.field "missing") (.const (.int 3)) (.like (.const .null) (.const .null))
      (.not (.splice "\x7b0\x7d" []))
    let young : Expr := .compare .lt (.field "age") (.const (.int 18))
    compile .sqlite table nonsense .empty =
        compile .sqlite table (tree young young young young) .empty ∧
      (compile .sqlite table nonsense .empty).1.isOk := by
  intro table never tree nonsense young
  have folds : FoldsTo .sqlite table never false := ⟨.empty, _, rfl⟩
  have holds : FoldsTo .sqlite table never.not true := ⟨.empty, _, rfl⟩
  refine ⟨compile_of_upToSkipped (.binary .or ?_ ?_) .empty, by decide +kernel⟩
  · exact .decided .both _ _ (.not (.decided .either _ _ (.same _) holds)) ⟨.empty, _, rfl⟩
  · refine .secondBranch _ _ (.decided .both _ _ (.same _) folds) ⟨.empty, _, rfl⟩
      (.binary _ (.same _) (.splice _ rfl ?_))
    intro index inside also called
    have second : index = 1 := by
      have segments : Template.segments "abs(\x7b1\x7d)" =
          [.text "abs(", .argument 1, .text ")"] := by decide +kernel
      simpa [segments] using called
    subst second
    exact .same _

end Sqlwright
