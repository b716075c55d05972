import Sqlwright.Proofs.ParamSet.Binding
import Sqlwright.Proofs.Predicate.Outcome

/-!
# Every binding has its parameter

Compiling binds eagerly: the parts of a predicate are compiled before it is known which
of them fold away. These results say that the set is nevertheless always in step with
the text. Whatever a predicate has bound when it succeeds is named in its fragment, in
the order of first appearance; what its fragment names is bound by it; and a predicate
that has folded leaves the set as it was. On a failure the former bindings are kept.

A step accounts for its bindings if its result names exactly what has been bound since
some start. The steps of a compilation are put one after another, each continuing the
names of the one before. The connectives also look at the size of the set, which is why
the start is a parameter: where a connective folds, it truncates to the start's size.
-/

namespace Sqlwright

open Sql (Fragment)

/-- The parameters that a condition names. -/
def Condition.names : Condition → List String
  | .literal _ => []
  | .sql fragment _ => fragment.paramNames

/-- The parameters that an operand names as long as it is not written out. -/
def Operand.names : Operand → List String
  | .column _ | .constant _ => []
  | .raw fragment => fragment.paramNames

namespace Compiling

variable {α β : Type} {start : ParamSet} {before : List String}

/-- Begun when the listed names have been bound since the start, a step that succeeds
has bound what its result names since then. One that fails has kept the start. -/
def Accounts (start : ParamSet) (before : List String) (names : α → List String)
    (step : Compiling α) : Prop :=
  ∀ params, start.Binds params before →
    match outcome step params with
    | (.ok result, later) => start.Binds later (names result)
    | (.error _, later) => start.entries <+: later.entries

/-- The result of a step names what the step has bound, wherever it is begun. -/
def Accounted (names : α → List String) (step : Compiling α) : Prop :=
  ∀ params, Accounts params [] names step

namespace Accounts

/-- A result that names what has been bound before accounts for it. -/
theorem pure {names : α → List String} {result : α}
    (same : before.eraseDups = (names result).eraseDups) :
    Accounts start before names (Pure.pure result) := fun _ begun => begun.congr same

/-- A failure has only to keep what was there. -/
theorem throw {names : α → List String} (error : PredicateError) :
    Accounts start before names (throwThe PredicateError error) := fun _ begun => begun.kept

/-- The second step continues where the first has ended. -/
theorem bind {middle : α → List String} {names : β → List String} {step : Compiling α}
    {next : α → Compiling β} (first : Accounts start before middle step)
    (rest : ∀ result, Accounts start (middle result) names (next result)) :
    Accounts start before names (step >>= next) := by
  intro params begun
  rw [outcome_bind]
  have reached := first params begun
  generalize outcome step params = ended at reached ⊢
  rcases ended with ⟨error | result, later⟩
  · exact reached
  · exact rest result later reached

end Accounts

/-- A step that accounts for its own bindings can follow any others. -/
theorem Accounted.following {names : α → List String} {step : Compiling α}
    (own : Accounted names step) (before : List String) :
    Accounts start before (fun result => before ++ names result) step := by
  intro params begun
  have reached := own params params (.refl params)
  generalize outcome step params = ended at reached ⊢
  rcases ended with ⟨error | result, later⟩
  · exact begun.kept.trans reached
  · exact begun.trans reached

/-- Binding a constant is accounted for by the reference to it. -/
theorem accounted_bound (base : String) (value : Value) :
    Accounted Fragment.paramNames (bound base value) := by
  intro start params begun
  obtain rfl := begun.eq_of_nil
  exact params.binds_add base value

/-- A look-up binds nothing. -/
theorem accounts_column (table : Table) (field : String) :
    Accounts start before (fun _ => before) (column table field) := by
  unfold column
  split
  · exact .pure rfl
  · exact .throw _

/-- The target of a marker binds nothing. -/
theorem accounts_target (table : Table) (marker : Marker) (expr : Expr) :
    Accounts start before (fun _ => before) (target table marker expr) := by
  unfold target
  split
  · exact accounts_column table _
  · exact .throw _

/-- Writing an operand out names what compiling it has bound, and a constant besides. -/
theorem accounts_rendered (before : List String) (base : String) (operand : Operand) :
    Accounts start (before ++ operand.names) (fun written => before ++ written.paramNames)
      (rendered base operand) := by
  cases operand with
  | column column => exact .pure (by simp [Operand.names])
  | raw fragment => exact .pure rfl
  | constant value =>
    rw [Operand.names, List.append_nil]
    exact (accounted_bound base value).following before

/-- An operand that accounts for itself does so when it is written out as well. -/
theorem Accounted.written {step : Compiling Operand} (own : Accounted Operand.names step)
    (base : Operand → String) :
    Accounted Fragment.paramNames (step >>= fun operand => rendered (base operand) operand) :=
  fun start => (own start).bind fun operand => accounts_rendered [] (base operand) operand

/-- Operands written out one after another name their bindings in that order. -/
theorem accounted_renderedEach (base : String) {steps : List (Compiling Operand)}
    (own : ∀ step ∈ steps, Accounted Operand.names step) :
    Accounted (fun written => written.flatMap Fragment.paramNames) (renderedEach base steps) := by
  induction steps with
  | nil => exact fun _ => .pure rfl
  | cons step rest inductionHypothesis =>
    have first := (own step (.head _)).written fun _ => base
    have others := inductionHypothesis fun other member => own other (.tail _ member)
    intro start
    unfold renderedEach
    rw [← bind_assoc]
    exact (first start).bind fun written => (others.following _).bind fun others => .pure rfl

/-- A template names what its arguments bind, as often and in the order as it calls for
them. -/
theorem accounted_spliced {arguments : List (Compiling Operand)}
    (own : ∀ step ∈ arguments, Accounted Operand.names step) (segments : List Segment) :
    Accounted Fragment.paramNames (spliced arguments segments) := by
  induction segments with
  | nil => exact fun _ => .pure rfl
  | cons segment rest inductionHypothesis =>
    intro start
    cases segment with
    | text text =>
      unfold spliced
      exact (inductionHypothesis start).bind fun others => .pure (by simp)
    | argument index =>
      unfold spliced
      split
      · exact .throw _
      · rename_i argument found
        have first := (own argument (List.mem_of_getElem? found)).written Operand.baseName
        rw [← bind_assoc]
        exact (first start).bind fun written =>
          (inductionHypothesis.following _).bind fun others => .pure (by simp)

/-- A comparison with a constant names what its operand binds, and then the constant
unless it is NULL. -/
theorem accounts_comparedWith (sign : Sql.Comparison) (operand : Operand) (value : Value) :
    Accounts start operand.names Condition.names (comparedWith sign operand value) := by
  unfold comparedWith
  refine (accounts_rendered [] operand.baseName operand).bind fun written => ?_
  split
  · split
    · exact .pure (by simp [Condition.names])
    · exact .pure (by simp [Condition.names])
    all_goals exact .throw _
  · have parameter := accounted_bound operand.baseName value
    exact (parameter.following written.paramNames).bind fun parameter =>
      .pure (by simp [Condition.names])

/-- A comparison names what its operands bind, the left one first. A constant on the left
has not bound anything when it changes sides. -/
theorem accounts_compared (sign : Sql.Comparison) (left right : Operand) :
    Accounts start (left.names ++ right.names) Condition.names (compared sign left right) := by
  cases left with
  | constant a =>
    cases right with
    | constant b =>
      simp only [compared]
      split
      · exact .pure rfl
      · exact .throw _
    | column right => exact accounts_comparedWith sign.flipped (.column right) a
    | raw right => exact accounts_comparedWith sign.flipped (.raw right) a
  | column left =>
    cases right with
    | constant b => exact accounts_comparedWith sign (.column left) b
    | column right => exact Accounts.pure rfl
    | raw right => exact Accounts.pure (by simp [Operand.names, Condition.names])
  | raw left =>
    cases right with
    | constant b =>
      intro params begun
      rw [Operand.names, Operand.names, List.append_nil] at begun
      exact accounts_comparedWith sign (.raw left) b params begun
    | column right => exact Accounts.pure (by simp [Operand.names, Condition.names])
    | raw right => exact Accounts.pure (by simp [Operand.names, Condition.names])

/-- A conjunction of two sides that may hold names what both name. -/
theorem names_conjoined {left right : Condition} (leftMay : left ≠ .literal false)
    (rightMay : right ≠ .literal false) :
    (left.conjoined right).names = left.names ++ right.names := by
  rcases left with (_ | _) | ⟨first, groupFirst⟩
  · exact absurd rfl leftMay
  · simp [Condition.names]
  · rcases right with (_ | _) | ⟨second, groupSecond⟩
    · exact absurd rfl rightMay
    · simp [Condition.names]
    · simp [Condition.conjoined, Condition.names]

/-- A disjunction of two sides that may fail to hold names what both name. -/
theorem names_disjoined {left right : Condition} (leftMay : left ≠ .literal true)
    (rightMay : right ≠ .literal true) :
    (left.disjoined right).names = left.names ++ right.names := by
  rcases left with (_ | _) | ⟨first, groupFirst⟩
  · simp [Condition.names]
  · exact absurd rfl leftMay
  · rcases right with (_ | _) | ⟨second, groupSecond⟩
    · simp [Condition.names]
    · exact absurd rfl rightMay
    · simp [Condition.disjoined, Condition.names]

/-- A conjunction accounts for its sides. Where the right side makes it fold, what both
have bound is gone. -/
theorem accounted_conjunction {left right : Compiling Condition}
    (first : Accounted Condition.names left) (second : Accounted Condition.names right) :
    Accounted Condition.names (conjunction left right) := by
  intro start params begun
  obtain rfl := begun.eq_of_nil
  rw [outcome_conjunction]
  have afterLeft := first params params (.refl params)
  generalize outcome left params = ended at afterLeft ⊢
  rcases ended with ⟨error | ⟨_ | _⟩ | ⟨fragment, grouped⟩, later⟩
  case error => exact afterLeft
  case ok.literal.false => exact afterLeft
  all_goals
    dsimp only
    have afterRight := second later later (.refl later)
    generalize outcome right later = ended at afterRight ⊢
    rcases ended with ⟨error | ⟨_ | _⟩ | ⟨other, group⟩, last⟩
    case error => exact afterLeft.kept.trans afterRight
    case ok.literal.false =>
      show params.Binds (last.truncate params.size) []
      rw [(afterLeft.trans afterRight).truncate]
      exact .refl params
    all_goals
      refine (afterLeft.trans afterRight).congr ?_
      rw [names_conjoined (by simp) (by simp)]

/-- A disjunction accounts for its sides likewise. -/
theorem accounted_disjunction {left right : Compiling Condition}
    (first : Accounted Condition.names left) (second : Accounted Condition.names right) :
    Accounted Condition.names (disjunction left right) := by
  intro start params begun
  obtain rfl := begun.eq_of_nil
  rw [outcome_disjunction]
  have afterLeft := first params params (.refl params)
  generalize outcome left params = ended at afterLeft ⊢
  rcases ended with ⟨error | ⟨_ | _⟩ | ⟨fragment, grouped⟩, later⟩
  case error => exact afterLeft
  case ok.literal.true => exact afterLeft
  all_goals
    dsimp only
    have afterRight := second later later (.refl later)
    generalize outcome right later = ended at afterRight ⊢
    rcases ended with ⟨error | ⟨_ | _⟩ | ⟨other, group⟩, last⟩
    case error => exact afterLeft.kept.trans afterRight
    case ok.literal.true =>
      show params.Binds (last.truncate params.size) []
      rw [(afterLeft.trans afterRight).truncate]
      exact .refl params
    all_goals
      refine (afterLeft.trans afterRight).congr ?_
      rw [names_disjoined (by simp) (by simp)]

/-- Names repeated from the front of a list are not first appearances. -/
theorem eraseDups_append_repeated {names repeated rest : List String}
    (within : ∀ name ∈ repeated, name ∈ names) :
    (names ++ (repeated ++ rest)).eraseDups = (names ++ rest).eraseDups := by
  have skipped : repeated.removeAll names = [] := by
    simpa [List.removeAll, List.filter_eq_nil_iff] using within
  have dropped : (repeated ++ rest).removeAll names = rest.removeAll names := by
    rw [List.removeAll, List.filter_append, ← List.removeAll, skipped, List.nil_append,
      List.removeAll]
  rw [List.eraseDups_append, List.eraseDups_append, dropped]

/-- A condition that is settled has to name all that has been bound, unless it has folded
and the bindings are dropped. -/
def Covers (bound : List String) : Condition → Prop
  | .literal _ => True
  | .sql fragment _ => bound.eraseDups = fragment.paramNames.eraseDups

/-- A conditional that has not folded names its test and then its branches. The test is
written twice, but the second time all its names have appeared. -/
theorem covers_remaining (fragment : Fragment) (grouped : Bool) (whenTrue whenFalse : Condition) :
    Covers (fragment.paramNames ++ whenTrue.names ++ whenFalse.names)
      (remaining (.sql fragment grouped) whenTrue whenFalse) := by
  have atOnce (rest : List String) :
      (fragment.paramNames ++ (fragment.paramNames ++ rest)).eraseDups =
        (fragment.paramNames ++ rest).eraseDups :=
    eraseDups_append_repeated fun _ member => member
  have afterwards (between rest : List String) :
      (fragment.paramNames ++ (between ++ (fragment.paramNames ++ rest))).eraseDups =
        (fragment.paramNames ++ (between ++ rest)).eraseDups := by
    have dropped : (fragment.paramNames ++ between ++ (fragment.paramNames ++ rest)).eraseDups =
        (fragment.paramNames ++ between ++ rest).eraseDups :=
      eraseDups_append_repeated fun _ member => List.mem_append_left _ member
    simpa only [List.append_assoc] using dropped
  have atEnd (between : List String) :
      (fragment.paramNames ++ (between ++ fragment.paramNames)).eraseDups =
        (fragment.paramNames ++ between).eraseDups := by
    simpa using afterwards between []
  rcases whenTrue with (_ | _) | ⟨first, groupFirst⟩ <;>
    rcases whenFalse with (_ | _) | ⟨second, groupSecond⟩ <;>
    simp [Covers, remaining, Condition.chosen, Condition.negated, Condition.names,
      Condition.conjoined, atOnce, afterwards, atEnd]

/-- Settling to the size of the start keeps the bindings of a condition that remains and
drops those of one that has folded. -/
theorem accounts_settled {bound : List String} {condition : Condition}
    (covered : Covers bound condition) :
    Accounts start bound Condition.names (settled start.size condition) := by
  intro params begun
  rw [outcome_settled]
  cases condition with
  | literal b =>
    show start.Binds (params.truncate start.size) []
    rw [begun.truncate]
    exact .refl start
  | sql fragment grouped => exact begun.congr covered

/-- A conditional accounts for its three parts. A test that folds has bound nothing. -/
theorem accounted_conditional {test ifTrue ifFalse : Compiling Condition}
    (first : Accounted Condition.names test) (second : Accounted Condition.names ifTrue)
    (third : Accounted Condition.names ifFalse) :
    Accounted Condition.names (conditional test ifTrue ifFalse) := by
  have branch {step : Compiling Condition} (own : Accounted Condition.names step)
      (start : ParamSet) :
      Accounts start [] Condition.names (step >>= settled start.size) :=
    (own start).bind fun condition => accounts_settled (by cases condition <;> trivial)
  intro start params begun
  obtain rfl := begun.eq_of_nil
  rw [outcome_conditional]
  have afterTest := first params params (.refl params)
  generalize outcome test params = ended at afterTest ⊢
  rcases ended with ⟨error | ⟨_ | _⟩ | ⟨fragment, grouped⟩, later⟩
  case error => exact afterTest
  case ok.literal.true => exact branch second params later afterTest
  case ok.literal.false => exact branch third params later afterTest
  case ok.sql =>
    have parts : Accounts params fragment.paramNames Condition.names (do
        let whenTrue ← ifTrue
        let whenFalse ← ifFalse
        settled params.size (remaining (.sql fragment grouped) whenTrue whenFalse)) :=
      (second.following _).bind fun whenTrue => (third.following _).bind fun whenFalse =>
        accounts_settled (covers_remaining fragment grouped whenTrue whenFalse)
    exact parts later afterTest

mutual

/-- Every operand accounts for its bindings. Only the arguments of raw text have any. -/
theorem accounted_operand (table : Table) : ∀ expr, Accounted Operand.names (operand table expr)
  | .field name => fun _ => (accounts_column table name).bind fun column => .pure rfl
  | .const value => fun _ => .pure rfl
  | .splice template arguments => fun start =>
    (accounted_spliced (accounted_operands table arguments) _ start).bind fun fragment =>
      .pure (by simp [Operand.names])
  | .like _ _ => fun _ => .throw _
  | .between _ _ _ => fun _ => .throw _
  | .within _ _ => fun _ => .throw _
  | .not _ => fun _ => .throw _
  | .binary _ _ _ => fun _ => .throw _
  | .conditional _ _ _ => fun _ => .throw _

/-- Each of several operands accounts for its bindings. -/
theorem accounted_operands (table : Table) :
    ∀ exprs, ∀ step ∈ operands table exprs, Accounted Operand.names step
  | [], _, member => nomatch member
  | first :: rest, step, member => by
    rcases List.mem_cons.mp member with rfl | member
    · exact accounted_operand table first
    · exact accounted_operands table rest step member

end

/-- Every condition accounts for its bindings. The recursion follows the tree; what the
connectives may drop again is their own matter. -/
theorem accounted_condition (dialect : Dialect) (table : Table) :
    ∀ expr, Accounted Condition.names (condition dialect table expr)
  | .const value => fun _ => by
    cases value with
    | bool b => exact .pure rfl
    | _ => exact .throw _
  | .field name => fun _ =>
    (accounts_column table name).bind fun column => .pure (by simp [Condition.names])
  | .not inner => fun start =>
    (accounted_condition dialect table inner start).bind fun condition =>
      .pure (by cases condition <;> simp [Condition.negated, Condition.names])
  | .binary .and left right =>
    accounted_conjunction (accounted_condition dialect table left)
      (accounted_condition dialect table right)
  | .binary .or left right =>
    accounted_disjunction (accounted_condition dialect table left)
      (accounted_condition dialect table right)
  | .binary (.comparison sign) left right => fun start =>
    (accounted_operand table left start).bind fun first =>
      ((accounted_operand table right).following first.names).bind fun second =>
        accounts_compared sign first second
  | .conditional test ifTrue ifFalse =>
    accounted_conditional (accounted_condition dialect table test)
      (accounted_condition dialect table ifTrue) (accounted_condition dialect table ifFalse)
  | .like subject pattern => fun start => by
    unfold condition
    refine (accounts_target table .like subject).bind fun column => ?_
    have written := (accounted_operand table pattern).written fun _ => column.property
    rw [← bind_assoc]
    exact (written start).bind fun pattern => .pure (by simp [Condition.names])
  | .between subject low high => fun start => by
    unfold condition
    refine (accounts_target table .between subject).bind fun column => ?_
    have first := (accounted_operand table low).written fun _ => column.property
    have second := (accounted_operand table high).written fun _ => column.property
    rw [← bind_assoc]
    refine (first start).bind fun low => ?_
    rw [← bind_assoc]
    exact (second.following _).bind fun high => .pure (by simp [Condition.names])
  | .within subject items => fun start => by
    unfold condition
    refine (accounts_target table .within subject).bind fun column => ?_
    split
    · exact .pure rfl
    · have written := accounted_renderedEach column.property (accounted_operands table items)
      exact (written start).bind fun items => .pure (by simp [Condition.names])
  | .splice template arguments => fun start =>
    (accounted_spliced (accounted_operands table arguments) _ start).bind fun fragment =>
      .pure rfl

end Compiling

open Compiling in
/-- A predicate keeps the bindings there are. If it folds it leaves the set as it was. If
it does not, then the set has got exactly the parameters that its fragment names. -/
theorem compile_binds (dialect : Dialect) (table : Table) (expr : Expr) (params : ParamSet) :
    match compile dialect table expr params with
    | (.ok (.literal _), later) => later = params
    | (.ok (.sql fragment), later) => params.Binds later fragment.paramNames
    | (.error _, later) => params.entries <+: later.entries := by
  have accounted := accounted_condition dialect table expr params params (.refl params)
  rw [compile_eq_outcome, outcome_bind]
  generalize outcome (condition dialect table expr) params = ended at accounted ⊢
  rcases ended with ⟨error | ⟨b⟩ | ⟨fragment, grouped⟩, later⟩
  · exact accounted
  · exact accounted.eq_of_nil
  · exact accounted

/-- Compiling is in step with the text. The former bindings stay in front, on failure
too. A predicate that folds leaves the set as it was, its index included. Otherwise the
names bound since are the distinct parameters of the text in order of first appearance:
none of them was bound before, each is bound now, and nothing is bound that the text does
not name. -/
theorem compile_accounts_for_parameters (dialect : Dialect) (table : Table) (expr : Expr)
    (params : ParamSet) :
    match compile dialect table expr params with
    | (.error _, later) => params.entries <+: later.entries
    | (.ok (.literal _), later) => later = params
    | (.ok (.sql fragment), later) =>
      params.entries <+: later.entries ∧
        later.names = params.names ++ fragment.paramNames.eraseDups ∧
        (∀ name ∈ fragment.paramNames,
          later.contains name = true ∧ params.contains name = false) ∧
        ∀ name ∈ later.names, params.contains name = false → name ∈ fragment.paramNames := by
  have bound := compile_binds dialect table expr params
  generalize compile dialect table expr params = ended at bound ⊢
  rcases ended with ⟨error | ⟨b⟩ | fragment, later⟩
  case error => exact bound
  case ok.literal => exact bound
  case ok.sql =>
    have bound : params.Binds later fragment.paramNames := bound
    refine ⟨bound.kept, bound.added, ?_, ?_⟩
    · intro name named
      refine ⟨(later.contains_iff name).mpr (bound.mem_later named), ?_⟩
      rw [← Bool.not_eq_true, params.contains_iff]
      exact bound.not_mem_earlier named
    · intro name present new
      rw [← Bool.not_eq_true, params.contains_iff] at new
      exact bound.listed_of_new present new

end Sqlwright
