import Sqlwright.Proofs.Predicate.Outcome

/-!
# Fields that a predicate names

A field may be unknown to the table. Compiling reports this only of a field that the predicate
names and that the table has no column for, by property or by name, and it reports it with the name
of the table. So a predicate whose fields are all known never fails in this way, whatever else may
be wrong with it.

Each step of compiling fails for such a reason only. This does not depend on the parameters, nor on
which of the parts of a predicate are looked at.
-/

namespace Sqlwright

mutual

/-- The fields that a predicate names, in its operands too. -/
def Expr.fields : Expr → List String
  | .field name => [name]
  | .const _ => []
  | .not operand => operand.fields
  | .binary _ left right => left.fields ++ right.fields
  | .conditional test ifTrue ifFalse => test.fields ++ ifTrue.fields ++ ifFalse.fields
  | .like target pattern => target.fields ++ pattern.fields
  | .between target low high => target.fields ++ low.fields ++ high.fields
  | .within target items => target.fields ++ Expr.allFields items
  | .splice _ arguments => Expr.allFields arguments

/-- The fields that several operands name. -/
def Expr.allFields : List Expr → List String
  | [] => []
  | first :: rest => first.fields ++ Expr.allFields rest

end

/-- Why compiling may fail, given the fields that are named: one of them is unknown, or there is
another reason. -/
inductive Reason (table : Table) (fields : List String) : PredicateError → Prop
  | unknown {field : String} (named : field ∈ fields) (missing : table.column? field = none) :
    Reason table fields (.unknownField table.name field)
  | other {error : PredicateError} (apart : ∀ name field, error ≠ .unknownField name field) :
    Reason table fields error

/-- Naming more fields allows for more reasons. -/
theorem Reason.mono {table : Table} {fields others : List String} {error : PredicateError}
    (reason : Reason table fields error) (more : fields ⊆ others) : Reason table others error := by
  cases reason with
  | unknown named missing => exact .unknown (more named) missing
  | other apart => exact .other apart

namespace Compiling

variable {α β : Type} {table : Table} {fields : List String}

/-- A step fails for a reason only that the fields allow. -/
def Fails (table : Table) (fields : List String) (step : Compiling α) : Prop :=
  ∀ params error later, outcome step params = (.error error, later) → Reason table fields error

namespace Fails

theorem pure (result : α) : Fails table fields (Pure.pure result) := by
  intro params error later failed
  cases failed

theorem throw {error : PredicateError} (reason : Reason table fields error) :
    Fails table fields (throwThe PredicateError error : Compiling α) := by
  intro params other later failed
  cases failed
  exact reason

theorem bind {step : Compiling α} {next : α → Compiling β} (first : Fails table fields step)
    (rest : ∀ result, Fails table fields (next result)) :
    Fails table fields (step >>= next) := by
  intro params error later failed
  rw [outcome_bind] at failed
  rcases begun : outcome step params with ⟨refusal | result, middle⟩
  · rw [begun] at failed
    cases failed
    exact first params error later begun
  · rw [begun] at failed
    exact rest result middle error later failed

end Fails

theorem fails_bound (base : String) (value : Value) : Fails table fields (bound base value) := by
  intro params error later failed
  cases failed

theorem fails_mark : Fails table fields mark := by
  intro params error later failed
  cases failed

theorem fails_rewind (count : Nat) : Fails table fields (rewind count) := by
  intro params error later failed
  cases failed

theorem fails_settled (count : Nat) (condition : Condition) :
    Fails table fields (settled count condition) := by
  cases condition with
  | literal b => exact (fails_rewind count).bind fun _ => .pure _
  | sql fragment disjunction => exact .pure _

/-- A look-up fails for a field without a column. -/
theorem fails_column {field : String} (named : field ∈ fields) :
    Fails table fields (column table field) := by
  unfold column
  split
  · exact .pure _
  · rename_i missing
    exact .throw (.unknown named missing)

theorem fails_target (marker : Marker) {expr : Expr} (named : expr.fields ⊆ fields) :
    Fails table fields (target table marker expr) := by
  unfold target
  split
  · exact fails_column (named (.head _))
  · exact .throw (.other nofun)

theorem fails_rendered (base : String) (operand : Operand) :
    Fails table fields (rendered base operand) := by
  cases operand with
  | column column => exact .pure _
  | raw fragment => exact .pure _
  | constant value => exact fails_bound base value

theorem fails_renderedEach (base : String) {steps : List (Compiling Operand)}
    (each : ∀ step ∈ steps, Fails table fields step) :
    Fails table fields (renderedEach base steps) := by
  induction steps with
  | nil => exact .pure _
  | cons step rest inductionHypothesis =>
    exact (each step (.head _)).bind fun operand => (fails_rendered base operand).bind fun _ =>
      (inductionHypothesis fun other member => each other (.tail _ member)).bind fun _ => .pure _

theorem fails_spliced {arguments : List (Compiling Operand)}
    (each : ∀ step ∈ arguments, Fails table fields step) (segments : List Segment) :
    Fails table fields (spliced arguments segments) := by
  induction segments with
  | nil => exact .pure _
  | cons segment rest inductionHypothesis =>
    cases segment with
    | text text => exact inductionHypothesis.bind fun _ => .pure _
    | argument index =>
      unfold spliced
      split
      · exact .throw (.other nofun)
      · rename_i argument found
        exact (each argument (List.mem_of_getElem? found)).bind fun operand =>
          (fails_rendered operand.baseName operand).bind fun _ =>
            inductionHypothesis.bind fun _ => .pure _

theorem fails_comparedWith (sign : Sql.Comparison) (operand : Operand) (value : Value) :
    Fails table fields (comparedWith sign operand value) := by
  refine (fails_rendered operand.baseName operand).bind fun _ => ?_
  split
  · split
    · exact .pure _
    · exact .pure _
    all_goals exact .throw (.other nofun)
  · exact (fails_bound operand.baseName value).bind fun _ => .pure _

/-- Constants that cannot be compared are no unknown fields. -/
theorem reason_folded {sign : Sql.Comparison} {left right : Value} {error : PredicateError}
    (failed : folded sign left right = .error error) : Reason table fields error := by
  refine .other fun name field same => ?_
  subst same
  unfold folded at failed
  split at failed
  · cases sign <;> cases failed
  · split at failed <;> cases failed

theorem fails_compared (sign : Sql.Comparison) (left right : Operand) :
    Fails table fields (compared sign left right) := by
  unfold compared
  split
  · split
    · exact .pure _
    · rename_i failed
      exact .throw (reason_folded failed)
  · exact fails_comparedWith _ _ _
  · exact fails_comparedWith _ _ _
  · exact (fails_rendered "p" _).bind fun _ => (fails_rendered "p" _).bind fun _ => .pure _

theorem fails_conjunction {left right : Compiling Condition} (first : Fails table fields left)
    (second : Fails table fields right) : Fails table fields (conjunction left right) := by
  refine fails_mark.bind fun mark => first.bind fun left => ?_
  split
  · exact .pure _
  · refine second.bind fun right => ?_
    split
    · exact (fails_rewind mark).bind fun _ => .pure _
    · exact .pure _

theorem fails_disjunction {left right : Compiling Condition} (first : Fails table fields left)
    (second : Fails table fields right) : Fails table fields (disjunction left right) := by
  refine fails_mark.bind fun mark => first.bind fun left => ?_
  split
  · exact .pure _
  · refine second.bind fun right => ?_
    split
    · exact (fails_rewind mark).bind fun _ => .pure _
    · exact .pure _

theorem fails_conditional {test ifTrue ifFalse : Compiling Condition}
    (first : Fails table fields test) (second : Fails table fields ifTrue)
    (third : Fails table fields ifFalse) :
    Fails table fields (conditional test ifTrue ifFalse) := by
  refine fails_mark.bind fun mark => first.bind fun tested => ?_
  split
  · exact second.bind fun _ => fails_settled mark _
  · exact third.bind fun _ => fails_settled mark _
  · refine second.bind fun whenTrue => third.bind fun whenFalse => ?_
    split
    · split
      · exact fails_settled mark _
      · exact fails_settled mark _
    · exact fails_settled mark _

mutual

/-- Operands fail for unknown fields among their own. -/
theorem fails_operand (table : Table) : ∀ expr : Expr, expr.fields ⊆ fields →
    Fails table fields (operand table expr)
  | .field _, named => (fails_column (named (.head _))).bind fun _ => .pure _
  | .const _, _ => .pure _
  | .splice _ arguments, named =>
    (fails_spliced (fails_operands table arguments named) _).bind fun _ => .pure _
  | .like _ _, _ => .throw (.other nofun)
  | .between _ _ _, _ => .throw (.other nofun)
  | .within _ _, _ => .throw (.other nofun)
  | .not _, _ => .throw (.other nofun)
  | .binary _ _ _, _ => .throw (.other nofun)
  | .conditional _ _ _, _ => .throw (.other nofun)

theorem fails_operands (table : Table) : ∀ exprs : List Expr, Expr.allFields exprs ⊆ fields →
    ∀ step ∈ operands table exprs, Fails table fields step
  | [], _, _, member => nomatch member
  | first :: rest, named, step, member => by
    obtain ⟨own, others⟩ := List.append_subset.mp named
    rcases List.mem_cons.mp member with rfl | member
    · exact fails_operand table first own
    · exact fails_operands table rest others step member

end

/-- Conditions fail for unknown fields among their own. The recursion follows the tree. -/
theorem fails_condition (dialect : Dialect) (table : Table) : ∀ expr : Expr,
    expr.fields ⊆ fields → Fails table fields (condition dialect table expr)
  | .const value, _ => by
    cases value with
    | bool b => exact .pure _
    | _ => exact .throw (.other nofun)
  | .field _, named => (fails_column (named (.head _))).bind fun _ => .pure _
  | .not inner, named => (fails_condition dialect table inner named).bind fun _ => .pure _
  | .binary .and left right, named =>
    have ⟨first, second⟩ := List.append_subset.mp named
    fails_conjunction (fails_condition dialect table left first)
      (fails_condition dialect table right second)
  | .binary .or left right, named =>
    have ⟨first, second⟩ := List.append_subset.mp named
    fails_disjunction (fails_condition dialect table left first)
      (fails_condition dialect table right second)
  | .binary (.comparison sign) left right, named =>
    have ⟨first, second⟩ := List.append_subset.mp named
    (fails_operand table left first).bind fun _ => (fails_operand table right second).bind
      fun _ => fails_compared sign _ _
  | .conditional test ifTrue ifFalse, named =>
    have ⟨both, third⟩ := List.append_subset.mp named
    have ⟨first, second⟩ := List.append_subset.mp both
    fails_conditional (fails_condition dialect table test first)
      (fails_condition dialect table ifTrue second) (fails_condition dialect table ifFalse third)
  | .like _ pattern, named =>
    have ⟨first, second⟩ := List.append_subset.mp named
    (fails_target .like first).bind fun column => (fails_operand table pattern second).bind
      fun operand => (fails_rendered column.property operand).bind fun _ => .pure _
  | .between _ low high, named =>
    have ⟨both, third⟩ := List.append_subset.mp named
    have ⟨first, second⟩ := List.append_subset.mp both
    (fails_target .between first).bind fun column => (fails_operand table low second).bind
      fun operand => (fails_rendered column.property operand).bind fun _ =>
        (fails_operand table high third).bind fun operand =>
          (fails_rendered column.property operand).bind fun _ => .pure _
  | .within _ items, named => by
    obtain ⟨first, second⟩ := List.append_subset.mp named
    unfold condition
    refine (fails_target .within first).bind fun column => ?_
    split
    · exact .pure _
    · exact (fails_renderedEach column.property (fails_operands table items second)).bind
        fun _ => .pure _
  | .splice _ arguments, named =>
    (fails_spliced (fails_operands table arguments named) _).bind fun _ => .pure _

end Compiling

open Compiling in
/-- A predicate is refused for an unknown field only if it names that field and the table has no
column for it. -/
theorem reason_of_compile {dialect : Dialect} {table : Table} {expr : Expr}
    {params later : ParamSet} {error : PredicateError}
    (failed : compile dialect table expr params = (.error error, later)) :
    Reason table expr.fields error := by
  rw [compile_eq_outcome] at failed
  exact (fails_condition dialect table expr (List.Subset.refl _)).bind (fun _ => .pure _)
    params error later failed

end Sqlwright
