import Sqlwright.Proofs.Predicate.Accounting
import Sqlwright.Proofs.Predicate.Denotation
import Sqlwright.Proofs.Predicate.Folding

/-!
# Compiling preserves meaning

What a compiled predicate is read as has the truth of the predicate in every row.

A step of compiling is sound if its result, wherever the step is begun, means what is
expected of it. Later steps only add bindings, so that a part means the same at the end; a
connective that drops bindings has folded and refers to none.
-/

namespace Sqlwright

open Sql (Fragment Interpretation Term Truth)
open Sql.Reader (Reads ReadsTerm ReadsPieces)

namespace Compiling

variable {dialect : Dialect} {table : Table} {params later : ParamSet}

/-- The value of a tree in a reading. -/
def valueOf (table : Table) (expr : Expr) (reading : Interpretation) : Value :=
  expr.value reading.engine table reading.row

/-- The truth of a tree in a reading. -/
def truthOf (table : Table) (expr : Expr) (reading : Interpretation) : Truth :=
  expr.truth reading.engine table reading.row

/-- If an operand's step succeeds, its result has the given value. -/
def Evaluates (dialect : Dialect) (step : Compiling Operand)
    (denotes : Interpretation → Value) : Prop :=
  ∀ params found later, outcome step params = (.ok found, later) →
    found.Means dialect later denotes

/-- If a condition's step succeeds, its result has the given truth. -/
def Sound (dialect : Dialect) (step : Compiling Condition)
    (denotes : Interpretation → Truth) : Prop :=
  ∀ params compiled later, outcome step params = (.ok compiled, later) →
    compiled.Means dialect later denotes

/-- What accounts for its bindings keeps those there are. -/
theorem Accounted.kept {α : Type} {names : α → List String} {step : Compiling α} {result : α}
    (own : Accounted names step) (succeeded : outcome step params = (.ok result, later)) :
    params.entries <+: later.entries := by
  have reached := own params params (.refl params)
  rw [succeeded] at reached
  exact reached.kept

/-- An operand that is written out has the value that it had. A constant is looked up by
the name it has just been bound under. -/
theorem writes_rendered {base : String} {operand : Operand} {denotes : Interpretation → Value}
    {written : Fragment} (means : operand.Means dialect params denotes)
    (succeeded : outcome (rendered base operand) params = (.ok written, later)) :
    Writes dialect later written denotes := by
  cases operand with
  | column found =>
    cases succeeded
    exact ⟨_, Sql.Reader.readsTerm_ident found.name, fun reading _ => (means reading).symm⟩
  | raw fragment =>
    cases succeeded
    exact means
  | constant value =>
    cases succeeded
    refine ⟨_, Sql.Reader.readsTerm_param _, fun reading knows => ?_⟩
    rw [means reading]
    exact knows _ _ (params.get?_add base value)

/-- The bindings are kept when an operand is written out. -/
theorem kept_rendered {base : String} {operand : Operand} {written : Fragment}
    (succeeded : outcome (rendered base operand) params = (.ok written, later)) :
    params.entries <+: later.entries := by
  cases operand with
  | column found =>
    cases succeeded
    exact List.prefix_refl _
  | raw fragment =>
    cases succeeded
    exact List.prefix_refl _
  | constant value =>
    cases succeeded
    exact (params.binds_add base value).kept

/-- With a constant on the right, equality with NULL is the test for it. -/
theorem comparison_constant (engine : Sql.Engine) (sign : Sql.Comparison) (a value : Value) :
    comparison engine sign none (some value) a value =
      if value.isNull then againstNull sign a else engine.compare sign a value := by
  cases value <;> rfl

/-- A constant on the left can change sides. -/
theorem comparison_flipped (engine : Sql.Engine) (sign : Sql.Comparison) (value b : Value) :
    comparison engine sign (some value) none value b =
      comparison engine sign.flipped none (some value) b value := by
  rw [comparison_constant, engine.compare_flipped]
  cases value with
  | null => cases sign <;> rfl
  | _ => rfl

/-- A comparison with a constant. -/
theorem means_comparedWith {sign : Sql.Comparison} {operand : Operand} {value : Value}
    {denotes : Interpretation → Value} {compiled : Condition}
    (means : operand.Means dialect params denotes)
    (succeeded : outcome (comparedWith sign operand value) params = (.ok compiled, later)) :
    compiled.Means dialect later fun reading =>
      comparison reading.engine sign none (some value) (denotes reading) value := by
  obtain ⟨written, middle, begun, ended⟩ := outcome_bind_ok succeeded
  obtain ⟨term, reads, same⟩ := writes_rendered means begun
  by_cases null : value.isNull = true
  · rw [if_pos null] at ended
    cases sign with
    | eq =>
      cases ended
      refine ⟨_, Sql.Reader.reads_isNull reads, fun reading knows => ?_⟩
      dsimp only
      rw [comparison_constant, if_pos null, Interpretation.truth, same reading knows]
      rfl
    | ne =>
      cases ended
      refine ⟨_, Sql.Reader.reads_isNotNull reads, fun reading knows => ?_⟩
      dsimp only
      rw [comparison_constant, if_pos null, Interpretation.truth, Interpretation.truth,
        same reading knows, Truth.not_ofBool]
      rfl
    | _ => cases ended
  · rw [if_neg null] at ended
    obtain ⟨parameter, last, bound, ended⟩ := outcome_bind_ok ended
    cases bound
    cases ended
    have named : ReadsTerm dialect (Fragment.param (middle.add operand.baseName value).1) _ :=
      Sql.Reader.readsTerm_param _
    refine ⟨_, Sql.Reader.reads_compare sign reads named, fun reading knows => ?_⟩
    have found : reading.parameters (middle.add operand.baseName value).1 = value :=
      knows _ _ (middle.get?_add operand.baseName value)
    have earlier := knows.earlier (middle.binds_add operand.baseName value).kept
    dsimp only
    rw [comparison_constant, if_neg null, Interpretation.truth, same reading earlier,
      Interpretation.value, found]

/-- Two operands that are both written out. -/
theorem means_sides {sign : Sql.Comparison} {left right : Operand}
    {first second : Interpretation → Value} {compiled : Condition}
    (before : left.Means dialect params first) (after : right.Means dialect params second)
    (succeeded : outcome (do
      let left ← rendered "p" left
      let right ← rendered "p" right
      return Condition.sql (left ++ Fragment.comparison sign ++ right) false) params =
        (.ok compiled, later)) :
    compiled.Means dialect later fun reading =>
      reading.engine.compare sign (first reading) (second reading) := by
  obtain ⟨fragment, middle, begun, followed⟩ := outcome_bind_ok succeeded
  obtain ⟨other, last, next, ended⟩ := outcome_bind_ok followed
  cases ended
  obtain ⟨term, reads, same⟩ := (writes_rendered before begun).extended (kept_rendered next)
  obtain ⟨termOther, readsOther, sameOther⟩ :=
    writes_rendered (after.extended (kept_rendered begun)) next
  refine ⟨_, Sql.Reader.reads_compare sign reads readsOther, fun reading knows => ?_⟩
  rw [Interpretation.truth, same reading knows, sameOther reading knows]

/-- A comparison of two operands. -/
theorem means_compared {sign : Sql.Comparison} {left right : Operand}
    {first second : Interpretation → Value} {compiled : Condition}
    (before : left.Means dialect params first) (after : right.Means dialect params second)
    (succeeded : outcome (compared sign left right) params = (.ok compiled, later)) :
    compiled.Means dialect later fun reading =>
      comparison reading.engine sign left.const? right.const? (first reading)
        (second reading) := by
  cases left with
  | constant a =>
    cases right with
    | constant b =>
      simp only [compared] at succeeded
      cases decided : folded sign a b with
      | error error =>
        rw [decided] at succeeded
        cases succeeded
      | ok holds =>
        rw [decided] at succeeded
        cases succeeded
        intro reading
        simp only [Operand.const?, comparison, decided]
    | column right | raw right =>
      refine (means_comparedWith after succeeded).congr fun reading => ?_
      rw [before reading]
      exact comparison_flipped _ _ _ _
  | column left | raw left =>
    cases right with
    | constant b =>
      refine (means_comparedWith before succeeded).congr fun reading => ?_
      rw [after reading]
      rfl
    | column right | raw right => exact means_sides before after succeeded

variable {left right test ifTrue ifFalse : Compiling Condition}
  {first second third : Interpretation → Truth} {decision decisionOther : Option Bool}

/-- What is dropped when a condition is settled, it does not refer to. -/
theorem means_settled {condition : Condition} {denotes : Interpretation → Truth}
    (means : condition.Means dialect params denotes) (settled : Settled params later condition) :
    condition.Means dialect later denotes := by
  cases condition with
  | literal b => exact means
  | sql fragment disjunction =>
    rw [settled]
    exact means

/-- A conjunction. A right side that is not looked at cannot matter. -/
theorem sound_conjunction (before : Sound dialect left first) (after : Sound dialect right second)
    (accounted : Accounted Condition.names right) :
    Sound dialect (conjunction left right) fun reading =>
      (first reading).and (second reading) := by
  intro params compiled later succeeded
  rcases outcome_conjunction_ok succeeded with
    ⟨rfl, begun⟩ | ⟨leftCompiled, middle, rightCompiled, last, begun, next, rfl, settled⟩
  · exact Condition.means_false_and (before _ _ _ begun)
  · have meansLeft := (before _ _ _ begun).extended (accounted.kept next)
    exact means_settled (Condition.means_conjoined meansLeft (after _ _ _ next)) settled

/-- A disjunction likewise. -/
theorem sound_disjunction (before : Sound dialect left first) (after : Sound dialect right second)
    (accounted : Accounted Condition.names right) :
    Sound dialect (disjunction left right) fun reading =>
      (first reading).or (second reading) := by
  intro params compiled later succeeded
  rcases outcome_disjunction_ok succeeded with
    ⟨rfl, begun⟩ | ⟨leftCompiled, middle, rightCompiled, last, begun, next, rfl, settled⟩
  · exact Condition.means_true_or (before _ _ _ begun)
  · have meansLeft := (before _ _ _ begun).extended (accounted.kept next)
    exact means_settled (Condition.means_disjoined meansLeft (after _ _ _ next)) settled

/-- A conditional whose test has not folded. -/
theorem means_remaining {fragment : Fragment} {grouped : Bool} {whenTrue whenFalse : Condition}
    (tested : (Condition.sql fragment grouped).Means dialect params first)
    (branch : whenTrue.Means dialect params second)
    (other : whenFalse.Means dialect params third) :
    (remaining (.sql fragment grouped) whenTrue whenFalse).Means dialect params fun reading =>
      conditionalTruth (decidedAlike whenTrue.decided? whenFalse.decided?) (first reading)
        (second reading) (third reading) := by
  have written := Condition.means_chosen tested branch other
  cases whenTrue with
  | sql => exact written
  | literal a =>
    cases whenFalse with
    | sql => exact written
    | literal b =>
      by_cases same : a = b
      · simp only [remaining, decidedAlike, Condition.decided?, same, ↓reduceIte]
        exact fun reading => rfl
      · simp only [remaining, decidedAlike, Condition.decided?, same, ↓reduceIte]
        exact written

/-- A conditional. A test that folds leaves one branch, and the other cannot matter: it
could only be decided alike. -/
theorem sound_conditional (tested : Sound dialect test first) (branch : Sound dialect ifTrue second)
    (other : Sound dialect ifFalse third) (accounted : Accounted Condition.names ifTrue)
    (accountedOther : Accounted Condition.names ifFalse) (folds : Folds ifTrue decision)
    (foldsOther : Folds ifFalse decisionOther)
    (decides : ∀ reading, Decides decision (second reading))
    (decidesOther : ∀ reading, Decides decisionOther (third reading)) :
    Sound dialect (conditional test ifTrue ifFalse) fun reading =>
      conditionalTruth (decidedAlike decision decisionOther) (first reading) (second reading)
        (third reading) := by
  intro params compiled later succeeded
  rcases outcome_conditional_ok succeeded with ⟨_ | _, middle, last, begun, next, settled⟩ |
    ⟨fragment, grouped, middle, whenTrue, last, whenFalse, final, begun, next, nextOther, rfl,
      settled⟩
  · refine (means_settled (other _ _ _ next) settled).congr fun reading => ?_
    rw [tested _ _ _ begun reading]
    exact Decides.conditionalTruth_no (decidesOther reading)
  · refine (means_settled (branch _ _ _ next) settled).congr fun reading => ?_
    rw [tested _ _ _ begun reading]
    exact Decides.conditionalTruth_yes (decides reading)
  · -- The test is compiled before both branches, and the first branch before the other.
    have keptTrue := accounted.kept next
    have keptFalse := accountedOther.kept nextOther
    rw [← folds _ _ _ next, ← foldsOther _ _ _ nextOther]
    refine means_settled (means_remaining ?_ ?_ ?_) settled
    · exact (tested _ _ _ begun).extended (keptTrue.trans keptFalse)
    · exact (branch _ _ _ next).extended keptFalse
    · exact other _ _ _ nextOther

/-- A field that is found names a column. -/
theorem column_ok {field : String} {found : Column}
    (succeeded : outcome (column table field) params = (.ok found, later)) :
    later = params ∧ table.column? field = some found := by
  rw [outcome_column] at succeeded
  cases known : table.column? field with
  | none =>
    rw [known] at succeeded
    cases succeeded
  | some other =>
    rw [known] at succeeded
    cases succeeded
    exact ⟨rfl, rfl⟩

/-- A field has the value of its column. -/
theorem value_field {field : String} {found : Column} (known : table.column? field = some found)
    (reading : Interpretation) : valueOf table (.field field) reading = reading.row found.name := by
  simp only [valueOf, Expr.value, known]

/-- The target of a marker has the value of the column found for it. -/
theorem target_ok {marker : Marker} {subject : Expr} {found : Column}
    (succeeded : outcome (target table marker subject) params = (.ok found, later)) :
    later = params ∧ ∀ reading, valueOf table subject reading = reading.row found.name := by
  cases subject with
  | field name =>
    obtain ⟨same, known⟩ := column_ok succeeded
    exact ⟨same, value_field known⟩
  | _ => cases succeeded

/-- Each of several operands has a step of its own. -/
theorem operands_eq_map (table : Table) (exprs : List Expr) :
    operands table exprs = exprs.map (operand table) := by
  induction exprs with
  | nil => rfl
  | cons first rest inductionHypothesis => rw [operands, inductionHypothesis, List.map_cons]

/-- The arguments of a template are written in the places that it calls for them. -/
theorem reads_spliced {arguments : List Expr} {fragment : Fragment}
    (evaluates : ∀ expr ∈ arguments, Evaluates dialect (operand table expr) (valueOf table expr))
    (segments : List Segment)
    (succeeded : outcome (spliced (operands table arguments) segments) params =
      (.ok fragment, later)) :
    ∃ pieces, ReadsPieces dialect fragment pieces ∧
      ∀ reading : Interpretation, reading.Knows later →
        reading.pieceValues pieces =
          segments.map (Segment.piece (arguments.map fun expr => valueOf table expr reading)) := by
  induction segments generalizing params fragment with
  | nil =>
    cases succeeded
    exact ⟨[], .nil, fun reading knows => rfl⟩
  | cons segment rest inductionHypothesis =>
    cases segment with
    | text s =>
      obtain ⟨others, last, remaining, ended⟩ := outcome_bind_ok succeeded
      cases ended
      obtain ⟨pieces, reads, same⟩ := inductionHypothesis remaining
      refine ⟨.text s :: pieces, reads.text s, fun reading knows => ?_⟩
      rw [Interpretation.pieceValues, same reading knows]
      rfl
    | argument index =>
      have called : (operands table arguments)[index]? = arguments[index]?.map (operand table) := by
        rw [operands_eq_map, List.getElem?_map]
      unfold spliced at succeeded
      rw [called] at succeeded
      cases found : arguments[index]? with
      | none =>
        rw [found] at succeeded
        cases succeeded
      | some argument =>
        rw [found] at succeeded
        obtain ⟨operand, first, begun, followed⟩ := outcome_bind_ok succeeded
        obtain ⟨written, middle, rendered, followed⟩ := outcome_bind_ok followed
        obtain ⟨others, last, remaining, ended⟩ := outcome_bind_ok followed
        cases ended
        -- What the rest of the template binds comes after this argument.
        have kept := (accounted_spliced (accounted_operands table arguments) rest).kept remaining
        have means := evaluates argument (List.mem_of_getElem? found) _ _ _ begun
        obtain ⟨term, readsTerm, value⟩ := (writes_rendered means rendered).extended kept
        obtain ⟨pieces, reads, same⟩ := inductionHypothesis remaining
        refine ⟨.argument term :: pieces, reads.argument readsTerm, fun reading knows => ?_⟩
        rw [Interpretation.pieceValues, Interpretation.pieceValue, same reading knows,
          value reading knows, List.map_cons, Segment.piece, List.getElem?_map, found]
        rfl

/-- The members of a list are written one after another. -/
theorem reads_renderedEach {base : String} {exprs : List Expr} {written : List Fragment}
    (evaluates : ∀ expr ∈ exprs, Evaluates dialect (operand table expr) (valueOf table expr))
    (succeeded : outcome (renderedEach base (operands table exprs)) params =
      (.ok written, later)) :
    ∃ members : List (Fragment × Term), members.map Prod.fst = written ∧
      members.length = exprs.length ∧
      (∀ member ∈ members, ReadsTerm dialect member.1 member.2) ∧
      ∀ reading : Interpretation, reading.Knows later →
        (members.map Prod.snd).map reading.value =
          exprs.map fun expr => valueOf table expr reading := by
  induction exprs generalizing params written with
  | nil =>
    cases succeeded
    exact ⟨[], rfl, rfl, fun member present => (nomatch present), fun reading knows => rfl⟩
  | cons expr rest inductionHypothesis =>
    obtain ⟨operand, first, begun, followed⟩ := outcome_bind_ok succeeded
    obtain ⟨fragment, middle, rendered, followed⟩ := outcome_bind_ok followed
    obtain ⟨others, last, remaining, ended⟩ := outcome_bind_ok followed
    cases ended
    have kept := (accounted_renderedEach base (accounted_operands table rest)).kept remaining
    have means := evaluates expr (.head _) _ _ _ begun
    obtain ⟨term, readsTerm, value⟩ := (writes_rendered means rendered).extended kept
    obtain ⟨members, rfl, length, reads, same⟩ :=
      inductionHypothesis (fun other present => evaluates other (.tail _ present)) remaining
    refine ⟨(fragment, term) :: members, rfl, ?_, ?_, fun reading knows => ?_⟩
    · rw [List.length_cons, List.length_cons, length]
    · intro member present
      rcases List.mem_cons.mp present with rfl | present
      · exact readsTerm
      · exact reads member present
    · rw [List.map_cons, List.map_cons, List.map_cons, same reading knows, value reading knows]

mutual

/-- An operand has the value of its tree. -/
theorem evaluates_operand (dialect : Dialect) (table : Table) :
    ∀ expr, Evaluates dialect (operand table expr) (valueOf table expr)
  | .field name => by
    intro params found later succeeded
    obtain ⟨column, middle, begun, ended⟩ := outcome_bind_ok succeeded
    cases ended
    exact value_field (column_ok begun).2
  | .const value => by
    intro params found later succeeded
    cases succeeded
    intro reading
    rw [valueOf, Expr.value]
  | .splice template arguments => by
    intro params found later succeeded
    obtain ⟨fragment, middle, begun, ended⟩ := outcome_bind_ok succeeded
    cases ended
    obtain ⟨pieces, reads, same⟩ :=
      reads_spliced (evaluates_operands dialect table arguments) _ begun
    refine ⟨_, reads.parens, fun reading knows => ?_⟩
    rw [Interpretation.value, same reading knows, valueOf, Expr.value, Expr.values_eq_map]
    rfl
  | .like _ _ | .between _ _ _ | .within _ _ | .not _ | .binary _ _ _ | .conditional _ _ _ =>
    fun _ _ _ succeeded => nomatch succeeded

/-- Each of several operands has. -/
theorem evaluates_operands (dialect : Dialect) (table : Table) :
    ∀ exprs : List Expr, ∀ expr ∈ exprs,
      Evaluates dialect (operand table expr) (valueOf table expr)
  | [], _, present => nomatch present
  | first :: rest, expr, present => by
    rcases List.mem_cons.mp present with same | present
    · rw [same]
      exact evaluates_operand dialect table first
    · exact evaluates_operands dialect table rest expr present

end

/-- A condition has the truth of its tree. The induction is on the tree: every step that it
is made of is sound if the steps for its parts are. -/
theorem sound_condition (dialect : Dialect) (table : Table) :
    ∀ expr, Sound dialect (condition dialect table expr) (truthOf table expr)
  | .const value => by
    intro params compiled later succeeded
    cases value with
    | bool b =>
      cases succeeded
      exact fun reading => rfl
    | _ => cases succeeded
  | .field name => by
    intro params compiled later succeeded
    obtain ⟨column, middle, begun, ended⟩ := outcome_bind_ok succeeded
    cases ended
    refine ⟨_, Sql.Reader.reads_isTrue column.name, fun reading knows => ?_⟩
    rw [truthOf, Expr.truth, ← valueOf, value_field (column_ok begun).2]
    rfl
  | .not inner => by
    intro params compiled later succeeded
    obtain ⟨condition, middle, begun, ended⟩ := outcome_bind_ok succeeded
    cases ended
    exact Condition.means_negated (sound_condition dialect table inner _ _ _ begun)
  | .binary .and left right =>
    sound_conjunction (sound_condition dialect table left) (sound_condition dialect table right)
      (accounted_condition dialect table right)
  | .binary .or left right =>
    sound_disjunction (sound_condition dialect table left) (sound_condition dialect table right)
      (accounted_condition dialect table right)
  | .binary (.comparison sign) left right => by
    intro params compiled later succeeded
    obtain ⟨first, middle, begun, followed⟩ := outcome_bind_ok succeeded
    obtain ⟨second, last, next, ended⟩ := outcome_bind_ok followed
    have before := evaluates_operand dialect table left _ _ _ begun
    have after := evaluates_operand dialect table right _ _ _ next
    have kept := (accounted_operand table right).kept next
    have means := means_compared (before.extended kept) after ended
    rw [const?_operand begun, const?_operand next] at means
    exact means
  | .conditional test ifTrue ifFalse =>
    sound_conditional (sound_condition dialect table test) (sound_condition dialect table ifTrue)
      (sound_condition dialect table ifFalse) (accounted_condition dialect table ifTrue)
      (accounted_condition dialect table ifFalse) (folds_condition dialect table ifTrue)
      (folds_condition dialect table ifFalse)
      (fun reading => ifTrue.decides reading.engine table reading.row)
      (fun reading => ifFalse.decides reading.engine table reading.row)
  | .like subject pattern => by
    intro params compiled later succeeded
    obtain ⟨column, middle, begun, followed⟩ := outcome_bind_ok succeeded
    obtain ⟨rfl, same⟩ := target_ok begun
    obtain ⟨found, first, compiledPattern, followed⟩ := outcome_bind_ok followed
    obtain ⟨written, last, next, ended⟩ := outcome_bind_ok followed
    cases ended
    obtain ⟨term, reads, value⟩ :=
      writes_rendered (evaluates_operand dialect table pattern _ _ _ compiledPattern) next
    refine ⟨_, Sql.Reader.reads_like (Sql.Reader.readsTerm_ident column.name) reads,
      fun reading knows => ?_⟩
    rw [Interpretation.truth, value reading knows, truthOf, Expr.truth, ← valueOf, same]
    rfl
  | .between subject low high => by
    intro params compiled later succeeded
    obtain ⟨column, middle, begun, followed⟩ := outcome_bind_ok succeeded
    obtain ⟨rfl, same⟩ := target_ok begun
    obtain ⟨found, first, compiledLow, followed⟩ := outcome_bind_ok followed
    obtain ⟨lower, second, nextLow, followed⟩ := outcome_bind_ok followed
    obtain ⟨foundOther, third, compiledHigh, followed⟩ := outcome_bind_ok followed
    obtain ⟨upper, last, nextHigh, ended⟩ := outcome_bind_ok followed
    cases ended
    -- The lower bound is written before the upper one binds anything.
    have kept := ((accounted_operand table high).kept compiledHigh).trans (kept_rendered nextHigh)
    have evaluated := evaluates_operand dialect table low _ _ _ compiledLow
    have writesLow := writes_rendered evaluated nextLow
    obtain ⟨term, reads, value⟩ := writesLow.extended kept
    obtain ⟨termOther, readsOther, valueOther⟩ :=
      writes_rendered (evaluates_operand dialect table high _ _ _ compiledHigh) nextHigh
    refine ⟨_, Sql.Reader.reads_between (Sql.Reader.readsTerm_ident column.name) reads readsOther,
      fun reading knows => ?_⟩
    rw [Interpretation.truth, value reading knows, valueOther reading knows, truthOf, Expr.truth,
      ← valueOf, same]
    rfl
  | .within subject [] => by
    intro params compiled later succeeded
    obtain ⟨column, middle, begun, ended⟩ := outcome_bind_ok succeeded
    cases ended
    exact fun reading => rfl
  | .within subject (item :: items) => by
    intro params compiled later succeeded
    obtain ⟨column, middle, begun, followed⟩ := outcome_bind_ok succeeded
    obtain ⟨rfl, same⟩ := target_ok begun
    obtain ⟨written, last, next, ended⟩ := outcome_bind_ok followed
    cases ended
    obtain ⟨members, rfl, length, reads, values⟩ :=
      reads_renderedEach (evaluates_operands dialect table (item :: items)) next
    have nonempty : members ≠ [] := List.ne_nil_of_length_pos (by rw [length]; exact Nat.succ_pos _)
    refine ⟨_, Sql.Reader.reads_within (Sql.Reader.readsTerm_ident column.name) nonempty reads,
      fun reading knows => ?_⟩
    rw [Interpretation.truth, values reading knows, truthOf, Expr.truth, ← valueOf, same,
      Expr.values_eq_map]
    rfl
  | .splice template arguments => by
    intro params compiled later succeeded
    obtain ⟨fragment, middle, begun, ended⟩ := outcome_bind_ok succeeded
    cases ended
    obtain ⟨pieces, reads, same⟩ :=
      reads_spliced (evaluates_operands dialect table arguments) _ begun
    obtain ⟨formula, readsFormula, means⟩ := reads.reads
    refine ⟨formula, readsFormula, fun reading knows => ?_⟩
    rw [means, Interpretation.value, same reading knows, truthOf, Expr.truth, Expr.value,
      Expr.values_eq_map]
    rfl

end Compiling

open Compiling in
/-- A predicate that has been compiled can be read, and what it is read as has the truth of
the tree: in every database and every row, with each parameter looked up in the set as it
is afterwards. -/
theorem compile_preserves_meaning (dialect : Dialect) (table : Table) (expr : Expr)
    (params : ParamSet) (predicate : Predicate) (later : ParamSet)
    (compiled : compile dialect table expr params = (.ok predicate, later)) :
    ∃ formula, Sql.Reader.read dialect predicate.fragment = some formula ∧
      ∀ (engine : Sql.Engine) (row : String → Value),
        Interpretation.truth ⟨engine, row, fun name => (later.get? name).getD .null⟩ formula =
          expr.truth engine table row := by
  rw [compile_eq_outcome] at compiled
  obtain ⟨found, last, begun, ended⟩ := outcome_bind_ok compiled
  cases ended
  have means := sound_condition dialect table expr params found later begun
  cases found with
  | literal b =>
    have reads : Reads dialect (Fragment.truth b) false _ := Sql.Reader.reads_truth b
    obtain ⟨parts, nests, whole, _⟩ := reads
    refine ⟨_, Sql.Reader.read_of_nests nests whole, fun engine row => ?_⟩
    exact (means ⟨engine, row, fun name => (later.get? name).getD .null⟩).symm
  | sql fragment disjunction =>
    obtain ⟨formula, ⟨parts, nests, whole, _⟩, same⟩ := means
    refine ⟨formula, Sql.Reader.read_of_nests nests whole, fun engine row => ?_⟩
    refine same ⟨engine, row, fun name => (later.get? name).getD .null⟩ fun name value bound => ?_
    show (later.get? name).getD .null = value
    rw [bound, Option.getD_some]

/-- An OR within an AND, a constant on the left, and a conditional with an interval. In a
row without a nick it depends on the age, since a pattern matches NULL in no database. -/
theorem compile_conditional_preserves_meaning :
    let table : Table := {
      name := "users", schema := none
      columns := [{ name := "active" }, { name := "years", property := "age" },
        { name := "nick" }] }
    let adult : Expr := .compare .le (.const (.int 18)) (.field "age")
    let choice : Expr := .conditional (Field.isNull ⟨"nick"⟩)
      (Field.between ⟨"age"⟩ (.const (.int 30)) (.const (.int 40)))
      (Field.like ⟨"nick"⟩ (.const (.text "a%")))
    let expr : Expr := ((Expr.field "active").or adult).and choice
    let engine : Sql.Engine := {
      order := Value.compare?, order_swap := Value.compare?_swap
      fits := fun a pattern => a == pattern, holds := fun _ => .unknown, raw := fun _ => .null }
    let row : String → Value := fun column =>
      if column = "active" then .bool false else if column = "years" then .int 35 else .null
    ∃ predicate later formula,
      compile .postgresql table expr .empty = (.ok predicate, later) ∧
      Sql.Reader.read .postgresql predicate.fragment = some formula ∧
      Interpretation.truth ⟨engine, row, fun name => (later.get? name).getD .null⟩ formula =
        .yes := by
  intro table adult choice expr engine row
  have succeeds : (compile .postgresql table expr .empty).1.isOk = true := rfl
  have holds : expr.truth engine table row = .yes := by decide
  rcases compiled : compile .postgresql table expr .empty with ⟨error | predicate, later⟩
  · rw [compiled] at succeeds
    cases succeeds
  · obtain ⟨formula, read, means⟩ :=
      compile_preserves_meaning .postgresql table expr .empty predicate later compiled
    exact ⟨predicate, later, formula, rfl, read, (means engine row).trans holds⟩

end Sqlwright
