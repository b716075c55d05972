import Sqlwright.Proofs.Predicate.Scanning
import Sqlwright.Proofs.Predicate.Translation

/-!
# What raw text is written as

Raw text is written segment by segment. A text is one chunk. An argument is written where it is
called for, as often as it is called for: a field is the name of its column, a constant gets a
parameter of its own each time, and raw text within raw text is put in parentheses. This is a
relation between the segments and what is written, with the parameters before and after.

The segments are refused with the error of the first one that cannot be written. Whether one can be
written does not depend on the parameters, so this is a function of the tree. Together the two say
all that compiling does with raw text.
-/

namespace Sqlwright

open Sql (Fragment)

mutual

/-- An argument is written with these parameters before and those after it. -/
inductive Rendered (table : Table) : ParamSet → Expr → Fragment → ParamSet → Prop
  | column {params : ParamSet} {name : String} {column : Column}
    (found : table.column? name = some column) :
    Rendered table params (.field name) (Fragment.ident column.name) params
  /-- A constant is bound to a name that is free. -/
  | constant (params : ParamSet) (value : Value) :
    Rendered table params (.const value) (Fragment.param (params.add "p" value).1)
      (params.add "p" value).2
  | splice {params later : ParamSet} {template : String} {arguments : List Expr}
    {written : Fragment}
    (inner : Spliced table arguments params (Template.segments template) written later) :
    Rendered table params (.splice template arguments) (Fragment.parens written) later

/-- Segments are written one after another. -/
inductive Spliced (table : Table) :
    List Expr → ParamSet → List Segment → Fragment → ParamSet → Prop
  | nil (arguments : List Expr) (params : ParamSet) :
    Spliced table arguments params [] [] params
  | text {arguments : List Expr} {params later : ParamSet} {segments : List Segment}
    {written : Fragment} (text : String)
    (rest : Spliced table arguments params segments written later) :
    Spliced table arguments params (.text text :: segments) (Fragment.raw text ++ written) later
  | argument {arguments : List Expr} {params middle later : ParamSet} {segments : List Segment}
    {index : Nat} {argument : Expr} {written others : Fragment}
    (called : arguments[index]? = some argument)
    (first : Rendered table params argument written middle)
    (rest : Spliced table arguments middle segments others later) :
    Spliced table arguments params (.argument index :: segments) (written ++ others) later

end

/-- Why a segment cannot be written, given why each argument cannot. An argument that is not there
is a reason too. -/
def Segment.refusal? (refusals : List (Option PredicateError)) : Segment → Option PredicateError
  | .text _ => none
  | .argument index =>
    match refusals[index]? with
    | some refusal => refusal
    | none => some (.spliceArgument index refusals.length)

/-- Why the first segment that cannot be written cannot. -/
def firstRefusal? (refusals : List (Option PredicateError)) (segments : List Segment) :
    Option PredicateError :=
  segments.findSome? (Segment.refusal? refusals)

namespace Expr

mutual

/-- Why a tree cannot be an operand, if it cannot. -/
def refusal? (table : Table) : Expr → Option PredicateError
  | .field name =>
    if (table.column? name).isSome then none else some (.unknownField table.name name)
  | .const _ => none
  | .splice template arguments =>
    firstRefusal? (refusals? table arguments) (Template.segments template)
  | .like _ _ => some (.unsupportedOperand (.marker .like))
  | .between _ _ _ => some (.unsupportedOperand (.marker .between))
  | .within _ _ => some (.unsupportedOperand (.marker .within))
  | .not _ => some (.unsupportedOperand .boolean)
  | .binary _ _ _ => some (.unsupportedOperand .boolean)
  | .conditional _ _ _ => some (.unsupportedOperand .conditional)

/-- The same for each of several trees. -/
def refusals? (table : Table) : List Expr → List (Option PredicateError)
  | [] => []
  | first :: rest => refusal? table first :: refusals? table rest

end

theorem refusals?_eq_map (table : Table) (exprs : List Expr) :
    refusals? table exprs = exprs.map (refusal? table) := by
  induction exprs with
  | nil => rfl
  | cons first rest inductionHypothesis => rw [refusals?, inductionHypothesis, List.map_cons]

end Expr

section

variable (refusals : List (Option PredicateError))

theorem firstRefusal?_text (text : String) (rest : List Segment) :
    firstRefusal? refusals (.text text :: rest) = firstRefusal? refusals rest := rfl

theorem firstRefusal?_argument (index : Nat) (rest : List Segment) :
    firstRefusal? refusals (.argument index :: rest) =
      ((Segment.argument index).refusal? refusals).or (firstRefusal? refusals rest) := by
  rw [firstRefusal?, List.findSome?_cons]
  cases (Segment.argument index).refusal? refusals <;> rfl

/-- Texts are never refused, so joining them does not matter. -/
theorem firstRefusal?_joined (segments : List Segment) :
    firstRefusal? refusals (Template.joined segments) = firstRefusal? refusals segments := by
  induction segments with
  | nil => rfl
  | cons segment rest inductionHypothesis =>
    cases segment with
    | argument index =>
      rw [Template.joined, firstRefusal?_argument, firstRefusal?_argument, inductionHypothesis]
    | text text =>
      rw [firstRefusal?_text, ← inductionHypothesis, Template.joined]
      split
      · rename_i next others joined
        rw [joined, firstRefusal?_text, firstRefusal?_text]
      · split
        · rfl
        · exact firstRefusal?_text _ _ _

end

namespace Compiling

variable {α β : Type} {table : Table}

/-- A step fails with the given error, whatever the parameters are, or it never fails. -/
def Refuses (step : Compiling α) (refusal : Option PredicateError) : Prop :=
  ∀ params error, (outcome step params).1 = .error error ↔ refusal = some error

namespace Refuses

theorem pure (result : α) : Refuses (Pure.pure result) none := by
  intro params error
  constructor
  · intro failed
    cases failed
  · intro impossible
    cases impossible

theorem throw (error : PredicateError) :
    Refuses (throwThe PredicateError error : Compiling α) (some error) := by
  intro params other
  constructor
  · intro failed
    cases failed
    rfl
  · intro same
    cases same
    rfl

/-- The first error counts. What follows may not depend on the result for its error. -/
theorem bind {step : Compiling α} {next : α → Compiling β}
    {first second : Option PredicateError} (before : Refuses step first)
    (rest : ∀ result, Refuses (next result) second) :
    Refuses (step >>= next) (first.or second) := by
  intro params error
  rw [outcome_bind]
  rcases begun : outcome step params with ⟨failure | result, later⟩
  · have refused : first = some failure := (before params failure).mp (by rw [begun])
    rw [refused, Option.some_or]
    simp
  · have accepted : first = none := by
      cases first with
      | none => rfl
      | some failure =>
        have failed := (before params failure).mpr rfl
        rw [begun] at failed
        cases failed
    rw [accepted, Option.none_or]
    exact rest result later error

/-- What follows cannot fail. -/
theorem andThen {step : Compiling α} {next : α → Compiling β} {refusal : Option PredicateError}
    (before : Refuses step refusal) (rest : ∀ result, Refuses (next result) none) :
    Refuses (step >>= next) refusal := by
  have both := before.bind rest
  rwa [Option.or_none] at both

end Refuses

/-- Writing an operand never fails. -/
theorem refuses_rendered (base : String) (operand : Operand) :
    Refuses (rendered base operand) none := by
  cases operand with
  | column column => exact .pure _
  | raw fragment => exact .pure _
  | constant value =>
    intro params error
    constructor
    · intro failed
      cases failed
    · intro impossible
      cases impossible

/-- An argument that is called for is compiled and written before what follows it. -/
theorem spliced_argument {steps : List (Compiling Operand)} {index : Nat}
    {step : Compiling Operand} (called : steps[index]? = some step) (segments : List Segment) :
    spliced steps (.argument index :: segments) =
      (step >>= fun operand => rendered operand.baseName operand) >>= fun written =>
        spliced steps segments >>= fun others => pure (written ++ others) := by
  rw [spliced, called, bind_assoc]

theorem operands_getElem? (table : Table) (arguments : List Expr) (index : Nat) :
    (operands table arguments)[index]? = arguments[index]?.map (operand table) := by
  rw [operands_eq_map, List.getElem?_map]

/-- Segments are refused with their first error. -/
theorem refuses_spliced {arguments : List Expr}
    (each : ∀ expr ∈ arguments, Refuses (operand table expr) (expr.refusal? table))
    (segments : List Segment) :
    Refuses (spliced (operands table arguments) segments)
      (firstRefusal? (arguments.map (Expr.refusal? table)) segments) := by
  induction segments with
  | nil => exact .pure _
  | cons segment rest inductionHypothesis =>
    cases segment with
    | text text =>
      rw [firstRefusal?_text]
      exact inductionHypothesis.andThen fun others => .pure _
    | argument index =>
      have called := operands_getElem? table arguments index
      rw [firstRefusal?_argument, Segment.refusal?, List.getElem?_map]
      cases found : arguments[index]? with
      | none =>
        rw [found, Option.map_none] at called
        rw [spliced, called, operands_eq_map, List.length_map, List.length_map]
        exact .throw _
      | some argument =>
        rw [found, Option.map_some] at called
        rw [spliced_argument called]
        have first := (each argument (List.mem_of_getElem? found)).andThen fun operand =>
          refuses_rendered operand.baseName operand
        exact first.bind fun written => inductionHypothesis.andThen fun others => .pure _

mutual

/-- Whether an operand is refused, and why, is decided by its tree. -/
theorem refuses_operand (table : Table) : ∀ expr : Expr,
    Refuses (operand table expr) (expr.refusal? table)
  | .field name => by
    have columns : Refuses (column table name) ((Expr.field name).refusal? table) := by
      unfold column Expr.refusal?
      cases table.column? name with
      | some found => exact .pure found
      | none => exact .throw _
    exact columns.andThen fun found => .pure _
  | .const value => .pure _
  | .splice template arguments => by
    have segments := refuses_spliced (refuses_operands table arguments) (Template.segments template)
    rw [← Expr.refusals?_eq_map] at segments
    exact segments.andThen fun written => .pure _
  | .like _ _ => .throw _
  | .between _ _ _ => .throw _
  | .within _ _ => .throw _
  | .not _ => .throw _
  | .binary _ _ _ => .throw _
  | .conditional _ _ _ => .throw _

theorem refuses_operands (table : Table) : ∀ exprs : List Expr,
    ∀ expr ∈ exprs, Refuses (operand table expr) (expr.refusal? table)
  | [] => nofun
  | first :: rest =>
    List.forall_mem_cons.mpr ⟨refuses_operand table first, refuses_operands table rest⟩

end

/-- Compiling an argument and writing it is what the relation says. -/
def Renders (table : Table) (expr : Expr) : Prop :=
  ∀ params written later,
    outcome (operand table expr >>= fun found => rendered found.baseName found) params =
      (.ok written, later) ↔ Rendered table params expr written later

/-- Segments are written as the relation says if their arguments are. -/
theorem spliced_iff {arguments : List Expr} (each : ∀ expr ∈ arguments, Renders table expr)
    {segments : List Segment} {params later : ParamSet} {written : Fragment} :
    outcome (spliced (operands table arguments) segments) params = (.ok written, later) ↔
      Spliced table arguments params segments written later := by
  induction segments generalizing params written with
  | nil =>
    constructor
    · intro succeeded
      cases succeeded
      exact .nil arguments _
    · intro nothing
      cases nothing
      rfl
  | cons segment rest inductionHypothesis =>
    cases segment with
    | text text =>
      constructor
      · intro succeeded
        obtain ⟨others, middle, following, ended⟩ := outcome_bind_ok succeeded
        cases ended
        exact .text text (inductionHypothesis.mp following)
      · intro spelled
        cases spelled with
        | text _ following =>
          rw [spliced, outcome_bind, inductionHypothesis.mpr following]
          rfl
    | argument index =>
      have called := operands_getElem? table arguments index
      cases found : arguments[index]? with
      | none =>
        rw [found, Option.map_none] at called
        constructor
        · intro succeeded
          rw [spliced, called] at succeeded
          cases succeeded
        · intro spelled
          cases spelled with
          | argument present _ _ =>
            rw [found] at present
            cases present
      | some argument =>
        have renders := each argument (List.mem_of_getElem? found)
        rw [found, Option.map_some] at called
        rw [spliced_argument called]
        constructor
        · intro succeeded
          obtain ⟨first, middle, begun, followed⟩ := outcome_bind_ok succeeded
          obtain ⟨others, last, following, ended⟩ := outcome_bind_ok followed
          cases ended
          exact .argument found ((renders _ _ _).mp begun) (inductionHypothesis.mp following)
        · intro spelled
          cases spelled with
          | argument present first following =>
            rw [found] at present
            cases present
            rw [outcome_bind, (renders _ _ _).mpr first]
            dsimp only
            rw [outcome_bind, inductionHypothesis.mpr following]
            rfl

mutual

theorem renders_operand (table : Table) : ∀ expr : Expr, Renders table expr
  | .field name => by
    intro params written later
    rw [operand, bind_assoc, outcome_bind, outcome_column]
    constructor
    · intro succeeded
      cases found : table.column? name with
      | none =>
        rw [found] at succeeded
        cases succeeded
      | some column =>
        rw [found] at succeeded
        cases succeeded
        exact .column found
    · intro rendered
      cases rendered with
      | column found =>
        rw [found]
        rfl
  | .const value => by
    intro params written later
    constructor
    · intro succeeded
      cases succeeded
      exact .constant params value
    · intro rendered
      cases rendered
      rfl
  | .splice template arguments => by
    intro params written later
    have each := renders_operands table arguments
    rw [operand, bind_assoc]
    constructor
    · intro succeeded
      obtain ⟨inner, middle, begun, ended⟩ := outcome_bind_ok succeeded
      cases ended
      exact .splice ((spliced_iff each).mp begun)
    · intro rendered
      cases rendered with
      | splice inner =>
        rw [outcome_bind, (spliced_iff each).mpr inner]
        rfl
  | .like _ _ => fun _ _ _ => ⟨nofun, nofun⟩
  | .between _ _ _ => fun _ _ _ => ⟨nofun, nofun⟩
  | .within _ _ => fun _ _ _ => ⟨nofun, nofun⟩
  | .not _ => fun _ _ _ => ⟨nofun, nofun⟩
  | .binary _ _ _ => fun _ _ _ => ⟨nofun, nofun⟩
  | .conditional _ _ _ => fun _ _ _ => ⟨nofun, nofun⟩

theorem renders_operands (table : Table) : ∀ exprs : List Expr,
    ∀ expr ∈ exprs, Renders table expr
  | [] => nofun
  | first :: rest =>
    List.forall_mem_cons.mpr ⟨renders_operand table first, renders_operands table rest⟩

end

/-- Raw text alone is a condition that may be a disjunction. -/
theorem condition_splice (dialect : Dialect) (table : Table) (template : String)
    (arguments : List Expr) :
    condition dialect table (.splice template arguments) =
      spliced (operands table arguments) (Template.segments template) >>= fun written =>
        pure (.sql written true) := rfl

/-- Raw text compiles to what its segments are written as. -/
theorem compile_splice_iff {dialect : Dialect} {template : String} {arguments : List Expr}
    {params later : ParamSet} {predicate : Predicate} :
    compile dialect table (.splice template arguments) params = (.ok predicate, later) ↔
      ∃ written, predicate = .sql written ∧
        Spliced table arguments params (Template.segments template) written later := by
  have each := renders_operands table arguments
  constructor
  · intro compiled
    obtain ⟨found, succeeded, rfl⟩ := outcome_of_compile compiled
    rw [condition_splice] at succeeded
    obtain ⟨written, middle, begun, ended⟩ := outcome_bind_ok succeeded
    cases ended
    exact ⟨written, rfl, (spliced_iff each).mp begun⟩
  · rintro ⟨written, rfl, spelled⟩
    have succeeded : outcome (condition dialect table (.splice template arguments)) params =
        (.ok (.sql written true), later) := by
      rw [condition_splice, outcome_bind, (spliced_iff each).mpr spelled]
      rfl
    exact compile_of_outcome succeeded

/-- Raw text is refused with the error of its first segment that cannot be written. -/
theorem compile_splice_error_iff {dialect : Dialect} {template : String} {arguments : List Expr}
    {params : ParamSet} {error : PredicateError} :
    (compile dialect table (.splice template arguments) params).1 = .error error ↔
      firstRefusal? (arguments.map (Expr.refusal? table)) (Template.segments template) =
        some error := by
  have segments := refuses_spliced (refuses_operands table arguments) (Template.segments template)
  have conditions := segments.andThen fun written => .pure (Condition.sql written true)
  exact (conditions.andThen fun found => .pure found.predicate) params error

end Compiling

/-- A template that is written from texts and calls is decoded into these. It compiles to the texts,
neighbouring ones joined, and the arguments in between, each written anew where it is called for. It
is refused exactly when a call is for no argument or for one that is no operand, with the error of
the first such call. On no template does a scan that cuts at byte offsets make a cut that cannot be
made, and its rounds come to an end with the items that are read. -/
theorem compile_splice_ofSegments (dialect : Dialect) (table : Table) {segments : List Segment}
    (arguments : List Expr) (params : ParamSet)
    (indices : ∀ index, .argument index ∈ segments → index < Template.indexBound) :
    (∀ predicate later,
      compile dialect table (.splice (Template.ofSegments segments) arguments) params =
          (.ok predicate, later) ↔
        ∃ written, predicate = .sql written ∧
          Spliced table arguments params (Template.joined segments) written later) ∧
    (∀ error,
      (compile dialect table (.splice (Template.ofSegments segments) arguments) params).1 =
          .error error ↔
        firstRefusal? (arguments.map (Expr.refusal? table)) segments = some error) ∧
    ∀ template : String, ∃ items, Template.scan? template.toList = some items ∧
      Template.segments template = Template.collect [] items := by
  have decoded := Template.segments_ofSegments indices
  refine ⟨fun predicate later => ?_, fun error => ?_, fun template => ?_⟩
  · rw [Compiling.compile_splice_iff, decoded]
  · rw [Compiling.compile_splice_error_iff, decoded, firstRefusal?_joined]
  · exact ⟨Template.items template.toList, Template.scan?_eq template.toList, rfl⟩

/-- Braces in texts that touch a call, and an argument that is called for twice: the template is
`{{{0}}}x{1}{1}`. Without the second argument the call for it is the first that fails. -/
theorem compile_splice_touching_braces :
    let table : Table := { name := "users", schema := none, columns := [{ name := "age" }] }
    let segments : List Segment :=
      [.text "\x7b", .argument 0, .text "\x7d", .text "x", .argument 1, .argument 1]
    let template : String := Template.ofSegments segments
    (∀ index, .argument index ∈ segments → index < Template.indexBound) ∧
      template = "\x7b\x7b\x7b0\x7d\x7d\x7dx\x7b1\x7d\x7b1\x7d" ∧
      compile .sqlite table (.splice template [.field "age", .const (.int 5)]) .empty =
        (.ok (.sql [.raw "\x7b", .ident "age", .raw "\x7dx", .param "p", .param "p_1"]),
          (ParamSet.empty.add "p" (.int 5)).2.add "p" (.int 5) |>.2) ∧
      (compile .sqlite table (.splice template [.field "age"]) .empty).1 =
        .error (.spliceArgument 1 1) := by
  intro table segments template
  have indices : ∀ index, .argument index ∈ segments → index < Template.indexBound := by
    intro index among
    have small : index = 0 ∨ index = 1 := by simpa [segments] using among
    have bound : 1 < Template.indexBound := by decide
    omega
  have written := (compile_splice_ofSegments .sqlite table [.field "age", .const (.int 5)] .empty
    indices).1
  have refused := (compile_splice_ofSegments .sqlite table [.field "age"] .empty indices).2.1
  have found : table.column? "age" = some { name := "age" } := by decide
  refine ⟨indices, by decide +kernel, ?_, ?_⟩
  · refine (written _ _).mpr ⟨_, rfl, ?_⟩
    exact .text _ <| .argument rfl (.column found) <| .text _ <|
      .argument rfl (.constant _ _) <| .argument rfl (.constant _ _) <| .nil _ _
  · exact (refused _).mpr (by decide +kernel)

end Sqlwright
