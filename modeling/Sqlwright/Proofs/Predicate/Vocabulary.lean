import Sqlwright.Command.Basic
import Sqlwright.Proofs.Predicate.Outcome
import Sqlwright.Proofs.Schema.Lookup
import Sqlwright.Proofs.Sql.Writing

/-!
# What a compiled predicate is made of

A compiled predicate consists of a few keywords and signs, of names of columns, and of parameters
that are named for properties of columns. Raw text enters it in two ways only: the truth value
that a field alone is compared with, and the text of templates. So the keyword that begins another
clause is never part of a predicate, and without templates no text in it is unknown.

Each step of compiling keeps to this vocabulary, from whatever set of parameters it is begun.
-/

namespace Sqlwright

open Sql (Chunk Fragment)

mutual

/-- Whether a predicate contains raw text with arguments. -/
def Expr.hasSplice : Expr → Bool
  | .field _ | .const _ => false
  | .not operand => operand.hasSplice
  | .binary _ left right => left.hasSplice || right.hasSplice
  | .conditional test ifTrue ifFalse => test.hasSplice || ifTrue.hasSplice || ifFalse.hasSplice
  | .like target pattern => target.hasSplice || pattern.hasSplice
  | .between target low high => target.hasSplice || low.hasSplice || high.hasSplice
  | .within target items => target.hasSplice || Expr.anySplice items
  | .splice _ _ => true

/-- Whether one of several operands contains raw text with arguments. -/
def Expr.anySplice : List Expr → Bool
  | [] => false
  | first :: rest => first.hasSplice || Expr.anySplice rest

end

/-- The names that parameters of a predicate are wished to have. -/
inductive Wish (table : Table) : String → Prop
  | standard : Wish table "p"
  | property (column : Column) (listed : column ∈ table.columns) : Wish table column.property

/-- The keywords of predicates. -/
def predicateKeywords : List Sql.Keyword := [.AND, .OR, .NOT, .IS, .NULL, .LIKE, .BETWEEN, .IN]

/-- The chunks that a compiled predicate may contain. Text of templates may stand in it only
where that is allowed. -/
inductive Vocabulary (dialect : Dialect) (table : Table) (spliced : Prop) : Chunk → Prop
  | keyword (word : Sql.Keyword) (known : word ∈ predicateKeywords) :
    Vocabulary dialect table spliced (.token (.keyword word))
  | comparison (sign : Sql.Comparison) :
    Vocabulary dialect table spliced (.token (.comparison sign))
  | sign (mark : Sql.Punctuation) (known : mark ∈ [.leftParen, .rightParen, .comma]) :
    Vocabulary dialect table spliced (.token (.punctuation mark))
  | name (column : Column) (listed : column ∈ table.columns) :
    Vocabulary dialect table spliced (.ident column.name)
  | param (params : ParamSet) (base : String) (wish : Wish table base) :
    Vocabulary dialect table spliced (.param (params.freeName base))
  | truth (b : Bool) : Vocabulary dialect table spliced (.truth b)
  | literal : Vocabulary dialect table spliced (.raw (dialect.boolLiteral true))
  | text (allowed : spliced) (text : String) : Vocabulary dialect table spliced (.raw text)

section

variable {dialect : Dialect} {table : Table} {spliced : Prop}

/-- A fragment that has only chunks of the vocabulary. -/
def Worded (dialect : Dialect) (table : Table) (spliced : Prop) (fragment : Fragment) : Prop :=
  ∀ chunk ∈ fragment, Vocabulary dialect table spliced chunk

namespace Worded

variable {first second : Fragment}

theorem single {chunk : Chunk} (known : Vocabulary dialect table spliced chunk) :
    Worded dialect table spliced [chunk] := by
  intro other member
  rwa [List.mem_singleton.mp member]

theorem append (left : Worded dialect table spliced first)
    (right : Worded dialect table spliced second) :
    Worded dialect table spliced (first ++ second) := by
  intro chunk member
  exact (List.mem_append.mp member).elim (left chunk) (right chunk)

theorem keywords {words : List Sql.Keyword} (known : ∀ word ∈ words, word ∈ predicateKeywords) :
    Worded dialect table spliced (Fragment.keywords words) := by
  intro chunk member
  obtain ⟨word, listed, rfl⟩ := List.mem_map.mp member
  exact .keyword word (known word listed)

theorem keyword {word : Sql.Keyword} (known : word ∈ predicateKeywords) :
    Worded dialect table spliced (Fragment.keyword word) :=
  single (.keyword word known)

theorem comparison (sign : Sql.Comparison) :
    Worded dialect table spliced (Fragment.comparison sign) :=
  single (.comparison sign)

theorem name {column : Column} (listed : column ∈ table.columns) :
    Worded dialect table spliced (Fragment.ident column.name) :=
  single (.name column listed)

theorem parens (inside : Worded dialect table spliced first) :
    Worded dialect table spliced (Fragment.parens first) :=
  ((single (.sign .leftParen (by decide))).append inside).append
    (single (.sign .rightParen (by decide)))

theorem grouped (inside : Worded dialect table spliced first) (needed : Bool) :
    Worded dialect table spliced (Condition.grouped first needed) := by
  cases needed with
  | true => exact inside.parens
  | false => exact inside

theorem commaList {items : List Fragment}
    (each : ∀ item ∈ items, Worded dialect table spliced item) :
    Worded dialect table spliced (Fragment.commaList items) := by
  intro chunk member
  rcases Fragment.mem_joined member with rfl | ⟨item, listed, inside⟩
  · exact .sign .comma (by decide)
  · exact each item listed chunk inside

end Worded

end

namespace Condition

variable {dialect : Dialect} {table : Table} {spliced : Prop}

/-- A condition whose text has only chunks of the vocabulary. -/
def Worded (dialect : Dialect) (table : Table) (spliced : Prop) : Condition → Prop
  | .literal _ => True
  | .sql fragment _ => Sqlwright.Worded dialect table spliced fragment

variable {first second : Condition}

theorem Worded.negated (worded : first.Worded dialect table spliced) :
    first.negated.Worded dialect table spliced := by
  cases first with
  | literal b => trivial
  | sql fragment grouped =>
    exact (Sqlwright.Worded.keyword (by decide)).append (Sqlwright.Worded.parens worded)

theorem Worded.conjoined (left : first.Worded dialect table spliced)
    (right : second.Worded dialect table spliced) :
    (first.conjoined second).Worded dialect table spliced := by
  rcases first with (_ | _) | ⟨first, groupFirst⟩
  · rw [conjoined_false_left]; trivial
  · rwa [conjoined_true_left]
  · rcases second with (_ | _) | ⟨second, groupSecond⟩
    · rw [conjoined_false_right]; trivial
    · rwa [conjoined_true_right]
    · exact ((Sqlwright.Worded.grouped left groupFirst).append (.keyword (by decide))).append
        (Sqlwright.Worded.grouped right groupSecond)

theorem Worded.disjoined (left : first.Worded dialect table spliced)
    (right : second.Worded dialect table spliced) :
    (first.disjoined second).Worded dialect table spliced := by
  rcases first with (_ | _) | ⟨first, groupFirst⟩
  · rwa [disjoined_false_left]
  · rw [disjoined_true_left]; trivial
  · rcases second with (_ | _) | ⟨second, groupSecond⟩
    · rwa [disjoined_false_right]
    · rw [disjoined_true_right]; trivial
    · exact (Sqlwright.Worded.append left (.keyword (by decide))).append right

theorem Worded.chosen {test : Condition} (tested : test.Worded dialect table spliced)
    (left : first.Worded dialect table spliced) (right : second.Worded dialect table spliced) :
    (test.chosen first second).Worded dialect table spliced := by
  have whenTrue := tested.conjoined left
  have whenFalse := tested.negated.conjoined right
  unfold Condition.chosen
  split
  · rename_i heldTrue heldFalse
    rw [heldTrue] at whenTrue
    rw [heldFalse] at whenFalse
    exact ((Sqlwright.Worded.parens whenTrue).append (.keyword (by decide))).append
      (Sqlwright.Worded.parens whenFalse)
  · exact whenTrue.disjoined whenFalse

theorem Worded.remaining {test : Condition} (tested : test.Worded dialect table spliced)
    (left : first.Worded dialect table spliced) (right : second.Worded dialect table spliced) :
    (Compiling.remaining test first second).Worded dialect table spliced := by
  unfold Compiling.remaining
  split
  · split
    · trivial
    · exact tested.chosen trivial trivial
  · exact tested.chosen left right

end Condition

/-- An operand that is a column of the table, or text that has only chunks of the vocabulary. -/
def Operand.Worded (dialect : Dialect) (table : Table) (spliced : Prop) : Operand → Prop
  | .column found => found ∈ table.columns
  | .constant _ => True
  | .raw fragment => Sqlwright.Worded dialect table spliced fragment

/-- Constants are named for the operand that they are compared with. -/
theorem Operand.wish_baseName {dialect : Dialect} {table : Table} {spliced : Prop}
    {operand : Operand} (worded : operand.Worded dialect table spliced) :
    Wish table operand.baseName := by
  cases operand with
  | column column => exact .property column worded
  | constant value => exact .standard
  | raw fragment => exact .standard

namespace Compiling

variable {α β : Type} {dialect : Dialect} {table : Table} {spliced : Prop}

/-- Whenever a step succeeds, its result has the property. -/
def Yields (property : α → Prop) (step : Compiling α) : Prop :=
  ∀ params result later, outcome step params = (.ok result, later) → property result

namespace Yields

theorem pure {property : α → Prop} {result : α} (holds : property result) :
    Yields property (Pure.pure result) := by
  intro params found later succeeded
  cases succeeded
  exact holds

theorem throw {property : α → Prop} (error : PredicateError) :
    Yields property (throwThe PredicateError error) := by
  intro params found later succeeded
  cases succeeded

/-- What the second step needs to know of the first is the property of its result. -/
theorem bind {middle : α → Prop} {property : β → Prop} {step : Compiling α}
    {next : α → Compiling β} (first : Yields middle step)
    (rest : ∀ result, middle result → Yields property (next result)) :
    Yields property (step >>= next) := by
  intro params result later succeeded
  obtain ⟨value, between, begun, followed⟩ := outcome_bind_ok succeeded
  exact rest value (first params value between begun) between result later followed

end Yields

/-- A constant becomes a parameter that is named as wished. -/
theorem yields_bound {base : String} (wish : Wish table base) (value : Value) :
    Yields (Worded dialect table spliced) (bound base value) := by
  intro params found later succeeded
  cases succeeded
  exact .single (.param params base wish)

/-- A field names a column of the table. -/
theorem yields_column (table : Table) (field : String) :
    Yields (· ∈ table.columns) (column table field) := by
  unfold column
  split
  · rename_i column found
    exact .pure (Table.mem_of_column? found)
  · exact .throw _

theorem yields_target (table : Table) (marker : Marker) (expr : Expr) :
    Yields (· ∈ table.columns) (target table marker expr) := by
  unfold target
  split
  · exact yields_column table _
  · exact .throw _

theorem yields_rendered {base : String} (wish : Wish table base) {operand : Operand}
    (worded : operand.Worded dialect table spliced) :
    Yields (Worded dialect table spliced) (rendered base operand) := by
  cases operand with
  | column column => exact .pure (.name worded)
  | raw fragment => exact .pure worded
  | constant value => exact yields_bound wish value

theorem yields_renderedEach {base : String} (wish : Wish table base)
    {steps : List (Compiling Operand)}
    (each : ∀ step ∈ steps, Yields (Operand.Worded dialect table spliced) step) :
    Yields (fun written => ∀ item ∈ written, Worded dialect table spliced item)
      (renderedEach base steps) := by
  induction steps with
  | nil => exact .pure nofun
  | cons step rest inductionHypothesis =>
    refine (each step (.head _)).bind fun operand worded =>
      (yields_rendered wish worded).bind fun first written =>
        (inductionHypothesis fun other member => each other (.tail _ member)).bind
          fun others remaining => .pure ?_
    intro item member
    rcases List.mem_cons.mp member with rfl | member
    · exact written
    · exact remaining item member

theorem yields_spliced (allowed : spliced) {arguments : List (Compiling Operand)}
    (each : ∀ step ∈ arguments, Yields (Operand.Worded dialect table spliced) step)
    (segments : List Segment) :
    Yields (Worded dialect table spliced) (Compiling.spliced arguments segments) := by
  induction segments with
  | nil => exact .pure nofun
  | cons segment rest inductionHypothesis =>
    cases segment with
    | text text =>
      unfold Compiling.spliced
      exact inductionHypothesis.bind fun others worded =>
        .pure ((Worded.single (.text allowed text)).append worded)
    | argument index =>
      unfold Compiling.spliced
      split
      · exact .throw _
      · rename_i argument found
        exact (each argument (List.mem_of_getElem? found)).bind fun operand worded =>
          (yields_rendered (Operand.wish_baseName worded) worded).bind fun written first =>
            inductionHypothesis.bind fun others second => .pure (first.append second)

theorem yields_comparedWith (sign : Sql.Comparison) {operand : Operand}
    (worded : operand.Worded dialect table spliced) (value : Value) :
    Yields (Condition.Worded dialect table spliced) (comparedWith sign operand value) := by
  have wish := Operand.wish_baseName worded
  unfold comparedWith
  refine (yields_rendered wish worded).bind fun written known => ?_
  split
  · split
    · exact .pure (known.append (.keywords (by decide)))
    · exact .pure (known.append (.keywords (by decide)))
    all_goals exact .throw _
  · exact (yields_bound wish value).bind fun parameter named =>
      .pure ((known.append (.comparison sign)).append named)

/-- A comparison of two operands that are written out as they are. -/
theorem yields_compared (sign : Sql.Comparison) {left right : Operand}
    (first : left.Worded dialect table spliced) (second : right.Worded dialect table spliced) :
    Yields (Condition.Worded dialect table spliced) (compared sign left right) := by
  have written : Yields (Condition.Worded dialect table spliced) (do
      let left ← rendered "p" left
      let right ← rendered "p" right
      return .sql (left ++ Fragment.comparison sign ++ right) false) :=
    (yields_rendered .standard first).bind fun left known =>
      (yields_rendered .standard second).bind fun right also =>
        .pure ((known.append (.comparison sign)).append also)
  cases left with
  | constant a => cases right with
    | constant b =>
      simp only [compared]
      split
      · exact .pure trivial
      · exact .throw _
    | column right => exact yields_comparedWith sign.flipped second a
    | raw right => exact yields_comparedWith sign.flipped second a
  | column left => cases right with
    | constant b => exact yields_comparedWith sign first b
    | column right => exact written
    | raw right => exact written
  | raw left => cases right with
    | constant b => exact yields_comparedWith sign first b
    | column right => exact written
    | raw right => exact written

theorem yields_conjunction {left right : Compiling Condition}
    (first : Yields (Condition.Worded dialect table spliced) left)
    (second : Yields (Condition.Worded dialect table spliced) right) :
    Yields (Condition.Worded dialect table spliced) (conjunction left right) := by
  intro params found later succeeded
  rcases outcome_conjunction_ok succeeded with ⟨rfl, _⟩ | ⟨_, _, _, _, begun, next, rfl, _⟩
  · trivial
  · exact (first _ _ _ begun).conjoined (second _ _ _ next)

theorem yields_disjunction {left right : Compiling Condition}
    (first : Yields (Condition.Worded dialect table spliced) left)
    (second : Yields (Condition.Worded dialect table spliced) right) :
    Yields (Condition.Worded dialect table spliced) (disjunction left right) := by
  intro params found later succeeded
  rcases outcome_disjunction_ok succeeded with ⟨rfl, _⟩ | ⟨_, _, _, _, begun, next, rfl, _⟩
  · trivial
  · exact (first _ _ _ begun).disjoined (second _ _ _ next)

theorem yields_conditional {test ifTrue ifFalse : Compiling Condition}
    (first : Yields (Condition.Worded dialect table spliced) test)
    (second : Yields (Condition.Worded dialect table spliced) ifTrue)
    (third : Yields (Condition.Worded dialect table spliced) ifFalse) :
    Yields (Condition.Worded dialect table spliced) (conditional test ifTrue ifFalse) := by
  intro params found later succeeded
  rcases outcome_conditional_ok succeeded with
    ⟨b, _, _, _, branch, _⟩ | ⟨_, _, _, _, _, _, _, tested, whenTrue, whenFalse, rfl, _⟩
  · cases b with
    | true => exact second _ _ _ branch
    | false => exact third _ _ _ branch
  · exact (first _ _ _ tested).remaining (second _ _ _ whenTrue) (third _ _ _ whenFalse)

mutual

/-- Operands keep to the vocabulary. -/
theorem yields_operand (dialect : Dialect) (table : Table) : ∀ expr : Expr,
    (expr.hasSplice = true → spliced) →
      Yields (Operand.Worded dialect table spliced) (operand table expr)
  | .field name, _ => (yields_column table name).bind fun _ listed => .pure listed
  | .const _, _ => .pure trivial
  | .splice _ arguments, allowed =>
    (yields_spliced (allowed rfl)
      (yields_operands dialect table arguments fun _ => allowed rfl) _).bind
        fun _ worded => .pure worded.parens
  | .like _ _, _ => .throw _
  | .between _ _ _, _ => .throw _
  | .within _ _, _ => .throw _
  | .not _, _ => .throw _
  | .binary _ _ _, _ => .throw _
  | .conditional _ _ _, _ => .throw _

theorem yields_operands (dialect : Dialect) (table : Table) : ∀ exprs : List Expr,
    (Expr.anySplice exprs = true → spliced) →
      ∀ step ∈ operands table exprs, Yields (Operand.Worded dialect table spliced) step
  | [], _, _, member => nomatch member
  | first :: rest, allowed, step, member => by
    rcases List.mem_cons.mp member with rfl | member
    · exact yields_operand dialect table first fun has =>
        allowed (by simp [Expr.anySplice, has])
    · exact yields_operands dialect table rest
        (fun has => allowed (by simp [Expr.anySplice, has])) step member

end

/-- Conditions keep to the vocabulary. Only templates bring text of their own. -/
theorem yields_condition (dialect : Dialect) (table : Table) : ∀ expr : Expr,
    (expr.hasSplice = true → spliced) →
      Yields (Condition.Worded dialect table spliced) (condition dialect table expr)
  | .const value, _ => by
    cases value with
    | bool b => exact .pure trivial
    | _ => exact .throw _
  | .field name, _ =>
    (yields_column table name).bind fun column listed => .pure
      (((Worded.name listed).append (.comparison .eq)).append (.single .literal))
  | .not inner, allowed =>
    (yields_condition dialect table inner fun has => allowed (by simp [Expr.hasSplice, has])).bind
      fun _ worded => .pure worded.negated
  | .binary .and left right, allowed =>
    yields_conjunction
      (yields_condition dialect table left fun has => allowed (by simp [Expr.hasSplice, has]))
      (yields_condition dialect table right fun has => allowed (by simp [Expr.hasSplice, has]))
  | .binary .or left right, allowed =>
    yields_disjunction
      (yields_condition dialect table left fun has => allowed (by simp [Expr.hasSplice, has]))
      (yields_condition dialect table right fun has => allowed (by simp [Expr.hasSplice, has]))
  | .binary (.comparison sign) left right, allowed =>
    (yields_operand dialect table left fun has => allowed (by simp [Expr.hasSplice, has])).bind
      fun _ first =>
        (yields_operand dialect table right fun has =>
          allowed (by simp [Expr.hasSplice, has])).bind
          fun _ second => yields_compared sign first second
  | .conditional test ifTrue ifFalse, allowed =>
    yields_conditional
      (yields_condition dialect table test fun has => allowed (by simp [Expr.hasSplice, has]))
      (yields_condition dialect table ifTrue fun has => allowed (by simp [Expr.hasSplice, has]))
      (yields_condition dialect table ifFalse fun has => allowed (by simp [Expr.hasSplice, has]))
  | .like subject pattern, allowed => by
    unfold condition
    exact (yields_target table .like subject).bind fun column listed =>
      (yields_operand dialect table pattern fun has =>
        allowed (by simp [Expr.hasSplice, has])).bind fun operand worded =>
        (yields_rendered (.property column listed) worded).bind fun written known =>
          .pure (((Worded.name listed).append (.keyword (by decide))).append known)
  | .between subject low high, allowed => by
    unfold condition
    exact (yields_target table .between subject).bind fun column listed =>
      (yields_operand dialect table low fun has =>
        allowed (by simp [Expr.hasSplice, has])).bind fun _ worded =>
        (yields_rendered (.property column listed) worded).bind fun low first =>
          (yields_operand dialect table high fun has =>
            allowed (by simp [Expr.hasSplice, has])).bind fun _ worded =>
            (yields_rendered (.property column listed) worded).bind fun high second =>
              .pure (((((Worded.name listed).append (.keyword (by decide))).append first).append
                (.keyword (by decide))).append second)
  | .within subject items, allowed => by
    unfold condition
    refine (yields_target table .within subject).bind fun column listed => ?_
    split
    · exact .pure trivial
    · exact (yields_renderedEach (.property column listed)
        (yields_operands dialect table items fun has =>
          allowed (by simp [Expr.hasSplice, has]))).bind fun items each =>
        .pure (((Worded.name listed).append (.keyword (by decide))).append
          (Worded.commaList each).parens)
  | .splice _ arguments, allowed =>
    (yields_spliced (allowed rfl)
      (yields_operands dialect table arguments fun _ => allowed rfl) _).bind
        fun _ worded => .pure worded

end Compiling

open Compiling in
/-- A compiled predicate keeps to the vocabulary. It contains text of templates only if the tree
does. -/
theorem compile_worded {dialect : Dialect} {table : Table} {expr : Expr} {params later : ParamSet}
    {predicate : Predicate}
    (compiled : compile dialect table expr params = (.ok predicate, later)) :
    Worded dialect table (expr.hasSplice = true) predicate.fragment := by
  rw [compile_eq_outcome] at compiled
  obtain ⟨condition, _, begun, ended⟩ := outcome_bind_ok compiled
  have worded := yields_condition dialect table expr id params _ _ begun
  cases ended
  cases condition with
  | literal b => exact .single (.truth b)
  | sql fragment grouped => exact worded

/-- A filter written as a clause keeps to the vocabulary behind the keyword that begins it. -/
theorem chunks_of_whereClause {dialect : Dialect} {table : Table} {filter : Option Expr}
    {params later : ParamSet} {fragment : Fragment}
    (written : (Building.whereClause dialect table filter).run params = .ok (fragment, later))
    {chunk : Chunk} (member : chunk ∈ fragment) :
    chunk = .token (.keyword .WHERE) ∨ ∃ spliced, Vocabulary dialect table spliced chunk := by
  cases filter with
  | none =>
    cases written
    cases member
  | some filter =>
    simp only [Building.whereClause, StateT.run] at written
    rcases compiled : compile dialect table filter params with ⟨error | predicate, last⟩
    · rw [compiled] at written
      cases written
    · rw [compiled] at written
      dsimp only at written
      split at written
      · cases written
        cases member
      · cases written
        rcases List.mem_append.mp member with leading | inside
        · exact .inl (List.mem_singleton.mp leading)
        · exact .inr ⟨_, compile_worded compiled chunk inside⟩

/-- A filter written as a clause has no keyword of other clauses. -/
theorem keyword_not_mem_whereClause {dialect : Dialect} {table : Table} {filter : Option Expr}
    {params later : ParamSet} {fragment : Fragment} {word : Sql.Keyword}
    (written : (Building.whereClause dialect table filter).run params = .ok (fragment, later))
    (other : word ∉ .WHERE :: predicateKeywords) : .token (.keyword word) ∉ fragment := by
  intro member
  obtain ⟨apart, unknown⟩ : word ≠ .WHERE ∧ word ∉ predicateKeywords := by simpa using other
  rcases chunks_of_whereClause written member with same | ⟨_, ⟨_, known⟩⟩
  · exact apart (by cases same; rfl)
  · exact unknown known

end Sqlwright
