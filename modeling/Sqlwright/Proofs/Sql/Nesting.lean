import Sqlwright.Proofs.Sql.Reader

/-!
# Parts and how they are divided

A fragment nests if the parentheses in it match; then it adds the same parts wherever it
stands, and fragments that nest can be put one after another or in parentheses.

Nested parts are conjunctive if they can stand next to AND: no OR would tear them apart,
and no BETWEEN in them would take an AND that follows. What stands in parentheses always
is, whatever is inside.
-/

namespace Sqlwright.Sql

namespace Reader

variable {dialect : Dialect} {fragment : Fragment} {parts left right : List Part}

/-- A fragment adds the given parts to those that are open, wherever it stands. -/
def Nests (dialect : Dialect) (fragment : Fragment) (parts : List Part) : Prop :=
  ∀ nesting, fragment.foldlM (step dialect) nesting =
    some ⟨nesting.current ++ parts, nesting.outer⟩

/-- Fragments that nest do so one after another. -/
theorem Nests.append {first second : Fragment} (before : Nests dialect first left)
    (after : Nests dialect second right) : Nests dialect (first ++ second) (left ++ right) := by
  intro nesting
  rw [List.foldlM_append, before, Option.bind_eq_bind, Option.bind_some, after, List.append_assoc]

/-- What is in parentheses is one part. -/
theorem Nests.parens (inside : Nests dialect fragment parts) :
    Nests dialect (Fragment.parens fragment) [group dialect parts] := by
  intro nesting
  simp [Fragment.parens, Fragment.sign, List.foldlM_append, step, inside _]

/-- Whether a chunk is a parenthesis. -/
def isParen : Chunk → Bool
  | .token (.punctuation .leftParen) | .token (.punctuation .rightParen) => true
  | _ => false

/-- Chunks that are no parentheses are parts as they are. -/
theorem nests_plain (plain : ∀ chunk ∈ fragment, isParen chunk = false) :
    Nests dialect fragment (fragment.map .chunk) := by
  induction fragment with
  | nil =>
    intro nesting
    simp
  | cons chunk rest inductionHypothesis =>
    intro nesting
    have others := inductionHypothesis fun other member => plain other (.tail _ member)
    have added : step dialect nesting chunk =
        some ⟨nesting.current ++ [.chunk chunk], nesting.outer⟩ := by
      have open_ := plain chunk (.head _)
      unfold step
      split
      · simp [isParen] at open_
      · simp [isParen] at open_
      · rfl
    rw [List.foldlM_cons, added, Option.bind_eq_bind, Option.bind_some, others]
    simp

/-- A token nests as it is, unless it is a parenthesis. -/
theorem nests_token (dialect : Dialect) (token : Token) (plain : isParen (.token token) = false) :
    Nests dialect [.token token] [.chunk (.token token)] :=
  nests_plain fun chunk member => by rw [List.mem_singleton.mp member, plain]

/-- A fragment that nests is read by its parts. -/
theorem read_of_nests {formula : Formula} (nests : Nests dialect fragment parts)
    (found : condition? dialect parts = some formula) : read dialect fragment = some formula := by
  simp [read, nests _, found]

/-- The parts that can stand next to AND, read as the given conjunction. -/
structure Conjunctive (dialect : Dialect) (parts : List Part) (formula : Formula) : Prop where
  /-- No BETWEEN waits for its AND. -/
  settled : parts.foldl pendingAfter false = false
  /-- No OR divides the parts. -/
  undivided : ∀ part ∈ parts, part.isKeyword .OR = false
  found : conjunction? dialect parts = some formula

/-- A conjunction is a condition as it is. -/
theorem Conjunctive.condition {formula : Formula}
    (conjunctive : Conjunctive dialect parts formula) :
    condition? dialect parts = some formula := by
  have whole := List.splitOnP_eq_singleton conjunctive.undivided
  simp [condition?, whole, disjunct?, conjunctive.found, joined]

theorem conjuncts_ne_nil (pending : Bool) (parts : List Part) : conjuncts pending parts ≠ [] := by
  induction parts generalizing pending with
  | nil => exact List.cons_ne_nil _ _
  | cons part rest inductionHypothesis =>
    have others := inductionHypothesis (pendingAfter pending part)
    rw [conjuncts]
    split
    · exact List.cons_ne_nil _ _
    · cases found : conjuncts (pendingAfter pending part) rest with
      | nil => exact absurd found others
      | cons first remaining => exact List.cons_ne_nil _ _

/-- An AND that no BETWEEN waits for divides the parts. -/
theorem conjuncts_append_and (pending : Bool) (left right : List Part)
    (settled : left.foldl pendingAfter pending = false) :
    conjuncts pending (left ++ .chunk (.token (.keyword .AND)) :: right) =
      conjuncts pending left ++ conjuncts false right := by
  induction left generalizing pending with
  | nil =>
    obtain rfl : pending = false := settled
    rfl
  | cons part rest inductionHypothesis =>
    have others := inductionHypothesis (pendingAfter pending part) settled
    rw [List.cons_append, conjuncts, conjuncts, others]
    split
    · rfl
    · cases found : conjuncts (pendingAfter pending part) rest with
      | nil => exact absurd found (conjuncts_ne_nil _ _)
      | cons first remaining => rfl

/-- Without AND the parts are not divided. -/
theorem conjuncts_eq_singleton (pending : Bool)
    (undivided : ∀ part ∈ parts, part.isKeyword .AND = false) :
    conjuncts pending parts = [parts] := by
  induction parts generalizing pending with
  | nil => rfl
  | cons part rest inductionHypothesis =>
    have others := inductionHypothesis (pendingAfter pending part)
      fun other member => undivided other (.tail _ member)
    simp [conjuncts, others, undivided part (.head _)]

/-- Formulas connected on both sides of a connective are connected altogether. -/
theorem joined_append {connective : Formula → Formula → Formula} {op : Truth → Truth → Truth}
    [Std.Associative op]
    (means : ∀ (reading : Interpretation) left right,
      reading.truth (connective left right) = op (reading.truth left) (reading.truth right))
    {before after : List Formula} {first second : Formula}
    (left : joined connective before = some first) (right : joined connective after = some second) :
    ∃ formula, joined connective (before ++ after) = some formula ∧
      ∀ reading : Interpretation,
        reading.truth formula = op (reading.truth first) (reading.truth second) := by
  cases before with
  | nil => cases left
  | cons head tail =>
    cases after with
    | nil => cases right
    | cons next rest =>
      cases left
      cases right
      refine ⟨rest.foldl connective (connective (tail.foldl connective head) next), ?_,
        fun reading => reading.truth_foldl (means reading) _ _ _⟩
      rw [List.cons_append, joined, List.foldl_append, List.foldl_cons]

/-- Parts that nothing divides are conjunctive. -/
theorem conjunctive_of_negation {formula : Formula} (whole : conjuncts false parts = [parts])
    (settled : parts.foldl pendingAfter false = false)
    (undivided : ∀ part ∈ parts, part.isKeyword .OR = false)
    (found : negation? dialect parts = some formula) : Conjunctive dialect parts formula := by
  refine ⟨settled, undivided, ?_⟩
  rw [conjunction?, whole, List.mapM_cons, found]
  rfl

/-- A group is conjunctive, whatever is inside. -/
theorem conjunctive_group {condition : Option Formula} {term : Option Term}
    {members : Option (List Term)} {formula : Formula} (found : condition = some formula) :
    Conjunctive dialect [.group condition term members] formula :=
  conjunctive_of_negation rfl rfl (by simp [Part.isKeyword, Part.isToken]) found

/-- A negated group is conjunctive. -/
theorem conjunctive_not {condition : Option Formula} {term : Option Term}
    {members : Option (List Term)} {formula : Formula} (found : condition = some formula) :
    Conjunctive dialect [.chunk (.token (.keyword .NOT)), .group condition term members]
      (.not formula) :=
  conjunctive_of_negation rfl rfl (by simp [Part.isKeyword, Part.isToken])
    (by rw [found]; rfl)

/-- Conjunctive parts on both sides of AND. -/
theorem Conjunctive.and {first second : Formula} (before : Conjunctive dialect left first)
    (after : Conjunctive dialect right second) :
    ∃ formula,
      Conjunctive dialect (left ++ .chunk (.token (.keyword .AND)) :: right) formula ∧
        ∀ reading : Interpretation,
          reading.truth formula = (reading.truth first).and (reading.truth second) := by
  obtain ⟨firsts, foundFirst, joinedFirst⟩ := Option.bind_eq_some_iff.mp before.found
  obtain ⟨seconds, foundSecond, joinedSecond⟩ := Option.bind_eq_some_iff.mp after.found
  obtain ⟨formula, found, means⟩ :=
    joined_append (fun _ _ _ => rfl) joinedFirst joinedSecond
  refine ⟨formula, ⟨?_, ?_, ?_⟩, means⟩
  · rw [List.foldl_append, before.settled, List.foldl_cons]
    exact after.settled
  · intro part member
    rcases List.mem_append.mp member with member | member
    · exact before.undivided part member
    · rcases List.mem_cons.mp member with rfl | member
      · rfl
      · exact after.undivided part member
  · rw [conjunction?, conjuncts_append_and false left right before.settled, List.mapM_append,
      foundFirst, foundSecond]
    exact found

/-- Conditions on both sides of OR. -/
theorem condition?_or {first second : Formula} (before : condition? dialect left = some first)
    (after : condition? dialect right = some second) :
    ∃ formula,
      condition? dialect (left ++ .chunk (.token (.keyword .OR)) :: right) = some formula ∧
        ∀ reading : Interpretation,
          reading.truth formula = (reading.truth first).or (reading.truth second) := by
  obtain ⟨firsts, foundFirst, joinedFirst⟩ := Option.bind_eq_some_iff.mp before
  obtain ⟨seconds, foundSecond, joinedSecond⟩ := Option.bind_eq_some_iff.mp after
  obtain ⟨formula, found, means⟩ :=
    joined_append (fun _ _ _ => rfl) joinedFirst joinedSecond
  refine ⟨formula, ?_, means⟩
  rw [condition?, List.splitOnP_append_cons left right (by rfl), List.mapM_append, foundFirst,
    foundSecond]
  exact found

/-- OR divides first, and BETWEEN keeps its own AND. -/
example :
    read .sqlite (Fragment.ident "a" ++ Fragment.keywords [.IS, .NULL] ++ Fragment.keyword .OR ++
      Fragment.ident "b" ++ Fragment.keyword .BETWEEN ++ Fragment.param "low" ++
      Fragment.keyword .AND ++ Fragment.param "high" ++ Fragment.keyword .AND ++
      Fragment.keyword .NOT ++ Fragment.parens (Fragment.truth true)) =
    some (.or (.isNull (.column "a"))
      (.and (.between (.column "b") (.param "low") (.param "high")) (.not (.literal true)))) := rfl

end Reader
end Sqlwright.Sql
