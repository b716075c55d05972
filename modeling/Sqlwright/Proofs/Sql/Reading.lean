import Sqlwright.Proofs.Sql.Nesting

/-!
# How fragments are read

For each form of condition, what the reader makes of a fragment that is put together from
others, given what it makes of those. A fragment read as a condition carries a flag: if it
may be a disjunction, it has to be parenthesised before it stands next to AND.

Raw text in parentheses can be read twice, as a condition and as a term. A part is faithful
if both readings agree. That is what lets raw text consist of nothing but one argument that
is raw text itself.
-/

namespace Sqlwright.Sql

/-- A part that is a term reads as that term where a condition is expected. -/
def Part.Faithful : Part → Prop
  | .group condition (some term) _ => ∃ formula, condition = some formula ∧
      ∀ reading : Interpretation,
        reading.truth formula = reading.engine.holds (reading.value term)
  | _ => True

@[simp] theorem Part.isKeyword_token (word : Keyword) (token : Token) :
    Part.isKeyword word (.chunk (.token token)) = (token == .keyword word) := rfl

/-- A term is no token. -/
theorem Part.isToken_of_term? {part : Part} {term : Term} (found : part.term? = some term)
    (token : Token) : part.isToken token = false := by
  cases part with
  | group condition term members => rfl
  | chunk chunk =>
    cases chunk with
    | token other => cases found
    | _ => rfl

/-- Nor is a piece of raw text. -/
theorem Part.isToken_of_piece? {part : Part} {piece : Piece Term}
    (found : part.piece? = some piece) (token : Token) : part.isToken token = false := by
  cases part with
  | group condition term members => rfl
  | chunk chunk =>
    cases chunk with
    | token other => cases found
    | _ => rfl

/-- A term is an argument of raw text. -/
theorem Part.piece?_of_term? {part : Part} {term : Term} (found : part.term? = some term) :
    part.piece? = some (.argument term) := by
  unfold Part.piece?
  split
  · cases found
  · rw [found, Option.map_some]

/-- A term is an operand. -/
theorem Part.operand?_of_term? {part : Part} {term : Term} (dialect : Dialect)
    (found : part.term? = some term) : part.operand? dialect = some term := by
  unfold Part.operand?
  split
  · cases found
  · exact found

namespace Reader

variable {dialect : Dialect} {parts : List Part}

/-- Every part of a list that is mapped with success has an image. -/
theorem exists_of_mapM {α β : Type} {f : α → Option β} {members : List α} {images : List β}
    (mapped : members.mapM f = some images) :
    ∀ member ∈ members, ∃ image, f member = some image := by
  induction members generalizing images with
  | nil => intro member present; cases present
  | cons first rest inductionHypothesis =>
    rw [List.mapM_cons, Option.bind_eq_bind, Option.bind_eq_some_iff] at mapped
    obtain ⟨image, found, mapped⟩ := mapped
    rw [Option.bind_eq_bind, Option.bind_eq_some_iff] at mapped
    obtain ⟨others, remaining, _⟩ := mapped
    intro member present
    rcases List.mem_cons.mp present with rfl | present
    · exact ⟨image, found⟩
    · exact inductionHypothesis remaining member present

/-- Pieces of raw text are no predicate, unless they are a single group. -/
theorem predicate?_of_pieces (pieces : ∀ part ∈ parts, ∃ piece, part.piece? = some piece)
    (several : ∀ condition term members, parts ≠ [.group condition term members]) :
    predicate? dialect parts = none := by
  unfold predicate?
  split
  case h_1 => exact absurd rfl (several _ _ _)
  case h_9 => rfl
  all_goals simp [Part.piece?, Part.term?] at pieces

/-- Pieces of raw text are no conjunction, unless they are a single group. -/
theorem conjunction?_of_pieces (pieces : ∀ part ∈ parts, ∃ piece, part.piece? = some piece)
    (several : ∀ condition term members, parts ≠ [.group condition term members]) :
    conjunction? dialect parts = none := by
  have undivided : ∀ part ∈ parts, part.isKeyword .AND = false := by
    intro part member
    obtain ⟨piece, found⟩ := pieces part member
    exact Part.isToken_of_piece? found _
  have unnegated : negation? dialect parts = predicate? dialect parts := by
    unfold negation?
    split
    · simp [Part.piece?, Part.term?] at pieces
    · rfl
  rw [conjunction?, conjuncts_eq_singleton false undivided, List.mapM_cons, unnegated,
    predicate?_of_pieces pieces several]
  rfl

/-- Raw text with faithful arguments is read as the term that it is. -/
theorem condition?_of_pieces {pieces : List (Piece Term)}
    (found : parts.mapM Part.piece? = some pieces) (faithful : ∀ part ∈ parts, part.Faithful) :
    ∃ formula, condition? dialect parts = some formula ∧
      ∀ reading : Interpretation,
        reading.truth formula = reading.engine.holds (reading.value (.splice pieces)) := by
  have each := exists_of_mapM found
  have undivided : ∀ part ∈ parts, part.isKeyword .OR = false := by
    intro part member
    obtain ⟨piece, known⟩ := each part member
    exact Part.isToken_of_piece? known _
  have whole := List.splitOnP_eq_singleton undivided
  by_cases single : ∃ condition term members, parts = [.group condition term members]
  · obtain ⟨condition, term, members, rfl⟩ := single
    -- The group is read by itself, and faithfully.
    obtain ⟨piece, known⟩ := each _ (.head _)
    obtain ⟨term, rfl, rfl⟩ := Option.map_eq_some_iff.mp known
    obtain ⟨formula, rfl, means⟩ := faithful _ (.head _)
    obtain rfl : [Piece.argument term] = pieces := by simpa [known] using found
    exact ⟨formula, (conjunctive_group rfl).condition, means⟩
  · have several : ∀ condition term members, parts ≠ [.group condition term members] :=
      fun condition term members same => single ⟨condition, term, members, same⟩
    have none : conjunction? dialect parts = none := conjunction?_of_pieces each several
    refine ⟨.holds (.splice pieces), ?_, fun reading => rfl⟩
    simp [condition?, whole, disjunct?, none, splice?, found, joined]

/-- Raw text in parentheses is faithful. -/
theorem faithful_group {pieces : List (Piece Term)} (found : parts.mapM Part.piece? = some pieces)
    (faithful : ∀ part ∈ parts, part.Faithful) : (group dialect parts).Faithful := by
  simp only [group, splice?, found, Option.map_some, Part.Faithful]
  exact condition?_of_pieces found faithful

/-- A fragment that is one part, and that part the given term. -/
def ReadsTerm (dialect : Dialect) (fragment : Fragment) (term : Term) : Prop :=
  ∃ part : Part, Nests dialect fragment [part] ∧ part.term? = some term ∧ part.Faithful

/-- A name is a column. -/
theorem readsTerm_ident (name : String) :
    ReadsTerm dialect (Fragment.ident name) (.column name) :=
  ⟨.chunk (.ident name), nests_plain (by simp [Fragment.ident, isParen]), rfl, trivial⟩

/-- A parameter is one. -/
theorem readsTerm_param (name : String) : ReadsTerm dialect (Fragment.param name) (.param name) :=
  ⟨.chunk (.param name), nests_plain (by simp [Fragment.param, isParen]), rfl, trivial⟩

/-- A fragment read as the given condition. Unless it is a disjunction, it can stand next
to AND. -/
def Reads (dialect : Dialect) (fragment : Fragment) (disjunction : Bool) (formula : Formula) :
    Prop :=
  ∃ parts, Nests dialect fragment parts ∧ condition? dialect parts = some formula ∧
    (disjunction = false → Conjunctive dialect parts formula)

/-- Whether a part is one of the words that decide where a condition is divided. -/
def divides (part : Part) : Bool :=
  part.isKeyword .AND || part.isKeyword .OR || part.isKeyword .BETWEEN

@[simp] theorem divides_token (token : Token) : divides (.chunk (.token token)) =
    (token == .keyword .AND || token == .keyword .OR || token == .keyword .BETWEEN) := rfl

@[simp] theorem divides_group (condition : Option Formula) (term : Option Term)
    (members : Option (List Term)) : divides (.group condition term members) = false := rfl

/-- Without BETWEEN none waits for its AND. -/
theorem settled_of_plain (plain : ∀ part ∈ parts, divides part = false) :
    parts.foldl pendingAfter false = false := by
  induction parts with
  | nil => rfl
  | cons part rest inductionHypothesis =>
    have first := plain part (.head _)
    simp only [divides, Bool.or_eq_false_iff] at first
    rw [List.foldl_cons, pendingAfter, first.2, Bool.false_and, Bool.or_false]
    exact inductionHypothesis fun other member => plain other (.tail _ member)

/-- Parts begun by a term are a predicate or nothing. -/
theorem negation?_of_term {first : Part} {rest : List Part} {term : Term}
    (begun : first.term? = some term) :
    negation? dialect (first :: rest) = predicate? dialect (first :: rest) := by
  unfold negation?
  split
  · rename_i same
    cases same
    cases begun
  · rfl

/-- A predicate begun by a term, with none of the words that divide. -/
theorem reads_of_predicate {fragment : Fragment} {first : Part} {rest : List Part} {term : Term}
    {formula : Formula} (nests : Nests dialect fragment (first :: rest))
    (begun : first.term? = some term)
    (plain : ∀ part ∈ first :: rest, divides part = false)
    (found : predicate? dialect (first :: rest) = some formula) :
    Reads dialect fragment false formula := by
  have undivided : ∀ part ∈ first :: rest, part.isKeyword .AND = false ∧
      part.isKeyword .OR = false := by
    intro part member
    have none := plain part member
    simp only [divides, Bool.or_eq_false_iff] at none
    exact none.1
  have conjunctive : Conjunctive dialect (first :: rest) formula :=
    conjunctive_of_negation (conjuncts_eq_singleton false fun part member =>
      (undivided part member).1) (settled_of_plain plain)
      (fun part member => (undivided part member).2) ((negation?_of_term begun).trans found)
  exact ⟨_, nests, conjunctive.condition, fun _ => conjunctive⟩

/-- A term does not divide. -/
theorem divides_of_term? {part : Part} {term : Term} (found : part.term? = some term) :
    divides part = false := by
  simp [divides, Part.isKeyword, Part.isToken_of_term? found]

/-- A comparison of two terms. -/
theorem reads_compare {left right : Fragment} {first second : Term} (sign : Comparison)
    (before : ReadsTerm dialect left first) (after : ReadsTerm dialect right second) :
    Reads dialect (left ++ Fragment.comparison sign ++ right) false
      (.compare sign first second) := by
  obtain ⟨part, nestsLeft, knownLeft, _⟩ := before
  obtain ⟨other, nestsRight, knownRight, _⟩ := after
  have signed := nests_token dialect (.comparison sign) rfl
  refine reads_of_predicate ((nestsLeft.append signed).append nestsRight) knownLeft ?_ ?_
  · simp [divides_of_term? knownLeft, divides_of_term? knownRight]
  · simp [predicate?, Part.operand?_of_term? dialect knownLeft,
      Part.operand?_of_term? dialect knownRight]

/-- A column compared with the literal for true. -/
theorem reads_isTrue (name : String) :
    Reads dialect (Fragment.ident name ++ Fragment.comparison .eq ++
      Fragment.raw (dialect.boolLiteral true)) false
      (.compare .eq (.column name) (.constant (.bool true))) := by
  have nests : Nests dialect (Fragment.ident name ++ Fragment.comparison .eq ++
      Fragment.raw (dialect.boolLiteral true)) [.chunk (.ident name),
        .chunk (.token (.comparison .eq)), .chunk (.raw (dialect.boolLiteral true))] :=
    nests_plain (by simp [Fragment.ident, Fragment.comparison, Fragment.raw, isParen])
  refine reads_of_predicate nests rfl ?_ ?_
  · simp [divides, Part.isKeyword, Part.isToken]
  · simp [predicate?, Part.operand?, Part.term?]

/-- A test for NULL. -/
theorem reads_isNull {fragment : Fragment} {term : Term}
    (operand : ReadsTerm dialect fragment term) :
    Reads dialect (fragment ++ Fragment.keywords [.IS, .NULL]) false (.isNull term) := by
  obtain ⟨part, nests, known, _⟩ := operand
  have words : Nests dialect (Fragment.keywords [.IS, .NULL])
      [.chunk (.token (.keyword .IS)), .chunk (.token (.keyword .NULL))] :=
    nests_plain (by simp [Fragment.keywords, isParen])
  refine reads_of_predicate (nests.append words) known ?_ ?_
  · simp [divides_of_term? known]
  · simp [predicate?, Part.operand?_of_term? dialect known]

/-- A test for a value. -/
theorem reads_isNotNull {fragment : Fragment} {term : Term}
    (operand : ReadsTerm dialect fragment term) :
    Reads dialect (fragment ++ Fragment.keywords [.IS, .NOT, .NULL]) false
      (.not (.isNull term)) := by
  obtain ⟨part, nests, known, _⟩ := operand
  have words : Nests dialect (Fragment.keywords [.IS, .NOT, .NULL])
      [.chunk (.token (.keyword .IS)), .chunk (.token (.keyword .NOT)),
        .chunk (.token (.keyword .NULL))] :=
    nests_plain (by simp [Fragment.keywords, isParen])
  refine reads_of_predicate (nests.append words) known ?_ ?_
  · simp [divides_of_term? known]
  · simp [predicate?, Part.operand?_of_term? dialect known]

/-- A match against a pattern. -/
theorem reads_like {left right : Fragment} {first second : Term}
    (before : ReadsTerm dialect left first) (after : ReadsTerm dialect right second) :
    Reads dialect (left ++ Fragment.keyword .LIKE ++ right) false (.like first second) := by
  obtain ⟨part, nestsLeft, knownLeft, _⟩ := before
  obtain ⟨other, nestsRight, knownRight, _⟩ := after
  have word := nests_token dialect (.keyword .LIKE) rfl
  refine reads_of_predicate ((nestsLeft.append word).append nestsRight) knownLeft ?_ ?_
  · simp [divides_of_term? knownLeft, divides_of_term? knownRight]
  · simp [predicate?, Part.operand?_of_term? dialect knownLeft,
      Part.operand?_of_term? dialect knownRight]

/-- A test for an interval. Its AND is its own, and none is waited for afterwards. -/
theorem reads_between {subject low high : Fragment} {first second third : Term}
    (tested : ReadsTerm dialect subject first) (lower : ReadsTerm dialect low second)
    (upper : ReadsTerm dialect high third) :
    Reads dialect (subject ++ Fragment.keyword .BETWEEN ++ low ++ Fragment.keyword .AND ++ high)
      false (.between first second third) := by
  obtain ⟨part, nestsSubject, knownSubject, _⟩ := tested
  obtain ⟨bottom, nestsLow, knownLow, _⟩ := lower
  obtain ⟨top, nestsHigh, knownHigh, _⟩ := upper
  have between := nests_token dialect (.keyword .BETWEEN) rfl
  have and := nests_token dialect (.keyword .AND) rfl
  have nests := (((nestsSubject.append between).append nestsLow).append and).append nestsHigh
  have unmarked := divides_of_term? knownSubject
  have unmarkedLow := divides_of_term? knownLow
  have unmarkedHigh := divides_of_term? knownHigh
  simp only [divides, Bool.or_eq_false_iff] at unmarked unmarkedLow unmarkedHigh
  have conjunctive : Conjunctive dialect [part, .chunk (.token (.keyword .BETWEEN)), bottom,
      .chunk (.token (.keyword .AND)), top] (.between first second third) := by
    refine conjunctive_of_negation ?_ ?_ ?_ ?_
    · simp [conjuncts, pendingAfter, unmarked, unmarkedLow, unmarkedHigh]
    · simp [pendingAfter, unmarked, unmarkedLow, unmarkedHigh]
    · simp [unmarked, unmarkedLow, unmarkedHigh]
    · rw [negation?_of_term knownSubject]
      simp [predicate?, Part.operand?_of_term? dialect knownSubject,
        Part.operand?_of_term? dialect knownLow, Part.operand?_of_term? dialect knownHigh]
  exact ⟨_, nests, conjunctive.condition, fun _ => conjunctive⟩

/-- Terms separated by commas are members of a list. -/
theorem members?_of_commaList (members : List (Fragment × Term)) (nonempty : members ≠ [])
    (each : ∀ member ∈ members, ReadsTerm dialect member.1 member.2) :
    ∃ parts, Nests dialect (Fragment.commaList (members.map Prod.fst)) parts ∧
      members? dialect parts = some (members.map Prod.snd) := by
  induction members with
  | nil => exact absurd rfl nonempty
  | cons first rest inductionHypothesis =>
    obtain ⟨part, nests, known, _⟩ := each first (.head _)
    have alone : List.splitOnP (Part.isToken (.punctuation .comma)) [part] = [[part]] :=
      List.splitOnP_eq_singleton (by simp [Part.isToken_of_term? known])
    have single : single? dialect [part] = some first.2 := Part.operand?_of_term? dialect known
    cases rest with
    | nil => exact ⟨[part], nests, by simp [members?, alone, single]⟩
    | cons next others =>
      obtain ⟨parts, nestsOthers, found⟩ := inductionHypothesis (List.cons_ne_nil _ _)
        fun member present => each member (.tail _ present)
      have comma := nests_token dialect (.punctuation .comma) rfl
      refine ⟨[part] ++ .chunk (.token (.punctuation .comma)) :: parts,
        nests.append (comma.append nestsOthers), ?_⟩
      unfold members? at found ⊢
      rw [List.splitOnP_append_cons _ _ (by rfl), alone, List.mapM_append, found]
      simp [single]

/-- A test for membership. -/
theorem reads_within {subject : Fragment} {first : Term} {members : List (Fragment × Term)}
    (tested : ReadsTerm dialect subject first) (nonempty : members ≠ [])
    (each : ∀ member ∈ members, ReadsTerm dialect member.1 member.2) :
    Reads dialect (subject ++ Fragment.keyword .IN ++
      Fragment.parens (Fragment.commaList (members.map Prod.fst))) false
      (.within first (members.map Prod.snd)) := by
  obtain ⟨part, nests, known, _⟩ := tested
  obtain ⟨parts, nestsMembers, found⟩ := members?_of_commaList members nonempty each
  have word := nests_token dialect (.keyword .IN) rfl
  refine reads_of_predicate ((nests.append word).append nestsMembers.parens) known ?_ ?_
  · simp [divides_of_term? known, group]
  · simp [predicate?, Part.operand?_of_term? dialect known, group, found]

/-- A truth value. -/
theorem reads_truth (b : Bool) : Reads dialect (Fragment.truth b) false (.literal b) := by
  have nests : Nests dialect (Fragment.truth b) [.chunk (.truth b)] :=
    nests_plain (by simp [Fragment.truth, isParen])
  have conjunctive : Conjunctive dialect [.chunk (.truth b)] (.literal b) :=
    conjunctive_of_negation rfl rfl (by simp [Part.isKeyword, Part.isToken]) rfl
  exact ⟨_, nests, conjunctive.condition, fun _ => conjunctive⟩

/-- What is in parentheses can stand next to AND. -/
theorem Reads.parens {fragment : Fragment} {disjunction : Bool} {formula : Formula}
    (inside : Reads dialect fragment disjunction formula) :
    Reads dialect (Fragment.parens fragment) false formula := by
  obtain ⟨parts, nests, found, _⟩ := inside
  have conjunctive : Conjunctive dialect [group dialect parts] formula := conjunctive_group found
  exact ⟨_, nests.parens, conjunctive.condition, fun _ => conjunctive⟩

/-- The negation of what is in parentheses. -/
theorem Reads.not {fragment : Fragment} {disjunction : Bool} {formula : Formula}
    (inside : Reads dialect fragment disjunction formula) :
    Reads dialect (Fragment.keyword .NOT ++ Fragment.parens fragment) false (.not formula) := by
  obtain ⟨parts, nests, found, _⟩ := inside
  have conjunctive : Conjunctive dialect [.chunk (.token (.keyword .NOT)), group dialect parts]
      (.not formula) := conjunctive_not found
  have word := nests_token dialect (.keyword .NOT) rfl
  exact ⟨_, word.append nests.parens, conjunctive.condition, fun _ => conjunctive⟩

/-- Conditions that are no disjunctions on both sides of AND. -/
theorem Reads.and {before after : Fragment} {first second : Formula}
    (left : Reads dialect before false first) (right : Reads dialect after false second) :
    ∃ formula, Reads dialect (before ++ Fragment.keyword .AND ++ after) false formula ∧
      ∀ reading : Interpretation,
        reading.truth formula = (reading.truth first).and (reading.truth second) := by
  obtain ⟨parts, nests, _, conjunctive⟩ := left
  obtain ⟨others, nestsOthers, _, conjunctiveOthers⟩ := right
  obtain ⟨formula, whole, means⟩ := (conjunctive rfl).and (conjunctiveOthers rfl)
  have word := nests_token dialect (.keyword .AND) rfl
  refine ⟨formula, ⟨_, ?_, whole.condition, fun _ => whole⟩, means⟩
  rw [List.append_assoc]
  exact nests.append (word.append nestsOthers)

/-- Any conditions on both sides of OR. -/
theorem Reads.or {before after : Fragment} {firstDisjunction secondDisjunction : Bool}
    {first second : Formula} (left : Reads dialect before firstDisjunction first)
    (right : Reads dialect after secondDisjunction second) :
    ∃ formula, Reads dialect (before ++ Fragment.keyword .OR ++ after) true formula ∧
      ∀ reading : Interpretation,
        reading.truth formula = (reading.truth first).or (reading.truth second) := by
  obtain ⟨parts, nests, found, _⟩ := left
  obtain ⟨others, nestsOthers, foundOthers, _⟩ := right
  obtain ⟨formula, whole, means⟩ := condition?_or found foundOthers
  have word := nests_token dialect (.keyword .OR) rfl
  refine ⟨formula, ⟨_, ?_, whole, fun same => nomatch same⟩, means⟩
  rw [List.append_assoc]
  exact nests.append (word.append nestsOthers)

/-- A fragment of raw text and faithful arguments. -/
def ReadsPieces (dialect : Dialect) (fragment : Fragment) (pieces : List (Piece Term)) : Prop :=
  ∃ parts, Nests dialect fragment parts ∧ parts.mapM Part.piece? = some pieces ∧
    ∀ part ∈ parts, part.Faithful

namespace ReadsPieces

variable {fragment : Fragment} {pieces : List (Piece Term)}

/-- No text at all. -/
theorem nil : ReadsPieces dialect [] [] :=
  ⟨[], fun nesting => by simp, rfl, fun _ member => nomatch member⟩

/-- A faithful part in front. -/
theorem cons {first : Fragment} {part : Part} {piece : Piece Term}
    (nests : Nests dialect first [part]) (known : part.piece? = some piece)
    (faithful : part.Faithful) (rest : ReadsPieces dialect fragment pieces) :
    ReadsPieces dialect (first ++ fragment) (piece :: pieces) := by
  obtain ⟨parts, nestsRest, found, faithfulRest⟩ := rest
  refine ⟨part :: parts, nests.append nestsRest, ?_, ?_⟩
  · rw [List.mapM_cons, known, found]
    rfl
  · intro other member
    rcases List.mem_cons.mp member with rfl | member
    · exact faithful
    · exact faithfulRest other member

/-- Text in front. -/
theorem text (s : String) (rest : ReadsPieces dialect fragment pieces) :
    ReadsPieces dialect (Fragment.raw s ++ fragment) (.text s :: pieces) := by
  have nests : Nests dialect (Fragment.raw s) [.chunk (.raw s)] :=
    nests_plain (by simp [Fragment.raw, isParen])
  exact cons nests rfl trivial rest

/-- An argument in front. -/
theorem argument {first : Fragment} {term : Term} (called : ReadsTerm dialect first term)
    (rest : ReadsPieces dialect fragment pieces) :
    ReadsPieces dialect (first ++ fragment) (.argument term :: pieces) := by
  obtain ⟨part, nests, known, faithful⟩ := called
  exact cons nests (Part.piece?_of_term? known) faithful rest

/-- In parentheses, raw text is a term. -/
theorem parens (inside : ReadsPieces dialect fragment pieces) :
    ReadsTerm dialect (Fragment.parens fragment) (.splice pieces) := by
  obtain ⟨parts, nests, found, faithful⟩ := inside
  refine ⟨group dialect parts, nests.parens, ?_, faithful_group found faithful⟩
  simp [group, Part.term?, splice?, found]

/-- In the place of a condition, raw text is read as the term that it is. It may have an OR
of its own. -/
theorem reads (inside : ReadsPieces dialect fragment pieces) :
    ∃ formula, Reads dialect fragment true formula ∧
      ∀ reading : Interpretation,
        reading.truth formula = reading.engine.holds (reading.value (.splice pieces)) := by
  obtain ⟨parts, nests, found, faithful⟩ := inside
  obtain ⟨formula, whole, means⟩ := condition?_of_pieces found faithful
  exact ⟨formula, ⟨parts, nests, whole, fun same => nomatch same⟩, means⟩

end ReadsPieces

end Reader
end Sqlwright.Sql
