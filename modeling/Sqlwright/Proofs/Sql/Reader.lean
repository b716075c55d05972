import Sqlwright.Proofs.Sql.Formula
import Sqlwright.Sql.Fragment

/-!
# Reading conditions

A condition is read from its chunks in one pass that keeps a stack of the parentheses that
are open. Where one closes, what stood inside has no parentheses any more and is read at
once. Such a flat part is read by the precedence of SQL: it is split at OR, then at AND,
then NOT is taken off, and what is left is a comparison, a test, or a group. The AND that
belongs to a BETWEEN does not split.

Raw text is not looked into. Where it stands for a whole disjunct, or for all that is in
parentheses, it is read together with its arguments as one term. Nowhere else: next to AND
or NOT it would not be known how far these reach.
-/

namespace Sqlwright.Sql

/-- What a chunk or a pair of parentheses contributes to a condition. What stands in
parentheses has been read as a condition, as a term, and as a list of terms, so far as it
is one. -/
inductive Part where
  | chunk (chunk : Chunk)
  | group (condition : Option Formula) (term : Option Term) (members : Option (List Term))

namespace Part

/-- Whether a part is the given token. -/
def isToken (token : Token) : Part → Bool
  | .chunk (.token other) => other == token
  | _ => false

/-- Whether a part is the given keyword. -/
def isKeyword (word : Keyword) : Part → Bool := isToken (.keyword word)

/-- The term that a part is. -/
def term? : Part → Option Term
  | .chunk (.ident name) => some (.column name)
  | .chunk (.param name) => some (.param name)
  | .group _ term _ => term
  | _ => none

/-- What a part is in the midst of raw text. -/
def piece? : Part → Option (Piece Term)
  | .chunk (.raw text) => some (.text text)
  | part => part.term?.map .argument

/-- What a part is as an operand. Text that spells a truth value of the dialect is one. -/
def operand? (dialect : Dialect) : Part → Option Term
  | .chunk (.raw text) =>
    if text = dialect.boolLiteral true then some (.constant (.bool true))
    else if text = dialect.boolLiteral false then some (.constant (.bool false))
    else none
  | part => part.term?

end Part

namespace Reader

/-- A part with a comparison, with another test, or with a condition of its own. -/
def predicate? (dialect : Dialect) : List Part → Option Formula
  | [.group condition _ _] => condition
  | [.chunk (.truth b)] => some (.literal b)
  | [left, .chunk (.token (.comparison sign)), right] => do
    return .compare sign (← left.operand? dialect) (← right.operand? dialect)
  | [subject, .chunk (.token (.keyword .IS)), .chunk (.token (.keyword .NULL))] => do
    return .isNull (← subject.operand? dialect)
  | [subject, .chunk (.token (.keyword .IS)), .chunk (.token (.keyword .NOT)),
      .chunk (.token (.keyword .NULL))] => do
    return .not (.isNull (← subject.operand? dialect))
  | [subject, .chunk (.token (.keyword .LIKE)), pattern] => do
    return .like (← subject.operand? dialect) (← pattern.operand? dialect)
  | [subject, .chunk (.token (.keyword .BETWEEN)), low, .chunk (.token (.keyword .AND)), high] => do
    return .between (← subject.operand? dialect) (← low.operand? dialect)
      (← high.operand? dialect)
  | [subject, .chunk (.token (.keyword .IN)), .group _ _ members] => do
    return .within (← subject.operand? dialect) (← members)
  | _ => none

/-- A predicate, perhaps negated. -/
def negation? (dialect : Dialect) : List Part → Option Formula
  | .chunk (.token (.keyword .NOT)) :: rest => (negation? dialect rest).map .not
  | parts => predicate? dialect parts

/-- Whether a BETWEEN has yet to come to its AND, after one part more. -/
def pendingAfter (pending : Bool) (part : Part) : Bool :=
  part.isKeyword .BETWEEN || (pending && !part.isKeyword .AND)

/-- What stands between the words AND that connect. The flag says that a BETWEEN has yet to
come to its own. -/
def conjuncts (pending : Bool) : List Part → List (List Part)
  | [] => [[]]
  | part :: rest =>
    let others := conjuncts (pendingAfter pending part) rest
    if part.isKeyword .AND && !pending then [] :: others
    else others.modifyHead (part :: ·)

/-- Formulas connected from the left. -/
def joined (connective : Formula → Formula → Formula) : List Formula → Option Formula
  | [] => none
  | first :: rest => some (rest.foldl connective first)

/-- A conjunction. -/
def conjunction? (dialect : Dialect) (parts : List Part) : Option Formula :=
  ((conjuncts false parts).mapM (negation? dialect)).bind (joined .and)

/-- Raw text with its arguments. -/
def splice? (parts : List Part) : Option Term := (parts.mapM Part.piece?).map .splice

/-- A conjunction, or raw text in its place. -/
def disjunct? (dialect : Dialect) (parts : List Part) : Option Formula :=
  (conjunction? dialect parts).or ((splice? parts).map .holds)

/-- A condition: a disjunction. -/
def condition? (dialect : Dialect) (parts : List Part) : Option Formula :=
  ((parts.splitOnP (Part.isKeyword .OR)).mapM (disjunct? dialect)).bind (joined .or)

/-- A single operand. -/
def single? (dialect : Dialect) : List Part → Option Term
  | [part] => part.operand? dialect
  | _ => none

/-- Operands separated by commas. -/
def members? (dialect : Dialect) (parts : List Part) : Option (List Term) :=
  (parts.splitOnP (Part.isToken (.punctuation .comma))).mapM (single? dialect)

/-- The part that a pair of parentheses becomes. -/
def group (dialect : Dialect) (parts : List Part) : Part :=
  .group (condition? dialect parts) (splice? parts) (members? dialect parts)

/-- The parts since the last parenthesis that is open, and those before it. -/
structure Nesting where
  current : List Part
  /-- The parts before each open parenthesis, the innermost first. -/
  outer : List (List Part)

/-- One chunk more. A parenthesis that closes has to be open. -/
def step (dialect : Dialect) (nesting : Nesting) : Chunk → Option Nesting
  | .token (.punctuation .leftParen) => some ⟨[], nesting.current :: nesting.outer⟩
  | .token (.punctuation .rightParen) =>
    match nesting.outer with
    | [] => none
    | enclosing :: outer => some ⟨enclosing ++ [group dialect nesting.current], outer⟩
  | chunk => some ⟨nesting.current ++ [.chunk chunk], nesting.outer⟩

/-- The condition that a fragment is. -/
def read (dialect : Dialect) (fragment : Fragment) : Option Formula := do
  let nesting ← fragment.foldlM (step dialect) ⟨[], []⟩
  if nesting.outer.isEmpty then condition? dialect nesting.current else none

end Reader
end Sqlwright.Sql
