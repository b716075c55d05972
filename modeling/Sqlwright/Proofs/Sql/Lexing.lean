import Mathlib.Data.List.Basic
import Sqlwright.Proofs.Sql.Spacing
import Sqlwright.Proofs.Text.Identifier
import Sqlwright.Proofs.Text.Undoubling
import Sqlwright.Text.Blank

/-!
# Reading a text lexeme by lexeme

A database reads a statement as a sequence of lexemes: names in quotes, placeholders, words,
numbers, operators and punctuation, each as long as it can be, with blanks between them skipped.
A closing quote that is doubled belongs to the name.

Where a lexeme ends depends on what follows it. So a piece of text is said to be lexed in front
of a rest: there the reader finds the lexemes of the piece, and goes on with the rest as if the
piece had not been there. Pieces that are lexed in front of one another compose.
-/

namespace Sqlwright

namespace Dialect

/-- What may stand in a word behind its first character. -/
def continuesWord (dialect : Dialect) (c : Char) : Bool :=
  Text.isIdentifierChar c || c == '$' || (dialect == .sqlserver && (c == '@' || c == '#'))

/-- The operators that begin with a comparison sign or an exclamation mark, longer ones
first. -/
def operators : Dialect → List String
  | .sqlite => ["<>", "<=", ">=", "==", "!=", "<<", ">>", "=", "<", ">"]
  | .postgresql => ["<>", "<=", ">=", "=>", "!=", "<<", ">>", "=", "<", ">"]
  | .mysql => ["<=>", "<>", "<=", ">=", "!=", "<<", ">>", "=", "<", ">"]
  | .sqlserver => ["<>", "<=", ">=", "!=", "!<", "!>", "=", "<", ">"]

/-- The character with which a placeholder begins. -/
def placeholderSign : Dialect → Char
  | .sqlite | .mysql => '?'
  | .postgresql => '$'
  | .sqlserver => '@'

/-- What may stand in a placeholder behind its sign. -/
def continuesPlaceholder : Dialect → Char → Bool
  | .sqlite | .postgresql => Char.isDigit
  | .mysql => fun _ => false
  | .sqlserver => continuesWord .sqlserver

end Dialect

namespace Sql

/-- The smallest parts of a text that mean something. -/
inductive Lexeme where
  /-- A name in quotes, by what it is without them. -/
  | name (text : String)
  | placeholder (text : String)
  | word (text : String)
  | number (text : String)
  | operator (text : String)
  | punctuation (sign : Punctuation)
deriving DecidableEq, Repr

namespace Lexeme

/-- What a word begins with. -/
def startsWord (c : Char) : Bool := Text.isIdentifierChar c && !c.isDigit

/-- What a number begins with: a digit, or a point in front of one. -/
def startsNumber : List Char → Bool
  | '.' :: c :: _ => c.isDigit
  | c :: _ => c.isDigit
  | [] => false

/-- What may stand in a number behind its first character. Letters are taken in, as a number
and a word need something between them. -/
def continuesNumber (dialect : Dialect) (c : Char) : Bool := dialect.continuesWord c || c == '.'

/-- The punctuation sign that a character is. -/
def punctuation? (c : Char) : Option Punctuation :=
  [Punctuation.leftParen, .rightParen, .comma, .semicolon, .point].find? (·.mark == c)

/-- The longest run of characters of a class, as a lexeme, and what follows it. -/
def run (make : String → Lexeme) (continues : Char → Bool) (text : List Char) :
    Lexeme × List Char :=
  (make (String.ofList (text.takeWhile continues)), text.dropWhile continues)

/-- A placeholder behind its sign. One with a number needs it. -/
def placeholder? (dialect : Dialect) (rest : List Char) : Option (Lexeme × List Char) :=
  let number := rest.takeWhile dialect.continuesPlaceholder
  if dialect.numbersPlaceholders && number.isEmpty then none
  else some (.placeholder (String.ofList (dialect.placeholderSign :: number)),
    rest.dropWhile dialect.continuesPlaceholder)

/-- The longest operator in front of a text. -/
def operator? (dialect : Dialect) (text : List Char) : Option (Lexeme × List Char) :=
  dialect.operators.findSome? fun sign =>
    (text.dropPrefix? sign.toList).map fun rest => (.operator sign, rest)

/-- The first lexeme of a text that does not begin with a blank, and what follows it. -/
def first? (dialect : Dialect) : List Char → Option (Lexeme × List Char)
  | [] => none
  | c :: rest =>
    if c = dialect.openQuote then
      (Text.closed? dialect.closeQuote rest).map fun (text, after) =>
        (.name (String.ofList text), after)
    else if c = dialect.placeholderSign then placeholder? dialect rest
    else if startsWord c then some (run .word dialect.continuesWord (c :: rest))
    else if startsNumber (c :: rest) then some (run .number (continuesNumber dialect) (c :: rest))
    else match punctuation? c with
      | some sign => some (.punctuation sign, rest)
      | none => operator? dialect (c :: rest)

/-- A run that begins with a character of its class takes at least this one. -/
theorem length_run_lt {make : String → Lexeme} {continues : Char → Bool} {c : Char}
    {rest after : List Char} {lexeme : Lexeme} (starts : continues c = true)
    (found : run make continues (c :: rest) = (lexeme, after)) :
    after.length < (c :: rest).length := by
  cases found
  rw [List.dropWhile_cons_of_pos starts]
  exact Nat.lt_succ_of_le (List.dropWhile_sublist _).length_le

theorem continuesWord_of_isIdentifierChar {dialect : Dialect} {c : Char}
    (identifier : Text.isIdentifierChar c = true) : dialect.continuesWord c = true := by
  simp [Dialect.continuesWord, identifier]

/-- What begins a word may stand in one. -/
theorem continuesWord_of_startsWord {dialect : Dialect} {c : Char}
    (starts : startsWord c = true) : dialect.continuesWord c = true :=
  continuesWord_of_isIdentifierChar (Bool.and_eq_true_iff.mp starts).1

theorem continuesWord_of_isDigit {dialect : Dialect} {c : Char} (digit : c.isDigit = true) :
    dialect.continuesWord c = true :=
  continuesWord_of_isIdentifierChar (Text.isIdentifierChar_of_isDigit digit)

/-- What begins a number may stand in one. -/
theorem continuesNumber_of_startsNumber {dialect : Dialect} {c : Char} {rest : List Char}
    (starts : startsNumber (c :: rest) = true) : continuesNumber dialect c = true := by
  by_cases point : c = '.'
  · simp [continuesNumber, point]
  · have digit : c.isDigit = true := by
      cases rest <;> simpa [startsNumber, point] using starts
    simp [continuesNumber, continuesWord_of_isDigit digit]

/-- Every operator has a character at least. -/
theorem operators_ne_empty (dialect : Dialect) :
    ∀ sign ∈ dialect.operators, sign.toList ≠ [] := by
  cases dialect <;> decide

/-- A lexeme takes at least one character. -/
theorem length_of_first? {dialect : Dialect} {text after : List Char} {lexeme : Lexeme}
    (found : first? dialect text = some (lexeme, after)) : after.length < text.length := by
  unfold first? at found
  split at found
  · cases found
  · rename_i c rest
    split at found
    · obtain ⟨⟨name, _⟩, closed, same⟩ := Option.map_eq_some_iff.mp found
      cases same
      exact Nat.lt_succ_of_lt (Text.length_of_closed? closed)
    · split at found
      · unfold placeholder? at found
        dsimp only at found
        split at found
        · cases found
        · cases found
          exact Nat.lt_succ_of_le (List.dropWhile_sublist _).length_le
      · split at found
        · rename_i starts
          exact length_run_lt (continuesWord_of_startsWord starts) (Option.some.inj found)
        · split at found
          · rename_i starts
            exact length_run_lt (continuesNumber_of_startsNumber starts) (Option.some.inj found)
          · split at found
            · cases found
              exact Nat.lt_succ_self _
            · obtain ⟨sign, listed, found⟩ := List.exists_of_findSome?_eq_some found
              obtain ⟨_, dropped, same⟩ := Option.map_eq_some_iff.mp found
              cases same
              obtain ⟨front, divided, read⟩ := List.dropPrefix?_eq_some_iff.mp dropped
              have some : 0 < front.length := by
                rw [eq_of_beq read]
                exact List.length_pos_iff.mpr (operators_ne_empty dialect sign listed)
              rw [divided, List.length_append]
              omega

end Lexeme

/-- The lexemes of a text, blanks skipped. A text that has something else in it has none. -/
def lex (dialect : Dialect) : List Char → Option (List Lexeme)
  | [] => some []
  | c :: rest =>
    if Text.isBlank c then lex dialect rest
    else match _found : Lexeme.first? dialect (c :: rest) with
      | none => none
      | some (lexeme, after) => (lex dialect after).map (lexeme :: ·)
termination_by text => text.length
decreasing_by
  · exact Nat.lt_succ_self _
  · exact Lexeme.length_of_first? ‹_›

section

variable {dialect : Dialect} {text rest after : List Char} {c : Char}

@[simp] theorem lex_nil : lex dialect [] = some [] := by rw [lex]

/-- A blank is skipped. -/
theorem lex_blank (blank : Text.isBlank c = true) : lex dialect (c :: rest) = lex dialect rest := by
  rw [lex, if_pos blank]

/-- A lexeme is read, and then the rest. -/
theorem lex_first {lexeme : Lexeme} (visible : Text.isBlank c = false)
    (found : Lexeme.first? dialect (c :: rest) = some (lexeme, after)) :
    lex dialect (c :: rest) = (lex dialect after).map (lexeme :: ·) := by
  rw [lex, if_neg (by simp [visible])]
  split
  · rename_i none
    rw [found] at none
    cases none
  · rename_i other _ same
    rw [found] at same
    cases same
    rfl

end

/-- In front of the rest, a text is read as these lexemes. -/
def Lexed (dialect : Dialect) (text rest : List Char) (lexemes : List Lexeme) : Prop :=
  lex dialect (text ++ rest) = (lex dialect rest).map (lexemes ++ ·)

namespace Lexed

variable {dialect : Dialect} {text left right rest : List Char} {lexemes first second : List Lexeme}

/-- Texts are read one after another. -/
theorem append (lexed : Lexed dialect left (right ++ rest) first)
    (also : Lexed dialect right rest second) :
    Lexed dialect (left ++ right) rest (first ++ second) := by
  unfold Lexed at *
  rw [List.append_assoc, lexed, also, Option.map_map]
  congr 1
  funext later
  exact (List.append_assoc _ _ _).symm

/-- A text that is one lexeme in front of the rest. -/
theorem of_first {c : Char} {inner : List Char} {lexeme : Lexeme}
    (visible : Text.isBlank c = false)
    (found : Lexeme.first? dialect (c :: inner ++ rest) = some (lexeme, rest)) :
    Lexed dialect (c :: inner) rest [lexeme] :=
  lex_first visible found

/-- In front of nothing, the lexemes are those of the text alone. -/
theorem lex_eq (lexed : Lexed dialect text [] lexemes) : lex dialect text = some lexemes := by
  unfold Lexed at lexed
  simpa using lexed

end Lexed
end Sql
end Sqlwright
