import Sqlwright.Proofs.Sql.Lexing
import Sqlwright.Proofs.Sql.Placeholders

/-!
# The lexemes of a written statement

Written with placeholders, a fragment is read as the lexemes of its chunks, one after another.
No two chunks are read as one, and no name ends before its closing quote, whatever characters it
has.

A chunk is read as its lexemes in front of everything that it admits behind it, and the spaces
between chunks see to it that nothing else follows. Raw text may say anything and is left out,
and a point has to join a name to another one: next to a number it would be part of it.
-/

namespace Sqlwright.Sql

namespace Lexeme

variable {dialect : Dialect} {c : Char} {text rest : List Char}

/-- Neither a quote nor the sign of a placeholder begins a word. -/
theorem not_startsWord_introducer (dialect : Dialect) :
    startsWord dialect.openQuote = false ∧ startsWord dialect.placeholderSign = false := by
  cases dialect <;> decide

/-- Nor do they begin a number. -/
theorem not_isDigit_introducer (dialect : Dialect) :
    dialect.openQuote.isDigit = false ∧ dialect.placeholderSign.isDigit = false := by
  cases dialect <;> decide

/-- Nor are they blank. -/
theorem not_isBlank_introducer (dialect : Dialect) :
    Text.isBlank dialect.openQuote = false ∧ Text.isBlank dialect.placeholderSign = false := by
  cases dialect <;> decide

/-- What does not continue a number continues neither a word nor a placeholder. -/
theorem not_continuesWord (ends : continuesNumber dialect c = false) :
    dialect.continuesWord c = false :=
  (Bool.or_eq_false_iff.mp ends).1

theorem not_continuesPlaceholder (ends : continuesNumber dialect c = false) :
    dialect.continuesPlaceholder c = false := by
  have word := not_continuesWord ends
  cases dialect with
  | mysql => rfl
  | sqlserver => exact word
  | _ =>
    cases digit : c.isDigit with
    | false => exact digit
    | true => rw [continuesWord_of_isDigit digit] at word; cases word

/-- Where the capital letters are. -/
theorem toNat_of_isUpper (capital : c.isUpper = true) : 65 ≤ c.toNat ∧ c.toNat ≤ 90 := by
  obtain ⟨low, high⟩ : 'A'.val ≤ c.val ∧ c.val ≤ 'Z'.val := of_decide_eq_true capital
  exact ⟨UInt32.le_iff_toNat_le.mp low, UInt32.le_iff_toNat_le.mp high⟩

/-- The capital letters are letters, and no digits. -/
theorem startsWord_of_isUpper (capital : c.isUpper = true) : startsWord c = true := by
  have everyCapital : ∀ n < 91, 65 ≤ n →
      Text.within Text.alphanumericBoundaries n = true ∧ ¬ n ≤ '9'.toNat := by decide
  obtain ⟨low, high⟩ := toNat_of_isUpper capital
  obtain ⟨letter, above⟩ := everyCapital c.toNat (Nat.lt_succ_of_le high) low
  have notDigit : ¬ c.isDigit = true := fun digit => above (Char.isDigit_iff_toNat.mp digit).2
  have alphanumeric : Text.isAlphanumeric c = true := letter
  simp [startsWord, Text.isIdentifierChar, alphanumeric, notDigit]

/-- A placeholder is its sign and what continues it. Where it has a number, something does. -/
theorem toList_placeholder (dialect : Dialect) (number : Nat) :
    ∃ suffix, (dialect.placeholder number).toList = dialect.placeholderSign :: suffix ∧
      (∀ c ∈ suffix, dialect.continuesPlaceholder c = true) ∧
      (dialect.numbersPlaceholders && suffix.isEmpty) = false := by
  have someDigit : (Text.decimal number).toList ≠ [] := by
    rw [Text.decimal, String.toList_ofList]
    exact Nat.toDigits_ne_nil
  cases dialect with
  | sqlite | mysql =>
    exact ⟨[], by simp [Dialect.placeholder, Dialect.placeholderSign], by simp, rfl⟩
  | postgresql =>
    refine ⟨(Text.decimal number).toList, ?_, fun c member => Text.isDigit_of_mem_decimal member,
      ?_⟩
    · simp [Dialect.placeholder, Dialect.placeholderSign]
    · simp [someDigit]
  | sqlserver =>
    refine ⟨'P' :: (Text.decimal number).toList, ?_, fun c member => ?_, rfl⟩
    · simp [Dialect.placeholder, Dialect.placeholderSign]
    · rcases List.mem_cons.mp member with rfl | digit
      · decide
      · exact continuesWord_of_isDigit (Text.isDigit_of_mem_decimal digit)

/-- Letters and digits of the Latin script can be seen. -/
theorem isBlank_of_visible (low : '0'.toNat ≤ c.toNat) (high : c.toNat ≤ 'Z'.toNat) :
    Text.isBlank c = false := by
  have everyVisible : ∀ n < 91, 48 ≤ n → Text.within Text.blankBoundaries n = false := by decide
  exact everyVisible c.toNat (Nat.lt_succ_of_le high) low

/-- A word is the longest run of what may stand in one. -/
theorem first?_word (starts : startsWord c = true) :
    first? dialect (c :: rest) = some (run .word dialect.continuesWord (c :: rest)) := by
  have apart := not_startsWord_introducer dialect
  have notQuote : c ≠ dialect.openQuote := fun same => by simp [same, apart.1] at starts
  have notSign : c ≠ dialect.placeholderSign := fun same => by simp [same, apart.2] at starts
  rw [first?, if_neg notQuote, if_neg notSign, if_pos starts]

/-- Likewise for a number that begins with a digit. -/
theorem first?_number (digit : c.isDigit = true) :
    first? dialect (c :: rest) = some (run .number (continuesNumber dialect) (c :: rest)) := by
  have apart := not_isDigit_introducer dialect
  have notQuote : c ≠ dialect.openQuote := fun same => by simp [same, apart.1] at digit
  have notSign : c ≠ dialect.placeholderSign := fun same => by simp [same, apart.2] at digit
  have notWord : ¬ startsWord c = true := by simp [startsWord, digit]
  have notPoint : c ≠ '.' := fun same => by simp [same] at digit
  have number : startsNumber (c :: rest) = true := by
    cases rest <;> simp [startsNumber, notPoint, digit]
  rw [first?, if_neg notQuote, if_neg notSign, if_neg notWord, if_pos number]

/-- A sign is punctuation, a point where no digit follows. -/
theorem first?_sign (sign : Punctuation)
    (ends : sign = .point → ∀ c ∈ rest.head?, c.isDigit = false) :
    first? dialect (sign.mark :: rest) = some (.punctuation sign, rest) := by
  have notQuote : sign.mark ≠ dialect.openQuote := by cases dialect <;> cases sign <;> decide
  have notSign : sign.mark ≠ dialect.placeholderSign := by
    cases dialect <;> cases sign <;> decide
  have notWord : ¬ startsWord sign.mark = true := by cases sign <;> decide
  have notNumber : ¬ startsNumber (sign.mark :: rest) = true := by
    cases sign with
    | point => cases rest with
      | nil => decide
      | cons c rest => simp [startsNumber, Punctuation.mark, ends rfl c rfl]
    | _ => cases rest <;> simp [startsNumber, Punctuation.mark]
  rw [first?, if_neg notQuote, if_neg notSign, if_neg notWord, if_neg notNumber]
  cases sign <;> rfl

/-- The characters of comparison signs. -/
def comparisonMarks : List Char := ['<', '=', '>']

/-- A comparison sign begins an operator. -/
theorem first?_operator (begins : c ∈ comparisonMarks) :
    first? dialect (c :: rest) = operator? dialect (c :: rest) := by
  simp only [comparisonMarks, List.mem_cons, List.not_mem_nil, or_false] at begins
  rcases begins with rfl | rfl | rfl <;> cases dialect <;> cases rest <;> rfl

/-- It is read whole, where no other comparison sign follows. -/
theorem operator?_comparison (dialect : Dialect) (sign : Comparison)
    (ends : ∀ c ∈ rest.head?, c ∉ comparisonMarks) :
    operator? dialect (sign.text.toList ++ rest) = some (.operator sign.text, rest) := by
  cases rest with
  | nil => cases dialect <;> cases sign <;> decide
  | cons c rest =>
    have apart := ends c rfl
    simp only [comparisonMarks, List.mem_cons, List.not_mem_nil, or_false, not_or] at apart
    obtain ⟨less, equal, greater⟩ := apart
    cases dialect <;> cases sign <;>
      simp [operator?, Dialect.operators, Comparison.text, List.dropPrefix?, List.findSome?,
        less, equal, greater]

end Lexeme

namespace Lexed

variable {dialect : Dialect} {rest : List Char}

/-- A name in quotes is read as that name, whatever it contains. -/
theorem name (single : rest.head? ≠ some dialect.closeQuote) (text : String) :
    Lexed dialect (dialect.quotedName text).toList rest [.name text] := by
  rw [Dialect.quotedName, String.toList_ofList, List.cons_append]
  refine of_first (Lexeme.not_isBlank_introducer dialect).1 ?_
  rw [List.cons_append, List.append_assoc, Lexeme.first?, if_pos rfl, List.singleton_append,
    Text.closed?_doubled single]
  simp

/-- The longest run of a class is read whole, where a character of another class follows. -/
theorem of_run {make : String → Lexeme} {continues : Char → Bool} {text : String}
    (nonempty : text.toList ≠ []) (inside : ∀ c ∈ text.toList, continues c = true)
    (ends : ∀ c ∈ rest.head?, continues c = false)
    (begins : ∀ c ∈ text.toList, Text.isBlank c = false ∧ ∀ after,
      Lexeme.first? dialect (c :: after) = some (Lexeme.run make continues (c :: after))) :
    Lexed dialect text.toList rest [make text] := by
  have taken := Text.takeWhile_run inside ends
  have left := Text.dropWhile_run inside ends
  obtain ⟨c, inner, same⟩ := List.exists_cons_of_ne_nil nonempty
  obtain ⟨visible, first⟩ := begins c (by simp [same])
  rw [same] at taken left ⊢
  refine of_first visible ?_
  rw [List.cons_append, first, Lexeme.run, ← List.cons_append, taken, left, ← same,
    String.ofList_toList]

/-- A word of capital letters is read whole. -/
theorem word {text : String} (nonempty : text.toList ≠ [])
    (capitals : text.toList.all Char.isUpper = true)
    (ends : ∀ c ∈ rest.head?, Lexeme.continuesNumber dialect c = false) :
    Lexed dialect text.toList rest [.word text] := by
  have capital (c : Char) (member : c ∈ text.toList) : c.isUpper = true :=
    List.all_eq_true.mp capitals c member
  have starts (c : Char) (member : c ∈ text.toList) : Lexeme.startsWord c = true :=
    Lexeme.startsWord_of_isUpper (capital c member)
  refine of_run nonempty (fun c member => Lexeme.continuesWord_of_startsWord (starts c member))
    (fun c next => Lexeme.not_continuesWord (ends c next)) fun c member => ⟨?_, fun after => ?_⟩
  · obtain ⟨low, high⟩ := Lexeme.toNat_of_isUpper (capital c member)
    exact Lexeme.isBlank_of_visible (Nat.le_trans (by decide) low) high
  · exact Lexeme.first?_word (starts c member)

/-- A number of digits is read whole. -/
theorem number {text : String} (nonempty : text.toList ≠ [])
    (digits : text.toList.all Char.isDigit = true)
    (ends : ∀ c ∈ rest.head?, Lexeme.continuesNumber dialect c = false) :
    Lexed dialect text.toList rest [.number text] := by
  have digit (c : Char) (member : c ∈ text.toList) : c.isDigit = true :=
    List.all_eq_true.mp digits c member
  refine of_run nonempty (fun c member => ?_) ends fun c member => ⟨?_, fun after => ?_⟩
  · simp [Lexeme.continuesNumber, Lexeme.continuesWord_of_isDigit (digit c member)]
  · obtain ⟨low, high⟩ := Char.isDigit_iff_toNat.mp (digit c member)
    exact Lexeme.isBlank_of_visible low (Nat.le_trans high (by decide))
  · exact Lexeme.first?_number (digit c member)

/-- A sign is read as it is, a point where no digit follows. -/
theorem sign (sign : Punctuation) (ends : sign = .point → ∀ c ∈ rest.head?, c.isDigit = false) :
    Lexed dialect sign.text.toList rest [.punctuation sign] := by
  rw [Punctuation.toList_text]
  exact of_first (by cases sign <;> decide) (Lexeme.first?_sign sign ends)

/-- A comparison sign is read whole, where no other one follows. -/
theorem comparison (sign : Comparison) (ends : ∀ c ∈ rest.head?, c ∉ Lexeme.comparisonMarks) :
    Lexed dialect sign.text.toList rest [.operator sign.text] := by
  obtain ⟨c, inner, same, begins, visible⟩ : ∃ c inner, sign.text.toList = c :: inner ∧
      c ∈ Lexeme.comparisonMarks ∧ Text.isBlank c = false := by
    cases sign <;> exact ⟨_, _, rfl, by decide, by decide⟩
  have read := Lexeme.operator?_comparison dialect sign ends
  rw [same] at read ⊢
  exact of_first visible ((Lexeme.first?_operator begins).trans read)

/-- A placeholder is read with its number. -/
theorem placeholder (number : Nat)
    (ends : ∀ c ∈ rest.head?, Lexeme.continuesNumber dialect c = false) :
    Lexed dialect (dialect.placeholder number).toList rest
      [.placeholder (dialect.placeholder number)] := by
  have outside : ∀ c ∈ rest.head?, dialect.continuesPlaceholder c = false := fun c next =>
    Lexeme.not_continuesPlaceholder (ends c next)
  obtain ⟨suffix, same, inside, numbered⟩ := Lexeme.toList_placeholder dialect number
  have taken := Text.takeWhile_run inside outside
  have left := Text.dropWhile_run inside outside
  have notQuote : dialect.placeholderSign ≠ dialect.openQuote := by cases dialect <;> decide
  have read : Lexeme.placeholder? dialect (suffix ++ rest) =
      some (.placeholder (dialect.placeholder number), rest) := by
    rw [Lexeme.placeholder?, taken, left, ← same, String.ofList_toList, numbered]
    rfl
  rw [same]
  refine of_first (Lexeme.not_isBlank_introducer dialect).2 ?_
  rw [List.cons_append, Lexeme.first?, if_neg notQuote, if_pos rfl, read]

end Lexed

namespace Chunk

/-- A truth value as a number. -/
def numeral (b : Bool) : String := if b then "1" else "0"

/-- A truth value as a word. -/
def truthWord (b : Bool) : String := if b then "TRUE" else "FALSE"

/-- The lexemes of a chunk, its parameters written as placeholders. Raw text has none that are
known. -/
def lexemes (dialect : Dialect) (placeholder : String → String) : Chunk → List Lexeme
  | .token (.punctuation sign) => [.punctuation sign]
  | .token (.comparison sign) => [.operator sign.text]
  | .token (.keyword word) => [.word word.text]
  | .ident name => [.name name]
  | .qualified none name => [.name name]
  | .qualified (some schema) name => [.name schema, .punctuation .point, .name name]
  | .raw _ => []
  | .param name => [.placeholder (placeholder name)]
  | .truth b => match dialect with
    | .sqlite => [.number (numeral b)]
    | .postgresql | .mysql => [.word (truthWord b)]
    | .sqlserver =>
      [.punctuation .leftParen, .number "1", .operator "=", .number (numeral b),
        .punctuation .rightParen]

/-- Whether a character may stand behind a chunk without becoming a part of it. -/
def admits (dialect : Dialect) : Chunk → Char → Bool
  | .token (.punctuation .point), c => !c.isDigit
  | .token (.punctuation _), _ => true
  | .token (.comparison _), c => !Lexeme.comparisonMarks.contains c
  | .ident _, c | .qualified _ _, c => c != dialect.closeQuote
  | _, c => !Lexeme.continuesNumber dialect c

variable {dialect : Dialect} {rest : List Char}

/-- A name behind its schema is read as the two names and the point between them. -/
theorem lexed_qualified (single : rest.head? ≠ some dialect.closeQuote) (schema name : String) :
    Lexed dialect (dialect.qualifiedName (some schema) name).toList rest
      [.name schema, .punctuation .point, .name name] := by
  have apart : '.' ≠ dialect.closeQuote := by cases dialect <;> decide
  have point : Lexed dialect Punctuation.point.text.toList
      ((dialect.quotedName name).toList ++ rest) [.punctuation .point] := by
    refine .sign .point ?_
    rintro - c next
    rw [Dialect.quotedName, String.toList_ofList] at next
    cases next
    exact (Lexeme.not_isDigit_introducer dialect).1
  have first : Lexed dialect (dialect.quotedName schema).toList
      (Punctuation.point.text.toList ++ (dialect.quotedName name).toList ++ rest)
      [.name schema] :=
    .name (by simpa [Punctuation.text] using apart) schema
  have read := first.append (point.append (.name single name))
  rwa [← List.append_assoc, ← String.toList_append, ← String.toList_append] at read

/-- The numeral of a truth value consists of digits. -/
theorem toList_numeral (b : Bool) :
    (numeral b).toList ≠ [] ∧ (numeral b).toList.all Char.isDigit = true := by
  cases b <;> decide

/-- The word for a truth value consists of capital letters. -/
theorem toList_truthWord (b : Bool) :
    (truthWord b).toList ≠ [] ∧ (truthWord b).toList.all Char.isUpper = true := by
  cases b <;> decide

/-- In SQL Server a truth value is read as a comparison of two numbers in parentheses. -/
theorem lexed_truth_of_sqlserver (b : Bool) :
    Lexed .sqlserver (Dialect.sqlserver.boolPredicate b).toList rest
      [.punctuation .leftParen, .number "1", .operator "=", .number (numeral b),
        .punctuation .rightParen] := by
  have bounded : Lexeme.continuesNumber .sqlserver '=' = false ∧
      Lexeme.continuesNumber .sqlserver ')' = false := by decide
  have digits := toList_numeral b
  have spelled : (Dialect.sqlserver.boolPredicate b).toList =
      "(".toList ++ ("1".toList ++ ("=".toList ++ ((numeral b).toList ++ ")".toList))) := by
    cases b <;> decide
  rw [spelled]
  refine .append (.sign .leftParen nofun) (.append (.number (by decide) (by decide) ?_)
    (.append (.comparison .eq ?_) (.append (.number digits.1 digits.2 ?_)
      (.sign .rightParen nofun))))
  · rintro c ⟨⟩
    exact bounded.1
  · rintro c next
    cases b <;> cases next <;> decide
  · rintro c ⟨⟩
    exact bounded.2

/-- Where nothing that could become a part of it follows, a chunk is read as its lexemes. -/
theorem lexed (dialect : Dialect) (number : String → Nat) {chunk : Chunk}
    (plain : chunk.isRaw = false)
    (ends : ∀ c ∈ rest.head?, chunk.admits dialect c = true) :
    Lexed dialect (chunk.spelled dialect fun name => dialect.placeholder (number name)).toList rest
      (chunk.lexemes dialect fun name => dialect.placeholder (number name)) := by
  have single (admitted : ∀ c ∈ rest.head?, (c != dialect.closeQuote) = true) :
      rest.head? ≠ some dialect.closeQuote :=
    fun next => ne_of_apply_ne _ (bne_iff_ne.mp (admitted _ next)) rfl
  have outside (admitted : ∀ c ∈ rest.head?, (!Lexeme.continuesNumber dialect c) = true) :
      ∀ c ∈ rest.head?, Lexeme.continuesNumber dialect c = false :=
    fun c next => (Bool.not_eq_eq_eq_not ..).mp (admitted c next)
  cases chunk with
  | token token => cases token with
    | punctuation sign =>
      refine .sign sign ?_
      rintro rfl c next
      simpa [admits] using ends c next
    | comparison sign => exact .comparison sign fun c next => by simpa [admits] using ends c next
    | keyword word =>
      have capitals : word.text.toList ≠ [] ∧ word.text.toList.all Char.isUpper = true := by
        cases word <;> decide
      exact .word capitals.1 capitals.2 (outside ends)
  | ident name => exact .name (single ends) name
  | qualified schema name => cases schema with
    | none => exact .name (single ends) name
    | some schema => exact lexed_qualified (single ends) schema name
  | raw text => cases plain
  | param name => exact .placeholder (number name) (outside ends)
  | truth b => cases dialect with
    | sqlite =>
      have read := Lexed.number (toList_numeral b).1 (toList_numeral b).2 (outside ends)
      cases b <;> exact read
    | postgresql | mysql =>
      have read := Lexed.word (toList_truthWord b).1 (toList_truthWord b).2 (outside ends)
      cases b <;> exact read
    | sqlserver => exact lexed_truth_of_sqlserver b

/-- Whether a chunk is a name, behind its schema or not. -/
def isName : Chunk → Bool
  | .ident _ | .qualified _ _ => true
  | _ => false

/-- Whether a chunk is a name without a schema. -/
def isIdent : Chunk → Bool
  | .ident _ => true
  | _ => false

/-- Whether a chunk is a point. -/
def isPoint (chunk : Chunk) : Bool := chunk == .token (.punctuation .point)

/-- What comes behind a word or a comparison sign at a boundary is admitted there. A point is,
if it is behind a name. -/
theorem admits_boundary {chunk : Chunk} {c : Char} (word : chunk.isPunctuation = false)
    (plain : chunk.isRaw = false) (boundary : c ∈ boundaries)
    (point : c = '.' → chunk.isName = true) : chunk.admits dialect c = true := by
  have noSign : boundaries.all (fun c => !Lexeme.comparisonMarks.contains c) = true := by decide
  have noQuote : boundaries.all (· != dialect.closeQuote) = true := by cases dialect <;> decide
  have ended : boundaries.all (fun c => c == '.' || !Lexeme.continuesNumber dialect c) = true := by
    cases dialect <;> decide
  have ends (notName : chunk.isName = false) : (!Lexeme.continuesNumber dialect c) = true := by
    have notPoint : c ≠ '.' := fun same => by simp [point same] at notName
    simpa [notPoint] using List.all_eq_true.mp ended c boundary
  cases chunk with
  | token token => cases token with
    | punctuation sign => cases word
    | comparison sign => exact List.all_eq_true.mp noSign c boundary
    | keyword word => exact ends rfl
  | ident name => exact List.all_eq_true.mp noQuote c boundary
  | qualified schema name => exact List.all_eq_true.mp noQuote c boundary
  | raw text => cases plain
  | param name => exact ends rfl
  | truth b => exact ends rfl

end Chunk

namespace Fragment

/-- Whether every point of a fragment stands between a name and a name without a schema. The
chunk in front of the fragment is given. -/
def pointsJoinNames (previous : Option Chunk) : Fragment → Bool
  | [] => true
  | chunk :: rest =>
    (!chunk.isPoint || (previous.any Chunk.isName && rest.head?.any Chunk.isIdent)) &&
      pointsJoinNames (some chunk) rest

/-- A text that begins with a name begins with a quote. -/
theorem head?_write_ident (dialect : Dialect) (parameter : String → String) (name : String)
    (rest : Fragment) :
    (write dialect parameter (.ident name :: rest)).toList.head? = some dialect.openQuote := by
  have spelled : (Chunk.spelled dialect parameter (.ident name)).toList =
      (dialect.quotedName name).toList := rfl
  cases rest with
  | nil => rw [write_singleton, spelled]; simp [Dialect.quotedName]
  | cons next rest => rw [write_cons_cons, String.toList_append, spelled]; simp [Dialect.quotedName]

/-- What is written behind a chunk cannot become a part of it. -/
theorem admits_after (dialect : Dialect) (parameter : String → String) {previous : Option Chunk}
    {current next : Chunk} {rest : Fragment} (plain : current.isRaw = false)
    (plainNext : next.isRaw = false)
    (points : pointsJoinNames previous (current :: next :: rest) = true) :
    ∀ c ∈ (space current next ++ write dialect parameter (next :: rest)).toList.head?,
      current.admits dialect c = true := by
  intro c head
  obtain ⟨pointHere, pointsAfter⟩ := Bool.and_eq_true_iff.mp points
  cases word : current.isPunctuation with
  | false =>
    obtain ⟨boundary, member, found, point⟩ := head?_after dialect parameter
      (Chunk.loose_of_not_raw plain) (Chunk.loose_of_not_raw plainNext) word
    rw [found] at head
    cases head
    refine Chunk.admits_boundary word plain member fun same => ?_
    cases point same
    have joins : (current.isName && rest.head?.any Chunk.isIdent) = true :=
      (Bool.and_eq_true_iff.mp pointsAfter).1
    exact (Bool.and_eq_true_iff.mp joins).1
  | true =>
    obtain ⟨sign, rfl⟩ : ∃ sign, current = .token (.punctuation sign) := by
      rcases current with (sign | _ | _) | _ | _ | _ | _ | _ <;> cases word
      exact ⟨sign, rfl⟩
    cases sign with
    | point =>
      have joins : (previous.any Chunk.isName && next.isIdent) = true := pointHere
      obtain ⟨name, rfl⟩ : ∃ name, next = .ident name := by
        cases next <;> simp_all [Chunk.isIdent]
      rw [show space (.token (.punctuation .point)) (.ident name) = "" from rfl,
        String.empty_append, head?_write_ident] at head
      cases head
      simp [Chunk.admits, Lexeme.not_isDigit_introducer dialect]
    | _ => rfl

/-- Written with placeholders, a fragment is read as the lexemes of its chunks. -/
theorem lex_write (dialect : Dialect) (number : String → Nat) {previous : Option Chunk}
    {fragment : Fragment} (plain : ∀ chunk ∈ fragment, chunk.isRaw = false)
    (points : pointsJoinNames previous fragment = true) :
    lex dialect (fragment.write dialect fun name => dialect.placeholder (number name)).toList =
      some (fragment.flatMap (Chunk.lexemes dialect fun name =>
        dialect.placeholder (number name))) := by
  induction fragment generalizing previous with
  | nil => simp
  | cons current rest inductionHypothesis =>
    have plainHere : current.isRaw = false := plain current (.head _)
    have plainAfter : ∀ chunk ∈ rest, chunk.isRaw = false :=
      fun chunk member => plain chunk (.tail _ member)
    cases rest with
    | nil =>
      have alone : Lexed dialect _ [] _ :=
        Chunk.lexed dialect number plainHere fun c none => by cases none
      simpa using alone.lex_eq
    | cons next rest =>
      have onward := inductionHypothesis plainAfter (Bool.and_eq_true_iff.mp points).2
      have admitted := admits_after dialect (fun name => dialect.placeholder (number name))
        plainHere (plainAfter next (.head _)) points
      have here := Chunk.lexed dialect number plainHere admitted
      have skipped : lex dialect (space current next ++ write dialect
          (fun name => dialect.placeholder (number name)) (next :: rest)).toList =
          lex dialect (write dialect
            (fun name => dialect.placeholder (number name)) (next :: rest)).toList := by
        unfold space
        split
        · rw [String.toList_append]
          exact lex_blank (show Text.isBlank ' ' = true by decide)
        · rw [String.empty_append]
      rw [write_cons_cons, String.toList_append, here, skipped, onward]
      rfl

end Fragment

namespace Statement

/-- The placeholder that stands for a parameter in a statement: where placeholders have
numbers, its number is the rank of the parameter. -/
def placeholderOf (statement : Statement) (name : String) : String :=
  statement.dialect.placeholder (rank statement.fragment.paramNames name)

/-- Without numbers, one placeholder is like another. -/
theorem placeholder_of_marks {dialect : Dialect} (marks : dialect.numbersPlaceholders = false)
    (first second : Nat) : dialect.placeholder first = dialect.placeholder second := by
  cases dialect with
  | sqlite | mysql => rfl
  | postgresql | sqlserver => cases marks

/-- The text with placeholders is the fragment with the placeholder of each parameter. -/
theorem text_positional (statement : Statement) :
    statement.positional.text =
      statement.fragment.write statement.dialect statement.placeholderOf := by
  have same : statement.placeholderNumbers.map statement.dialect.placeholder =
      statement.fragment.paramNames.map statement.placeholderOf := by
    unfold placeholderNumbers
    cases numbers : statement.dialect.numbersPlaceholders with
    | true => exact List.map_map
    | false =>
      refine List.ext_getElem (by simp) fun i _ _ => ?_
      rw [List.getElem_map, List.getElem_map]
      exact placeholder_of_marks numbers _ _
  rw [positional_eq_woven, Fragment.write_eq_woven, same]

/-- Chunks are never read as one, and names never end before their closing quote. Where a
statement has no raw text and its points join names, its text with placeholders is read as the
lexemes of its chunks, one after another. These are the lexemes of the chunks written alone. -/
theorem positional_lexes (statement : Statement)
    (plain : ∀ chunk ∈ statement.fragment, chunk.isRaw = false)
    (points : statement.fragment.pointsJoinNames none = true) :
    lex statement.dialect statement.positional.text.toList =
        some (statement.fragment.flatMap
          (Chunk.lexemes statement.dialect statement.placeholderOf)) ∧
      ∀ chunk ∈ statement.fragment,
        lex statement.dialect
            (chunk.spelled statement.dialect statement.placeholderOf).toList =
          some (chunk.lexemes statement.dialect statement.placeholderOf) := by
  have number : statement.placeholderOf = fun name =>
      statement.dialect.placeholder (rank statement.fragment.paramNames name) := rfl
  refine ⟨?_, fun chunk member => ?_⟩
  · rw [text_positional]
    exact Fragment.lex_write statement.dialect _ plain points
  · have alone : Lexed statement.dialect _ [] _ :=
      Chunk.lexed statement.dialect (rank statement.fragment.paramNames) (plain chunk member)
        fun c none => by cases none
    exact alone.lex_eq

/-- Quotes of all kinds inside names, names next to each other, comparison signs next to each
other, and parameters between words. -/
def crowded : Statement where
  dialect := .sqlserver
  fragment :=
    [.token (.keyword .SELECT), .ident "a]", .ident "]b[", .token (.comparison .lt),
      .token (.comparison .eq), .truth true, .token (.keyword .AND), .param "x",
      .token (.keyword .OR), .qualified (some "\"s") "t", .token (.punctuation .point),
      .ident "0", .token (.punctuation .leftParen), .param "y", .param "x"]
  params := .empty

theorem crowded_lexes :
    lex .sqlserver crowded.positional.text.toList =
      some [.word "SELECT", .name "a]", .name "]b[", .operator "<", .operator "=",
        .punctuation .leftParen, .number "1", .operator "=", .number "1",
        .punctuation .rightParen, .word "AND", .placeholder "@P1", .word "OR", .name "\"s",
        .punctuation .point, .name "t", .punctuation .point, .name "0", .punctuation .leftParen,
        .placeholder "@P2", .placeholder "@P1"] :=
  (positional_lexes crowded (by decide) (by decide)).1.trans (by decide)

end Statement
end Sqlwright.Sql
