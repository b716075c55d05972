import Mathlib.Algebra.Group.Int.Defs
import Mathlib.Data.List.Basic
import Sqlwright.Proofs.Text.Numerals
import Sqlwright.Proofs.Text.Undoubling
import Sqlwright.Value

/-!
# Reading literals

Every dialect reads a text literal up to the first single quote that is not doubled. MySQL, unless
its mode says otherwise, takes a backslash together with the character behind it; elsewhere a
backslash stands for itself. Bytes are hexadecimal digits: in a literal of their own in SQLite and
MySQL, in text that is converted in PostgreSQL, and without quotes in SQL Server. An integer is a
decimal numeral, perhaps with a sign.

A literal of text, bytes or an integer is read as the value that it was written for, and an
identifier as its text. A text literal ends where it was meant to, whatever stands in it.
-/

namespace Sqlwright

namespace Text

/-- What a backslash and the character behind it stand for. In front of the wildcards of a pattern
it is kept. -/
def unescaped : Char → List Char
  | '0' => ['\x00']
  | 'b' => ['\x08']
  | 'n' => ['\n']
  | 'r' => ['\r']
  | 't' => ['\t']
  | 'Z' => ['\x1a']
  | '%' => ['\\', '%']
  | '_' => ['\\', '_']
  | c => [c]

/-- The text that a single quote closes where a backslash escapes, and what follows the quote. -/
def closedEscaping? : List Char → Option (List Char × List Char)
  | [] => none
  | [c] => if c = '\'' then some ([], []) else none
  | c :: d :: rest =>
    if c = '\'' then
      if d = '\'' then (closedEscaping? rest).map fun (text, after) => ('\'' :: text, after)
      else some ([], d :: rest)
    else if c = '\\' then
      (closedEscaping? rest).map fun (text, after) => (unescaped d ++ text, after)
    else (closedEscaping? (d :: rest)).map fun (text, after) => (c :: text, after)

/-- A character that is neither quote nor backslash belongs to the text. -/
theorem closedEscaping?_cons {c : Char} (noQuote : c ≠ '\'') (noBackslash : c ≠ '\\')
    (rest : List Char) : closedEscaping? (c :: rest) =
      (closedEscaping? rest).map fun (text, after) => (c :: text, after) := by
  cases rest with
  | nil => simp [closedEscaping?, noQuote]
  | cons d rest => rw [closedEscaping?, if_neg noQuote, if_neg noBackslash]

/-- Doubled quotes and backslashes are read as single ones, and the reader stops behind the
closing quote. -/
theorem closedEscaping?_doubled {rest : List Char} (single : rest.head? ≠ some '\'')
    (text : List Char) :
    closedEscaping? (doubled (fun c => c == '\'' || c == '\\') text ++ '\'' :: rest) =
      some (text, rest) := by
  induction text with
  | nil =>
    cases rest with
    | nil => rfl
    | cons d rest =>
      have different : d ≠ '\'' := fun same => single (congrArg some same)
      simp [doubled, closedEscaping?, different]
  | cons c text inductionHypothesis =>
    by_cases quote : c = '\''
    · subst quote
      simp [doubled, closedEscaping?, inductionHypothesis]
    · by_cases backslash : c = '\\'
      · subst backslash
        simp [doubled, closedEscaping?, unescaped, inductionHypothesis]
      · have written : doubled (fun c => c == '\'' || c == '\\') (c :: text) ++ '\'' :: rest =
            c :: (doubled (fun c => c == '\'' || c == '\\') text ++ '\'' :: rest) := by
          simp [doubled, quote, backslash]
        rw [written, closedEscaping?_cons quote backslash, inductionHypothesis]
        rfl

end Text

namespace Dialect

/-- The text whose literal stands in front, and what follows it. -/
def quotedText? (dialect : Dialect) : List Char → Option (String × List Char)
  | [] => none
  | c :: inner =>
    if c = '\'' then
      (if dialect = .mysql then Text.closedEscaping? inner else Text.closed? '\'' inner).map
        fun (text, rest) => (String.ofList text, rest)
    else none

/-- A literal that is text. -/
def text? (dialect : Dialect) (literal : List Char) : Option String := do
  let (text, rest) ← dialect.quotedText? literal
  if rest.isEmpty then return text else none

/-- A literal of bytes. -/
def bytes? (dialect : Dialect) (literal : List Char) : Option (List UInt8) :=
  match dialect with
  | .sqlite | .mysql => do
    let quoted ← literal.dropPrefix? "X".toList
    let digits ← dialect.text? quoted
    Text.octets? digits.toList
  | .postgresql => do
    let (text, rest) ← dialect.quotedText? literal
    if rest = "::bytea".toList then
      let digits ← text.toList.dropPrefix? "\\x".toList
      Text.octets? digits
    else none
  | .sqlserver => do
    let digits ← literal.dropPrefix? "0x".toList
    Text.octets? digits

/-- A literal that is an integer of 64 bits. -/
def integer? (literal : List Char) : Option Int64 := do
  let (n, rest) ← Text.signedNumber? (1 ≤ ·) (1 ≤ ·) literal
  if rest.isEmpty ∧ -2 ^ 63 ≤ n ∧ n < 2 ^ 63 then return Int64.ofInt n else none

/-- The value that a literal stands for, among text, bytes and integers. -/
def literalValue? (dialect : Dialect) (literal : String) : Option Value :=
  ((dialect.text? literal.toList).map Value.text).or
    (((dialect.bytes? literal.toList).map Value.bytes).or
      ((integer? literal.toList).map Value.int))

variable {dialect : Dialect} {rest literal : List Char}

/-- Outside MySQL only the quote is doubled. -/
theorem doubledInText_of_ne_mysql (other : dialect ≠ .mysql) :
    dialect.doubledInText = (· == '\'') := by
  funext c
  cases dialect <;> simp [doubledInText, escapesBackslash] at other ⊢

/-- A text literal is read back, and the reader stops behind it. -/
theorem quotedText?_textLiteral (single : rest.head? ≠ some '\'') (text : String) :
    dialect.quotedText? ((dialect.textLiteral text).toList ++ rest) = some (text, rest) := by
  have written : (dialect.textLiteral text).toList ++ rest =
      '\'' :: (Text.doubled dialect.doubledInText text.toList ++ '\'' :: rest) := by
    simp [textLiteral]
  rw [written, quotedText?, if_pos rfl]
  -- What is doubled and what the reader collapses have to agree, and both differ in MySQL.
  by_cases mysql : dialect = .mysql
  · subst mysql
    have both : Dialect.mysql.doubledInText = fun c => c == '\'' || c == '\\' := by
      funext c
      simp [doubledInText, escapesBackslash]
    rw [if_pos rfl, both, Text.closedEscaping?_doubled single, Option.map_some]
    exact congrArg (fun read => some (read, rest)) String.ofList_toList
  · rw [if_neg mysql, doubledInText_of_ne_mysql mysql, Text.closed?_doubled single,
      Option.map_some]
    exact congrArg (fun read => some (read, rest)) String.ofList_toList

/-- What does not begin with a quote is no text. -/
theorem quotedText?_eq_none (noQuote : literal.head? ≠ some '\'') :
    dialect.quotedText? literal = none := by
  cases literal with
  | nil => rfl
  | cons c inner => rw [quotedText?, if_neg fun same => noQuote (congrArg some same)]

/-- A text literal stands for its text. -/
theorem text?_textLiteral (text : String) :
    dialect.text? (dialect.textLiteral text).toList = some text := by
  have read : dialect.quotedText? ((dialect.textLiteral text).toList ++ []) = some (text, []) :=
    quotedText?_textLiteral (by simp) text
  rw [List.append_nil] at read
  rw [text?, read]
  rfl

/-- So it is no literal of a text. -/
theorem text?_eq_none (noQuote : literal.head? ≠ some '\'') : dialect.text? literal = none := by
  rw [text?, quotedText?_eq_none noQuote]
  rfl

/-- Hexadecimal digits are never doubled. -/
theorem not_doubledInText_digitChar {d : Nat} (small : d < 16) :
    dialect.doubledInText (Nat.digitChar d) = false ∧
      dialect.doubledInText (Nat.digitChar d).toUpper = false := by
  have all : ∀ dialect ∈ Dialect.all, ∀ d < 16,
      doubledInText dialect (Nat.digitChar d) = false ∧
        doubledInText dialect (Nat.digitChar d).toUpper = false := by decide
  exact all dialect (by cases dialect <;> decide) d small

/-- A text in which nothing is doubled stands between quotes as it is. -/
theorem toList_textLiteral_of_plain {text : List Char}
    (plain : ∀ c ∈ text, dialect.doubledInText c = false) :
    (dialect.textLiteral (String.ofList text)).toList = '\'' :: text ++ ['\''] := by
  rw [textLiteral, String.toList_ofList, String.toList_ofList, Text.doubled_eq_self _ _ plain]

/-- Nothing in the digits of bytes is doubled, so that everywhere but in SQL Server they are written
as the literal of a text. -/
theorem bytesLiteral_eq (bytes : List UInt8) :
    bytesLiteral dialect bytes = match dialect with
      | .sqlite | .mysql =>
        "X" ++ dialect.textLiteral (String.ofList ((Text.hexadecimal bytes).map Char.toUpper))
      | .postgresql =>
        dialect.textLiteral (String.ofList ('\\' :: 'x' :: Text.hexadecimal bytes)) ++ "::bytea"
      | .sqlserver => "0x" ++ String.ofList ((Text.hexadecimal bytes).map Char.toUpper) := by
  have capitals : ∀ c ∈ (Text.hexadecimal bytes).map Char.toUpper,
      dialect.doubledInText c = false := by
    intro c member
    obtain ⟨digit, inside, rfl⟩ := List.mem_map.mp member
    obtain ⟨d, small, rfl⟩ := Text.mem_hexadecimal inside
    exact (not_doubledInText_digitChar small).2
  have escaped : ∀ c ∈ '\\' :: 'x' :: Text.hexadecimal bytes,
      doubledInText .postgresql c = false := by
    intro c member
    rcases List.mem_cons.mp member with rfl | member
    · decide
    · rcases List.mem_cons.mp member with rfl | inside
      · decide
      · obtain ⟨d, small, rfl⟩ := Text.mem_hexadecimal inside
        exact (not_doubledInText_digitChar small).1
  apply String.toList_inj.mp
  cases dialect with
  | sqlite => simp [bytesLiteral, toList_textLiteral_of_plain capitals]
  | postgresql =>
    rw [String.toList_append (t := "::bytea"), toList_textLiteral_of_plain escaped]
    simp [bytesLiteral]
  | mysql => simp [bytesLiteral, toList_textLiteral_of_plain capitals]
  | sqlserver => rfl

/-- Digits are read back in capital letters and in small ones. -/
theorem octets?_both (bytes : List UInt8) :
    Text.octets? ((Text.hexadecimal bytes).map Char.toUpper) = some bytes ∧
      Text.octets? (Text.hexadecimal bytes) = some bytes := by
  have small : Text.octets? ((Text.hexadecimal bytes).map id) = some bytes :=
    Text.octets?_hexadecimal (by decide) bytes
  rw [List.map_id] at small
  exact ⟨Text.octets?_hexadecimal (by decide) bytes, small⟩

/-- A literal of bytes stands for its bytes. -/
theorem bytes?_bytesLiteral (bytes : List UInt8) :
    dialect.bytes? (dialect.bytesLiteral bytes).toList = some bytes := by
  obtain ⟨capitals, small⟩ := octets?_both bytes
  rw [bytesLiteral_eq]
  cases dialect with
  | sqlite =>
    simp only [bytes?, String.toList_append, List.dropPrefix?_append_of_beq, beq_self_eq_true,
      text?_textLiteral, Option.bind_eq_bind, Option.bind_some, String.toList_ofList, capitals]
  | postgresql =>
    have noQuote : ("::bytea".toList).head? ≠ some '\'' := by decide
    have escaped : ('\\' :: 'x' :: Text.hexadecimal bytes).dropPrefix? "\\x".toList =
        some (Text.hexadecimal bytes) := by simp [List.dropPrefix?]
    simp only [bytes?, String.toList_append, quotedText?_textLiteral noQuote, Option.bind_eq_bind,
      Option.bind_some, ↓reduceIte, String.toList_ofList, escaped, small]
  | mysql =>
    simp only [bytes?, String.toList_append, List.dropPrefix?_append_of_beq, beq_self_eq_true,
      text?_textLiteral, Option.bind_eq_bind, Option.bind_some, String.toList_ofList, capitals]
  | sqlserver =>
    simp only [bytes?, String.toList_append, List.dropPrefix?_append_of_beq, beq_self_eq_true,
      Option.bind_eq_bind, Option.bind_some, String.toList_ofList, capitals]

/-- No text is read from a literal of bytes. -/
theorem text?_bytesLiteral (bytes : List UInt8) :
    dialect.text? (dialect.bytesLiteral bytes).toList = none := by
  rw [bytesLiteral_eq]
  cases dialect with
  | sqlite => exact text?_eq_none (by simp)
  | postgresql =>
    -- It begins with a text, but does not end with it.
    have noQuote : ("::bytea".toList).head? ≠ some '\'' := by decide
    rw [text?, String.toList_append, quotedText?_textLiteral noQuote]
    rfl
  | mysql => exact text?_eq_none (by simp)
  | sqlserver => exact text?_eq_none (by simp)

/-- An integer of 64 bits is read back from its numeral. -/
theorem integer?_signedDecimal (n : Int64) :
    integer? (Text.signedDecimal n.toInt).toList = some n := by
  have read : Text.signedNumber? (1 ≤ ·) (1 ≤ ·) ((Text.signedDecimal n.toInt).toList ++ []) =
      some (n.toInt, []) := Text.signedNumber?_signedDecimal n.toInt (by simp)
  rw [List.append_nil] at read
  simp only [integer?, read, Option.bind_eq_bind, Option.bind_some]
  rw [if_pos ⟨rfl, n.le_toInt, n.toInt_lt⟩, Int64.ofInt_toInt]
  rfl

/-- No text and no bytes are read from the numeral of an integer, as it has neither a quote nor a
letter in it. -/
theorem not_quoted_of_signedDecimal (dialect : Dialect) (n : Int) :
    dialect.text? (Text.signedDecimal n).toList = none ∧
      dialect.bytes? (Text.signedDecimal n).toList = none := by
  have absent {c : Char} (other : c.isDigit = false ∧ c ≠ '-') :
      c ∉ (Text.signedDecimal n).toList := by
    intro member
    rcases Text.mem_signedDecimal member with digit | minus
    · rw [other.1] at digit
      cases digit
    · exact other.2 minus
  have noQuote : (Text.signedDecimal n).toList.head? ≠ some '\'' :=
    fun first => absent (by decide) (List.mem_of_head? first)
  have noSign {c : Char} {sign : List Char} (other : c.isDigit = false ∧ c ≠ '-')
      (inside : c ∈ sign) : (Text.signedDecimal n).toList.dropPrefix? sign = none := by
    cases dropped : (Text.signedDecimal n).toList.dropPrefix? sign with
    | none => rfl
    | some after =>
      obtain ⟨front, divided, same⟩ := List.dropPrefix?_eq_some_iff.mp dropped
      have member : c ∈ (Text.signedDecimal n).toList := by
        rw [divided, eq_of_beq same]
        exact List.mem_append_left _ inside
      exact absurd member (absent other)
  refine ⟨text?_eq_none noQuote, ?_⟩
  -- A literal of bytes begins with a letter or a quote. Both 0 and x stand in the sign of SQL
  -- Server, and it is the x that no numeral has.
  cases dialect with
  | sqlite => rw [bytes?, noSign (c := 'X') (by decide) (by decide)]; rfl
  | postgresql => rw [bytes?, quotedText?_eq_none noQuote]; rfl
  | mysql => rw [bytes?, noSign (c := 'X') (by decide) (by decide)]; rfl
  | sqlserver => rw [bytes?, noSign (c := 'x') (by decide) (by decide)]; rfl

/-- What is written for text, bytes or an integer is read as the same value again, and what is
written for an identifier as its text. The literal of a text and that of an identifier end where
they were meant to, in front of anything but a single quote. -/
theorem literals_read_back (dialect : Dialect) :
    (∀ text, dialect.literalValue? ((Value.text text).literal dialect) = some (.text text)) ∧
    (∀ bytes, dialect.literalValue? ((Value.bytes bytes).literal dialect) = some (.bytes bytes)) ∧
    (∀ id, dialect.literalValue? ((Value.uuid id).literal dialect) = some (.text id.text)) ∧
    (∀ n, dialect.literalValue? ((Value.int n).literal dialect) = some (.int n)) ∧
    (∀ text rest, rest.head? ≠ some '\'' →
      dialect.quotedText? (((Value.text text).literal dialect).toList ++ rest) =
        some (text, rest)) ∧
    (∀ id rest, rest.head? ≠ some '\'' →
      dialect.quotedText? (((Value.uuid id).literal dialect).toList ++ rest) =
        some (id.text, rest)) := by
  have whole (text : String) :
      dialect.literalValue? (dialect.textLiteral text) = some (.text text) := by
    rw [literalValue?, text?_textLiteral]
    rfl
  refine ⟨whole, fun bytes => ?_, fun id => whole id.text, fun n => ?_,
    fun text rest single => quotedText?_textLiteral single text,
    fun id rest single => quotedText?_textLiteral single id.text⟩
  · rw [Value.literal, literalValue?, text?_bytesLiteral, bytes?_bytesLiteral]
    rfl
  · obtain ⟨noText, noBytes⟩ := not_quoted_of_signedDecimal dialect n.toInt
    rw [Value.literal, literalValue?, noText, noBytes, integer?_signedDecimal]
    rfl

/-- A text that ends with a backslash and a quote stays within its literal in MySQL. -/
theorem trailing_backslash_stays_within :
    " OR 1=1".toList.head? ≠ some '\'' ∧
      quotedText? .mysql "'it''s \\\\''' OR 1=1".toList =
        some ("it's \\'", " OR 1=1".toList) := by
  have noQuote : " OR 1=1".toList.head? ≠ some '\'' := by decide
  obtain ⟨_, _, _, _, reads, _⟩ := literals_read_back .mysql
  have written : "'it''s \\\\''' OR 1=1".toList =
      ((Value.text "it's \\'").literal .mysql).toList ++ " OR 1=1".toList := by decide
  rw [written]
  exact ⟨noQuote, reads _ _ noQuote⟩

end Dialect
end Sqlwright
