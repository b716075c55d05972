/-!
# Texts of TOML

A text stands between quotes. Double quotes allow escapes, single quotes none. Three
quotes of a kind admit line breaks; a line break straight after them does not belong to
the text, and up to two more quotes at the end do. Every reader takes the characters
after the opening quotes and gives the text and what follows its closing quotes.
-/

namespace Sqlwright.Toml

/-- Characters that may stand in a text or a comment: no controls but the tab. -/
def isAllowed (c : Char) : Bool := c == '\t' || (c.toNat ≥ 0x20 && c.toNat != 0x7f)

/-- A blank within a line. -/
def isInlineBlank (c : Char) : Bool := c == ' ' || c == '\t'

/-- The value of a hexadecimal digit. -/
def hexDigit? (c : Char) : Option Nat :=
  if c.isDigit then some (c.toNat - '0'.toNat)
  else if 'a' ≤ c ∧ c ≤ 'f' then some (c.toNat - 'a'.toNat + 10)
  else if 'A' ≤ c ∧ c ≤ 'F' then some (c.toNat - 'A'.toNat + 10)
  else none

/-- The character with a hexadecimal number. -/
def numbered? (digits : List Char) : Option Char := do
  let value ← digits.foldlM (fun value c => (hexDigit? c).map (16 * value + ·)) 0
  if value.isValidChar then some (Char.ofNat value) else none

/-- The character that a single letter behind a backslash stands for. -/
def short? : Char → Option Char
  | 'b' => some '\x08'
  | 't' => some '\t'
  | 'n' => some '\n'
  | 'f' => some '\x0c'
  | 'r' => some '\r'
  | 'e' => some '\x1b'
  | '"' => some '"'
  | '\\' => some '\\'
  | _ => none

/-- What a reader gives: the text, and what follows it. -/
abbrev ReadText := Option (List Char × List Char)

/-- Put a character in front of a text that has been read. -/
def ReadText.push (c : Char) (read : ReadText) : ReadText :=
  read.map fun (text, after) => (c :: text, after)

/-- A text between double quotes. -/
def basicText : List Char → ReadText
  | [] => none
  | '"' :: rest => some ([], rest)
  | '\\' :: 'x' :: a :: b :: rest => do
    let c ← numbered? [a, b]
    (basicText rest).push c
  | '\\' :: 'u' :: a :: b :: c :: d :: rest => do
    let c ← numbered? [a, b, c, d]
    (basicText rest).push c
  | '\\' :: 'U' :: a :: b :: c :: d :: e :: f :: g :: h :: rest => do
    let c ← numbered? [a, b, c, d, e, f, g, h]
    (basicText rest).push c
  | '\\' :: letter :: rest => do
    let c ← short? letter
    (basicText rest).push c
  | c :: rest => if isAllowed c && c != '\\' then (basicText rest).push c else none

/-- A text between single quotes. -/
def literalText : List Char → ReadText
  | [] => none
  | '\'' :: rest => some ([], rest)
  | c :: rest => if isAllowed c then (literalText rest).push c else none

/-- Whether only blanks are left of the line. -/
def endsLine (rest : List Char) : Bool :=
  match rest.dropWhile isInlineBlank with
  | '\n' :: _ => true
  | '\r' :: '\n' :: _ => true
  | _ => false

/-- Quotes that belong to the text although three closing ones precede them. -/
def closing (quote : Char) : List Char → List Char × List Char
  | a :: b :: rest =>
    if a = quote then
      if b = quote then ([quote, quote], rest) else ([quote], b :: rest)
    else ([], a :: b :: rest)
  | [a] => if a = quote then ([quote], []) else ([], [a])
  | [] => ([], [])

/-- A text between three double quotes. A backslash at the end of a line joins it to the
next character that is no blank; `joining` says that this is being looked for. -/
def longBasicText (joining : Bool) : List Char → ReadText
  | [] => none
  | '"' :: '"' :: '"' :: rest => some (closing '"' rest)
  | '\r' :: '\n' :: rest =>
    if joining then longBasicText true rest else (longBasicText false rest).push '\n'
  | '\\' :: 'x' :: a :: b :: rest => do
    let c ← numbered? [a, b]
    (longBasicText false rest).push c
  | '\\' :: 'u' :: a :: b :: c :: d :: rest => do
    let c ← numbered? [a, b, c, d]
    (longBasicText false rest).push c
  | '\\' :: 'U' :: a :: b :: c :: d :: e :: f :: g :: h :: rest => do
    let c ← numbered? [a, b, c, d, e, f, g, h]
    (longBasicText false rest).push c
  | '\\' :: letter :: rest =>
    if endsLine (letter :: rest) then longBasicText true (letter :: rest)
    else do
      let c ← short? letter
      (longBasicText false rest).push c
  | c :: rest =>
    if joining && (isInlineBlank c || c == '\n') then longBasicText true rest
    else if (isAllowed c && c != '\\') || c == '\n' then (longBasicText false rest).push c
    else none

/-- A text between three single quotes. -/
def longLiteralText : List Char → ReadText
  | [] => none
  | '\'' :: '\'' :: '\'' :: rest => some (closing '\'' rest)
  | '\r' :: '\n' :: rest => (longLiteralText rest).push '\n'
  | c :: rest => if isAllowed c || c == '\n' then (longLiteralText rest).push c else none

/-- A text without the line break that opens it. -/
def withoutFirstBreak : List Char → List Char
  | '\n' :: rest => rest
  | '\r' :: '\n' :: rest => rest
  | text => text

/-- A text of any of the four forms, its opening quotes included; none for a text of
another form, which is for the caller to tell from a broken one. -/
def quoted? : List Char → ReadText
  | '"' :: '"' :: '"' :: rest => longBasicText false (withoutFirstBreak rest)
  | '\'' :: '\'' :: '\'' :: rest => longLiteralText (withoutFirstBreak rest)
  | '"' :: rest => basicText rest
  | '\'' :: rest => literalText rest
  | _ => none

end Sqlwright.Toml
