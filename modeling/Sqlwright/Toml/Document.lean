import Sqlwright.Toml.Scalar

/-!
# Documents of TOML

A document is a sequence of lines: headers, and keys with values. A key belongs to the
table of the header above it. Values nest at most eighty deep. A document that breaks a
rule anywhere has no tree.
-/

namespace Sqlwright.Toml

/-- How deep arrays and inline tables may be nested. -/
def depthBound : Nat := 80

/-- A step of reading: it takes characters from the front of a text, or fails. -/
abbrev Reader := StateT (List Char) Option

namespace Reader

/-- The characters that are left. -/
def rest : Reader (List Char) := get

/-- Skip blanks within the line. -/
def skipBlanks : Reader Unit := modify (·.dropWhile isInlineBlank)

/-- The text after blanks, line breaks and comments; none if a comment has a control
character in it. -/
def afterTrivia (comment : Bool) : List Char → Option (List Char)
  | [] => some []
  | '\r' :: '\n' :: rest => afterTrivia false rest
  | c :: rest =>
    if c = '\n' then afterTrivia false rest
    else if comment then if isAllowed c then afterTrivia true rest else none
    else if isInlineBlank c then afterTrivia false rest
    else if c = '#' then afterTrivia true rest
    else some (c :: rest)

/-- Skip blanks, line breaks and comments. -/
def skipTrivia : Reader Unit := do
  let text ← rest
  match afterTrivia false text with
  | some after => set after
  | none => failure

/-- Skip what may follow on a line: blanks and a comment. The line break stays, as does
anything else. -/
def skipLine : Reader Unit := do
  skipBlanks
  match ← rest with
  | '#' :: comment =>
    let after := comment.dropWhile isAllowed
    set after
  | _ => pure ()

/-- The line ends here, or the document does. -/
def endOfLine : Reader Unit := do
  skipLine
  match ← rest with
  | [] => pure ()
  | '\n' :: after => set after
  | '\r' :: '\n' :: after => set after
  | _ => failure

/-- Take one character if it is next. -/
def accept (c : Char) : Reader Bool := do
  match ← rest with
  | next :: after =>
    if next = c then
      set after
      return true
    else return false
  | [] => return false

/-- Take one character that has to be next. -/
def expect (c : Char) : Reader Unit := do
  if ← accept c then pure () else failure

/-- Characters of names without quotes. -/
def isBareChar (c : Char) : Bool := c.isAlphanum || c == '_' || c == '-'

/-- One name of a key: bare, or quoted on one line. -/
def keyPart : Reader String := do
  match ← rest with
  | '"' :: after =>
    let (name, after) ← (basicText after : Option _)
    set after
    return String.ofList name
  | '\'' :: after =>
    let (name, after) ← (literalText after : Option _)
    set after
    return String.ofList name
  | text =>
    let name := text.takeWhile isBareChar
    if name.isEmpty then failure
    set (text.dropWhile isBareChar)
    return String.ofList name

/-- A key: names with points between them. The fuel bounds their number. -/
def keyParts : Nat → Reader (List String)
  | 0 => failure
  | fuel + 1 => do
    skipBlanks
    let first ← keyPart
    skipBlanks
    if ← accept '.' then
      let others ← keyParts fuel
      return first :: others
    else return [first]

/-- A key as the path to its table and the name in it. -/
def key : Reader (List String × String) := do
  let text ← rest
  let parts ← keyParts (text.length + 1)
  match parts.getLast? with
  | some name => return (parts.dropLast, name)
  | none => failure

/-- The items of an array whose bracket is open. The fuel bounds their number. -/
def items (item : Reader Value) : Nat → Reader (List Value)
  | 0 => failure
  | fuel + 1 => do
    skipTrivia
    if ← accept ']' then return []
    let first ← item
    skipTrivia
    if ← accept ',' then
      let others ← items item fuel
      return first :: others
    else
      expect ']'
      return [first]

/-- The entries of an inline table whose brace is open. The fuel bounds their number. -/
def fields (item : Reader Value) : Nat → Entries → Reader Entries
  | 0, _ => failure
  | fuel + 1, entries => do
    skipTrivia
    if ← accept '\x7d' then return entries
    let (path, name) ← key
    expect '='
    skipBlanks
    let value ← item
    let extended ← (entries.insertAt path name value .inline : Option _)
    skipTrivia
    if ← accept ',' then fields item fuel extended
    else
      expect '\x7d'
      return extended

/-- A quoted text. -/
def text : Reader Value := do
  let (contents, after) ← (quoted? (← rest) : Option _)
  set after
  return .text (String.ofList contents)

/-- A word. -/
def scalar : Reader Value := do
  let (first, after) := word (← rest)
  set after
  scalar? first

/-- A value without brackets. -/
def plain : Reader Value := do
  match ← rest with
  | '"' :: _ => text
  | '\'' :: _ => text
  | _ => scalar

/-- A value with at most the given depth of brackets. -/
def value : Nat → Reader Value
  | 0 => plain
  | depth + 1 => do
    match ← rest with
    | '[' :: after =>
      set after
      return .array (← items (value depth) (after.length + 1))
    | '\x7b' :: after =>
      set after
      return .table .inline (← fields (value depth) (after.length + 1) [])
    | _ => plain

/-- What a document has said so far: its tree, and the path to the table that is open. -/
structure State where
  tree : Entries := []
  current : List String := []

/-- A header. Two brackets on each side open another of several tables. -/
def header (state : State) : Reader State := do
  expect '['
  let repeated ← accept '['
  let (path, name) ← key
  expect ']'
  if repeated then expect ']'
  let tree ← (if repeated then state.tree.openRepeated path name
    else state.tree.openTable path name : Option _)
  return { tree, current := path ++ [name] }

/-- A key with its value, added to the open table. -/
def entry (state : State) : Reader State := do
  let (path, name) ← key
  expect '='
  skipBlanks
  let value ← value depthBound
  let tree ← (state.tree.along false state.current (fun origin entries =>
    entries.insertAt path name value origin) .header : Option _)
  return { state with tree }

/-- The lines of a document. The fuel bounds their number. -/
def lines : Nat → State → Reader Entries
  | 0, _ => failure
  | fuel + 1, state => do
    skipTrivia
    match ← rest with
    | [] => return state.tree
    | '[' :: _ =>
      let state ← header state
      endOfLine
      lines fuel state
    | _ =>
      let state ← entry state
      endOfLine
      lines fuel state

end Reader

/-- The entries of a document; none if it breaks a rule. A byte order mark in front of it
does not count. -/
def read? (document : String) : Option Entries :=
  let text := match document.toList with
    | '\ufeff' :: rest => rest
    | text => text
  ((Reader.lines (text.length + 1) {}).run text).map Prod.fst

end Sqlwright.Toml
