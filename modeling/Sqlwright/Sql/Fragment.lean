import Sqlwright.Dialect.Name
import Sqlwright.Sql.Token

/-!
# Fragments of statements

A fragment is a list of chunks that no dialect has spelled yet: names without their
quotes, parameters without their markers, truth values. It is written out in a dialect
chunk by chunk, with a space wherever two neighbouring chunks would run into each other.
How a parameter is written is left to the caller, who may keep a state from one to the
next.
-/

namespace Sqlwright.Sql

/-- A part of a statement that is written as a whole. -/
inductive Chunk where
  /-- A fixed word or sign. -/
  | token (token : Token)
  /-- A name, written in quotes. -/
  | ident (name : String)
  /-- The name of a table, behind its schema if it has one. -/
  | qualified (schema : Option String) (name : String)
  /-- Text that is written as it is. -/
  | raw (text : String)
  /-- A parameter. -/
  | param (name : String)
  /-- A condition that always or never holds. -/
  | truth (b : Bool)
deriving DecidableEq, Repr

namespace Chunk

/-- A chunk as the dialect spells it. Parameters are written by the given action. -/
def written {m : Type → Type} [Monad m] (dialect : Dialect) (parameter : String → m String) :
    Chunk → m String
  | .token t => return t.text
  | .ident name => return dialect.quotedName name
  | .qualified schema name => return dialect.qualifiedName schema name
  | .raw text => return text
  | .param name => parameter name
  | .truth b => return dialect.boolPredicate b

/-- Whether a chunk stands in the sentence like a word. Only punctuation and comparison
signs do not. -/
def isWord : Chunk → Bool
  | .token t => !t.isPunctuation && !t.isComparison
  | _ => true

/-- Raw text that ends with a space, an opening parenthesis or a point is joined to what
follows. -/
def joinsNext : Chunk → Bool
  | .raw text => match text.toList.getLast? with
    | some c => c == ' ' || c == '(' || c == '.'
    | none => false
  | _ => false

/-- Raw text that starts with a space, a closing parenthesis, a comma or a point is
joined to what stands before it. -/
def joinsPrevious : Chunk → Bool
  | .raw text => match text.toList.head? with
    | some c => c == ' ' || c == ')' || c == ',' || c == '.'
    | none => false
  | _ => false

/-- Whether a space separates two neighbouring chunks. The first rule that applies
decides. -/
def spaced (current next : Chunk) : Bool :=
  if current.joinsNext || next.joinsPrevious then false
  else match current, next with
    | _, .token (.punctuation .rightParen) => false
    | _, .token (.punctuation .comma) => false
    | _, .token (.punctuation .semicolon) => false
    | _, .token (.punctuation .point) => false
    | .token (.punctuation .leftParen), _ => false
    | .token (.punctuation .point), _ => false
    | .token (.punctuation .comma), _ => true
    | .token (.punctuation .semicolon), _ => true
    | .token (.comparison _), _ => true
    | _, .token (.comparison _) => true
    | .token (.punctuation .rightParen), next => next.isWord
    | current, .token (.punctuation .leftParen) => current.isWord
    | current, next => current.isWord && next.isWord

end Chunk

/-- A part of a statement, not yet spelled in any dialect. -/
abbrev Fragment := List Chunk

namespace Fragment

/-- A single keyword. -/
def keyword (word : Keyword) : Fragment := [.token (.keyword word)]

/-- Several keywords in a row. -/
def keywords (words : List Keyword) : Fragment := words.map fun word => .token (.keyword word)

/-- A punctuation sign. -/
def sign (sign : Punctuation) : Fragment := [.token (.punctuation sign)]

/-- A comparison sign. -/
def comparison (sign : Comparison) : Fragment := [.token (.comparison sign)]

/-- A name. -/
def ident (name : String) : Fragment := [.ident name]

/-- Text that is written as it is. -/
def raw (text : String) : Fragment := [.raw text]

/-- A parameter. -/
def param (name : String) : Fragment := [.param name]

/-- A condition that always or never holds. -/
def truth (b : Bool) : Fragment := [.truth b]

/-- Fragments one after another, with a token between neighbours. -/
def joined (separator : Token) : List Fragment → Fragment
  | [] => []
  | [only] => only
  | first :: rest => first ++ .token separator :: joined separator rest

/-- Fragments separated by commas. -/
def commaList (items : List Fragment) : Fragment := joined (.punctuation .comma) items

/-- A fragment in parentheses. -/
def parens (inner : Fragment) : Fragment := sign .leftParen ++ inner ++ sign .rightParen

/-- The parameters of a fragment in order of appearance, repeated ones repeatedly. -/
def paramNames (fragment : Fragment) : List String :=
  fragment.filterMap fun
    | .param name => some name
    | _ => none

/-- A fragment written behind a text. A space is added to each chunk that needs one
before the next. -/
def writtenAfter {m : Type → Type} [Monad m] (dialect : Dialect)
    (parameter : String → m String) (text : String) : Fragment → m String
  | [] => return text
  | [last] => do
    let chunk ← last.written dialect parameter
    return text ++ chunk
  | current :: next :: rest => do
    let chunk ← current.written dialect parameter
    let text := text ++ chunk
    writtenAfter dialect parameter (if current.spaced next then text ++ " " else text)
      (next :: rest)

/-- A fragment written out, the text of each parameter being given by its name. -/
def write (dialect : Dialect) (parameter : String → String) (fragment : Fragment) : String :=
  Id.run (fragment.writtenAfter dialect (fun name => pure (parameter name)) "")

/-- A fragment with named parameters. -/
def namedText (dialect : Dialect) (fragment : Fragment) : String :=
  fragment.write dialect dialect.namedParameter

@[simp] theorem paramNames_nil : paramNames [] = [] := rfl

@[simp] theorem paramNames_append (left right : Fragment) :
    paramNames (left ++ right) = paramNames left ++ paramNames right := by
  simp [paramNames]

@[simp] theorem paramNames_keyword (word : Keyword) : paramNames (keyword word) = [] := rfl

@[simp] theorem paramNames_keywords (words : List Keyword) : paramNames (keywords words) = [] := by
  simp [paramNames, keywords]

@[simp] theorem paramNames_sign (mark : Punctuation) : paramNames (sign mark) = [] := rfl

@[simp] theorem paramNames_comparison (mark : Comparison) : paramNames (comparison mark) = [] :=
  rfl

@[simp] theorem paramNames_ident (name : String) : paramNames (ident name) = [] := rfl

@[simp] theorem paramNames_raw (text : String) : paramNames (raw text) = [] := rfl

@[simp] theorem paramNames_param (name : String) : paramNames (param name) = [name] := rfl

/-- A separator brings no parameters. -/
@[simp] theorem paramNames_joined (separator : Token) (items : List Fragment) :
    paramNames (joined separator items) = items.flatMap paramNames := by
  fun_induction joined separator items with
  | case1 => rfl
  | case2 only => simp
  | case3 first rest _ inductionHypothesis =>
    rw [List.flatMap_cons, ← inductionHypothesis, paramNames_append]
    rfl

/-- Commas bring no parameters. -/
@[simp] theorem paramNames_commaList (items : List Fragment) :
    paramNames (commaList items) = items.flatMap paramNames :=
  paramNames_joined _ items

/-- Parentheses bring no parameters. -/
@[simp] theorem paramNames_parens (inner : Fragment) :
    paramNames (parens inner) = paramNames inner := by
  simp [paramNames, parens, sign]

end Fragment
end Sqlwright.Sql
