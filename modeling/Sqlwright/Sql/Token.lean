/-!
# Tokens

The fixed words and signs of a statement: punctuation, comparison signs and keywords.
Keywords are named as they are written.
-/

namespace Sqlwright.Sql

/-- Signs that set off or separate parts of a statement. -/
inductive Punctuation where
  | leftParen
  | rightParen
  | comma
  | semicolon
  | point
deriving DecidableEq, Repr

/-- The signs that compare two values. -/
inductive Comparison where
  | eq
  | ne
  | lt
  | le
  | gt
  | ge
deriving DecidableEq, Repr

/-- The words with a fixed meaning. -/
inductive Keyword where
  | SELECT
  | FROM
  | WHERE
  | AND
  | OR
  | NOT
  | IS
  | NULL
  | LIKE
  | BETWEEN
  | IN
  | ORDER
  | BY
  | ASC
  | DESC
  | LIMIT
  | OFFSET
  | ROWS
  | FETCH
  | NEXT
  | ONLY
  | INSERT
  | INTO
  | VALUES
  | DEFAULT
  | RETURNING
  | OUTPUT
  | UPDATE
  | SET
  | DELETE
  | ON
  | CONFLICT
  | DO
  | NOTHING
  | DUPLICATE
  | KEY
  | MERGE
  | USING
  | AS
  | WHEN
  | MATCHED
  | THEN
  | TRUNCATE
  | TABLE
deriving DecidableEq, Repr

/-- A fixed word or sign. -/
inductive Token where
  | punctuation (sign : Punctuation)
  | comparison (sign : Comparison)
  | keyword (word : Keyword)
deriving DecidableEq, Repr

/-- A punctuation sign as written. -/
def Punctuation.text : Punctuation → String
  | .leftParen => "("
  | .rightParen => ")"
  | .comma => ","
  | .semicolon => ";"
  | .point => "."

namespace Comparison

/-- A comparison sign as written. -/
def text : Comparison → String
  | .eq => "="
  | .ne => "<>"
  | .lt => "<"
  | .le => "<="
  | .gt => ">"
  | .ge => ">="

/-- The comparison that holds when the operands are exchanged. -/
def flipped : Comparison → Comparison
  | .lt => .gt
  | .le => .ge
  | .gt => .lt
  | .ge => .le
  | .eq => .eq
  | .ne => .ne

/-- Whether a comparison holds of two values in the given order. -/
def holds : Comparison → Ordering → Bool
  | .eq, order => order == .eq
  | .ne, order => order != .eq
  | .lt, order => order == .lt
  | .le, order => order != .gt
  | .gt, order => order == .gt
  | .ge, order => order != .lt

/-- Exchanging the operands and flipping the sign changes nothing. -/
theorem holds_flipped (sign : Comparison) (order : Ordering) :
    sign.flipped.holds order.swap = sign.holds order := by
  cases sign <;> cases order <;> rfl

/-- Flipping twice gives the sign back. -/
theorem flipped_flipped (sign : Comparison) : sign.flipped.flipped = sign := by
  cases sign <;> rfl

end Comparison

/-- A keyword as written. -/
def Keyword.text : Keyword → String
  | .SELECT => "SELECT"
  | .FROM => "FROM"
  | .WHERE => "WHERE"
  | .AND => "AND"
  | .OR => "OR"
  | .NOT => "NOT"
  | .IS => "IS"
  | .NULL => "NULL"
  | .LIKE => "LIKE"
  | .BETWEEN => "BETWEEN"
  | .IN => "IN"
  | .ORDER => "ORDER"
  | .BY => "BY"
  | .ASC => "ASC"
  | .DESC => "DESC"
  | .LIMIT => "LIMIT"
  | .OFFSET => "OFFSET"
  | .ROWS => "ROWS"
  | .FETCH => "FETCH"
  | .NEXT => "NEXT"
  | .ONLY => "ONLY"
  | .INSERT => "INSERT"
  | .INTO => "INTO"
  | .VALUES => "VALUES"
  | .DEFAULT => "DEFAULT"
  | .RETURNING => "RETURNING"
  | .OUTPUT => "OUTPUT"
  | .UPDATE => "UPDATE"
  | .SET => "SET"
  | .DELETE => "DELETE"
  | .ON => "ON"
  | .CONFLICT => "CONFLICT"
  | .DO => "DO"
  | .NOTHING => "NOTHING"
  | .DUPLICATE => "DUPLICATE"
  | .KEY => "KEY"
  | .MERGE => "MERGE"
  | .USING => "USING"
  | .AS => "AS"
  | .WHEN => "WHEN"
  | .MATCHED => "MATCHED"
  | .THEN => "THEN"
  | .TRUNCATE => "TRUNCATE"
  | .TABLE => "TABLE"

/-- All keywords. -/
def Keyword.all : List Keyword :=
  [.SELECT, .FROM, .WHERE, .AND, .OR, .NOT, .IS, .NULL, .LIKE, .BETWEEN, .IN, .ORDER, .BY,
   .ASC, .DESC, .LIMIT, .OFFSET, .ROWS, .FETCH, .NEXT, .ONLY, .INSERT, .INTO, .VALUES,
   .DEFAULT, .RETURNING, .OUTPUT, .UPDATE, .SET, .DELETE, .ON, .CONFLICT, .DO, .NOTHING,
   .DUPLICATE, .KEY, .MERGE, .USING, .AS, .WHEN, .MATCHED, .THEN, .TRUNCATE, .TABLE]

/-- The keyword with the given spelling. -/
def Keyword.ofText? (text : String) : Option Keyword := Keyword.all.find? (·.text == text)

/-- Every keyword is found by its spelling. -/
theorem Keyword.ofText?_text (word : Keyword) : Keyword.ofText? word.text = some word := by
  cases word <;> decide

namespace Token

/-- A token as written. -/
def text : Token → String
  | .punctuation sign => sign.text
  | .comparison sign => sign.text
  | .keyword word => word.text

/-- Whether a token is a comparison sign, which has spaces around it. -/
def isComparison : Token → Bool
  | .comparison _ => true
  | _ => false

/-- Whether a token is punctuation. -/
def isPunctuation : Token → Bool
  | .punctuation _ => true
  | _ => false

end Token
end Sqlwright.Sql
