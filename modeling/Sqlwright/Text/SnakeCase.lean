import Sqlwright.Text.Letter
import Sqlwright.Text.Lowercase

/-!
# Snake case

A name is cut into words at the characters that are neither letters nor digits, after
a lowercase letter that is followed by an uppercase one, and before the last letter of
a run of uppercase letters that a lowercase letter follows. The words are lowercased
and joined by underscores.
-/

namespace Sqlwright.Text

/-- What the cased characters of the current word were last; `start` before the first. -/
inductive CaseMode where
  | start
  | lower
  | upper
deriving DecidableEq, Repr

/-- The mode once a character has joined the word. -/
def CaseMode.after (mode : CaseMode) (c : Char) : CaseMode :=
  if isLowercase c then .lower else if isUppercase c then .upper else mode

/-- The parts of a text between its separators, empty parts included. -/
def parts (separates : Char → Bool) : List Char → List (List Char)
  | [] => [[]]
  | c :: rest =>
    if separates c then [] :: parts separates rest
    else match parts separates rest with
      | [] => [[c]]
      | first :: others => (c :: first) :: others

/-- Cut one part into words. `word` holds the characters of the current word, the last
one first. -/
def cutWords (word : List Char) (mode : CaseMode) : List Char → List (List Char)
  | [] => if word.isEmpty then [] else [word.reverse]
  | [c] => [(c :: word).reverse]
  | c :: next :: rest =>
    if mode.after c = .lower ∧ isUppercase next then
      (c :: word).reverse :: cutWords [] .start (next :: rest)
    else if mode = .upper ∧ isUppercase c ∧ isLowercase next then
      word.reverse :: cutWords [c] .start (next :: rest)
    else cutWords (c :: word) (mode.after c) (next :: rest)

/-- The words of a name, in order. -/
def words (name : String) : List (List Char) :=
  (parts (fun c => !isAlphanumeric c) name.toList).flatMap (cutWords [] .start)

/-- The words of a name, lowercased and joined by underscores. -/
def snakeCase (name : String) : String :=
  "_".intercalate ((words name).map fun word => String.ofList (loweredWord word))

/-- Cutting keeps every character of a part in its place. -/
theorem cutWords_flatten (word : List Char) (mode : CaseMode) (text : List Char) :
    (cutWords word mode text).flatten = word.reverse ++ text := by
  fun_induction cutWords word mode text with
  | case1 => simp_all
  | case2 => simp_all
  | case3 => simp_all
  | case4 => simp_all
  | case5 => simp_all
  | case6 => simp_all

end Sqlwright.Text
