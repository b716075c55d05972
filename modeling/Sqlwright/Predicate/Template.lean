/-!
# Templates of raw text

A template is text in which an argument is called by its number in braces, counted from
zero. Doubled braces stand for single ones. A brace that is neither doubled nor part of
such a call stands for itself.
-/

namespace Sqlwright

/-- A stretch of a template: text as it is, or a call for an argument. -/
inductive Segment where
  | text (s : String)
  | argument (index : Nat)
deriving DecidableEq, Repr

namespace Template

/-- Indices are below this bound; a larger numeral calls for nothing. -/
def indexBound : Nat := UInt64.size

/-- The value of a decimal numeral; none if a character is no digit. -/
def numeral? : Nat → List Char → Option Nat
  | value, [] => some value
  | value, c :: rest =>
    if c.isDigit then numeral? (10 * value + (c.toNat - '0'.toNat)) rest else none

/-- The index that the text between two braces calls for: digits, perhaps behind a plus
sign. -/
def index? (inside : List Char) : Option Nat :=
  let digits := match inside with
    | '+' :: rest => rest
    | all => all
  if digits.isEmpty then none
  else (numeral? 0 digits).filter (· < indexBound)

/-- A call at the start of a text whose opening brace is gone: the index, and what
follows the closing brace. -/
def call? (text : List Char) : Option (Nat × List Char) :=
  match text.dropWhile (· ≠ '\x7d') with
  | [] => none
  | _ :: rest => (index? (text.takeWhile (· ≠ '\x7d'))).map fun index => (index, rest)

/-- A call takes at least its closing brace. -/
theorem length_of_call? {text rest : List Char} {index : Nat}
    (called : call? text = some (index, rest)) : rest.length < text.length := by
  unfold call? at called
  split at called
  case h_1 => simp at called
  case h_2 closing remaining found =>
    obtain ⟨_, _, same⟩ := Option.map_eq_some_iff.mp called
    cases same
    have shorter : (text.dropWhile (· ≠ '\x7d')).length ≤ text.length :=
      (List.dropWhile_sublist _).length_le
    rw [found, List.length_cons] at shorter
    omega

/-- One character of plain text, or one call. -/
inductive Item where
  | char (c : Char)
  | argument (index : Nat)
deriving DecidableEq, Repr

/-- A template read from left to right, character by character. -/
def items : List Char → List Item
  | [] => []
  | '\x7b' :: '\x7b' :: rest => .char '\x7b' :: items rest
  | '\x7d' :: '\x7d' :: rest => .char '\x7d' :: items rest
  | c :: rest =>
    if c = '\x7b' then
      match _called : call? rest with
      | some (index, after) => .argument index :: items after
      | none => .char c :: items rest
    else .char c :: items rest
termination_by text => text.length
decreasing_by
  · simp only [List.length_cons]; omega
  · simp only [List.length_cons]; omega
  · simpa only [List.length_cons] using Nat.lt_succ_of_lt (length_of_call? _called)
  · simp only [List.length_cons]; omega
  · simp only [List.length_cons]; omega

/-- Collect neighbouring characters. `pending` holds those before the list, the last
one first. -/
def collect (pending : List Char) : List Item → List Segment
  | [] => if pending.isEmpty then [] else [.text (String.ofList pending.reverse)]
  | .char c :: rest => collect (c :: pending) rest
  | .argument index :: rest =>
    if pending.isEmpty then .argument index :: collect [] rest
    else .text (String.ofList pending.reverse) :: .argument index :: collect [] rest

/-- The segments of a template. No text is empty, and no two texts are neighbours. -/
def segments (template : String) : List Segment := collect [] (items template.toList)

end Template
end Sqlwright
