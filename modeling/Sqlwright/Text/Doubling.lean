/-!
# Doubled characters

A quoted text keeps a character that would end it by writing that character twice.
Doubling loses nothing: collapsing the pairs gives the text back.
-/

namespace Sqlwright.Text

/-- Every character that `special` picks is written twice, any other once. -/
def doubled (special : Char → Bool) : List Char → List Char
  | [] => []
  | c :: rest =>
    if special c then c :: c :: doubled special rest else c :: doubled special rest

/-- A text without special characters is written as it is. -/
theorem doubled_eq_self (special : Char → Bool) (text : List Char)
    (plain : ∀ c ∈ text, special c = false) : doubled special text = text := by
  induction text with
  | nil => rfl
  | cons c rest inductionHypothesis =>
    have head : special c = false := plain c List.mem_cons_self
    have tail := inductionHypothesis (fun d member => plain d (List.mem_cons_of_mem c member))
    simp [doubled, head, tail]

end Sqlwright.Text
