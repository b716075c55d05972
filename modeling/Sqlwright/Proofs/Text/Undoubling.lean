import Sqlwright.Text.Doubling

/-!
# Reading quoted text

A quoted text ends at the first quote that is not doubled. Read from behind its opening
quote, a text whose quotes were doubled is given back as it was, and the reader stops exactly
behind the closing quote, whatever the text contains. All that this asks is that no further
quote follows at once, since that one would be taken for the second of a pair.
-/

namespace Sqlwright.Text

/-- The text that a quote closes, its pairs collapsed, and what follows the quote. A text
that no quote closes is none. -/
def closed? (quote : Char) : List Char → Option (List Char × List Char)
  | [] => none
  | [c] => if c = quote then some ([], []) else none
  | c :: d :: rest =>
    if c = quote then
      if d = quote then (closed? quote rest).map fun (text, after) => (quote :: text, after)
      else some ([], d :: rest)
    else (closed? quote (d :: rest)).map fun (text, after) => (c :: text, after)

/-- A character that is no quote belongs to the text. -/
theorem closed?_cons {quote c : Char} (plain : c ≠ quote) (rest : List Char) :
    closed? quote (c :: rest) =
      (closed? quote rest).map fun (text, after) => (c :: text, after) := by
  cases rest with
  | nil => simp [closed?, plain]
  | cons d rest => rw [closed?, if_neg plain]

/-- The closing quote ends the text, unless it is the first of a pair. -/
theorem closed?_quote {quote : Char} {rest : List Char} (single : rest.head? ≠ some quote) :
    closed? quote (quote :: rest) = some ([], rest) := by
  cases rest with
  | nil => simp [closed?]
  | cons d rest =>
    have different : d ≠ quote := fun same => single (congrArg some same)
    simp [closed?, different]

/-- Doubling is undone, and the reader stops behind the closing quote. -/
theorem closed?_doubled {quote : Char} {rest : List Char} (single : rest.head? ≠ some quote)
    (text : List Char) :
    closed? quote (doubled (· == quote) text ++ quote :: rest) = some (text, rest) := by
  induction text with
  | nil => exact closed?_quote single
  | cons c text inductionHypothesis =>
    by_cases same : c = quote
    · subst same
      simp [doubled, closed?, inductionHypothesis]
    · have written : doubled (· == quote) (c :: text) ++ quote :: rest =
          c :: (doubled (· == quote) text ++ quote :: rest) := by simp [doubled, same]
      rw [written, closed?_cons same, inductionHypothesis]
      rfl

/-- What the reader takes was written by doubling, and it stops only where no further quote
follows. -/
theorem eq_doubled_of_closed? {quote : Char} {input text rest : List Char}
    (closed : closed? quote input = some (text, rest)) :
    input = doubled (· == quote) text ++ quote :: rest ∧ rest.head? ≠ some quote := by
  fun_induction closed? quote input generalizing text with
  | case1 => cases closed
  | case2 =>
    cases closed
    simp [doubled]
  | case3 => cases closed
  | case4 others inductionHypothesis =>
    obtain ⟨⟨inner, _⟩, found, same⟩ := Option.map_eq_some_iff.mp closed
    cases same
    obtain ⟨written, single⟩ := inductionHypothesis found
    exact ⟨by simp [doubled, ← written], single⟩
  | case5 d others different =>
    cases closed
    exact ⟨by simp [doubled], by simpa using different⟩
  | case6 c d others plain inductionHypothesis =>
    obtain ⟨⟨inner, _⟩, found, same⟩ := Option.map_eq_some_iff.mp closed
    cases same
    obtain ⟨written, single⟩ := inductionHypothesis found
    exact ⟨by simp [doubled, plain, ← written], single⟩

/-- Reading accepts exactly what doubling writes. -/
theorem closed?_eq_some_iff {quote : Char} {input text rest : List Char} :
    closed? quote input = some (text, rest) ↔
      input = doubled (· == quote) text ++ quote :: rest ∧ rest.head? ≠ some quote := by
  constructor
  · exact eq_doubled_of_closed?
  · rintro ⟨rfl, single⟩
    exact closed?_doubled single text

/-- At least the closing quote has been read. -/
theorem length_of_closed? {quote : Char} {input text after : List Char}
    (closed : closed? quote input = some (text, after)) : after.length < input.length := by
  fun_induction closed? quote input generalizing text with
  | case1 => cases closed
  | case2 =>
    cases closed
    exact Nat.zero_lt_one
  | case3 => cases closed
  | case4 rest inductionHypothesis =>
    obtain ⟨⟨inner, _⟩, found, same⟩ := Option.map_eq_some_iff.mp closed
    cases same
    have shorter := inductionHypothesis found
    simp only [List.length_cons]
    omega
  | case5 =>
    cases closed
    exact Nat.lt_succ_self _
  | case6 c d rest _ inductionHypothesis =>
    obtain ⟨⟨inner, _⟩, found, same⟩ := Option.map_eq_some_iff.mp closed
    cases same
    exact Nat.lt_succ_of_lt (inductionHypothesis found)

end Sqlwright.Text
