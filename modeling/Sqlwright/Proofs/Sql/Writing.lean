import Sqlwright.Sql.Fragment

/-!
# The text around the parameters

A fragment is written chunk by chunk, and each parameter is written by an action of the
caller. Spaces are put between chunks, not between texts, so the caller has no say in
them: the actions run in the order of the parameters, and what they yield stands in the
gaps of a text that the fragment and the dialect determine alone.
-/

namespace Sqlwright.Sql

/-- A text put in front of the first of several. -/
def prepended (text : String) : List String → List String
  | [] => [text]
  | first :: rest => (text ++ first) :: rest

/-- Texts with marks in the gaps between them. -/
def woven : List String → List String → String
  | text :: texts, mark :: marks => text ++ mark ++ woven texts marks
  | texts, _ => String.join texts

theorem prepended_ne_nil (text : String) (texts : List String) : prepended text texts ≠ [] := by
  cases texts <;> simp [prepended]

theorem length_prepended (text : String) {texts : List String} (nonempty : texts ≠ []) :
    (prepended text texts).length = texts.length := by
  cases texts with
  | nil => exact absurd rfl nonempty
  | cons first rest => rfl

/-- A text in front of the first one stands in front of all. -/
theorem woven_prepended (text : String) {texts : List String} (nonempty : texts ≠ [])
    (marks : List String) : woven (prepended text texts) marks = text ++ woven texts marks := by
  cases texts with
  | nil => exact absurd rfl nonempty
  | cons first rest =>
    cases marks with
    | nil => simp [prepended, woven, String.append_assoc]
    | cons mark marks => simp only [prepended, woven, String.append_assoc]

/-- The texts around the parameters, given those around the parameters after a chunk. A
parameter opens a gap. -/
def Chunk.before (dialect : Dialect) (texts : List String) : Chunk → List String
  | .param _ => "" :: texts
  | other => prepended (Id.run (other.written dialect fun _ => pure "")) texts

theorem Chunk.before_ne_nil (dialect : Dialect) (texts : List String) (chunk : Chunk) :
    chunk.before dialect texts ≠ [] := by
  cases chunk with
  | param name => exact List.cons_ne_nil _ _
  | _ => exact prepended_ne_nil _ _

namespace Fragment

/-- A chunk of separated fragments is a separator or belongs to one of them. -/
theorem mem_joined {separator : Token} {items : List Fragment} {chunk : Chunk}
    (member : chunk ∈ joined separator items) :
    chunk = .token separator ∨ ∃ item ∈ items, chunk ∈ item := by
  fun_induction joined separator items with
  | case1 => cases member
  | case2 only => exact .inr ⟨only, .head _, member⟩
  | case3 first rest _ inductionHypothesis =>
    rcases List.mem_append.mp member with inFirst | others
    · exact .inr ⟨first, .head _, inFirst⟩
    · rcases List.mem_cons.mp others with same | others
      · exact .inl same
      · rcases inductionHypothesis others with same | ⟨item, present, inside⟩
        · exact .inl same
        · exact .inr ⟨item, .tail _ present, inside⟩

/-- Separated fragments without separators in them are told apart again. -/
theorem splitOnP_joined {separator : Token} {divides : Chunk → Bool}
    (separates : divides (.token separator) = true) {items : List Fragment} (nonempty : items ≠ [])
    (plain : ∀ item ∈ items, ∀ chunk ∈ item, divides chunk = false) :
    (joined separator items).splitOnP divides = items := by
  fun_induction joined separator items with
  | case1 => exact absurd rfl nonempty
  | case2 only => exact List.splitOnP_eq_singleton (plain only (.head _))
  | case3 first rest others inductionHypothesis =>
    have alone := List.splitOnP_eq_singleton (plain first (.head _))
    rw [List.splitOnP_append_cons _ _ separates, alone,
      inductionHypothesis others fun item member => plain item (.tail _ member)]
    rfl

/-- The space between two chunks, if there is one. -/
def space (current next : Chunk) : String := if current.spaced next then " " else ""

/-- The texts around the parameters of a fragment: what stands before the first, between
neighbours, and after the last. -/
def gaps (dialect : Dialect) : Fragment → List String
  | [] => [""]
  | [last] => last.before dialect [""]
  | current :: next :: rest =>
    current.before dialect (prepended (space current next) (gaps dialect (next :: rest)))

theorem gaps_ne_nil (dialect : Dialect) (fragment : Fragment) : fragment.gaps dialect ≠ [] := by
  fun_cases gaps dialect fragment with
  | case1 => exact List.cons_ne_nil _ _
  | case2 last => exact last.before_ne_nil dialect _
  | case3 current next rest => exact current.before_ne_nil dialect _

/-- There is one text more than there are parameters. -/
theorem length_gaps (dialect : Dialect) (fragment : Fragment) :
    (fragment.gaps dialect).length = fragment.paramNames.length + 1 := by
  fun_induction gaps dialect fragment with
  | case1 => rfl
  | case2 last => cases last <;> rfl
  | case3 current next rest inductionHypothesis =>
    have nonempty := prepended_ne_nil (space current next) (gaps dialect (next :: rest))
    have inside := length_prepended (space current next) (gaps_ne_nil dialect (next :: rest))
    cases current with
    | param name =>
      rw [Chunk.before, List.length_cons, inside, inductionHypothesis]
      rfl
    | _ =>
      rw [Chunk.before, length_prepended _ nonempty, inside, inductionHypothesis]
      · rfl
      · simp

/-- Writing runs the actions of the parameters in order, and weaves what they yield into
the texts of the fragment. -/
theorem writtenAfter_eq_woven {m : Type → Type} [Monad m] [LawfulMonad m] (dialect : Dialect)
    (parameter : String → m String) (text : String) (fragment : Fragment) :
    fragment.writtenAfter dialect parameter text = do
      let marks ← fragment.paramNames.mapM parameter
      return text ++ woven (fragment.gaps dialect) marks := by
  fun_induction writtenAfter dialect parameter text fragment with
  | case1 text => simp [gaps, woven]
  | case2 text last =>
    cases last <;> simp [gaps, woven, Chunk.written, Chunk.before, paramNames, prepended]
  | case3 text current next rest inductionHypothesis =>
    have nonempty := prepended_ne_nil (space current next) (gaps dialect (next :: rest))
    have spacedText (text : String) :
        (if current.spaced next then text ++ " " else text) = text ++ space current next := by
      unfold space
      split <;> simp
    have onward (marks : List String) :
        woven (prepended (space current next) (gaps dialect (next :: rest))) marks =
          space current next ++ woven (gaps dialect (next :: rest)) marks :=
      woven_prepended _ (gaps_ne_nil dialect (next :: rest)) marks
    simp only [spacedText] at inductionHypothesis ⊢
    simp only [inductionHypothesis]
    cases current with
    | param name =>
      simp [gaps, Chunk.before, Chunk.written, paramNames, woven, onward, String.append_assoc]
    | _ =>
      simp [gaps, Chunk.before, Chunk.written, paramNames, woven_prepended _ nonempty, onward,
        String.append_assoc]

/-- Written with a text for each parameter, a fragment weaves these into its own texts. -/
theorem write_eq_woven (dialect : Dialect) (parameter : String → String) (fragment : Fragment) :
    fragment.write dialect parameter =
      woven (fragment.gaps dialect) (fragment.paramNames.map parameter) := by
  rw [write, writtenAfter_eq_woven]
  simp

end Fragment

/-- A chunk as the dialect spells it, the text of each parameter being given by its name. -/
def Chunk.spelled (dialect : Dialect) (parameter : String → String) (chunk : Chunk) : String :=
  Id.run (chunk.written dialect fun name => pure (parameter name))

namespace Fragment

variable (dialect : Dialect) (parameter : String → String)

@[simp] theorem write_nil : write dialect parameter [] = "" := rfl

@[simp] theorem write_singleton (chunk : Chunk) :
    write dialect parameter [chunk] = chunk.spelled dialect parameter := by
  rw [write_eq_woven]
  cases chunk <;> simp [gaps, Chunk.before, Chunk.spelled, Chunk.written, paramNames, woven,
    prepended]

/-- A fragment is written chunk by chunk, with a space where one is due. -/
theorem write_cons_cons (current next : Chunk) (rest : Fragment) :
    write dialect parameter (current :: next :: rest) =
      current.spelled dialect parameter ++ (space current next ++
        write dialect parameter (next :: rest)) := by
  have onward : woven (prepended (space current next) (gaps dialect (next :: rest)))
      ((paramNames (next :: rest)).map parameter) =
        space current next ++ write dialect parameter (next :: rest) := by
    rw [woven_prepended _ (gaps_ne_nil dialect (next :: rest)), ← write_eq_woven]
  rw [← onward, write_eq_woven, gaps]
  have nonempty := prepended_ne_nil (space current next) (gaps dialect (next :: rest))
  cases current with
  | param name =>
    simp [Chunk.before, Chunk.spelled, Chunk.written, paramNames, woven]
  | _ =>
    rw [Chunk.before, woven_prepended _ nonempty]
    · rfl
    · simp

end Fragment
end Sqlwright.Sql
