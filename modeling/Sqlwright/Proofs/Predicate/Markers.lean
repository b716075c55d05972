import Mathlib.Data.List.TakeWhile
import Sqlwright.Proofs.Predicate.Vocabulary
import Sqlwright.Proofs.Sql.Spacing
import Sqlwright.Proofs.Text.Identifier
import Sqlwright.Proofs.Text.Undoubling

/-!
# Reading parameters back from the text

In the text with named parameters, a parameter is its name behind a marker. Who only has the text
looks for markers outside of quoted names, and takes the longest run of letters, digits and
underscores behind each for its name.

Names of parameters are not quoted. They are properties of columns, which may be any text, since
the name of a column is its property if no other is given. So the names that are found are those
that were written exactly if these consist of such characters. Then what follows a parameter, a
space or a closing sign, ends its name, and no other part of a predicate has a marker in it.
-/

namespace Sqlwright

open Sql (Chunk Fragment)

namespace Sql

/-- The names behind the markers of a text, in order. Quoted names are passed over. -/
def markers (dialect : Dialect) : List Char → List String
  | [] => []
  | c :: rest =>
    if c = dialect.openQuote then
      match _closed : Text.closed? dialect.closeQuote rest with
      | none => []
      | some (_, after) => markers dialect after
    else if c = dialect.marker then
      String.ofList (rest.takeWhile Text.isIdentifierChar) ::
        markers dialect (rest.dropWhile Text.isIdentifierChar)
    else markers dialect rest
termination_by text => text.length
decreasing_by
  · exact Nat.lt_succ_of_lt (Text.length_of_closed? ‹_›)
  · exact Nat.lt_succ_of_le (List.dropWhile_sublist _).length_le
  · exact Nat.lt_succ_self _

section

variable {dialect : Dialect} {rest : List Char} {c : Char}

@[simp] theorem markers_nil : markers dialect [] = [] := by rw [markers]

/-- Whether a text has neither a quote nor a marker in it. -/
def isQuiet (dialect : Dialect) (text : List Char) : Bool :=
  text.all fun c => c != dialect.openQuote && c != dialect.marker

/-- A character that is neither a quote nor a marker is passed over. -/
theorem markers_cons (noQuote : c ≠ dialect.openQuote) (noMarker : c ≠ dialect.marker) :
    markers dialect (c :: rest) = markers dialect rest := by
  rw [markers, if_neg noQuote, if_neg noMarker]

/-- So is a text of such characters. -/
theorem markers_quiet {text : List Char} (quiet : isQuiet dialect text = true) :
    markers dialect (text ++ rest) = markers dialect rest := by
  induction text with
  | nil => rfl
  | cons c text inductionHypothesis =>
    obtain ⟨plain, others⟩ := Bool.and_eq_true_iff.mp quiet
    obtain ⟨noQuote, noMarker⟩ := Bool.and_eq_true_iff.mp plain
    rw [List.cons_append, markers_cons (bne_iff_ne.mp noQuote) (bne_iff_ne.mp noMarker)]
    exact inductionHypothesis others

/-- A name in quotes is passed over, whatever it contains. -/
theorem markers_quotedName (single : rest.head? ≠ some dialect.closeQuote) (name : String) :
    markers dialect ((dialect.quotedName name).toList ++ rest) = markers dialect rest := by
  have closed := Text.closed?_doubled single name.toList
  have written : (dialect.quotedName name).toList ++ rest = dialect.openQuote ::
      (Text.doubled (· == dialect.closeQuote) name.toList ++ dialect.closeQuote :: rest) := by
    simp [Dialect.quotedName]
  rw [written, markers, if_pos rfl]
  split
  · rename_i none
    rw [closed] at none
    cases none
  · rename_i same
    rw [closed] at same
    cases same
    rfl

/-- A parameter is found under its name, if this is a word and what follows does not continue
it. -/
theorem markers_namedParameter {name : String} (word : Text.isWord name = true)
    (ends : ∀ c ∈ rest.head?, Text.isIdentifierChar c = false) :
    markers dialect ((dialect.namedParameter name).toList ++ rest) =
      name :: markers dialect rest := by
  have identifier := List.all_eq_true.mp word
  have noQuote : dialect.marker ≠ dialect.openQuote := by cases dialect <;> decide
  have written : (dialect.namedParameter name).toList ++ rest =
      dialect.marker :: (name.toList ++ rest) := by
    simp [Dialect.namedParameter]
  rw [written, markers, if_neg noQuote, if_pos rfl, Text.takeWhile_run identifier ends,
    Text.dropWhile_run identifier ends, String.ofList_toList]

/-- Whatever is found is a word. -/
theorem isWord_of_mem_markers {text : List Char} {name : String}
    (found : name ∈ markers dialect text) : Text.isWord name = true := by
  fun_induction markers dialect text with
  | case1 => cases found
  | case2 => cases found
  | case3 _ _ _ _ inductionHypothesis => exact inductionHypothesis found
  | case4 rest _ inductionHypothesis =>
    rcases List.mem_cons.mp found with rfl | found
    · rw [Text.isWord, String.toList_ofList]
      exact List.all_takeWhile
    · exact inductionHypothesis found
  | case5 _ _ _ _ inductionHypothesis => exact inductionHypothesis found

end

/-- A chunk whose text does not mislead: a name in quotes, a parameter whose name is a word, or
text without quote and marker. -/
def Chunk.Legible (dialect : Dialect) : Chunk → Prop
  | .ident _ => True
  | .param name => Text.isWord name = true
  | other => isQuiet dialect (other.spelled dialect dialect.namedParameter).toList = true

/-- In front of a boundary, a legible chunk is found to be a parameter if it is one. -/
theorem markers_chunk {dialect : Dialect} (rest : List Char) {chunk : Chunk}
    (legible : chunk.Legible dialect) (bounded : chunk.isPunctuation = false →
      ∀ c ∈ rest.head?, c ∈ boundaries) :
    markers dialect ((chunk.spelled dialect dialect.namedParameter).toList ++ rest) =
      Fragment.paramNames [chunk] ++ markers dialect rest := by
  cases chunk with
  | ident name =>
    refine markers_quotedName (fun next => ?_) name
    have apart : dialect.closeQuote ∉ boundaries := by cases dialect <;> decide
    exact apart (bounded rfl _ next)
  | param name =>
    have apart : boundaries.all (!Text.isIdentifierChar ·) = true := by decide
    exact markers_namedParameter legible fun c next => by
      simpa using List.all_eq_true.mp apart c (bounded rfl c next)
  | _ => exact markers_quiet legible

namespace Fragment

/-- The parameters of a fragment are found in its text. -/
theorem markers_namedText {dialect : Dialect} {fragment : Fragment}
    (legible : ∀ chunk ∈ fragment, chunk.Loose ∧ chunk.Legible dialect) :
    markers dialect (fragment.namedText dialect).toList = fragment.paramNames := by
  unfold namedText
  induction fragment with
  | nil => simp
  | cons current rest inductionHypothesis =>
    obtain ⟨loose, legibleHere⟩ := legible current (.head _)
    have onward := inductionHypothesis fun chunk member => legible chunk (.tail _ member)
    cases rest with
    | nil =>
      have alone := markers_chunk [] legibleHere fun _ c none => by cases none
      simpa using alone
    | cons next rest =>
      have looseNext := (legible next (.tail _ (.head _))).1
      have here := markers_chunk
        (space current next ++ write dialect dialect.namedParameter (next :: rest)).toList
        legibleHere fun word c first => by
          obtain ⟨boundary, listed, found, _⟩ :=
            head?_after dialect dialect.namedParameter loose looseNext word
          rw [found] at first
          cases first
          exact listed
      have quiet : isQuiet dialect (space current next).toList = true := by
        unfold space
        split <;> cases dialect <;> rfl
      rw [write_cons_cons, String.toList_append, here, String.toList_append, markers_quiet quiet,
        onward]
      exact (paramNames_append [current] (next :: rest)).symm

end Fragment
end Sql

/-- A name that is wished for as a word becomes a word, with a suffix or without. -/
theorem ParamSet.isWord_freeName (params : ParamSet) {base : String}
    (word : Text.isWord base = true) : Text.isWord (params.freeName base) = true := by
  have wish : Text.isWord (wished base) = true := by
    unfold wished
    split
    · decide
    · exact word
  unfold freeName
  split
  · have number (n : Nat) : (Text.decimal n).toList.all Text.isIdentifierChar = true :=
      List.all_eq_true.mpr fun _ digit =>
        Text.isIdentifierChar_of_isDigit (Text.isDigit_of_mem_decimal digit)
    have underscore : "_".toList.all Text.isIdentifierChar = true := by decide
    rw [Text.isWord] at wish ⊢
    rw [suffixed, String.toList_append, String.toList_append, List.all_append, List.all_append,
      wish, underscore, number]
    rfl
  · exact wish

variable {dialect : Dialect} {table : Table}

/-- Without templates, a predicate is legible if the names of its parameters are words. -/
theorem legible_of_worded {fragment : Fragment} (worded : Worded dialect table False fragment)
    (words : ∀ name ∈ fragment.paramNames, Text.isWord name = true) :
    ∀ chunk ∈ fragment, chunk.Loose ∧ chunk.Legible dialect := by
  intro chunk member
  cases worded chunk member with
  | keyword word known =>
    have quiet : ∀ word ∈ predicateKeywords, Sql.isQuiet dialect word.text.toList = true := by
      cases dialect <;> decide
    exact ⟨Chunk.loose_of_not_raw rfl, quiet word known⟩
  | comparison sign =>
    refine ⟨Chunk.loose_of_not_raw rfl, ?_⟩
    cases dialect <;> cases sign <;> rfl
  | sign mark known =>
    refine ⟨Chunk.loose_of_not_raw rfl, ?_⟩
    cases dialect <;> cases mark <;> rfl
  | name column listed => exact ⟨Chunk.loose_of_not_raw rfl, trivial⟩
  | param params base wish =>
    have named : params.freeName base ∈ fragment.paramNames :=
      List.mem_filterMap.mpr ⟨_, member, rfl⟩
    exact ⟨Chunk.loose_of_not_raw rfl, words _ named⟩
  | truth b =>
    refine ⟨Chunk.loose_of_not_raw rfl, ?_⟩
    cases dialect <;> cases b <;> rfl
  | literal =>
    refine ⟨⟨?_, ?_⟩, ?_⟩ <;> cases dialect <;> rfl
  | text allowed => cases allowed

/-- Where properties are words, so are the names of parameters. -/
theorem isWord_of_worded {fragment : Fragment} (worded : Worded dialect table False fragment)
    (properties : ∀ column ∈ table.columns, Text.isWord column.property = true) :
    ∀ name ∈ fragment.paramNames, Text.isWord name = true := by
  intro name named
  obtain ⟨chunk, member, found⟩ := List.mem_filterMap.mp named
  cases worded chunk member with
  | param params base wish =>
    cases found
    cases wish with
    | standard => exact params.isWord_freeName (by decide)
    | property column listed => exact params.isWord_freeName (properties column listed)
  | _ => cases found

/-- Without templates, the parameters of a predicate are found in its text, each under its name
and in order, exactly if all these names are words. They are if the properties of the table are. -/
theorem markers_of_compile {expr : Expr} {params later : ParamSet} {predicate : Predicate}
    (plain : expr.hasSplice = false)
    (compiled : compile dialect table expr params = (.ok predicate, later)) :
    (Sql.markers dialect (predicate.fragment.namedText dialect).toList =
        predicate.fragment.paramNames ↔
      ∀ name ∈ predicate.fragment.paramNames, Text.isWord name = true) ∧
    ((∀ column ∈ table.columns, Text.isWord column.property = true) →
      Sql.markers dialect (predicate.fragment.namedText dialect).toList =
        predicate.fragment.paramNames) := by
  have worded : Worded dialect table False predicate.fragment := by
    have known := compile_worded compiled
    simpa only [plain, Bool.false_eq_true] using known
  have found (words : ∀ name ∈ predicate.fragment.paramNames, Text.isWord name = true) :
      Sql.markers dialect (predicate.fragment.namedText dialect).toList =
        predicate.fragment.paramNames :=
    Sql.Fragment.markers_namedText (legible_of_worded worded words)
  refine ⟨⟨fun same name named => ?_, found⟩, fun properties =>
    found (isWord_of_worded worded properties)⟩
  rw [← same] at named
  exact Sql.isWord_of_mem_markers named

/-- A suffix keeps a name a word, and a marker in the name of a column is in quotes. -/
theorem markers_of_repeated_property :
    let columns : List Column := [{ name := "the @name", property := "name" }]
    let table : Table := { name := "people", schema := none, columns }
    let expr := Expr.and (.compare .ne (.field "name") (.const (.text "Ann")))
      (.within (.field "name") [.const (.text "Bea"), .const (.text "Cem")])
    ∃ predicate later, compile .sqlite table expr .empty = (.ok predicate, later) ∧
      Sql.markers .sqlite (predicate.fragment.namedText .sqlite).toList =
        ["name", "name_1", "name_2"] := by
  intro columns table expr
  obtain ⟨predicate, later, compiled, names⟩ : ∃ predicate later,
      compile .sqlite table expr .empty = (.ok predicate, later) ∧
        predicate.fragment.paramNames = ["name", "name_1", "name_2"] :=
    ⟨_, _, rfl, by decide⟩
  have found := (markers_of_compile rfl compiled).2 (by decide)
  exact ⟨predicate, later, compiled, found.trans names⟩

/-- A column that is named in two words, and has this name for a property. In the text the name of
its parameter ends behind the first word, and nothing is bound to that. -/
theorem marker_of_two_words_is_cut_short :
    let columns : List Column := [{ name := "first name" }]
    let table : Table := { name := "people", schema := none, columns }
    let expr := Expr.compare .eq (.field "first name") (.const (.text "Ann"))
    Table.checked "people" none columns = .ok table ∧ expr.hasSplice = false ∧
      ∃ predicate later, compile .sqlite table expr .empty = (.ok predicate, later) ∧
        predicate.fragment.paramNames = ["first name"] ∧
        Sql.markers .sqlite (predicate.fragment.namedText .sqlite).toList = ["first"] ∧
        later.get? "first" = none :=
  ⟨rfl, rfl, _, _, rfl, by decide, by decide +kernel, by decide⟩

end Sqlwright
