import Mathlib.Data.List.Induction
import Sqlwright.Proofs.Sql.Writing
import Sqlwright.Sql.Statement

/-!
# Placeholders and the values they take

Placeholders are given out while the text is written. The invariant of that loop is that
after the parameters of any front part of the text, each of them has the rank of its first
appearance as its number, and the values are those of the distinct parameters in the same
order. Numbers that have been given do not change when more parameters follow, so at the
end every parameter has the number that its name has in the whole text.

Where placeholders carry no numbers, the values are those of all parameters in order.
-/

namespace Sqlwright.Sql

section Distinct

variable {α : Type} [BEq α] [LawfulBEq α] {members : List α} {last : α}

/-- A repeated member is not one more distinct member. -/
theorem eraseDups_concat_of_mem (repeated : last ∈ members) :
    (members ++ [last]).eraseDups = members.eraseDups := by
  simp [List.eraseDups_append, List.removeAll, repeated]

/-- A new member is the last distinct one. -/
theorem eraseDups_concat_of_not_mem (new : last ∉ members) :
    (members ++ [last]).eraseDups = members.eraseDups ++ [last] := by
  simp [List.eraseDups_append, List.removeAll, new, List.eraseDups_cons]

end Distinct

/-- The rank of a name among the distinct names of a list, counted from one. -/
def rank (names : List String) (name : String) : Nat := names.eraseDups.idxOf name + 1

/-- A listed name keeps its rank when more names follow. -/
theorem rank_append {names : List String} {name : String} (listed : name ∈ names)
    (more : List String) : rank (names ++ more) name = rank names name := by
  rw [rank, List.eraseDups_append, List.idxOf_append, if_pos (List.mem_eraseDups.mpr listed), rank]

/-- A new name has the next rank. -/
theorem rank_concat {names : List String} {name : String} (new : name ∉ names) :
    rank (names ++ [name]) name = names.eraseDups.length + 1 := by
  have apart : name ∉ names.eraseDups := fun listed => new (List.mem_eraseDups.mp listed)
  rw [rank, eraseDups_concat_of_not_mem new, List.idxOf_append, if_neg apart, List.idxOf_cons_self,
    Nat.zero_add]

theorem rank_le {names : List String} {name : String} (listed : name ∈ names) :
    rank names name ≤ names.eraseDups.length :=
  List.idxOf_lt_length_of_mem (List.mem_eraseDups.mpr listed)

/-- The name of a rank is found there again. -/
theorem getElem?_rank {names : List String} {name : String} (listed : name ∈ names) :
    names.eraseDups[rank names name - 1]? = some name := by
  have inside := List.idxOf_lt_length_of_mem (List.mem_eraseDups.mpr listed)
  rw [rank, Nat.add_sub_cancel, List.getElem?_eq_getElem inside, List.getElem_idxOf]

/-- Names of one rank are the same. -/
theorem rank_injective {names : List String} {first second : String} (listed : first ∈ names)
    (also : second ∈ names) (same : rank names first = rank names second) : first = second := by
  have found := getElem?_rank listed
  rw [same, getElem?_rank also] at found
  exact (Option.some.inj found).symm

/-- Two names of a list have the same rank exactly when they are the same. -/
theorem getElem?_map_rank (names : List String) (i j : Nat) :
    (names.map (rank names))[i]? = (names.map (rank names))[j]? ↔ names[i]? = names[j]? := by
  rw [List.getElem?_map, List.getElem?_map]
  constructor
  · intro same
    cases first : names[i]? with
    | none =>
      rw [first, Option.map_none, eq_comm, Option.map_eq_none_iff] at same
      rw [same]
    | some name =>
      rw [first, Option.map_some, eq_comm, Option.map_eq_some_iff] at same
      obtain ⟨other, second, equal⟩ := same
      rw [second, rank_injective (List.mem_of_getElem? second) (List.mem_of_getElem? first) equal]
  · intro same
    rw [same]

/-- The ranks of all names, in order of their first use, are one, two, three and so on. -/
theorem eraseDups_map_rank (names : List String) :
    (names.map (rank names)).eraseDups = List.range' 1 names.eraseDups.length := by
  induction names using List.reverseRecOn with
  | nil => rfl
  | append_singleton names last inductionHypothesis =>
    have former : names.map (rank (names ++ [last])) = names.map (rank names) :=
      List.map_congr_left fun name listed => rank_append listed [last]
    rw [List.map_append, former, List.map_singleton]
    by_cases listed : last ∈ names
    · have again : rank (names ++ [last]) last ∈ names.map (rank names) := by
        rw [rank_append listed]
        exact List.mem_map_of_mem listed
      rw [eraseDups_concat_of_mem again, eraseDups_concat_of_mem listed, inductionHypothesis]
    · have unused : rank (names ++ [last]) last ∉ names.map (rank names) := by
        rw [rank_concat listed, List.mem_map]
        rintro ⟨name, earlier, same⟩
        have below := rank_le earlier
        omega
      rw [eraseDups_concat_of_not_mem unused, eraseDups_concat_of_not_mem listed,
        inductionHypothesis, rank_concat listed, List.length_append, List.length_singleton,
        List.range'_concat, Nat.one_mul, Nat.add_comm]

/-- Steps over a list are run one after another. -/
theorem run_mapM_cons {σ α β : Type} (step : α → StateM σ β) (first : α) (rest : List α)
    (state : σ) :
    ((first :: rest).mapM step).run state =
      let (result, middle) := (step first).run state
      let (results, later) := (rest.mapM step).run middle
      (result :: results, later) := by
  rw [List.mapM_cons]
  rfl

namespace Statement

variable {statement : Statement} {numbering : Numbering} {names : List String}

/-- The placeholders given out so far are those of the names so far: each has its rank as
its number, and the values are those of the distinct names. -/
structure Numbered (statement : Statement) (names : List String) (numbering : Numbering) :
    Prop where
  numbers : ∀ name,
    numbering.numbers[name]? = if name ∈ names then some (rank names name) else none
  values : numbering.values = names.eraseDups.map statement.valueOf

/-- At the start there are no names. -/
theorem numbered_start (statement : Statement) : Numbered statement [] .start :=
  ⟨fun name => by simp [Numbering.start], rfl⟩

/-- What one parameter is given, and what is given out afterwards. -/
theorem run_placed (statement : Statement) (name : String) (numbering : Numbering) :
    (statement.placed name).run numbering =
      if statement.dialect.numbersPlaceholders then
        match numbering.numbers[name]? with
        | some number => (statement.dialect.placeholder number, numbering)
        | none =>
          (statement.dialect.placeholder (numbering.values.length + 1),
            ⟨numbering.numbers.insert name (numbering.values.length + 1),
              numbering.values ++ [statement.valueOf name]⟩)
      else
        (statement.dialect.placeholder (numbering.values.length + 1),
          ⟨numbering.numbers, numbering.values ++ [statement.valueOf name]⟩) := by
  cases numbers : statement.dialect.numbersPlaceholders with
  | true =>
    cases found : numbering.numbers[name]? with
    | some number =>
      simp [placed, numbers, found]
      rfl
    | none =>
      simp [placed, numbers, found]
      rfl
  | false =>
    simp [placed, numbers]
    rfl

/-- One more parameter gets its rank. Only a new one takes a value. -/
theorem placed_of_numbers (numbers : statement.dialect.numbersPlaceholders = true)
    (numbered : Numbered statement names numbering) (name : String) :
    ∃ later,
      (statement.placed name).run numbering =
        (statement.dialect.placeholder (rank (names ++ [name]) name), later) ∧
      Numbered statement (names ++ [name]) later := by
  have looked := numbered.numbers name
  by_cases listed : name ∈ names
  · rw [if_pos listed] at looked
    refine ⟨numbering, ?_, ?_, ?_⟩
    · rw [run_placed, if_pos numbers, looked, rank_append listed]
    · intro other
      by_cases same : other ∈ names
      · simp [numbered.numbers other, same, rank_append same]
      · have different : other ≠ name := fun equal => same (equal ▸ listed)
        simp [numbered.numbers other, same, different]
    · rw [numbered.values, eraseDups_concat_of_mem listed]
  · rw [if_neg listed] at looked
    have count : numbering.values.length + 1 = rank (names ++ [name]) name := by
      rw [rank_concat listed, numbered.values, List.length_map]
    refine ⟨⟨numbering.numbers.insert name (numbering.values.length + 1),
      numbering.values ++ [statement.valueOf name]⟩, ?_, ?_, ?_⟩
    · rw [run_placed, if_pos numbers, looked, ← count]
    · intro other
      by_cases equal : other = name
      · subst equal
        simp [count]
      · have apart : name ≠ other := Ne.symm equal
        by_cases same : other ∈ names
        · simp [Std.ExtTreeMap.getElem?_insert, numbered.numbers other, same, rank_append same,
            apart]
        · simp [Std.ExtTreeMap.getElem?_insert, numbered.numbers other, same, equal, apart]
    · rw [numbered.values, eraseDups_concat_of_not_mem listed, List.map_append, List.map_singleton]

/-- Parameters placed one after another get the numbers that they have at the end. -/
theorem mapM_placed_of_numbers (numbers : statement.dialect.numbersPlaceholders = true)
    (numbered : Numbered statement names numbering) (more : List String) :
    ∃ later,
      (more.mapM statement.placed).run numbering =
        (more.map fun name => statement.dialect.placeholder (rank (names ++ more) name), later) ∧
      Numbered statement (names ++ more) later := by
  induction more generalizing names numbering with
  | nil => exact ⟨numbering, rfl, by simpa using numbered⟩
  | cons name rest inductionHypothesis =>
    obtain ⟨middle, first, covered⟩ := placed_of_numbers numbers numbered name
    obtain ⟨later, others, numberedLater⟩ := inductionHypothesis covered
    have appended : names ++ [name] ++ rest = names ++ name :: rest := by simp
    rw [appended] at others numberedLater
    have stable : rank (names ++ [name]) name = rank (names ++ name :: rest) name := by
      rw [← appended, rank_append (List.mem_append_right _ (.head _))]
    refine ⟨later, ?_, numberedLater⟩
    rw [run_mapM_cons, first, stable]
    dsimp only
    rw [others, List.map_cons]

/-- Without numbers every parameter takes its value anew. -/
theorem mapM_placed_of_marks (marks : statement.dialect.numbersPlaceholders = false)
    (numbering : Numbering) (names : List String) :
    (names.mapM statement.placed).run numbering =
      ((List.range' (numbering.values.length + 1) names.length).map statement.dialect.placeholder,
        ⟨numbering.numbers, numbering.values ++ names.map statement.valueOf⟩) := by
  induction names generalizing numbering with
  | nil => simp only [List.map_nil, List.append_nil]; rfl
  | cons name rest inductionHypothesis =>
    rw [run_mapM_cons, run_placed, marks, if_neg Bool.false_ne_true]
    dsimp only
    rw [inductionHypothesis]
    simp [List.range'_succ]

/-- The parameters of a statement, each once, in order of first appearance. -/
def distinctParams (statement : Statement) : List String :=
  statement.fragment.paramNames.eraseDups

/-- The numbers of the placeholders of a statement, in order. -/
def placeholderNumbers (statement : Statement) : List Nat :=
  let names := statement.fragment.paramNames
  if statement.dialect.numbersPlaceholders then names.map (rank names)
  else List.range' 1 names.length

/-- The values that the placeholders of a statement take. -/
def placeholderValues (statement : Statement) : List Value :=
  if statement.dialect.numbersPlaceholders then statement.distinctParams.map statement.valueOf
  else statement.fragment.paramNames.map statement.valueOf

/-- Placing all parameters of a statement gives its numbers and takes its values. -/
theorem mapM_placed (statement : Statement) :
    ∃ later,
      (statement.fragment.paramNames.mapM statement.placed).run .start =
        (statement.placeholderNumbers.map statement.dialect.placeholder, later) ∧
      later.values = statement.placeholderValues := by
  unfold placeholderNumbers placeholderValues
  cases numbers : statement.dialect.numbersPlaceholders with
  | true =>
    obtain ⟨later, result, numbered⟩ := mapM_placed_of_numbers numbers
      (numbered_start statement) statement.fragment.paramNames
    rw [List.nil_append] at result numbered
    exact ⟨later, by rw [result, if_pos rfl, List.map_map]; rfl, numbered.values⟩
  | false =>
    exact ⟨_, mapM_placed_of_marks numbers .start _, by simp [Numbering.start]⟩

/-- What the loop over the text yields, told without the loop. -/
theorem positional_eq_woven (statement : Statement) :
    statement.positional =
      ⟨woven (statement.fragment.gaps statement.dialect)
        (statement.placeholderNumbers.map statement.dialect.placeholder),
        statement.placeholderValues⟩ := by
  obtain ⟨later, placed, values⟩ := mapM_placed statement
  have written :
      (statement.fragment.writtenAfter statement.dialect statement.placed "").run .start =
        (woven (statement.fragment.gaps statement.dialect)
          (statement.placeholderNumbers.map statement.dialect.placeholder), later) := by
    rw [Fragment.writtenAfter_eq_woven, StateT.run_bind, placed]
    simp only [String.empty_append]
    rfl
  rw [positional, written, ← values]

/-- The value that a parameter without literal of its own has is NULL. -/
theorem inlined_eq_literal (statement : Statement) (name : String) :
    statement.inlined name = (statement.valueOf name).literal statement.dialect := by
  unfold inlined valueOf
  cases statement.params.get? name <;> rfl

theorem length_placeholderNumbers (statement : Statement) :
    statement.placeholderNumbers.length = statement.fragment.paramNames.length := by
  unfold placeholderNumbers
  cases statement.dialect.numbersPlaceholders <;> simp

/-- The values that the placeholders with the given numbers denote, in order of the
placeholders: with numbers the value at that number, else the value at that place. -/
def denoted (statement : Statement) (numbers : List Nat) : List (Option Value) :=
  if statement.dialect.numbersPlaceholders then
    numbers.map fun number => statement.positional.values[number - 1]?
  else statement.positional.values.map some

/-- Every placeholder denotes the value of its parameter. -/
theorem denoted_placeholderNumbers (statement : Statement) :
    statement.denoted statement.placeholderNumbers =
      (statement.fragment.paramNames.map statement.valueOf).map some := by
  unfold denoted
  rw [positional_eq_woven]
  unfold placeholderNumbers placeholderValues
  cases statement.dialect.numbersPlaceholders with
  | true =>
    simp only [if_true, List.map_map]
    refine List.map_congr_left fun name listed => ?_
    simp only [Function.comp_apply, List.getElem?_map, distinctParams, getElem?_rank listed,
      Option.map_some]
  | false => rfl

/-- The three texts of a statement have the same parts around the parameters. In their
gaps stand the names behind the marker, the placeholders, and the literals of the values
that the placeholders denote, which are those bound to the names, or NULL.

With numbers, two placeholders have the same number exactly when their parameters have
the same name, and in order of first use the numbers are one, two, three and so on up to
the number of values. Without, there are as many values as placeholders. -/
theorem texts_agree (statement : Statement) :
    let names := statement.fragment.paramNames
    ∃ (texts : List String) (numbers : List Nat) (values : List Value),
      texts.length = names.length + 1 ∧ numbers.length = names.length ∧
      statement.namedText = woven texts (names.map statement.dialect.namedParameter) ∧
      statement.positional.text = woven texts (numbers.map statement.dialect.placeholder) ∧
      statement.inlineText = woven texts (values.map (Value.literal statement.dialect)) ∧
      statement.denoted numbers = values.map some ∧
      values = names.map (fun name => (statement.params.get? name).getD .null) ∧
      if statement.dialect.numbersPlaceholders then
        (∀ i j : Nat, numbers[i]? = numbers[j]? ↔ names[i]? = names[j]?) ∧
          numbers.eraseDups = List.range' 1 statement.positional.values.length
      else statement.positional.values.length = names.length := by
  refine ⟨statement.fragment.gaps statement.dialect, statement.placeholderNumbers,
    statement.fragment.paramNames.map statement.valueOf, Fragment.length_gaps _ _,
    length_placeholderNumbers statement, Fragment.write_eq_woven _ _ _, ?_, ?_,
    denoted_placeholderNumbers statement, rfl, ?_⟩
  · rw [positional_eq_woven]
  · rw [inlineText, Fragment.write_eq_woven, List.map_map]
    exact congrArg _ (List.map_congr_left fun name _ => statement.inlined_eq_literal name)
  · rw [positional_eq_woven]
    unfold placeholderNumbers placeholderValues distinctParams
    cases statement.dialect.numbersPlaceholders with
    | false => simp
    | true =>
      simp only [if_true, List.length_map]
      exact ⟨getElem?_map_rank _, eraseDups_map_rank _⟩

end Statement
end Sqlwright.Sql
