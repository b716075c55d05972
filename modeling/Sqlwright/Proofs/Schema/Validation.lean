import Sqlwright.Proofs.Schema.Lookup

/-!
# Which tables are accepted

A table is accepted exactly if it has a name and columns, and its columns are distinct. Otherwise
the error tells of the first column that repeats an earlier one, by its name if the name is
repeated, and else by its property. The check compares every column with those before it; what
it has seen without complaint is distinct, and distinct columns with one that repeats none of them
are so again.

In an accepted table a property finds its own column, whatever the columns are named, and nothing
is found under what is neither a property nor a name.
-/

namespace Sqlwright

/-- The error that a column causes behind earlier ones. A repeated name counts before a repeated
property. -/
inductive Repeats (table : String) (earlier : List Column) (column : Column) : SchemaError → Prop
  where
  | name : column.name ∈ earlier.map (·.name) →
      Repeats table earlier column (.duplicateColumn column.name table)
  | property : column.name ∉ earlier.map (·.name) →
      column.property ∈ earlier.map (·.property) →
      Repeats table earlier column (.duplicateProperty column.property table)

/-- The error that the first column causes which repeats an earlier one. -/
def FirstRepeat (table : String) (columns : List Column) (error : SchemaError) : Prop :=
  ∃ earlier column later, columns = earlier ++ column :: later ∧ Distinct earlier ∧
    Repeats table earlier column error

section

variable {table : String} {earlier columns rest : List Column} {column : Column}
  {error other : SchemaError}

/-- A column causes one error at most. -/
theorem Repeats.unique (first : Repeats table earlier column error)
    (second : Repeats table earlier column other) : error = other := by
  cases first <;> cases second <;> first | rfl | contradiction

/-- A column that causes an error is not distinct from the earlier ones. -/
theorem Repeats.not_distinct (repeated : Repeats table earlier column error) :
    ¬Distinct (earlier ++ column :: rest) := by
  intro distinct
  have names := distinct.names
  have properties := distinct.properties
  rw [List.map_append, List.nodup_append] at names properties
  cases repeated with
  | name named => exact names.2.2 _ named _ List.mem_cons_self rfl
  | property _ listed => exact properties.2.2 _ listed _ List.mem_cons_self rfl

namespace Table

/-- The check of one column: either it causes an error and the check ends, or it is distinct from
the earlier ones and becomes one of them. -/
theorem firstRepeat?_step (table : String) (distinct : Distinct earlier) :
    (∃ error, Repeats table earlier column error ∧
      firstRepeat? table earlier (column :: rest) = some error) ∨
    (Distinct (earlier ++ [column]) ∧
      firstRepeat? table earlier (column :: rest) =
        firstRepeat? table (earlier ++ [column]) rest) := by
  have nameListed : earlier.any (·.name == column.name) = true ↔
      column.name ∈ earlier.map (·.name) := by simp
  have propertyListed : earlier.any (·.property == column.property) = true ↔
      column.property ∈ earlier.map (·.property) := by simp
  by_cases named : column.name ∈ earlier.map (·.name)
  · refine .inl ⟨_, .name named, ?_⟩
    rw [firstRepeat?, if_pos (nameListed.mpr named)]
  · by_cases listed : column.property ∈ earlier.map (·.property)
    · refine .inl ⟨_, .property named listed, ?_⟩
      rw [firstRepeat?, if_neg (mt nameListed.mp named), if_pos (propertyListed.mpr listed)]
    · refine .inr ⟨?_, ?_⟩
      · apply distinct.concat
        · intro present member same
          exact named (List.mem_map.mpr ⟨present, member, same⟩)
        · intro present member same
          exact listed (List.mem_map.mpr ⟨present, member, same⟩)
      · rw [firstRepeat?, if_neg (mt nameListed.mp named), if_neg (mt propertyListed.mp listed)]

/-- The check finds nothing exactly in distinct columns. -/
theorem firstRepeat?_eq_none_iff (distinct : Distinct earlier) :
    firstRepeat? table earlier columns = none ↔ Distinct (earlier ++ columns) := by
  constructor
  · exact distinct_of_firstRepeat? distinct
  · intro whole
    induction columns generalizing earlier with
    | nil => rfl
    | cons column rest inductionHypothesis =>
      rcases firstRepeat?_step table distinct with ⟨_, repeated, _⟩ | ⟨extended, continued⟩
      · exact absurd whole repeated.not_distinct
      · rw [continued]
        apply inductionHypothesis extended
        rwa [List.append_assoc]

/-- What the check finds is the error of the first column that repeats an earlier one. The
induction follows the check: it is on the columns that are left, for any distinct ones before. -/
theorem firstRepeat?_eq_some_iff (distinct : Distinct earlier) :
    firstRepeat? table earlier columns = some error ↔
      ∃ before column later, columns = before ++ column :: later ∧ Distinct (earlier ++ before) ∧
        Repeats table (earlier ++ before) column error := by
  induction columns generalizing earlier with
  | nil => simp [firstRepeat?]
  | cons first rest inductionHypothesis =>
    rcases firstRepeat?_step table distinct with ⟨found, repeated, stopped⟩ | ⟨extended, continued⟩
    · rw [stopped]
      constructor
      · intro same
        cases same
        exact ⟨[], first, rest, rfl, by rwa [List.append_nil], by rwa [List.append_nil]⟩
      · rintro ⟨before, column, later, divided, distinctBefore, repeats⟩
        -- A later column cannot be the first, since the columns before it are distinct.
        cases before with
        | nil =>
          cases divided
          rw [List.append_nil] at repeats
          exact congrArg some (repeated.unique repeats)
        | cons _ before =>
          cases divided
          exact absurd distinctBefore repeated.not_distinct
    · rw [continued, inductionHypothesis extended]
      constructor
      · rintro ⟨before, column, later, rfl, distinctBefore, repeats⟩
        rw [List.append_assoc, List.singleton_append] at distinctBefore repeats
        exact ⟨first :: before, column, later, rfl, distinctBefore, repeats⟩
      · rintro ⟨before, column, later, divided, distinctBefore, repeats⟩
        cases before with
        | nil =>
          cases divided
          rw [List.append_nil] at repeats
          exact absurd extended repeats.not_distinct
        | cons _ before =>
          cases divided
          refine ⟨before, column, later, rfl, ?_, ?_⟩
          · rwa [List.append_assoc]
          · rwa [List.append_assoc]

/-- Nothing is found exactly under what is neither a property nor a name. -/
theorem column?_eq_none_iff {table : Table} {field : String} :
    table.column? field = none ↔
      ∀ column ∈ table.columns, column.property ≠ field ∧ column.name ≠ field := by
  simp only [column?, columnByProperty?, Option.or_eq_none_iff, List.find?_eq_none, beq_iff_eq,
    ← forall_and]

/-- A table that has a name and columns stands or falls with the repetitions among these. -/
theorem checked_of_named {name : String} {schema : Option String} (named : name ≠ "")
    (filled : columns ≠ []) :
    checked name schema columns = match firstRepeat? name [] columns with
      | some repeated => .error repeated
      | none => .ok { name, schema, columns } := by
  have hasName : ¬name.isEmpty = true := by simpa using named
  have hasColumns : ¬columns.isEmpty = true := by simpa using filled
  exact (if_neg hasName).trans (if_neg hasColumns)

/-- Exactly the tables with a name and distinct columns are accepted, as they were given. -/
theorem checked_eq_ok_iff {name : String} {schema : Option String} {accepted : Table} :
    checked name schema columns = .ok accepted ↔
      accepted = { name, schema, columns } ∧ name ≠ "" ∧ columns ≠ [] ∧ Distinct columns := by
  by_cases unnamed : name = ""
  · simp [checked, unnamed]
  · by_cases empty : columns = []
    · simp [checked, unnamed, empty]
    · rw [checked_of_named unnamed empty]
      have clean : firstRepeat? name [] columns = none ↔ Distinct columns :=
        firstRepeat?_eq_none_iff .nil
      split
      · rename_i repeated
        have notDistinct : ¬Distinct columns := fun distinct => by
          rw [clean.mpr distinct] at repeated
          cases repeated
        simp [notDistinct]
      · rename_i noRepeat
        simp [unnamed, empty, clean.mp noRepeat, eq_comm]

/-- Every other table is refused, for what is missing or for its first repetition. -/
theorem checked_eq_error_iff {name : String} {schema : Option String} :
    checked name schema columns = .error error ↔
      (name = "" ∧ error = .emptyTableName) ∨
      (name ≠ "" ∧ columns = [] ∧ error = .noColumns name) ∨
      (name ≠ "" ∧ columns ≠ [] ∧ FirstRepeat name columns error) := by
  by_cases unnamed : name = ""
  · subst unnamed
    have refused : checked "" schema columns = .error .emptyTableName := rfl
    rw [refused, Except.error.injEq, eq_comm]
    simp
  · by_cases empty : columns = []
    · subst empty
      have refused : checked name schema [] = .error (.noColumns name) := by simp [checked, unnamed]
      rw [refused, Except.error.injEq, eq_comm]
      simp [unnamed]
    · have first : firstRepeat? name [] columns = some error ↔ FirstRepeat name columns error :=
        firstRepeat?_eq_some_iff .nil
      rw [checked_of_named unnamed empty]
      simp only [unnamed, empty, ne_eq, not_false_eq_true, true_and, false_and, false_or, ← first]
      split
      · rename_i found
        simp [found]
      · rename_i found
        simp [found]

/-- The check accepts exactly the tables that are unambiguous, returns them as they were given,
and tells of the first repetition in all others that have a name and columns. In a table that it
accepts every column is found by its property, and nothing under what is no property and no
name. -/
theorem checked_admits_unambiguous (name : String) (schema : Option String)
    (columns : List Column) :
    (∀ table, checked name schema columns = .ok table ↔
      table = { name, schema, columns } ∧ name ≠ "" ∧ columns ≠ [] ∧
        (columns.map (·.name)).Nodup ∧ (columns.map (·.property)).Nodup) ∧
    (∀ error, checked name schema columns = .error error ↔
      (name = "" ∧ error = .emptyTableName) ∨
      (name ≠ "" ∧ columns = [] ∧ error = .noColumns name) ∨
      (name ≠ "" ∧ columns ≠ [] ∧ FirstRepeat name columns error)) ∧
    (∀ table, checked name schema columns = .ok table →
      (∀ column ∈ table.columns, table.columnByProperty? column.property = some column ∧
        table.column? column.property = some column) ∧
      ∀ field, table.column? field = none ↔
        ∀ column ∈ table.columns, column.property ≠ field ∧ column.name ≠ field) := by
  refine ⟨fun table => ?_, fun error => checked_eq_error_iff, fun table accepted => ?_⟩
  · rw [checked_eq_ok_iff]
    have both : Distinct columns ↔
        (columns.map (·.name)).Nodup ∧ (columns.map (·.property)).Nodup :=
      ⟨fun distinct => ⟨distinct.names, distinct.properties⟩, fun ⟨names, properties⟩ =>
        ⟨names, properties⟩⟩
    rw [both]
  · have distinct := distinct_of_checked accepted
    refine ⟨fun column member => ⟨?_, ?_⟩, fun field => column?_eq_none_iff⟩
    · exact columnByProperty?_property distinct member
    · exact column?_property distinct member

/-- In a table whose names and properties are crossed, each property finds its own column. -/
theorem crossed_names_are_found :
    checked "swaps" none [{ name := "a", property := "b" }, { name := "b", property := "a" }] =
      .ok ⟨"swaps", none, [{ name := "a", property := "b" }, { name := "b", property := "a" }]⟩ ∧
    column? ⟨"swaps", none, [{ name := "a", property := "b" }, { name := "b", property := "a" }]⟩
      "a" = some { name := "b", property := "a" } := by
  have accepted : checked "swaps" none
      [{ name := "a", property := "b" }, { name := "b", property := "a" }] =
        .ok ⟨"swaps", none,
          [{ name := "a", property := "b" }, { name := "b", property := "a" }]⟩ :=
    ((checked_admits_unambiguous _ _ _).1 _).mpr (by decide)
  have lookups := ((checked_admits_unambiguous _ _ _).2.2 _ accepted).1
  exact ⟨accepted, (lookups { name := "b", property := "a" } (by decide)).2⟩

end Table
end
end Sqlwright
