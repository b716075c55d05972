import Sqlwright.Proofs.Basic
import Sqlwright.Schema.Table

/-!
# Columns of a checked table

A table is accepted only if its columns are distinct: no two share a name and no two share a
property. The check goes through the columns once and compares each with those before it, so
what it keeps up is that the columns seen so far are distinct.

In such a table a column is found by its property, and is known by its name.
-/

namespace Sqlwright

/-- No two columns share a name, and no two share a property. -/
structure Distinct (columns : List Column) : Prop where
  names : (columns.map (·.name)).Nodup
  properties : (columns.map (·.property)).Nodup

namespace Distinct

/-- No columns are distinct. -/
theorem nil : Distinct [] := ⟨List.nodup_nil, List.nodup_nil⟩

/-- Distinct columns remain so when a new one follows them. -/
theorem concat {columns : List Column} {column : Column} (distinct : Distinct columns)
    (newName : ∀ other ∈ columns, other.name ≠ column.name)
    (newProperty : ∀ other ∈ columns, other.property ≠ column.property) :
    Distinct (columns ++ [column]) := by
  constructor
  · rw [List.map_append, List.map_singleton, ← List.concat_eq_append]
    refine distinct.names.concat fun member => ?_
    obtain ⟨other, present, same⟩ := List.mem_map.mp member
    exact newName other present same
  · rw [List.map_append, List.map_singleton, ← List.concat_eq_append]
    refine distinct.properties.concat fun member => ?_
    obtain ⟨other, present, same⟩ := List.mem_map.mp member
    exact newProperty other present same

variable {columns : List Column} {first second : Column}

/-- Distinct columns are known by their names. -/
theorem eq_of_name (distinct : Distinct columns) (present : first ∈ columns)
    (also : second ∈ columns) (same : first.name = second.name) : first = second :=
  List.inj_on_of_nodup_map distinct.names present also same

/-- Distinct columns are known by their properties. -/
theorem eq_of_property (distinct : Distinct columns) (present : first ∈ columns)
    (also : second ∈ columns) (same : first.property = second.property) : first = second :=
  List.inj_on_of_nodup_map distinct.properties present also same

end Distinct

namespace Table

/-- Without a repetition, all columns are distinct. -/
theorem distinct_of_firstRepeat? {table : String} {earlier columns : List Column}
    (distinct : Distinct earlier) (noRepeat : firstRepeat? table earlier columns = none) :
    Distinct (earlier ++ columns) := by
  induction columns generalizing earlier with
  | nil => rwa [List.append_nil]
  | cons column rest inductionHypothesis =>
    unfold firstRepeat? at noRepeat
    split at noRepeat
    · cases noRepeat
    · rename_i newName
      split at noRepeat
      · cases noRepeat
      · rename_i newProperty
        have extended : Distinct (earlier ++ [column]) :=
          distinct.concat (by simpa using newName) (by simpa using newProperty)
        have whole := inductionHypothesis extended noRepeat
        rwa [List.append_assoc] at whole

/-- The columns of an accepted table are distinct. -/
theorem distinct_of_checked {name : String} {schema : Option String} {columns : List Column}
    {table : Table} (accepted : checked name schema columns = .ok table) :
    Distinct table.columns := by
  unfold checked at accepted
  split at accepted
  · cases accepted
  · split at accepted
    · cases accepted
    · split at accepted
      · cases accepted
      · rename_i noRepeat
        cases accepted
        exact distinct_of_firstRepeat? .nil noRepeat

/-- A column of distinct ones is found by its name. -/
theorem find?_name {columns : List Column} {column : Column} (distinct : Distinct columns)
    (member : column ∈ columns) : columns.find? (·.name == column.name) = some column :=
  find?_key distinct.names member

/-- A field names a column of the table. -/
theorem mem_of_column? {table : Table} {field : String} {column : Column}
    (found : table.column? field = some column) : column ∈ table.columns := by
  rcases Option.or_eq_some_iff.mp found with byProperty | ⟨_, byName⟩
  · exact List.mem_of_find?_eq_some byProperty
  · exact List.mem_of_find?_eq_some byName

/-- A column of distinct ones is found by its property among the properties. -/
theorem columnByProperty?_property {table : Table} {column : Column}
    (distinct : Distinct table.columns) (member : column ∈ table.columns) :
    table.columnByProperty? column.property = some column :=
  find?_key distinct.properties member

/-- So it is found by its property, before any column of that name. -/
theorem column?_property {table : Table} {column : Column} (distinct : Distinct table.columns)
    (member : column ∈ table.columns) : table.column? column.property = some column :=
  column?_of_property (columnByProperty?_property distinct member)

end Table
end Sqlwright
