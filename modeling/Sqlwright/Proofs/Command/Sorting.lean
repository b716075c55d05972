import Sqlwright.Proofs.Command.Incoming
import Sqlwright.Proofs.Predicate.Vocabulary
import Sqlwright.Proofs.Text.Identifier
import Mathlib.Data.List.Forall2

/-!
# What a select sorts by

A sort term is a bare name. A database looks it up among the labels of the output columns first,
and among the columns of the table only if no label is equal to it. The select list, the labels
and the sort terms are read off the text here, chunk by chunk, and each term is resolved in this
way.

A sort term is written with the name of a column, while the labels are names of properties if
renamed columns are given them. So a term sorts by the column that was asked for exactly if no
other column that is read has its name for a property. A table may well have such a column: the
names are checked among each other, and the properties are, but not the ones against the others.
-/

namespace Sqlwright

open Sql (Chunk Fragment Statement Token)

namespace Select

open Command Sql.Fragment

/-- An output column: the name that it goes by, and the column of the table that it shows. -/
structure Output where
  label : String
  column : String
deriving DecidableEq, Repr

/-- Whether a chunk is a comma. -/
def isComma (chunk : Chunk) : Bool := chunk == .token (.punctuation .comma)

/-- An item of a select list. Without a label it goes by its own name. -/
def output? : Fragment → Option Output
  | [.ident name] => some ⟨name, name⟩
  | [.ident name, .token (.keyword .AS), .ident label] => some ⟨label, name⟩
  | _ => none

/-- The select list: what stands between SELECT and FROM. -/
def outputs? : Fragment → Option (List Output)
  | .token (.keyword .SELECT) :: rest =>
    ((rest.takeWhile (· ≠ .token (.keyword .FROM))).splitOnP isComma).mapM output?
  | _ => none

/-- A sort term: a name, and whether the order is descending. -/
def sortKey? : Fragment → Option (String × Bool)
  | [.ident name, .token (.keyword .ASC)] => some (name, false)
  | [.ident name, .token (.keyword .DESC)] => some (name, true)
  | _ => none

/-- Whether a chunk begins the paging clause. -/
def beginsPaging (chunk : Chunk) : Bool :=
  chunk == .token (.keyword .LIMIT) || chunk == .token (.keyword .OFFSET)

/-- The sort terms: what stands behind ORDER BY, up to the paging clause. -/
def sortTerms (fragment : Fragment) : List Fragment :=
  match fragment.dropWhile (· ≠ .token (.keyword .ORDER)) with
  | .token (.keyword .ORDER) :: .token (.keyword .BY) :: rest =>
    (rest.takeWhile fun chunk => !beginsPaging chunk).splitOnP isComma
  | _ => []

/-- The column of the table that a bare name in a sort term denotes: the one that the output
column of this label shows, or else the one of this name. -/
def denoted? (table : Table) (outputs : List Output) (name : String) : Option Column :=
  let source := ((outputs.find? (·.label == name)).map (·.column)).getD name
  table.columns.find? (·.name == source)

/-- The column that a select sorts by in the given place, and whether the order is descending. -/
def sortedBy? (table : Table) (fragment : Fragment) (place : Nat) : Option (Column × Bool) := do
  let outputs ← outputs? fragment
  let term ← (sortTerms fragment)[place]?
  let (name, descending) ← sortKey? term
  let column ← denoted? table outputs name
  return (column, descending)

/-- Separated by commas, items without commas are told apart again. -/
theorem splitOnP_commaList {items : List Fragment} (nonempty : items ≠ [])
    (plain : ∀ item ∈ items, ∀ chunk ∈ item, isComma chunk = false) :
    (commaList items).splitOnP isComma = items :=
  splitOnP_joined rfl nonempty plain

/-- What a column of the select list is read as. -/
def outputOf (aliasColumns : Bool) (column : Column) : Output :=
  ⟨if aliasColumns then column.property else column.name, column.name⟩

/-- An item of the select list is read as it was meant. One that is not renamed has its property
for a label, as this is its name. -/
theorem output?_outputColumn (aliasColumns : Bool) (column : Column) :
    output? (outputColumn aliasColumns column) = some (outputOf aliasColumns column) := by
  cases aliasColumns with
  | false => rfl
  | true =>
    cases renamed : column.isRenamed with
    | true => simp [outputColumn, renamed, outputOf, output?, ident, keyword]
    | false =>
      have same : column.name = column.property := by
        simpa [Column.isRenamed] using renamed
      simp [outputColumn, renamed, outputOf, output?, ident, same]

/-- An item of the select list consists of names and perhaps of AS. -/
theorem mem_outputColumn {aliasColumns : Bool} {column : Column} {chunk : Chunk}
    (member : chunk ∈ outputColumn aliasColumns column) :
    (∃ name, chunk = .ident name) ∨ chunk = .token (.keyword .AS) := by
  unfold outputColumn at member
  split at member
  · simp only [ident, keyword, List.mem_append, List.mem_singleton] at member
    rcases member with (rfl | rfl) | rfl
    · exact .inl ⟨_, rfl⟩
    · exact .inr rfl
    · exact .inl ⟨_, rfl⟩
  · exact .inl ⟨_, List.mem_singleton.mp member⟩

/-- A select list holds names, AS and commas. -/
theorem mem_selectList {aliasColumns : Bool} {columns : List Column} {chunk : Chunk}
    (member : chunk ∈ commaList (columns.map (outputColumn aliasColumns))) :
    chunk = .token (.punctuation .comma) ∨ (∃ name, chunk = .ident name) ∨
      chunk = .token (.keyword .AS) := by
  rcases mem_joined member with same | ⟨item, listed, inside⟩
  · exact .inl same
  · obtain ⟨column, _, rfl⟩ := List.mem_map.mp listed
    exact .inr (mem_outputColumn inside)

/-- The select list is read back, whatever follows FROM. -/
theorem outputs?_selectList (aliasColumns : Bool) {columns : List Column} (nonempty : columns ≠ [])
    (rest : Fragment) :
    outputs? (keyword .SELECT ++ commaList (columns.map (outputColumn aliasColumns)) ++
        keyword .FROM ++ rest) = some (columns.map (outputOf aliasColumns)) := by
  have noFrom : Chunk.token (.keyword .FROM) ∉
      commaList (columns.map (outputColumn aliasColumns)) := by
    intro member
    rcases mem_selectList member with same | ⟨_, same⟩ | same <;> cases same
  have plain : ∀ item ∈ columns.map (outputColumn aliasColumns), ∀ chunk ∈ item,
      isComma chunk = false := by
    intro item member chunk inside
    obtain ⟨column, _, rfl⟩ := List.mem_map.mp member
    rcases mem_outputColumn inside with ⟨name, rfl⟩ | rfl <;> rfl
  have written : keyword .SELECT ++ commaList (columns.map (outputColumn aliasColumns)) ++
      keyword .FROM ++ rest = .token (.keyword .SELECT) ::
        (commaList (columns.map (outputColumn aliasColumns)) ++
          .token (.keyword .FROM) :: rest) := by
    simp [keyword]
  have each : output? ∘ outputColumn aliasColumns = pure ∘ outputOf aliasColumns :=
    funext (output?_outputColumn aliasColumns)
  rw [written, outputs?, takeWhile_ne_append noFrom,
    splitOnP_commaList (by simpa using nonempty) plain, List.mapM_map, each]
  exact List.mapM_pure

/-- A sort term is the name of the column that its field names, and the direction. -/
theorem sortTerm_ok {table : Table} {term : SortTerm} {fragment : Fragment}
    (written : sortTerm table term = .ok fragment) :
    ∃ column, table.column? term.field = some column ∧
      fragment = ident column.name ++ keyword (if term.descending then .DESC else .ASC) := by
  obtain ⟨found, named, same⟩ := except_bind_ok written
  unfold Command.column at named
  split at named
  · rename_i column known
    cases named
    cases same
    exact ⟨_, known, rfl⟩
  · cases named

/-- A sort term consists of a name and a direction. -/
theorem mem_sortTerm {table : Table} {term : SortTerm} {fragment : Fragment}
    (written : sortTerm table term = .ok fragment) {chunk : Chunk} (member : chunk ∈ fragment) :
    (∃ name, chunk = .ident name) ∨ chunk = .token (.keyword .ASC) ∨
      chunk = .token (.keyword .DESC) := by
  obtain ⟨column, _, rfl⟩ := sortTerm_ok written
  rcases List.mem_append.mp member with named | directed
  · exact .inl ⟨_, List.mem_singleton.mp named⟩
  · rw [List.mem_singleton.mp directed]
    cases term.descending
    · exact .inr (.inl rfl)
    · exact .inr (.inr rfl)

/-- A sort term has no comma. -/
theorem plain_sortTerm {table : Table} {term : SortTerm} {fragment : Fragment}
    (written : sortTerm table term = .ok fragment) :
    ∀ chunk ∈ fragment, isComma chunk = false := by
  intro chunk member
  rcases mem_sortTerm written member with ⟨name, rfl⟩ | rfl | rfl <;> rfl

/-- The sort clause consists of the sort terms, in their order. -/
theorem orderClause_ok {table : Table} {order : List SortTerm} {clause : Fragment}
    (asked : order ≠ []) (written : orderClause table order = .ok clause) :
    ∃ terms, clause = keywords [.ORDER, .BY] ++ commaList terms ∧ terms ≠ [] ∧
      List.Forall₂ (fun term fragment => sortTerm table term = .ok fragment) order terms := by
  unfold orderClause at written
  rw [if_neg (by simpa using asked)] at written
  obtain ⟨terms, sorted, written⟩ := except_bind_ok written
  cases written
  have each := except_mapM_ok sorted
  refine ⟨terms, rfl, ?_, each⟩
  rintro rfl
  exact asked (List.forall₂_nil_right_iff.mp each)

/-- What is written as a sort term is the text of one. -/
theorem exists_sortTerm {table : Table} {order : List SortTerm} {terms : List Fragment}
    (each : List.Forall₂ (fun term fragment => sortTerm table term = .ok fragment) order terms)
    {item : Fragment} (member : item ∈ terms) :
    ∃ term, sortTerm table term = .ok item := by
  obtain ⟨place, inside, rfl⟩ := List.mem_iff_getElem.mp member
  obtain ⟨sameLength, all⟩ := List.forall₂_iff_get.mp each
  exact ⟨_, all place (sameLength ▸ inside) inside⟩

/-- Sort terms hold names, directions and commas. -/
theorem mem_sortTerms {table : Table} {order : List SortTerm} {terms : List Fragment}
    (each : List.Forall₂ (fun term fragment => sortTerm table term = .ok fragment) order terms)
    {chunk : Chunk} (member : chunk ∈ commaList terms) :
    chunk = .token (.punctuation .comma) ∨ (∃ name, chunk = .ident name) ∨
      chunk = .token (.keyword .ASC) ∨ chunk = .token (.keyword .DESC) := by
  rcases mem_joined member with same | ⟨item, listed, inside⟩
  · exact .inl same
  · obtain ⟨_, sorted⟩ := exists_sortTerm each listed
    exact .inr (mem_sortTerm sorted inside)

/-- A sort term is read back. -/
theorem sortKey?_sortTerm {table : Table} {term : SortTerm} {fragment : Fragment}
    (written : sortTerm table term = .ok fragment) :
    ∃ column, table.column? term.field = some column ∧
      sortKey? fragment = some (column.name, term.descending) := by
  obtain ⟨column, known, rfl⟩ := sortTerm_ok written
  refine ⟨column, known, ?_⟩
  cases term.descending <;> rfl

/-- Behind the sort terms there is nothing, or the paging clause begins. -/
theorem beginsPaging_pagingClause (dialect : Dialect) (limit offset : Option UInt64) :
    ∀ chunk ∈ (pagingClause dialect true limit offset).head?, beginsPaging chunk = true := by
  cases dialect <;> cases limit <;> cases offset <;>
    simp [pagingClause, writtenLimit, keyword, rowCount, raw, beginsPaging]

/-- The sort terms are read back, whatever stands before ORDER and wherever paging begins. -/
theorem sortTerms_orderClause {table : Table} {order : List SortTerm}
    {clause before after : Fragment} (asked : order ≠ [])
    (written : orderClause table order = .ok clause)
    (absent : .token (.keyword .ORDER) ∉ before)
    (paging : ∀ chunk ∈ after.head?, beginsPaging chunk = true) :
    List.Forall₂ (fun term fragment => sortTerm table term = .ok fragment) order
      (sortTerms (before ++ clause ++ after)) := by
  obtain ⟨terms, rfl, nonempty, each⟩ := orderClause_ok asked written
  have plain : ∀ item ∈ terms, ∀ chunk ∈ item, isComma chunk = false := by
    intro item member
    obtain ⟨_, sorted⟩ := exists_sortTerm each member
    exact plain_sortTerm sorted
  have unpaged : ∀ chunk ∈ commaList terms, (!beginsPaging chunk) = true := by
    intro chunk member
    rcases mem_sortTerms each member with rfl | ⟨name, rfl⟩ | rfl | rfl <;> rfl
  have paged : ∀ chunk ∈ after.head?, (!beginsPaging chunk) = false := by
    intro chunk first
    rw [paging chunk first]
    rfl
  have divided : before ++ (keywords [.ORDER, .BY] ++ commaList terms) ++ after =
      before ++ .token (.keyword .ORDER) :: .token (.keyword .BY) ::
        (commaList terms ++ after) := by
    simp [keywords]
  rw [divided, sortTerms, dropWhile_ne_append absent]
  dsimp only
  rw [Text.takeWhile_run unpaged paged, splitOnP_commaList nonempty plain]
  exact each

variable {config : Config} {table : Table} {query : Select} {statement : Statement}

/-- The filters that are written: an empty page that cannot be asked for is one more. -/
def writtenFilters (dialect : Dialect) (query : Select) : List Expr :=
  if query.emptyPage dialect then query.filters ++ [.const (.bool false)] else query.filters

/-- The paging clause that is written, unless the page is empty already. -/
def writtenPaging (dialect : Dialect) (query : Select) : Fragment :=
  if query.emptyPage dialect then []
  else pagingClause dialect (!query.order.isEmpty) query.limit query.offset

/-- How a select is built. -/
theorem written_of_select (built : query.build config table = .ok statement) :
    ∃ filter sorting : Fragment,
      statement.dialect = config.dialect ∧
      (Building.whereClause config.dialect (config.place table)
        (combined (query.writtenFilters config.dialect))).run .empty =
          .ok (filter, statement.params) ∧
      orderClause (config.place table) query.order = .ok sorting ∧
      table.selectable ≠ [] ∧
      statement.fragment =
        keyword .SELECT ++ commaList (table.selectable.map (outputColumn config.aliasColumns)) ++
          keyword .FROM ++ tableName (config.place table) ++ filter ++ sorting ++
            query.writtenPaging config.dialect := by
  unfold Select.build at built
  dsimp only at built
  split at built
  · cases built
  · rename_i some
    obtain ⟨running, sameDialect⟩ := Building.run_of_statement built
    obtain ⟨filter, middle, filtered, followed⟩ := Building.run_bind_ok running
    obtain ⟨sorting, last, ordered, ended⟩ := Building.run_bind_ok followed
    obtain ⟨sorted, rfl⟩ := Building.run_lift_ok ordered
    obtain ⟨whole, rfl⟩ := Prod.mk.inj (Except.ok.inj ended)
    refine ⟨filter, sorting, sameDialect, filtered, sorted, ?_, whole.symm⟩
    rintro none
    rw [show (config.place table).selectable = table.selectable from rfl, none] at some
    exact some rfl

/-- The clauses of a built select. -/
theorem clauses_of_select (built : query.build config table = .ok statement) :
    ∃ filter sorting paging : Fragment,
      statement.fragment =
        keyword .SELECT ++ commaList (table.selectable.map (outputColumn config.aliasColumns)) ++
          keyword .FROM ++ tableName (config.place table) ++ filter ++ sorting ++ paging ∧
      table.selectable ≠ [] ∧ Chunk.token (.keyword .ORDER) ∉ filter ∧
      orderClause (config.place table) query.order = .ok sorting ∧
      (query.order ≠ [] → ∀ chunk ∈ paging.head?, beginsPaging chunk = true) := by
  obtain ⟨filter, sorting, _, filtered, sorted, readable, whole⟩ := written_of_select built
  refine ⟨filter, sorting, _, whole, readable,
    keyword_not_mem_whereClause filtered (by decide), sorted, fun asked => ?_⟩
  unfold writtenPaging
  split
  · exact nofun
  · have sortedHere : (!query.order.isEmpty) = true := by simpa using asked
    rw [sortedHere]
    exact beginsPaging_pagingClause config.dialect query.limit query.offset

/-- The select list and the sort terms of a built select are read back: the terms are the names
of the columns that their fields name. -/
theorem sortedBy?_of_select (built : query.build config table = .ok statement) {place : Nat}
    {term : SortTerm} (asked : query.order[place]? = some term) :
    ∃ column, table.column? term.field = some column ∧
      sortedBy? table statement.fragment place =
        (denoted? table (table.selectable.map (outputOf config.aliasColumns)) column.name).map
          fun found => (found, term.descending) := by
  obtain ⟨filter, sorting, paging, whole, readable, absent, sorted, paged⟩ :=
    clauses_of_select built
  have nonempty : query.order ≠ [] := by
    intro none
    rw [none] at asked
    cases asked
  have noOrder : Chunk.token (.keyword .ORDER) ∉ keyword .SELECT ++
      commaList (table.selectable.map (outputColumn config.aliasColumns)) ++
        keyword .FROM ++ tableName (config.place table) ++ filter := by
    intro member
    simp only [List.mem_append] at member
    rcases member with (((select | listed) | source) | named) | filtered
    · cases List.mem_singleton.mp select
    · rcases mem_selectList listed with same | ⟨_, same⟩ | same <;> cases same
    · cases List.mem_singleton.mp source
    · cases List.mem_singleton.mp named
    · exact absent filtered
  have terms := sortTerms_orderClause nonempty sorted noOrder (paged nonempty)
  have listed : outputs? statement.fragment =
      some (table.selectable.map (outputOf config.aliasColumns)) := by
    rw [whole, List.append_assoc, List.append_assoc, List.append_assoc]
    exact outputs?_selectList config.aliasColumns readable _
  rw [← whole] at terms
  obtain ⟨sameLength, each⟩ := List.forall₂_iff_get.mp terms
  obtain ⟨inside, rfl⟩ := List.getElem?_eq_some_iff.mp asked
  obtain ⟨column, known, read⟩ := sortKey?_sortTerm (each place inside (sameLength ▸ inside))
  refine ⟨column, known, ?_⟩
  have written := List.getElem?_eq_getElem (sameLength ▸ inside :
    place < (sortTerms statement.fragment).length)
  rw [List.get_eq_getElem] at read
  simp only [sortedBy?, listed, written, read, Option.bind_eq_bind, Option.bind_some]
  rw [Option.map_eq_bind]
  rfl

/-- The name of a column denotes that column in a sort term, exactly if no other column that is
read has it for a label. Where labels are the names of the columns themselves, none has. -/
theorem denoted?_eq_some_iff (distinct : Distinct table.columns) {column : Column}
    (listed : column ∈ table.columns) (aliasColumns : Bool) :
    denoted? table (table.selectable.map (outputOf aliasColumns)) column.name = some column ↔
      ∀ other ∈ table.selectable, aliasColumns = true → other.property = column.name →
        other = column := by
  have member {other : Column} (selected : other ∈ table.selectable) : other ∈ table.columns :=
    List.mem_of_mem_filter selected
  unfold denoted?
  rw [List.find?_map]
  cases found : table.selectable.find? ((·.label == column.name) ∘ outputOf aliasColumns) with
  | none =>
    have resolved : table.columns.find? (·.name == column.name) = some column :=
      Table.find?_name distinct listed
    refine iff_of_true resolved fun other selected aliased same => ?_
    have unlabelled := List.find?_eq_none.mp found other selected
    exact absurd same (by simpa [outputOf, aliased] using unlabelled)
  | some first =>
    have selected : first ∈ table.selectable := List.mem_of_find?_eq_some found
    have resolved : table.columns.find? (·.name == first.name) = some first :=
      Table.find?_name distinct (member selected)
    have label : (outputOf aliasColumns first).label = column.name := by
      simpa using List.find?_some found
    have denotes : table.columns.find? (·.name == first.name) = some column ↔ first = column := by
      rw [resolved, Option.some_inj]
    refine denotes.trans ?_
    cases aliasColumns with
    | false =>
      have same : first = column := distinct.eq_of_name (member selected) listed label
      exact iff_of_true same fun _ _ aliased => by cases aliased
    | true =>
      constructor
      · rintro rfl other also - same
        exact distinct.eq_of_property (member also) (member selected) (same.trans label.symm)
      · intro only
        exact only first selected rfl label

/-- A sort term sorts by the column that its field names, in the direction asked for, exactly if
no other column that is read has that column's name for a label. -/
theorem sortedBy?_eq_some_iff {name : String} {schema : Option String} {columns : List Column}
    (accepted : Table.checked name schema columns = .ok table)
    (built : query.build config table = .ok statement) {place : Nat} {term : SortTerm}
    (asked : query.order[place]? = some term) :
    ∃ column, table.column? term.field = some column ∧
      (sortedBy? table statement.fragment place = some (column, term.descending) ↔
        ∀ other ∈ table.selectable, config.aliasColumns = true → other.property = column.name →
          other = column) := by
  have distinct := Table.distinct_of_checked accepted
  obtain ⟨column, known, sorted⟩ := sortedBy?_of_select built asked
  refine ⟨column, known, ?_⟩
  rw [← denoted?_eq_some_iff distinct (Table.mem_of_column? known), sorted]
  simp

/-- A column that is not read does not get in the way, even if its property is the name of the
column that is sorted by. -/
theorem column_left_out_is_no_label :
    let config : Config := { dialect := .postgresql }
    let columns : List Column := [{ name := "user_name", property := "name" },
      { name := "alias", property := "user_name", select := false }]
    let table : Table := { name := "users", schema := none, columns }
    let query : Select := { order := [{ field := "name", descending := true }] }
    ∃ statement, query.build config table = .ok statement ∧
      sortedBy? table statement.fragment 0 =
        some ({ name := "user_name", property := "name" }, true) := by
  intro config columns table query
  obtain ⟨statement, built⟩ : ∃ statement, query.build config table = .ok statement := ⟨_, rfl⟩
  have accepted : Table.checked "users" none columns = .ok table := rfl
  have asked : query.order[0]? = some { field := "name", descending := true } := rfl
  obtain ⟨column, known, sorted⟩ := sortedBy?_eq_some_iff accepted built asked
  cases known
  refine ⟨statement, built, sorted.mpr ?_⟩
  have apart : ∀ other ∈ table.selectable, other.property ≠ "user_name" := by decide
  exact fun other selected _ same => absurd same (apart other selected)

/-- A select that sorts by another column than the one that was asked for: the name of this one is
the label of the other one. -/
theorem sort_term_denotes_other_column :
    let column : Column := { name := "name", property := "label" }
    let other : Column := { name := "title", property := "name" }
    let table : Table := { name := "docs", schema := none, columns := [column, other] }
    let query : Select := { order := [{ field := "label" }] }
    Table.checked "docs" none [column, other] = .ok table ∧
      table.column? "label" = some column ∧
      ∃ statement, query.build {} table = .ok statement ∧
        sortedBy? table statement.fragment 0 = some (other, false) ∧ other ≠ column :=
  ⟨rfl, rfl, _, rfl, by decide, by decide⟩

end Select
end Sqlwright
