import Sqlwright.Proofs.Command.Closed
import Sqlwright.Proofs.Schema.Lookup

/-!
# What an upsert reads off the incoming row

On a conflict an upsert may read the row that was to be inserted. It can only find there
what it has supplied: the columns of its insert, or those of the row that it merges. Both
are read off the text here, chunk by chunk: the references to the incoming row, and the
list of columns that the row is given with.

The two lists are chosen by different flags of the columns. An upsert reads only what it
supplies exactly if every column that an update would take from the record is also
inserted. A column that is left out of inserts, but not out of updates, breaks this.
-/

namespace Sqlwright

open Sql (Chunk Fragment Statement Token)

namespace Sql.Fragment

/-- The name that a chunk is. -/
def identName? : Chunk → Option String
  | .ident name => some name
  | _ => none

/-- The names in separated fragments. -/
theorem filterMap_identName?_joined (separator : Token) (items : List Fragment) :
    (joined separator items).filterMap identName? =
      items.flatMap fun item => item.filterMap identName? := by
  fun_induction joined separator items with
  | case1 => rfl
  | case2 only => simp
  | case3 first rest _ inductionHypothesis =>
    rw [List.filterMap_append, List.flatMap_cons, ← inductionHypothesis]
    rfl

section

variable {chunk : Chunk} {before : Fragment}

/-- What does not contain a chunk is passed over on the way to it. -/
theorem passed_of_not_mem (absent : chunk ∉ before) :
    ∀ other ∈ before, decide (other ≠ chunk) = true := by
  intro other member
  exact decide_eq_true fun same => absent (same ▸ member)

/-- What stands from a chunk on, wherever it is first. -/
theorem dropWhile_ne_append (absent : chunk ∉ before) (after : Fragment) :
    (before ++ chunk :: after).dropWhile (· ≠ chunk) = chunk :: after := by
  rw [List.dropWhile_append_of_pos (passed_of_not_mem absent)]
  simp

/-- What stands before the first place of a chunk. -/
theorem takeWhile_ne_append (absent : chunk ∉ before) (after : Fragment) :
    (before ++ chunk :: after).takeWhile (· ≠ chunk) = before := by
  rw [List.takeWhile_append_of_pos (passed_of_not_mem absent)]
  simp

end

/-- The names in the first list in parentheses. -/
def listedNames (fragment : Fragment) : List String :=
  ((fragment.dropWhile (· ≠ .token (.punctuation .leftParen))).takeWhile
    (· ≠ .token (.punctuation .rightParen))).filterMap identName?

end Sql.Fragment

namespace Upsert

open Command Sql.Fragment

/-- The column of the incoming row that a fragment begins with: a column of `excluded` or
of `source`, or the argument of `VALUES`. -/
def reference? : Dialect → Fragment → Option String
  | .sqlite, .raw row :: .token (.punctuation .point) :: .ident name :: _
  | .postgresql, .raw row :: .token (.punctuation .point) :: .ident name :: _ =>
    if row = "excluded" then some name else none
  | .sqlserver, .raw row :: .token (.punctuation .point) :: .ident name :: _ =>
    if row = "source" then some name else none
  | .mysql, .raw call :: .ident name :: .token (.punctuation .rightParen) :: _ =>
    if call = "VALUES(" then some name else none
  | _, _ => none

/-- The columns that a text reads off the incoming row, in order of appearance. -/
def readNames (dialect : Dialect) : Fragment → List String
  | [] => []
  | chunk :: rest => (reference? dialect (chunk :: rest)).toList ++ readNames dialect rest

/-- The columns that the incoming row is given with: those of the insert, or those of the
row that is merged, which follow the second AS. -/
def suppliedNames (dialect : Dialect) (fragment : Fragment) : List String :=
  match dialect with
  | .sqlite | .postgresql | .mysql => fragment.listedNames
  | .sqlserver => listedNames
    ((fragment.dropWhile (· ≠ .token (.keyword .USING))).dropWhile
      (· ≠ .token (.keyword .AS)))

/-- What cannot continue a reference to the incoming row that raw text might begin. -/
def Detached : Fragment → Prop
  | .ident _ :: _ => False
  | .token (.punctuation .point) :: _ => False
  | _ => True

section

variable {dialect : Dialect} {rest : Fragment}

@[simp] theorem detached_keyword (word : Sql.Keyword) : Detached (keyword word ++ rest) := trivial

@[simp] theorem detached_keywords (word : Sql.Keyword) (words : List Sql.Keyword) :
    Detached (keywords (word :: words) ++ rest) := trivial

@[simp] theorem detached_columnList (columns : List Column) :
    Detached (columnList columns ++ rest) := trivial

@[simp] theorem readNames_nil : readNames dialect [] = [] := rfl

@[simp] theorem readNames_token (token : Token) :
    readNames dialect (.token token :: rest) = readNames dialect rest := by
  cases dialect <;> rfl

@[simp] theorem readNames_ident (name : String) :
    readNames dialect (.ident name :: rest) = readNames dialect rest := by
  cases dialect <;> rfl

@[simp] theorem readNames_qualified (schema : Option String) (name : String) :
    readNames dialect (.qualified schema name :: rest) = readNames dialect rest := by
  cases dialect <;> rfl

@[simp] theorem readNames_param (name : String) :
    readNames dialect (.param name :: rest) = readNames dialect rest := by
  cases dialect <;> rfl

/-- Raw text by itself reads nothing, whatever it says. -/
theorem readNames_raw (text : String) (detached : Detached rest) :
    readNames dialect (raw text ++ rest) = readNames dialect rest := by
  have none : reference? dialect (.raw text :: rest) = none := by
    cases rest with
    | nil => cases dialect <;> rfl
    | cons chunk others =>
      cases chunk with
      | ident name => exact absurd detached id
      | token token =>
        rcases token with sign | sign | word
        · cases sign with
          | point => exact absurd detached id
          | _ => cases dialect <;> rfl
        · cases dialect <;> rfl
        · cases dialect <;> rfl
      | _ => cases dialect <;> rfl
  calc readNames dialect (raw text ++ rest)
      = (reference? dialect (.raw text :: rest)).toList ++ readNames dialect rest := rfl
    _ = readNames dialect rest := by rw [none]; rfl

/-- A reference reads its column. -/
@[simp] theorem readNames_incoming (column : Column) :
    readNames dialect (incoming dialect column ++ rest) =
      column.name :: readNames dialect rest := by
  cases dialect <;> simp [incoming, ofRow, raw, sign, ident, readNames, reference?]

/-- The row that is merged is the incoming one. -/
@[simp] theorem readNames_source (column : Column) :
    readNames .sqlserver (ofRow "source" column ++ rest) =
      column.name :: readNames .sqlserver rest :=
  readNames_incoming column

/-- The stored row is another row. -/
@[simp] theorem readNames_target (column : Column) :
    readNames .sqlserver (ofRow "target" column ++ rest) = readNames .sqlserver rest := by
  simp [ofRow, raw, sign, ident, readNames, reference?]

/-- Separated fragments read what each of them reads. A separator keeps raw text before it
apart from what follows. -/
theorem readNames_joined {α : Type} {separator : Token}
    (apart : separator ≠ .punctuation .point) (write : α → Fragment) (names : α → List String)
    (items : List α)
    (each : ∀ item ∈ items, ∀ rest, Detached rest →
      readNames dialect (write item ++ rest) = names item ++ readNames dialect rest)
    (detached : Detached rest) :
    readNames dialect (joined separator (items.map write) ++ rest) =
      items.flatMap names ++ readNames dialect rest := by
  induction items with
  | nil => rfl
  | cons first others inductionHypothesis =>
    have remaining := inductionHypothesis fun item present => each item (.tail _ present)
    cases others with
    | nil => simpa [joined] using each first (.head _) rest detached
    | cons next others =>
      have separated (after : Fragment) : Detached (.token separator :: after) := by
        rcases separator with sign | sign | word
        · cases sign with
          | point => exact absurd rfl apart
          | _ => exact trivial
        · exact trivial
        · exact trivial
      have whole : joined separator ((first :: next :: others).map write) ++ rest =
          write first ++ .token separator ::
            (joined separator ((next :: others).map write) ++ rest) := by
        simp [joined]
      rw [whole, each first (.head _) _ (separated _), readNames_token, remaining]
      simp only [List.flatMap_cons, List.append_assoc]

/-- Keywords read nothing. -/
@[simp] theorem readNames_keywords (words : List Sql.Keyword) :
    readNames dialect (keywords words ++ rest) = readNames dialect rest := by
  induction words with
  | nil => rfl
  | cons word words inductionHypothesis =>
    exact (readNames_token (.keyword word)).trans inductionHypothesis

@[simp] theorem readNames_keyword (word : Sql.Keyword) :
    readNames dialect (keyword word ++ rest) = readNames dialect rest :=
  readNames_token (.keyword word)

@[simp] theorem readNames_sign (mark : Sql.Punctuation) :
    readNames dialect (sign mark ++ rest) = readNames dialect rest :=
  readNames_token (.punctuation mark)

@[simp] theorem readNames_tableName (table : Table) :
    readNames dialect (tableName table ++ rest) = readNames dialect rest :=
  readNames_qualified table.schema table.name

/-- Fragments in parentheses that read nothing by themselves read nothing together. -/
theorem readNames_list {α : Type} {write : α → Fragment} {items : List α}
    (each : ∀ item ∈ items, ∀ rest, Detached rest →
      readNames dialect (write item ++ rest) = readNames dialect rest) :
    readNames dialect (parens (commaList (items.map write)) ++ rest) =
      readNames dialect rest := by
  have comma : Token.punctuation .comma ≠ .punctuation .point := by decide
  have closed : Detached (sign .rightParen ++ rest) := trivial
  have inside := readNames_joined comma write (fun _ => []) items each closed
  rw [List.flatMap_eq_nil_iff.mpr (fun _ _ => rfl), List.nil_append, readNames_sign] at inside
  simpa [parens, commaList] using inside

/-- A list of columns names them and reads none. -/
@[simp] theorem readNames_columnList (columns : List Column) :
    readNames dialect (columnList columns ++ rest) = readNames dialect rest :=
  readNames_list fun column _ _ _ => readNames_ident column.name

/-- A cell of a row of values: a parameter, or text that is written as it is. -/
inductive IsCell : Fragment → Prop where
  | raw (text : String) : IsCell (raw text)
  | param (name : String) : IsCell (param name)

/-- A cell is written as one. -/
theorem isCell_of_cell {column : Column} {value : Value} {params later : ParamSet}
    {found : Fragment} (written : (cell column value).run params = .ok (found, later)) :
    IsCell found := by
  unfold cell at written
  cases own : column.insertSql with
  | some sql =>
    rw [own] at written
    cases written
    exact .raw sql
  | none =>
    rw [own] at written
    cases written
    exact .param _

/-- A row of values is a list of cells. -/
theorem cells_of_valueRow {row : List (Column × Value)} {params later : ParamSet}
    {values : Fragment} (written : (valueRow row).run params = .ok (values, later)) :
    ∃ cells, values = parens (commaList cells) ∧ ∀ found ∈ cells, IsCell found := by
  obtain ⟨cells, middle, mapped, ended⟩ := Building.run_bind_ok written
  cases ended
  refine ⟨cells, rfl, ?_⟩
  clear written
  induction row generalizing params cells with
  | nil =>
    cases mapped
    exact fun found member => nomatch member
  | cons first others inductionHypothesis =>
    rw [List.mapM_cons] at mapped
    obtain ⟨head, second, begun, followed⟩ := Building.run_bind_ok mapped
    obtain ⟨tail, last, remaining, ended⟩ := Building.run_bind_ok followed
    cases ended
    intro found member
    rcases List.mem_cons.mp member with same | member
    · exact same ▸ isCell_of_cell begun
    · exact inductionHypothesis tail remaining found member

/-- A row of values reads nothing. -/
theorem readNames_values {cells : List Fragment} (each : ∀ found ∈ cells, IsCell found) :
    readNames dialect (parens (commaList cells) ++ rest) = readNames dialect rest := by
  have alone : ∀ found ∈ cells, ∀ rest, Detached rest →
      readNames dialect (id found ++ rest) = readNames dialect rest := by
    intro found member rest detached
    cases each found member with
    | raw text => exact readNames_raw text detached
    | param name => exact readNames_param name
  have together : readNames dialect (parens (commaList (cells.map id)) ++ rest) =
      readNames dialect rest := readNames_list alone
  rwa [List.map_id] at together

/-- What the assignment of a column reads: the column itself, unless it has an expression of
its own. -/
def takenFrom (column : Column) : List String :=
  match column.updateSql with
  | some _ => []
  | none => [column.name]

/-- The assignments of an update read what each of them takes. -/
theorem readNames_assignments (updated : List Column) (detached : Detached rest) :
    readNames dialect (assignments dialect updated ++ rest) =
      updated.flatMap takenFrom ++ readNames dialect rest := by
  have comma : Token.punctuation .comma ≠ .punctuation .point := by decide
  refine readNames_joined comma _ takenFrom updated (fun column _ rest detached => ?_) detached
  have assigned (source : Fragment) :
      readNames dialect (ident column.name ++ Fragment.comparison .eq ++ source ++ rest) =
        readNames dialect (source ++ rest) := by
    simp [ident, Fragment.comparison]
  rw [assigned]
  unfold takenFrom
  cases column.updateSql with
  | some sql => exact readNames_raw sql detached
  | none => exact readNames_incoming column

/-- Assignments may end a text. -/
theorem readNames_lastAssignments (updated : List Column) :
    readNames dialect (assignments dialect updated) = updated.flatMap takenFrom := by
  have ended : readNames dialect (assignments dialect updated ++ []) =
      updated.flatMap takenFrom ++ readNames dialect [] := readNames_assignments updated trivial
  simpa using ended

variable {table : Table} {inserted : List Column} {cells : List Fragment}

/-- An insert with a conflict clause reads what its update takes. -/
theorem readNames_onConflict (each : ∀ found ∈ cells, IsCell found) :
    readNames dialect (onConflict dialect table inserted (parens (commaList cells))) =
      table.updatable.flatMap takenFrom := by
  by_cases unchanged : table.updatable.isEmpty = true
  · have none : table.updatable = [] := List.isEmpty_iff.mp unchanged
    have nothing : readNames dialect (keyword .NOTHING) = [] := readNames_token _
    simp [onConflict, insertInto, none, readNames_values each, nothing]
  · simp [onConflict, insertInto, unchanged, readNames_values each, readNames_lastAssignments]

/-- An insert with a clause for duplicate keys does likewise. Without an update it assigns
the key of the stored row to itself. -/
theorem readNames_onDuplicateKey (each : ∀ found ∈ cells, IsCell found) :
    readNames dialect (onDuplicateKey dialect table inserted (parens (commaList cells))) =
      table.updatable.flatMap takenFrom := by
  by_cases unchanged : table.updatable.isEmpty = true
  · have none : table.updatable = [] := List.isEmpty_iff.mp unchanged
    have nothing : readNames dialect (keywords [.ON, .DUPLICATE, .KEY, .UPDATE]) = [] := by
      simp [keywords]
    cases key : table.keys.head? <;>
      simp [onDuplicateKey, insertInto, none, key, readNames_values each, nothing, ident,
        Fragment.comparison]
  · simp [onDuplicateKey, insertInto, unchanged, readNames_values each, readNames_lastAssignments]

/-- A comparison of the keys of both rows reads the keys. -/
theorem readNames_sameKey (keys : List Column) (detached : Detached rest) :
    readNames .sqlserver (joined (.keyword .AND) (keys.map fun key =>
        ofRow "target" key ++ (Fragment.comparison .eq ++ ofRow "source" key)) ++ rest) =
      keys.map (·.name) ++ readNames .sqlserver rest := by
  have apart : Token.keyword .AND ≠ .punctuation .point := by decide
  have named : keys.map (·.name) = keys.flatMap fun key => [key.name] := List.map_eq_flatMap
  rw [named]
  refine readNames_joined apart _ _ keys (fun key _ rest _ => ?_) detached
  simp [Fragment.comparison, readNames_source]

/-- The row that is inserted takes every column from the merged one. -/
theorem readNames_mergedRow (inserted : List Column) :
    readNames .sqlserver (parens (commaList (inserted.map (ofRow "source"))) ++ rest) =
      inserted.map (·.name) ++ readNames .sqlserver rest := by
  have comma : Token.punctuation .comma ≠ .punctuation .point := by decide
  have closed : Detached (sign .rightParen ++ rest) := trivial
  have taken := readNames_joined comma (ofRow "source") (fun column => [column.name]) inserted
    (fun column _ rest _ => readNames_source column) closed
  rw [← List.map_eq_flatMap, readNames_sign] at taken
  simpa [parens, commaList] using taken

/-- What a merge does to a row that is there: it takes what its update takes. -/
theorem readNames_matched (detached : Detached rest) :
    readNames .sqlserver ((if table.updatable.isEmpty then []
        else keywords [.WHEN, .MATCHED, .THEN, .UPDATE, .SET] ++
          assignments .sqlserver table.updatable) ++ rest) =
      table.updatable.flatMap takenFrom ++ readNames .sqlserver rest := by
  by_cases unchanged : table.updatable.isEmpty = true
  · have none : table.updatable = [] := List.isEmpty_iff.mp unchanged
    simp [none]
  · simp [unchanged, readNames_assignments table.updatable detached]

/-- The row that is merged is given by cells. -/
theorem readNames_mergedValues (each : ∀ found ∈ cells, IsCell found) :
    readNames .sqlserver (parens (keyword .VALUES ++ parens (commaList cells)) ++ rest) =
      readNames .sqlserver rest := by
  have inner : readNames .sqlserver (parens (commaList cells) ++ (sign .rightParen ++ rest)) =
      readNames .sqlserver (sign .rightParen ++ rest) := readNames_values each
  simpa [parens] using inner

/-- A merge compares the keys of both rows, takes what its update takes, and inserts every
column that it has been given. -/
theorem readNames_merge (each : ∀ found ∈ cells, IsCell found) :
    readNames .sqlserver (merge .sqlserver table inserted (parens (commaList cells))) =
      table.keys.map (·.name) ++ (table.updatable.flatMap takenFrom ++
        inserted.map (·.name)) := by
  have ended : readNames .sqlserver (sign .semicolon) = [] := rfl
  have separated (first other : Sql.Keyword) (words others : List Sql.Keyword)
      (changed rest : Fragment) : Detached
        ((if table.updatable.isEmpty then [] else keywords (first :: words) ++ changed) ++
          (keywords (other :: others) ++ rest)) := by
    split <;> exact trivial
  simp only [merge, List.append_assoc, readNames_keywords, readNames_tableName,
    readNames_keyword, readNames_raw, detached_keyword, detached_keywords, detached_columnList,
    readNames_mergedValues each, readNames_columnList, readNames_sameKey, separated,
    readNames_matched, readNames_mergedRow, ended, List.append_nil]

/-- A list of names has no parentheses inside. -/
theorem paren_not_mem_names (columns : List Column) :
    .token (.punctuation .rightParen) ∉
      sign .leftParen ++ commaList (columns.map fun column => ident column.name) := by
  intro member
  rcases List.mem_append.mp member with opening | inside
  · exact absurd (List.mem_singleton.mp opening) (by decide)
  · obtain comma | ⟨item, present, inside⟩ := mem_joined inside
    · exact absurd comma (by decide)
    · obtain ⟨column, _, rfl⟩ := List.mem_map.mp present
      cases List.mem_singleton.mp inside

/-- What stands before the first parenthesis does not hide a list of columns. -/
theorem listedNames_columnList {before : Fragment} (columns : List Column) (after : Fragment)
    (none : .token (.punctuation .leftParen) ∉ before) :
    listedNames (before ++ (columnList columns ++ after)) = columns.map (·.name) := by
  let names := commaList (columns.map fun column => ident column.name)
  have opening : before ++ (columnList columns ++ after) =
      before ++ .token (.punctuation .leftParen) ::
        (names ++ .token (.punctuation .rightParen) :: after) := by
    simp [columnList, parens, sign, names]
  have closing : .token (.punctuation .leftParen) ::
      (names ++ .token (.punctuation .rightParen) :: after) =
        (sign .leftParen ++ names) ++ .token (.punctuation .rightParen) :: after := rfl
  have named : names.filterMap identName? = columns.map (·.name) := by
    rw [List.map_eq_flatMap]
    refine (filterMap_identName?_joined _ _).trans ?_
    simp [ident, identName?, List.flatMap_map]
  rw [listedNames, opening, dropWhile_ne_append none, closing,
    takeWhile_ne_append (paren_not_mem_names columns), List.filterMap_append, named]
  rfl

/-- What is given as the row of a merge contains no second AS. -/
theorem as_not_mem_mergedValues (each : ∀ found ∈ cells, IsCell found) :
    .token (.keyword .AS) ∉ keyword .USING ++ parens (keyword .VALUES ++
      parens (commaList cells)) := by
  have apart : Chunk.token (.keyword .AS) ∉ commaList cells := by
    intro member
    obtain same | ⟨found, present, inside⟩ := mem_joined member
    · exact absurd same (by decide)
    · cases each found present <;> simp [raw, param] at inside
  simpa [parens, sign, keyword] using apart

/-- The columns of the row that is merged follow the second AS. -/
theorem suppliedNames_merge (each : ∀ found ∈ cells, IsCell found) :
    suppliedNames .sqlserver (merge .sqlserver table inserted (parens (commaList cells))) =
      inserted.map (·.name) := by
  let given := parens (keyword .VALUES ++ parens (commaList cells))
  let heading : Fragment :=
    keywords [.MERGE, .INTO] ++ tableName table ++ keyword .AS ++ raw "target"
  obtain ⟨after, written⟩ : ∃ after,
      merge .sqlserver table inserted (parens (commaList cells)) =
        heading ++ (keyword .USING ++ (given ++
          (keyword .AS ++ (raw "source" ++ (columnList inserted ++ after))))) := by
    simp only [merge, heading, given, List.append_assoc]
    exact ⟨_, rfl⟩
  have toUsing : .token (.keyword .USING) ∉ heading := by
    simp [heading, keywords, tableName, keyword, raw]
  have fromUsing (rest : Fragment) : (heading ++ (keyword .USING ++ rest)).dropWhile
      (· ≠ .token (.keyword .USING)) = keyword .USING ++ rest := dropWhile_ne_append toUsing rest
  have fromSource (rest : Fragment) : (keyword .USING ++ (given ++ (keyword .AS ++ rest))).dropWhile
      (· ≠ .token (.keyword .AS)) = keyword .AS ++ rest := by
    rw [← List.append_assoc]
    exact dropWhile_ne_append (as_not_mem_mergedValues each) rest
  have named : .token (.punctuation .leftParen) ∉ keyword .AS ++ raw "source" := by
    simp [keyword, raw]
  rw [suppliedNames, written, fromUsing, fromSource, ← List.append_assoc]
  exact listedNames_columnList inserted after named

/-- The incoming row is given with the inserted columns. -/
theorem suppliedNames_body (each : ∀ found ∈ cells, IsCell found) :
    suppliedNames dialect (body dialect table (parens (commaList cells))) =
      (table.columns.filter inserts).map (·.name) := by
  have inserting : .token (.punctuation .leftParen) ∉ insertInto table := by
    simp [insertInto, keywords, tableName]
  have listed := fun after => listedNames_columnList (table.columns.filter inserts) after
    inserting
  cases dialect with
  | sqlite => simpa [suppliedNames, body, onConflict] using listed _
  | postgresql => simpa [suppliedNames, body, onConflict] using listed _
  | mysql => simpa [suppliedNames, body, onDuplicateKey] using listed _
  | sqlserver => exact suppliedNames_merge each

/-- An upsert reads the columns that its update takes from the record. A merge also reads
the keys and all that it inserts. -/
theorem readNames_body (each : ∀ found ∈ cells, IsCell found) :
    readNames dialect (body dialect table (parens (commaList cells))) =
      match dialect with
      | .sqlserver => table.keys.map (·.name) ++ (table.updatable.flatMap takenFrom ++
          (table.columns.filter inserts).map (·.name))
      | _ => table.updatable.flatMap takenFrom := by
  cases dialect with
  | sqlite => exact readNames_onConflict each
  | postgresql => exact readNames_onConflict each
  | mysql => exact readNames_onDuplicateKey each
  | sqlserver => exact readNames_merge each

end

section

variable {table : Table}

/-- A key is always inserted. -/
theorem inserts_of_key {column : Column} (key : column.key = true) : inserts column = true := by
  simp [inserts, key]

/-- An updated column is inserted unless it has been left out of inserts: it is neither a key
nor an identity. -/
theorem inserts_of_isUpdatable {column : Column} (updatable : column.isUpdatable = true) :
    inserts column = column.insert := by
  obtain ⟨key, identity⟩ := column.not_key_of_isUpdatable updatable
  simp [inserts, key, Column.isInsertable, identity]

/-- The columns that an update takes from the record. -/
theorem mem_takenFrom {name : String} :
    name ∈ table.updatable.flatMap takenFrom ↔ ∃ column ∈ table.columns,
      column.isUpdatable = true ∧ column.updateSql = none ∧ column.name = name := by
  constructor
  · intro member
    obtain ⟨column, present, taken⟩ := List.mem_flatMap.mp member
    obtain ⟨present, updatable⟩ := List.mem_filter.mp present
    unfold takenFrom at taken
    cases own : column.updateSql with
    | some sql => simp [own] at taken
    | none => exact ⟨column, present, updatable, own, by simpa [own, eq_comm] using taken⟩
  · rintro ⟨column, present, updatable, own, rfl⟩
    have chosen : column ∈ table.updatable := List.mem_filter.mpr ⟨present, updatable⟩
    exact List.mem_flatMap.mpr ⟨column, chosen, by simp [takenFrom, own]⟩

/-- In a table of distinct columns, a column's name is supplied exactly if the column is. -/
theorem mem_inserted {column : Column} (distinct : Distinct table.columns)
    (present : column ∈ table.columns) :
    column.name ∈ (table.columns.filter inserts).map (·.name) ↔ inserts column = true := by
  constructor
  · intro member
    obtain ⟨other, chosen, same⟩ := List.mem_map.mp member
    obtain ⟨also, inserted⟩ := List.mem_filter.mp chosen
    exact distinct.eq_of_name also present same ▸ inserted
  · intro inserted
    exact List.mem_map.mpr ⟨column, List.mem_filter.mpr ⟨present, inserted⟩, rfl⟩

/-- What an upsert reads without supplying it is what its update takes: the keys are
supplied, and so is what a merge inserts. -/
theorem mem_readNames_body {dialect : Dialect} {cells : List Fragment}
    (each : ∀ found ∈ cells, IsCell found) {name : String}
    (missing : name ∉ (table.columns.filter inserts).map (·.name)) :
    name ∈ readNames dialect (body dialect table (parens (commaList cells))) ↔
      name ∈ table.updatable.flatMap takenFrom := by
  have notKey : name ∉ table.keys.map (·.name) := by
    intro member
    obtain ⟨column, chosen, same⟩ := List.mem_map.mp member
    obtain ⟨present, key⟩ := List.mem_filter.mp chosen
    have inserted := List.mem_filter.mpr ⟨present, inserts_of_key key⟩
    exact missing (List.mem_map.mpr ⟨column, inserted, same⟩)
  rw [readNames_body each]
  cases dialect with
  | sqlserver => simp only [List.mem_append, notKey, missing, or_false, false_or]
  | _ => exact Iff.rfl

/-- A built upsert is the statement around a row of cells. -/
theorem build_body {config : Config} {upsert : Upsert} {statement : Statement}
    (built : upsert.build config table = .ok statement) :
    ∃ cells, statement.dialect = config.dialect ∧
      statement.fragment =
        body config.dialect (config.place table) (parens (commaList cells)) ∧
      ∀ found ∈ cells, IsCell found := by
  unfold build at built
  obtain ⟨row, _, built⟩ := except_bind_ok built
  dsimp only at built
  split at built
  · cases built
  · obtain ⟨succeeded, sameDialect⟩ := Building.run_of_statement built
    obtain ⟨values, middle, written, ended⟩ := Building.run_bind_ok succeeded
    obtain ⟨cells, rfl, each⟩ := cells_of_valueRow written
    have sameFragment := (Prod.mk.inj (Except.ok.inj ended)).1
    exact ⟨cells, sameDialect, sameFragment.symm, each⟩

/-- An upsert supplies the columns that it inserts. Through the incoming row it reads a column
that it does not supply exactly if the table has a column of that name which updates take from
the record and inserts leave out. -/
theorem upsert_reads_unsupplied_iff {config : Config} {upsert : Upsert} {statement : Statement}
    {name : String} {schema : Option String} {columns : List Column}
    (accepted : Table.checked name schema columns = .ok table)
    (built : upsert.build config table = .ok statement) :
    suppliedNames statement.dialect statement.fragment =
        (table.columns.filter inserts).map (·.name) ∧
      ∀ read : String,
        (read ∈ readNames statement.dialect statement.fragment ∧
            read ∉ suppliedNames statement.dialect statement.fragment) ↔
          ∃ column ∈ table.columns, column.name = read ∧ column.isUpdatable = true ∧
            column.updateSql = none ∧ column.insert = false := by
  have distinct := Table.distinct_of_checked accepted
  obtain ⟨cells, sameDialect, written, each⟩ := build_body built
  have supplied : suppliedNames statement.dialect statement.fragment =
      (table.columns.filter inserts).map (·.name) := by
    rw [sameDialect, written]
    exact suppliedNames_body each
  refine ⟨supplied, fun read => ?_⟩
  rw [supplied, sameDialect, written]
  have beyond (missing : read ∉ (table.columns.filter inserts).map (·.name)) :
      read ∈ readNames config.dialect (body config.dialect (config.place table)
          (parens (commaList cells))) ↔ read ∈ table.updatable.flatMap takenFrom :=
    mem_readNames_body each missing
  constructor
  · rintro ⟨member, missing⟩
    obtain ⟨column, present, updatable, own, rfl⟩ := mem_takenFrom.mp ((beyond missing).mp member)
    have left := fun inserted => missing ((mem_inserted distinct present).mpr inserted)
    rw [inserts_of_isUpdatable updatable] at left
    exact ⟨column, present, rfl, updatable, own, Bool.eq_false_iff.mpr left⟩
  · rintro ⟨column, present, rfl, updatable, own, left⟩
    have missing : column.name ∉ (table.columns.filter inserts).map (·.name) := by
      rw [mem_inserted distinct present, inserts_of_isUpdatable updatable, left]
      decide
    have taken := mem_takenFrom.mpr ⟨column, present, updatable, own, rfl⟩
    exact ⟨(beyond missing).mpr taken, missing⟩

end

/-- A column that inserts leave out, but that updates with an expression of its own, is not
read off the incoming row. Nor is any other one here. -/
theorem upsert_of_own_expression_reads_supplied :
    let config : Config := { dialect := .sqlserver }
    let columns : List Column := [{ name := "id", key := true, identity := true },
      { name := "name" }, { name := "version", insert := false, updateSql := some "version + 1" }]
    let table : Table := { name := "users", schema := none, columns }
    let upsert : Upsert := { record := fun _ => some (.int 1) }
    ∃ statement, upsert.build config table = .ok statement ∧
      suppliedNames statement.dialect statement.fragment = ["id", "name"] ∧
      ∀ read : String, ¬ (read ∈ readNames statement.dialect statement.fragment ∧
        read ∉ suppliedNames statement.dialect statement.fragment) := by
  intro config columns table upsert
  obtain ⟨statement, built⟩ : ∃ statement, upsert.build config table = .ok statement := ⟨_, rfl⟩
  have accepted : Table.checked "users" none columns = .ok table := rfl
  obtain ⟨supplied, missing⟩ := upsert_reads_unsupplied_iff accepted built
  refine ⟨statement, built, supplied, fun read => (missing read).not.mpr ?_⟩
  rintro ⟨column, present, -, own⟩
  have inserted : ∀ column ∈ table.columns, ¬ (column.isUpdatable = true ∧
      column.updateSql = none ∧ column.insert = false) := by decide
  exact inserted column present own

/-- A merge that reads a column which its row does not have: one that inserts leave out and
updates take from the record. -/
theorem merge_reads_column_left_out :
    let config : Config := { dialect := .sqlserver }
    let columns : List Column :=
      [{ name := "id", key := true }, { name := "name" }, { name := "seen", insert := false }]
    let table : Table := { name := "users", schema := none, columns }
    let upsert : Upsert := { record := fun _ => some (.int 1) }
    Table.checked "users" none columns = .ok table ∧
      ∃ statement, upsert.build config table = .ok statement ∧
        "seen" ∈ readNames statement.dialect statement.fragment ∧
        "seen" ∉ suppliedNames statement.dialect statement.fragment :=
  ⟨rfl, _, rfl, by decide, by decide⟩

end Upsert
end Sqlwright
