import Mathlib.Data.List.Basic
import Sqlwright.Proofs.Sql.Database
import Sqlwright.Sql.Statement

/-!
# What a statement does to a table

A table is a list of rows. A change is a statement that assigns to columns of all rows for
which its condition is true, or removes them; where the condition is false or unknown, a row
stays as it is. Without a condition every row is concerned.

Changes are read from their chunks. The parts of an update are divided at WHERE, which no
assignment contains, and its assignments at their commas.
-/

namespace Sqlwright.Sql

/-- What happens to the rows that a change concerns. -/
inductive Action where
  /-- Columns take the values of terms, one after another. -/
  | assign (assignments : List (String × Term))
  | remove

/-- What a statement does to the rows of a table. -/
structure Change where
  dialect : Dialect
  params : ParamSet
  schema : Option String
  table : String
  action : Action
  condition : Option Formula

namespace Reader

/-- What follows WHERE; nothing if there is no WHERE. -/
def restriction? (dialect : Dialect) : List Part → Option (Option Formula)
  | [] => some none
  | .chunk (.token (.keyword .WHERE)) :: parts => (condition? dialect parts).map some
  | _ => none

/-- A column with the term that it takes the value of. -/
def assignment? : List Part → Option (String × Term)
  | .chunk (.ident name) :: .chunk (.token (.comparison .eq)) :: first :: rest =>
    (splice? (first :: rest)).map fun term => (name, term)
  | _ => none

/-- Assignments, separated by commas. -/
def assignments? (parts : List Part) : Option (List (String × Term)) :=
  (parts.splitOnP (Part.isToken (.punctuation .comma))).mapM assignment?

/-- The table of a change, what is done to its rows, and on what condition. -/
def change? (dialect : Dialect) (params : ParamSet) : List Part → Option Change
  | .chunk (.token (.keyword .DELETE)) :: .chunk (.token (.keyword .FROM)) ::
      .chunk (.qualified schema table) :: rest => do
    let condition ← restriction? dialect rest
    return { dialect, params, schema, table, action := .remove, condition }
  | .chunk (.token (.keyword .UPDATE)) :: .chunk (.qualified schema table) ::
      .chunk (.token (.keyword .SET)) :: rest => do
    let assignments ← assignments? (rest.takeWhile (!Part.isKeyword .WHERE ·))
    let condition ← restriction? dialect (rest.dropWhile (!Part.isKeyword .WHERE ·))
    return { dialect, params, schema, table, action := .assign assignments, condition }
  | _ => none

end Reader

/-- The change that a statement makes. -/
def Statement.change? (statement : Statement) : Option Change := do
  let nesting ← statement.fragment.foldlM (Reader.step statement.dialect) ⟨[], []⟩
  if nesting.outer.isEmpty then
    Reader.change? statement.dialect statement.params nesting.current
  else none

namespace Reader

variable {dialect : Dialect} {params : ParamSet}

/-- A fragment is read as an assignment, wherever commas and WHERE set it apart. -/
def ReadsAssignment (dialect : Dialect) (fragment : Fragment) (assignment : String × Term) :
    Prop :=
  ∃ parts, Nests dialect fragment parts ∧
    (∀ part ∈ parts, part.isToken (.punctuation .comma) = false) ∧
    (∀ part ∈ parts, part.isKeyword .WHERE = false) ∧ assignment? parts = some assignment

/-- The assignment of a piece of text: a parameter, or text that is written as it is. It is no
token, so it neither opens a parenthesis nor divides. -/
theorem readsAssignment_of_piece (column : String) {chunk : Chunk} {piece : Piece Term}
    (found : (Part.chunk chunk).piece? = some piece) :
    ReadsAssignment dialect (Fragment.ident column ++ Fragment.comparison .eq ++ [chunk])
      (column, .splice [piece]) := by
  have plain : isParen chunk = false := by
    cases chunk with
    | token => cases found
    | _ => rfl
  have undivided (token : Token) : (Part.chunk chunk).isToken token = false :=
    Part.isToken_of_piece? found token
  have each {test : Part → Bool} (name : test (.chunk (.ident column)) = false)
      (sign : test (.chunk (.token (.comparison .eq))) = false)
      (source : test (.chunk chunk) = false) :
      ∀ part ∈ [.chunk (.ident column), .chunk (.token (.comparison .eq)), .chunk chunk],
        test part = false := by
    simp [name, sign, source]
  refine ⟨_, nests_plain ?_, each rfl rfl (undivided _), each rfl rfl (undivided _), ?_⟩
  · exact List.forall_mem_cons.mpr ⟨rfl, List.forall_mem_cons.mpr ⟨rfl,
      List.forall_mem_singleton.mpr plain⟩⟩
  · show (splice? [.chunk chunk]).map (fun term => (column, term)) = _
    simp [splice?, found]

/-- Assignments separated by commas are read one by one. -/
theorem assignments?_of_commaList (written : List (Fragment × String × Term))
    (nonempty : written ≠ [])
    (each : ∀ item ∈ written, ReadsAssignment dialect item.1 item.2) :
    ∃ parts, Nests dialect (Fragment.commaList (written.map Prod.fst)) parts ∧
      (∀ part ∈ parts, part.isKeyword .WHERE = false) ∧
      assignments? parts = some (written.map Prod.snd) := by
  induction written with
  | nil => exact absurd rfl nonempty
  | cons first rest inductionHypothesis =>
    obtain ⟨parts, nests, undivided, apart, found⟩ := each first (.head _)
    have alone := List.splitOnP_eq_singleton undivided
    cases rest with
    | nil => exact ⟨parts, nests, apart, by simp [assignments?, alone, found]⟩
    | cons next others =>
      obtain ⟨remaining, nestsOthers, apartOthers, foundOthers⟩ :=
        inductionHypothesis (List.cons_ne_nil _ _) fun item present => each item (.tail _ present)
      have comma := nests_token dialect (.punctuation .comma) rfl
      refine ⟨parts ++ .chunk (.token (.punctuation .comma)) :: remaining,
        nests.append (comma.append nestsOthers), ?_, ?_⟩
      · intro part member
        rcases List.mem_append.mp member with inFirst | member
        · exact apart part inFirst
        · rcases List.mem_cons.mp member with rfl | inRest
          · rfl
          · exact apartOthers part inRest
      · unfold assignments? at foundOthers ⊢
        rw [List.splitOnP_append_cons _ _ (by rfl), alone, List.mapM_append, foundOthers]
        simp [found]

/-- A fragment is read as a WHERE with its condition, or is nothing. -/
def ReadsRestriction (dialect : Dialect) (fragment : Fragment) (condition : Option Formula) :
    Prop :=
  ∃ parts, Nests dialect fragment parts ∧ restriction? dialect parts = some condition

/-- Nothing restricts nothing. -/
theorem readsRestriction_nil : ReadsRestriction dialect [] none :=
  ⟨[], nests_plain (by simp), rfl⟩

/-- A condition behind WHERE. -/
theorem readsRestriction_where {fragment : Fragment} {disjunction : Bool} {formula : Formula}
    (inside : Reads dialect fragment disjunction formula) :
    ReadsRestriction dialect (Fragment.keyword .WHERE ++ fragment) (some formula) := by
  obtain ⟨parts, nests, found, _⟩ := inside
  have word := nests_token dialect (.keyword .WHERE) rfl
  refine ⟨_, word.append nests, ?_⟩
  simp [restriction?, found]

/-- What is read as a restriction is empty or begins with WHERE. -/
theorem dropWhile_of_restriction? {parts : List Part} {condition : Option Formula}
    (found : restriction? dialect parts = some condition) :
    parts.takeWhile (!Part.isKeyword .WHERE ·) = [] ∧
      parts.dropWhile (!Part.isKeyword .WHERE ·) = parts := by
  unfold restriction? at found
  split at found
  · exact ⟨rfl, rfl⟩
  · exact ⟨rfl, rfl⟩
  · cases found

/-- A statement is read by its parts. -/
theorem change?_of_nests {statement : Statement} {parts : List Part} {change : Change}
    (nests : Nests statement.dialect statement.fragment parts)
    (found : change? statement.dialect statement.params parts = some change) :
    statement.change? = some change := by
  simp [Statement.change?, nests _, found]

/-- A delete removes rows on its condition. -/
theorem change?_of_delete {statement : Statement} {schema : Option String} {table : String}
    {restriction : Fragment} {condition : Option Formula}
    (written : statement.fragment =
      Fragment.keywords [.DELETE, .FROM] ++ [.qualified schema table] ++ restriction)
    (restricted : ReadsRestriction statement.dialect restriction condition) :
    statement.change? = some {
      dialect := statement.dialect, params := statement.params, schema, table
      action := .remove, condition } := by
  obtain ⟨parts, nests, found⟩ := restricted
  have head : Nests statement.dialect
      (Fragment.keywords [.DELETE, .FROM] ++ [.qualified schema table])
      [.chunk (.token (.keyword .DELETE)), .chunk (.token (.keyword .FROM)),
        .chunk (.qualified schema table)] :=
    nests_plain (by simp [Fragment.keywords, isParen])
  refine change?_of_nests (written ▸ head.append nests) ?_
  simp [change?, found]

/-- An update assigns to rows on its condition. -/
theorem change?_of_update {statement : Statement} {schema : Option String} {table : String}
    {assigned : List (Fragment × String × Term)} {restriction : Fragment}
    {condition : Option Formula}
    (written : statement.fragment =
      Fragment.keyword .UPDATE ++ [.qualified schema table] ++ Fragment.keyword .SET ++
        Fragment.commaList (assigned.map Prod.fst) ++ restriction)
    (nonempty : assigned ≠ [])
    (each : ∀ item ∈ assigned, ReadsAssignment statement.dialect item.1 item.2)
    (restricted : ReadsRestriction statement.dialect restriction condition) :
    statement.change? = some {
      dialect := statement.dialect, params := statement.params, schema, table
      action := .assign (assigned.map Prod.snd), condition } := by
  obtain ⟨parts, nests, apart, found⟩ := assignments?_of_commaList assigned nonempty each
  obtain ⟨others, nestsOthers, foundOthers⟩ := restricted
  obtain ⟨taken, dropped⟩ := dropWhile_of_restriction? foundOthers
  have head : Nests statement.dialect
      (Fragment.keyword .UPDATE ++ [.qualified schema table] ++ Fragment.keyword .SET)
      [.chunk (.token (.keyword .UPDATE)), .chunk (.qualified schema table),
        .chunk (.token (.keyword .SET))] :=
    nests_plain (by simp [Fragment.keyword, isParen])
  have before : ∀ part ∈ parts, (!part.isKeyword .WHERE) = true := by
    intro part member
    rw [apart part member]
    rfl
  refine change?_of_nests (written ▸ (head.append nests).append nestsOthers) ?_
  simp [change?, List.takeWhile_append_of_pos before, List.dropWhile_append_of_pos before, taken,
    dropped, found, foundOthers]

/-- The AND is part of the condition, and what the text says about WHERE is not looked into. -/
example :
    Statement.change? {
      dialect := .sqlite, params := .empty
      fragment := Fragment.keyword .UPDATE ++ [.qualified none "users"] ++ Fragment.keyword .SET ++
        Fragment.ident "age" ++ Fragment.comparison .eq ++ Fragment.param "age" ++
        Fragment.sign .comma ++ Fragment.ident "seen" ++ Fragment.comparison .eq ++
        Fragment.raw "(SELECT 1, 2 WHERE 3)" ++ Fragment.keyword .WHERE ++ Fragment.ident "id" ++
        Fragment.comparison .eq ++ Fragment.param "id" ++ Fragment.keyword .AND ++
        Fragment.ident "age" ++ Fragment.keywords [.IS, .NULL] } =
      some {
        dialect := .sqlite, params := .empty, schema := none, table := "users"
        action := .assign [("age", .splice [.argument (.param "age")]),
          ("seen", .splice [.text "(SELECT 1, 2 WHERE 3)"])]
        condition := some (.and (.compare .eq (.column "id") (.param "id"))
          (.isNull (.column "age"))) } := rfl

end Reader

/-- The truth of a condition that may be missing. -/
def Interpretation.restriction (reading : Interpretation) : Option Formula → Truth
  | none => .yes
  | some formula => reading.truth formula

namespace Change

variable (database : Database) (now : Nat) (change : Change)

/-- Whether a change concerns a row. -/
def concerns (row : Row) : Bool :=
  (database.reading now change.params row).restriction change.condition = .yes

/-- The row in which the next term of an update is evaluated. MySQL evaluates from left to
right and shows what has been assigned so far; the others show the row as it was. -/
def shown (before current : Row) : Row :=
  match change.dialect with
  | .mysql => current
  | .sqlite | .postgresql | .sqlserver => before

/-- One assignment. -/
def assigned (before current : Row) (assignment : String × Term) : Row :=
  let reading := database.reading now change.params (change.shown before current)
  Function.update current assignment.1 (reading.value assignment.2)

/-- What becomes of a row. -/
def applied (row : Row) : Option Row :=
  if change.concerns database now row then
    match change.action with
    | .assign assignments => some (assignments.foldl (change.assigned database now row) row)
    | .remove => none
  else some row

/-- What becomes of a table. -/
def executed (rows : List Row) : List Row := rows.filterMap (change.applied database now)

/-- How many rows of a table a change concerns. -/
def affected (rows : List Row) : Nat := rows.countP (change.concerns database now)

variable {database now change}

/-- An update changes the rows that it concerns, each by itself. -/
theorem executed_of_assign {assignments : List (String × Term)}
    (assigns : change.action = .assign assignments) (rows : List Row) :
    change.executed database now rows = rows.map fun row =>
      if change.concerns database now row then
        assignments.foldl (change.assigned database now row) row
      else row := by
  rw [executed, ← List.filterMap_eq_map]
  refine List.filterMap_congr fun row _ => ?_
  rw [applied, assigns, Function.comp_apply]
  split <;> rfl

/-- A delete leaves the rows that it does not concern. -/
theorem executed_of_remove (removes : change.action = .remove) (rows : List Row) :
    change.executed database now rows =
      rows.filter fun row => !change.concerns database now row := by
  rw [executed, ← List.filterMap_eq_filter]
  refine List.filterMap_congr fun row _ => ?_
  rw [applied, removes, Option.guard]
  cases change.concerns database now row <;> rfl

/-- An update shows the row as it was, unless it is one of MySQL. -/
theorem shown_eq (change : Change) (before current : Row) :
    change.shown before current = before ∨
      change.dialect = .mysql ∧ change.shown before current = current := by
  unfold shown
  cases change.dialect with
  | mysql => exact .inr ⟨rfl, rfl⟩
  | _ => exact .inl rfl

section

variable {before current : Row} {assignments : List (String × Term)} {name : String}

/-- A column that nothing is assigned to keeps its value. -/
theorem foldl_assigned_of_not_mem (unassigned : name ∉ assignments.map Prod.fst) :
    assignments.foldl (change.assigned database now before) current name = current name := by
  induction assignments generalizing current with
  | nil => rfl
  | cons first rest inductionHypothesis =>
    obtain ⟨other, others⟩ : name ≠ first.1 ∧ name ∉ rest.map Prod.fst := by
      simpa using unassigned
    rw [List.foldl_cons, inductionHypothesis others]
    exact Function.update_of_ne other _ _

/-- What an update shows where it evaluates the term for a column: the row as it was, though
in MySQL some of the other columns may have their new values already. -/
structure Shows (dialect : Dialect) (before after row : Row) (name : String) : Prop where
  whole : dialect ≠ .mysql → row = before
  own : row name = before name
  each : ∀ other, row other = before other ∨ row other = after other

/-- A column that is assigned to once takes the value of its term. The columns that are yet
to come still have the values that they had before. -/
theorem foldl_assigned_of_mem {term : Term} (distinct : (assignments.map Prod.fst).Nodup)
    (pending : ∀ other ∈ assignments.map Prod.fst, current other = before other)
    (member : (name, term) ∈ assignments) :
    let after := assignments.foldl (change.assigned database now before) current
    ∃ row, Shows change.dialect before after row name ∧
      after name = (database.reading now change.params row).value term := by
  induction assignments generalizing current with
  | nil => cases member
  | cons first rest inductionHypothesis =>
    obtain ⟨new, others⟩ : first.1 ∉ rest.map Prod.fst ∧ (rest.map Prod.fst).Nodup := by
      simpa using distinct
    rcases List.mem_cons.mp member with rfl | member
    · refine ⟨change.shown before current, ?_, ?_⟩
      · rcases change.shown_eq before current with same | ⟨mysql, same⟩
        · rw [same]
          exact ⟨fun _ => rfl, rfl, fun _ => .inl rfl⟩
        · rw [same]
          refine ⟨fun other => absurd mysql other, pending name (.head _), fun other => ?_⟩
          by_cases later : other ∈ ((name, term) :: rest).map Prod.fst
          · exact .inl (pending other later)
          · exact .inr (foldl_assigned_of_not_mem later).symm
      · rw [List.foldl_cons, foldl_assigned_of_not_mem new]
        exact Function.update_self _ _ _
    · have remaining : ∀ other ∈ rest.map Prod.fst,
          change.assigned database now before current first other = before other := by
        intro other listed
        have apart : other ≠ first.1 := fun same => new (same ▸ listed)
        have kept : change.assigned database now before current first other = current other :=
          Function.update_of_ne apart _ _
        rw [kept]
        exact pending other (List.mem_cons_of_mem _ listed)
      exact inductionHypothesis others remaining member

end

end Change
end Sqlwright.Sql
