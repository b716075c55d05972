import Sqlwright.Proofs.Command.Sorting

/-!
# Lists in parentheses read back

A statement lists columns, and it lists the cells of a row, in parentheses and with commas
between. The readers below find the items of such a list, and the rows of a list of rows,
whatever follows. They know nothing of how a list has been written; what was written is
what they find.

Items hold neither commas nor closing parentheses. Text that is written as it is may spell
them, but it is one chunk and is not looked into.
-/

namespace Sqlwright.Sql

/-- What stands in a row for a column: text that is written as it is, or a parameter. -/
inductive Cell where
  | text (sql : String)
  | param (name : String)
deriving DecidableEq, Repr

namespace Cell

/-- The cell written out. -/
def fragment : Cell → Fragment
  | .text sql => Fragment.raw sql
  | .param name => Fragment.param name

/-- The parameter of a cell. -/
def param? : Cell → Option String
  | .text _ => none
  | .param name => some name

/-- The cell that a fragment is. -/
def read? : Fragment → Option Cell
  | [.raw sql] => some (.text sql)
  | [.param name] => some (.param name)
  | _ => none

/-- A cell names its parameter and no other. -/
theorem paramNames_fragment (cell : Cell) : cell.fragment.paramNames = cell.param?.toList := by
  cases cell <;> rfl

end Cell

namespace Fragment

open Select (isComma)

/-- What follows the words that a fragment is expected to begin with. -/
def after? (expected fragment : Fragment) : Option Fragment := fragment.dropPrefix? expected

@[simp] theorem after?_append (expected rest : Fragment) :
    after? expected (expected ++ rest) = some rest :=
  List.dropPrefix?_append_of_beq rest (beq_self_eq_true expected)

/-- The name that a fragment is. -/
def name? : Fragment → Option String
  | [.ident name] => some name
  | _ => none

/-- The items of a list without parentheses. -/
def items (inner : Fragment) : List Fragment :=
  if inner.isEmpty then [] else inner.splitOnP isComma

/-- The items of the list in parentheses that a fragment begins with, each of them read, and
what follows the list. -/
def listed? {α : Type} (item? : Fragment → Option α) : Fragment → Option (List α × Fragment)
  | .token (.punctuation .leftParen) :: rest =>
    match rest.dropWhile (· ≠ .token (.punctuation .rightParen)) with
    | [] => none
    | _ :: after =>
      ((items (rest.takeWhile (· ≠ .token (.punctuation .rightParen)))).mapM item?).map
        fun found => (found, after)
  | _ => none

/-- What follows a list is shorter than what the list begins. -/
theorem length_of_listed? {α : Type} {item? : Fragment → Option α} {fragment after : Fragment}
    {found : List α} (read : listed? item? fragment = some (found, after)) :
    after.length < fragment.length := by
  unfold listed? at read
  split at read
  · rename_i rest
    split at read
    · cases read
    · rename_i closing remaining closed
      obtain ⟨_, _, same⟩ := Option.map_eq_some_iff.mp read
      cases same
      have shorter := (List.dropWhile_sublist
        (· ≠ Chunk.token (.punctuation .rightParen)) (l := rest)).length_le
      rw [closed, List.length_cons] at shorter
      rw [List.length_cons]
      omega
  · cases read

/-- The rows that a fragment begins with, with commas between, and what follows them. -/
def rows? (fragment : Fragment) : Option (List (List Cell) × Fragment) :=
  match _read : listed? Cell.read? fragment with
  | some (row, .token (.punctuation .comma) :: rest) =>
    (rows? rest).map fun (others, after) => (row :: others, after)
  | some (row, rest) => some ([row], rest)
  | none => none
termination_by fragment.length
decreasing_by
  have shorter := length_of_listed? _read
  rw [List.length_cons] at shorter
  omega

/-- A fragment that can stand in a list: it is not empty, and neither a comma nor a closing
parenthesis divides it. -/
def Undivided (fragment : Fragment) : Prop :=
  fragment ≠ [] ∧ ∀ chunk ∈ fragment,
    isComma chunk = false ∧ chunk ≠ .token (.punctuation .rightParen)

theorem undivided_ident (name : String) : Undivided (ident name) := by
  simp [Undivided, ident, isComma]

theorem undivided_cell (cell : Cell) : Undivided cell.fragment := by
  cases cell <;> simp [Undivided, Cell.fragment, raw, param, isComma]

/-- The items of a list are told apart. -/
theorem items_commaList {written : List Fragment} (each : ∀ item ∈ written, Undivided item) :
    items (commaList written) = written := by
  cases written with
  | nil => rfl
  | cons first rest =>
    have plain : ∀ item ∈ first :: rest, ∀ chunk ∈ item, isComma chunk = false :=
      fun item member chunk inside => ((each item member).2 chunk inside).1
    have nonempty : commaList (first :: rest) ≠ [] := by
      intro none
      have divided := Select.splitOnP_commaList (List.cons_ne_nil first rest) plain
      rw [none, List.splitOnP_nil] at divided
      obtain ⟨rfl, rfl⟩ := List.cons.inj divided
      exact (each [] (.head _)).1 rfl
    rw [items, if_neg (by simpa using nonempty),
      Select.splitOnP_commaList (List.cons_ne_nil _ _) plain]

section

variable {α β : Type} {item? : Fragment → Option β} {write : α → Fragment} {image : α → β}
  {values : List α}

/-- Items that are read one by one are read together. -/
theorem mapM_read (reads : ∀ value ∈ values, item? (write value) = some (image value)) :
    (values.map write).mapM item? = some (values.map image) := by
  induction values with
  | nil => rfl
  | cons value rest inductionHypothesis =>
    rw [List.map_cons, List.mapM_cons, reads value (.head _),
      inductionHypothesis fun other member => reads other (.tail _ member)]
    rfl

/-- A list in parentheses is read back, whatever follows. -/
theorem listed?_parens (undivided : ∀ value ∈ values, Undivided (write value))
    (reads : ∀ value ∈ values, item? (write value) = some (image value)) (rest : Fragment) :
    listed? item? (parens (commaList (values.map write)) ++ rest) =
      some (values.map image, rest) := by
  have unclosed : Chunk.token (.punctuation .rightParen) ∉ commaList (values.map write) := by
    intro member
    rcases mem_joined member with same | ⟨item, listed, inside⟩
    · cases same
    · obtain ⟨value, present, rfl⟩ := List.mem_map.mp listed
      exact ((undivided value present).2 _ inside).2 rfl
  have apart : items (commaList (values.map write)) = values.map write :=
    items_commaList (List.forall_mem_map.mpr undivided)
  have written : parens (commaList (values.map write)) ++ rest =
      .token (.punctuation .leftParen) ::
        (commaList (values.map write) ++ .token (.punctuation .rightParen) :: rest) := by
    simp [parens, sign]
  rw [written, listed?, dropWhile_ne_append unclosed, takeWhile_ne_append unclosed, apart,
    mapM_read reads]
  rfl

end

/-- A list of columns is read back as their names. -/
@[simp] theorem listed?_columnList (columns : List Column) (rest : Fragment) :
    listed? name? (Command.columnList columns ++ rest) = some (columns.map (·.name), rest) := by
  have undivided : ∀ column ∈ columns, Undivided (ident column.name) :=
    fun column _ => undivided_ident column.name
  have reads : ∀ column ∈ columns, name? (ident column.name) = some column.name :=
    fun _ _ => rfl
  exact listed?_parens undivided reads rest

/-- A row of cells written out. -/
def row (cells : List Cell) : Fragment := parens (commaList (cells.map Cell.fragment))

/-- A row of cells is read back. -/
@[simp] theorem listed?_row (cells : List Cell) (rest : Fragment) :
    listed? Cell.read? (row cells ++ rest) = some (cells, rest) := by
  have undivided : ∀ cell ∈ cells, Undivided cell.fragment := fun cell _ => undivided_cell cell
  have reads : ∀ cell ∈ cells, Cell.read? cell.fragment = some (id cell) := by
    intro cell _
    cases cell <;> rfl
  have read := listed?_parens undivided reads rest
  rwa [List.map_id] at read

/-- A row that no comma follows is the last. -/
theorem rows?_last {fragment rest : Fragment} {cells : List Cell}
    (found : listed? Cell.read? fragment = some (cells, rest))
    (ended : ∀ after, rest ≠ .token (.punctuation .comma) :: after) :
    rows? fragment = some ([cells], rest) := by
  unfold rows?
  split
  · rename_i other after read
    cases found.symm.trans read
    exact absurd rfl (ended after)
  · rename_i other after _ read
    cases found.symm.trans read
    rfl
  · rename_i read
    cases found.symm.trans read

/-- Behind a comma there are more rows. -/
theorem rows?_comma {fragment rest : Fragment} {cells : List Cell}
    (found : listed? Cell.read? fragment =
      some (cells, .token (.punctuation .comma) :: rest)) :
    rows? fragment = (rows? rest).map fun (others, after) => (cells :: others, after) := by
  rw [rows?]
  split
  · rename_i other after read
    cases found.symm.trans read
    rfl
  · rename_i other after single read
    cases found.symm.trans read
    exact (single rest rfl).elim
  · rename_i read
    cases found.symm.trans read

/-- Rows with commas between are read back, if no comma follows them. -/
theorem rows?_commaList {rows : List (List Cell)} (nonempty : rows ≠ []) {rest : Fragment}
    (ended : ∀ after, rest ≠ .token (.punctuation .comma) :: after) :
    rows? (commaList (rows.map row) ++ rest) = some (rows, rest) := by
  induction rows with
  | nil => exact absurd rfl nonempty
  | cons first others inductionHypothesis =>
    cases others with
    | nil => exact rows?_last (listed?_row first rest) ended
    | cons second more =>
      have divided : commaList ((first :: second :: more).map row) ++ rest =
          row first ++ .token (.punctuation .comma) ::
            (commaList ((second :: more).map row) ++ rest) :=
        List.append_assoc ..
      rw [divided, rows?_comma (listed?_row first _),
        inductionHypothesis (List.cons_ne_nil _ _)]
      rfl

end Fragment
end Sqlwright.Sql
