import Sqlwright.Proofs.Sql.Change
import Sqlwright.Proofs.Text.Identifier

/-!
# What a query returns

A query is read as a condition and a page. Of the rows of its table, in the order in which it
sorts them, it returns those that the condition is true of, and of these the ones that are on the
page.

The dialects ask for a page in different ways. SQLite and MySQL skip rows only behind a limit;
in SQLite the limit -1 is none. PostgreSQL skips with a limit or without. SQL Server pages only
what is sorted: it skips rows first, and then it fetches some, but at least one. What a dialect
does not admit is not read as a page. Numerals have no bound.
-/

namespace Sqlwright.Sql

/-- A stretch of rows. -/
structure Page where
  /-- How many rows come before it. -/
  skipped : Nat := 0
  /-- The most rows that are on it; all that follow if there is none. -/
  kept : Option Nat := none
deriving DecidableEq

/-- The rows that are on a page. -/
def Page.cut {α : Type} (page : Page) (rows : List α) : List α :=
  match page.kept with
  | none => rows.drop page.skipped
  | some count => (rows.drop page.skipped).take count

/-- What a statement returns of the rows of a table. -/
structure Query where
  params : ParamSet
  schema : Option String
  table : String
  condition : Option Formula
  page : Page

/-- The rows that a query returns of those of its table, which come in the order in which it sorts
them. -/
def Query.returned (database : Database) (now : Nat) (query : Query) (rows : List Row) :
    List Row :=
  query.page.cut (rows.filter fun row =>
    (database.reading now query.params row).restriction query.condition = .yes)

/-- The number that a decimal numeral stands for. -/
def numeral? (text : String) : Option Nat :=
  if text.toList ≠ [] ∧ text.toList.all Char.isDigit then some (Nat.ofDigitChars 10 text.toList 0)
  else none

namespace Reader

/-- The keywords that end the condition of a query. -/
def endsCondition : List Keyword := [.ORDER, .LIMIT, .OFFSET]

/-- Whether a part stands behind the condition of a query. -/
def followsCondition (part : Part) : Bool := endsCondition.any part.isKeyword

/-- Whether a part begins the paging clause. -/
def beginsPage (part : Part) : Bool := part.isKeyword .LIMIT || part.isKeyword .OFFSET

/-- Whether a part may stand in a list of output columns. -/
def isOutput : Part → Bool
  | .chunk (.ident _) => true
  | part => part.isKeyword .AS || part.isToken (.punctuation .comma)

/-- A number of rows. -/
def count? : Part → Option Nat
  | .chunk (.raw text) => numeral? text
  | _ => none

/-- A limit; none is written as -1 in SQLite. -/
def limit? (dialect : Dialect) : Part → Option (Option Nat)
  | .chunk (.raw text) =>
    if dialect = .sqlite ∧ text = "-1" then some none else (numeral? text).map some
  | _ => none

/-- The page that a paging clause asks for. -/
def page? (dialect : Dialect) (sorted : Bool) : List Part → Option Page
  | [] => some {}
  | [.chunk (.token (.keyword .LIMIT)), count] =>
    if dialect = .sqlserver then none
    else do return { kept := ← limit? dialect count }
  | [.chunk (.token (.keyword .LIMIT)), count, .chunk (.token (.keyword .OFFSET)), skip] =>
    if dialect = .sqlserver then none
    else do return { skipped := ← count? skip, kept := ← limit? dialect count }
  | [.chunk (.token (.keyword .OFFSET)), skip] =>
    if dialect = .postgresql then do return { skipped := ← count? skip }
    else none
  | [.chunk (.token (.keyword .OFFSET)), skip, .chunk (.token (.keyword .ROWS))] =>
    if dialect = .sqlserver ∧ sorted then do return { skipped := ← count? skip }
    else none
  | [.chunk (.token (.keyword .OFFSET)), skip, .chunk (.token (.keyword .ROWS)),
      .chunk (.token (.keyword .FETCH)), .chunk (.token (.keyword .NEXT)), count,
      .chunk (.token (.keyword .ROWS)), .chunk (.token (.keyword .ONLY))] =>
    if dialect = .sqlserver ∧ sorted then do
      let skipped ← count? skip
      let fetched ← count? count
      if fetched = 0 then none else return { skipped, kept := some fetched }
    else none
  | _ => none

/-- Whether rows are sorted, and what follows the sort terms. ORDER BY needs one at least. -/
def sorting? : List Part → Option (Bool × List Part)
  | .chunk (.token (.keyword .ORDER)) :: .chunk (.token (.keyword .BY)) :: rest =>
    if (rest.takeWhile (!beginsPage ·)).isEmpty then none
    else some (true, rest.dropWhile (!beginsPage ·))
  | parts => some (false, parts)

/-- The table of a query, its condition, and the page of what it returns. -/
def query? (dialect : Dialect) (params : ParamSet) : List Part → Option Query
  | .chunk (.token (.keyword .SELECT)) :: rest =>
    if (rest.takeWhile (!Part.isKeyword .FROM ·)).all isOutput then
      match rest.dropWhile (!Part.isKeyword .FROM ·) with
      | .chunk (.token (.keyword .FROM)) :: .chunk (.qualified schema table) :: clauses => do
        let condition ← restriction? dialect (clauses.takeWhile (!followsCondition ·))
        let (sorted, paging) ← sorting? (clauses.dropWhile (!followsCondition ·))
        let page ← page? dialect sorted paging
        return { params, schema, table, condition, page }
      | _ => none
    else none
  | _ => none

end Reader

/-- The query that a statement is. -/
def Statement.query? (statement : Statement) : Option Query := do
  let nesting ← statement.fragment.foldlM (Reader.step statement.dialect) ⟨[], []⟩
  if nesting.outer.isEmpty then
    Reader.query? statement.dialect statement.params nesting.current
  else none

/-- A page that ends behind the last row has no end. -/
theorem Page.cut_of_length_le {α : Type} {page : Page} {rows : List α}
    (all : ∀ count ∈ page.kept, rows.length ≤ count) :
    page.cut rows = rows.drop page.skipped := by
  unfold Page.cut
  cases kept : page.kept with
  | none => rfl
  | some count =>
    have enough : (rows.drop page.skipped).length ≤ count := by
      have bound := all count kept
      rw [List.length_drop]
      omega
    exact List.take_of_length_le enough

/-- The numeral of a number stands for it. -/
theorem numeral?_decimal (n : Nat) : numeral? (Text.decimal n) = some n := by
  have digits : ∀ c ∈ (Text.decimal n).toList, c.isDigit = true := by
    intro c member
    rw [Text.decimal, String.toList_ofList] at member
    exact Nat.isDigit_of_mem_toDigits (by decide) (Nat.le_refl 10) member
  have nonempty : (Text.decimal n).toList ≠ [] := by
    rw [Text.decimal, String.toList_ofList]
    exact Nat.toDigits_ne_nil
  rw [numeral?, if_pos ⟨nonempty, List.all_eq_true.mpr digits⟩, Text.decimal,
    String.toList_ofList, Text.digits, Nat.ofDigitChars_toDigits (by decide) (Nat.le_refl 10)]

namespace Reader

variable {dialect : Dialect}

/-- A number of rows is read as it was written. -/
theorem count?_decimal (n : Nat) : count? (.chunk (.raw (Text.decimal n))) = some n :=
  numeral?_decimal n

/-- A limit is read as it was written, for -1 is no numeral. -/
theorem limit?_decimal (dialect : Dialect) (n : Nat) :
    limit? dialect (.chunk (.raw (Text.decimal n))) = some (some n) := by
  have numeral := numeral?_decimal n
  have signed : numeral? "-1" = none := by decide
  have other : Text.decimal n ≠ "-1" := by
    intro same
    rw [same, signed] at numeral
    cases numeral
  rw [limit?, if_neg fun both => other both.2, numeral]
  rfl

/-- In SQLite the limit -1 keeps all rows. -/
theorem limit?_sqlite : limit? .sqlite (.chunk (.raw "-1")) = some none := by decide

/-- A part has been read already, perhaps in front of a parenthesis that is open. -/
def Nesting.Has (nesting : Nesting) (part : Part) : Prop :=
  part ∈ nesting.current ∨ ∃ parts ∈ nesting.outer, part ∈ parts

/-- Reading a chunk adds no other chunk; a parenthesis that closes adds none at all. -/
theorem has_of_step {nesting later : Nesting} {chunk other : Chunk}
    (taken : step dialect nesting chunk = some later) (has : later.Has (.chunk other)) :
    nesting.Has (.chunk other) ∨ other = chunk := by
  unfold step at taken
  split at taken
  · cases taken
    rcases has with inCurrent | ⟨parts, listed, inside⟩
    · cases inCurrent
    · rcases List.mem_cons.mp listed with rfl | listed
      · exact .inl (.inl inside)
      · exact .inl (.inr ⟨parts, listed, inside⟩)
  · split at taken
    · cases taken
    · rename_i enclosing outer stacked
      cases taken
      rcases has with inCurrent | ⟨parts, listed, inside⟩
      · refine .inl (.inr ⟨enclosing, stacked ▸ List.mem_cons_self, ?_⟩)
        simpa [group] using inCurrent
      · exact .inl (.inr ⟨parts, stacked ▸ List.mem_cons_of_mem _ listed, inside⟩)
  · cases taken
    rcases has with inCurrent | outside
    · rcases List.mem_append.mp inCurrent with before | added
      · exact .inl (.inl before)
      · exact .inr (by simpa using added)
    · exact .inl (.inr outside)

/-- Reading a fragment adds no other chunks than its own. -/
theorem has_of_foldlM {fragment : Fragment} {nesting later : Nesting} {chunk : Chunk}
    (taken : fragment.foldlM (step dialect) nesting = some later) (has : later.Has (.chunk chunk)) :
    nesting.Has (.chunk chunk) ∨ chunk ∈ fragment := by
  induction fragment generalizing nesting with
  | nil =>
    cases taken
    exact .inl has
  | cons first rest inductionHypothesis =>
    rw [List.foldlM_cons] at taken
    obtain ⟨middle, begun, taken⟩ := Option.bind_eq_some_iff.mp taken
    rcases inductionHypothesis taken with before | inRest
    · rcases has_of_step begun before with before | rfl
      · exact .inl before
      · exact .inr List.mem_cons_self
    · exact .inr (List.mem_cons_of_mem _ inRest)

/-- The chunks among the parts of a fragment are chunks of it. -/
theorem mem_of_nests {fragment : Fragment} {parts : List Part} {chunk : Chunk}
    (nests : Nests dialect fragment parts) (member : .chunk chunk ∈ parts) : chunk ∈ fragment := by
  have taken := nests ⟨[], []⟩
  rcases has_of_foldlM taken (.inl (by simpa using member)) with before | inside
  · rcases before with inCurrent | ⟨_, listed, _⟩
    · cases inCurrent
    · cases listed
  · exact inside

/-- A part that is a keyword is the chunk of it. -/
theorem eq_of_isKeyword {part : Part} {word : Keyword} (same : part.isKeyword word = true) :
    part = .chunk (.token (.keyword word)) := by
  unfold Part.isKeyword Part.isToken at same
  split at same
  · rw [eq_of_beq same]
  · cases same

/-- The parts of a condition do not end it, if the fragment has no keyword that does. -/
theorem followsCondition_eq_false {fragment : Fragment} {parts : List Part}
    (nests : Nests dialect fragment parts)
    (absent : ∀ word ∈ endsCondition, .token (.keyword word) ∉ fragment) :
    ∀ part ∈ parts, followsCondition part = false := by
  intro part member
  refine Bool.eq_false_iff.mpr fun follows => ?_
  obtain ⟨word, known, same⟩ := List.any_eq_true.mp follows
  exact absent word known (mem_of_nests nests (eq_of_isKeyword same ▸ member))

/-- An output column is no parenthesis. -/
theorem isParen_of_isOutput {chunk : Chunk} (output : isOutput (.chunk chunk) = true) :
    isParen chunk = false := by
  unfold isParen
  split
  · cases output
  · cases output
  · rfl

/-- An output column does not end the list of them. -/
theorem not_from_of_isOutput {part : Part} (output : isOutput part = true) :
    (!part.isKeyword .FROM) = true := by
  rw [Bool.not_eq_true', Bool.eq_false_iff]
  intro same
  rw [eq_of_isKeyword same] at output
  cases output

/-- A statement is read by its parts. -/
theorem query?_of_nests {statement : Statement} {parts : List Part} {query : Query}
    (nests : Nests statement.dialect statement.fragment parts)
    (found : query? statement.dialect statement.params parts = some query) :
    statement.query? = some query := by
  simp [Statement.query?, nests _, found]

/-- What follows the condition of a query is read as its page. -/
structure ReadsPage (dialect : Dialect) (fragment : Fragment) (page : Page) : Prop where
  plain : ∀ chunk ∈ fragment, isParen chunk = false
  follows : ∀ chunk ∈ fragment.head?, followsCondition (.chunk chunk) = true
  found : ∃ sorted paging, sorting? (fragment.map .chunk) = some (sorted, paging) ∧
    page? dialect sorted paging = some page

section

variable {paging : Fragment} {page : Page}
  (plain : ∀ chunk ∈ paging, isParen chunk = false)
  (begins : ∀ chunk ∈ paging.head?, beginsPage (.chunk chunk) = true)

include plain begins

/-- A paging clause behind sort terms. -/
theorem readsPage_sorted {terms : Fragment} (nonempty : terms ≠ [])
    (inside : ∀ chunk ∈ terms, isParen chunk = false ∧ beginsPage (.chunk chunk) = false)
    (found : page? dialect true (paging.map .chunk) = some page) :
    ReadsPage dialect (Fragment.keywords [.ORDER, .BY] ++ terms ++ paging) page := by
  have sorts : ∀ part ∈ terms.map Part.chunk, (!beginsPage part) = true := by
    intro part member
    obtain ⟨chunk, listed, rfl⟩ := List.mem_map.mp member
    rw [(inside chunk listed).2]
    rfl
  have pages : ∀ part ∈ (paging.map Part.chunk).head?, (!beginsPage part) = false := by
    intro part first
    rw [List.head?_map] at first
    obtain ⟨chunk, leading, rfl⟩ := Option.map_eq_some_iff.mp first
    rw [begins chunk leading]
    rfl
  refine ⟨?_, fun chunk first => ?_, true, paging.map .chunk, ?_, found⟩
  · intro chunk member
    rcases List.mem_append.mp member with member | inPaging
    · rcases List.mem_append.mp member with word | inTerms
      · simp only [Fragment.keywords, List.map_cons, List.map_nil, List.mem_cons,
          List.not_mem_nil, or_false] at word
        rcases word with rfl | rfl <;> rfl
      · exact (inside chunk inTerms).1
    · exact plain chunk inPaging
  · cases first
    rfl
  · have someTerms : (terms.map Part.chunk).isEmpty = false := by simpa using nonempty
    simp [Fragment.keywords, sorting?, Text.takeWhile_run sorts pages,
      Text.dropWhile_run sorts pages, someTerms]

/-- A paging clause without sort terms. -/
theorem readsPage_unsorted (found : page? dialect false (paging.map .chunk) = some page) :
    ReadsPage dialect paging page := by
  refine ⟨plain, fun chunk first => ?_, false, paging.map .chunk, ?_, found⟩
  · have leading := begins chunk first
    simp only [beginsPage, Bool.or_eq_true] at leading
    simp [followsCondition, endsCondition, leading]
  · cases paging with
    | nil => rfl
    | cons chunk rest =>
      have leading := begins chunk rfl
      unfold sorting?
      split
      · rename_i same
        rw [(List.cons.inj same).1] at leading
        cases leading
      · rfl

end

/-- A select is read clause by clause. -/
theorem query?_of_select {statement : Statement} {schema : Option String} {table : String}
    {outputs restriction tail : Fragment} {condition : Option Formula} {page : Page}
    (written : statement.fragment =
      Fragment.keyword .SELECT ++ outputs ++ Fragment.keyword .FROM ++ [.qualified schema table] ++
        restriction ++ tail)
    (listed : ∀ chunk ∈ outputs, isOutput (.chunk chunk) = true)
    (restricted : ReadsRestriction statement.dialect restriction condition)
    (absent : ∀ word ∈ endsCondition, .token (.keyword word) ∉ restriction)
    (paged : ReadsPage statement.dialect tail page) :
    statement.query? = some { params := statement.params, schema, table, condition, page } := by
  obtain ⟨plain, follows, sorted, paging, sorts, pages⟩ := paged
  obtain ⟨parts, nests, found⟩ := restricted
  have beforeFrom : ∀ part ∈ outputs.map Part.chunk, (!part.isKeyword .FROM) = true := by
    intro part member
    obtain ⟨chunk, inside, rfl⟩ := List.mem_map.mp member
    exact not_from_of_isOutput (listed chunk inside)
  have allOutputs : (outputs.map Part.chunk).all isOutput = true := by
    rw [List.all_map, List.all_eq_true]
    exact listed
  have inCondition : ∀ part ∈ parts, (!followsCondition part) = true := by
    intro part member
    rw [followsCondition_eq_false nests absent part member]
    rfl
  have behind : ∀ part ∈ (tail.map Part.chunk).head?, (!followsCondition part) = false := by
    intro part first
    rw [List.head?_map] at first
    obtain ⟨chunk, leading, rfl⟩ := Option.map_eq_some_iff.mp first
    rw [follows chunk leading]
    rfl
  have source : ∀ chunk ∈ ([.qualified schema table] : Fragment), isParen chunk = false :=
    fun chunk member => by rw [List.mem_singleton.mp member]; rfl
  have outputsNest : Nests statement.dialect outputs (outputs.map .chunk) :=
    nests_plain fun chunk member => isParen_of_isOutput (listed chunk member)
  have head := ((nests_token statement.dialect (.keyword .SELECT) rfl).append outputsNest).append
    ((nests_token statement.dialect (.keyword .FROM) rfl).append (nests_plain source))
  have whole : Nests statement.dialect statement.fragment (.chunk (.token (.keyword .SELECT)) ::
      (outputs.map .chunk ++ .chunk (.token (.keyword .FROM)) :: .chunk (.qualified schema table) ::
        (parts ++ tail.map .chunk))) := by
    have all := (head.append nests).append (nests_plain plain)
    simpa [written, Fragment.keyword] using all
  refine query?_of_nests whole ?_
  have untilFrom (rest : List Part) : (outputs.map Part.chunk ++
      Part.chunk (.token (.keyword .FROM)) :: rest).takeWhile (!Part.isKeyword .FROM ·) =
        outputs.map .chunk :=
    Text.takeWhile_run beforeFrom (by simp [Part.isKeyword, Part.isToken])
  have fromOn (rest : List Part) : (outputs.map Part.chunk ++
      Part.chunk (.token (.keyword .FROM)) :: rest).dropWhile (!Part.isKeyword .FROM ·) =
        Part.chunk (.token (.keyword .FROM)) :: rest :=
    Text.dropWhile_run beforeFrom (by simp [Part.isKeyword, Part.isToken])
  have condition : (parts ++ tail.map Part.chunk).takeWhile (!followsCondition ·) = parts :=
    Text.takeWhile_run inCondition behind
  have clauses : (parts ++ tail.map Part.chunk).dropWhile (!followsCondition ·) =
      tail.map .chunk := Text.dropWhile_run inCondition behind
  simp [query?, untilFrom, fromOn, allOutputs, condition, clauses, found, sorts, pages]

/-- In SQLite the limit -1 is none, and OFFSET is behind it. -/
example :
    Statement.query? {
      dialect := .sqlite, params := .empty
      fragment := Fragment.keyword .SELECT ++ Fragment.ident "id" ++ Fragment.keyword .FROM ++
        [.qualified none "users"] ++ Fragment.keyword .WHERE ++ Fragment.ident "age" ++
        Fragment.keywords [.IS, .NULL] ++ Fragment.keywords [.ORDER, .BY] ++ Fragment.ident "id" ++
        Fragment.keywords [.ASC, .LIMIT] ++ Fragment.raw "-1" ++ Fragment.keyword .OFFSET ++
        Fragment.raw "5" } =
      some {
        params := .empty, schema := none, table := "users"
        condition := some (.isNull (.column "age")), page := { skipped := 5 } } := rfl

end Reader
end Sqlwright.Sql
