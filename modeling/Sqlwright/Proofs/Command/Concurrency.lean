import Mathlib.Data.List.Pairwise
import Sqlwright.Proofs.Command.OwnRow

/-!
# Concurrent updates of one row

Several clients have captured a row with the same key and the same value of a guard, and each
updates it. An update concerns only a row that still has both. The one that comes first takes
the guard to another value, and none of the others finds the row any more.

Before that happens nothing changes, since an update that concerns no row changes none. So
the invariant of a run is that the table is still as it was, or that no row in it has the
captured key and guard.

Rows are compared through captured values, so the database has to tell apart what it may find
in the key and in the guard: values that it takes for one captured value are the same as each
other. Nothing is asked about values that do not occur there.
-/

namespace Sqlwright

open Sql (Change Database Row Statement)

/-- A column that guards its row and that updates write, in a table of distinct columns. -/
structure Guards (table : Table) (guard : Column) : Prop where
  distinct : Distinct table.columns
  present : guard ∈ table.columns
  tested : guard.concurrency = true
  written : guard.isUpdatable = true

/-- A row has the captured values of the key and of a guard. -/
def Unchanged (database : Database) (table : Table) (guard : Column) (captured : Record)
    (stored : Row) : Prop :=
  ∀ column ∈ table.columns, column.key = true ∨ column = guard →
    ∃ value, captured column.property = some value ∧ database.Same (stored column.name) value

/-- Two rows differ in a column of the key. -/
def OtherKey (database : Database) (table : Table) (first second : Row) : Prop :=
  ∃ column ∈ table.columns, column.key = true ∧
    ¬ database.Same (first column.name) (second column.name)

/-- A row as an update may see it while it writes a stored one: the row as stored, or, where
MySQL shows what it has assigned so far, one that may differ from it in other columns that
updates write. -/
structure Visible (dialect : Dialect) (table : Table) (guard : Column) (stored shown : Row) :
    Prop where
  whole : dialect ≠ .mysql → shown = stored
  kept : ∀ column ∈ table.columns, column.isUpdatable = false ∨ column = guard →
    shown column.name = stored column.name

/-- The expression of a guard takes it to another value than it has, wherever an update may
evaluate it. -/
def Raises (database : Database) (dialect : Dialect) (table : Table) (guard : Column)
    (stored : Row) : Prop :=
  ∀ sql, guard.updateSql = some sql → ∀ (now : Nat) (shown : Row),
    Visible dialect table guard stored shown →
      ¬ database.Same (database.raw now shown [.text sql]) (stored guard.name)

/-- The values of a column in rows, and those that an update of one of these rows may give to
the guard. -/
inductive Occurs (database : Database) (dialect : Dialect) (table : Table) (guard : Column)
    (rows : List Row) : Column → Value → Prop
  | stored {column : Column} {row : Row} (listed : row ∈ rows) :
      Occurs database dialect table guard rows column (row column.name)
  | given {row shown : Row} {sql : String} {now : Nat} (listed : row ∈ rows)
      (own : guard.updateSql = some sql) (visible : Visible dialect table guard row shown) :
      Occurs database dialect table guard rows guard (database.raw now shown [.text sql])

/-- A database tells apart what occurs in the key and in the guard, as far as that is taken
for the captured values. -/
def TellsApart (database : Database) (dialect : Dialect) (table : Table) (guard : Column)
    (captured : Record) (rows : List Row) : Prop :=
  ∀ column ∈ table.columns, column.key = true ∨ column = guard →
    ∀ value, captured column.property = some value →
      database.Identifies (Occurs database dialect table guard rows column) value

section

variable {database : Database} {config : Config} {table : Table} {guard : Column}
  {captured record : Record} {change : Change} {rows : List Row} {now : Nat}

/-- An updatable guard has an expression of its own. -/
theorem Guards.expression (guards : Guards table guard) : ∃ sql, guard.updateSql = some sql := by
  have written := guards.written
  simp only [Column.isUpdatable, guards.tested, Bool.not_true, Bool.false_or,
    Bool.and_eq_true] at written
  exact Option.isSome_iff_exists.mp written.2

/-- A different key is different from both sides. -/
theorem OtherKey.symm {first second : Row} (other : OtherKey database table first second) :
    OtherKey database table second first := by
  obtain ⟨column, present, key, different⟩ := other
  exact ⟨column, present, key, fun same => different same.symm⟩

instance : Std.Symm (OtherKey database table) := ⟨fun _ _ other => other.symm⟩

/-- Rows with the captured values are the same in each column of the key and in the guard, for
what occurs there is told apart. -/
theorem Unchanged.same {first second : Row} {column : Column}
    (tells : TellsApart database config.dialect table guard captured rows)
    (unchanged : Unchanged database table guard captured first)
    (unchangedToo : Unchanged database table guard captured second)
    (present : column ∈ table.columns) (tested : column.key = true ∨ column = guard)
    (occurs : Occurs database config.dialect table guard rows column (first column.name))
    (occursToo : Occurs database config.dialect table guard rows column (second column.name)) :
    database.Same (first column.name) (second column.name) := by
  obtain ⟨value, known, same⟩ := unchanged column present tested
  obtain ⟨other, knownOther, sameOther⟩ := unchangedToo column present tested
  obtain rfl : value = other := Option.some.inj (known.symm.trans knownOther)
  exact tells column present tested value known _ _ occurs occursToo same sameOther

/-- So rows of the table that have them have the same key. -/
theorem Unchanged.not_otherKey {first second : Row}
    (tells : TellsApart database config.dialect table guard captured rows)
    (listed : first ∈ rows) (also : second ∈ rows)
    (unchanged : Unchanged database table guard captured first)
    (unchangedToo : Unchanged database table guard captured second) :
    ¬ OtherKey database table first second := by
  rintro ⟨column, present, key, different⟩
  exact different
    (unchanged.same tells unchangedToo present (.inl key) (.stored listed) (.stored also))

/-- Where keys are unique, only one row has the captured values. -/
theorem Unchanged.eq {first second : Row}
    (tells : TellsApart database config.dialect table guard captured rows)
    (unique : rows.Pairwise (OtherKey database table)) (listed : first ∈ rows)
    (also : second ∈ rows) (unchanged : Unchanged database table guard captured first)
    (unchangedToo : Unchanged database table guard captured second) : first = second := by
  by_contra different
  have apart := unique.forall listed also different
  exact unchanged.not_otherKey tells listed also unchangedToo apart

/-- What one client's update does: it concerns only rows with the captured key and guard, and
rewrites them. -/
structure Rival (config : Config) (table : Table) (guard : Column) (captured : Record)
    (change : Change) : Prop where
  concerned : ∀ (database : Database) (now : Nat) (stored : Row),
    change.concerns database now stored = true →
      Unchanged database table guard captured stored
  updates : ∃ record, Updates config table record change

/-- No row has the captured key and guard any more. -/
def Settled (database : Database) (table : Table) (guard : Column) (captured : Record)
    (rows : List Row) : Prop :=
  ∀ stored ∈ rows, ¬ Unchanged database table guard captured stored

/-- A row that an update rewrites loses the captured guard. -/
theorem not_unchanged_of_rewrites {stored after : Row} (guards : Guards table guard)
    (tells : TellsApart database config.dialect table guard captured rows)
    (listed : stored ∈ rows) (unchanged : Unchanged database table guard captured stored)
    (raises : Raises database config.dialect table guard stored)
    (rewrites : Rewrites database now config.dialect table record stored after) :
    ¬ Unchanged database table guard captured after := by
  intro still
  obtain ⟨sql, own⟩ := guards.expression
  obtain ⟨shown, shows, becomes⟩ :=
    rewrites.expression guard guards.present guards.written sql own
  have visible : Visible config.dialect table guard stored shown := by
    refine ⟨shows.whole, fun column present unwritten => ?_⟩
    rcases unwritten with unwritten | rfl
    · rcases shows.each column.name with same | same
      · exact same
      · have kept := eq_of_not_updatable guards.distinct rewrites.elsewhere present unwritten
        exact same.trans kept
    · exact shows.own
  have occurs : Occurs database config.dialect table guard rows guard (after guard.name) := by
    rw [becomes]
    exact .given listed own visible
  have same : database.Same (after guard.name) (stored guard.name) :=
    still.same tells unchanged guards.present (.inr rfl) occurs (.stored listed)
  rw [becomes] at same
  exact raises sql own now shown visible same

/-- An update that concerns a row settles the table. The row concerned loses the captured
guard, and no other row had the captured key. -/
theorem Rival.settles (rival : Rival config table guard captured change)
    (guards : Guards table guard)
    (tells : TellsApart database config.dialect table guard captured rows)
    (unique : rows.Pairwise (OtherKey database table))
    (raises : ∀ stored ∈ rows, Unchanged database table guard captured stored →
      Raises database config.dialect table guard stored)
    (concerned : change.affected database now rows ≠ 0) :
    Settled database table guard captured (change.executed database now rows) := by
  obtain ⟨record, updates⟩ := rival.updates
  obtain ⟨after, executes, untouched, rewrites⟩ := updates database now
  rw [executes]
  intro result member
  obtain ⟨stored, listed, rfl⟩ := List.mem_map.mp member
  cases concerns : change.concerns database now stored with
  | true =>
    have unchanged := rival.concerned database now stored concerns
    exact not_unchanged_of_rewrites guards tells listed unchanged
      (raises stored listed unchanged) (rewrites stored concerns)
  | false =>
    rw [untouched stored concerns]
    intro unchanged
    obtain ⟨other, also, otherConcerns⟩ := List.countP_pos_iff.mp (Nat.pos_of_ne_zero concerned)
    have unchangedToo := rival.concerned database now other otherConcerns
    obtain rfl := unchanged.eq tells unique listed also unchangedToo
    rw [concerns] at otherConcerns
    cases otherConcerns

end

end Sqlwright
