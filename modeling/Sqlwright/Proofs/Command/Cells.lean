import Sqlwright.Proofs.Command.OwnRow
import Sqlwright.Proofs.Sql.Listing

/-!
# What the rows of a statement bind

A row that is written holds a cell for each of its columns, in the order of the columns. A
column with an expression of its own has that text in its cell; any other has a parameter,
bound to what the record has for the column. So the bindings of a row are those of its
columns without expressions, in their order, and the rows of a batch bind one after another
into one set. Writing rows never fails.

A name once bound keeps its value whatever is bound later. Hence what has been established
of a row still holds when the last row is written.
-/

namespace Sqlwright

open Sql (Cell Fragment Statement)

/-- A cell holds what is written for a column of the record: the column's own expression, or a
parameter that is bound to the record's value for it. -/
def Fills (params : ParamSet) (record : Record) (column : Column) (cell : Cell) : Prop :=
  match column.insertSql with
  | some sql => cell = .text sql
  | none => ∃ name value, cell = .param name ∧ record column.property = some value ∧
    params.get? name = some value

/-- The record's values for the columns that have no expression of their own, in order. -/
def boundValues (columns : List Column) (record : Record) : List Value :=
  columns.filterMap fun column =>
    match column.insertSql with
    | some _ => none
    | none => record column.property

/-- What a cell holds, it holds for every set that keeps the bindings. -/
theorem Fills.mono {params later : ParamSet} {record : Record} {column : Column} {cell : Cell}
    (fills : Fills params record column cell) (kept : params.entries <+: later.entries) :
    Fills later record column cell := by
  unfold Fills at fills ⊢
  split at fills
  · exact fills
  · obtain ⟨name, value, written, known, bound⟩ := fills
    exact ⟨name, value, written, known, ParamSet.get?_of_prefix kept bound⟩

/-- The cells of a record's row, and what writing them adds to the bindings. -/
structure FillsRow (columns : List Column) (record : Record) (params later : ParamSet)
    (cells : List Cell) : Prop where
  fills : List.Forall₂ (Fills later record) columns cells
  kept : params.entries <+: later.entries
  names : later.names = params.names ++ cells.filterMap Cell.param?
  values : later.entries.map Prod.snd =
    params.entries.map Prod.snd ++ boundValues columns record

/-- The cells of several records' rows, and what writing them adds to the bindings. -/
structure FillsRows (columns : List Column) (records : List Record) (params later : ParamSet)
    (rows : List (List Cell)) : Prop where
  fills : List.Forall₂ (fun record => List.Forall₂ (Fills later record) columns) records rows
  kept : params.entries <+: later.entries
  names : later.names = params.names ++ rows.flatten.filterMap Cell.param?
  values : later.entries.map Prod.snd =
    params.entries.map Prod.snd ++ records.flatMap (boundValues columns)

section

variable {column : Column} {columns : List Column} {record : Record} {records : List Record}
  {params middle later : ParamSet} {cell : Cell} {cells : List Cell} {rows : List (List Cell)}

/-- A row without cells. -/
theorem FillsRow.nil (record : Record) (params : ParamSet) : FillsRow [] record params params [] :=
  ⟨.nil, List.prefix_refl _, by simp, by simp [boundValues]⟩

/-- Cells are written one after another. -/
theorem FillsRow.cons (first : FillsRow [column] record params middle [cell])
    (rest : FillsRow columns record middle later cells) :
    FillsRow (column :: columns) record params later (cell :: cells) where
  fills := by
    obtain ⟨filled, -⟩ := List.forall₂_cons.mp first.fills
    exact .cons (filled.mono rest.kept) rest.fills
  kept := first.kept.trans rest.kept
  names := by
    rw [rest.names, first.names, List.append_assoc, ← List.filterMap_append]
    rfl
  values := by
    rw [rest.values, first.values, List.append_assoc]
    unfold boundValues
    rw [← List.filterMap_append]
    rfl

/-- A batch without rows. -/
theorem FillsRows.nil (columns : List Column) (params : ParamSet) :
    FillsRows columns [] params params [] :=
  ⟨.nil, List.prefix_refl _, by simp, by simp⟩

/-- Rows are written one after another. -/
theorem FillsRows.cons (first : FillsRow columns record params middle cells)
    (rest : FillsRows columns records middle later rows) :
    FillsRows columns (record :: records) params later (cells :: rows) where
  fills := by
    have filled : List.Forall₂ (Fills later record) columns cells :=
      first.fills.imp fun _ _ fills => fills.mono rest.kept
    exact .cons filled rest.fills
  kept := first.kept.trans rest.kept
  names := by
    rw [rest.names, first.names, List.flatten_cons, List.filterMap_append, List.append_assoc]
  values := by
    rw [rest.values, first.values, List.flatMap_cons, List.append_assoc]

end

/-- Steps over a list succeed when the first does and the others do after it. -/
theorem Building.run_mapM_cons {α β : Type} {step : α → Building β} {first : α} {rest : List α}
    {params middle later : ParamSet} {result : β} {results : List β}
    (begun : (step first).run params = .ok (result, middle))
    (followed : (rest.mapM step).run middle = .ok (results, later)) :
    ((first :: rest).mapM step).run params = .ok (result :: results, later) := by
  rw [List.mapM_cons, run_bind_of_ok begun, run_bind_of_ok followed]
  rfl

namespace Command

/-- A captured row with the columns left out that are not written. -/
structure Captured (columns : List Column) (record : Record) (row : List (Column × Value)) :
    Prop where
  columns : row.map Prod.fst = columns
  known : ∀ cell ∈ row, record cell.1.property = some cell.2

/-- What is captured of all columns is captured of those that a test picks. -/
theorem captured_filter {columns : List Column} {record : Record} {row : List (Column × Value)}
    (complete : captured columns record = .ok row) (test : Column → Bool) :
    Captured (columns.filter test) record (row.filter fun cell => test cell.1) where
  columns := by
    rw [← columns_captured complete, List.filter_map]
    rfl
  known := fun cell member => value_captured complete cell (List.mem_of_mem_filter member)

variable {column : Column} {columns : List Column} {record : Record} {records : List Record}
  {row : List (Column × Value)} {rows : List (List (Column × Value))}

/-- A cell is always written. -/
theorem run_cell {value : Value} (known : record column.property = some value)
    (params : ParamSet) :
    ∃ written later, (cell column value).run params = .ok (written.fragment, later) ∧
      FillsRow [column] record params later [written] := by
  cases own : column.insertSql with
  | some sql =>
    refine ⟨.text sql, params, by simp only [cell, own]; rfl, ?_, List.prefix_refl _, ?_, ?_⟩
    · exact .cons (by simp only [Fills, own]) .nil
    · simp [Cell.param?]
    · simp [boundValues, own]
  | none =>
    refine ⟨.param (params.add column.property value).1, (params.add column.property value).2,
      by simp only [cell, own]; rfl, ?_, List.prefix_append _ _, ?_, ?_⟩
    · refine .cons ?_ .nil
      simp only [Fills, own]
      exact ⟨_, value, rfl, known, params.get?_add column.property value⟩
    · exact List.map_append
    · simp [boundValues, own, known]

/-- Cells are always written, one after another. -/
theorem run_cells {row : List (Column × Value)}
    (known : ∀ cell ∈ row, record cell.1.property = some cell.2) (params : ParamSet) :
    ∃ cells later,
      (row.mapM fun (column, value) => cell column value).run params =
        .ok (cells.map Cell.fragment, later) ∧
      FillsRow (row.map Prod.fst) record params later cells := by
  induction row generalizing params with
  | nil => exact ⟨[], params, rfl, .nil record params⟩
  | cons first rest inductionHypothesis =>
    obtain ⟨written, middle, begun, filled⟩ := run_cell (known first (.head _)) params
    obtain ⟨cells, later, followed, others⟩ :=
      inductionHypothesis (fun other member => known other (.tail _ member)) middle
    exact ⟨written :: cells, later, Building.run_mapM_cons begun followed, filled.cons others⟩

/-- A row is always written. -/
theorem run_valueRow (captured : Captured columns record row) (params : ParamSet) :
    ∃ cells later, (valueRow row).run params = .ok (Fragment.row cells, later) ∧
      FillsRow columns record params later cells := by
  obtain ⟨cells, later, written, filled⟩ := run_cells captured.known params
  rw [captured.columns] at filled
  refine ⟨cells, later, ?_, filled⟩
  rw [valueRow, Building.run_bind_of_ok written]
  rfl

/-- Rows are always written, one after another. -/
theorem run_valueRows (each : List.Forall₂ (Captured columns) records rows) (params : ParamSet) :
    ∃ written later, (rows.mapM valueRow).run params = .ok (written.map Fragment.row, later) ∧
      FillsRows columns records params later written := by
  induction each generalizing params with
  | nil => exact ⟨[], params, rfl, .nil columns params⟩
  | cons captured _ inductionHypothesis =>
    obtain ⟨cells, middle, begun, filled⟩ := run_valueRow captured params
    obtain ⟨written, later, followed, others⟩ := inductionHypothesis middle
    exact ⟨cells :: written, later, Building.run_mapM_cons begun followed,
      FillsRows.cons filled others⟩

end Command
end Sqlwright
