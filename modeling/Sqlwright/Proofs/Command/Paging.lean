import Sqlwright.Proofs.Command.Effect
import Sqlwright.Proofs.Command.Sorting
import Sqlwright.Proofs.Sql.Query

/-!
# Pages of a select

The same page is asked for in every dialect: a number of rows is skipped, and of those that follow
a number is kept. What is written for it differs. Where rows cannot be skipped without a limit,
one is written that keeps all rows of any table. Where no page can be empty, a filter that never
holds takes the place of the paging clause.

The clauses are read back by the rules of their dialect. What they return is what was asked for.
-/

namespace Sqlwright

open Sql (Chunk Database Fragment Page Row Statement)
open Sql.Reader (ReadsPage)

namespace Select

open Command Sql.Fragment

/-- The page that is asked for. -/
def page (query : Select) : Page where
  skipped := (query.offset.map UInt64.toNat).getD 0
  kept := query.limit.map UInt64.toNat

/-- The page that a paging clause is read as. MySQL skips rows behind the largest limit. -/
def clausePage (dialect : Dialect) (limit offset : Option UInt64) : Page where
  skipped := (offset.map UInt64.toNat).getD 0
  kept :=
    if dialect = .mysql ∧ limit = none ∧ offset ≠ none then some (UInt64.size - 1)
    else limit.map UInt64.toNat

/-- What SQL Server needs in front of a paging clause if there are no sort terms. -/
def standInOrder (sorted : Bool) : Fragment :=
  if sorted then [] else keywords [.ORDER, .BY] ++ raw "(SELECT NULL)"

/-- Without sort terms, SQL Server sorts by nothing if there is a page to be asked for. -/
theorem pagingClause_stand_in {limit offset : Option UInt64}
    (asked : limit ≠ none ∨ offset ≠ none) : pagingClause .sqlserver false limit offset =
      standInOrder false ++ pagingClause .sqlserver true limit offset := by
  cases limit <;> cases offset <;> first | rfl | simp at asked

/-- Otherwise the paging clause does not depend on there being sort terms. -/
theorem pagingClause_unsorted {dialect : Dialect} {limit offset : Option UInt64}
    (other : ¬ (dialect = .sqlserver ∧ (limit ≠ none ∨ offset ≠ none))) :
    pagingClause dialect false limit offset = pagingClause dialect true limit offset := by
  cases dialect <;> cases limit <;> cases offset <;> first | rfl | simp at other

/-- The limit that MySQL skips rows behind is the largest that a query can ask for. -/
theorem limit?_largest (dialect : Dialect) :
    Sql.Reader.limit? dialect (.chunk (.raw "18446744073709551615")) =
      some (some (UInt64.size - 1)) := by
  have spelled : Text.decimal (UInt64.size - 1) = "18446744073709551615" := by decide +kernel
  exact spelled ▸ Sql.Reader.limit?_decimal dialect (UInt64.size - 1)

/-- A limit that is not zero keeps some rows. -/
theorem pos_of_fetches {dialect : Dialect} {limit : Option UInt64} {count : UInt64}
    (fetches : dialect = .sqlserver → limit ≠ some 0) (server : dialect = .sqlserver)
    (same : limit = some count) : 0 < count.toNat := by
  have other : count ≠ 0 := fun zero => fetches server (zero ▸ same)
  exact Nat.pos_of_ne_zero fun zero => other (UInt64.toNat_inj.mp zero)

/-- Where rows are sorted, the paging clause is read as its page, unless it fetches no row. -/
theorem page?_pagingClause {dialect : Dialect} {limit offset : Option UInt64} {sorted : Bool}
    (sorts : dialect = .sqlserver → limit ≠ none ∨ offset ≠ none → sorted = true)
    (fetches : dialect = .sqlserver → limit ≠ some 0) :
    Sql.Reader.page? dialect sorted ((pagingClause dialect true limit offset).map .chunk) =
      some (clausePage dialect limit offset) := by
  have someRows (count : UInt64) (server : dialect = .sqlserver) (same : limit = some count) :
      count.toNat ≠ 0 := Nat.ne_of_gt (pos_of_fetches fetches server same)
  -- Each dialect has its own clause for each of the four ways to ask for a page.
  cases dialect <;> cases limit <;> cases offset <;>
    simp_all [pagingClause, writtenLimit, rowCount, keyword, keywords, raw, clausePage,
      Sql.Reader.page?, Sql.Reader.count?_decimal, Sql.Reader.limit?_decimal,
      Sql.Reader.limit?_sqlite, limit?_largest]

/-- A paging clause has no parentheses, and begins as one. -/
theorem begins_pagingClause (dialect : Dialect) (limit offset : Option UInt64) :
    (∀ chunk ∈ pagingClause dialect true limit offset, Sql.Reader.isParen chunk = false) ∧
      ∀ chunk ∈ (pagingClause dialect true limit offset).head?,
        Sql.Reader.beginsPage (.chunk chunk) = true := by
  cases dialect <;> cases limit <;> cases offset <;>
    simp [pagingClause, writtenLimit, rowCount, keyword, keywords, raw, Sql.Reader.isParen,
      Sql.Reader.beginsPage, Sql.Part.isKeyword, Sql.Part.isToken]

/-- Sort terms are not written as nothing. -/
theorem sortTerms_ne_nil {table : Table} {order : List SortTerm} {terms : List Fragment}
    (each : List.Forall₂ (fun term fragment => sortTerm table term = .ok fragment) order terms)
    (nonempty : terms ≠ []) : commaList terms ≠ [] := by
  cases each with
  | nil => exact absurd rfl nonempty
  | cons first others =>
    obtain ⟨column, _, rfl⟩ := sortTerm_ok first
    cases others <;> simp [commaList, joined, ident]

variable {config : Config} {table : Table} {query : Select} {statement : Statement}

/-- An empty page that can be asked for is no empty fetch. -/
theorem fetches_of_not_emptyPage {dialect : Dialect} (asked : query.emptyPage dialect = false) :
    dialect = .sqlserver → query.limit ≠ some 0 := by
  rintro rfl none
  simp [emptyPage, none] at asked

/-- The page that the clauses behind the condition are read as. -/
def readPage (dialect : Dialect) (query : Select) : Page :=
  if query.emptyPage dialect then {} else clausePage dialect query.limit query.offset

/-- The clauses behind the condition are read as their page. -/
theorem readsPage_of_select (dialect : Dialect) {sorting : Fragment}
    (sorted : orderClause table query.order = .ok sorting) :
    ReadsPage dialect (sorting ++ query.writtenPaging dialect) (query.readPage dialect) := by
  obtain ⟨plain, begins⟩ := begins_pagingClause dialect query.limit query.offset
  have plainNil : ∀ chunk ∈ ([] : Fragment), Sql.Reader.isParen chunk = false := nofun
  have beginsNil : ∀ chunk ∈ ([] : Fragment).head?,
      Sql.Reader.beginsPage (.chunk chunk) = true := nofun
  by_cases asked : query.order = []
  · have nothing : sorting = [] := by
      rw [asked] at sorted
      cases sorted
      rfl
    rw [nothing, List.nil_append, writtenPaging, readPage]
    cases empty : query.emptyPage dialect with
    | true => exact Sql.Reader.readsPage_unsorted plainNil beginsNil rfl
    | false =>
      have fetches := fetches_of_not_emptyPage empty
      have noOrder : (!query.order.isEmpty) = false := by simp [asked]
      rw [if_neg Bool.false_ne_true, if_neg Bool.false_ne_true, noOrder]
      by_cases needed : dialect = .sqlserver ∧ (query.limit ≠ none ∨ query.offset ≠ none)
      · obtain ⟨rfl, some⟩ := needed
        rw [pagingClause_stand_in some]
        refine Sql.Reader.readsPage_sorted plain begins (List.cons_ne_nil _ _) ?_
          (page?_pagingClause (fun _ _ => rfl) fetches)
        intro chunk member
        rw [List.mem_singleton.mp member]
        exact ⟨rfl, rfl⟩
      · rw [pagingClause_unsorted needed]
        refine Sql.Reader.readsPage_unsorted plain begins (page?_pagingClause ?_ fetches)
        intro server some
        exact absurd ⟨server, some⟩ needed
  · obtain ⟨terms, rfl, nonempty, each⟩ := orderClause_ok asked sorted
    have someTerms := sortTerms_ne_nil each nonempty
    have inside : ∀ chunk ∈ commaList terms, Sql.Reader.isParen chunk = false ∧
        Sql.Reader.beginsPage (.chunk chunk) = false := by
      intro chunk member
      rcases mem_sortTerms each member with rfl | ⟨name, rfl⟩ | rfl | rfl <;> exact ⟨rfl, rfl⟩
    rw [writtenPaging, readPage]
    cases empty : query.emptyPage dialect with
    | true => exact Sql.Reader.readsPage_sorted plainNil beginsNil someTerms inside rfl
    | false =>
      have sortedHere : (!query.order.isEmpty) = true := by simpa using asked
      rw [if_neg Bool.false_ne_true, if_neg Bool.false_ne_true, sortedHere]
      exact Sql.Reader.readsPage_sorted plain begins someTerms inside
        (page?_pagingClause (fun _ _ => rfl) (fetches_of_not_emptyPage empty))

/-- A built select is read as a query for the rows of its table. -/
theorem query_of_select (built : query.build config table = .ok statement) :
    ∃ read, statement.query? = some read ∧ read.schema = (config.place table).schema ∧
      read.table = table.name ∧ read.page = query.readPage config.dialect ∧
      Restricts (config.place table) read.params (query.writtenFilters config.dialect)
        read.condition := by
  obtain ⟨filter, sorting, sameDialect, filtered, sorted, _, whole⟩ := written_of_select built
  obtain ⟨condition, reads, restricts⟩ := restricts_of_whereClause filtered
  have paged : ReadsPage statement.dialect (sorting ++ query.writtenPaging config.dialect)
      (query.readPage config.dialect) := sameDialect ▸ readsPage_of_select config.dialect sorted
  have outputs : ∀ chunk ∈ commaList (table.selectable.map (outputColumn config.aliasColumns)),
      Sql.Reader.isOutput (.chunk chunk) = true := by
    intro chunk member
    rcases mem_selectList member with rfl | ⟨name, rfl⟩ | rfl <;> rfl
  have absent : ∀ word ∈ Sql.Reader.endsCondition, .token (.keyword word) ∉ filter := by
    intro word known
    have other : ∀ word ∈ Sql.Reader.endsCondition, word ∉ .WHERE :: predicateKeywords := by
      decide
    exact keyword_not_mem_whereClause filtered (other word known)
  rw [List.append_assoc] at whole
  rw [← sameDialect] at reads
  exact ⟨_, Sql.Reader.query?_of_select whole outputs reads absent paged, rfl, rfl, rfl,
    restricts⟩

/-- No table has more rows than the largest limit keeps. -/
theorem cut_clausePage (dialect : Dialect) {rows : List Row} (bounded : rows.length < UInt64.size) :
    (clausePage dialect query.limit query.offset).cut rows = query.page.cut rows := by
  by_cases largest : dialect = .mysql ∧ query.limit = none ∧ query.offset ≠ none
  · have unlimited : query.limit = none := largest.2.1
    have all : rows.length ≤ UInt64.size - 1 := Nat.le_sub_one_of_lt bounded
    rw [Page.cut_of_length_le, Page.cut_of_length_le]
    · rfl
    · simp [page, unlimited]
    · simpa [clausePage, largest] using all
  · rw [clausePage, if_neg largest]
    rfl

/-- Whether every filter is true of a row. -/
def passes (database : Database) (now : Nat) (table : Table) (filters : List Expr) (row : Row) :
    Bool :=
  filters.all fun filter => filter.truth (database.engine now row) table row = .yes

/-- A written condition is true of the rows that pass all filters. -/
theorem restriction_eq_passes {params : ParamSet} {filters : List Expr}
    {condition : Option Sql.Formula} (restricts : Restricts table params filters condition)
    (database : Database) (now : Nat) (row : Row) :
    decide ((database.reading now params row).restriction condition = .yes) =
      passes database now table filters row := by
  have holds := restricts.holds _ (database.knows_reading now params row)
  rw [Bool.eq_iff_iff, decide_eq_true_eq, holds, passes, List.all_eq_true]
  simp only [decide_eq_true_eq]
  rfl

/-- No row passes a filter that never holds. -/
theorem not_passes_const (database : Database) (now : Nat) (table : Table) (filters : List Expr)
    (row : Row) : passes database now table (filters ++ [.const (.bool false)]) row = false := by
  simp [passes, Expr.truth, Sql.Truth.ofBool]

/-- The clauses of a built select return the page that is asked for, of the rows that pass all
filters. -/
theorem returned_of_select (built : query.build config table = .ok statement) :
    ∃ read, statement.query? = some read ∧ read.schema = (config.place table).schema ∧
      read.table = table.name ∧
      ∀ (database : Database) (now : Nat) (rows : List Row), rows.length < UInt64.size →
        read.returned database now rows =
          query.page.cut (rows.filter (passes database now (config.place table) query.filters)) := by
  obtain ⟨read, found, placed, named, paged, restricts⟩ := query_of_select built
  refine ⟨read, found, placed, named, fun database now rows bounded => ?_⟩
  have passed := List.filter_congr fun row (_ : row ∈ rows) =>
    restriction_eq_passes restricts database now row
  rw [Sql.Query.returned, passed, paged, readPage, writtenFilters]
  cases empty : query.emptyPage config.dialect with
  | true =>
    have none : query.limit = some 0 := by
      simp only [emptyPage, Bool.and_eq_true] at empty
      exact eq_of_beq empty.2
    have nothing : query.page.kept = some 0 := by
      rw [page, none]
      rfl
    simp [Page.cut, nothing, not_passes_const]
  | false =>
    rw [if_neg Bool.false_ne_true, if_neg Bool.false_ne_true]
    exact cut_clausePage config.dialect (Nat.lt_of_le_of_lt (List.length_filter_le _ _) bounded)

/-- The paging clauses that a dialect may be given, by what they skip and fetch. -/
inductive PagingForm (dialect : Dialect) (sorted : Bool) : Fragment → Prop
  | unskipped (clause : Fragment) (noOffset : .token (.keyword .OFFSET) ∉ clause)
    (noFetch : .token (.keyword .FETCH) ∉ clause) : PagingForm dialect sorted clause
  | limited (other : dialect ≠ .sqlserver) (limit offset : String) :
    PagingForm dialect sorted
      (keyword .LIMIT ++ raw limit ++ .token (.keyword .OFFSET) :: raw offset)
  | unlimited (own : dialect = .postgresql) (offset : String) :
    PagingForm dialect sorted (.token (.keyword .OFFSET) :: raw offset)
  | skipped (own : dialect = .sqlserver) (offset : String) :
    PagingForm dialect sorted
      (standInOrder sorted ++ .token (.keyword .OFFSET) :: (raw offset ++ keyword .ROWS))
  | fetched (own : dialect = .sqlserver) (offset : String) (count : Nat) (some : 0 < count) :
    PagingForm dialect sorted
      (standInOrder sorted ++ .token (.keyword .OFFSET) :: (raw offset ++ keyword .ROWS ++
        .token (.keyword .FETCH) :: .token (.keyword .NEXT) :: .raw (Text.decimal count) ::
          keywords [.ROWS, .ONLY]))

/-- The paging clause of a select has such a form. -/
theorem pagingForm_writtenPaging (dialect : Dialect) (query : Select) :
    PagingForm dialect (!query.order.isEmpty) (query.writtenPaging dialect) := by
  unfold writtenPaging
  cases empty : query.emptyPage dialect with
  | true => exact .unskipped [] (List.not_mem_nil) (List.not_mem_nil)
  | false =>
    have fetches := fetches_of_not_emptyPage empty
    rw [if_neg Bool.false_ne_true]
    generalize query.limit = limit at fetches ⊢
    generalize query.offset = offset
    cases limit with
    | none =>
      cases offset with
      | none => exact .unskipped [] (List.not_mem_nil) (List.not_mem_nil)
      | some offset =>
        cases dialect with
        | sqlite => exact .limited (by decide) _ _
        | mysql => exact .limited (by decide) _ _
        | postgresql => exact .unlimited rfl _
        | sqlserver => cases query.order.isEmpty <;> exact .skipped rfl _
    | some limit =>
      cases dialect with
      | sqlserver =>
        have positive : 0 < limit.toNat := pos_of_fetches fetches rfl rfl
        cases query.order.isEmpty <;> exact .fetched rfl _ limit.toNat positive
      | _ =>
        cases offset with
        | none =>
          exact .unskipped _ (by simp [pagingClause, writtenLimit, rowCount, keyword, raw])
            (by simp [pagingClause, writtenLimit, rowCount, keyword, raw])
        | some offset => exact .limited (by decide) _ _

/-- A chunk that a fragment has in one place only divides it in one way. -/
theorem eq_of_once {chunk : Chunk} {first second before after : Fragment}
    (noEarlier : chunk ∉ first) (noLater : chunk ∉ second)
    (same : first ++ chunk :: second = before ++ chunk :: after) :
    before = first ∧ after = second := by
  obtain ⟨head, -, tail⟩ := (List.append_cons_inj_of_notMem noEarlier noLater).mp same
  exact ⟨head.symm, tail.symm⟩

section

variable {dialect : Dialect} {sorted : Bool} {start paging before after : Fragment}

/-- What stands before OFFSET in a select. -/
theorem before_offset (form : PagingForm dialect sorted paging)
    (absent : .token (.keyword .OFFSET) ∉ start)
    (same : start ++ paging = before ++ .token (.keyword .OFFSET) :: after) :
    (dialect ≠ .sqlserver ∧ ∃ limit, before = start ++ (keyword .LIMIT ++ raw limit)) ∨
      (dialect = .postgresql ∧ before = start) ∨
      (dialect = .sqlserver ∧ before = start ++ standInOrder sorted) := by
  have apart : .token (.keyword .OFFSET) ∉ start ++ standInOrder sorted := by
    cases sorted <;> simp [standInOrder, absent, keywords, raw]
  cases form with
  | unskipped clause noOffset noFetch =>
    have inside : .token (.keyword .OFFSET) ∈ start ++ paging := by
      rw [same]
      exact List.mem_append_right _ List.mem_cons_self
    rcases List.mem_append.mp inside with early | late
    · exact absurd early absent
    · exact absurd late noOffset
  | limited other limit offset =>
    rw [← List.append_assoc] at same
    have found := eq_of_once (by simp [absent, keyword, raw]) (by simp [raw]) same
    exact .inl ⟨other, limit, found.1⟩
  | unlimited own offset =>
    exact .inr (.inl ⟨own, (eq_of_once absent (by simp [raw]) same).1⟩)
  | skipped own offset =>
    rw [← List.append_assoc] at same
    exact .inr (.inr ⟨own, (eq_of_once apart (by simp [raw, keyword]) same).1⟩)
  | fetched own offset count some =>
    rw [← List.append_assoc] at same
    exact .inr (.inr ⟨own, (eq_of_once apart (by simp [raw, keyword, keywords]) same).1⟩)

/-- What stands behind FETCH in a select. -/
theorem after_fetch (form : PagingForm dialect sorted paging)
    (absent : .token (.keyword .FETCH) ∉ start)
    (same : start ++ paging = before ++ .token (.keyword .FETCH) :: after) :
    ∃ count, 0 < count ∧ after = .token (.keyword .NEXT) :: .raw (Text.decimal count) ::
      keywords [.ROWS, .ONLY] := by
  have inside : .token (.keyword .FETCH) ∈ start ++ paging := by
    rw [same]
    exact List.mem_append_right _ List.mem_cons_self
  have late : .token (.keyword .FETCH) ∈ paging :=
    (List.mem_append.mp inside).resolve_left absent
  cases form with
  | unskipped clause noOffset noFetch => exact absurd late noFetch
  | limited other limit offset => simp [keyword, raw] at late
  | unlimited own offset => simp [raw] at late
  | skipped own offset =>
    cases sorted <;> simp [standInOrder, keyword, keywords, raw] at late
  | fetched own offset count some =>
    refine ⟨count, some, ?_⟩
    have divided : start ++ (standInOrder sorted ++ .token (.keyword .OFFSET) ::
        (raw offset ++ keyword .ROWS ++ .token (.keyword .FETCH) :: .token (.keyword .NEXT) ::
          .raw (Text.decimal count) :: keywords [.ROWS, .ONLY])) =
        (start ++ standInOrder sorted ++ .token (.keyword .OFFSET) :: (raw offset ++
          keyword .ROWS)) ++ .token (.keyword .FETCH) :: (.token (.keyword .NEXT) ::
            .raw (Text.decimal count) :: keywords [.ROWS, .ONLY]) := by
      simp
    rw [divided] at same
    refine (eq_of_once ?_ (by simp [keywords]) same).2
    cases sorted <;> simp [standInOrder, absent, keyword, keywords, raw]

end

/-- Where the keywords of paging stand. -/
structure WellPaged (dialect : Dialect) (fragment : Fragment) : Prop where
  /-- SQL Server skips rows of what is sorted. -/
  sorts : dialect = .sqlserver → ∀ before after,
    fragment = before ++ .token (.keyword .OFFSET) :: after → keywords [.ORDER, .BY] <:+: before
  /-- No dialect fetches as few as no rows. -/
  fetches : ∀ before chunk after,
    fragment = before ++ .token (.keyword .FETCH) :: .token (.keyword .NEXT) :: chunk :: after →
      ∃ text count, chunk = .raw text ∧ Sql.numeral? text = some count ∧ 0 < count
  /-- SQLite and MySQL skip rows behind a limit. -/
  limits : dialect = .sqlite ∨ dialect = .mysql → ∀ before after,
    fragment = before ++ .token (.keyword .OFFSET) :: after →
      ∃ earlier count, before = earlier ++ [.token (.keyword .LIMIT), count]

/-- A sort clause holds ORDER BY, names, directions and commas. -/
theorem mem_orderClause {table : Table} {order : List SortTerm} {clause : Fragment}
    (written : orderClause table order = .ok clause) {word : Sql.Keyword}
    (member : .token (.keyword word) ∈ clause) : word ∈ [.ORDER, .BY, .ASC, .DESC] := by
  by_cases asked : order = []
  · rw [asked] at written
    cases written
    cases member
  · obtain ⟨terms, rfl, _, each⟩ := orderClause_ok asked written
    rcases List.mem_append.mp member with leading | inTerms
    · simp only [keywords, List.map_cons, List.map_nil, List.mem_cons, List.not_mem_nil,
        or_false] at leading
      rcases leading with same | same <;> cases same <;> decide
    · rcases mem_sortTerms each inTerms with same | ⟨name, same⟩ | same | same <;> cases same <;>
        decide

/-- The keywords of paging stand where their dialect wants them. -/
theorem wellPaged_of_select (built : query.build config table = .ok statement) :
    WellPaged config.dialect statement.fragment := by
  obtain ⟨filter, sorting, _, filtered, sorted, _, whole⟩ := written_of_select built
  have form := pagingForm_writtenPaging config.dialect query
  have apart : ∀ word ∈ [Sql.Keyword.OFFSET, .FETCH],
      word ∉ .WHERE :: predicateKeywords ∧ word ∉ [.ORDER, .BY, .ASC, .DESC] ∧
        word ∉ [.SELECT, .FROM, .AS] := by decide
  have absent : ∀ word ∈ [Sql.Keyword.OFFSET, .FETCH], .token (.keyword word) ∉
      keyword .SELECT ++ commaList (table.selectable.map (outputColumn config.aliasColumns)) ++
        keyword .FROM ++ tableName (config.place table) ++ filter ++ sorting := by
    intro word known member
    obtain ⟨unfiltered, unsorted, unlisted⟩ := apart word known
    simp only [List.mem_append] at member
    rcases member with ((((select | listed) | source) | named) | filtering) | ordering
    · cases List.mem_singleton.mp select
      exact unlisted (.head _)
    · rcases mem_selectList listed with same | ⟨_, same⟩ | same <;> cases same
      exact unlisted (.tail _ (.tail _ (.head _)))
    · cases List.mem_singleton.mp source
      exact unlisted (.tail _ (.head _))
    · cases List.mem_singleton.mp named
    · exact keyword_not_mem_whereClause filtered unfiltered filtering
    · exact unsorted (mem_orderClause sorted ordering)
  constructor
  · intro server before after same
    rw [whole] at same
    rcases before_offset form (absent _ (.head _)) same with ⟨other, _⟩ | ⟨other, _⟩ | ⟨_, rfl⟩
    · exact absurd server other
    · rw [server] at other
      cases other
    · by_cases asked : query.order = []
      · have stands : standInOrder (!query.order.isEmpty) =
            keywords [.ORDER, .BY] ++ raw "(SELECT NULL)" := by simp [standInOrder, asked]
        rw [stands]
        exact (List.prefix_append _ _).isInfix.trans (List.suffix_append _ _).isInfix
      · obtain ⟨terms, rfl, _, _⟩ := orderClause_ok asked sorted
        have inOrder : keywords [.ORDER, .BY] <:+: keywords [.ORDER, .BY] ++ commaList terms :=
          (List.prefix_append _ _).isInfix
        exact inOrder.trans ((List.suffix_append _ _).isInfix.trans
          (List.prefix_append _ _).isInfix)
  · intro before chunk after same
    rw [whole] at same
    obtain ⟨count, some, follows⟩ := after_fetch form (absent _ (.tail _ (.head _))) same
    obtain ⟨rfl, _⟩ := List.cons.inj (List.cons.inj follows).2
    exact ⟨_, count, rfl, Sql.numeral?_decimal count, some⟩
  · intro other before after same
    rw [whole] at same
    rcases before_offset form (absent _ (.head _)) same with ⟨_, limit, rfl⟩ | ⟨own, _⟩ | ⟨own, _⟩
    · exact ⟨_, .raw limit, rfl⟩
    · rw [own] at other
      rcases other with same | same <;> cases same
    · rw [own] at other
      rcases other with same | same <;> cases same

/-- A page is the same rows in every dialect. Whatever is filtered, sorted, limited and skipped, the
clauses of a built select are read as a query that returns, of the rows that pass all filters,
those that are left when as many as asked for are skipped and at most as many as asked for are
kept. The rows come in the order in which the select sorts them, or in any if it does not. There
are at most as many as the largest number that can be asked for.

The keywords of paging stand where their dialect wants them: SQL Server sorts what it skips rows of
and never fetches none, SQLite and MySQL skip rows behind a limit. -/
theorem pages_alike_in_every_dialect (built : query.build config table = .ok statement) :
    (∃ read, statement.query? = some read ∧ read.schema = (config.place table).schema ∧
      read.table = table.name ∧
      ∀ (database : Database) (now : Nat) (rows : List Row), rows.length < UInt64.size →
        read.returned database now rows =
          query.page.cut
            (rows.filter (passes database now (config.place table) query.filters))) ∧
      WellPaged config.dialect statement.fragment :=
  ⟨returned_of_select built, wellPaged_of_select built⟩

/-- The second page of two grown-ups each, in a dialect that pages only what is sorted. Of four
that pass the filter one is skipped and two are kept. -/
theorem second_page_without_order :
    let config : Config := { dialect := .sqlserver }
    let table : Table := { name := "people", schema := none, columns := [{ name := "age" }] }
    let query : Select := { filters := [.compare .gt (.field "age") (.const (.int 18))]
                            limit := some 2, offset := some 1 }
    let database : Database := {
      order := Value.compare?, order_swap := Value.compare?_swap
      fits := fun _ _ => false, holds := fun _ => .unknown, raw := fun _ _ _ => .null }
    let aged : Int64 → Row := fun age _ => .int age
    ∃ statement read, query.build config table = .ok statement ∧ statement.query? = some read ∧
      read.returned database 0 [aged 17, aged 20, aged 30, aged 40, aged 50] =
        [aged 30, aged 40] := by
  intro config table query database aged
  obtain ⟨statement, built⟩ : ∃ statement, query.build config table = .ok statement := ⟨_, rfl⟩
  obtain ⟨⟨read, found, _, _, returns⟩, _⟩ := pages_alike_in_every_dialect built
  have few : [aged 17, aged 20, aged 30, aged 40, aged 50].length < UInt64.size := by decide
  exact ⟨statement, read, built, found, returns database 0 _ few⟩

end Select

end Sqlwright
