import Sqlwright.Proofs.ParamSet.Binding

/-!
# Histories of a parameter set

A parameter set is changed in two ways: a value is added, or the newest bindings are dropped. It
keeps its bindings twice, as a list in the order in which they were made and as an index of the
places of their names, and each change has to write both. An addition appends to the list and
puts the new name into the index. A truncation cuts the list and takes the names that are cut off
out of the index, one after another.

The two structures taken by themselves need not agree. Run through the same history they stay
those of a parameter set, where they agree by construction. So after every history the names are
distinct, the index finds what a search of the list finds, and an addition touches nothing that
was bound before. Truncating undoes whatever has been added since, names included.
-/

namespace Sqlwright

namespace ParamSet

/-- A change to a parameter set. -/
inductive Change where
  /-- A value is added under a wished-for name. -/
  | add (base : String) (value : Value)
  /-- Only the oldest bindings are kept. -/
  | truncate (count : Nat)

/-- A set after one change. -/
def changed (params : ParamSet) : Change → ParamSet
  | .add base value => (params.add base value).2
  | .truncate count => params.truncate count

/-- A set after a history of changes. -/
def after (params : ParamSet) (history : List Change) : ParamSet := history.foldl changed params

/-- The names that values get when they are added one after another. -/
def chosenNames (params : ParamSet) : List (String × Value) → List String
  | [] => []
  | (base, value) :: rest =>
    (params.add base value).1 :: (params.add base value).2.chosenNames rest

/-- A list of entries and an index, whether they agree or not. -/
structure Layout where
  entries : List (String × Value)
  index : Std.ExtTreeMap String Nat

/-- The two structures of a parameter set. -/
def layout (params : ParamSet) : Layout := ⟨params.entries, params.index⟩

namespace Layout

/-- Nothing is bound. -/
def empty : Layout := ⟨[], ∅⟩

/-- The wished-for name, or that name with its first suffix that the index does not know. Only the
index is asked. -/
def freeName (layout : Layout) (base : String) : String :=
  if layout.index.contains (wished base) then
    suffixed (wished base)
      (((List.range' 1 (layout.entries.length + 1)).find? fun number =>
        !layout.index.contains (suffixed (wished base) number)).getD layout.entries.length)
  else wished base

/-- The name goes into the index with the place at the end of the list, and the entry goes
there. -/
def add (layout : Layout) (base : String) (value : Value) : Layout where
  entries := layout.entries ++ [(layout.freeName base, value)]
  index := layout.index.insert (layout.freeName base) layout.entries.length

/-- An index without the names of some entries. -/
def erased (index : Std.ExtTreeMap String Nat) (dropped : List (String × Value)) :
    Std.ExtTreeMap String Nat :=
  dropped.foldl (fun index entry => index.erase entry.1) index

/-- The entries behind the first ones are cut off, and their names leave the index. -/
def truncate (layout : Layout) (count : Nat) : Layout where
  entries := layout.entries.take count
  index := erased layout.index (layout.entries.drop count)

/-- Both structures after one change. -/
def changed (layout : Layout) : Change → Layout
  | .add base value => layout.add base value
  | .truncate count => layout.truncate count

/-- An index finds the names that are left as before, and those taken out no more. -/
theorem getElem?_erased (index : Std.ExtTreeMap String Nat) (dropped : List (String × Value))
    (name : String) :
    (erased index dropped)[name]? = if name ∈ dropped.map Prod.fst then none else index[name]? := by
  induction dropped generalizing index with
  | nil => simp [erased]
  | cons entry rest inductionHypothesis =>
    have step : erased index (entry :: rest) = erased (index.erase entry.1) rest := rfl
    rw [step, inductionHypothesis, Std.ExtTreeMap.getElem?_erase]
    by_cases later : name ∈ rest.map Prod.fst
    · simp [later]
    · by_cases here : entry.1 = name
      · simp [here]
      · have other : name ≠ entry.1 := fun same => here same.symm
        simp [later, here, other]

end Layout

/-- Searching the index alone finds the name that the set would choose. -/
theorem freeName_layout (params : ParamSet) (base : String) :
    params.layout.freeName base = params.freeName base := by
  unfold Layout.freeName freeName
  by_cases bound : params.contains (wished base) = true
  · have indexed : params.layout.index.contains (wished base) = true := bound
    rw [if_pos indexed, if_pos bound]
    congr 1
    exact (Option.get_eq_getD _).symm
  · have unindexed : ¬ params.layout.index.contains (wished base) = true := bound
    rw [if_neg unindexed, if_neg bound]

theorem layout_add (params : ParamSet) (base : String) (value : Value) :
    (params.add base value).2.layout = params.layout.add base value := by
  rw [Layout.add, freeName_layout]
  rfl

/-- In a list without repetitions a member stands before a cut, at its place, exactly if it does
not stand behind the cut. -/
theorem getElem?_take_of_nodup {list : List String} (distinct : list.Nodup) (count place : Nat)
    (name : String) :
    (list.take count)[place]? = some name ↔ name ∉ list.drop count ∧ list[place]? = some name := by
  have parted : (list.take count ++ list.drop count).Nodup := by rwa [List.take_append_drop]
  by_cases inside : place < count
  · rw [List.getElem?_take_of_lt inside]
    constructor
    · intro found
      refine ⟨fun behind => ?_, found⟩
      have before : name ∈ list.take count := by
        refine List.mem_of_getElem? (i := place) ?_
        rwa [List.getElem?_take_of_lt inside]
      exact (List.nodup_append.mp parted).2.2 name before name behind rfl
    · rintro ⟨_, found⟩
      exact found
  · have beyond : count ≤ place := Nat.le_of_not_lt inside
    have absent : (list.take count)[place]? = none :=
      List.getElem?_eq_none (Nat.le_trans (List.length_take_le count list) beyond)
    rw [absent]
    constructor
    · intro impossible
      cases impossible
    · rintro ⟨standing, found⟩
      refine absurd (List.mem_iff_getElem?.mpr ⟨place - count, ?_⟩) standing
      rw [List.getElem?_drop, Nat.add_sub_cancel' beyond]
      exact found

/-- Taking the names of the dropped entries out of the index leaves the places below the cut, as
no name is bound twice. -/
theorem layout_truncate (params : ParamSet) (count : Nat) :
    (params.truncate count).layout = params.layout.truncate count := by
  have sameIndex : (params.truncate count).index =
      Layout.erased params.index (params.entries.drop count) := by
    refine Std.ExtTreeMap.ext_getElem? fun name => Option.ext fun place => ?_
    have indexedBefore := params.indexed name place
    rw [← List.getElem?_map, ← names] at indexedBefore
    rw [indexed, entries_truncate, Layout.getElem?_erased, ← List.getElem?_map, List.map_take,
      List.map_drop, ← names, getElem?_take_of_nodup params.nodup_names]
    by_cases dropped : name ∈ params.names.drop count
    · simp [dropped]
    · simp [dropped, indexedBefore]
  rw [layout, sameIndex]
  rfl

/-- After every history the two structures are those of a parameter set. -/
theorem layout_after (params : ParamSet) (history : List Change) :
    (params.after history).layout = history.foldl Layout.changed params.layout := by
  induction history generalizing params with
  | nil => rfl
  | cons change rest inductionHypothesis =>
    have step : (params.changed change).layout = params.layout.changed change := by
      cases change with
      | add base value => exact layout_add params base value
      | truncate count => exact layout_truncate params count
    have run := inductionHypothesis (params.changed change)
    rw [step] at run
    exact run

/-- Searching the entries for a name that is bound once finds its value. -/
theorem get?_eq_lookup (params : ParamSet) (name : String) :
    params.get? name = params.entries.lookup name := by
  refine Option.ext fun value => ?_
  rw [get?_eq_some_iff, List.lookup_eq_some_iff]
  constructor
  · intro bound
    obtain ⟨before, behind, split⟩ := List.append_of_mem bound
    refine ⟨before, behind, split, fun entry earlier => ?_⟩
    have distinct := params.nodup_names
    rw [names, split, List.map_append, List.map_cons, List.nodup_append] at distinct
    have apart := distinct.2.2 entry.1 (List.mem_map_of_mem earlier) name List.mem_cons_self
    simpa [bne_iff_ne] using apart.symm
  · rintro ⟨before, behind, split, _⟩
    rw [split]
    exact List.mem_append_right _ List.mem_cons_self

/-- The entries and the index of a set tell the same. -/
structure Consistent (params : ParamSet) : Prop where
  /-- No name is bound twice. -/
  distinct : params.names.Nodup
  /-- The index holds the bound names, each with its place, and nothing else. -/
  placed : ∀ (name : String) (place : Nat),
    params.index[name]? = some place ↔ params.names[place]? = some name
  /-- Asking for a name is searching the entries for it. -/
  contains_eq : ∀ name, params.contains name = decide (name ∈ params.names)
  /-- So is asking for its value. -/
  get?_eq : ∀ name, params.get? name = params.entries.lookup name

theorem consistent (params : ParamSet) : params.Consistent where
  distinct := params.nodup_names
  placed name place := by rw [params.indexed, names, List.getElem?_map]
  contains_eq name := by rw [Bool.eq_iff_iff, contains_iff, decide_eq_true_iff]
  get?_eq := params.get?_eq_lookup

/-- A value is added to a set, and nothing else happens to it. -/
structure Gains (params : ParamSet) (name : String) (value : Value) (later : ParamSet) : Prop where
  /-- The name is a new one. -/
  fresh : name ∉ params.names
  /-- There is one more entry, behind all others. -/
  appended : later.entries = params.entries ++ [(name, value)]
  /-- The name has the value. -/
  found : later.get? name = some value
  /-- No other name is looked up with another result. -/
  kept : ∀ other, other ≠ name → later.get? other = params.get? other ∧
    later.contains other = params.contains other ∧ later.index[other]? = params.index[other]?

theorem gains_add (params : ParamSet) (base : String) (value : Value) :
    params.Gains (params.add base value).1 value (params.add base value).2 where
  fresh bound := by
    have unbound := params.contains_freeName base
    have present := (params.contains_iff (params.freeName base)).mpr bound
    rw [present] at unbound
    cases unbound
  appended := rfl
  found := params.get?_add base value
  kept other different := by
    have sameIndex : (params.add base value).2.index[other]? = params.index[other]? := by
      have inserted : (params.add base value).2.index =
          params.index.insert (params.freeName base) params.size := rfl
      have apart : ¬ params.freeName base = other := fun same => different same.symm
      rw [inserted, Std.ExtTreeMap.getElem?_insert]
      simp [apart]
    refine ⟨?_, ?_, sameIndex⟩
    · rw [get?_eq_lookup, get?_eq_lookup, entries_add, List.lookup_append]
      have unnamed : (other == params.freeName base) = false := beq_eq_false_iff_ne.mpr different
      simp [List.lookup_cons, unnamed]
    · rw [contains, contains, Std.ExtTreeMap.contains_eq_isSome_getElem?, sameIndex,
        Std.ExtTreeMap.contains_eq_isSome_getElem?]

/-- Changes that do not reach below a size leave the entries up to there alone. -/
theorem kept_after {params : ParamSet} {kept : List (String × Value)} (history : List Change)
    (above : ∀ count, .truncate count ∈ history → kept.length ≤ count)
    (present : kept <+: params.entries) : kept <+: (params.after history).entries := by
  induction history generalizing params with
  | nil => exact present
  | cons change rest inductionHypothesis =>
    refine inductionHypothesis (fun count later => above count (List.mem_cons_of_mem _ later)) ?_
    cases change with
    | add base value => exact present.trans (List.prefix_append _ _)
    | truncate count =>
      have room := above count List.mem_cons_self
      rw [changed, entries_truncate, List.prefix_take_iff]
      exact ⟨present, room⟩

/-- Truncating undoes all changes that have not reached below the size. Then values get the names
that they would have got before these changes. -/
theorem truncate_after (params : ParamSet) (history : List Change)
    (above : ∀ count, .truncate count ∈ history → params.size ≤ count) :
    (params.after history).truncate params.size = params :=
  truncate_eq_of_prefix (kept_after history above (List.prefix_refl _))

/-- After every history of additions and truncations the list of entries and the index, kept up
each by itself, are those of a set in which they tell the same. Another addition binds its value to
a new name and changes nothing else. However many values are added to a set, truncating to the
former size gives the same set back, and later additions choose their names as if these had never
been made. -/
theorem consistent_after (history : List Change) :
    (empty.after history).layout = history.foldl Layout.changed Layout.empty ∧
      (empty.after history).Consistent ∧
      (∀ base value, (empty.after history).Gains
        ((empty.after history).add base value).1 value
        ((empty.after history).add base value).2) ∧
      ∀ (params : ParamSet) (changes : List Change),
        (∀ count, .truncate count ∈ changes → params.size ≤ count) →
        (params.after changes).truncate params.size = params ∧
        ∀ wishes, ((params.after changes).truncate params.size).chosenNames wishes =
          params.chosenNames wishes := by
  refine ⟨layout_after empty history, consistent _, gains_add _, fun params changes above => ?_⟩
  have undone := truncate_after params changes above
  exact ⟨undone, fun wishes => by rw [undone]⟩

/-- A name is freed, taken again, taken with a suffix by two more additions, and freed again: what
these have chosen is chosen anew. -/
theorem consistent_after_freed_names :
    let history : List Change :=
      [.add "id" (.int 1), .add "id" (.int 2), .truncate 1, .add "id" (.int 3)]
    let changes : List Change := [.add "id" (.int 4), .add "id_1" .null, .truncate 2, .add "" .null]
    ((empty.after history).after changes).truncate (empty.after history).size =
        empty.after history ∧
      (empty.after history).names = ["id", "id_1"] ∧
      ((empty.after history).after changes).names = ["id", "id_1", "p"] ∧
      (empty.after history).chosenNames [("id", .null), ("id_1", .null)] = ["id_2", "id_1_1"] := by
  intro history changes
  have size : (empty.after history).size = 2 := by decide +kernel
  have above : ∀ count, Change.truncate count ∈ changes → (empty.after history).size ≤ count := by
    intro count among
    rw [size]
    simp only [changes, List.mem_cons, List.not_mem_nil, or_false, reduceCtorEq, false_or,
      Change.truncate.injEq] at among
    omega
  have undone := (consistent_after history).2.2.2 (empty.after history) changes above
  exact ⟨undone.1, by decide +kernel, by decide +kernel, by decide +kernel⟩

end ParamSet
end Sqlwright
