import Sqlwright.ParamSet

/-!
# Binding more names

A later set extends an earlier one when every entry of the earlier set is kept in its
place and the names bound after them are those of a given list, each once and in the
order of first appearance. The list may repeat a name, as a text may refer to one
parameter several times; what it may not do is to refer to a name bound before.

The relation composes by appending the lists, because the names of a set are distinct.
Truncating to the size of the earlier set undoes it.
-/

namespace Sqlwright

namespace ParamSet

/-- The later set keeps the earlier one and binds the listed names after it, each once,
in order of first appearance. -/
structure Binds (params later : ParamSet) (names : List String) : Prop where
  kept : params.entries <+: later.entries
  added : later.names = params.names ++ names.eraseDups

namespace Binds

variable {params middle later : ParamSet} {names others : List String}

/-- Nothing is bound by doing nothing. -/
theorem refl (params : ParamSet) : params.Binds params [] := ⟨List.prefix_refl _, by simp⟩

/-- Without a new name nothing has changed: an entry more would be a name more. -/
theorem eq_of_nil (bound : params.Binds later []) : later = params := by
  apply ext_entries
  have sameNames : later.names = params.names := by simpa using bound.added
  have sameLength : params.entries.length = later.entries.length := by
    have lengths := congrArg List.length sameNames
    simpa only [ParamSet.names, List.length_map] using lengths.symm
  exact (bound.kept.eq_of_length sameLength).symm

/-- Only the distinct names matter. -/
theorem congr (bound : params.Binds later names) (same : names.eraseDups = others.eraseDups) :
    params.Binds later others :=
  ⟨bound.kept, same ▸ bound.added⟩

/-- A listed name is bound afterwards. -/
theorem mem_later (bound : params.Binds later names) {name : String} (listed : name ∈ names) :
    name ∈ later.names := by
  rw [bound.added]
  exact List.mem_append_right _ (List.mem_eraseDups.mpr listed)

/-- A listed name was not bound before, for no name is bound twice. -/
theorem not_mem_earlier (bound : params.Binds later names) {name : String}
    (listed : name ∈ names) : name ∉ params.names := by
  intro earlier
  have distinct : (params.names ++ names.eraseDups).Nodup := bound.added ▸ later.nodup_names
  exact (List.nodup_append.mp distinct).2.2 name earlier name (List.mem_eraseDups.mpr listed) rfl

/-- A name bound since is a listed one. -/
theorem listed_of_new (bound : params.Binds later names) {name : String}
    (present : name ∈ later.names) (new : name ∉ params.names) : name ∈ names := by
  rw [bound.added, List.mem_append] at present
  exact List.mem_eraseDups.mp (present.resolve_left new)

/-- Lists of names are appended. The second list repeats none of the first, since those
are bound when its own names are still free. -/
theorem trans (first : params.Binds middle names) (second : middle.Binds later others) :
    params.Binds later (names ++ others) := by
  have apart : others.removeAll names = others := by
    rw [List.removeAll, List.filter_eq_self]
    intro name listed
    have unlisted : name ∉ names := fun earlier =>
      second.not_mem_earlier listed (first.mem_later earlier)
    simpa using unlisted
  refine ⟨first.kept.trans second.kept, ?_⟩
  rw [second.added, first.added, List.eraseDups_append, apart, List.append_assoc]

/-- Truncating to the earlier size gives the earlier set back. -/
theorem truncate (bound : params.Binds later names) : later.truncate params.size = params :=
  truncate_eq_of_prefix bound.kept

end Binds

/-- Adding a value binds the name that it returns. -/
theorem binds_add (params : ParamSet) (base : String) (value : Value) :
    params.Binds (params.add base value).2 [(params.add base value).1] := by
  refine ⟨List.prefix_append _ _, ?_⟩
  rw [ParamSet.names, entries_add, List.map_append, List.eraseDups_cons]
  rfl

/-- Of two truncations only the shorter one matters. -/
theorem truncate_truncate (params : ParamSet) {count fewer : Nat} (less : fewer ≤ count) :
    (params.truncate count).truncate fewer = params.truncate fewer := by
  apply ext_entries
  rw [entries_truncate, entries_truncate, entries_truncate, List.take_take, Nat.min_eq_left less]

/-- What a set binds, every set that keeps its entries binds too. -/
theorem get?_of_prefix {params later : ParamSet} (kept : params.entries <+: later.entries)
    {name : String} {value : Value} (bound : params.get? name = some value) :
    later.get? name = some value := by
  rw [get?_eq_some_iff] at bound ⊢
  exact kept.subset bound

/-- The name returned by an addition has the value just added. -/
theorem get?_add (params : ParamSet) (base : String) (value : Value) :
    (params.add base value).2.get? (params.add base value).1 = some value := by
  rw [get?_eq_some_iff, entries_add]
  exact List.mem_append_right _ (List.mem_singleton.mpr rfl)

end ParamSet
end Sqlwright
