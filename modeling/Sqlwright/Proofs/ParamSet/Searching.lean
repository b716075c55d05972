import Sqlwright.Proofs.ParamSet.History

/-!
# The search for a free name

When a wished-for name is bound already, the suffixes 1, 2, 3 and so on are tried, one after
another, until a candidate is free. Nothing in this search says where it ends. It ends because a
set binds only so many names and different suffixes make different candidates: among one candidate
more than there are bindings one is free, also where bound names look like candidates themselves.

The search is followed here inspection by inspection, with no bound on their number. It passes
bound candidates only, so it stops at the smallest free suffix, and it gets there in at most
`size + 1` inspections. A search that is given so many candidates, or more of them, stops at the
same one. It never runs out, and what it would then fall back on does not matter.
-/

namespace Sqlwright

namespace ParamSet

variable {params : ParamSet} {base : String} {number : Nat}

/-- The smallest suffix, counted from 1, that makes a base a name which is not bound. -/
structure FirstFree (params : ParamSet) (base : String) (number : Nat) : Prop where
  positive : 1 ≤ number
  free : suffixed base number ∉ params.names
  passed : ∀ smaller, 1 ≤ smaller → smaller < number → suffixed base smaller ∈ params.names

/-- Where a search for a free suffix stands. -/
inductive Search where
  /-- The candidate with this suffix is inspected next. -/
  | inspecting (number : Nat)
  /-- The candidate with this suffix was free, and the search is over. -/
  | found (number : Nat)

/-- One inspection passes a bound candidate and ends the search at a free one. Only the index is
asked. -/
def inspect (params : ParamSet) (base : String) : Search → Search
  | .inspecting number =>
    if params.contains (suffixed base number) then .inspecting (number + 1) else .found number
  | .found number => .found number

/-- The search from the first suffix on, after so many inspections. -/
def searchAfter (params : ParamSet) (base : String) : Nat → Search
  | 0 => .inspecting 1
  | inspections + 1 => params.inspect base (params.searchAfter base inspections)

/-- The first free name among so many candidates, or a fallback when they run out. -/
def nameAmong (params : ParamSet) (base : String) (candidates : Nat) (fallback : String) : String :=
  (((List.range' 1 candidates).map (suffixed base)).find? fun name =>
    !params.contains name).getD fallback

theorem inspect_of_bound (bound : suffixed base number ∈ params.names) :
    params.inspect base (.inspecting number) = .inspecting (number + 1) := by
  rw [inspect, if_pos ((contains_iff params _).mpr bound)]

theorem inspect_of_free (free : suffixed base number ∉ params.names) :
    params.inspect base (.inspecting number) = .found number := by
  rw [inspect, if_neg (mt (contains_iff params _).mp free)]

/-- The search stands at one candidate after another up to the first free one, where it stays.

By induction on the inspections: the candidate inspected next is bound as long as its suffix is
smaller than the first free one. -/
theorem FirstFree.searchAfter_eq (first : params.FirstFree base number) (inspections : Nat) :
    params.searchAfter base inspections =
      if inspections < number then .inspecting (inspections + 1) else .found number := by
  induction inspections with
  | zero =>
    have ahead : 0 < number := first.positive
    rw [searchAfter, if_pos ahead]
  | succ inspections inductionHypothesis =>
    rw [searchAfter, inductionHypothesis]
    rcases Nat.lt_trichotomy (inspections + 1) number with before | here | beyond
    · have bound := first.passed (inspections + 1) (Nat.le_add_left 1 inspections) before
      rw [if_pos (Nat.lt_of_succ_lt before), if_pos before, inspect_of_bound bound]
    · subst here
      rw [if_pos (Nat.lt_succ_self inspections), if_neg (Nat.lt_irrefl _),
        inspect_of_free first.free]
    · have stopped : ¬ inspections < number := by omega
      rw [if_neg stopped, if_neg (Nat.lt_asymm beyond), inspect]

/-- Searching a stretch of suffixes from the first on finds the first free one if it is there. -/
theorem find?_suffixes_eq_some_iff (params : ParamSet) (base : String) (candidates number : Nat) :
    ((List.range' 1 candidates).find? fun suffix => !params.contains (suffixed base suffix)) =
        some number ↔
      params.FirstFree base number ∧ number ≤ candidates := by
  have free_iff : ∀ suffix,
      params.contains (suffixed base suffix) = false ↔ suffixed base suffix ∉ params.names :=
    fun suffix => by rw [← contains_iff, Bool.not_eq_true]
  simp only [List.find?_range'_eq_some, List.mem_range'_1, Bool.not_eq_true', Bool.not_not,
    free_iff, contains_iff]
  constructor
  · rintro ⟨free, inside, passed⟩
    exact ⟨⟨inside.1, free, passed⟩, by omega⟩
  · rintro ⟨first, enough⟩
    exact ⟨first.free, ⟨first.positive, by omega⟩, first.passed⟩

/-- Every base has a first free suffix, among one suffix more than there are bindings. -/
theorem exists_firstFree (params : ParamSet) (base : String) :
    ∃ number, params.FirstFree base number ∧ number ≤ params.size + 1 := by
  obtain ⟨number, found⟩ := Option.isSome_iff_exists.mp (params.freeSuffix?_isSome base)
  exact ⟨number, (params.find?_suffixes_eq_some_iff base _ number).mp found⟩

/-- With candidates enough the fallback is not used. -/
theorem FirstFree.nameAmong_eq (first : params.FirstFree base number) {candidates : Nat}
    (enough : number ≤ candidates) (fallback : String) :
    params.nameAmong base candidates fallback = suffixed base number := by
  have found := (params.find?_suffixes_eq_some_iff base candidates number).mpr ⟨first, enough⟩
  rw [nameAmong, List.find?_map, Function.comp_def, found]
  rfl

/-- The name chosen is the wished-for one, or has the first free suffix. -/
theorem FirstFree.freeName_eq (first : params.FirstFree (wished base) number)
    (enough : number ≤ params.size + 1) :
    params.freeName base =
      if wished base ∈ params.names then suffixed (wished base) number else wished base := by
  have found : params.freeSuffix? (wished base) = some number :=
    (params.find?_suffixes_eq_some_iff (wished base) _ number).mpr ⟨first, enough⟩
  simp only [freeName, contains_iff, found, Option.get_some]

/-- After every history of additions and truncations there is a smallest suffix that makes a
wished-for name free. The search, which nothing bounds, stands at one candidate after another
until it has inspected this one, at most as many as there are bindings and one more, and stops
there. A search among that many candidates, or among any number beyond, finds it as well, whatever
its fallback. The name chosen for a new binding is the wished-for name if that is not bound, and
otherwise has this suffix. -/
theorem freeName_takes_first_free_suffix (history : List Change) (base : String) :
    let params := empty.after history
    ∃ number, params.FirstFree (wished base) number ∧
      number ≤ params.size + 1 ∧
      (∀ inspections, params.searchAfter (wished base) inspections =
        if inspections < number then .inspecting (inspections + 1) else .found number) ∧
      (∀ more fallback, params.nameAmong (wished base) (params.size + 1 + more) fallback =
        suffixed (wished base) number) ∧
      params.freeName base =
        if wished base ∈ params.names then suffixed (wished base) number else wished base := by
  intro params
  obtain ⟨number, first, enough⟩ := params.exists_firstFree (wished base)
  exact ⟨number, first, enough, first.searchAfter_eq,
    fun more => first.nameAmong_eq (Nat.le_trans enough (Nat.le_add_right _ more)),
    first.freeName_eq enough⟩

/-- Names that look like candidates are passed over as any other. -/
example :
    (empty.after [.add "id" .null, .add "id_1" .null, .add "id" .null, .add "id_1" .null,
      .add "" .null, .truncate 4, .add "id" .null]).names =
    ["id", "id_1", "id_2", "id_1_1", "id_3"] := by
  decide +kernel

end ParamSet
end Sqlwright
