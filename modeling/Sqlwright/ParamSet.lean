import Std.Data.ExtTreeMap
import Sqlwright.Value

/-!
# Parameter sets

A parameter set binds values to names, in the order in which they were added. An index
finds the place of a name. A set can only be built so that the index agrees with the
entries, hence no name is bound twice and two sets with the same entries are equal.

A value is added under a wished-for name. If that name is bound already, it gets the
smallest numeric suffix that makes it free; among as many suffixes as there are entries
and one more, one is always free.
-/

namespace Sqlwright

/-- Named values in the order of their binding. -/
structure ParamSet where
  /-- Names and values, the oldest binding first. -/
  entries : List (String × Value)
  /-- The place of each name among the entries. -/
  index : Std.ExtTreeMap String Nat
  indexed : ∀ (name : String) (place : Nat),
    index[name]? = some place ↔ (entries[place]?).map Prod.fst = some name

namespace ParamSet

/-- The set without bindings. -/
def empty : ParamSet := ⟨[], ∅, by simp⟩

instance : Inhabited ParamSet := ⟨empty⟩

/-- The number of bindings. -/
def size (params : ParamSet) : Nat := params.entries.length

/-- The bound names, the oldest first. -/
def names (params : ParamSet) : List String := params.entries.map Prod.fst

/-- Whether a name is bound. -/
def contains (params : ParamSet) (name : String) : Bool := params.index.contains name

/-- The value bound to a name. -/
def get? (params : ParamSet) (name : String) : Option Value :=
  params.index[name]?.bind fun place => (params.entries[place]?).map Prod.snd

/-- The index is determined by the entries. -/
theorem ext_entries {left right : ParamSet} (same : left.entries = right.entries) :
    left = right := by
  have sameIndex : left.index = right.index := by
    refine Std.ExtTreeMap.ext_getElem? fun name => Option.ext fun place => ?_
    rw [left.indexed, right.indexed, same]
  cases left
  cases right
  cases same
  cases sameIndex
  rfl

instance : DecidableEq ParamSet := fun left right =>
  if same : left.entries = right.entries then .isTrue (ext_entries same)
  else .isFalse fun equal => same (equal ▸ rfl)

/-- A name is bound exactly when an entry carries it. -/
theorem contains_iff (params : ParamSet) (name : String) :
    params.contains name = true ↔ name ∈ params.names := by
  rw [contains, Std.ExtTreeMap.contains_eq_isSome_getElem?, Option.isSome_iff_exists]
  simp only [params.indexed, names, ← List.getElem?_map, List.mem_iff_getElem?]

/-- No name is bound twice. -/
theorem nodup_names (params : ParamSet) : params.names.Nodup := by
  rw [List.Nodup, List.pairwise_iff_getElem]
  intro i j insideI insideJ before equal
  have first := (params.indexed (params.names[i]) i).mpr (by
    rw [← List.getElem?_map]
    exact List.getElem?_eq_getElem insideI)
  have second := (params.indexed (params.names[j]) j).mpr (by
    rw [← List.getElem?_map]
    exact List.getElem?_eq_getElem insideJ)
  rw [equal] at first
  have same : i = j := Option.some.inj (first.symm.trans second)
  omega

/-- A name with a numeric suffix. -/
def suffixed (base : String) (number : Nat) : String := base ++ "_" ++ Text.decimal number

/-- Different suffixes give different names. -/
theorem suffixed_injective {base : String} {left right : Nat}
    (same : suffixed base left = suffixed base right) : left = right := by
  have digits : Nat.toDigits 10 left = Nat.toDigits 10 right := by
    have texts := congrArg String.toList same
    simpa [suffixed, Text.decimal, Text.digits] using texts
  have read := congrArg (Nat.ofDigitChars 10 · 0) digits
  simpa [Nat.ofDigitChars_toDigits] using read

/-- Distinct members of a list are at most as many as its places. -/
theorem count_le_length {α : Type} [DecidableEq α] (members : Nat → α)
    (injective : ∀ i j, members i = members j → i = j) (count : Nat) (list : List α)
    (inside : ∀ i, i < count → members i ∈ list) : count ≤ list.length := by
  induction count generalizing list with
  | zero => exact Nat.zero_le _
  | succ count inductionHypothesis =>
    have last : members count ∈ list := inside count (Nat.lt_succ_self count)
    have others : ∀ i, i < count → members i ∈ list.erase (members count) := fun i before =>
      (List.mem_erase_of_ne fun equal => by
        have := injective i count equal
        omega).mpr (inside i (by omega))
    have shorter := inductionHypothesis (list.erase (members count)) others
    have length := List.length_erase_of_mem last
    have positive := List.length_pos_of_mem last
    omega

/-- The smallest free suffix of a base, searched among one more than there are entries. -/
def freeSuffix? (params : ParamSet) (base : String) : Option Nat :=
  (List.range' 1 (params.size + 1)).find? fun number => !params.contains (suffixed base number)

/-- One of the suffixes searched is free. -/
theorem freeSuffix?_isSome (params : ParamSet) (base : String) :
    (params.freeSuffix? base).isSome = true := by
  rw [Option.isSome_iff_ne_none, freeSuffix?]
  intro allBound
  simp only [List.find?_eq_none, List.mem_range'_1, Bool.not_eq_true', Bool.not_eq_false] at allBound
  have inside : ∀ i, i < params.size + 1 → suffixed base (i + 1) ∈ params.names := fun i before =>
    (contains_iff params _).mp (allBound (i + 1) (by omega))
  have bound := count_le_length (fun i => suffixed base (i + 1))
    (fun i j same => by have := suffixed_injective same; omega) _ _ inside
  simp only [names, List.length_map, size] at bound
  omega

/-- The name to start from: an empty wish stands for `p`. -/
def wished (base : String) : String := if base.isEmpty then "p" else base

/-- A name that is not bound: the wished-for name itself if it is free, else that name
with its smallest free suffix. -/
def freeName (params : ParamSet) (base : String) : String :=
  if params.contains (wished base) then
    suffixed (wished base)
      ((params.freeSuffix? (wished base)).get (params.freeSuffix?_isSome (wished base)))
  else wished base

/-- The name found is not bound. -/
theorem contains_freeName (params : ParamSet) (base : String) :
    params.contains (params.freeName base) = false := by
  unfold freeName
  split
  case isTrue =>
    have found := Option.some_get (params.freeSuffix?_isSome (wished base))
    have free := List.find?_some found.symm
    simpa using free
  case isFalse free => simpa using free

/-- Bind a value to a name that is not bound yet. -/
def push (params : ParamSet) (name : String) (value : Value)
    (free : params.contains name = false) : ParamSet where
  entries := params.entries ++ [(name, value)]
  index := params.index.insert name params.size
  indexed := by
    intro other place
    have absent : other = name → (params.entries[place]?).map Prod.fst ≠ some other := by
      rintro rfl bound
      have found := (params.indexed other place).mpr bound
      rw [contains, Std.ExtTreeMap.contains_eq_isSome_getElem?, found] at free
      simp at free
    simp only [Std.ExtTreeMap.getElem?_insert, Std.LawfulEqCmp.compare_eq_iff_eq]
    split
    case isTrue same =>
      subst same
      constructor
      · intro last
        cases last
        simp [size]
      · intro bound
        rcases Nat.lt_trichotomy place params.size with before | last | after
        · rw [List.getElem?_append_left before] at bound
          exact absurd bound (absent rfl)
        · simp [last]
        · rw [List.getElem?_eq_none (by simp [size] at after ⊢; omega)] at bound
          simp at bound
    case isFalse different =>
      rw [params.indexed]
      rcases Nat.lt_trichotomy place params.size with before | last | after
      · rw [List.getElem?_append_left before]
      · subst last
        simp [size, different]
      · have outside : params.entries.length ≤ place := by simp only [size] at after; omega
        rw [List.getElem?_eq_none outside, List.getElem?_eq_none (by simp [size] at after ⊢; omega)]

/-- Bind a value under a wished-for name. The name used comes first. -/
def add (params : ParamSet) (base : String) (value : Value) : String × ParamSet :=
  (params.freeName base, params.push (params.freeName base) value (params.contains_freeName base))

/-- Keep only the oldest bindings. -/
def truncate (params : ParamSet) (count : Nat) : ParamSet where
  entries := params.entries.take count
  index := params.index.filter fun _ place => place < count
  indexed := by
    intro name place
    rw [Std.ExtTreeMap.getElem?_filter', List.getElem?_take]
    split
    case isTrue before =>
      rw [← params.indexed]
      cases found : params.index[name]? with
      | none => simp
      | some found =>
        simp only [Option.filter_some, Option.some.injEq]
        split <;> simp_all
        omega
    case isFalse after =>
      cases found : params.index[name]? with
      | none => simp
      | some found =>
        simp only [Option.filter_some]
        split <;> simp_all
        omega

/-- Bind values one after another under wished-for names. -/
def ofList (wishes : List (String × Value)) : ParamSet :=
  wishes.foldl (fun params wish => (params.add wish.1 wish.2).2) empty

@[simp] theorem entries_add (params : ParamSet) (base : String) (value : Value) :
    (params.add base value).2.entries = params.entries ++ [(params.freeName base, value)] := rfl

@[simp] theorem entries_truncate (params : ParamSet) (count : Nat) :
    (params.truncate count).entries = params.entries.take count := rfl

/-- Dropping what was added gives the former set back. -/
theorem truncate_eq_of_prefix {params later : ParamSet}
    (extended : params.entries <+: later.entries) : later.truncate params.size = params := by
  apply ext_entries
  rw [entries_truncate]
  exact (List.prefix_iff_eq_take.mp extended).symm

/-- A name has the value of the entry that carries it. -/
theorem get?_eq_some_iff (params : ParamSet) (name : String) (value : Value) :
    params.get? name = some value ↔ (name, value) ∈ params.entries := by
  rw [List.mem_iff_getElem?]
  constructor
  · intro found
    obtain ⟨place, atPlace, bound⟩ := Option.bind_eq_some_iff.mp found
    have named := (params.indexed name place).mp atPlace
    obtain ⟨entry, present, rfl⟩ := Option.map_eq_some_iff.mp named
    refine ⟨place, ?_⟩
    rw [present, Option.map_some, Option.some.injEq] at bound
    rw [present, ← bound]
  · rintro ⟨place, present⟩
    have atPlace : params.index[name]? = some place :=
      (params.indexed name place).mpr (by rw [present, Option.map_some])
    simp [get?, atPlace, present]

end ParamSet
end Sqlwright
