import Sqlwright.Entity.Settings

/-!
# What the attributes of a field say

The items of a field's attributes are read one after another into one record of settings. How they
are divided among the attributes does not matter, and neither does their order, but for texts given
twice: then the last one counts. So the settings can be told from the list of all items. A flag is
set if its item occurs, and a text is that of the last item of its name.

Reading succeeds exactly if each attribute has a list and each item in it is well formed. Then it
keeps up that the settings so far are those of the items so far. A field that is ignored is refused
only if it is a key, an identity or has a name for its column.
-/

namespace Sqlwright

/-- The items in parentheses. -/
def AttributeArguments.items : AttributeArguments → List AttributeItem
  | .list items => items
  | .absent | .value => []

/-- The text behind the equals sign of an item. -/
def AttributeItem.text? (item : AttributeItem) : Option String :=
  match item.literal with
  | some (.text s) => some s
  | some .other | none => none

/-- The items of all attributes with one path, from left to right. -/
def itemsAt (path : String) (attributes : List Attribute) : List AttributeItem :=
  (attributes.filter (·.path == path)).flatMap (·.arguments.items)

/-- Each attribute with the path has a list of items. -/
def Listed (path : String) (attributes : List Attribute) : Prop :=
  ∀ found ∈ attributes, found.path = path → ∃ items, found.arguments = .list items

/-- Whether an item of the name occurs. -/
def gives (items : List AttributeItem) (name : String) : Bool := items.any (·.path == name)

/-- The text of the last item of the name. -/
def textOf? (items : List AttributeItem) (name : String) : Option String :=
  (items.filter (·.path == name)).getLast?.bind (·.text?)

section

variable {σ : Type} {path : String} {first : Attribute} {rest attributes : List Attribute}
  {effect? : String → Except DeclarationError (ItemEffect σ)} {start later : σ}

theorem listed_cons :
    Listed path (first :: rest) ↔
      (first.path = path → ∃ items, first.arguments = .list items) ∧ Listed path rest :=
  List.forall_mem_cons

/-- An attribute with another path means nothing. -/
theorem readAttributes_of_ne (other : first.path ≠ path) :
    readAttributes path effect? start (first :: rest) =
      readAttributes path effect? start rest := by
  rw [readAttributes, readAttributes, List.filter_cons_of_neg (by simpa using other)]

/-- The items of an attribute are read before those of the attributes behind it. -/
theorem readAttributes_list (own : first.path = path) {items : List AttributeItem}
    (listed : first.arguments = .list items) :
    readAttributes path effect? start (first :: rest) =
      items.foldlM (readItem effect?) start >>= fun middle =>
        readAttributes path effect? middle rest := by
  rw [readAttributes, List.filter_cons_of_pos (by simpa using own), List.foldlM_cons]
  simp only [listed]
  rfl

/-- An attribute without a list is refused. -/
theorem readAttributes_unlisted (own : first.path = path)
    (unlisted : ¬∃ items, first.arguments = .list items) :
    readAttributes path effect? start (first :: rest) ≠ .ok later := by
  rw [readAttributes, List.filter_cons_of_pos (by simpa using own), List.foldlM_cons]
  cases given : first.arguments with
  | list items => exact absurd ⟨items, given⟩ unlisted
  | absent => exact nofun
  | value => exact nofun

/-- All attributes with a path are read like one list of items. -/
theorem readAttributes_eq_ok_iff :
    readAttributes path effect? start attributes = .ok later ↔
      Listed path attributes ∧
        (itemsAt path attributes).foldlM (readItem effect?) start = .ok later := by
  induction attributes generalizing start with
  | nil => simp [readAttributes, Listed, itemsAt]
  | cons first rest inductionHypothesis =>
    rw [listed_cons]
    by_cases own : first.path = path
    · have divided : itemsAt path (first :: rest) = first.arguments.items ++ itemsAt path rest := by
        simp [itemsAt, own]
      by_cases listed : ∃ items, first.arguments = .list items
      · obtain ⟨items, listed⟩ := listed
        rw [readAttributes_list own listed, divided, listed, AttributeArguments.items,
          List.foldlM_append]
        cases items.foldlM (readItem effect?) start with
        | error error => simp [bind, Except.bind]
        | ok middle => simpa [bind, Except.bind, own] using inductionHypothesis
      · refine iff_of_false (readAttributes_unlisted own listed) ?_
        rintro ⟨⟨given, _⟩, _⟩
        exact listed (given own)
    · have skipped : itemsAt path (first :: rest) = itemsAt path rest := by
        simp [itemsAt, own]
      rw [readAttributes_of_ne own, skipped, inductionHypothesis]
      simp [own]

end

namespace ColumnSettings

/-- The items that store a text. -/
def textNames : List String := ["name", "insert_sql", "update_sql"]

/-- The items that are flags. -/
def flagNames : List String :=
  ["key", "identity", "ignore", "read_only", "no_select", "no_insert", "no_update", "concurrency"]

/-- The items that a column attribute may have: a text that is not blank, or a flag. -/
inductive WellFormed : AttributeItem → Prop
  | text {name s : String} (known : name ∈ textNames) (filled : Text.isBlankText s = false) :
    WellFormed { path := name, literal := some (.text s) }
  | flag {name : String} (known : name ∈ flagNames) : WellFormed { path := name }

/-- The settings that items make. -/
def given (items : List AttributeItem) : ColumnSettings where
  name := textOf? items "name"
  key := gives items "key"
  identity := gives items "identity"
  ignore := gives items "ignore"
  readOnly := gives items "read_only"
  noSelect := gives items "no_select"
  noInsert := gives items "no_insert"
  noUpdate := gives items "no_update"
  concurrency := gives items "concurrency"
  insertSql := textOf? items "insert_sql"
  updateSql := textOf? items "update_sql"

variable {items earlier : List AttributeItem} {item : AttributeItem} {name : String}
  {settings later : ColumnSettings}

/-- What an item of a name does to the settings of the items before it. -/
theorem effect?_cases (earlier : List AttributeItem) (name : String) :
    (name ∈ textNames ∧ ∃ what store, effect? name = .ok (.text what store) ∧ ∀ s,
      store s (given earlier) = given (earlier ++ [{ path := name, literal := some (.text s) }])) ∨
    (name ∈ flagNames ∧ ∃ set, effect? name = .ok (.flag set) ∧
      set (given earlier) = given (earlier ++ [{ path := name }])) ∨
    (name ∉ textNames ∧ name ∉ flagNames ∧ effect? name = .error (.unknownColumnItem name)) := by
  by_cases text : name ∈ textNames
  · refine .inl ⟨text, ?_⟩
    simp only [textNames, List.mem_cons, List.not_mem_nil, or_false] at text
    rcases text with rfl | rfl | rfl
    all_goals
      refine ⟨_, _, rfl, fun s => ?_⟩
      simp [given, textOf?, gives, AttributeItem.text?]
  · by_cases flag : name ∈ flagNames
    · refine .inr (.inl ⟨flag, ?_⟩)
      simp only [flagNames, List.mem_cons, List.not_mem_nil, or_false] at flag
      rcases flag with rfl | rfl | rfl | rfl | rfl | rfl | rfl | rfl
      all_goals
        refine ⟨_, rfl, ?_⟩
        simp [given, textOf?, gives]
    · refine .inr (.inr ⟨text, flag, ?_⟩)
      simp [textNames, flagNames] at text flag
      simp [effect?, text, flag]

/-- The names of items are single segments. -/
theorem isCompoundPath_eq_false (known : name ∈ textNames ∨ name ∈ flagNames) :
    isCompoundPath name = false := by
  have single : ∀ name ∈ textNames ++ flagNames, isCompoundPath name = false := by decide
  exact single name (List.mem_append.mpr known)

/-- Names of texts are no names of flags. -/
theorem not_mem_flagNames (known : name ∈ textNames) : name ∉ flagNames := by
  have apart : ∀ name ∈ textNames, name ∉ flagNames := by decide
  exact apart name known

/-- Reading one item more: it succeeds for those that are well formed, and what has been read then
are the settings of one item more. -/
theorem readItem_eq_ok_iff :
    readItem effect? (given earlier) item = .ok later ↔
      WellFormed item ∧ later = given (earlier ++ [item]) := by
  obtain ⟨name, literal⟩ := item
  rcases effect?_cases earlier name with
    ⟨known, what, store, found, stored⟩ | ⟨known, set, found, stored⟩ | ⟨noText, noFlag, found⟩
  · have single := isCompoundPath_eq_false (.inl known)
    rcases literal with _ | s | _
    · have unknown : ¬WellFormed { path := name } := by
        rintro ⟨⟩
        exact not_mem_flagNames known ‹_›
      simp [readItem, single, found, unknown, bind, Except.bind]
    · cases blank : Text.isBlankText s with
      | false =>
        have formed : WellFormed { path := name, literal := some (.text s) } := .text known blank
        simp [readItem, single, found, blank, formed, stored, eq_comm, bind, Except.bind, pure,
          Except.pure]
      | true =>
        have empty : ¬WellFormed { path := name, literal := some (.text s) } := by
          rintro ⟨_, filled⟩
          simp [blank] at filled
        simp [readItem, single, found, blank, empty, bind, Except.bind]
    · have other : ¬WellFormed { path := name, literal := some .other } := nofun
      simp [readItem, single, found, other, bind, Except.bind]
  · have single := isCompoundPath_eq_false (.inr known)
    cases literal with
    | none =>
      have formed : WellFormed { path := name } := .flag known
      simp [readItem, single, found, formed, stored, eq_comm, bind, Except.bind, pure,
        Except.pure]
    | some literal =>
      have valued : ¬WellFormed { path := name, literal := some literal } := by
        rintro ⟨text, _⟩
        exact not_mem_flagNames text known
      simp [readItem, single, found, valued, bind, Except.bind]
  · have unknown : ¬WellFormed { path := name, literal } := by
      rintro (⟨known, _⟩ | ⟨known⟩)
      · exact noText known
      · exact noFlag known
    cases compound : isCompoundPath name <;>
      simp [readItem, compound, found, unknown, bind, Except.bind]

/-- Reading further items. -/
theorem foldlM_readItem_eq_ok_iff :
    items.foldlM (readItem effect?) (given earlier) = .ok later ↔
      (∀ item ∈ items, WellFormed item) ∧ later = given (earlier ++ items) := by
  induction items generalizing earlier with
  | nil => simp [eq_comm, pure, Except.pure]
  | cons item rest inductionHypothesis =>
    rw [List.foldlM_cons, List.forall_mem_cons]
    have step := @readItem_eq_ok_iff earlier item
    cases read : readItem effect? (given earlier) item with
    | error error =>
      have refused : ¬WellFormed item := fun formed => by
        have accepted := step.mpr ⟨formed, rfl⟩
        rw [read] at accepted
        cases accepted
      exact iff_of_false nofun fun formed => refused formed.1.1
    | ok middle =>
      obtain ⟨formed, rfl⟩ := step.mp read
      have remaining := @inductionHypothesis (earlier ++ [item])
      rw [List.append_assoc, List.singleton_append] at remaining
      exact remaining.trans (by simp [formed])

/-- A field's attributes are well formed: each has a list, and each item in it is. -/
structure AllWellFormed (attributes : List Attribute) : Prop where
  listed : Listed "column" attributes
  items : ∀ item ∈ itemsAt "column" attributes, WellFormed item

/-- The attributes of a field are read exactly if all are well formed, and they make the settings
that their items make. -/
theorem readAttributes_column_iff {attributes : List Attribute} :
    readAttributes "column" effect? {} attributes = .ok settings ↔
      AllWellFormed attributes ∧ settings = given (itemsAt "column" attributes) := by
  have fromNothing : given [] = {} := rfl
  rw [readAttributes_eq_ok_iff, ← fromNothing, foldlM_readItem_eq_ok_iff, List.nil_append]
  constructor
  · rintro ⟨listed, items, same⟩
    exact ⟨⟨listed, items⟩, same⟩
  · rintro ⟨⟨listed, items⟩, same⟩
    exact ⟨listed, items, same⟩

/-- Well-formed items make settings that are used, unless they contradict each other. -/
theorem read_of_wellFormed {attributes : List Attribute} (formed : AllWellFormed attributes) :
    read attributes =
      if (given (itemsAt "column" attributes)).isContradictory then .error .ignoredColumn
      else .ok (given (itemsAt "column" attributes)) := by
  rw [read, readAttributes_column_iff.mpr ⟨formed, rfl⟩]
  rfl

/-- The attributes of a field are accepted exactly if all are well formed and do not contradict
each other. -/
theorem read_eq_ok_iff {attributes : List Attribute} :
    read attributes = .ok settings ↔
      AllWellFormed attributes ∧ (given (itemsAt "column" attributes)).isContradictory = false ∧
        settings = given (itemsAt "column" attributes) := by
  by_cases formed : AllWellFormed attributes
  · rw [read_of_wellFormed formed]
    cases (given (itemsAt "column" attributes)).isContradictory <;> simp [formed, eq_comm]
  · refine iff_of_false (fun accepted => ?_) fun accepted => formed accepted.1
    rw [read] at accepted
    cases settled : readAttributes "column" effect? {} attributes with
    | error error =>
      rw [settled] at accepted
      cases accepted
    | ok middle => exact formed (readAttributes_column_iff.mp settled).1

/-- An item that stores a text has one if it is well formed. -/
theorem isSome_text? (known : item.path ∈ textNames) (formed : WellFormed item) :
    item.text?.isSome = true := by
  cases formed with
  | text _ _ => rfl
  | flag flag => exact absurd flag (not_mem_flagNames known)

/-- A text is stored exactly if an item of its name occurs. -/
theorem isSome_textOf? (known : name ∈ textNames) (formed : ∀ item ∈ items, WellFormed item) :
    (textOf? items name).isSome = gives items name := by
  rw [textOf?]
  cases last : (items.filter (·.path == name)).getLast? with
  | none =>
    have none : items.filter (·.path == name) = [] := List.getLast?_eq_none_iff.mp last
    simpa [gives] using none
  | some item =>
    obtain ⟨member, own⟩ := List.mem_filter.mp (List.mem_of_getLast? last)
    have occurs : gives items name = true := List.any_eq_true.mpr ⟨item, member, own⟩
    rw [occurs, Option.bind_some]
    obtain rfl := beq_iff_eq.mp own
    exact isSome_text? known (formed item member)

/-- Well-formed items contradict each other exactly if the field is ignored and yet a key, an
identity or a column with a name. -/
theorem isContradictory_given (formed : ∀ item ∈ items, WellFormed item) :
    (given items).isContradictory = true ↔
      gives items "ignore" = true ∧ (gives items "key" = true ∨ gives items "identity" = true ∨
        gives items "name" = true) := by
  have named : (textOf? items "name").isSome = gives items "name" :=
    isSome_textOf? (by decide) formed
  simp [isContradictory, given, named, or_assoc]

end ColumnSettings
end Sqlwright
