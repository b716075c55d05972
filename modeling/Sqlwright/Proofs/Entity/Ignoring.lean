import Sqlwright.Proofs.Entity.Mapping

/-!
# Fields that are ignored

An ignored field is not stored, so nothing else that its attributes say can have any effect. A key,
an identity and the name of a column are refused beside it. All other items are not: the field is
left out with them, and the entity is the one that the declaration would make without the field.
What goes unnoticed in this way may have been meant to guard against concurrent changes.
-/

namespace Sqlwright

namespace FieldDeclaration

/-- Whether the field is told to be a key, an identity or a column with a name. -/
def isNamedOrKey (field : FieldDeclaration) : Bool :=
  gives field.items "key" || gives field.items "identity" || gives field.items "name"

variable {field : FieldDeclaration}

/-- The settings of an ignored field are contradictory exactly if it is told to be one of these. -/
theorem isContradictory_mapped (formed : ColumnSettings.AllWellFormed field.attributes)
    (ignored : gives field.items "ignore" = true) :
    field.mapped.settings.isContradictory = field.isNamedOrKey := by
  rw [Bool.eq_iff_iff, isNamedOrKey, Bool.or_eq_true, Bool.or_eq_true, or_assoc]
  exact (ColumnSettings.isContradictory_given formed.items).trans (and_iff_right ignored)

/-- Then, and only then, its attributes are refused. -/
theorem read_eq_ignoredColumn_iff (formed : ColumnSettings.AllWellFormed field.attributes)
    (ignored : gives field.items "ignore" = true) :
    ColumnSettings.read field.attributes = .error .ignoredColumn ↔ field.isNamedOrKey = true := by
  have contradictory := isContradictory_mapped formed ignored
  have read : ColumnSettings.read field.attributes =
      if field.mapped.settings.isContradictory then .error .ignoredColumn
      else .ok field.mapped.settings := ColumnSettings.read_of_wellFormed formed
  rw [read, contradictory]
  cases field.isNamedOrKey <;> simp

end FieldDeclaration

namespace Entity

variable {taken : List String} {field : FieldDeclaration}
  {before after declared others : List FieldDeclaration} {declaration : Declaration}

/-- An ignored field among others is left out. -/
theorem mappedFields_append_ignored (readable : field.Readable) (ignored : field.isStored = false) :
    mappedFields taken (before ++ field :: after) = mappedFields taken (before ++ after) := by
  induction before generalizing taken with
  | nil => exact mappedFields_ignored readable ignored
  | cons first rest inductionHypothesis =>
    simp only [List.cons_append, mappedFields, inductionHypothesis]

/-- Fields that are mapped alike make one entity. -/
theorem ofDeclaration_congr (shape : declaration.shape = .named declared)
    (same : mappedFields [] declared = mappedFields [] others) :
    ofDeclaration declaration = ofDeclaration { declaration with shape := .named others } := by
  obtain ⟨ident, generics, attributes, _⟩ := declaration
  cases generics with
  | cons parameter rest => rfl
  | nil => rw [ofDeclaration_named rfl shape, ofDeclaration_named rfl rfl, same]

/-- A declaration with a field that cannot be read makes no entity. -/
theorem ofDeclaration_unreadable (shape : declaration.shape = .named declared)
    (member : field ∈ declared) (unreadable : ¬field.Readable) :
    ∃ error, ofDeclaration declaration = .error error := by
  cases made : ofDeclaration declaration with
  | error error => exact ⟨error, rfl⟩
  | ok entity =>
    obtain ⟨_, _, _, also, _, each, _⟩ := ofDeclaration_eq_ok_iff.mp made
    rw [shape] at also
    cases also
    exact absurd (each field member) unreadable

end Entity

/-- An ignored field with well-formed attributes is refused exactly if it is told to be a key, an
identity or a column with a name, and its declaration then makes no entity. Otherwise it is left
out, whatever else its attributes say: the outcome is that of the declaration without the field. -/
theorem ignored_field_is_refused_or_left_out {declaration : Declaration} {field : FieldDeclaration}
    {before after : List FieldDeclaration}
    (shape : declaration.shape = .named (before ++ field :: after))
    (formed : ColumnSettings.AllWellFormed field.attributes)
    (ignored : gives field.items "ignore" = true) :
    (ColumnSettings.read field.attributes = .error .ignoredColumn ↔ field.isNamedOrKey = true) ∧
    (field.isNamedOrKey = true → ∃ error, Entity.ofDeclaration declaration = .error error) ∧
    (field.isNamedOrKey = false → Entity.ofDeclaration declaration =
      Entity.ofDeclaration { declaration with shape := .named (before ++ after) }) := by
  have contradictory := FieldDeclaration.isContradictory_mapped formed ignored
  refine ⟨FieldDeclaration.read_eq_ignoredColumn_iff formed ignored, ?_, ?_⟩
  · intro told
    apply Entity.ofDeclaration_unreadable shape (List.mem_append_right _ List.mem_cons_self)
    intro readable
    have consistent := readable.consistent
    rw [contradictory, told] at consistent
    cases consistent
  · intro plain
    have readable : field.Readable := ⟨formed, contradictory.trans plain⟩
    have left : field.isStored = false := by simp [FieldDeclaration.isStored, ignored]
    exact Entity.ofDeclaration_congr shape (Entity.mappedFields_append_ignored readable left)

/-- A rendered text that is ignored is left out together with what is said about reading it, in
an attribute of its own. -/
theorem ignored_text_is_left_out :
    let field : FieldDeclaration := {
      ident := "cached_html"
      attributes := [⟨"column", .list [{ path := "no_select" }]⟩,
        ⟨"column", .list [{ path := "ignore" }, { path := "read_only" }]⟩] }
    let declaration : Declaration := {
      ident := "Document", shape := .named [{ ident := "id" }, field, { ident := "title" }] }
    ColumnSettings.AllWellFormed field.attributes ∧
      Entity.ofDeclaration declaration = Entity.ofDeclaration
        { declaration with shape := .named [{ ident := "id" }, { ident := "title" }] } := by
  intro field declaration
  have formed : ColumnSettings.AllWellFormed field.attributes :=
    (FieldDeclaration.read_eq_ok_iff.mp rfl).1.formed
  have shape : declaration.shape =
      .named ([{ ident := "id" }] ++ field :: [{ ident := "title" }]) := rfl
  have outcome := ignored_field_is_refused_or_left_out shape formed (by decide)
  exact ⟨formed, outcome.2.2 (by decide)⟩

/-- A version that is ignored and yet told to guard its row is no error. It guards nothing. -/
theorem ignored_guard_is_no_error :
    let field : FieldDeclaration := {
      ident := "version"
      attributes := [⟨"column", .list [{ path := "ignore" }, { path := "concurrency" }]⟩] }
    let declaration : Declaration := {
      ident := "Document", shape := .named [{ ident := "id" }, field] }
    ColumnSettings.AllWellFormed field.attributes ∧ gives field.items "ignore" = true ∧
      gives field.items "concurrency" = true ∧
      ∃ entity, Entity.ofDeclaration declaration = .ok entity ∧ entity.table.guards = [] := by
  intro field declaration
  have formed : ColumnSettings.AllWellFormed field.attributes :=
    (FieldDeclaration.read_eq_ok_iff.mp rfl).1.formed
  exact ⟨formed, by decide, by decide, _, rfl, by decide⟩

end Sqlwright
