import Sqlwright.Entity
import Sqlwright.Proofs.Basic
import Sqlwright.Proofs.Entity.Reading
import Sqlwright.Proofs.Schema.Validation

/-!
# Which declarations make an entity

A declaration with named fields makes an entity exactly if the attributes of its type and of all
its fields can be read, some field is stored, and no two stored fields have one column name. The
entity has the stored fields in the order of their declaration, each with the settings that its
items make.

So the table of an entity has columns, and their names are distinct. If the identifiers of the
fields have distinct names, then the properties are distinct as well, and the table would be
accepted by the check that tables made by hand have to pass, for its columns at least.
-/

namespace Sqlwright

namespace FieldDeclaration

/-- The items of the field's column attributes. -/
def items (field : FieldDeclaration) : List AttributeItem := itemsAt "column" field.attributes

/-- The name of the field's identifier. -/
def name (field : FieldDeclaration) : String := identName field.ident

/-- Whether the field is not ignored. -/
def isStored (field : FieldDeclaration) : Bool := !gives field.items "ignore"

/-- The field with the settings that its items make. -/
def mapped (field : FieldDeclaration) : MappedField :=
  { ident := field.ident, settings := .given field.items }

/-- The column with the name, the flags and the expressions that the items give. -/
def column (field : FieldDeclaration) : Column where
  name := (textOf? field.items "name").getD field.name
  property := field.name
  key := gives field.items "key"
  identity := gives field.items "identity"
  select := !gives field.items "no_select"
  insert := !gives field.items "read_only" && !gives field.items "no_insert"
  update := !gives field.items "read_only" && !gives field.items "no_update"
  concurrency := gives field.items "concurrency"
  insertSql := textOf? field.items "insert_sql"
  updateSql := textOf? field.items "update_sql"

/-- The attributes are well formed, and the field is not ignored against them. -/
structure Readable (field : FieldDeclaration) : Prop where
  formed : ColumnSettings.AllWellFormed field.attributes
  consistent : field.mapped.settings.isContradictory = false

variable {field : FieldDeclaration} {settings : ColumnSettings}

@[simp] theorem columnName_mapped (field : FieldDeclaration) :
    field.mapped.columnName = field.column.name := rfl

/-- The settings tell whether a field is stored. -/
theorem ignore_mapped (field : FieldDeclaration) :
    field.mapped.settings.ignore = !field.isStored :=
  (Bool.not_not _).symm

theorem read_eq_ok_iff :
    ColumnSettings.read field.attributes = .ok settings ↔
      field.Readable ∧ settings = field.mapped.settings := by
  rw [ColumnSettings.read_eq_ok_iff]
  constructor
  · rintro ⟨formed, consistent, same⟩
    exact ⟨⟨formed, consistent⟩, same⟩
  · rintro ⟨⟨formed, consistent⟩, same⟩
    exact ⟨formed, consistent, same⟩

end FieldDeclaration

/-- The fields that are stored. -/
def storedFields (declared : List FieldDeclaration) : List FieldDeclaration :=
  declared.filter (·.isStored)

namespace Entity

variable {taken : List String} {field : FieldDeclaration}
  {before declared rest after : List FieldDeclaration} {fields : List MappedField}

/-- A field that is ignored is left out. -/
theorem mappedFields_ignored (readable : field.Readable) (ignored : field.isStored = false) :
    mappedFields taken (field :: rest) = mappedFields taken rest := by
  rw [mappedFields, FieldDeclaration.read_eq_ok_iff.mpr ⟨readable, rfl⟩]
  simp [bind, Except.bind, field.ignore_mapped, ignored]

/-- Any other one is kept, unless its column name is taken, and takes that name. -/
theorem mappedFields_stored (readable : field.Readable) (stored : field.isStored = true) :
    mappedFields taken (field :: rest) =
      if field.column.name ∈ taken then .error (.duplicateColumn field.column.name)
      else (mappedFields (field.column.name :: taken) rest).map (field.mapped :: ·) := by
  have same : ({ ident := field.ident, settings := field.mapped.settings } : MappedField) =
      field.mapped := rfl
  rw [mappedFields, FieldDeclaration.read_eq_ok_iff.mpr ⟨readable, rfl⟩]
  simp only [bind, Except.bind, field.ignore_mapped, stored, same,
    FieldDeclaration.columnName_mapped, List.contains_iff_mem, Bool.not_true, Bool.false_eq_true,
    if_false]
  split
  · rfl
  · cases mappedFields (field.column.name :: taken) rest <;> rfl

/-- A field that cannot be read makes all fail. -/
theorem mappedFields_unreadable (unreadable : ¬field.Readable) :
    ∃ error, mappedFields taken (field :: rest) = .error error := by
  cases read : ColumnSettings.read field.attributes with
  | error error => exact ⟨error, by simp [mappedFields, read, bind, Except.bind]⟩
  | ok settings => exact absurd (FieldDeclaration.read_eq_ok_iff.mp read).1 unreadable

/-- The fields are mapped exactly if all can be read and the column names of those that are stored
are new and distinct. The induction is on the fields that are left, for any names taken before. -/
theorem mappedFields_eq_ok_iff :
    mappedFields taken declared = .ok fields ↔
      (∀ field ∈ declared, field.Readable) ∧
        ((storedFields declared).map (·.column.name)).Nodup ∧
        (∀ field ∈ storedFields declared, field.column.name ∉ taken) ∧
        fields = (storedFields declared).map (·.mapped) := by
  induction declared generalizing taken fields with
  | nil => simp [mappedFields, storedFields, eq_comm]
  | cons field rest inductionHypothesis =>
    rw [List.forall_mem_cons]
    by_cases readable : field.Readable
    · cases kept : field.isStored with
      | false =>
        have skipped : storedFields (field :: rest) = storedFields rest := by
          simp [storedFields, kept]
        rw [mappedFields_ignored readable kept, inductionHypothesis, skipped]
        simp [readable]
      | true =>
        have divided : storedFields (field :: rest) = field :: storedFields rest := by
          simp [storedFields, kept]
        rw [mappedFields_stored readable kept, divided]
        by_cases repeated : field.column.name ∈ taken
        · simp [repeated]
        · rw [if_neg repeated, List.map_cons, List.nodup_cons, List.forall_mem_cons]
          constructor
          · intro accepted
            obtain ⟨others, remaining, rfl⟩ := except_map_ok accepted
            obtain ⟨each, once, apart, rfl⟩ := inductionHypothesis.mp remaining
            refine ⟨⟨readable, each⟩, ⟨?_, once⟩, ⟨repeated, ?_⟩, rfl⟩
            · intro listed
              obtain ⟨other, kept, same⟩ := List.mem_map.mp listed
              exact apart other kept (same ▸ List.mem_cons_self)
            · intro other kept taken
              exact apart other kept (List.mem_cons_of_mem _ taken)
          · rintro ⟨⟨_, each⟩, ⟨new, once⟩, ⟨_, apart⟩, rfl⟩
            rw [inductionHypothesis.mpr ⟨each, once, fun other kept taken => ?_, rfl⟩]
            · rfl
            · rcases List.mem_cons.mp taken with same | before
              · exact new (List.mem_map.mpr ⟨other, kept, same⟩)
              · exact apart other kept before
    · obtain ⟨error, failed⟩ : ∃ error, mappedFields taken (field :: rest) = .error error :=
        mappedFields_unreadable readable
      rw [failed]
      exact iff_of_false nofun fun accepted => readable accepted.1.1

/-- A type with named fields and no parameters has the entity of its attributes and its fields. -/
theorem ofDeclaration_named {declaration : Declaration} (plain : declaration.generics = [])
    (shape : declaration.shape = .named declared) :
    ofDeclaration declaration =
      TableSettings.read declaration.attributes >>= fun settings =>
        mappedFields [] declared >>= fun fields =>
          if fields.isEmpty then .error .noColumns
          else .ok {
            ident := declaration.ident
            tableName := settings.name.getD (Text.snakeCase (identName declaration.ident))
            schema := settings.schema
            fields } := by
  obtain ⟨ident, generics, attributes, _⟩ := declaration
  cases plain
  cases shape
  rfl

/-- Nothing else makes an entity. -/
theorem named_of_ofDeclaration {declaration : Declaration} {entity : Entity}
    (accepted : ofDeclaration declaration = .ok entity) :
    declaration.generics = [] ∧ ∃ declared, declaration.shape = .named declared := by
  obtain ⟨ident, generics, attributes, shape⟩ := declaration
  cases generics with
  | cons parameter others => cases accepted
  | nil =>
    cases shape with
    | named declared => exact ⟨rfl, declared, rfl⟩
    | tuple | unit | enumeration | union => cases accepted

/-- A declaration makes an entity exactly if it is a type with named fields and no parameters, its
attributes and those of its fields can be read, some field is stored, and the column names of the
stored fields are distinct. -/
theorem ofDeclaration_eq_ok_iff {declaration : Declaration} {entity : Entity} :
    ofDeclaration declaration = .ok entity ↔
      declaration.generics = [] ∧ ∃ declared settings, declaration.shape = .named declared ∧
        TableSettings.read declaration.attributes = .ok settings ∧
        (∀ field ∈ declared, field.Readable) ∧ storedFields declared ≠ [] ∧
        ((storedFields declared).map (·.column.name)).Nodup ∧
        entity = {
          ident := declaration.ident
          tableName := settings.name.getD (Text.snakeCase (identName declaration.ident))
          schema := settings.schema
          fields := (storedFields declared).map (·.mapped) } := by
  constructor
  · intro accepted
    obtain ⟨plain, declared, shape⟩ := named_of_ofDeclaration accepted
    rw [ofDeclaration_named plain shape] at accepted
    obtain ⟨settings, read, accepted⟩ := except_bind_ok accepted
    obtain ⟨fields, mapped, accepted⟩ := except_bind_ok accepted
    obtain ⟨each, once, _, rfl⟩ := mappedFields_eq_ok_iff.mp mapped
    split at accepted
    · cases accepted
    · rename_i filled
      cases accepted
      exact ⟨plain, declared, settings, shape, read, each, by simpa using filled, once, rfl⟩
  · rintro ⟨plain, declared, settings, shape, read, each, filled, once, rfl⟩
    have mapped := mappedFields_eq_ok_iff.mpr ⟨each, once, fun _ _ => List.not_mem_nil, rfl⟩
    rw [ofDeclaration_named plain shape, read, mapped]
    exact if_neg (by simpa using filled)

/-- The fields of an entity are the stored ones, in the order of their declaration. -/
theorem fields_of_ofDeclaration {declaration : Declaration} {entity : Entity}
    (shape : declaration.shape = .named declared)
    (accepted : ofDeclaration declaration = .ok entity) :
    entity.fields = (storedFields declared).map (·.mapped) ∧ storedFields declared ≠ [] ∧
      ((storedFields declared).map (·.column.name)).Nodup := by
  obtain ⟨_, _, _, also, _, _, filled, once, rfl⟩ := ofDeclaration_eq_ok_iff.mp accepted
  rw [shape] at also
  cases also
  exact ⟨rfl, filled, once⟩

/-- The columns of an entity's table are those of the stored fields. -/
theorem columns_of_ofDeclaration {declaration : Declaration} {entity : Entity}
    (shape : declaration.shape = .named declared)
    (accepted : ofDeclaration declaration = .ok entity) :
    entity.table.columns = (storedFields declared).map (·.column) := by
  obtain ⟨fields, _⟩ := fields_of_ofDeclaration shape accepted
  rw [table, fields, List.map_map]
  rfl

/-- Fields with distinct names have distinct columns. -/
theorem distinct_of_ofDeclaration {declaration : Declaration} {entity : Entity}
    (shape : declaration.shape = .named declared) (distinct : (declared.map (·.name)).Nodup)
    (accepted : ofDeclaration declaration = .ok entity) : Distinct entity.table.columns := by
  obtain ⟨_, _, once⟩ := fields_of_ofDeclaration shape accepted
  rw [columns_of_ofDeclaration shape accepted]
  constructor
  · rwa [List.map_map]
  · rw [List.map_map]
    exact distinct.sublist (List.filter_sublist.map _)

end Entity

/-- The table of an entity, of whose fields no two have one name, passes the check of columns that
it has not been put through: it has columns, and no repetition is found among them. So it would be
accepted as it is if it has a name. Declarations without stored fields and those with two stored
fields of one column name make no entity. -/
theorem declared_table_passes_check (declaration : Declaration) (declared : List FieldDeclaration)
    (shape : declaration.shape = .named declared) :
    (∀ entity, (declared.map (·.name)).Nodup → Entity.ofDeclaration declaration = .ok entity →
      entity.table.columns ≠ [] ∧
      Table.firstRepeat? entity.table.name [] entity.table.columns = none ∧
      (Table.checked entity.table.name entity.table.schema entity.table.columns =
        .ok entity.table ↔ entity.table.name ≠ "")) ∧
    (storedFields declared = [] ∨ ¬((storedFields declared).map (·.column.name)).Nodup →
      ∃ error, Entity.ofDeclaration declaration = .error error) := by
  constructor
  · intro entity distinct accepted
    have columns := Entity.distinct_of_ofDeclaration shape distinct accepted
    have filled : entity.table.columns ≠ [] := by
      rw [Entity.columns_of_ofDeclaration shape accepted]
      simpa using (Entity.fields_of_ofDeclaration shape accepted).2.1
    refine ⟨filled, (Table.firstRepeat?_eq_none_iff .nil).mpr columns, ?_⟩
    rw [Table.checked_eq_ok_iff]
    simp [filled, columns]
  · intro refused
    cases made : Entity.ofDeclaration declaration with
    | error error => exact ⟨error, rfl⟩
    | ok entity =>
      obtain ⟨_, filled, once⟩ := Entity.fields_of_ofDeclaration shape made
      exact absurd refused (by simp [filled, once])

/-- Two fields whose columns have each other's names, one of them with a raw identifier, and one
field that is ignored. -/
theorem crossed_declaration_passes_check :
    let declared : List FieldDeclaration := [
      { ident := "r#type"
        attributes := [⟨"column", .list [{ path := "name", literal := some (.text "kind") }]⟩] },
      { ident := "kind"
        attributes := [⟨"column", .list [{ path := "name", literal := some (.text "type") }]⟩] },
      { ident := "cache", attributes := [⟨"column", .list [{ path := "ignore" }]⟩] }]
    let declaration : Declaration := { ident := "Asset", shape := .named declared }
    (declared.map (·.name)).Nodup ∧ ∃ entity, Entity.ofDeclaration declaration = .ok entity ∧
      Table.checked entity.table.name entity.table.schema entity.table.columns =
        .ok entity.table := by
  intro declared declaration
  obtain ⟨entity, made, named⟩ :
      ∃ entity, Entity.ofDeclaration declaration = .ok entity ∧ entity.table.name ≠ "" :=
    ⟨_, rfl, by decide⟩
  have distinct : (declared.map (·.name)).Nodup := by decide
  have checks := (declared_table_passes_check declaration declared rfl).1 entity distinct made
  exact ⟨distinct, entity, made, checks.2.2.mpr named⟩

end Sqlwright
