import Sqlwright.Proofs.Command.Fields
import Sqlwright.Proofs.Entity.Mapping

/-!
# What an entity offers of its fields

An entity offers a handle, a column and a value for each stored field. They are known by different
spellings of the field: a handle stands under the identifier as declared, which may be raw, and a
column goes by a name that an attribute may give. What ties them together is the property, which is
the name of the identifier. If these names are distinct, everything that is asked for by a property
is about the one field that has it, also where a column has the property of another field for its
name.

So an instance has a value for every column, and a predicate or an update that names fields by the
handles finds a column for each.
-/

namespace Sqlwright

/-- Cells that have the record's values are captured. -/
theorem Command.captured_of_values {record : Record} {cells : List (Column × Value)}
    (each : ∀ cell ∈ cells, record cell.1.property = some cell.2) :
    captured (cells.map Prod.fst) record = .ok cells := by
  induction cells with
  | nil => rfl
  | cons cell rest inductionHypothesis =>
    obtain ⟨own, others⟩ := List.forall_mem_cons.mp each
    have remaining := inductionHypothesis others
    unfold captured at remaining ⊢
    rw [List.map_cons, List.mapM_cons, own, remaining]
    rfl

namespace Entity

/-- What the entity offers is there once for each of the fields, in their order, and is found by
the name of the field. Under any other name there is no value. -/
structure Describes (entity : Entity) (stored : List FieldDeclaration) : Prop where
  handles : entity.handles = stored.map fun field => (field.ident, ⟨field.name⟩)
  properties : entity.properties = stored.map (·.name)
  columns : entity.table.columns = stored.map (·.column)
  distinct : (stored.map (·.name)).Nodup
  column : ∀ field ∈ stored, entity.table.column? field.name = some field.column
  value : ∀ field ∈ stored, ∀ values, entity.valueOf values field.name = some (values field.ident)
  noValue : ∀ property ∉ stored.map (·.name), ∀ values, entity.valueOf values property = none

variable {entity : Entity} {declaration : Declaration} {declared stored : List FieldDeclaration}

/-- A value is that of the first field with the property. -/
theorem valueOf_eq (fields : entity.fields = stored.map (·.mapped)) (values : String → Value)
    (property : String) :
    entity.valueOf values property =
      (stored.find? (·.name == property)).map fun field => values field.ident := by
  rw [valueOf, fields, List.find?_map, Option.map_map]
  rfl

/-- An entity describes the stored fields of its declaration. -/
theorem describes_of_ofDeclaration (shape : declaration.shape = .named declared)
    (distinct : (declared.map (·.name)).Nodup)
    (made : ofDeclaration declaration = .ok entity) :
    entity.Describes (storedFields declared) := by
  obtain ⟨fields, _, _⟩ := fields_of_ofDeclaration shape made
  have columns := columns_of_ofDeclaration shape made
  have apart := distinct_of_ofDeclaration shape distinct made
  have names : ((storedFields declared).map (·.name)).Nodup :=
    distinct.sublist (List.filter_sublist.map _)
  constructor
  case handles =>
    rw [handles, fields, List.map_map]
    rfl
  case properties =>
    rw [properties, fields, List.map_map]
    rfl
  case columns => exact columns
  case distinct => exact names
  case column =>
    intro field member
    have listed : field.column ∈ entity.table.columns := columns ▸ List.mem_map_of_mem member
    exact Table.column?_property apart listed
  case value =>
    intro field member values
    rw [valueOf_eq fields, find?_key names member]
    rfl
  case noValue =>
    intro property absent values
    have none : (storedFields declared).find? (·.name == property) = none := by
      rw [List.find?_eq_none]
      intro field member same
      exact absent (List.mem_map.mpr ⟨field, member, beq_iff_eq.mp same⟩)
    rw [valueOf_eq fields, none]
    rfl

namespace Describes

/-- An instance has a value for every column, that of the column's field. -/
theorem captured (describes : entity.Describes stored) (values : String → Value) :
    Command.captured entity.table.columns (entity.valueOf values) =
      .ok (stored.map fun field => (field.column, values field.ident)) := by
  have columns : entity.table.columns =
      (stored.map fun field => (field.column, values field.ident)).map Prod.fst := by
    rw [describes.columns, List.map_map]
    rfl
  rw [columns]
  apply Command.captured_of_values
  intro cell member
  obtain ⟨field, listed, rfl⟩ := List.mem_map.mp member
  exact describes.value field listed values

/-- The table has a column for the field that a handle names, wherever it is placed. -/
theorem column_of_handle (describes : entity.Describes stored) (config : Config) {name : String}
    (named : name ∈ entity.handles.map (·.2.name)) :
    (config.place entity.table).column? name ≠ none := by
  rw [describes.handles, List.map_map] at named
  obtain ⟨field, member, rfl⟩ := List.mem_map.mp named
  have found : (config.place entity.table).column? field.name = some field.column :=
    describes.column field member
  exact fun missing => Option.some_ne_none _ (found.symm.trans missing)

end Describes
end Entity

/-- Predicates over fields with columns are not refused for an unknown field. -/
theorem Reason.ne_unknownField {table : Table} {fields : List String} {error : PredicateError}
    (known : ∀ name ∈ fields, table.column? name ≠ none) (reason : Reason table fields error)
    (name field : String) : error ≠ .unknownField name field := by
  cases reason with
  | unknown named missing => exact absurd missing (known _ named)
  | other apart => exact apart name field

/-- An entity, of whose fields no two have one name, agrees with itself: it describes the stored
fields of its declaration. Every instance can be captured, with the value of each field for its
column; and no predicate and no update that names fields by the handles is refused for a field that
the table does not know, in whatever configuration. -/
theorem declared_entity_agrees {entity : Entity} {declaration : Declaration}
    {declared : List FieldDeclaration} (shape : declaration.shape = .named declared)
    (distinct : (declared.map (·.name)).Nodup)
    (made : Entity.ofDeclaration declaration = .ok entity) :
    entity.Describes (storedFields declared) ∧
    (∀ values, Command.captured entity.table.columns (entity.valueOf values) =
      .ok ((storedFields declared).map fun field => (field.column, values field.ident))) ∧
    (∀ (config : Config) expr params name field,
      (∀ used ∈ expr.fields, used ∈ entity.handles.map (·.2.name)) →
      (compile config.dialect (config.place entity.table) expr params).1 ≠
        .error (.unknownField name field)) ∧
    (∀ (config : Config) (update : Update) name field,
      (∀ used ∈ update.fields, used ∈ entity.handles.map (·.2.name)) →
      update.build config entity.table ≠ .error (.predicate (.unknownField name field))) := by
  have describes := Entity.describes_of_ofDeclaration shape distinct made
  refine ⟨describes, describes.captured, ?_, ?_⟩
  · intro config expr params name field named failed
    have reason : Reason (config.place entity.table) expr.fields (.unknownField name field) :=
      reason_of_compile (Prod.ext failed rfl)
    exact reason.ne_unknownField
      (fun used member => describes.column_of_handle config (named used member)) name field rfl
  · intro config update name field named failed
    cases reason_of_update failed with
    | predicate reason =>
      exact reason.ne_unknownField
        (fun used member => describes.column_of_handle config (named used member)) name field rfl
    | other apart => exact apart _ rfl

/-- An asset has a raw identifier and two columns with each other's properties for their names, and
it ignores a field. Its properties are told apart. -/
theorem asset_agrees :
    let declared : List FieldDeclaration := [
      { ident := "id"
        attributes := [⟨"column", .list [{ path := "key" }, { path := "identity" }]⟩] },
      { ident := "r#type"
        attributes := [⟨"column", .list [{ path := "name", literal := some (.text "kind") }]⟩,
          ⟨"column", .list [{ path := "no_update" }]⟩] },
      { ident := "kind"
        attributes := [⟨"column", .list [{ path := "name", literal := some (.text "type") }]⟩] },
      { ident := "cache", attributes := [⟨"column", .list [{ path := "ignore" }]⟩] }]
    let declaration : Declaration := { ident := "Asset", shape := .named declared }
    ∃ entity, Entity.ofDeclaration declaration = .ok entity ∧
      (declared.map (·.name)).Nodup ∧
      entity.table.column? "type" =
        some { name := "kind", property := "type", update := false } ∧
      entity.valueOf .text "type" = some (.text "r#type") ∧
      entity.valueOf .text "cache" = none := by
  intro declared declaration
  obtain ⟨entity, made⟩ : ∃ entity, Entity.ofDeclaration declaration = .ok entity := ⟨_, rfl⟩
  have distinct : (declared.map (·.name)).Nodup := by decide
  have describes := (declared_entity_agrees rfl distinct made).1
  have stored : declared[1] ∈ storedFields declared := by decide
  have name : declared[1].name = "type" := by decide
  have column : declared[1].column = { name := "kind", property := "type", update := false } := by
    decide
  refine ⟨entity, made, distinct, ?_, ?_, describes.noValue "cache" (by decide) _⟩
  · have found := describes.column _ stored
    rwa [column, name] at found
  · have value := describes.value _ stored .text
    rwa [name] at value

end Sqlwright
