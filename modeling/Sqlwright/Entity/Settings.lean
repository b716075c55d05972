import Sqlwright.Entity.Declaration
import Sqlwright.Text.Blank

/-!
# Reading attributes

The items of all attributes with one path are read from left to right into one record of
settings; a later item replaces an earlier one of the same name. Some items store a
text, which must not be blank, the others are flags. The first item that cannot be read
is reported.
-/

namespace Sqlwright

/-- What an item of a known name does to the settings. -/
inductive ItemEffect (σ : Type) where
  /-- Stores a text. Messages call it `what`. -/
  | text (what : String) (store : String → σ → σ)
  /-- Sets a flag. -/
  | flag (set : σ → σ)

/-- Whether a text has two colons in a row. -/
def hasDoubleColon : List Char → Bool
  | [] => false
  | [_] => false
  | c :: d :: rest => (c == ':' && d == ':') || hasDoubleColon (d :: rest)

/-- Whether a path has several segments, which two colons separate. -/
def isCompoundPath (path : String) : Bool := hasDoubleColon path.toList

/-- Read one item. A flag is set before a value behind it is refused. -/
def readItem {σ : Type} (effect? : String → Except DeclarationError (ItemEffect σ)) (settings : σ)
    (item : AttributeItem) : Except DeclarationError σ := do
  if isCompoundPath item.path then throw .compoundPath
  match ← effect? item.path, item.literal with
  | .text _ _, none => throw .missingEquals
  | .text _ _, some .other => throw .notText
  | .text what store, some (.text s) =>
    if Text.isBlankText s then throw (.blank what) else return store s settings
  | .flag set, none => return set settings
  | .flag _, some _ => throw .missingComma

/-- Read all attributes with the given path; the others mean nothing here. -/
def readAttributes {σ : Type} (path : String)
    (effect? : String → Except DeclarationError (ItemEffect σ)) (settings : σ)
    (attributes : List Attribute) : Except DeclarationError σ :=
  (attributes.filter (·.path == path)).foldlM (fun settings found =>
    match found.arguments with
    | .absent => .error (.missingArguments path)
    | .value => .error (.missingParentheses path)
    | .list items => items.foldlM (readItem effect?) settings) settings

/-- The settings of a table. -/
structure TableSettings where
  name : Option String := none
  schema : Option String := none
deriving DecidableEq, Repr

namespace TableSettings

/-- The items of a table attribute. -/
def effect? : String → Except DeclarationError (ItemEffect TableSettings)
  | "name" => .ok (.text "table name" fun s settings => { settings with name := some s })
  | "schema" => .ok (.text "schema" fun s settings => { settings with schema := some s })
  | other => .error (.unknownTableItem other)

/-- The settings that the attributes of a type make. -/
def read (attributes : List Attribute) : Except DeclarationError TableSettings :=
  readAttributes "table" effect? {} attributes

end TableSettings

/-- The settings of a column. -/
structure ColumnSettings where
  name : Option String := none
  key : Bool := false
  identity : Bool := false
  /-- The field is not stored at all. -/
  ignore : Bool := false
  readOnly : Bool := false
  noSelect : Bool := false
  noInsert : Bool := false
  noUpdate : Bool := false
  concurrency : Bool := false
  insertSql : Option String := none
  updateSql : Option String := none
deriving DecidableEq, Repr

namespace ColumnSettings

/-- The items of a column attribute. -/
def effect? : String → Except DeclarationError (ItemEffect ColumnSettings)
  | "name" => .ok (.text "column name" fun s settings => { settings with name := some s })
  | "insert_sql" => .ok (.text "insert_sql" fun s settings => { settings with insertSql := some s })
  | "update_sql" => .ok (.text "update_sql" fun s settings => { settings with updateSql := some s })
  | "key" => .ok (.flag fun settings => { settings with key := true })
  | "identity" => .ok (.flag fun settings => { settings with identity := true })
  | "ignore" => .ok (.flag fun settings => { settings with ignore := true })
  | "read_only" => .ok (.flag fun settings => { settings with readOnly := true })
  | "no_select" => .ok (.flag fun settings => { settings with noSelect := true })
  | "no_insert" => .ok (.flag fun settings => { settings with noInsert := true })
  | "no_update" => .ok (.flag fun settings => { settings with noUpdate := true })
  | "concurrency" => .ok (.flag fun settings => { settings with concurrency := true })
  | other => .error (.unknownColumnItem other)

/-- Whether a field is ignored and yet told to be a key, an identity or a named column. -/
def isContradictory (settings : ColumnSettings) : Bool :=
  settings.ignore && (settings.key || settings.identity || settings.name.isSome)

/-- The settings that the attributes of a field make. -/
def read (attributes : List Attribute) : Except DeclarationError ColumnSettings := do
  let settings ← readAttributes "column" effect? {} attributes
  if settings.isContradictory then throw .ignoredColumn
  return settings

end ColumnSettings
end Sqlwright
