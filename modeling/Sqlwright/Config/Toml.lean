import Sqlwright.Config
import Sqlwright.Text.Blank
import Sqlwright.Toml.Document

/-!
# Configurations in TOML

A configuration is the table `sleet` of a document. Everything else in the document is
left alone, but in the table itself no other settings are allowed. Each setting has a
default. A schema that is given must not be blank.

The settings may also be listed in order, as an array. A dialect is given by one of its
spellings, or as a table whose only entry has that spelling for its name and is empty.
-/

namespace Sqlwright

/-- Why a document holds no configuration. -/
inductive ConfigError where
  /-- The document is no TOML, or its settings have other names or types. -/
  | malformed
  /-- The default schema is given and blank. -/
  | blankSchema
deriving DecidableEq, Repr

/-- The wording of an error. Documents that cannot be read have none of their own. -/
def ConfigError.message? : ConfigError → Option String
  | .malformed => none
  | .blankSchema => some "Configuration error: default_schema must not be empty"

namespace Config

/-- Whether a value is an array or a table without contents. -/
def isEmptyValue : Toml.Value → Bool
  | .array items => items.isEmpty
  | .table _ entries => entries.isEmpty
  | _ => false

/-- The dialect that a value gives. -/
def dialectOf? : Toml.Value → Option Dialect
  | .text spelling => Dialect.ofSpelling? spelling
  | .table _ [(spelling, contents)] =>
    if isEmptyValue contents then Dialect.ofSpelling? spelling else none
  | _ => none

/-- The text that a value gives. -/
def textOf? : Toml.Value → Option String
  | .text s => some s
  | _ => none

/-- The truth value that a value gives. -/
def booleanOf? : Toml.Value → Option Bool
  | .boolean b => some b
  | _ => none

/-- Change one setting of a configuration. -/
def withSetting? (config : Config) (name : String) (value : Toml.Value) : Option Config :=
  match name with
  | "dialect" => (dialectOf? value).map fun dialect => { config with dialect }
  | "default_schema" => (textOf? value).map fun schema =>
    { config with defaultSchema := some schema }
  | "alias_columns" => (booleanOf? value).map fun aliasColumns => { config with aliasColumns }
  | _ => none

/-- The settings in the order in which an array lists them. -/
def settingNames : List String := ["dialect", "default_schema", "alias_columns"]

/-- The configuration that a value gives. -/
def ofValue? : Toml.Value → Option Config
  | .table _ entries =>
    entries.foldlM (fun config entry => withSetting? config entry.1 entry.2) {}
  | .array items | .tables items =>
    (settingNames.zip items).foldlM (fun config entry => withSetting? config entry.1 entry.2) {}
  | _ => none

/-- The configuration in a document. -/
def ofToml (document : String) : Except ConfigError Config :=
  match (Toml.read? document).bind fun entries => (entries.get? "sleet").bind ofValue? with
  | none => .error .malformed
  | some config =>
    if config.defaultSchema.any Text.isBlankText then .error .blankSchema else .ok config

end Config
end Sqlwright
