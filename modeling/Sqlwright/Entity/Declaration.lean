/-!
# Declarations of entities

An entity is declared as a type with named fields. Attributes on the type and on its
fields say how they are stored. An identifier may be written raw, with `r#` in front,
where its name would otherwise be a keyword; its name is what follows.
-/

namespace Sqlwright

/-- The name of an identifier, without the mark of a raw one. -/
def identName (ident : String) : String :=
  match ident.toList with
  | 'r' :: '#' :: name => String.ofList name
  | _ => ident

/-- A literal in an attribute. Only texts are of use. -/
inductive AttributeLiteral where
  | text (s : String)
  | other
deriving DecidableEq, Repr

/-- One item of an attribute's list: a path, perhaps with a literal behind an equals
sign. -/
structure AttributeItem where
  path : String
  literal : Option AttributeLiteral := none
deriving DecidableEq, Repr

/-- What follows the path of an attribute. -/
inductive AttributeArguments where
  /-- Nothing. -/
  | absent
  /-- A literal behind an equals sign. -/
  | value
  /-- A list of items in parentheses. -/
  | list (items : List AttributeItem)
deriving DecidableEq, Repr

/-- An attribute of a type or of a field. -/
structure Attribute where
  path : String
  arguments : AttributeArguments
deriving DecidableEq, Repr

/-- A declared field. -/
structure FieldDeclaration where
  ident : String
  attributes : List Attribute := []
deriving DecidableEq, Repr

/-- The kinds of type declarations. Only the first can be an entity. -/
inductive DeclarationShape where
  | named (fields : List FieldDeclaration)
  | tuple
  | unit
  | enumeration
  | union
deriving DecidableEq, Repr

/-- A declared type. -/
structure Declaration where
  ident : String
  generics : List String := []
  attributes : List Attribute := []
  shape : DeclarationShape
deriving DecidableEq, Repr

/-- Why a declaration is no entity. -/
inductive DeclarationError where
  | generic
  | unnamedFields
  | notStruct
  /-- The attribute has no arguments. -/
  | missingArguments (path : String)
  /-- The attribute has a value in place of a list. -/
  | missingParentheses (path : String)
  /-- The path of an item has several segments. -/
  | compoundPath
  /-- An item that needs a value has none. -/
  | missingEquals
  /-- An item has a value that is no text. -/
  | notText
  /-- An item that takes no value has one. -/
  | missingComma
  | blank (what : String)
  | unknownTableItem (name : String)
  | unknownColumnItem (name : String)
  /-- An ignored field has an attribute that only a column can have. -/
  | ignoredColumn
  | duplicateColumn (column : String)
  | noColumns
deriving DecidableEq, Repr

/-- The wording of an error. -/
def DeclarationError.message : DeclarationError → String
  | .generic => "Entity cannot be derived for generic structs"
  | .unnamedFields => "Entity can only be derived for structs with named fields"
  | .notStruct => "Entity can only be derived for structs"
  | .missingArguments path => "expected attribute arguments in parentheses: #[" ++ path ++ "(...)]"
  | .missingParentheses path => "expected parentheses: #[" ++ path ++ "(...)]"
  | .compoundPath => "expected identifier"
  | .missingEquals => "expected `=`"
  | .notText => "expected string literal"
  | .missingComma => "expected `,`"
  | .blank what => what ++ " cannot be empty"
  | .unknownTableItem name =>
    "unknown table attribute `" ++ name ++ "`, expected `name` or `schema`"
  | .unknownColumnItem name => "unknown column attribute `" ++ name ++ "`"
  | .ignoredColumn => "`ignore` cannot be combined with other column attributes"
  | .duplicateColumn column => "duplicate column name `" ++ column ++ "`"
  | .noColumns => "Entity requires at least one mapped column"

end Sqlwright
