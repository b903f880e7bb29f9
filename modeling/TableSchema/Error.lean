import TableSchema.Files.Error
import TableSchema.Text.Quoted

/-!
# Errors

Why a define document is rejected, why a schema is unsound, why a data file cannot be cut, and the
errors that the operations of the library report. Each cause has its own constructor, and its
wording stands in `message`.
-/

namespace TableSchema

/-- What is wrong with a declaration of a define document. -/
inductive DefinitionFault where
  /-- The document is no well-formed XML. -/
  | unreadable
  /-- The root element is not `define`. -/
  | wrongRoot
  /-- An element lacks an attribute. -/
  | missingAttribute (element attr : String)
  /-- An element other than a field stands in a struct. -/
  | expectedField
  /-- An element other than a struct or a column stands in a table. -/
  | expectedStructOrColumn
  /-- A table has both kinds of key. -/
  | twoKeys
  /-- A table has no key. -/
  | noKey
  /-- The name of an element is no identifier. -/
  | invalidName (element : String)
  /-- The name of an element is taken. -/
  | duplicatedName (element : String)
  /-- A part of a namespace is no identifier. -/
  | invalidNamespace
  /-- A struct of a table bears the name of a generated member. -/
  | reservedName
  /-- A field has a type other than the two it may have. -/
  | invalidFieldType (type : String)
  /-- A column has a type that is not declared. -/
  | undefinedType (type : String)
  /-- The key names no column. -/
  | undefinedKey (key : String)
  /-- The key column holds structs or lists. -/
  | invalidKeyType
  /-- A reader is not declared. -/
  | undefinedReader (reader : String)
deriving DecidableEq, Repr

namespace DefinitionFault

/-- Whether the form of the document is at fault and not its meaning. -/
def isSyntactic : DefinitionFault → Bool
  | unreadable | wrongRoot | missingAttribute .. | expectedField | expectedStructOrColumn
  | twoKeys | noKey => true
  | _ => false

def message : DefinitionFault → String
  | unreadable => "can not load define file"
  | wrongRoot => "root node must be `define` node"
  | missingAttribute element attr =>
      "`" ++ element ++ "` node must contain a `" ++ attr ++ "` attribute"
  | expectedField => "expect a `field` node"
  | expectedStructOrColumn => "expect a `struct` or `col` node"
  | twoKeys => "`table` node can not contain both `key` and `setkey` attribute"
  | noKey => "`table` node must contain a `key` or `setkey` attribute"
  | invalidName element => "`" ++ element ++ "` node `name` attribute is invalid"
  | duplicatedName element => "`" ++ element ++ "` node `name` attribute duplicated"
  | invalidNamespace => "`reader` node `namespace` attribute is invalid"
  | reservedName => "local struct can not be named as `Row`, `Rows`, `RowSet` or `RowSets`"
  | invalidFieldType type => "type `" ++ type ++ "` is invalid"
  | undefinedType type => "type `" ++ type ++ "` is undefined"
  | undefinedKey key => "table key `" ++ key ++ "` is not defined"
  | invalidKeyType => "table key can only be `int` or `string` type"
  | undefinedReader reader => "reader `" ++ reader ++ "` is not defined"

end DefinitionFault

/-- The kinds of names in a schema. -/
inductive NameKind where
  | reader
  | namespacePart
  | struct
  | table
  | field
  | column
deriving DecidableEq, Repr

def NameKind.text : NameKind → String
  | reader => "reader"
  | namespacePart => "namespace part"
  | struct => "struct"
  | table => "table"
  | field => "field"
  | column => "column"

/-- What makes a schema unsound. -/
inductive SchemaFault where
  | invalidName (kind : NameKind) (name : String)
  | definedTwice (kind : NameKind) (name : String)
  | ownedGlobal (struct : String)
  | notOwned (struct table : String)
  | reserved (struct : String)
  | undefinedReader (reader : String)
  | invalidListType (column : String)
  | unresolvedType (column : String)
  | misplacedKey (key table : String) (index : Nat)
  | invalidKeyType (key table : String)
deriving DecidableEq, Repr

/-- The fault in one sentence. Names are quoted, as they may be any text. -/
def SchemaFault.message : SchemaFault → String
  | invalidName kind name => "The " ++ kind.text ++ " name " ++ Quoted.json name ++ " is invalid"
  | definedTwice kind name => "The " ++ kind.text ++ " " ++ Quoted.json name ++ " is defined twice"
  | ownedGlobal struct => "The global struct " ++ Quoted.json struct ++ " has an owner"
  | notOwned struct table =>
      "The local struct " ++ Quoted.json struct ++ " is not owned by table " ++ Quoted.json table
  | reserved struct => "The local struct name " ++ Quoted.json struct ++ " is reserved"
  | undefinedReader reader => "The reader " ++ Quoted.json reader ++ " is not defined"
  | invalidListType column => "The column " ++ Quoted.json column ++ " has an invalid list type"
  | unresolvedType column => "The type of column " ++ Quoted.json column ++ " does not resolve"
  | misplacedKey key table index =>
      "The key " ++ Quoted.json key ++ " of table " ++ Quoted.json table ++ " is not at column " ++
        toString index
  | invalidKeyType key table =>
      "The key " ++ Quoted.json key ++ " of table " ++ Quoted.json table ++
        " must be int or string"

/-- Why a data file cannot be cut. Lines and columns count from one. -/
inductive CutFault where
  | unreadable (e : FileError)
  | unendedLine
  | missingHeader
  | columnCount (line found expected : Nat)
  | columnName (column : Nat) (name : String)
deriving DecidableEq, Repr

def CutFault.message : CutFault → String
  | unreadable e => "can not read input file: " ++ e.message
  | unendedLine => "file line ending is required"
  | missingHeader => "comment line and name line is required"
  | columnCount line found expected =>
      "line " ++ toString line ++ " column count " ++ toString found ++
        " is invalid, should be " ++ toString expected
  | columnName column name =>
      "column " ++ toString column ++ " should be named as `" ++ name ++ "`"

/-- The errors that the library reports. -/
inductive CompileError where
  /-- A file could not be read. -/
  | file (e : FileError)
  /-- A declaration on some line of a define document is at fault. -/
  | definition (path : String) (line : Nat) (fault : DefinitionFault)
  /-- No such reader is declared. -/
  | unknownReader (reader : String)
  /-- A file could not be written. -/
  | write (path : String) (e : FileError)
  /-- The schema is unsound. -/
  | unsound (fault : SchemaFault)
  /-- A data file could not be cut. -/
  | cut (file : String) (fault : CutFault)
  /-- No code is generated for the language. -/
  | unsupportedLanguage (language : String)
deriving DecidableEq, Repr

namespace CompileError

def message : CompileError → String
  | file e => "I/O error: " ++ e.message
  | definition path line fault => "error:" ++ path ++ ":" ++ toString line ++ ": " ++ fault.message
  | unknownReader reader => "reader `" ++ reader ++ "` is not defined"
  | write path e => "write file " ++ path ++ " failed: " ++ e.message
  | unsound fault => "Verifier error: " ++ fault.message
  | cut source fault => "input file `" ++ source ++ "`: " ++ fault.message
  | unsupportedLanguage language => "language `" ++ language ++ "` is not supported"

/-- The line of the define document, for errors that have one. -/
def line? : CompileError → Option Nat
  | definition _ line _ => some line
  | _ => none

end CompileError

/-- Why an operation on a schema stops. -/
inductive Failure where
  /-- An error that is reported. -/
  | error (e : CompileError)
  /-- A name index or the key's place points past the end of its list. -/
  | outOfRange
deriving DecidableEq, Repr

end TableSchema
