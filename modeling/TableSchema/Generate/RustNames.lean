import TableSchema.Generate.Lines
import TableSchema.Schema.Basic
import TableSchema.Text.SnakeCase

/-!
# Names in Rust

The names that generated Rust code gives to modules, types and members. A name that is a word of
the language gets an underscore at its end, as not every such word can be written raw.
-/

namespace TableSchema.Generate.Rust

/-- The words that are no names. -/
def keywords : List String :=
  ["abstract", "as", "async", "await", "become", "box", "break", "const", "continue", "crate",
    "do", "dyn", "else", "enum", "extern", "false", "final", "fn", "for", "gen", "if", "impl",
    "in", "let", "loop", "macro", "match", "mod", "move", "mut", "override", "priv", "pub", "ref",
    "return", "self", "Self", "static", "struct", "super", "trait", "true", "try", "type",
    "typeof", "unsafe", "unsized", "use", "virtual", "where", "while", "yield"]

/-- A name that is no word of the language. -/
def escape (name : String) : String :=
  if keywords.contains name then name ++ "_" else name

/-- The module of a struct or table, which is also the stem of its file. -/
def moduleName (name : String) : String :=
  escape (snakeCase name)

/-- The comment at the head of every file. -/
def heading : Lines :=
  ["// Generated by tablekit table compiler.",
    "// Do not edit unless you are sure that you know what you are doing.", ""]

def fieldType : FieldType → String
  | .int => "i32"
  | .string => "String"

/-- A struct as the module of a table refers to it: those of the schema by their path, as their
names may be taken in the module. -/
def structPath (struct : Struct) : String :=
  if struct.isGlobal then "super::" ++ moduleName struct.name ++ "::" ++ escape struct.name
  else escape struct.name

def valueType (schema : Schema) (table : Table) (column : Column) : String :=
  match column.valueType with
  | .int => "i32"
  | .string => "String"
  | _ => ((schema.columnStruct? table column).map structPath).getD ""

def columnType (schema : Schema) (table : Table) (column : Column) : String :=
  let type := valueType schema table column
  if column.isList then "Vec<" ++ type ++ ">" else type

/-- An expression that leaves the key in its place. -/
def keyCopy (key : Column) (place : String) : String :=
  if key.type = .int then place else place ++ ".clone()"

end TableSchema.Generate.Rust
