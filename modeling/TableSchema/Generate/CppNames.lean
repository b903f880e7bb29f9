import TableSchema.Generate.Lines
import TableSchema.Schema.Basic
import TableSchema.Text.SnakeCase

/-!
# Names in C++

The names that generated C++ code gives to files, namespaces, guards and types, and what stands
around the code of every file.
-/

namespace TableSchema.Generate.Cpp

def fileStem (name : String) : String :=
  snakeCase name

/-- The comment at the head of every file. -/
def heading : Lines :=
  ["/*", " * Generated by tablekit table compiler.",
    " * Do not edit unless you are sure that you know what you are doing.", " */"]

def includeOwn (name : String) : String :=
  "#include \"" ++ fileStem name ++ ".h\""

/-- The line that includes a header of the runtime or of the standard library. -/
def includeSystem (path : String) : String :=
  "#include <" ++ path ++ ">"

/-- Lines inside a namespace, which is left out if it has no parts. -/
def inNamespace (parts : List String) (body : Lines) : Lines :=
  if parts.isEmpty then body
  else
    let name := joined "::" parts
    ["namespace " ++ name ++ " \x7b", ""] ++ body ++ ["", "\x7d // namespace " ++ name]

def guardName (parts : List String) (name : String) : String :=
  Unicode.upper (joined "_" (["TABLEKIT_GENERATED"] ++ parts ++ [snakeCase name, "H"]))

def header (parts : List String) (name : String) (includes declarations : Lines) : Lines :=
  let guard := guardName parts name
  heading ++ ["#ifndef " ++ guard, "#define " ++ guard, ""] ++ includes ++ [""] ++
    inNamespace parts declarations ++ ["", "#endif"]

def fieldType : FieldType → String
  | .int => "int32_t"
  | .string => "std::string"

def valueType (schema : Schema) (table : Table) (column : Column) : String :=
  match column.valueType with
  | .int => "int32_t"
  | .string => "std::string"
  | _ => ((schema.columnStruct? table column).map (·.name)).getD ""

def columnType (schema : Schema) (table : Table) (column : Column) : String :=
  let type := valueType schema table column
  if column.isList then "std::vector<" ++ type ++ ">" else type

/-- The type by which a key is passed, up to the parameter's name. -/
def keyParameter (schema : Schema) (table : Table) (key : Column) : String :=
  let type := columnType schema table key
  if key.type = .string then "const " ++ type ++ " &" else type ++ " "

def function (head : Lines) (body : Lines) : Lines :=
  head ++ ["\x7b"] ++ indent body ++ ["\x7d"]

/-- The lines of a list, each but the last with a comma. -/
def commaEnded : Lines → Lines
  | [] => []
  | [line] => [line]
  | line :: rest => (line ++ ",") :: commaEnded rest

def constructor (name : String) (zeroMembers : List String) : Lines :=
  let inits := commaEnded (zeroMembers.map (· ++ "(0)"))
  function (if inits.isEmpty then [name] else [name ++ " :"] ++ indent inits) []

/-- Sets the error of a parser to formatted text and fails. The lines are the arguments. -/
def failWith (arguments : Lines) : Lines :=
  ["*error_info = tablekit::util::error("] ++ indent arguments ++ ["return false;"]

end TableSchema.Generate.Cpp
