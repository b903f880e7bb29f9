import TableSchema.Generate.CppNames

/-!
# Structs in C++

The class of a struct and its member functions, among them how it is read from a cell.
-/

namespace TableSchema.Generate.Cpp

def structClass (struct : Struct) : Lines :=
  let fields := struct.fields.toList.map fun field =>
    fieldType field.type ++ " " ++ field.name ++ ";"
  ["class " ++ struct.name ++ " \x7b", "public:"] ++
    indent [struct.name ++ "();", "~" ++ struct.name ++ "();", "",
      "bool parse(const std::string &text);"] ++
    linesIf (!fields.isEmpty) ["", "public:"] ++ indent fields ++ ["\x7d;"]

def structIncludes (struct : Struct) : Lines :=
  linesIf (struct.fields.toList.any (·.type = .int)) [includeSystem "cstdint"] ++
    [includeSystem "string"]

/-- The class of a struct with the class in which it lies. -/
def className (struct : Struct) : String :=
  match struct.owner with
  | some table => table ++ "::" ++ struct.name
  | none => struct.name

def readField : FieldType → String
  | .int => "nextInt"
  | .string => "nextString"

/-- How a struct is read from a cell: just as many tokens as there are fields, or anything at all
if there are none. -/
def structParse (struct : Struct) : Lines :=
  let fields := struct.fields.toList
  if fields.isEmpty then ["return true;"]
  else
    ["tablekit::ColumnSplitter s(text, ';');", ""] ++
      (fields.flatMap fun field =>
        block ("if (s." ++ readField field.type ++ "(&this->" ++ field.name ++ ") == false)")
          ["return false;"]) ++
      block "if (s.nextString(nullptr))" ["return false;"] ++ ["", "return true;"]

def structFunctions (struct : Struct) : Lines :=
  let ints := struct.fields.toList.filter (·.type = .int)
  let name := className struct
  spaced
    [constructor (name ++ "::" ++ struct.name ++ "()") (ints.map (·.name)),
      function [name ++ "::~" ++ struct.name ++ "()"] [],
      function ["bool " ++ name ++ "::parse(const std::string &text)"] (structParse struct)]

def structHeader (parts : List String) (struct : Struct) : Lines :=
  header parts struct.name (structIncludes struct) (structClass struct)

def structSource (parts : List String) (struct : Struct) : Lines :=
  heading ++ [includeOwn struct.name, "", includeSystem "tablekit/column_splitter.h", ""] ++
    inNamespace parts (structFunctions struct)

end TableSchema.Generate.Cpp
