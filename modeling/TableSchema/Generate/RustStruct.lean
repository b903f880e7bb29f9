import TableSchema.Generate.RustNames

/-!
# Structs in Rust

The definition of a struct and of how it is read from a cell.
-/

namespace TableSchema.Generate.Rust

def readField : FieldType → String
  | .int => "s.next_int()?"
  | .string => "s.next_str()?.to_owned()"

def structDefinition (struct : Struct) : Lines :=
  let head := "pub struct " ++ escape struct.name
  let fields := struct.fields.toList.map fun field =>
    "pub " ++ escape field.name ++ ": " ++ fieldType field.type ++ ","
  ["#[derive(Debug, Clone, PartialEq, Eq, Default)]"] ++
    if fields.isEmpty then [head ++ " \x7b\x7d"] else block head fields

/-- The function that reads a struct from a cell: just as many tokens as there are fields, or
anything at all if there are none. -/
def structParse (struct : Struct) : Lines :=
  if struct.fields.toList.isEmpty then
    block "fn parse(_text: &str) -> Option<Self>" ["Some(Self \x7b\x7d)"]
  else
    block "fn parse(text: &str) -> Option<Self>" <|
      ["let mut s = ColumnSplitter::new(text, STRUCT_DELIMITER);"] ++
      blockWith ";" "let value = Self"
        (struct.fields.toList.map fun field =>
          escape field.name ++ ": " ++ readField field.type ++ ",") ++
      block "if s.next_str().is_some()" ["return None;"] ++
      ["Some(value)"]

def structItems (struct : Struct) : Lines :=
  structDefinition struct ++ [""] ++
    block ("impl ParseValue for " ++ escape struct.name) (structParse struct)

def structImports (struct : Struct) : Lines :=
  if struct.fields.toList.isEmpty then ["use tablekit_runtime::ParseValue;"]
  else ["use tablekit_runtime::\x7bColumnSplitter, ParseValue, STRUCT_DELIMITER\x7d;"]

def structModule (struct : Struct) : Lines :=
  heading ++ structImports struct ++ [""] ++ structItems struct

end TableSchema.Generate.Rust
