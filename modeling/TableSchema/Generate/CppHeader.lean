import TableSchema.Generate.CppStruct

/-!
# Table headers in C++

The header of a table declares its class, in which the classes of its structs and of its rows lie.
-/

namespace TableSchema.Generate.Cpp

/-- The structs of the schema to which columns refer, each once, in the order of first use. -/
def usedStructs (schema : Schema) (table : Table) : List String :=
  table.columns.toList.foldl (fun names column =>
    match schema.columnStruct? table column with
    | some struct =>
        if column.valueType = .struct && struct.isGlobal && !names.contains struct.name then
          names ++ [struct.name]
        else names
    | none => names) []

def tableIncludes (schema : Schema) (table : Table) : Lines :=
  let columns := table.columns.toList
  let structs := table.localStructs.toList
  let usesInt := columns.any (·.valueType = .int) ||
    structs.any fun struct => struct.fields.toList.any (·.type = .int)
  let usesVector := table.keyType = .set || columns.any (·.isList)
  let own := (usedStructs schema table).map includeOwn
  linesIf usesInt [includeSystem "cstdint"] ++ [includeSystem "map", includeSystem "string"] ++
    linesIf usesVector [includeSystem "vector"] ++ linesIf (!own.isEmpty) [""] ++ own

def rowClass (schema : Schema) (table : Table) : Lines :=
  let members := table.columns.toList.map fun column =>
    columnType schema table column ++ " " ++ column.name ++ ";"
  ["class Row \x7b", "public:"] ++ indent ["Row();", "~Row();"] ++
    linesIf (!members.isEmpty) ["", "public:"] ++ indent members ++ ["\x7d;"]

def rowTypes (schema : Schema) (table : Table) (key : Column) : Lines :=
  let keyType := columnType schema table key
  match table.keyType with
  | .single => ["using Rows = std::map<" ++ keyType ++ ", Row>;"]
  | .set =>
      ["using RowSet = std::vector<Row>;", "using RowSets = std::map<" ++ keyType ++ ", RowSet>;"]

def accessorDeclarations (schema : Schema) (table : Table) (key : Column) : Lines :=
  let parameter := keyParameter schema table key ++ "key"
  match table.keyType with
  | .single =>
      ["const Row *getRow(" ++ parameter ++ ") const;",
        "const Rows &getRows() const \x7b return rows_; \x7d"]
  | .set =>
      ["const RowSet *getRowSet(" ++ parameter ++ ") const;",
        "const RowSets &getRowSets() const \x7b return row_sets_; \x7d"]

def tableDeclarations (schema : Schema) (table : Table) (key : Column) : Lines :=
  [table.name ++ "();", "~" ++ table.name ++ "();", "",
      "bool parse(const std::string &text, std::string *error_info);"] ++
    accessorDeclarations schema table key

def rowsMember (table : Table) : String :=
  match table.keyType with
  | .single => "Rows rows_;"
  | .set => "RowSets row_sets_;"

def tableClass (schema : Schema) (table : Table) (key : Column) : Lines :=
  ["class " ++ table.name ++ " \x7b", "public:"] ++
    indent (spaced (table.localStructs.toList.map structClass ++
      [rowClass schema table, rowTypes schema table key, tableDeclarations schema table key])) ++
    ["", "private:"] ++ indent [rowsMember table] ++ ["\x7d;"]

def tableHeader (parts : List String) (schema : Schema) (table : Table) (key : Column) : Lines :=
  header parts table.name (tableIncludes schema table) (tableClass schema table key)

end TableSchema.Generate.Cpp
