import TableSchema.Generate.CppStruct

/-!
# Table sources in C++

The source of a table: the member functions of its structs, of its rows and of the table itself.
All functions take the table's key column.
-/

namespace TableSchema.Generate.Cpp

def sourceIncludes (table : Table) : Lines :=
  let splits := !table.localStructs.toList.isEmpty ||
    table.columns.toList.any fun column => column.type = .struct || column.type = .list
  [includeOwn table.name, "", includeSystem "cstddef", ""] ++
    linesIf splits [includeSystem "tablekit/column_splitter.h"] ++
    [includeSystem "tablekit/line_reader.h", includeSystem "tablekit/util.h"]

/-- Reads a line that must be there and checks its column count. -/
def readHeadLine (which : String) : Lines :=
  ["// read " ++ which ++ " line", "line_buffer = r.nextLine();"] ++
    block "if (line_buffer == nullptr)"
      ["*error_info = \"" ++ which ++ " line is required\";", "return false;"] ++
    block "if (line_buffer->size() != column_count_req)"
      (failWith ["\"" ++ which ++ " line column count %zd is invalid, should be %zd\",",
        "line_buffer->size(), column_count_req);"])

def nameCheck (column : Column) : Lines :=
  block ("if ((*line_buffer)[col_number++] != \"" ++ column.name ++ "\")")
    (failWith ["\"column %zd should be named as `" ++ column.name ++ "`\", col_number);"])

def readNameLine (table : Table) : Lines :=
  readHeadLine "name" ++ ["\x7b"] ++
    indent (["size_t col_number = 0;", ""] ++ table.columns.toList.flatMap nameCheck) ++ ["\x7d"]

/-- The loop over the data lines, with the check of their column count. -/
def dataLoop (body : Lines) : Lines :=
  block "for (;;)"
    (["line_buffer = r.nextLine();"] ++ block "if (line_buffer == nullptr)" ["break;"] ++
      block "if (line_buffer->size() != column_count_req)"
        (failWith ["\"line %zd column count %zd is invalid, should be %zd\",",
          "line_number, line_buffer->size(), column_count_req);"]) ++
      body ++ ["", "line_number += 1;"])

def failEmptyKey (key : Column) : Lines :=
  failWith ["\"line %zd key `" ++ key.name ++ "` is empty\", line_number);"]

def failDuplicateKey (key : Column) : Lines :=
  let (format, value) :=
    if key.type = .int then ("%d", "row." ++ key.name)
    else ("%s", "row." ++ key.name ++ ".c_str()")
  failWith ["\"line %zd key `" ++ key.name ++ "` value " ++ format ++
    " is duplicated\", line_number, " ++ value ++ ");"]

def readCell (column : Column) : Lines :=
  let cell := "(*line_buffer)[col_number++]"
  let member := "row." ++ column.name
  let failUnless (call : String) : Lines :=
    block ("if (" ++ call ++ " == false)")
      (failWith ["\"line %zd column `" ++ column.name ++ "` value is invalid\", line_number);"])
  match column.valueType, column.isList with
  | .int, false => [member ++ " = tablekit::util::parseInt(" ++ cell ++ ");"]
  | .int, true => ["tablekit::util::readColumnIntList(" ++ cell ++ ", &" ++ member ++ ");"]
  | .string, false => [member ++ " = " ++ cell ++ ";"]
  | .string, true => ["tablekit::util::readColumnStringList(" ++ cell ++ ", &" ++ member ++ ");"]
  | _, false => failUnless (member ++ ".parse(" ++ cell ++ ")")
  | _, true =>
      failUnless ("tablekit::util::readColumnStructList(" ++ cell ++ ", &" ++ member ++ ")")

def readRow (table : Table) : Lines :=
  ["Row row;", "size_t col_number = 0;", ""] ++ table.columns.toList.flatMap readCell

def keyIsEmpty (table : Table) : String :=
  "(*line_buffer)[" ++ toString table.keyColumnIndex ++ "].empty()"

/-- Reads the data lines of a table whose keys name one row each. -/
def readSingleRows (table : Table) (key : Column) : Lines :=
  let rowKey := "row." ++ key.name
  ["size_t line_number = 3;", "Rows rows;"] ++
    dataLoop
      (block ("if (" ++ keyIsEmpty table ++ ")") (failEmptyKey key) ++ [""] ++
        readRow table ++ [""] ++
        block ("if (rows.find(" ++ rowKey ++ ") != rows.end())") (failDuplicateKey key) ++
        ["", "rows.insert(std::make_pair(" ++ rowKey ++ ", row));"]) ++
    ["rows_.swap(rows);"]

/-- Reads the data lines of a table whose keys name sets of rows. -/
def readRowSets (table : Table) (key : Column) : Lines :=
  let rowKey := "row." ++ key.name
  ["size_t line_number = 3;", "bool has_last_key = false;",
      if key.type = .int then "int32_t last_key = 0;" else "std::string last_key;",
      "RowSets row_sets;"] ++
    dataLoop
      (["", "// an empty key continues the current group",
          "bool is_continuation = " ++ keyIsEmpty table ++ ";"] ++
        block "if (is_continuation && has_last_key == false)" (failEmptyKey key) ++ [""] ++
        readRow table ++ [""] ++
        blockElse "if (is_continuation)"
          [rowKey ++ " = last_key;", "row_sets[last_key].push_back(row);"]
          (block ("if (row_sets.find(" ++ rowKey ++ ") != row_sets.end())")
              (failDuplicateKey key) ++
            ["RowSet row_set;", "row_set.push_back(row);",
              "row_sets.insert(std::make_pair(" ++ rowKey ++ ", row_set));",
              "last_key = " ++ rowKey ++ ";", "has_last_key = true;"])) ++
    ["row_sets_.swap(row_sets);"]

def parseFunction (table : Table) (key : Column) : Lines :=
  function ["bool " ++ table.name ++
      "::parse(const std::string &text, std::string *error_info)"]
    (spaced
      [["tablekit::LineReader r(text);",
          "const tablekit::LineReader::LineBuffer *line_buffer = nullptr;",
          "size_t column_count_req = " ++ toString table.columns.toList.length ++ ";"],
        readHeadLine "comment", readNameLine table,
        ["// read data lines"] ++ (match table.keyType with
          | .single => readSingleRows table key
          | .set => readRowSets table key),
        ["*error_info = \"\";", "return true;"]])

def accessor (schema : Schema) (table : Table) (key : Column) : Lines :=
  let (type, name, rows, member) := match table.keyType with
    | .single => ("Row", "getRow", "Rows", "rows_")
    | .set => ("RowSet", "getRowSet", "RowSets", "row_sets_")
  function ["const " ++ table.name ++ "::" ++ type ++ " *" ++ table.name ++ "::" ++ name ++ "(" ++
      keyParameter schema table key ++ "key) const"]
    ([rows ++ "::const_iterator iter = " ++ member ++ ".find(key);"] ++
      block ("if (iter == " ++ member ++ ".end())") ["return nullptr;"] ++
      ["", "return &iter->second;"])

def tableFunctions (schema : Schema) (table : Table) (key : Column) : List Lines :=
  let ints := table.columns.toList.filter (·.type = .int)
  let name := table.name
  [constructor (name ++ "::Row::Row()") (ints.map (·.name)),
    function [name ++ "::Row::~Row()"] [], function [name ++ "::" ++ name ++ "()"] [],
    function [name ++ "::~" ++ name ++ "()"] [], parseFunction table key,
    accessor schema table key]

def tableSource (parts : List String) (schema : Schema) (table : Table) (key : Column) : Lines :=
  heading ++ sourceIncludes table ++ [""] ++
    inNamespace parts (spaced (table.localStructs.toList.map structFunctions ++
      tableFunctions schema table key))

end TableSchema.Generate.Cpp
