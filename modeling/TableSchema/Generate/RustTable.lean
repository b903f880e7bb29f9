import TableSchema.Generate.RustStruct

/-!
# Tables in Rust

The module of a table: its structs, the types of its rows, and the table with its parser and the
functions by which rows are found. All functions take the table's key column.
-/

namespace TableSchema.Generate.Rust

def quoted (name : String) : String :=
  "\"" ++ name ++ "\""

def runtimeImports (table : Table) : List String :=
  let structs := table.localStructs.toList
  let splits := structs.any fun struct => !struct.fields.toList.isEmpty
  let parses := !structs.isEmpty || table.columns.toList.any (·.type = .struct)
  ["util", "LineReader"] ++ linesIf splits ["ColumnSplitter"] ++ linesIf parses ["ParseValue"] ++
    linesIf splits ["STRUCT_DELIMITER"] ++ ["TableParseError"]

def rowTypes (schema : Schema) (table : Table) (key : Column) : Lines :=
  let keyType := columnType schema table key
  match table.keyType with
  | .single => ["pub type Rows = BTreeMap<" ++ keyType ++ ", Row>;"]
  | .set =>
      ["pub type RowSet = Vec<Row>;", "pub type RowSets = BTreeMap<" ++ keyType ++ ", RowSet>;"]

def rowDefinition (schema : Schema) (table : Table) : Lines :=
  ["#[derive(Debug, Clone, PartialEq, Default)]"] ++
    block "pub struct Row" (table.columns.toList.map fun column =>
      "pub " ++ escape column.name ++ ": " ++ columnType schema table column ++ ",")

def rowsMember (table : Table) : String :=
  match table.keyType with
  | .single => "rows: Rows,"
  | .set => "row_sets: RowSets,"

def tableDefinition (table : Table) : Lines :=
  ["#[derive(Debug, Clone, Default)]"] ++
    block ("pub struct " ++ escape table.name) [rowsMember table]

def emptyKeyError (table : Table) : String :=
  "TableParseError::EmptyKey \x7b line: line_number, key: " ++ quoted table.keyName ++
    ".to_owned() \x7d"

def duplicateKeyCheck (table : Table) (rows : String) : Lines :=
  let key := escape table.keyName
  block ("if " ++ rows ++ ".contains_key(&row." ++ key ++ ")") <|
    blockWith ");" "return Err(TableParseError::DuplicateKey"
      ["line: line_number,", "key: " ++ quoted table.keyName ++ ".to_owned(),",
        "value: row." ++ key ++ ".to_string(),"]

/-- Gives up with the error that the value of a column is invalid. -/
def orInvalid (column : Column) : String :=
  ".ok_or_else(|| TableParseError::InvalidValue \x7b line: line_number, column: " ++
    quoted column.name ++ ".to_owned() \x7d)?"

def cellValue (schema : Schema) (table : Table) (column : Column) (index : Nat) : String :=
  let cell := "line[" ++ toString index ++ "]"
  match column.valueType, column.isList with
  | .int, false => "util::parse_int(&" ++ cell ++ ")"
  | .int, true => "util::read_int_list(&" ++ cell ++ ")"
  | .string, false => cell ++ ".clone()"
  | .string, true => "util::read_string_list(&" ++ cell ++ ")"
  | _, false => valueType schema table column ++ "::parse(&" ++ cell ++ ")" ++ orInvalid column
  | _, true =>
      "util::read_struct_list::<" ++ valueType schema table column ++ ">(&" ++ cell ++ ")" ++
        orInvalid column

def buildRow (schema : Schema) (table : Table) (binding : String) : Lines :=
  blockWith ";" ("let " ++ binding ++ " = Row") <|
    table.columns.toList.zipIdx.map fun (column, index) =>
      escape column.name ++ ": " ++ cellValue schema table column index ++ ","

def keyIsEmpty (table : Table) : String :=
  "line[" ++ toString table.keyColumnIndex ++ "].is_empty()"

/-- The head of the loop over the data lines, and the check of their column count. -/
def dataLoop (body : Lines) : Lines :=
  ["let mut line_number = 3;"] ++
    block "while let Some(line) = r.next_line()"
      (["util::check_column_count(line_number, &line, COLUMN_COUNT)?;"] ++ body ++
        ["line_number += 1;"])

/-- Reads the data lines of a table whose keys name one row each. -/
def readSingleRows (schema : Schema) (table : Table) (key : Column) : Lines :=
  ["let mut rows = Rows::new();"] ++
    dataLoop
      (block ("if " ++ keyIsEmpty table) ["return Err(" ++ emptyKeyError table ++ ");"] ++ [""] ++
        buildRow schema table "row" ++ duplicateKeyCheck table "rows" ++
        ["rows.insert(" ++ keyCopy key ("row." ++ escape table.keyName) ++ ", row);"]) ++
    ["self.rows = rows;"]

/-- Reads the data lines of a table whose keys name sets of rows. -/
def readRowSets (schema : Schema) (table : Table) (key : Column) : Lines :=
  let keyType := if key.type = .int then "i32" else "String"
  let rowKey := "row." ++ escape table.keyName
  ["let mut row_sets = RowSets::new();",
      "let mut last_key: Option<" ++ keyType ++ "> = None;"] ++
    dataLoop
      (["// an empty key continues the current group",
          "let continued_key = if " ++ keyIsEmpty table ++ " \x7b"] ++
        indent ["Some(last_key.clone().ok_or_else(|| " ++ emptyKeyError table ++ ")?)"] ++
        ["\x7d else \x7b"] ++ indent ["None"] ++ ["\x7d;", ""] ++
        buildRow schema table "mut row" ++
        block "match continued_key"
          (block "Some(key) =>"
              [rowKey ++ " = " ++ keyCopy key "key" ++ ";",
                "row_sets.entry(key).or_default().push(row);"] ++
            block "None =>"
              (duplicateKeyCheck table "row_sets" ++
                ["last_key = Some(" ++ keyCopy key rowKey ++ ");",
                  "row_sets.insert(" ++ keyCopy key rowKey ++ ", vec![row]);"]))) ++
    ["self.row_sets = row_sets;"]

def nameChecks (table : Table) : Lines :=
  table.columns.toList.zipIdx.map fun (column, index) =>
    "util::check_column_name(&line, " ++ toString index ++ ", " ++ quoted column.name ++ ")?;"

def parseFunction (schema : Schema) (table : Table) (key : Column) : Lines :=
  ["/// Replaces the loaded rows with the content of `text`. On failure",
      "/// the previously loaded rows are kept."] ++
    block "pub fn parse(&mut self, text: &str) -> Result<(), TableParseError>"
      (["const COLUMN_COUNT: usize = " ++ toString table.columns.toList.length ++ ";",
          "let mut r = LineReader::new(text);", "",
          "let line = r.next_line().ok_or(TableParseError::MissingCommentLine)?;",
          "util::check_column_count(1, &line, COLUMN_COUNT)?;", "",
          "let line = r.next_line().ok_or(TableParseError::MissingNameLine)?;",
          "util::check_column_count(2, &line, COLUMN_COUNT)?;"] ++
        nameChecks table ++ [""] ++
        (match table.keyType with
          | .single => readSingleRows schema table key
          | .set => readRowSets schema table key) ++
        ["Ok(())"])

def accessors (table : Table) (key : Column) : Lines :=
  let param := if key.type = .int then "i32" else "&str"
  let argument := if key.type = .int then "&key" else "key"
  match table.keyType with
  | .single =>
      block ("pub fn get_row(&self, key: " ++ param ++ ") -> Option<&Row>")
          ["self.rows.get(" ++ argument ++ ")"] ++ [""] ++
        block "pub fn rows(&self) -> &Rows" ["&self.rows"]
  | .set =>
      block ("pub fn get_row_set(&self, key: " ++ param ++ ") -> Option<&RowSet>")
          ["self.row_sets.get(" ++ argument ++ ")"] ++ [""] ++
        block "pub fn row_sets(&self) -> &RowSets" ["&self.row_sets"]

def tableFunctions (schema : Schema) (table : Table) (key : Column) : Lines :=
  block ("impl " ++ escape table.name) <|
    spaced [block "pub fn new() -> Self" ["Self::default()"], parseFunction schema table key,
      accessors table key]

def tableModule (schema : Schema) (table : Table) (key : Column) : Lines :=
  heading ++
    ["use std::collections::BTreeMap;",
      "use tablekit_runtime::\x7b" ++ joined ", " (runtimeImports table) ++ "\x7d;", ""] ++
    spaced (table.localStructs.toList.map structItems ++
      [rowDefinition schema table ++ [""] ++ rowTypes schema table key, tableDefinition table,
        tableFunctions schema table key])

end TableSchema.Generate.Rust
