import TableSchema.Generate.CppSource
import TableSchema.Proofs.Generate.ParseSteps
import TableSchema.Table.CppReading

/-!
# Parsers in C++

What the parsers do that are generated in C++. They go through the cells of a line with a counter,
and the formats of their complaints stand in quotes.
-/

namespace TableSchema

namespace Generate.Cpp

/-- What a line in the parser of a table does. -/
inductive Action where
  | step (step : ParseStep)
  /-- Goes back to the first cell. -/
  | restart
  | checkNextName (name : String)
  | decodeNext (member : String) (type : Option FieldType) (isList : Bool)
deriving DecidableEq, Repr

/-- The steps that actions make, by the number of the cell that comes next. -/
def numbered : Nat → List Action → List ParseStep
  | _, [] => []
  | next, .step step :: rest => step :: numbered next rest
  | _, .restart :: rest => numbered 0 rest
  | next, .checkNextName name :: rest => .checkName next name :: numbered (next + 1) rest
  | next, .decodeNext member type isList :: rest =>
      .decode next member type isList :: numbered (next + 1) rest

/-! ## Lines of parsers -/

open LineRule

def countRule : LineRule Action :=
  around (spelled (.of "size_t column_count_req = ")) (spelled (.of ";")) fun count =>
    .step (.columnCount (numeral count))

def nameRule : LineRule Action :=
  around (spelled (.of "if ((*line_buffer)[col_number++] != \""))
    (spelled (.of "\") \x7b")) .checkNextName

def singleKeyRule : LineRule Action :=
  around (spelled (.of "if ((*line_buffer)[")) (spelled (.of "].empty()) \x7b")) fun place =>
    .step (.checkKey (numeral place) false)

def setKeyRule : LineRule Action :=
  around (spelled (.of "bool is_continuation = (*line_buffer)[")) (spelled (.of "].empty();"))
    fun place => .step (.checkKey (numeral place) true)

def intRule : LineRule Action :=
  around (spelled (.of "row."))
    (spelled (.of " = tablekit::util::parseInt((*line_buffer)[col_number++]);"))
    fun member => .decodeNext member (some .int) false

def intListRule : LineRule Action :=
  around (spelled (.of "tablekit::util::readColumnIntList((*line_buffer)[col_number++], &row."))
    (spelled (.of ");")) fun member => .decodeNext member (some .int) true

def stringRule : LineRule Action :=
  around (spelled (.of "row.")) (spelled (.of " = (*line_buffer)[col_number++];"))
    fun member => .decodeNext member (some .string) false

def stringListRule : LineRule Action :=
  around (spelled (.of "tablekit::util::readColumnStringList((*line_buffer)[col_number++], &row."))
    (spelled (.of ");")) fun member => .decodeNext member (some .string) true

def recordRule : LineRule Action :=
  around (spelled (.of "if (row."))
    (spelled (.of ".parse((*line_buffer)[col_number++]) == false) \x7b"))
    fun member => .decodeNext member none false

def recordListRule : LineRule Action :=
  around
    (spelled (.of "if (tablekit::util::readColumnStructList((*line_buffer)[col_number++], &row."))
    (spelled (.of ") == false) \x7b")) fun member => .decodeNext member none true

def newKeyRule : LineRule Action :=
  around (spelled (.of "if (rows.find(row.")) (spelled (.of ") != rows.end()) \x7b")) fun member =>
    .step (.checkNew member)

def newSetRule : LineRule Action :=
  around (spelled (.of "if (row_sets.find(row.")) (spelled (.of ") != row_sets.end()) \x7b"))
    fun member => .step (.checkNew member)

def headCommentRule : LineRule Action :=
  idle (spelled (.of "// read ")) [spelled (.of " line")]

def missingLineRule : LineRule Action :=
  idle (spelled (.of "*error_info = \"")) [spelled (.of " line is required\";")]

def headSizeFormatRule : LineRule Action :=
  idle (spelled (.of "\"")) [spelled (.of " line column count %zd is invalid, should be %zd\",")]

def headRule : LineRule Action :=
  idle (spelled (.of "bool "))
    [spelled (.of "::parse(const std::string &text, std::string *error_info)")]

def nameFormatRule : LineRule Action :=
  idle (spelled (.of "\"column %zd should be named as `")) [spelled (.of "`\", col_number);")]

def emptyKeyFormatRule : LineRule Action :=
  idle (spelled (.of "\"line %zd key `")) [spelled (.of "` is empty\", line_number);")]

def invalidFormatRule : LineRule Action :=
  idle (spelled (.of "\"line %zd column `")) [spelled (.of "` value is invalid\", line_number);")]

def duplicateIntRule : LineRule Action :=
  idle (spelled (.of "\"line %zd key `"))
    [spelled (.of "` value %d is duplicated\", line_number, row."), spelled (.of ");")]

def duplicateStringRule : LineRule Action :=
  idle (spelled (.of "\"line %zd key `"))
    [spelled (.of "` value %s is duplicated\", line_number, row."), spelled (.of ".c_str());")]

def insertRule : LineRule Action :=
  idle (spelled (.of "rows.insert(std::make_pair(row.")) [spelled (.of ", row));")]

def insertSetRule : LineRule Action :=
  idle (spelled (.of "row_sets.insert(std::make_pair(row.")) [spelled (.of ", row_set));")]

def takeKeyRule : LineRule Action :=
  idle (spelled (.of "row.")) [spelled (.of " = last_key;")]

def keepKeyRule : LineRule Action :=
  idle (spelled (.of "last_key = row.")) [spelled (.of ";")]

def dataSizeFormatRule : LineRule Action :=
  idle (spelled (.of "\"line %zd column count %zd is invalid, should be %zd\",")) []

def clearRule : LineRule Action :=
  idle (spelled (.of "*error_info = \"\";")) []

/-- Lines in the parsers of all tables that do nothing of interest. -/
def idleLines : List (List Char) :=
  [spelled (.of ""), spelled (.of "\x7b"), spelled (.of "\x7d"), spelled (.of "\x7d else \x7b"),
    spelled (.of "tablekit::LineReader r(text);"),
    spelled (.of "const tablekit::LineReader::LineBuffer *line_buffer = nullptr;"),
    spelled (.of "// read data lines"), spelled (.of "if (line_buffer == nullptr) \x7b"),
    spelled (.of "break;"), spelled (.of "return false;"), spelled (.of "return true;"),
    spelled (.of "*error_info = tablekit::util::error("),
    spelled (.of "line_buffer->size(), column_count_req);"),
    spelled (.of "line_number, line_buffer->size(), column_count_req);"),
    spelled (.of "size_t line_number = 3;"), spelled (.of "line_number += 1;"),
    spelled (.of "for (;;) \x7b"), spelled (.of "Row row;"), spelled (.of "Rows rows;"),
    spelled (.of "RowSets row_sets;"), spelled (.of "bool has_last_key = false;"),
    spelled (.of "has_last_key = true;"), spelled (.of "int32_t last_key = 0;"),
    spelled (.of "std::string last_key;"),
    spelled (.of "// an empty key continues the current group"),
    spelled (.of "if (is_continuation && has_last_key == false) \x7b"),
    spelled (.of "if (is_continuation) \x7b"), spelled (.of "row_sets[last_key].push_back(row);"),
    spelled (.of "RowSet row_set;"), spelled (.of "row_set.push_back(row);")]

def tableLines : LineKinds Action where
  fixed :=
    [(spelled (.of "line_buffer = r.nextLine();"), [.step .takeLine]),
      (spelled (.of "if (line_buffer->size() != column_count_req) \x7b"), [.step .checkCount]),
      (spelled (.of "size_t col_number = 0;"), [.restart]),
      (spelled (.of "rows_.swap(rows);"), [.step .replaceRows]),
      (spelled (.of "row_sets_.swap(row_sets);"), [.step .replaceRows])] ++
    idleLines.map fun line => (line, [])
  plain :=
    [countRule, singleKeyRule, setKeyRule, intRule, intListRule, stringRule, stringListRule,
      recordRule, recordListRule, newKeyRule, newSetRule, headCommentRule, headRule, insertRule,
      insertSetRule, takeKeyRule, keepKeyRule]
  quoted :=
    [nameRule, missingLineRule, headSizeFormatRule, nameFormatRule, dataSizeFormatRule,
      emptyKeyFormatRule, invalidFormatRule, duplicateIntRule, duplicateStringRule, clearRule]

def tableGrammar : LineGrammar Action where
  toLineKinds := tableLines
  exclusive := by decide +kernel
  separated := by decide +kernel
  fixed_plain := by decide +kernel
  plain_plain := by decide +kernel

/-! ## Parts of parsers -/

theorem idle_return : Idle tableGrammar ["return false;"] :=
  .of_fixed String.toList_ofList (by decide)

theorem idle_close : Idle tableGrammar ["\x7d"] :=
  .of_fixed String.toList_ofList (by decide)

theorem idle_blank : Idle tableGrammar [""] :=
  .of_fixed String.toList_ofList (by decide)

theorem idle_open : Idle tableGrammar ["\x7b"] :=
  .of_fixed String.toList_ofList (by decide)

theorem idle_atEnd : Idle tableGrammar ["if (line_buffer == nullptr)" ++ " \x7b"] :=
  .of_fixed toList_append_spelled (by decide)

theorem reads_takeLine :
    Reads tableGrammar ["line_buffer = r.nextLine();"] [.step .takeLine] [] :=
  .of_fixed String.toList_ofList (by decide)

theorem reads_checkCount :
    Reads tableGrammar ["if (line_buffer->size() != column_count_req)" ++ " \x7b"]
      [.step .checkCount] [] :=
  .of_fixed toList_append_spelled (by decide)

theorem reads_restart : Reads tableGrammar ["size_t col_number = 0;"] [.restart] [] :=
  .of_fixed String.toList_ofList (by decide)

theorem reads_failWith {arguments : Lines} {texts : List String}
    (harguments : Reads tableGrammar arguments [] texts) :
    Reads tableGrammar (failWith arguments) [] texts := by
  have hopen : Idle tableGrammar ["*error_info = tablekit::util::error("] :=
    .of_fixed String.toList_ofList (by decide)
  exact (hopen.append harguments.indent).append_idle idle_return

/-- A block in which nothing is done but to complain. -/
theorem reads_complaint {head : String} {body : Lines} {found : List Action}
    {texts formats : List String} (hhead : Reads tableGrammar [head ++ " \x7b"] found texts)
    (hbody : Reads tableGrammar body [] formats) :
    Reads tableGrammar (block head body) found (texts ++ formats) := by
  have hblock := Reads.block hhead hbody idle_close
  rwa [List.append_nil] at hblock

theorem reads_readHeadLine {which : String} (hwhich : Fitting which) :
    Reads tableGrammar (readHeadLine which) [.step .takeLine, .step .checkCount]
      [which ++ " line is required", CppReading.sizeFormat (which ++ " line")] := by
  have hcomment : Idle tableGrammar ["// read " ++ which ++ " line"] :=
    .of_plain headCommentRule (by simp [tableGrammar, tableLines])
      (toList_around which) rfl (List.forall_mem_singleton.2 hwhich)
  have hmissing : Reads tableGrammar ["*error_info = \"" ++ which ++ " line is required\";"] []
      [which ++ " line is required"] := by
    refine .of_quoted missingLineRule (spelled (.of "*error_info = ")) []
      (spelled (.of " line is required")) [';'] (by simp [tableGrammar, tableLines]) rfl
      (toList_around which) hwhich ?_ (by decide)
    rw [String.toList_append, String.toList_ofList]
    rfl
  have hformat : Reads tableGrammar
      ["\"" ++ which ++ " line column count %zd is invalid, should be %zd\","] []
      [CppReading.sizeFormat (which ++ " line")] := by
    refine .of_quoted headSizeFormatRule [] []
      (spelled (.of " line column count %zd is invalid, should be %zd")) [',']
      (by simp [tableGrammar, tableLines]) rfl (toList_around which) hwhich ?_ (by decide)
    rw [CppReading.sizeFormat, String.toList_append, String.toList_append, String.toList_ofList,
      String.toList_ofList, List.append_assoc]
    rfl
  have harguments : Idle tableGrammar ["line_buffer->size(), column_count_req);"] :=
    .of_fixed String.toList_ofList (by decide)
  exact ((hcomment.append reads_takeLine).append
    (.block idle_atEnd (hmissing.append_idle idle_return) idle_close)).append
      (reads_complaint reads_checkCount (reads_failWith (hformat.append_idle harguments)))

theorem reads_nameCheck {column : Column} (hname : Fitting column.name) :
    Reads tableGrammar (nameCheck column) [.checkNextName column.name]
      [column.name, CppReading.nameFormat column.name] := by
  have hhead : Reads tableGrammar
      ["if ((*line_buffer)[col_number++] != \"" ++ column.name ++ "\")" ++ " \x7b"]
      [.checkNextName column.name] [column.name] :=
    .of_quoted nameRule (spelled (.of "if ((*line_buffer)[col_number++] != ")) [] []
      (spelled (.of ") \x7b")) (by simp [tableGrammar, tableLines])
      rfl (toList_opening column.name) hname (by simp) (by decide)
  have hformat : Reads tableGrammar
      ["\"column %zd should be named as `" ++ column.name ++ "`\", col_number);"] []
      [CppReading.nameFormat column.name] :=
    .of_quoted nameFormatRule [] (spelled (.of "column %zd should be named as `")) ['`']
      (spelled (.of ", col_number);"))
      (by simp [tableGrammar, tableLines]) rfl (toList_around column.name) hname
      (toList_around column.name) (by decide)
  exact reads_complaint hhead (reads_failWith hformat)

def nameActions (table : Table) : List Action :=
  .step .takeLine :: .step .checkCount :: .restart ::
    table.columns.toList.map fun column => .checkNextName column.name

/-- What is required of the names of columns. -/
def nameFormats (names : List String) : List String :=
  names.flatMap fun name => [name, CppReading.nameFormat name]

theorem reads_readNameLine {table : Table}
    (hcolumns : ∀ column ∈ table.columns.toList, Fitting column.name) :
    Reads tableGrammar (readNameLine table) (nameActions table)
      ("name line is required" :: CppReading.sizeFormat "name line" ::
        nameFormats table.columns.names) := by
  have hchecks := Reads.flatMap fun column hmem => reads_nameCheck (hcolumns column hmem)
  rw [← List.map_eq_flatMap] at hchecks
  rw [nameFormats, Catalog.names, List.flatMap_map]
  have hwhich : Fitting "name" := ⟨by decide, by decide⟩
  exact (((reads_readHeadLine hwhich).append idle_open).append
    ((reads_restart.append idle_blank).append hchecks).indent).append_idle idle_close

theorem reads_dataLoop {body : Lines} {found : List Action} {texts : List String}
    (hbody : Reads tableGrammar body found texts) :
    Reads tableGrammar (dataLoop body) (.step .takeLine :: .step .checkCount :: found)
      (CppReading.sizeFormat "line %zd" :: texts) := by
  have hloop : Idle tableGrammar ["for (;;)" ++ " \x7b"] :=
    .of_fixed toList_append_spelled (by decide)
  have hbreak : Idle tableGrammar ["break;"] :=
    .of_fixed String.toList_ofList (by decide)
  have hformat : Reads tableGrammar
      ["\"line %zd column count %zd is invalid, should be %zd\","] []
      [CppReading.sizeFormat "line %zd"] :=
    .of_fixedQuoted dataSizeFormatRule []
      (spelled (.of "line %zd column count %zd is invalid, should be %zd")) [',']
      (by simp [tableGrammar, tableLines]) rfl String.toList_ofList toList_append_spelled
      (by decide)
  have harguments : Idle tableGrammar
      ["line_number, line_buffer->size(), column_count_req);"] :=
    .of_fixed String.toList_ofList (by decide)
  have hnext : Idle tableGrammar ["", "line_number += 1;"] :=
    idle_blank.append_idle (.of_fixed String.toList_ofList (by decide))
  have hcount := reads_complaint reads_checkCount
    (reads_failWith (hformat.append_idle harguments))
  have hlines := (((reads_takeLine.append (.block idle_atEnd hbreak idle_close)).append
    hcount).append hbody).append_idle hnext
  exact .block hloop hlines idle_close

theorem reads_failEmptyKey {key : Column} (hname : Fitting key.name) :
    Reads tableGrammar (failEmptyKey key) [] [CppReading.emptyKeyFormat key.name] :=
  reads_failWith <| .of_quoted emptyKeyFormatRule [] (spelled (.of "line %zd key `"))
    (spelled (.of "` is empty")) (spelled (.of ", line_number);"))
    (by simp [tableGrammar, tableLines]) rfl (toList_around key.name) hname
    (toList_around key.name) (by decide)

/-- Complains of the value of a column if it could not be decoded. -/
theorem reads_invalid {column : Column} (hname : Fitting column.name) {head : String}
    {found : List Action} (hhead : Reads tableGrammar [head ++ " \x7b"] found []) :
    Reads tableGrammar
      (block head
        (failWith ["\"line %zd column `" ++ column.name ++ "` value is invalid\", line_number);"]))
      found [CppReading.invalidFormat column.name] :=
  reads_complaint hhead <| reads_failWith <| .of_quoted invalidFormatRule []
    (spelled (.of "line %zd column `")) (spelled (.of "` value is invalid"))
    (spelled (.of ", line_number);")) (by simp [tableGrammar, tableLines]) rfl
    (toList_around column.name) hname (toList_around column.name) (by decide)

theorem reads_readCell {column : Column} (hname : Fitting column.name) :
    Reads tableGrammar (readCell column)
      [.decodeNext column.name column.valueType.atom? column.isList]
      (if column.valueType.atom?.isNone then [CppReading.invalidFormat column.name] else []) := by
  have hwords : ∀ word ∈ [column.name], Fitting word := List.forall_mem_singleton.2 hname
  have hrecord : Reads tableGrammar
      ["if (" ++ ("row." ++ column.name ++ ".parse(" ++ "(*line_buffer)[col_number++]" ++ ")") ++
        " == false)" ++ " \x7b"] [.decodeNext column.name none false] [] := by
    refine .of_plain recordRule (by simp [tableGrammar, tableLines]) ?_ rfl hwords
    simp only [String.toList_append, List.append_assoc]
    repeat rw [String.toList_ofList]
    rfl
  have hrecords : Reads tableGrammar
      ["if (" ++ ("tablekit::util::readColumnStructList(" ++ "(*line_buffer)[col_number++]" ++
        ", &" ++ ("row." ++ column.name) ++ ")") ++ " == false)" ++ " \x7b"]
      [.decodeNext column.name none true] [] := by
    refine .of_plain recordListRule (by simp [tableGrammar, tableLines]) ?_ rfl hwords
    simp only [String.toList_append, List.append_assoc]
    repeat rw [String.toList_ofList]
    rfl
  unfold readCell
  cases htype : column.valueType <;> cases hlist : column.isList
  case struct.false | list.false => exact reads_invalid hname hrecord
  case struct.true | list.true => exact reads_invalid hname hrecords
  case' int.false => refine .of_plain intRule (by simp [tableGrammar, tableLines]) ?_ rfl hwords
  case' int.true =>
    refine .of_plain intListRule (by simp [tableGrammar, tableLines]) ?_ rfl hwords
  case' string.false =>
    refine .of_plain stringRule (by simp [tableGrammar, tableLines]) ?_ rfl hwords
  case' string.true =>
    refine .of_plain stringListRule (by simp [tableGrammar, tableLines]) ?_ rfl hwords
  -- the line is put together from other pieces than the pattern
  all_goals
    simp only [String.toList_append, List.append_assoc]
    repeat rw [String.toList_ofList]
    rfl

def rowActions (table : Table) : List Action :=
  .restart :: table.columns.toList.map fun column =>
    .decodeNext column.name column.valueType.atom? column.isList

theorem reads_readRow {table : Table}
    (hcolumns : ∀ column ∈ table.columns.toList, Fitting column.name) :
    Reads tableGrammar (readRow table) (rowActions table)
      ((recordColumns table.columns.toList).map CppReading.invalidFormat) := by
  have hrow : Idle tableGrammar ["Row row;"] :=
    .of_fixed String.toList_ofList (by decide)
  have hcells := Reads.flatMap fun column hmem => reads_readCell (hcolumns column hmem)
  rw [← List.map_eq_flatMap, flatMap_ite_singleton] at hcells
  rw [recordColumns, List.map_map]
  exact ((hrow.append reads_restart).append idle_blank).append hcells

theorem atom?_eq_some_int_iff {type : ColumnType} : type.atom? = some .int ↔ type = .int := by
  cases type <;> simp [ColumnType.atom?]

/-- A line that complains of a key that is not new. A directive stands for the key, which is given
as an argument that ends in some way. -/
theorem reads_duplicateFormat (rule : LineRule Action) (directive close : List Char)
    {key : Column} (hname : Fitting key.name) {type : FieldType} {line : String}
    (hdirective : CppReading.keyDirective type = String.ofList directive)
    (hquote : '"' ∉ directive) (hmem : rule ∈ tableGrammar.quoted)
    (hrule : rule = .idle (spelled (.of "\"line %zd key `"))
      [spelled (.of "` value ") ++ directive ++
        spelled (.of " is duplicated\", line_number, row."), close])
    (hline : line.toList = rule.pattern.fill [key.name, key.name]) :
    Reads tableGrammar [line] [] [CppReading.duplicateKeyFormat key.name type] := by
  subst hrule
  have htext : (CppReading.duplicateKeyFormat key.name type).toList =
      spelled (.of "line %zd key `") ++ key.name.toList ++
        (spelled (.of "` value ") ++ directive ++ spelled (.of " is duplicated")) := by
    unfold CppReading.duplicateKeyFormat
    rw [hdirective]
    simp only [String.toList_append]
    repeat rw [String.toList_ofList]
    simp [spelled]
  refine .of_rule _ [key.name, key.name] (some (CppReading.duplicateKeyFormat key.name type))
    (Reads.mem_rules_of_quoted hmem) hline rfl (by simp [hname]) ?_
  have hquoted := quotedText_around hname
    (spelled (.of ", line_number, row.") ++ key.name.toList ++ close) htext List.not_mem_nil
    (by decide) (by simp [spelled, hquote])
  rw [hline, ← hquoted]
  simp [LineRule.idle, Pattern.fill, spelled]

theorem reads_failDuplicateKey {key : Column} (hname : Fitting key.name) {type : FieldType}
    (htype : key.type.atom? = some type) :
    Reads tableGrammar (failDuplicateKey key) []
      [CppReading.duplicateKeyFormat key.name type] := by
  unfold failDuplicateKey
  cases type with
  | int =>
      rw [if_pos (atom?_eq_some_int_iff.1 htype)]
      refine reads_failWith <| reads_duplicateFormat duplicateIntRule (spelled (.of "%d"))
        (spelled (.of ");")) hname rfl (by decide)
        (by simp [tableGrammar, tableLines]) rfl ?_
      simp only [String.toList_append]
      repeat rw [String.toList_ofList]
      simp [duplicateIntRule, LineRule.idle, Pattern.fill, spelled]
  | string =>
      rw [if_neg fun hint => by simp [hint, ColumnType.atom?] at htype]
      refine reads_failWith <| reads_duplicateFormat duplicateStringRule (spelled (.of "%s"))
        (spelled (.of ".c_str());")) hname rfl (by decide)
        (by simp [tableGrammar, tableLines]) rfl ?_
      simp only [String.toList_append]
      repeat rw [String.toList_ofList]
      simp [duplicateStringRule, LineRule.idle, Pattern.fill, spelled]

theorem reads_keyIsEmpty (table : Table) :
    Reads tableGrammar ["if (" ++ keyIsEmpty table ++ ")" ++ " \x7b"]
      [.step (.checkKey table.keyColumnIndex false)] [] := by
  refine .of_number singleKeyRule (fun place => .step (.checkKey place false)) _ rfl
    (by simp [tableGrammar, tableLines]) ?_
  unfold keyIsEmpty
  simp only [String.toList_append, List.append_assoc]
  repeat rw [String.toList_ofList]
  rfl

/-- What is done with the data lines. -/
def dataActions (table : Table) (key : Column) (continues : Bool) : List Action :=
  .step .takeLine :: .step .checkCount ::
    .step (.checkKey table.keyColumnIndex continues) ::
    (rowActions table ++ [.step (.checkNew key.name)] ++ [.step .replaceRows])

/-- What is complained of in the data lines. -/
def dataFormats (records : List String) (key : String) (type : FieldType) : List String :=
  CppReading.sizeFormat "line %zd" :: CppReading.emptyKeyFormat key ::
    (records.map CppReading.invalidFormat ++ [CppReading.duplicateKeyFormat key type])

theorem reads_readSingleRows {table : Table} {key : Column} {type : FieldType}
    (hcolumns : ∀ column ∈ table.columns.toList, Fitting column.name) (hname : Fitting key.name)
    (htype : key.type.atom? = some type) :
    Reads tableGrammar (readSingleRows table key) (dataActions table key false)
      (dataFormats (recordColumns table.columns.toList) key.name type) := by
  have hline : Idle tableGrammar ["size_t line_number = 3;"] :=
    .of_fixed String.toList_ofList (by decide)
  have hrows : Idle tableGrammar ["Rows rows;"] :=
    .of_fixed String.toList_ofList (by decide)
  have hnew : Reads tableGrammar
      ["if (rows.find(" ++ ("row." ++ key.name) ++ ") != rows.end())" ++ " \x7b"]
      [.step (.checkNew key.name)] [] := by
    refine .of_plain newKeyRule (by simp [tableGrammar, tableLines]) ?_ rfl
      (List.forall_mem_singleton.2 hname)
    simp only [String.toList_append, List.append_assoc]
    repeat rw [String.toList_ofList]
    rfl
  have hinsert : Idle tableGrammar
      ["rows.insert(std::make_pair(" ++ ("row." ++ key.name) ++ ", row));"] := by
    refine .of_plain insertRule (by simp [tableGrammar, tableLines]) ?_ rfl
      (List.forall_mem_singleton.2 hname)
    simp only [String.toList_append, List.append_assoc]
    repeat rw [String.toList_ofList]
    rfl
  have hreplace : Reads tableGrammar ["rows_.swap(rows);"] [.step .replaceRows] [] :=
    .of_fixed String.toList_ofList (by decide)
  have hkey := reads_complaint (reads_keyIsEmpty table) (reads_failEmptyKey hname)
  have hduplicate := reads_complaint hnew (reads_failDuplicateKey hname htype)
  have hbody := ((((hkey.append_idle idle_blank).append (reads_readRow hcolumns)).append_idle
    idle_blank).append hduplicate).append_idle (idle_blank.append_idle hinsert)
  exact ((hline.append hrows).append (reads_dataLoop hbody)).append_found hreplace

theorem reads_isContinuation (table : Table) :
    Reads tableGrammar ["bool is_continuation = " ++ keyIsEmpty table ++ ";"]
      [.step (.checkKey table.keyColumnIndex true)] [] := by
  refine .of_number setKeyRule (fun place => .step (.checkKey place true)) _ rfl
    (by simp [tableGrammar, tableLines]) ?_
  unfold keyIsEmpty
  simp only [String.toList_append, List.append_assoc]
  repeat rw [String.toList_ofList]
  rfl

theorem reads_readRowSets {table : Table} {key : Column} {type : FieldType}
    (hcolumns : ∀ column ∈ table.columns.toList, Fitting column.name) (hname : Fitting key.name)
    (htype : key.type.atom? = some type) :
    Reads tableGrammar (readRowSets table key) (dataActions table key true)
      (dataFormats (recordColumns table.columns.toList) key.name type) := by
  have hwords : ∀ word ∈ [key.name], Fitting word := List.forall_mem_singleton.2 hname
  have hstart : Idle tableGrammar ["size_t line_number = 3;", "bool has_last_key = false;",
      if key.type = .int then "int32_t last_key = 0;" else "std::string last_key;",
      "RowSets row_sets;"] := by
    have hlastKey : Idle tableGrammar
        [if key.type = .int then "int32_t last_key = 0;" else "std::string last_key;"] := by
      split
      · exact .of_fixed String.toList_ofList (by decide)
      · exact .of_fixed String.toList_ofList (by decide)
    have hline : Idle tableGrammar ["size_t line_number = 3;"] :=
      .of_fixed String.toList_ofList (by decide)
    have hflag : Idle tableGrammar ["bool has_last_key = false;"] :=
      .of_fixed String.toList_ofList (by decide)
    have hsets : Idle tableGrammar ["RowSets row_sets;"] :=
      .of_fixed String.toList_ofList (by decide)
    exact ((hline.append hflag).append hlastKey).append hsets
  have hcomment : Idle tableGrammar ["", "// an empty key continues the current group"] :=
    idle_blank.append (.of_fixed String.toList_ofList (by decide))
  have hempty : Idle tableGrammar
      ["if (is_continuation && has_last_key == false)" ++ " \x7b"] :=
    .of_fixed toList_append_spelled (by decide)
  have hcontinuation : Idle tableGrammar ["if (is_continuation)" ++ " \x7b"] :=
    .of_fixed toList_append_spelled (by decide)
  have htakeKey : Idle tableGrammar [("row." ++ key.name) ++ " = last_key;"] :=
    .of_plain takeKeyRule (by simp [tableGrammar, tableLines]) (toList_around key.name) rfl hwords
  have hpush : Idle tableGrammar ["row_sets[last_key].push_back(row);"] :=
    .of_fixed String.toList_ofList (by decide)
  have helse : Idle tableGrammar ["\x7d else \x7b"] :=
    .of_fixed String.toList_ofList (by decide)
  have hnew : Reads tableGrammar
      ["if (row_sets.find(" ++ ("row." ++ key.name) ++ ") != row_sets.end())" ++ " \x7b"]
      [.step (.checkNew key.name)] [] := by
    refine .of_plain newSetRule (by simp [tableGrammar, tableLines]) ?_ rfl hwords
    simp only [String.toList_append, List.append_assoc]
    repeat rw [String.toList_ofList]
    rfl
  have hset : Idle tableGrammar ["RowSet row_set;"] :=
    .of_fixed String.toList_ofList (by decide)
  have hfirst : Idle tableGrammar ["row_set.push_back(row);"] :=
    .of_fixed String.toList_ofList (by decide)
  have hinsert : Idle tableGrammar
      ["row_sets.insert(std::make_pair(" ++ ("row." ++ key.name) ++ ", row_set));"] := by
    refine .of_plain insertSetRule (by simp [tableGrammar, tableLines]) ?_ rfl hwords
    simp only [String.toList_append, List.append_assoc]
    repeat rw [String.toList_ofList]
    rfl
  have hkeep : Idle tableGrammar ["last_key = " ++ ("row." ++ key.name) ++ ";"] := by
    refine .of_plain keepKeyRule (by simp [tableGrammar, tableLines]) ?_ rfl hwords
    simp only [String.toList_append, List.append_assoc]
    repeat rw [String.toList_ofList]
    rfl
  have hflag : Idle tableGrammar ["has_last_key = true;"] :=
    .of_fixed String.toList_ofList (by decide)
  have hreplace : Reads tableGrammar ["row_sets_.swap(row_sets);"] [.step .replaceRows] [] :=
    .of_fixed String.toList_ofList (by decide)
  have hduplicate := reads_complaint hnew (reads_failDuplicateKey hname htype)
  have hstartSet := hduplicate.append_idle
    ((((hset.append hfirst).append hinsert).append hkeep).append hflag)
  have hadd := (((hcontinuation.append (htakeKey.append hpush).indent).append helse).append
    hstartSet.indent).append_idle idle_close
  have hkey := ((hcomment.append (reads_isContinuation table)).append
    (reads_complaint hempty (reads_failEmptyKey hname)))
  have hbody := (((hkey.append_idle idle_blank).append (reads_readRow hcolumns)).append_idle
    idle_blank).append hadd
  exact (hstart.append (reads_dataLoop hbody)).append_found hreplace

/-! ## Whole parsers -/

theorem reads_readDataLines {table : Table} {key : Column} {type : FieldType}
    (hcolumns : ∀ column ∈ table.columns.toList, Fitting column.name) (hname : Fitting key.name)
    (htype : key.type.atom? = some type) :
    Reads tableGrammar
      (match table.keyType with
        | .single => readSingleRows table key
        | .set => readRowSets table key)
      (dataActions table key (table.keyType = .set))
      (dataFormats (recordColumns table.columns.toList) key.name type) := by
  cases table.keyType with
  | single => exact reads_readSingleRows hcolumns hname htype
  | set => exact reads_readRowSets hcolumns hname htype

/-- What the lines of a parser do. -/
def tableActions (table : Table) (key : Column) : List Action :=
  .step (.columnCount table.columns.toList.length) :: .step .takeLine :: .step .checkCount ::
    (nameActions table ++ dataActions table key (table.keyType = .set))

theorem reads_parseFunction {table : Table} {key : Column} {type : FieldType}
    (htable : Fitting table.name)
    (hcolumns : ∀ column ∈ table.columns.toList, Fitting column.name) (hname : Fitting key.name)
    (htype : key.type.atom? = some type) :
    Reads tableGrammar (parseFunction table key) (tableActions table key)
      ("comment line is required" :: CppReading.sizeFormat "comment line" ::
        "name line is required" :: CppReading.sizeFormat "name line" ::
        (nameFormats table.columns.names ++
          dataFormats (recordColumns table.columns.toList) key.name type ++ [""])) := by
  have hhead : Idle tableGrammar
      ["bool " ++ table.name ++ "::parse(const std::string &text, std::string *error_info)"] :=
    .of_plain headRule (by simp [tableGrammar, tableLines])
      (toList_around table.name) rfl (List.forall_mem_singleton.2 htable)
  have hreader : Idle tableGrammar ["tablekit::LineReader r(text);"] :=
    .of_fixed String.toList_ofList (by decide)
  have hbuffer : Idle tableGrammar
      ["const tablekit::LineReader::LineBuffer *line_buffer = nullptr;"] :=
    .of_fixed String.toList_ofList (by decide)
  have hcount : Reads tableGrammar
      ["size_t column_count_req = " ++ toString table.columns.toList.length ++ ";"]
      [.step (.columnCount table.columns.toList.length)] [] :=
    .of_number countRule (fun count => .step (.columnCount count)) _ rfl
      (by simp [tableGrammar, tableLines]) (toList_around _)
  have hdata : Idle tableGrammar ["// read data lines"] :=
    .of_fixed String.toList_ofList (by decide)
  have hclear : Reads tableGrammar ["*error_info = \"\";"] [] [""] :=
    .of_fixedQuoted clearRule (spelled (.of "*error_info = ")) [] [';']
      (by simp [tableGrammar, tableLines]) rfl String.toList_ofList rfl (by decide)
  have hreturn : Idle tableGrammar ["return true;"] :=
    .of_fixed String.toList_ofList (by decide)
  have hcomment : Fitting "comment" := ⟨by decide, by decide⟩
  have hspaced := (((hreader.append hbuffer).append hcount).append_idle idle_blank).append
    (((reads_readHeadLine hcomment).append_idle idle_blank).append
      (((reads_readNameLine hcolumns).append_idle idle_blank).append
        (((hdata.append (reads_readDataLines hcolumns hname htype)).append_idle idle_blank).append
          (hclear.append_idle hreturn))))
  have hlines := ((hhead.append idle_open).append hspaced.indent).append_idle idle_close
  constructor
  · refine hlines.found.trans ?_
    simp [tableActions]
  · refine hlines.texts.trans ?_
    simp

/-- The steps in the code of a table's parser, if all its lines are known. -/
def parseSteps? (lines : Lines) : Option (List ParseStep) :=
  (recognize tableGrammar lines).map (numbered 0)

/-- Actions for one cell after the other. -/
theorem numbered_map {β : Type} (action : β → Action) (step : β → Nat → ParseStep)
    (hstep : ∀ item next rest,
      numbered next (action item :: rest) = step item next :: numbered (next + 1) rest)
    (items : List β) (next : Nat) (rest : List Action) :
    numbered next (items.map action ++ rest) =
      ((items.zipIdx next).map fun (item, place) => step item place) ++
        numbered (next + items.length) rest := by
  -- Each action takes one cell, so the number of the next cell keeps up with the place.
  induction items generalizing next with
  | nil => rfl
  | cons item items ih =>
      rw [List.map_cons, List.cons_append, hstep, ih, List.zipIdx_cons, List.map_cons,
        List.cons_append, List.length_cons, Nat.add_assoc, Nat.add_comm 1]

theorem numbered_nameActions (table : Table) (next : Nat) (rest : List Action) :
    numbered next (nameActions table ++ rest) =
      .takeLine :: .checkCount ::
        (table.nameSteps ++ numbered table.columns.toList.length rest) := by
  have hnames := numbered_map (fun column : Column => .checkNextName column.name)
    (fun column place => .checkName place column.name) (fun _ _ _ => rfl)
    table.columns.toList 0 rest
  rw [Nat.zero_add] at hnames
  rw [Table.nameSteps, ← hnames]
  rfl

theorem numbered_dataActions {table : Table} {key : Column} (hname : key.name = table.keyName)
    (continues : Bool) (next : Nat) :
    numbered next (dataActions table key continues) = table.dataSteps id continues := by
  have hcells := numbered_map
    (fun column : Column => .decodeNext column.name column.valueType.atom? column.isList)
    (fun column place => .decode place column.name column.valueType.atom? column.isList)
    (fun _ _ _ => rfl) table.columns.toList 0 [.step (.checkNew key.name), .step .replaceRows]
  rw [dataActions, Table.dataSteps, List.append_assoc, List.append_assoc, ← hname]
  simp only [rowActions, List.cons_append, List.nil_append, numbered, hcells]
  rfl

theorem numbered_tableActions {table : Table} {key : Column} (hname : key.name = table.keyName) :
    numbered 0 (tableActions table key) = table.parseSteps id := by
  rw [tableActions, numbered, numbered, numbered, numbered_nameActions, numbered_dataActions hname]
  rfl

/-- The texts in quotes in the parser of a table, among them the formats of what it complains
of. -/
def parserTexts (layout : Layout) : List String :=
  ["comment line is required", CppReading.sizeFormat "comment line", "name line is required",
      CppReading.sizeFormat "name line"] ++
    nameFormats (layout.columns.map ColumnLayout.name) ++
    dataFormats layout.recordNames layout.keyName layout.keyAtom ++ [""]

/-- The parser of a table takes the steps that its layout asks for. -/
theorem parseSteps?_parseFunction {schema : Schema} {table : Table} {key : Column} {layout : Layout}
    (hlayout : schema.layout? table = some layout) (htable : Fitting table.name)
    (hcolumns : ∀ column ∈ table.columns.toList, Fitting column.name)
    (hkey : key ∈ table.columns.toList) (hname : key.name = table.keyName)
    (htype : key.type.atom? = some layout.keyAtom) :
    parseSteps? (parseFunction table key) = some (layout.parseSteps id) := by
  have hreads := reads_parseFunction htable hcolumns (hcolumns key hkey) htype
  rw [parseSteps?, hreads.found, Option.map_some, numbered_tableActions hname,
    Layout.parseSteps_eq hlayout]

theorem quotedTexts_parseFunction {schema : Schema} {table : Table} {key : Column}
    {layout : Layout} (hlayout : schema.layout? table = some layout) (htable : Fitting table.name)
    (hcolumns : ∀ column ∈ table.columns.toList, Fitting column.name)
    (hkey : key ∈ table.columns.toList) (hname : key.name = table.keyName)
    (htype : key.type.atom? = some layout.keyAtom) :
    quotedTexts (parseFunction table key) = parserTexts layout := by
  have hreads := reads_parseFunction htable hcolumns (hcolumns key hkey) htype
  have hkeyName := (Schema.layout?_eq_some hlayout).2.2.2.1
  rw [hreads.texts, ← Schema.layout?_names hlayout, recordColumns_eq hlayout, hname,
    ← hkeyName]
  simp [parserTexts]

/-! ## Parsers of structs -/

def intFieldRule : LineRule FieldStep :=
  around (spelled (.of "if (s.nextInt(&this->")) (spelled (.of ") == false) \x7b")) fun member =>
    .readField member .int

def stringFieldRule : LineRule FieldStep :=
  around (spelled (.of "if (s.nextString(&this->")) (spelled (.of ") == false) \x7b")) fun member =>
    .readField member .string

def structGrammar : LineGrammar FieldStep where
  fixed := (spelled (.of "if (s.nextString(nullptr)) \x7b"), [.requireEnd]) ::
    [spelled (.of ""), spelled (.of "\x7d"), spelled (.of "return false;"),
      spelled (.of "return true;"),
      spelled (.of "tablekit::ColumnSplitter s(text, ';');")].map fun line => (line, [])
  plain := [intFieldRule, stringFieldRule]
  quoted := []
  exclusive := by decide +kernel
  separated := by decide +kernel
  fixed_plain := by decide +kernel
  plain_plain := by decide +kernel

/-- A block in which reading fails. -/
theorem reads_failIf {head : String} {found : List FieldStep}
    (hhead : Reads structGrammar [head ++ " \x7b"] found []) :
    Reads structGrammar (block head ["return false;"]) found [] := by
  have hfail : Idle structGrammar ["return false;"] :=
    .of_fixed String.toList_ofList (by decide)
  have hclose : Idle structGrammar ["\x7d"] :=
    .of_fixed String.toList_ofList (by decide)
  have hblock := Reads.block hhead hfail hclose
  rwa [List.append_nil] at hblock

theorem reads_readField {field : Field} (hname : Fitting field.name) :
    Reads structGrammar
      (block ("if (s." ++ readField field.type ++ "(&this->" ++ field.name ++ ") == false)")
        ["return false;"]) [.readField field.name field.type] [] := by
  have hwords : ∀ word ∈ [field.name], Fitting word := List.forall_mem_singleton.2 hname
  refine reads_failIf ?_
  cases field.type with
  | int =>
      refine .of_plain intFieldRule (by simp [structGrammar]) ?_ rfl hwords
      simp only [readField, String.toList_append, List.append_assoc]
      repeat rw [String.toList_ofList]
      rfl
  | string =>
      refine .of_plain stringFieldRule (by simp [structGrammar]) ?_ rfl hwords
      simp only [readField, String.toList_append, List.append_assoc]
      repeat rw [String.toList_ofList]
      rfl

theorem reads_structParse {struct : Struct}
    (hfields : ∀ field ∈ struct.fields.toList, Fitting field.name) :
    Reads structGrammar (structParse struct)
      (recordSteps id (struct.fields.toList.map fun field => (field.name, field.type))) [] := by
  have hreturn : Idle structGrammar ["return true;"] :=
    .of_fixed String.toList_ofList (by decide)
  unfold structParse recordSteps
  dsimp only
  rw [List.isEmpty_map, List.map_map]
  split
  case isTrue => exact hreturn
  case isFalse =>
    have hblank : Idle structGrammar [""] :=
      .of_fixed String.toList_ofList (by decide)
    have hsplitter : Idle structGrammar ["tablekit::ColumnSplitter s(text, ';');"] :=
      .of_fixed String.toList_ofList (by decide)
    have hmore : Reads structGrammar ["if (s.nextString(nullptr))" ++ " \x7b"] [.requireEnd] [] :=
      .of_fixed toList_append_spelled (by decide)
    have hreads := Reads.flatMap fun field hmem => reads_readField (hfields field hmem)
    rw [← List.map_eq_flatMap, List.flatMap_eq_nil_iff.2 fun _ _ => rfl] at hreads
    exact (((hsplitter.append hblank).append hreads).append (reads_failIf hmore)).append_idle
      (hblank.append hreturn)

end Generate.Cpp

end TableSchema
