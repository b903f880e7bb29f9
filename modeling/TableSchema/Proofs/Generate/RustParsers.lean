import TableSchema.Proofs.Generate.ModuleList
import TableSchema.Proofs.Generate.ParseSteps
import TableSchema.Proofs.Generate.SnakeCase
import TableSchema.Proofs.Pipeline

/-!
# Parsers in Rust

What the parsers do that are generated in Rust. Their lines name the places of cells and call
functions of the runtime, and the names of columns stand in quotes.
-/

namespace TableSchema

namespace Generate.Rust

/-! ## Lines of parsers -/

open LineRule

def countRule : LineRule ParseStep :=
  around (spelled (.of "const COLUMN_COUNT: usize = ")) (spelled (.of ";")) fun count =>
    .columnCount (numeral count)

def nameRule : LineRule ParseStep where
  pattern :=
    ⟨spelled (.of "util::check_column_name(&line, "),
      [spelled (.of ", \""), spelled (.of "\")?;")]⟩
  meaning
    | [place, name] => [.checkName (numeral place) name]
    | _ => []

def singleKeyRule : LineRule ParseStep :=
  around (spelled (.of "if line[")) (spelled (.of "].is_empty() \x7b")) fun place =>
    .checkKey (numeral place) false

def setKeyRule : LineRule ParseStep :=
  around (spelled (.of "let continued_key = if line[")) (spelled (.of "].is_empty() \x7b"))
    fun place => .checkKey (numeral place) true

/-- Lines that decode a cell. They start with a member and have the place of the cell after some
more texts. -/
def decodeRule (type : Option FieldType) (isList : Bool) (before after : List (List Char)) :
    LineRule ParseStep where
  pattern := ⟨[], before ++ after⟩
  meaning words :=
    match words.head?, words[before.length]? with
    | some member, some place => [.decode (numeral place) member type isList]
    | _, _ => []

/-- How a line ends that may find that the value of a column is invalid. -/
def invalidEnd : List (List Char) :=
  [spelled
      (.of "]).ok_or_else(|| TableParseError::InvalidValue \x7b line: line_number, column: \""),
    spelled (.of "\".to_owned() \x7d)?,")]

def intRule : LineRule ParseStep :=
  decodeRule (some .int) false [spelled (.of ": util::parse_int(&line[")] [spelled (.of "]),")]

def intListRule : LineRule ParseStep :=
  decodeRule (some .int) true [spelled (.of ": util::read_int_list(&line[")] [spelled (.of "]),")]

def stringRule : LineRule ParseStep :=
  decodeRule (some .string) false [spelled (.of ": line[")] [spelled (.of "].clone(),")]

def stringListRule : LineRule ParseStep :=
  decodeRule (some .string) true [spelled (.of ": util::read_string_list(&line[")]
    [spelled (.of "]),")]

def localRecordRule : LineRule ParseStep :=
  decodeRule none false [spelled (.of ": "), spelled (.of "::parse(&line[")] invalidEnd

def globalRecordRule : LineRule ParseStep :=
  decodeRule none false
    [spelled (.of ": super::"), spelled (.of "::"), spelled (.of "::parse(&line[")] invalidEnd

def localListRule : LineRule ParseStep :=
  decodeRule none true
    [spelled (.of ": util::read_struct_list::<"), spelled (.of ">(&line[")] invalidEnd

def globalListRule : LineRule ParseStep :=
  decodeRule none true
    [spelled (.of ": util::read_struct_list::<super::"), spelled (.of "::"),
      spelled (.of ">(&line[")] invalidEnd

def newKeyRule : LineRule ParseStep :=
  around (spelled (.of "if rows.contains_key(&row.")) (spelled (.of ") \x7b")) .checkNew

def newSetRule : LineRule ParseStep :=
  around (spelled (.of "if row_sets.contains_key(&row.")) (spelled (.of ") \x7b")) .checkNew

def emptyKeyRule : LineRule ParseStep :=
  idle (spelled (.of "return Err(TableParseError::EmptyKey \x7b line: line_number, key: \""))
    [spelled (.of "\".to_owned() \x7d);")]

def noSetRule : LineRule ParseStep :=
  idle (spelled (.of "Some(last_key.clone().ok_or_else(|| ") ++
      spelled (.of "TableParseError::EmptyKey \x7b line: line_number, key: \""))
    [spelled (.of "\".to_owned() \x7d)?)")]

def duplicateKeyRule : LineRule ParseStep :=
  idle (spelled (.of "key: \"")) [spelled (.of "\".to_owned(),")]

def duplicateValueRule : LineRule ParseStep :=
  idle (spelled (.of "value: row.")) [spelled (.of ".to_string(),")]

/-- Lines that give away the key of a row, or a copy of it if it is a text. -/
def keyRules (before after : List Char) : List (LineRule ParseStep) :=
  [idle before [after], idle before [spelled (.of ".clone()") ++ after]]

def insertRules : List (LineRule ParseStep) :=
  keyRules (spelled (.of "rows.insert(row.")) (spelled (.of ", row);"))

def keepKeyRules : List (LineRule ParseStep) :=
  keyRules (spelled (.of "last_key = Some(row.")) (spelled (.of ");"))

def insertSetRules : List (LineRule ParseStep) :=
  keyRules (spelled (.of "row_sets.insert(row.")) (spelled (.of ", vec![row]);"))

def takeKeyRule : LineRule ParseStep :=
  idle (spelled (.of "row.")) [spelled (.of " = key;")]

def copyKeyRule : LineRule ParseStep :=
  idle (spelled (.of "row.")) [spelled (.of " = key.clone();")]

/-- Lines in the parsers of all tables that do nothing of interest. -/
def idleLines : List (List Char) :=
  [spelled (.of ""), spelled (.of "\x7d"), spelled (.of "\x7d;"), spelled (.of "\x7d else \x7b"),
    spelled (.of "\x7d);"),
    spelled (.of "/// Replaces the loaded rows with the content of `text`. On failure"),
    spelled (.of "/// the previously loaded rows are kept."),
    spelled (.of "pub fn parse(&mut self, text: &str) -> Result<(), TableParseError> \x7b"),
    spelled (.of "let mut r = LineReader::new(text);"), spelled (.of "Ok(())"),
    spelled (.of "let mut line_number = 3;"), spelled (.of "line_number += 1;"),
    spelled (.of "let mut rows = Rows::new();"), spelled (.of "let mut row_sets = RowSets::new();"),
    spelled (.of "let mut last_key: Option<i32> = None;"),
    spelled (.of "let mut last_key: Option<String> = None;"),
    spelled (.of "// an empty key continues the current group"), spelled (.of "let row = Row \x7b"),
    spelled (.of "let mut row = Row \x7b"), spelled (.of "None"),
    spelled (.of "match continued_key \x7b"), spelled (.of "Some(key) => \x7b"),
    spelled (.of "None => \x7b"), spelled (.of "row_sets.entry(key).or_default().push(row);"),
    spelled (.of "return Err(TableParseError::DuplicateKey \x7b"),
    spelled (.of "line: line_number,")]

def tableLines : LineKinds ParseStep where
  fixed :=
    [(spelled (.of "let line = r.next_line().ok_or(TableParseError::MissingCommentLine)?;"),
        [.takeLine]),
      (spelled (.of "let line = r.next_line().ok_or(TableParseError::MissingNameLine)?;"),
        [.takeLine]),
      (spelled (.of "while let Some(line) = r.next_line() \x7b"), [.takeLine]),
      (spelled (.of "util::check_column_count(1, &line, COLUMN_COUNT)?;"), [.checkCount]),
      (spelled (.of "util::check_column_count(2, &line, COLUMN_COUNT)?;"), [.checkCount]),
      (spelled (.of "util::check_column_count(line_number, &line, COLUMN_COUNT)?;"),
        [.checkCount]),
      (spelled (.of "self.rows = rows;"), [.replaceRows]),
      (spelled (.of "self.row_sets = row_sets;"), [.replaceRows])] ++
    idleLines.map fun line => (line, [])
  plain :=
    [countRule, singleKeyRule, setKeyRule, intRule, intListRule, stringRule, stringListRule,
      newKeyRule, newSetRule, duplicateValueRule, takeKeyRule, copyKeyRule] ++
    insertRules ++ keepKeyRules ++ insertSetRules
  quoted :=
    [nameRule, localRecordRule, globalRecordRule, localListRule, globalListRule, emptyKeyRule,
      noSetRule, duplicateKeyRule]

def tableGrammar : LineGrammar ParseStep where
  toLineKinds := tableLines
  exclusive := by decide +kernel
  separated := by decide +kernel
  fixed_plain := by decide +kernel
  plain_plain := by decide +kernel

/-! ## Names -/

theorem fitting_escape {name : String} (hname : Fitting name) : Fitting (escape name) where
  isWord := isWord_escape hname.isWord
  ne_empty := escape_ne_empty hname.ne_empty

theorem fitting_moduleName {name : String} (hname : Identifier name) : Fitting (moduleName name) :=
  fitting_escape (fitting_of_identifier (identifier_snakeCase hname))

/-- What a parser names can be told apart from what is around it. -/
structure ParserNames (schema : Schema) (table : Table) : Prop where
  columns : ∀ column ∈ table.columns.toList, Identifier column.name
  key : Identifier table.keyName
  records : ∀ column ∈ table.columns.toList, column.valueType.atom? = none →
    ∃ struct, schema.columnStruct? table column = some struct ∧ Identifier struct.name

/-! ## Parts of parsers -/

theorem idle_close : Idle tableGrammar ["\x7d"] :=
  .of_fixed String.toList_ofList (by decide)

theorem idle_blank : Idle tableGrammar [""] :=
  .of_fixed String.toList_ofList (by decide)

theorem reads_nameCheck {name : String} (hname : Fitting name) (place : Nat) :
    Reads tableGrammar
      ["util::check_column_name(&line, " ++ toString place ++ ", " ++ quoted name ++ ")?;"]
      [.checkName place name] [name] := by
  have hmeaning : nameRule.meaning [toString place, name] = [.checkName place name] :=
    congrArg (fun number => [ParseStep.checkName number name]) (numeral_toString place)
  rw [← hmeaning]
  refine .of_lastQuoted nameRule (spelled (.of "util::check_column_name(&line, ")) []
    (spelled (.of ", ")) (spelled (.of ")?;")) [toString place]
    (by simp [tableGrammar, tableLines]) rfl (by decide) ?_ rfl
    (List.forall_mem_singleton.2 (fitting_toString place)) hname
  rw [Pattern.fill_eq_append]
  simp only [quoted, String.toList_append, List.append_assoc]
  repeat rw [String.toList_ofList]
  rfl

theorem reads_nameChecks {table : Table}
    (hcolumns : ∀ column ∈ table.columns.toList, Identifier column.name) :
    Reads tableGrammar (nameChecks table) table.nameSteps table.columns.names := by
  have hchecks := Reads.flatMap fun (entry : Column × Nat)
    (hmem : entry ∈ table.columns.toList.zipIdx) =>
      reads_nameCheck (fitting_of_identifier (hcolumns _ (List.fst_mem_of_mem_zipIdx hmem))) entry.2
  rw [← List.map_eq_flatMap, ← List.map_eq_flatMap, ← List.map_eq_flatMap] at hchecks
  have hnames : table.columns.names =
      table.columns.toList.zipIdx.map fun entry => entry.1.name := by
    conv_lhs => rw [Catalog.names, ← List.zipIdx_map_fst 0 table.columns.toList, List.map_map]
    rfl
  rw [hnames]
  exact hchecks

theorem decodeRule_meaning {type : Option FieldType} {isList : Bool}
    {before after : List (List Char)} {words : List String} {member : String} {place : Nat}
    (hmember : words.head? = some member)
    (hplace : words[before.length]? = some (toString place)) :
    (decodeRule type isList before after).meaning words = [.decode place member type isList] := by
  unfold decodeRule
  dsimp only
  rw [hmember, hplace]
  dsimp only
  rw [numeral_toString]

/-- A line that may find the value of a column invalid. -/
theorem reads_recordCell (rule : LineRule ParseStep) {isList : Bool} {before : List (List Char)}
    (path : List String) {line member name : String} {place : Nat}
    (hrule : rule = decodeRule none isList before invalidEnd) (hmem : rule ∈ tableGrammar.quoted)
    (hplain : ∀ text ∈ before, '"' ∉ text) (hpath : ∀ word ∈ path, Fitting word)
    (hmember : Fitting member) (hname : Fitting name) (hlength : before.length = path.length + 1)
    (hline : line.toList = rule.pattern.fill (member :: (path ++ [toString place]) ++ [name])) :
    Reads tableGrammar [line] [.decode place member none isList] [name] := by
  subst hrule
  have hmeaning : (decodeRule none isList before invalidEnd).meaning
      (member :: (path ++ [toString place]) ++ [name]) = [.decode place member none isList] :=
    decodeRule_meaning rfl (by rw [hlength]; simp)
  let text := spelled
    (.of "]).ok_or_else(|| TableParseError::InvalidValue \x7b line: line_number, column: ")
  rw [← hmeaning]
  refine .of_lastQuoted _ [] before text (spelled (.of ".to_owned() \x7d)?,")) _ hmem rfl
    ⟨by simp, ?_⟩ hline (by simp [hlength]) ?_ hname
  · rw [List.forall_mem_append, List.forall_mem_singleton]
    exact ⟨hplain, by decide⟩
  · rw [List.forall_mem_cons, List.forall_mem_append, List.forall_mem_singleton]
    exact ⟨hmember, hpath, fitting_toString place⟩

theorem reads_atomCell (rule : LineRule ParseStep) {type : FieldType} {isList : Bool}
    {before after : List Char} {line member : String} {place : Nat}
    (hrule : rule = decodeRule (some type) isList [before] [after])
    (hmem : rule ∈ tableGrammar.plain) (hmember : Fitting member)
    (hline : line.toList = rule.pattern.fill [member, toString place]) :
    Reads tableGrammar [line] [.decode place member (some type) isList] [] := by
  subst hrule
  have hmeaning : (decodeRule (some type) isList [before] [after]).meaning
      [member, toString place] = [.decode place member (some type) isList] :=
    decodeRule_meaning rfl rfl
  rw [← hmeaning]
  refine .of_plain _ hmem hline rfl ?_
  rw [List.forall_mem_cons, List.forall_mem_singleton]
  exact ⟨hmember, fitting_toString place⟩

variable {schema : Schema} {table : Table} {key : Column}

theorem valueType_eq_structPath {column : Column} (htype : column.valueType.atom? = none)
    {struct : Struct} (hstruct : schema.columnStruct? table column = some struct) :
    valueType schema table column = structPath struct := by
  unfold valueType
  cases hvalue : column.valueType <;> simp_all [ColumnType.atom?]

theorem cellValue_record {column : Column} (htype : column.valueType.atom? = none)
    {struct : Struct} (hstruct : schema.columnStruct? table column = some struct) (index : Nat) :
    cellValue schema table column index =
      if column.isList then
        "util::read_struct_list::<" ++ structPath struct ++ ">(&" ++
          ("line[" ++ toString index ++ "]") ++ ")" ++ orInvalid column
      else structPath struct ++ "::parse(&" ++ ("line[" ++ toString index ++ "]") ++ ")" ++
        orInvalid column := by
  rw [← valueType_eq_structPath htype hstruct]
  unfold cellValue
  cases hvalue : column.valueType <;> cases hlist : column.isList <;>
    simp_all [ColumnType.atom?]

theorem reads_recordValue {column : Column} {struct : Struct}
    (hatom : column.valueType.atom? = none)
    (hstruct : schema.columnStruct? table column = some struct)
    (hname : Fitting column.name) (hstructName : Identifier struct.name) {member : String}
    (hmember : Fitting member) (place : Nat) :
    Reads tableGrammar [member ++ ": " ++ cellValue schema table column place ++ ","]
      [.decode place member none column.isList] [column.name] := by
  have htype := fitting_escape (fitting_of_identifier hstructName)
  have hmodule := fitting_moduleName hstructName
  rw [cellValue_record hatom hstruct, structPath]
  generalize escape struct.name = type at htype ⊢
  generalize moduleName struct.name = module at hmodule ⊢
  have hpath : ∀ word ∈ [module, type], Fitting word :=
    List.forall_mem_cons.2 ⟨hmodule, List.forall_mem_singleton.2 htype⟩
  cases hlist : column.isList <;> cases struct.isGlobal
  case' false.false =>
    refine reads_recordCell localRecordRule [type] rfl (by simp [tableGrammar, tableLines])
      (by decide) (List.forall_mem_singleton.2 htype) hmember hname rfl ?_
  case' false.true =>
    refine reads_recordCell globalRecordRule [module, type] rfl
      (by simp [tableGrammar, tableLines]) (by decide) hpath hmember hname rfl ?_
  case' true.false =>
    refine reads_recordCell localListRule [type] rfl (by simp [tableGrammar, tableLines])
      (by decide) (List.forall_mem_singleton.2 htype) hmember hname rfl ?_
  case' true.true =>
    refine reads_recordCell globalListRule [module, type] rfl
      (by simp [tableGrammar, tableLines]) (by decide) hpath hmember hname rfl ?_
  -- the line is put together from other pieces than the pattern
  all_goals
    rw [Pattern.fill_eq_append]
    unfold orInvalid quoted
    simp only [Bool.false_eq_true, reduceIte, String.toList_append, List.append_assoc]
    repeat rw [String.toList_ofList]
    rfl

theorem reads_atomValue {column : Column} {type : FieldType}
    (hatom : column.valueType.atom? = some type) {member : String} (hmember : Fitting member)
    (place : Nat) :
    Reads tableGrammar [member ++ ": " ++ cellValue schema table column place ++ ","]
      [.decode place member (some type) column.isList] [] := by
  unfold cellValue
  cases hvalue : column.valueType <;> cases hlist : column.isList <;>
    simp only [hvalue, ColumnType.atom?, Option.some.injEq, reduceCtorEq] at hatom <;>
    subst hatom
  case' int.false =>
    refine reads_atomCell intRule rfl (by simp [tableGrammar, tableLines]) hmember ?_
  case' int.true =>
    refine reads_atomCell intListRule rfl (by simp [tableGrammar, tableLines]) hmember ?_
  case' string.false =>
    refine reads_atomCell stringRule rfl (by simp [tableGrammar, tableLines]) hmember ?_
  case' string.true =>
    refine reads_atomCell stringListRule rfl (by simp [tableGrammar, tableLines]) hmember ?_
  all_goals
    rw [Pattern.fill_eq_append]
    simp only [String.toList_append, List.append_assoc]
    repeat rw [String.toList_ofList]
    rfl

theorem reads_cell (hnames : ParserNames schema table) {column : Column}
    (hcolumn : column ∈ table.columns.toList) (place : Nat) :
    Reads tableGrammar
      [escape column.name ++ ": " ++ cellValue schema table column place ++ ","]
      [.decode place (escape column.name) column.valueType.atom? column.isList]
      (if column.valueType.atom?.isNone then [column.name] else []) := by
  have hname := fitting_of_identifier (hnames.columns column hcolumn)
  have hmember := fitting_escape hname
  cases hatom : column.valueType.atom? with
  | none =>
      obtain ⟨struct, hstruct, hstructName⟩ := hnames.records column hcolumn hatom
      exact reads_recordValue hatom hstruct hname hstructName hmember place
  | some type => exact reads_atomValue hatom hmember place

theorem reads_buildRow (hnames : ParserNames schema table) {binding : String}
    (hhead : Idle tableGrammar [("let " ++ binding ++ " = Row") ++ " \x7b"]) :
    Reads tableGrammar (buildRow schema table binding) (table.cellSteps escape)
      (recordColumns table.columns.toList) := by
  have hcells := Reads.flatMap fun (entry : Column × Nat)
    (hmem : entry ∈ table.columns.toList.zipIdx) =>
      reads_cell hnames (List.fst_mem_of_mem_zipIdx hmem) entry.2
  rw [← List.map_eq_flatMap, ← List.map_eq_flatMap,
    flatMap_zipIdx_fst table.columns.toList fun column =>
      if column.valueType.atom?.isNone then [column.name] else [], flatMap_ite_singleton] at hcells
  have hclose : Idle tableGrammar ["\x7d" ++ ";"] :=
    .of_fixed toList_append_spelled (by decide)
  exact .blockWith ";" hhead hcells hclose

/-! ### Keys -/

theorem idle_keyCopy (rules : List (LineRule ParseStep)) (key : Column)
    {first middle last : List Char} {name : String}
    (hrules : rules = keyRules (first ++ middle) last)
    (hmem : ∀ rule ∈ rules, rule ∈ tableGrammar.plain) (hname : Fitting name) :
    Idle tableGrammar [String.ofList first ++ keyCopy key (String.ofList middle ++ name) ++
      String.ofList last] := by
  subst hrules
  unfold keyCopy
  split
  · refine .of_plain (.idle (first ++ middle) [last]) (hmem _ (by simp [keyRules])) ?_
      rfl (List.forall_mem_singleton.2 hname)
    simp [LineRule.idle, Pattern.fill]
  · refine .of_plain (.idle (first ++ middle) [spelled (.of ".clone()") ++ last])
      (hmem _ (by simp [keyRules])) ?_ rfl
      (List.forall_mem_singleton.2 hname)
    rw [String.toList_append, String.toList_append, String.toList_append, String.toList_append,
      String.toList_ofList, String.toList_ofList, String.toList_ofList, String.toList_ofList]
    simp [LineRule.idle, Pattern.fill, spelled]

theorem reads_duplicateKeyCheck (hkey : Fitting table.keyName) {rows : String}
    (hhead : Reads tableGrammar
      [("if " ++ rows ++ ".contains_key(&row." ++ escape table.keyName ++ ")") ++ " \x7b"]
      [.checkNew (escape table.keyName)] []) :
    Reads tableGrammar (duplicateKeyCheck table rows) [.checkNew (escape table.keyName)]
      [table.keyName] := by
  have hgiveUp : Idle tableGrammar ["return Err(TableParseError::DuplicateKey" ++ " \x7b"] :=
    .of_fixed toList_append_spelled (by decide)
  have hline : Idle tableGrammar ["line: line_number,"] :=
    .of_fixed String.toList_ofList (by decide)
  have hkeyLine : Reads tableGrammar ["key: " ++ quoted table.keyName ++ ".to_owned(),"] []
      [table.keyName] := by
    refine .of_quoted duplicateKeyRule (spelled (.of "key: ")) [] [] (spelled (.of ".to_owned(),"))
      (by simp [tableGrammar, tableLines]) rfl ?_ hkey (by simp) (by decide)
    unfold quoted
    simp only [String.toList_append, List.append_assoc]
    repeat rw [String.toList_ofList]
    rfl
  have hvalue : Idle tableGrammar ["value: row." ++ escape table.keyName ++ ".to_string(),"] :=
    .of_plain duplicateValueRule (by simp [tableGrammar, tableLines])
      (toList_around _) rfl (List.forall_mem_singleton.2 (fitting_escape hkey))
  have hclose : Idle tableGrammar ["\x7d" ++ ");"] :=
    .of_fixed toList_append_spelled (by decide)
  exact Reads.block hhead (.blockWith ");" hgiveUp ((hline.append hkeyLine).append hvalue) hclose)
    idle_close

theorem reads_dataLoop {body : Lines} {found : List ParseStep} {texts : List String}
    (hbody : Reads tableGrammar body found texts) :
    Reads tableGrammar (dataLoop body) (.takeLine :: .checkCount :: found) texts := by
  have hnumber : Idle tableGrammar ["let mut line_number = 3;"] :=
    .of_fixed String.toList_ofList (by decide)
  have hloop : Reads tableGrammar ["while let Some(line) = r.next_line()" ++ " \x7b"] [.takeLine]
      [] :=
    .of_fixed toList_append_spelled (by decide)
  have hcount : Reads tableGrammar
      ["util::check_column_count(line_number, &line, COLUMN_COUNT)?;"] [.checkCount] [] :=
    .of_fixed String.toList_ofList (by decide)
  have hnext : Idle tableGrammar ["line_number += 1;"] :=
    .of_fixed String.toList_ofList (by decide)
  exact hnumber.append (.block hloop ((hcount.append hbody).append_idle hnext) idle_close)

def dataTexts (table : Table) : List String :=
  table.keyName :: (recordColumns table.columns.toList ++ [table.keyName])

theorem reads_readSingleRows (hnames : ParserNames schema table) :
    Reads tableGrammar (readSingleRows schema table key) (table.dataSteps escape false)
      (dataTexts table) := by
  have hkey := fitting_of_identifier hnames.key
  have hstart : Idle tableGrammar ["let mut rows = Rows::new();"] :=
    .of_fixed String.toList_ofList (by decide)
  have hempty : Reads tableGrammar ["if " ++ keyIsEmpty table ++ " \x7b"]
      [.checkKey table.keyColumnIndex false] [] := by
    refine .of_number singleKeyRule (fun place => .checkKey place false) _ rfl
      (by simp [tableGrammar, tableLines]) ?_
    unfold keyIsEmpty
    simp only [String.toList_append, List.append_assoc]
    repeat rw [String.toList_ofList]
    rfl
  have hgiveUp : Reads tableGrammar ["return Err(" ++ emptyKeyError table ++ ");"] []
      [table.keyName] := by
    refine .of_quoted emptyKeyRule
      (spelled (.of "return Err(TableParseError::EmptyKey \x7b line: line_number, key: ")) [] []
      (spelled (.of ".to_owned() \x7d);")) (by simp [tableGrammar, tableLines]) rfl ?_ hkey
      (by simp) (by decide)
    unfold emptyKeyError quoted
    simp only [String.toList_append, List.append_assoc]
    repeat rw [String.toList_ofList]
    rfl
  have hrow : Idle tableGrammar [("let " ++ "row" ++ " = Row") ++ " \x7b"] :=
    .of_fixed (toList_opening "row") (by decide)
  have hnew : Reads tableGrammar
      [("if " ++ "rows" ++ ".contains_key(&row." ++ escape table.keyName ++ ")") ++ " \x7b"]
      [.checkNew (escape table.keyName)] [] := by
    refine .of_plain newKeyRule (by simp [tableGrammar, tableLines]) ?_ rfl
      (List.forall_mem_singleton.2 (fitting_escape hkey))
    generalize escape table.keyName = member
    simp only [String.toList_append, List.append_assoc]
    repeat rw [String.toList_ofList]
    rfl
  have hinsert : Idle tableGrammar
      ["rows.insert(" ++ keyCopy key ("row." ++ escape table.keyName) ++ ", row);"] :=
    idle_keyCopy insertRules key rfl (fun _ h => by simp [tableGrammar, tableLines, h])
      (fitting_escape hkey)
  have hreplace : Reads tableGrammar ["self.rows = rows;"] [.replaceRows] [] :=
    .of_fixed String.toList_ofList (by decide)
  have hbody := (((Reads.block hempty hgiveUp idle_close).append_idle idle_blank).append
    (reads_buildRow hnames hrow)).append (reads_duplicateKeyCheck hkey hnew)
  exact (hstart.append (reads_dataLoop (hbody.append_idle hinsert))).append_found hreplace

theorem reads_readRowSets (hnames : ParserNames schema table) :
    Reads tableGrammar (readRowSets schema table key) (table.dataSteps escape true)
      (dataTexts table) := by
  have hkey := fitting_of_identifier hnames.key
  have hmember := fitting_escape hkey
  have hstart : Idle tableGrammar ["let mut row_sets = RowSets::new();"] :=
    .of_fixed String.toList_ofList (by decide)
  have hnoKey : Idle tableGrammar
      ["let mut last_key: Option<" ++ (if key.type = .int then "i32" else "String") ++
        "> = None;"] := by
    split
    · exact .of_fixed (toList_around "i32") (by decide)
    · exact .of_fixed (toList_around "String") (by decide)
  have hcomment : Idle tableGrammar ["// an empty key continues the current group"] :=
    .of_fixed String.toList_ofList (by decide)
  have hempty : Reads tableGrammar
      ["let continued_key = if " ++ keyIsEmpty table ++ " \x7b"]
      [.checkKey table.keyColumnIndex true] [] := by
    refine .of_number setKeyRule (fun place => .checkKey place true) _ rfl
      (by simp [tableGrammar, tableLines]) ?_
    unfold keyIsEmpty
    simp only [String.toList_append, List.append_assoc]
    repeat rw [String.toList_ofList]
    rfl
  have hnoSet : Reads tableGrammar
      ["Some(last_key.clone().ok_or_else(|| " ++ emptyKeyError table ++ ")?)"] []
      [table.keyName] := by
    refine .of_quoted noSetRule (spelled (.of "Some(last_key.clone().ok_or_else(|| ") ++
        spelled (.of "TableParseError::EmptyKey \x7b line: line_number, key: "))
      [] [] (spelled (.of ".to_owned() \x7d)?)")) (by simp [tableGrammar, tableLines]) rfl ?_ hkey
      (by simp) (by decide)
    unfold emptyKeyError quoted
    simp only [String.toList_append, List.append_assoc]
    repeat rw [String.toList_ofList]
    rfl
  have helse : Idle tableGrammar ["\x7d else \x7b"] :=
    .of_fixed String.toList_ofList (by decide)
  have hnone : Idle tableGrammar ["None"] :=
    .of_fixed String.toList_ofList (by decide)
  have hend : Idle tableGrammar ["\x7d;"] :=
    .of_fixed String.toList_ofList (by decide)
  have hrow : Idle tableGrammar [("let " ++ "mut row" ++ " = Row") ++ " \x7b"] :=
    .of_fixed (toList_opening "mut row") (by decide)
  have hmatch : Idle tableGrammar ["match continued_key" ++ " \x7b"] :=
    .of_fixed toList_append_spelled (by decide)
  have hsome : Idle tableGrammar ["Some(key) =>" ++ " \x7b"] :=
    .of_fixed toList_append_spelled (by decide)
  have htakeKey : Idle tableGrammar
      [("row." ++ escape table.keyName) ++ " = " ++ keyCopy key "key" ++ ";"] := by
    generalize escape table.keyName = member at hmember
    unfold keyCopy
    split
    · refine .of_plain takeKeyRule (by simp [tableGrammar, tableLines]) ?_ rfl
        (List.forall_mem_singleton.2 hmember)
      simp only [String.toList_append, List.append_assoc]
      repeat rw [String.toList_ofList]
      rfl
    · refine .of_plain copyKeyRule (by simp [tableGrammar, tableLines]) ?_ rfl
        (List.forall_mem_singleton.2 hmember)
      simp only [String.toList_append, List.append_assoc]
      repeat rw [String.toList_ofList]
      rfl
  have hpush : Idle tableGrammar ["row_sets.entry(key).or_default().push(row);"] :=
    .of_fixed String.toList_ofList (by decide)
  have hnoneCase : Idle tableGrammar ["None =>" ++ " \x7b"] :=
    .of_fixed toList_append_spelled (by decide)
  have hnew : Reads tableGrammar
      [("if " ++ "row_sets" ++ ".contains_key(&row." ++ escape table.keyName ++ ")") ++ " \x7b"]
      [.checkNew (escape table.keyName)] [] := by
    refine .of_plain newSetRule (by simp [tableGrammar, tableLines]) ?_ rfl
      (List.forall_mem_singleton.2 hmember)
    generalize escape table.keyName = member
    simp only [String.toList_append, List.append_assoc]
    repeat rw [String.toList_ofList]
    rfl
  have hkeep : Idle tableGrammar
      ["last_key = Some(" ++ keyCopy key ("row." ++ escape table.keyName) ++ ");"] :=
    idle_keyCopy keepKeyRules key rfl (fun _ h => by simp [tableGrammar, tableLines, h]) hmember
  have hinsert : Idle tableGrammar
      ["row_sets.insert(" ++ keyCopy key ("row." ++ escape table.keyName) ++ ", vec![row]);"] :=
    idle_keyCopy insertSetRules key rfl (fun _ h => by simp [tableGrammar, tableLines, h]) hmember
  have hreplace : Reads tableGrammar ["self.row_sets = row_sets;"] [.replaceRows] [] :=
    .of_fixed String.toList_ofList (by decide)
  have hkeyLines := (((((hcomment.append hempty).append hnoSet.indent).append helse).append
    hnone.indent).append (hend.append idle_blank))
  have hcontinues := Reads.block hsome (htakeKey.append hpush) idle_close
  have hstarts := Reads.block hnoneCase
    ((reads_duplicateKeyCheck hkey hnew).append_idle (hkeep.append hinsert)) idle_close
  have hadd := Reads.block hmatch (hcontinues.append hstarts) idle_close
  have hbody := (hkeyLines.append (reads_buildRow hnames hrow)).append hadd
  exact ((hstart.append hnoKey).append (reads_dataLoop hbody)).append_found hreplace

/-! ## Whole parsers -/

theorem reads_readDataLines (hnames : ParserNames schema table) (key : Column) :
    Reads tableGrammar
      (match table.keyType with
        | .single => readSingleRows schema table key
        | .set => readRowSets schema table key)
      (table.dataSteps escape (table.keyType = .set)) (dataTexts table) := by
  cases table.keyType with
  | single => exact reads_readSingleRows hnames
  | set => exact reads_readRowSets hnames

theorem reads_parseFunction (hnames : ParserNames schema table) :
    Reads tableGrammar (parseFunction schema table key) (table.parseSteps escape)
      (table.columns.names ++ dataTexts table) := by
  have hkeepsRows : Idle tableGrammar
      ["/// Replaces the loaded rows with the content of `text`. On failure"] :=
    .of_fixed String.toList_ofList (by decide)
  have hkept : Idle tableGrammar ["/// the previously loaded rows are kept."] :=
    .of_fixed String.toList_ofList (by decide)
  have hhead : Idle tableGrammar
      ["pub fn parse(&mut self, text: &str) -> Result<(), TableParseError>" ++ " \x7b"] :=
    .of_fixed toList_append_spelled (by decide)
  have hcount : Reads tableGrammar
      ["const COLUMN_COUNT: usize = " ++ toString table.columns.toList.length ++ ";"]
      [.columnCount table.columns.toList.length] [] :=
    .of_number countRule (fun count => .columnCount count) _ rfl
      (by simp [tableGrammar, tableLines]) (toList_around _)
  have hreader : Idle tableGrammar ["let mut r = LineReader::new(text);"] :=
    .of_fixed String.toList_ofList (by decide)
  have hcomment : Reads tableGrammar
      ["let line = r.next_line().ok_or(TableParseError::MissingCommentLine)?;"] [.takeLine] [] :=
    .of_fixed String.toList_ofList (by decide)
  have hcommentCount : Reads tableGrammar
      ["util::check_column_count(1, &line, COLUMN_COUNT)?;"] [.checkCount] [] :=
    .of_fixed String.toList_ofList (by decide)
  have hname : Reads tableGrammar
      ["let line = r.next_line().ok_or(TableParseError::MissingNameLine)?;"] [.takeLine] [] :=
    .of_fixed String.toList_ofList (by decide)
  have hnameCount : Reads tableGrammar
      ["util::check_column_count(2, &line, COLUMN_COUNT)?;"] [.checkCount] [] :=
    .of_fixed String.toList_ofList (by decide)
  have hdone : Idle tableGrammar ["Ok(())"] :=
    .of_fixed String.toList_ofList (by decide)
  have hheader := ((hcount.append (hreader.append idle_blank)).append
    (hcomment.append (hcommentCount.append_idle idle_blank))).append (hname.append hnameCount)
  have hbody := (((hheader.append (reads_nameChecks hnames.columns)).append_idle
    idle_blank).append (reads_readDataLines hnames key)).append_idle hdone
  exact (hkeepsRows.append hkept).append (.block hhead hbody idle_close)

/-- The texts in quotes in the parser of a table: the names that it checks, and those that stand in
what it complains of. -/
def parserTexts (layout : Layout) : List String :=
  layout.columns.map ColumnLayout.name ++
    layout.keyName :: (layout.recordNames ++ [layout.keyName])

/-- The parser of a table takes the steps that its layout asks for. -/
theorem recognize_parseFunction {layout : Layout} (hlayout : schema.layout? table = some layout)
    (hnames : ParserNames schema table) :
    recognize tableGrammar (parseFunction schema table key) = some (layout.parseSteps escape) := by
  rw [(reads_parseFunction hnames).found, Layout.parseSteps_eq hlayout]

theorem quotedTexts_parseFunction {layout : Layout} (hlayout : schema.layout? table = some layout)
    (hnames : ParserNames schema table) :
    quotedTexts (parseFunction schema table key) = parserTexts layout := by
  rw [(reads_parseFunction hnames).texts, dataTexts, recordColumns_eq hlayout,
    ← Schema.layout?_names hlayout, ← (Schema.layout?_eq_some hlayout).2.2.2.1]
  rfl

/-! ## Parsers of structs -/

def intFieldRule : LineRule FieldStep where
  pattern := ⟨[], [spelled (.of ": s.next_int()?,")]⟩
  meaning words := words.map fun member => .readField member .int

def stringFieldRule : LineRule FieldStep where
  pattern := ⟨[], [spelled (.of ": s.next_str()?.to_owned(),")]⟩
  meaning words := words.map fun member => .readField member .string

def structGrammar : LineGrammar FieldStep where
  fixed := (spelled (.of "if s.next_str().is_some() \x7b"), [.requireEnd]) ::
    [spelled (.of "\x7d"), spelled (.of "\x7d;"),
      spelled (.of "fn parse(_text: &str) -> Option<Self> \x7b"),
      spelled (.of "fn parse(text: &str) -> Option<Self> \x7b"),
      spelled (.of "Some(Self \x7b\x7d)"),
      spelled (.of "let mut s = ColumnSplitter::new(text, STRUCT_DELIMITER);"),
      spelled (.of "let value = Self \x7b"), spelled (.of "return None;"),
      spelled (.of "Some(value)")].map fun line => (line, [])
  plain := [intFieldRule, stringFieldRule]
  quoted := []
  exclusive := by decide +kernel
  separated := by decide +kernel
  fixed_plain := by decide +kernel
  plain_plain := by decide +kernel

theorem reads_fieldLine {field : Field} (hname : Fitting field.name) :
    Reads structGrammar [escape field.name ++ ": " ++ readField field.type ++ ","]
      [.readField (escape field.name) field.type] [] := by
  have hmember := fitting_escape hname
  generalize escape field.name = member at hmember
  cases field.type with
  | int =>
      refine .of_plain intFieldRule (by simp [structGrammar]) ?_ rfl
        (List.forall_mem_singleton.2 hmember)
      simp only [readField, String.toList_append, List.append_assoc]
      repeat rw [String.toList_ofList]
      rfl
  | string =>
      refine .of_plain stringFieldRule (by simp [structGrammar]) ?_ rfl
        (List.forall_mem_singleton.2 hmember)
      simp only [readField, String.toList_append, List.append_assoc]
      repeat rw [String.toList_ofList]
      rfl

theorem reads_structParse {struct : Struct}
    (hfields : ∀ field ∈ struct.fields.toList, Fitting field.name) :
    Reads structGrammar (structParse struct)
      (recordSteps escape (struct.fields.toList.map fun field => (field.name, field.type))) [] := by
  have hclose : Idle structGrammar ["\x7d"] :=
    .of_fixed String.toList_ofList (by decide)
  unfold structParse recordSteps
  rw [List.isEmpty_map, List.map_map]
  split
  case isTrue =>
    have hhead : Idle structGrammar ["fn parse(_text: &str) -> Option<Self>" ++ " \x7b"] :=
      .of_fixed toList_append_spelled (by decide)
    have hsome : Idle structGrammar ["Some(Self \x7b\x7d)"] :=
      .of_fixed String.toList_ofList (by decide)
    exact .block hhead hsome hclose
  case isFalse =>
    have hhead : Idle structGrammar ["fn parse(text: &str) -> Option<Self>" ++ " \x7b"] :=
      .of_fixed toList_append_spelled (by decide)
    have hsplitter : Idle structGrammar
        ["let mut s = ColumnSplitter::new(text, STRUCT_DELIMITER);"] :=
      .of_fixed String.toList_ofList (by decide)
    have hvalue : Idle structGrammar ["let value = Self" ++ " \x7b"] :=
      .of_fixed toList_append_spelled (by decide)
    have hend : Idle structGrammar ["\x7d" ++ ";"] :=
      .of_fixed toList_append_spelled (by decide)
    have hmore : Reads structGrammar ["if s.next_str().is_some()" ++ " \x7b"] [.requireEnd] [] :=
      .of_fixed toList_append_spelled (by decide)
    have hnone : Idle structGrammar ["return None;"] :=
      .of_fixed String.toList_ofList (by decide)
    have hsome : Idle structGrammar ["Some(value)"] :=
      .of_fixed String.toList_ofList (by decide)
    have hreads := Reads.flatMap fun field hmem => reads_fieldLine (hfields field hmem)
    rw [← List.map_eq_flatMap, ← List.map_eq_flatMap,
      List.flatMap_eq_nil_iff.2 fun _ _ => rfl] at hreads
    have hbody := ((hsplitter.append (.blockWith ";" hvalue hreads hend)).append
      (.block hmore hnone hclose)).append_idle hsome
    exact .block hhead hbody hclose

end Generate.Rust

end TableSchema
