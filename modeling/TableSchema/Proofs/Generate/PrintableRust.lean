import TableSchema.Proofs.Generate.ModuleList
import TableSchema.Proofs.Generate.Printable

/-!
# Printable Rust code

The lines of generated Rust code are printable text if the names in them are words. What holds of
all lines but those that read a cell holds of the whole module of a table just if it holds of these.
-/

namespace TableSchema.Generate.Rust

variable {schema : Schema} {table : Table} {struct : Struct} {column key : Column}

/-- Printable text without an opening square bracket. -/
abbrev Unbracketed (text : String) : Prop :=
  Without ['['] text

/-- What lines have whatever their indentation, and all those that lack a bracket or an ampersand.
Both stand in the lines that read a cell into a struct. -/
structure LineProperty (P : String → Prop) : Prop where
  indentLine : ∀ line, P (indentLine line) ↔ P line
  unbracketed : ∀ line, Unbracketed line → P line
  unreferenced : ∀ line, Without ['&'] line → P line

theorem lineProperty_printable : LineProperty Printable where
  indentLine _ := printable_indentLine
  unbracketed _ hline := hline.printable
  unreferenced _ hline := hline.printable

@[simp] theorem unbracketed_indentLine {line : String} :
    Unbracketed (indentLine line) ↔ Unbracketed line :=
  without_indentLine (by decide)

/-- A line without a bracket that is written out in the generator. -/
theorem LineProperty.literal {P : String → Prop} (hP : LineProperty P) {cs : List Char}
    (hcs : cs.all (isPrintableNot ['[']) = true) : P (String.ofList cs) :=
  hP.unbracketed _ (only_ofList hcs)

theorem LineProperty.of_mem {P : String → Prop} (hP : LineProperty P) {lines : Lines}
    (hlines : ∀ line ∈ lines, Unbracketed line) : ∀ line ∈ lines, P line :=
  fun line hmem => hP.unbracketed line (hlines line hmem)

/-! ## Lines without brackets -/

theorem unbracketed_heading : ∀ line ∈ heading, Unbracketed line := by
  simp [heading]
  and_intros <;> exact only_ofList rfl

theorem unbracketed_escape {name : String} (hname : IsWord name) : Unbracketed (escape name) :=
  (isWord_escape hname).without (by decide)

theorem unbracketed_quoted {name : String} (hname : IsWord name) : Unbracketed (quoted name) := by
  unfold quoted
  have hname : Unbracketed name := hname.without (by decide)
  simpa [hname] using only_ofList rfl

theorem without_keyCopy {excluded : List Char} {place : String} (hplace : Without excluded place)
    (hclone : Without excluded ".clone()") : Without excluded (keyCopy key place) := by
  unfold keyCopy
  split
  · exact hplace
  · exact only_append.2 ⟨hplace, hclone⟩

theorem unbracketed_repr (n : Nat) : Unbracketed n.repr :=
  (isWord_toString n).without (by decide)

/-! ### Types -/

theorem unbracketed_fieldType (type : FieldType) : Unbracketed (fieldType type) := by
  cases type <;> exact only_ofList rfl

theorem unbracketed_structPath (hname : IsWord struct.name) : Unbracketed (structPath struct) := by
  have hescaped := unbracketed_escape hname
  have hmodule : Unbracketed (moduleName struct.name) :=
    (isWord_moduleName hname).without (by decide)
  unfold structPath
  split
  · simp only [only_append, hescaped, hmodule, and_true]
    exact ⟨only_ofList rfl, only_ofList rfl⟩
  · exact hescaped

theorem unbracketed_valueType (hwords : TableWords schema table)
    (hcolumn : column ∈ table.columns.toList) : Unbracketed (valueType schema table column) := by
  have hstruct : Unbracketed (((schema.columnStruct? table column).map structPath).getD "") := by
    cases hfound : schema.columnStruct? table column with
    | none => exact only_ofList rfl
    | some struct =>
        exact unbracketed_structPath (hwords.columnStructs column hcolumn struct hfound)
  unfold valueType
  split
  · exact only_ofList rfl
  · exact only_ofList rfl
  · exact hstruct

theorem unbracketed_columnType (hwords : TableWords schema table)
    (hcolumn : column ∈ table.columns.toList) : Unbracketed (columnType schema table column) := by
  have htype := unbracketed_valueType hwords hcolumn
  unfold columnType
  dsimp only
  split
  · simp only [only_append, htype, and_true]
    exact ⟨only_ofList rfl, only_ofList rfl⟩
  · exact htype

/-! ### Structs -/

theorem unbracketed_readField (type : FieldType) : Unbracketed (readField type) := by
  cases type <;> exact only_ofList rfl

theorem unbracketed_structParse (hwords : NamesWords struct) :
    ∀ line ∈ structParse struct, Unbracketed line := by
  have hfields : ∀ field ∈ struct.fields.toList,
      Unbracketed (escape field.name ++ ": " ++ readField field.type ++ ",") := by
    intro field hmem
    simp only [only_append, unbracketed_escape (hwords.fields field hmem), unbracketed_readField,
      true_and, and_true]
    exact ⟨only_ofList rfl, only_ofList rfl⟩
  unfold structParse
  split
  · simp only [forall_mem_block, List.forall_mem_singleton, unbracketed_indentLine,
      String.reduceAppend]
    and_intros <;> exact only_ofList rfl
  · simp only [forall_mem_block, forall_mem_blockWith, List.forall_mem_append,
      List.forall_mem_singleton, List.forall_mem_map, unbracketed_indentLine, String.reduceAppend]
    and_intros <;> first | exact only_ofList rfl | exact hfields

/-! ### Tables -/

theorem unbracketed_runtimeImports (table : Table) :
    ∀ name ∈ runtimeImports table, Unbracketed name := by
  simp only [runtimeImports, List.forall_mem_append, forall_mem_linesIf, List.forall_mem_cons,
    List.not_mem_nil, false_imp_iff, implies_true, and_true]
  and_intros <;> intros <;> exact only_ofList rfl

theorem unbracketed_rowsMember (table : Table) : Unbracketed (rowsMember table) := by
  unfold rowsMember
  cases table.keyType <;> exact only_ofList rfl

theorem unbracketed_accessors (table : Table) (key : Column) :
    ∀ line ∈ accessors table key, Unbracketed line := by
  unfold accessors
  by_cases hint : key.type = .int <;> cases table.keyType <;>
    simp only [hint, reduceIte, List.forall_mem_append, List.forall_mem_singleton,
      forall_mem_block, unbracketed_indentLine, String.reduceAppend] <;>
    and_intros <;> exact only_ofList rfl

section Table

variable (hwords : TableWords schema table)
include hwords

theorem unbracketed_rowTypes (hkey : key ∈ table.columns.toList) :
    ∀ line ∈ rowTypes schema table key, Unbracketed line := by
  have htype := unbracketed_columnType hwords hkey
  unfold rowTypes
  cases table.keyType <;> simp [htype] <;> and_intros <;> exact only_ofList rfl

theorem unbracketed_emptyKeyError : Unbracketed (emptyKeyError table) := by
  unfold emptyKeyError
  simp only [only_append, unbracketed_quoted hwords.keyName, and_true]
  exact ⟨only_ofList rfl, only_ofList rfl⟩

theorem unbracketed_orInvalid (hcolumn : column ∈ table.columns.toList) :
    Unbracketed (orInvalid column) := by
  unfold orInvalid
  simp only [only_append, unbracketed_quoted (hwords.columns column hcolumn), and_true]
  exact ⟨only_ofList rfl, only_ofList rfl⟩

theorem unbracketed_duplicateKeyCheck {rows : String} (hrows : Unbracketed rows) :
    ∀ line ∈ duplicateKeyCheck table rows, Unbracketed line := by
  have hname := unbracketed_escape hwords.keyName
  have hquoted := unbracketed_quoted hwords.keyName
  unfold duplicateKeyCheck
  simp [hrows, hname, hquoted]
  and_intros <;> exact only_ofList rfl

theorem unbracketed_nameChecks : ∀ line ∈ nameChecks table, Unbracketed line := by
  unfold nameChecks
  rw [List.forall_mem_map]
  intro entry hmem
  have hcolumn : entry.1 ∈ table.columns.toList := List.fst_mem_of_mem_zipIdx hmem
  simp [unbracketed_quoted (hwords.columns _ hcolumn), unbracketed_repr]
  and_intros <;> exact only_ofList rfl

end Table

/-! ## Structs -/

section Structs

variable {P : String → Prop} (hP : LineProperty P)
include hP

theorem LineProperty.of_mem_structDefinition (hwords : NamesWords struct) :
    ∀ line ∈ structDefinition struct, P line := by
  have hname := unbracketed_escape hwords.name
  have hhead {last : String} (hlast : Unbracketed last) :
      P ("pub struct " ++ escape struct.name ++ last) :=
    hP.unbracketed _ (only_append.2 ⟨only_append.2 ⟨only_ofList rfl, hname⟩, hlast⟩)
  have hderive : P "#[derive(Debug, Clone, PartialEq, Eq, Default)]" :=
    hP.unreferenced _ (only_ofList rfl)
  have hfields : ∀ field ∈ struct.fields.toList,
      P ("pub " ++ escape field.name ++ ": " ++ fieldType field.type ++ ",") := by
    intro field hmem
    refine hP.unbracketed _ ?_
    simp only [only_append, unbracketed_escape (hwords.fields field hmem), unbracketed_fieldType,
      and_true]
    and_intros <;> exact only_ofList rfl
  unfold structDefinition
  dsimp only
  split
  · rw [List.forall_mem_append, List.forall_mem_singleton, List.forall_mem_singleton]
    exact ⟨hderive, hhead (only_ofList rfl)⟩
  · simp only [forall_mem_block, List.forall_mem_append, List.forall_mem_singleton,
      List.forall_mem_map, hP.indentLine]
    exact ⟨hderive, hhead (only_ofList rfl), hfields, hP.literal rfl⟩

theorem LineProperty.of_mem_structItems (hwords : NamesWords struct) :
    ∀ line ∈ structItems struct, P line := by
  have hhead : Unbracketed ("impl ParseValue for " ++ escape struct.name ++ " \x7b") := by
    simp only [only_append, unbracketed_escape hwords.name, and_true]
    exact ⟨only_ofList rfl, only_ofList rfl⟩
  simp only [structItems, forall_mem_block, List.forall_mem_append, List.forall_mem_singleton,
    hP.indentLine]
  exact ⟨⟨hP.of_mem_structDefinition hwords, hP.literal rfl⟩,
    hP.unbracketed _ hhead, hP.of_mem (unbracketed_structParse hwords),
    hP.literal rfl⟩

theorem LineProperty.of_mem_structModule (hwords : NamesWords struct) :
    ∀ line ∈ structModule struct, P line := by
  have himports : ∀ line ∈ structImports struct, Unbracketed line := by
    unfold structImports
    split
    · exact List.forall_mem_singleton.2 (only_ofList rfl)
    · exact List.forall_mem_singleton.2 (only_ofList rfl)
  simp only [structModule, List.forall_mem_append, List.forall_mem_singleton]
  exact ⟨⟨⟨hP.of_mem unbracketed_heading, hP.of_mem himports⟩,
    hP.literal rfl⟩, hP.of_mem_structItems hwords⟩

end Structs

/-! ## Tables -/

/-- The line of a parser that reads the cell of a column. -/
def cellLine (schema : Schema) (table : Table) (column : Column) (index : Nat) : String :=
  escape column.name ++ ": " ++ cellValue schema table column index ++ ","

/-- All lines of a parser that read cells have a property. -/
def EachCellLine (P : String → Prop) (schema : Schema) (table : Table) : Prop :=
  ∀ entry ∈ table.columns.toList.zipIdx, P (cellLine schema table entry.1 entry.2)

section Table

variable {P : String → Prop} (hP : LineProperty P) (hwords : TableWords schema table)
include hP

theorem LineProperty.forall_mem_dataLoop {body : Lines} :
    (∀ line ∈ dataLoop body, P line) ↔ ∀ line ∈ body, P line := by
  have hstart : P "let mut line_number = 3;" := hP.literal rfl
  have hwhile : P "while let Some(line) = r.next_line() \x7b" := hP.literal rfl
  have hcheck : P "util::check_column_count(line_number, &line, COLUMN_COUNT)?;" := hP.literal rfl
  have hcount : P "line_number += 1;" := hP.literal rfl
  have hend : P "\x7d" := hP.literal rfl
  simp only [dataLoop, forall_mem_block, List.forall_mem_append, List.forall_mem_singleton,
    hP.indentLine, String.reduceAppend, hstart, hwhile, hcheck, hcount, hend, true_and, and_true]

theorem LineProperty.of_keyIsEmpty {start rest : String} (hstart : Without ['&'] start)
    (hrest : Without ['&'] rest) : P (start ++ keyIsEmpty table ++ rest) := by
  have hindex : Without ['&'] (table.keyColumnIndex).repr :=
    (isWord_toString _).without (by decide)
  refine hP.unreferenced _ ?_
  unfold keyIsEmpty
  simp only [only_append, hstart, hrest, Nat.toString_eq_repr, hindex, true_and, and_true]
  exact ⟨only_ofList rfl, only_ofList rfl⟩

theorem LineProperty.forall_mem_buildRow {binding : String} (hbinding : Unbracketed binding) :
    (∀ line ∈ buildRow schema table binding, P line) ↔ EachCellLine P schema table := by
  have hhead : P ("let " ++ binding ++ " = Row" ++ " \x7b") := by
    refine hP.unbracketed _ ?_
    simp only [only_append, hbinding, and_true]
    exact ⟨⟨only_ofList rfl, only_ofList rfl⟩, only_ofList rfl⟩
  have hend : P ("\x7d" ++ ";") := @LineProperty.literal P hP ['}', ';'] rfl
  simp only [buildRow, forall_mem_blockWith, List.forall_mem_map, hP.indentLine, hhead, hend,
    true_and, and_true]
  rfl

include hwords

theorem LineProperty.forall_mem_readSingleRows :
    (∀ line ∈ readSingleRows schema table key, P line) ↔ EachCellLine P schema table := by
  have hnew : P "let mut rows = Rows::new();" := hP.literal rfl
  have hset : P "self.rows = rows;" := hP.literal rfl
  have hblank : P "" := hP.literal rfl
  have hbuild : (∀ line ∈ buildRow schema table "row", P line) ↔ EachCellLine P schema table :=
    hP.forall_mem_buildRow (only_ofList rfl)
  have hcheck := hP.of_mem
    (unbracketed_duplicateKeyCheck hwords (only_ofList rfl : Unbracketed "rows"))
  have hempty : ∀ line ∈ block ("if " ++ keyIsEmpty table)
      ["return Err(" ++ emptyKeyError table ++ ");"], P line := by
    have herror : Unbracketed ("return Err(" ++ emptyKeyError table ++ ");") := by
      simp only [only_append, unbracketed_emptyKeyError hwords, and_true]
      exact ⟨only_ofList rfl, only_ofList rfl⟩
    simp only [forall_mem_block, List.forall_mem_singleton, hP.indentLine]
    exact ⟨hP.of_keyIsEmpty (only_ofList rfl) (only_ofList rfl), hP.unbracketed _ herror,
      hP.literal rfl⟩
  have hinsert : P ("rows.insert(" ++ keyCopy key ("row." ++ escape table.keyName) ++
      ", row);") := by
    have hkey : Unbracketed ("row." ++ escape table.keyName) :=
      only_append.2 ⟨only_ofList rfl, unbracketed_escape hwords.keyName⟩
    refine hP.unbracketed _ ?_
    simp only [only_append, without_keyCopy hkey (only_ofList rfl), and_true]
    exact ⟨only_ofList rfl, only_ofList rfl⟩
  simp only [readSingleRows, List.forall_mem_append, List.forall_mem_singleton,
    hP.forall_mem_dataLoop, hnew, hset, hblank, hbuild, hinsert, true_and, and_true]
  exact ⟨fun h => h.1.2, fun h => ⟨⟨hempty, h⟩, hcheck⟩⟩

theorem LineProperty.forall_mem_readRowSets :
    (∀ line ∈ readRowSets schema table key, P line) ↔ EachCellLine P schema table := by
  have hbuild : (∀ line ∈ buildRow schema table "mut row", P line) ↔ EachCellLine P schema table :=
    hP.forall_mem_buildRow (only_ofList rfl)
  have hcheck := hP.of_mem
    (unbracketed_duplicateKeyCheck hwords (only_ofList rfl : Unbracketed "row_sets"))
  have hrowKey : Unbracketed ("row." ++ escape table.keyName) :=
    only_append.2 ⟨only_ofList rfl, unbracketed_escape hwords.keyName⟩
  have hlast : P ("let mut last_key: Option<" ++
      (if key.type = .int then "i32" else "String") ++ "> = None;") := by
    refine hP.unbracketed _ ?_
    simp only [only_append]
    refine ⟨⟨only_ofList rfl, ?_⟩, only_ofList rfl⟩
    split <;> exact only_ofList rfl
  have hempty : P ("let continued_key = if " ++ keyIsEmpty table ++ " \x7b") :=
    hP.of_keyIsEmpty (only_ofList rfl) (only_ofList rfl)
  have herror : P ("Some(last_key.clone().ok_or_else(|| " ++ emptyKeyError table ++ ")?)") := by
    refine hP.unbracketed _ ?_
    simp only [only_append, unbracketed_emptyKeyError hwords, and_true]
    exact ⟨only_ofList rfl, only_ofList rfl⟩
  have hcontinue : P ("row." ++ escape table.keyName ++ " = " ++ keyCopy key "key" ++ ";") := by
    refine hP.unbracketed _ ?_
    have hcopy : Unbracketed (keyCopy key "key") :=
      without_keyCopy (only_ofList rfl) (only_ofList rfl)
    simp only [only_append, unbracketed_escape hwords.keyName, hcopy, and_true]
    exact ⟨⟨only_ofList rfl, only_ofList rfl⟩, only_ofList rfl⟩
  have hremember : P ("last_key = Some(" ++ keyCopy key ("row." ++ escape table.keyName) ++
      ");") := by
    refine hP.unbracketed _ ?_
    simp only [only_append, without_keyCopy hrowKey (only_ofList rfl), and_true]
    exact ⟨only_ofList rfl, only_ofList rfl⟩
  have hinsert : P ("row_sets.insert(" ++ keyCopy key ("row." ++ escape table.keyName) ++
      ", vec![row]);") := by
    have hkey : Without ['&'] ("row." ++ escape table.keyName) :=
      only_append.2 ⟨only_ofList rfl, (isWord_escape hwords.keyName).without (by decide)⟩
    refine hP.unreferenced _ ?_
    simp only [only_append, without_keyCopy hkey (only_ofList rfl), and_true]
    exact ⟨only_ofList rfl, only_ofList rfl⟩
  unfold readRowSets
  simp only [List.forall_mem_append, List.forall_mem_cons, List.not_mem_nil, forall_mem_block,
    forall_mem_indent, hP.indentLine, hP.forall_mem_dataLoop, hbuild, hlast, hempty, herror,
    hcontinue, hremember, hinsert, String.reduceAppend, false_imp_iff, implies_true, true_and,
    and_true]
  constructor
  · rintro ⟨⟨-, ⟨-, hcells⟩, -⟩, -⟩
    exact hcells
  · intro hcells
    and_intros <;> first | with_reducible assumption | exact hP.literal rfl

theorem LineProperty.forall_mem_parseFunction :
    (∀ line ∈ parseFunction schema table key, P line) ↔ EachCellLine P schema table := by
  have hsingle : (∀ line ∈ readSingleRows schema table key, P line) ↔
      EachCellLine P schema table := hP.forall_mem_readSingleRows hwords
  have hset : (∀ line ∈ readRowSets schema table key, P line) ↔ EachCellLine P schema table :=
    hP.forall_mem_readRowSets hwords
  have hchecks := hP.of_mem (unbracketed_nameChecks hwords)
  have hcount : P ("const COLUMN_COUNT: usize = " ++ table.columns.toList.length.repr ++ ";") := by
    refine hP.unbracketed _ ?_
    simp only [only_append, unbracketed_repr, and_true]
    exact ⟨only_ofList rfl, only_ofList rfl⟩
  unfold parseFunction
  cases table.keyType
  all_goals
    simp only [forall_mem_block, List.forall_mem_append, List.forall_mem_cons, List.not_mem_nil,
      hP.indentLine, hsingle, hset, hcount, Nat.toString_eq_repr, String.reduceAppend,
      false_imp_iff, implies_true, true_and, and_true]
    constructor
    · rintro ⟨-, -, ⟨⟨-, hcells⟩, -⟩, -⟩
      exact hcells
    · intro hcells
      and_intros <;> first | with_reducible assumption | exact hP.literal rfl

theorem LineProperty.forall_mem_tableFunctions :
    (∀ line ∈ tableFunctions schema table key, P line) ↔ EachCellLine P schema table := by
  have hhead : P ("impl " ++ escape table.name ++ " \x7b") := by
    refine hP.unbracketed _ ?_
    simp only [only_append, unbracketed_escape hwords.name, and_true]
    exact ⟨only_ofList rfl, only_ofList rfl⟩
  have hnew : P "pub fn new() -> Self \x7b" := hP.literal rfl
  have hdefault : P "Self::default()" := hP.literal rfl
  have haccessors := hP.of_mem (unbracketed_accessors table key)
  have hblank : P "" := hP.literal rfl
  have hend : P "\x7d" := hP.literal rfl
  unfold tableFunctions
  simp only [forall_mem_block, hP.indentLine, forall_mem_spaced hblank, List.forall_mem_cons,
    List.not_mem_nil, hP.forall_mem_parseFunction hwords, hhead, hnew, hdefault, hend,
    String.reduceAppend, false_imp_iff, implies_true, true_and, and_true]
  exact ⟨fun h => h.1, fun h => ⟨h, haccessors⟩⟩

/-! ### Definitions -/

theorem LineProperty.of_mem_rowDefinition : ∀ line ∈ rowDefinition schema table, P line := by
  have hfields : ∀ column ∈ table.columns.toList,
      P ("pub " ++ escape column.name ++ ": " ++ columnType schema table column ++ ",") := by
    intro column hmem
    refine hP.unbracketed _ ?_
    simp only [only_append, unbracketed_escape (hwords.columns column hmem),
      unbracketed_columnType hwords hmem, and_true]
    and_intros <;> exact only_ofList rfl
  unfold rowDefinition
  simp only [forall_mem_block, List.forall_mem_append, List.forall_mem_singleton,
    List.forall_mem_map, hP.indentLine, String.reduceAppend]
  exact ⟨hP.unreferenced _ (only_ofList rfl), hP.literal rfl, hfields, hP.literal rfl⟩

theorem LineProperty.of_mem_tableDefinition : ∀ line ∈ tableDefinition table, P line := by
  have hhead : P ("pub struct " ++ escape table.name ++ " \x7b") := by
    refine hP.unbracketed _ ?_
    simp only [only_append, unbracketed_escape hwords.name, and_true]
    exact ⟨only_ofList rfl, only_ofList rfl⟩
  unfold tableDefinition
  simp only [forall_mem_block, List.forall_mem_append, List.forall_mem_singleton, hP.indentLine]
  exact ⟨hP.unreferenced _ (only_ofList rfl), hhead,
    hP.unbracketed _ (unbracketed_rowsMember table), hP.literal rfl⟩

/-- What holds of all lines with no part in reading cells into structs holds of all lines of the
module of a table just if it holds of those that read cells. -/
theorem LineProperty.forall_mem_tableModule (hkey : key ∈ table.columns.toList) :
    (∀ line ∈ tableModule schema table key, P line) ↔ EachCellLine P schema table := by
  have huse : P ("use tablekit_runtime::\x7b" ++ joined ", " (runtimeImports table) ++
      "\x7d;") := by
    have hnames : Unbracketed (joined ", " (runtimeImports table)) :=
      only_joined (only_ofList rfl) (unbracketed_runtimeImports table)
    refine hP.unbracketed _ ?_
    simp only [only_append, hnames, and_true]
    exact ⟨only_ofList rfl, only_ofList rfl⟩
  have hcollections : P "use std::collections::BTreeMap;" := hP.literal rfl
  have hblank : P "" := hP.literal rfl
  have hheading := hP.of_mem unbracketed_heading
  have hstructs : ∀ struct ∈ table.localStructs.toList, ∀ line ∈ structItems struct, P line :=
    fun struct hmem => hP.of_mem_structItems (hwords.localStructs struct hmem)
  have hrow := hP.of_mem_rowDefinition hwords
  have htypes := hP.of_mem (unbracketed_rowTypes hwords hkey)
  have htable := hP.of_mem_tableDefinition hwords
  simp only [tableModule, List.forall_mem_append, List.forall_mem_cons, List.not_mem_nil,
    forall_mem_spaced hblank, List.forall_mem_map, hP.forall_mem_tableFunctions hwords, huse,
    hcollections, hblank, false_imp_iff, implies_true, and_true]
  exact ⟨fun h => h.2.2.2.2, fun h => ⟨hheading, hstructs, ⟨hrow, htypes⟩, htable, h⟩⟩

omit hP in
theorem printable_cellLine {entry : Column × Nat} (hmem : entry ∈ table.columns.toList.zipIdx) :
    Printable (cellLine schema table entry.1 entry.2) := by
  have hcolumn : entry.1 ∈ table.columns.toList := List.fst_mem_of_mem_zipIdx hmem
  have hname := (unbracketed_escape (hwords.columns _ hcolumn)).printable
  have htype := (unbracketed_valueType hwords hcolumn).printable
  have hinvalid := (unbracketed_orInvalid hwords hcolumn).printable
  have hvalue : Printable (cellValue schema table entry.1 entry.2) := by
    unfold cellValue
    dsimp only
    split <;> simp [htype, hinvalid] <;> and_intros <;> exact only_ofList rfl
  simp only [cellLine, only_append, hname, hvalue, true_and, and_true]
  exact ⟨only_ofList rfl, only_ofList rfl⟩

end Table

/-! ## Printable modules -/

theorem printable_structModule (hwords : NamesWords struct) :
    ∀ line ∈ structModule struct, Printable line :=
  lineProperty_printable.of_mem_structModule hwords

theorem printable_tableModule (hwords : TableWords schema table)
    (hkey : key ∈ table.columns.toList) :
    ∀ line ∈ tableModule schema table key, Printable line :=
  (lineProperty_printable.forall_mem_tableModule hwords hkey).2 fun _ hmem =>
    printable_cellLine hwords hmem

theorem printable_moduleList {reader : Reader} {name : String}
    (hparts : ∀ part ∈ reader.namespaceParts, IsWord part) (hname : IsWord name)
    (hmodules : ∀ module ∈ moduleNames schema, IsWord module) :
    ∀ line ∈ moduleList schema (some reader) name, Printable line := by
  have hheading := lineProperty_printable.of_mem unbracketed_heading
  have hcomment : ∀ line ∈ readerComment (some reader) name, Printable line := by
    have hnamespace : Printable (joined "::" reader.namespaceParts) :=
      only_joined (only_ofList rfl) fun part hmem => (hparts part hmem).printable
    unfold readerComment
    dsimp only [Option.map_some, Option.getD_some]
    split
    · simp
    · simp [hnamespace, hname.printable]
      and_intros <;> exact only_ofList rfl
  rw [moduleList, List.forall_mem_append, List.forall_mem_append, List.forall_mem_map]
  refine ⟨⟨hheading, hcomment⟩, fun module hmem => ?_⟩
  simp [(hmodules module hmem).printable]
  and_intros <;> exact only_ofList rfl

end TableSchema.Generate.Rust
