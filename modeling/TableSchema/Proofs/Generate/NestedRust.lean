import TableSchema.Proofs.Generate.DueBrackets
import TableSchema.Proofs.Generate.RustImports

/-!
# Nested brackets of Rust code

Every piece of a Rust module leaves the closing brackets that are due, although some lines open what
others close.
-/

namespace TableSchema.Generate.Rust

variable {schema : Schema} {table : Table} {struct : Struct} {column key : Column}

theorem due_heading : due (text heading) = pure := by
  simp only [heading, due_text_cons, due_text_nil, fish_pure]
  repeat rw [due_literal (by decide)]
  rfl

/-! ## Names and types -/

theorem due_quoted {name : String} (hname : IsWord name) : due (quoted name) = pure := by
  rw [quoted, due_append, due_append, due_word hname, due_literal (by decide), fish_pure, fish_pure]

theorem due_escape {name : String} (hname : IsWord name) : due (escape name) = pure :=
  due_word (isWord_escape hname)

theorem due_keyCopy {place : String} (hplace : due place = pure) :
    due (keyCopy key place) = pure := by
  unfold keyCopy
  split
  · exact hplace
  · rw [due_append, hplace, due_literal (by decide), fish_pure]

theorem due_fieldType (type : FieldType) : due (fieldType type) = pure := by
  cases type <;> exact due_literal (by decide)

theorem due_structPath (hname : IsWord struct.name) : due (structPath struct) = pure := by
  unfold structPath
  split
  · simp only [due_append, due_escape hname, due_word (isWord_moduleName hname), fish_pure]
    rw [due_literal (by decide), due_literal (by decide), fish_pure]
  · exact due_escape hname

theorem due_valueType (hwords : TableWords schema table)
    (hcolumn : column ∈ table.columns.toList) : due (valueType schema table column) = pure := by
  have hstruct : due (((schema.columnStruct? table column).map structPath).getD "") = pure := by
    cases hfound : schema.columnStruct? table column with
    | none => exact due_empty
    | some struct => exact due_structPath (hwords.columnStructs column hcolumn struct hfound)
  unfold valueType
  split
  · exact due_literal (by decide)
  · exact due_literal (by decide)
  · exact hstruct

theorem due_columnType (hwords : TableWords schema table)
    (hcolumn : column ∈ table.columns.toList) : due (columnType schema table column) = pure := by
  have htype := due_valueType hwords hcolumn
  unfold columnType
  dsimp only
  split
  · rw [due_append, due_append, htype, due_literal (by decide), due_literal (by decide), fish_pure,
      fish_pure]
  · exact htype

/-! ## Structs -/

theorem due_structDefinition (hwords : NamesWords struct) :
    due (text (structDefinition struct)) = pure := by
  have hfields : ∀ field ∈ struct.fields.toList,
      due ("pub " ++ escape field.name ++ ": " ++ fieldType field.type ++ ",") = pure := by
    intro field hmem
    simp only [due_append, due_escape (hwords.fields field hmem), due_fieldType, fish_pure]
    repeat rw [due_literal (by decide)]
    rfl
  have hlines := due_text_of_forall (List.forall_mem_map.2 hfields)
  unfold structDefinition
  dsimp only
  split
  · simp only [due_text_append, due_text_singleton, due_append, due_escape hwords.name, fish_pure]
    repeat rw [due_literal (by decide)]
    rfl
  · simp only [due_text_append, due_text_singleton, due_text_block, due_append, hlines,
      due_escape hwords.name, dueAfter_braces, fish_pipe, fish_pure]
    repeat rw [due_literal (by decide)]
    rfl

theorem due_structParse (hwords : NamesWords struct) :
    due (text (structParse struct)) = pure := by
  have hread (type : FieldType) : due (readField type) = pure := by
    cases type <;> exact due_literal (by decide)
  have hfields : ∀ field ∈ struct.fields.toList,
      due (escape field.name ++ ": " ++ readField field.type ++ ",") = pure := by
    intro field hmem
    simp only [due_append, due_escape (hwords.fields field hmem), hread, fish_pure, fish_pipe]
    repeat rw [due_literal (by decide)]
    rfl
  have hlines := due_text_of_forall (List.forall_mem_map.2 hfields)
  unfold structParse
  split
  · simp only [due_text_block, due_text_singleton]
    repeat rw [due_literal (by decide)]
    exact dueAfter_braces
  · simp only [due_text_block, due_text_blockWith, due_text_append, due_text_singleton, hlines,
      fish_pipe]
    repeat rw [due_literal (by decide)]
    simp only [fish_pure, fish_pipe, dueAfter_braces]

theorem due_structItems (hwords : NamesWords struct) :
    due (text (structItems struct)) = pure := by
  simp only [structItems, due_text_append, due_text_singleton, due_text_block, due_append,
    due_structDefinition hwords, due_structParse hwords, due_escape hwords.name, due_empty,
    dueAfter_braces, fish_pipe, fish_pure]
  exact due_literal (by decide)

theorem due_structModule (hwords : NamesWords struct) :
    due (text (structModule struct)) = pure := by
  have himports : due (text (structImports struct)) = pure := by
    unfold structImports
    split <;> exact due_text_singleton.trans (due_literal (by decide))
  simp only [structModule, due_text_append, due_text_singleton, due_heading, himports, due_empty,
    due_structItems hwords, fish_pure]

/-! ## Tables -/

theorem due_accessors (table : Table) (key : Column) : due (text (accessors table key)) = pure := by
  have hparam : due (if key.type = .int then "i32" else "&str") = pure := by
    split <;> exact due_literal (by decide)
  have hargument : due (if key.type = .int then "&key" else "key") = pure := by
    split <;> exact due_literal (by decide)
  unfold accessors
  cases table.keyType
  all_goals
    simp only [due_text_append, due_text_block, due_text_singleton, due_append, due_empty, hparam,
      hargument, fish_pure, fish_assoc]
    repeat rw [due_ofList]
    simp only [← dueAfter_append]
    exact Bracketed.dueAfter_eq (by decide)

section Table

variable (hwords : TableWords schema table)
include hwords

theorem due_rowTypes (hkey : key ∈ table.columns.toList) :
    due (text (rowTypes schema table key)) = pure := by
  unfold rowTypes
  cases table.keyType
  all_goals
    simp only [due_text_cons, due_text_nil, due_append, due_columnType hwords hkey, fish_pure]
    repeat rw [due_literal (by decide)]
    simp only [fish_pure]

theorem due_rowDefinition : due (text (rowDefinition schema table)) = pure := by
  have hfields : ∀ column ∈ table.columns.toList,
      due ("pub " ++ escape column.name ++ ": " ++ columnType schema table column ++ ",") =
        pure := by
    intro column hmem
    simp only [due_append, due_escape (hwords.columns column hmem), due_columnType hwords hmem,
      fish_pure]
    repeat rw [due_literal (by decide)]
    rfl
  have hlines := due_text_of_forall (List.forall_mem_map.2 hfields)
  simp only [rowDefinition, due_text_append, due_text_singleton, due_text_block, hlines, fish_pipe]
  repeat rw [due_literal (by decide)]
  simp only [dueAfter_braces, fish_pure]

theorem due_tableDefinition : due (text (tableDefinition table)) = pure := by
  have hmember : due (rowsMember table) = pure := by
    unfold rowsMember
    cases table.keyType <;> exact due_literal (by decide)
  simp only [tableDefinition, due_text_append, due_text_singleton, due_text_block, due_append,
    hmember, due_escape hwords.name, fish_pipe, fish_pure, dueAfter_braces]
  repeat rw [due_literal (by decide)]
  rfl

theorem due_emptyKeyError : due (emptyKeyError table) = pure := by
  unfold emptyKeyError
  simp only [due_append, due_quoted hwords.keyName, fish_pure]
  repeat rw [due_ofList]
  simp only [← dueAfter_append]
  exact Bracketed.dueAfter_eq (by decide)

theorem due_orInvalid (hcolumn : column ∈ table.columns.toList) :
    due (orInvalid column) = pure := by
  unfold orInvalid
  simp only [due_append, due_quoted (hwords.columns column hcolumn), fish_pure]
  repeat rw [due_ofList]
  simp only [← dueAfter_append]
  exact Bracketed.dueAfter_eq (by decide)

theorem due_duplicateKeyCheck {rows : String} (hrows : due rows = pure) :
    due (text (duplicateKeyCheck table rows)) = pure := by
  simp only [duplicateKeyCheck, due_text_block, due_text_blockWith, due_text_cons, due_text_nil,
    due_append, hrows, due_escape hwords.keyName, due_quoted hwords.keyName, fish_pure, fish_assoc]
  repeat rw [due_ofList]
  simp only [← dueAfter_append]
  exact Bracketed.dueAfter_eq (by decide)

theorem due_nameChecks : due (text (nameChecks table)) = pure := by
  refine due_text_of_forall (List.forall_mem_map.2 fun entry hmem => ?_)
  have hcolumn : entry.1 ∈ table.columns.toList := List.fst_mem_of_mem_zipIdx hmem
  simp only [due_append, due_quoted (hwords.columns _ hcolumn), Nat.toString_eq_repr, due_repr,
    fish_pure]
  repeat rw [due_ofList]
  simp only [← dueAfter_append]
  exact Bracketed.dueAfter_eq (by decide)

omit hwords in
theorem due_keyIsEmpty (table : Table) : due (keyIsEmpty table) = pure := by
  simp only [keyIsEmpty, due_append, Nat.toString_eq_repr, due_repr, fish_pure]
  repeat rw [due_ofList]
  simp only [← dueAfter_append]
  exact Bracketed.dueAfter_eq (by decide)

theorem due_cellValue (hcolumn : column ∈ table.columns.toList) (index : Nat) :
    due (cellValue schema table column index) = pure := by
  have htype := due_valueType hwords hcolumn
  have hinvalid := due_orInvalid hwords hcolumn
  unfold cellValue
  dsimp only
  split
  all_goals
    simp only [due_append, Nat.toString_eq_repr, due_repr, htype, hinvalid, fish_pipe, fish_pure,
      fish_assoc]
    repeat rw [due_ofList]
    simp only [← dueAfter_append]
    exact Bracketed.dueAfter_eq (by decide)

theorem due_buildRow {binding : String} (hbinding : due binding = pure) :
    due (text (buildRow schema table binding)) = pure := by
  have hfields : ∀ entry ∈ table.columns.toList.zipIdx,
      due (escape entry.1.name ++ ": " ++ cellValue schema table entry.1 entry.2 ++ ",") =
        pure := by
    intro entry hmem
    have hcolumn : entry.1 ∈ table.columns.toList := List.fst_mem_of_mem_zipIdx hmem
    simp only [due_append, due_escape (hwords.columns _ hcolumn), due_cellValue hwords hcolumn,
      fish_pipe, fish_pure]
    repeat rw [due_literal (by decide)]
    rfl
  have hlines := due_text_of_forall (List.forall_mem_map.2 hfields)
  simp only [buildRow, due_text_blockWith, due_append, hbinding, hlines, fish_pure, fish_pipe,
    fish_assoc]
  repeat rw [due_literal (by decide)]
  simp only [fish_pure, dueAfter_braces]

theorem due_rowKey : due ("row." ++ escape table.keyName) = pure := by
  rw [due_append, due_escape hwords.keyName, due_literal (by decide), fish_pure]

theorem due_readSingleRows : due (text (readSingleRows schema table key)) = pure := by
  have hrow : due (text (buildRow schema table "row")) = pure :=
    due_buildRow hwords (due_literal (by decide))
  have hcheck : due (text (duplicateKeyCheck table "rows")) = pure :=
    due_duplicateKeyCheck hwords (due_literal (by decide))
  have hkey : due (keyCopy key ("row." ++ escape table.keyName)) = pure :=
    due_keyCopy (due_rowKey hwords)
  simp only [readSingleRows, dataLoop, due_text_append, due_text_block, due_text_singleton]
  simp only [due_append, hrow, hcheck, hkey, due_keyIsEmpty, due_emptyKeyError hwords, due_empty,
    fish_pure, fish_assoc]
  repeat rw [due_ofList]
  simp only [← dueAfter_append]
  exact Bracketed.dueAfter_eq (by decide)

theorem due_readRowSets : due (text (readRowSets schema table key)) = pure := by
  have hrow : due (text (buildRow schema table "mut row")) = pure :=
    due_buildRow hwords (due_literal (by decide))
  have hcheck : due (text (duplicateKeyCheck table "row_sets")) = pure :=
    due_duplicateKeyCheck hwords (due_literal (by decide))
  have htype : due (if key.type = .int then "i32" else "String") = pure := by
    split <;> exact due_literal (by decide)
  have hrowKey := due_rowKey hwords
  have hkey : due (keyCopy key ("row." ++ escape table.keyName)) = pure := due_keyCopy hrowKey
  have hcontinued : due (keyCopy key "key") = pure := due_keyCopy (due_literal (by decide))
  unfold readRowSets
  simp only [dataLoop, due_text_append, due_text_block, due_text_cons, due_text_nil,
    due_text_indent]
  simp only [due_append, hrow, hcheck, htype, hrowKey, hkey, hcontinued, due_keyIsEmpty,
    due_emptyKeyError hwords, due_empty, fish_pipe, fish_pure, fish_assoc]
  repeat rw [due_ofList]
  simp only [← dueAfter_append]
  exact Bracketed.dueAfter_eq (by decide)

theorem due_parseFunction : due (text (parseFunction schema table key)) = pure := by
  unfold parseFunction
  cases table.keyType
  all_goals
    simp only [due_text_append, due_text_block, due_text_cons, due_text_nil]
    simp only [due_append, Nat.toString_eq_repr, due_repr, due_nameChecks hwords,
      due_readSingleRows hwords, due_readRowSets hwords, due_empty, fish_pipe, fish_pure,
      fish_assoc]
    repeat rw [due_ofList]
    simp only [← dueAfter_append]
    exact Bracketed.dueAfter_eq (by decide)

theorem due_tableFunctions : due (text (tableFunctions schema table key)) = pure := by
  simp only [tableFunctions, due_text_block, due_text_spaced, List.flatten_cons, List.flatten_nil,
    due_text_append, due_text_singleton, due_text_nil, due_append, due_escape hwords.name,
    due_parseFunction hwords, due_accessors, fish_pure, fish_assoc]
  repeat rw [due_ofList]
  simp only [← dueAfter_append]
  exact Bracketed.dueAfter_eq (by decide)

theorem due_tableModule (hkey : key ∈ table.columns.toList) :
    due (text (tableModule schema table key)) = pure := by
  have hstructs : due (text (table.localStructs.toList.flatMap structItems)) = pure :=
    due_text_flatMap fun struct hmem => due_structItems (hwords.localStructs struct hmem)
  have himports : due (joined ", " (runtimeImports table)) = pure :=
    due_joined rfl fun name hmem => (isWord_of_mem_runtimeImports name hmem).1
  unfold tableModule
  simp only [due_text_spaced, List.flatten_append, ← List.flatMap_def, List.flatten_cons,
    List.flatten_nil, due_text_append, due_text_cons, due_text_nil]
  simp only [due_append, due_heading, himports, hstructs, due_rowDefinition hwords,
    due_rowTypes hwords hkey, due_tableDefinition hwords, due_tableFunctions hwords, due_empty,
    fish_pipe, fish_pure]
  repeat rw [due_ofList]
  simp only [← dueAfter_append]
  exact Bracketed.dueAfter_eq (by decide)

end Table

theorem due_moduleList {reader : Reader} {name : String}
    (hparts : ∀ part ∈ reader.namespaceParts, IsWord part) (hname : IsWord name)
    (hmodules : ∀ module ∈ moduleNames schema, IsWord module) :
    due (text (moduleList schema (some reader) name)) = pure := by
  have hcomment : due (text (readerComment (some reader) name)) = pure := by
    have hnamespace : due (joined "::" reader.namespaceParts) = pure :=
      due_joined rfl hparts
    unfold readerComment
    dsimp only [Option.map_some, Option.getD_some]
    split
    · rfl
    · simp only [due_text_cons, due_text_nil, due_append, due_word hname, hnamespace, due_empty,
        fish_pure, fish_assoc]
      repeat rw [due_ofList]
      simp only [← dueAfter_append]
      exact Bracketed.dueAfter_eq (by decide)
  have hlines : ∀ module ∈ moduleNames schema, due ("pub mod " ++ module ++ ";") = pure := by
    intro module hmem
    rw [due_append, due_append, due_word (hmodules module hmem), due_literal (by decide),
      due_literal (by decide), fish_pure, fish_pure]
  rw [moduleList, due_text_append, due_text_append, due_heading, hcomment,
    due_text_of_forall (List.forall_mem_map.2 hlines), fish_pure, fish_pure]

end TableSchema.Generate.Rust
