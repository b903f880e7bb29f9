import TableSchema.Proofs.Generate.DueBrackets
import TableSchema.Proofs.Generate.PrintableCpp

/-!
# Nested brackets of C++ code

Every piece of a header or source leaves the closing brackets that are due, save the one that starts
a call and leaves it to its arguments to end it.
-/

namespace TableSchema.Generate.Cpp

open Rust (NamesWords)

variable {schema : Schema} {table : Table} {struct : Struct} {column key : Column}

theorem due_heading : due (text heading) = pure := by
  simp only [heading, due_text_cons, due_text_nil, fish_pure]
  repeat rw [due_literal (by decide)]
  rfl

/-! ## Functions and calls -/

theorem due_text_function (head body : Lines) : due (text (function head body)) =
    due (text head) >=> dueAfter ['{'] >=> due (text body) >=> dueAfter ['}'] := by
  have hopens : due "\x7b" = dueAfter ['{'] := due_ofList ['{']
  have hcloses : due "\x7d" = dueAfter ['}'] := due_ofList ['}']
  simp only [function, due_text_append, due_text_singleton, due_text_indent, hopens, hcloses,
    fish_assoc]

theorem due_text_commaEnded (lines : Lines) : due (text (commaEnded lines)) = due (text lines) := by
  fun_induction commaEnded lines with
  | case1 => rfl
  | case2 => rfl
  | case3 line rest _ ih =>
      rw [due_text_cons, due_text_cons, due_append, due_literal (by decide), ih, fish_pure]

/-- A failure opens the bracket of a call, which its last argument has to close. -/
theorem due_text_failWith (arguments : Lines) :
    due (text (failWith arguments)) = dueAfter ['('] >=> due (text arguments) := by
  have hopens : due "*error_info = tablekit::util::error(" = dueAfter ['('] := by
    rw [due_ofList]
    rfl
  simp only [failWith, due_text_append, due_text_singleton, due_text_indent, hopens]
  rw [due_literal (by decide), fish_pure]

theorem due_constructor {name : String} {members : List String} (hname : due name = pure)
    (hmembers : ∀ member ∈ members, IsWord member) :
    due (text (constructor name members)) = pure := by
  have hinits : ∀ member ∈ members, due (member ++ "(0)") = pure := fun member hmem => by
    rw [due_append, due_word (hmembers member hmem), due_literal (by decide), fish_pure]
  have hlines := due_text_of_forall (List.forall_mem_map.2 hinits)
  unfold constructor
  dsimp only
  rw [due_text_function, due_text_nil, fish_pipe]
  split
  · rw [due_text_singleton, hname, fish_pipe, dueAfter_braces]
  · rw [due_text_append, due_text_singleton, due_text_indent, due_text_commaEnded, hlines,
      due_append, hname, due_literal (by decide), fish_pure, fish_pure, fish_pipe, dueAfter_braces]

/-! ## Types -/

theorem due_fieldType (type : FieldType) : due (fieldType type) = pure := by
  cases type <;> exact due_literal (by decide)

theorem due_columnType (hwords : TableWords schema table)
    (hcolumn : column ∈ table.columns.toList) : due (columnType schema table column) = pure := by
  have hstruct : due (((schema.columnStruct? table column).map (·.name)).getD "") = pure := by
    cases hfound : schema.columnStruct? table column with
    | none => exact due_empty
    | some struct => exact due_word (hwords.columnStructs column hcolumn struct hfound)
  have htype : due (valueType schema table column) = pure := by
    unfold valueType
    split
    · exact due_literal (by decide)
    · exact due_literal (by decide)
    · exact hstruct
  unfold columnType
  dsimp only
  split
  · rw [due_append, due_append, htype, due_literal (by decide), due_literal (by decide), fish_pure,
      fish_pure]
  · exact htype

theorem due_keyParameter (hwords : TableWords schema table)
    (hkey : key ∈ table.columns.toList) : due (keyParameter schema table key) = pure := by
  have htype := due_columnType hwords hkey
  unfold keyParameter
  dsimp only
  split
  · rw [due_append, due_append, htype, due_literal (by decide), due_literal (by decide), fish_pure,
      fish_pure]
  · rw [due_append, htype, due_literal (by decide), fish_pure]

/-! ## Classes of structs -/

theorem due_public : due (text ["", "public:"]) = pure := by
  rw [due_text_cons, due_text_singleton, due_empty, due_literal (by decide), fish_pure]

theorem due_structClass (hwords : NamesWords struct) : due (text (structClass struct)) = pure := by
  have hfields : ∀ field ∈ struct.fields.toList,
      due (fieldType field.type ++ " " ++ field.name ++ ";") = pure := by
    intro field hmem
    simp only [due_append, due_fieldType, due_word (hwords.fields field hmem), fish_pure]
    repeat rw [due_literal (by decide)]
    rfl
  have hlines := due_text_of_forall (List.forall_mem_map.2 hfields)
  unfold structClass
  simp only [due_text_append, due_text_linesIf due_public, due_text_indent, due_text_cons,
    due_text_nil]
  simp only [due_append, due_word hwords.name, due_empty, hlines, fish_pipe, fish_pure, fish_assoc]
  repeat rw [due_ofList]
  simp only [← dueAfter_append]
  exact Bracketed.dueAfter_eq (by decide)

theorem due_structParse (hwords : NamesWords struct) : due (text (structParse struct)) = pure := by
  have hread (type : FieldType) : due (readField type) = pure := by
    cases type <;> exact due_literal (by decide)
  have hfields : due (text (struct.fields.toList.flatMap fun field =>
      block ("if (s." ++ readField field.type ++ "(&this->" ++ field.name ++ ") == false)")
        ["return false;"])) = pure := by
    refine due_text_flatMap fun field hmem => ?_
    simp only [due_text_block, due_text_singleton, due_append, hread,
      due_word (hwords.fields field hmem), fish_pure, fish_assoc]
    repeat rw [due_ofList]
    simp only [← dueAfter_append]
    exact Bracketed.dueAfter_eq (by decide)
  unfold structParse
  dsimp only
  split
  · exact due_text_singleton.trans (due_literal (by decide))
  · simp only [due_text_append, due_text_block, due_text_cons, due_text_nil, hfields, due_empty,
      fish_pipe, fish_pure, fish_assoc]
    repeat rw [due_ofList]
    simp only [← dueAfter_append]
    exact Bracketed.dueAfter_eq (by decide)

theorem due_structFunctions (hwords : NamesWords struct)
    (howner : ∀ table, struct.owner = some table → IsWord table) :
    due (text (structFunctions struct)) = pure := by
  have hclass : due (className struct) = pure := by
    unfold className
    split
    next table hsome =>
      rw [due_append, due_append, due_word (howner table hsome), due_word hwords.name,
        due_literal (by decide), fish_pure, fish_pure]
    next => exact due_word hwords.name
  have hints : ∀ member ∈ (struct.fields.toList.filter (·.type = .int)).map (·.name),
      IsWord member := by
    rw [List.forall_mem_map]
    exact fun field hmem => hwords.fields field (List.mem_of_mem_filter hmem)
  have hname : due (className struct ++ "::" ++ struct.name ++ "()") = pure := by
    simp only [due_append, hclass, due_word hwords.name, fish_pure]
    repeat rw [due_literal (by decide)]
    rfl
  unfold structFunctions
  simp only [due_text_spaced, List.flatten_cons, List.flatten_nil, due_text_append,
    due_text_function, due_text_singleton, due_text_nil, due_constructor hname hints,
    due_structParse hwords]
  simp only [due_append, hclass, due_word hwords.name, fish_pipe, fish_pure, fish_assoc]
  repeat rw [due_ofList]
  simp only [← dueAfter_append]
  exact Bracketed.dueAfter_eq (by decide)

/-! ## Headers and sources -/

theorem due_includeOwn {name : String} (hname : IsWord name) : due (includeOwn name) = pure := by
  unfold includeOwn fileStem
  rw [due_append, due_append, due_word (isWord_snakeCase hname), due_literal (by decide),
    due_literal (by decide), fish_pure, fish_pure]

/-- Paths of headers that are written out in the generator. -/
theorem due_includeSystem {cs : List Char} (hcs : Bracketed (cs.filter isBracket)) :
    due (includeSystem (String.ofList cs)) = pure := by
  unfold includeSystem
  rw [due_append, due_append, due_literal hcs, due_literal (by decide), due_literal (by decide),
    fish_pure, fish_pure]

/-- What a namespace encloses leaves what is due just as what it encloses does. -/
theorem due_text_inNamespace {parts : List String} (hparts : ∀ part ∈ parts, IsWord part)
    {body : Lines} (hbody : due (text body) = pure) :
    due (text (inNamespace parts body)) = pure := by
  have hname : due (joined "::" parts) = pure := due_joined rfl hparts
  unfold inNamespace
  split
  · exact hbody
  · simp only [due_text_append, due_text_cons, due_text_nil, due_append, hname, hbody, due_empty,
      fish_pure]
    repeat rw [due_ofList]
    simp only [← dueAfter_append]
    exact Bracketed.dueAfter_eq (by decide)

theorem due_header {parts : List String} (hparts : ∀ part ∈ parts, IsWord part) {name : String}
    (hname : IsWord name) {includes declarations : Lines} (hincludes : due (text includes) = pure)
    (hdeclarations : due (text declarations) = pure) :
    due (text (header parts name includes declarations)) = pure := by
  have hguard := due_word (isWord_guardName hparts hname)
  have hnamespace := due_text_inNamespace hparts hdeclarations
  unfold header
  simp only [due_text_append, due_text_cons, due_text_nil, due_append, due_heading, hguard,
    hincludes, hnamespace, due_empty, fish_pure]
  repeat rw [due_literal (by decide)]
  simp only [fish_pure]

theorem due_structHeader {parts : List String} (hparts : ∀ part ∈ parts, IsWord part)
    (hwords : NamesWords struct) : due (text (structHeader parts struct)) = pure := by
  refine due_header hparts hwords.name ?_ (due_structClass hwords)
  have hcstdint : due (includeSystem "cstdint") = pure := due_includeSystem (by decide)
  have hstring : due (includeSystem "string") = pure := due_includeSystem (by decide)
  unfold structIncludes
  rw [due_text_append, due_text_linesIf (due_text_singleton.trans hcstdint), due_text_singleton,
    hstring, fish_pure]

theorem due_structSource {parts : List String} (hparts : ∀ part ∈ parts, IsWord part)
    (hwords : NamesWords struct) (howner : ∀ table, struct.owner = some table → IsWord table) :
    due (text (structSource parts struct)) = pure := by
  have hsplitter : due (includeSystem "tablekit/column_splitter.h") = pure :=
    due_includeSystem (by decide)
  simp only [structSource, due_text_append, due_text_cons, due_text_nil, due_heading,
    due_includeOwn hwords.name, hsplitter, due_empty, fish_pure,
    due_text_inNamespace hparts (due_structFunctions hwords howner)]

/-! ## Headers of tables -/

section Table

variable (hwords : TableWords schema table)
include hwords

theorem due_tableIncludes : due (text (tableIncludes schema table)) = pure := by
  have hown : due (text ((usedStructs schema table).map includeOwn)) = pure :=
    due_text_of_forall <| List.forall_mem_map.2 fun name hmem =>
      due_includeOwn (isWord_of_mem_usedStructs hwords name hmem)
  have hcstdint : due (includeSystem "cstdint") = pure := due_includeSystem (by decide)
  have hvector : due (includeSystem "vector") = pure := due_includeSystem (by decide)
  have hmap : due (includeSystem "map") = pure := due_includeSystem (by decide)
  have hstring : due (includeSystem "string") = pure := due_includeSystem (by decide)
  unfold tableIncludes
  simp only [due_text_append, due_text_linesIf (due_text_singleton.trans hcstdint),
    due_text_linesIf (due_text_singleton.trans hvector),
    due_text_linesIf (due_text_singleton.trans due_empty), due_text_cons, due_text_nil, hmap,
    hstring, hown, fish_pure]

theorem due_rowClass : due (text (rowClass schema table)) = pure := by
  have hmembers : ∀ column ∈ table.columns.toList,
      due (columnType schema table column ++ " " ++ column.name ++ ";") = pure := by
    intro column hmem
    simp only [due_append, due_columnType hwords hmem, due_word (hwords.columns column hmem),
      fish_pure]
    repeat rw [due_literal (by decide)]
    rfl
  have hlines := due_text_of_forall (List.forall_mem_map.2 hmembers)
  unfold rowClass
  simp only [due_text_append, due_text_linesIf due_public, due_text_indent, due_text_cons,
    due_text_nil, hlines, fish_pure]
  repeat rw [due_ofList]
  simp only [← dueAfter_append]
  exact Bracketed.dueAfter_eq (by decide)

theorem due_tableClass (hkey : key ∈ table.columns.toList) :
    due (text (tableClass schema table key)) = pure := by
  have hstructs : due (text (table.localStructs.toList.flatMap structClass)) = pure :=
    due_text_flatMap fun struct hmem => due_structClass (hwords.localStructs struct hmem)
  have htypes : due (text (rowTypes schema table key)) = pure := by
    unfold rowTypes
    cases table.keyType
    all_goals
      simp only [due_text_cons, due_text_nil, due_append, due_columnType hwords hkey, fish_pure]
      repeat rw [due_literal (by decide)]
      simp only [fish_pure]
  have haccessors : due (text (accessorDeclarations schema table key)) = pure := by
    unfold accessorDeclarations
    cases table.keyType
    all_goals
      simp only [due_text_cons, due_text_nil, due_append, due_keyParameter hwords hkey, fish_pipe,
        fish_pure, fish_assoc]
      repeat rw [due_ofList]
      simp only [← dueAfter_append]
      exact Bracketed.dueAfter_eq (by decide)
  have hmember : due (rowsMember table) = pure := by
    unfold rowsMember
    cases table.keyType <;> exact due_literal (by decide)
  unfold tableClass tableDeclarations
  simp only [due_text_spaced, List.flatten_append, ← List.flatMap_def, List.flatten_cons,
    List.flatten_nil, due_text_append, due_text_indent, due_text_cons, due_text_nil]
  simp only [due_append, due_word hwords.name, hstructs, htypes, haccessors, hmember,
    due_rowClass hwords, due_empty, fish_pipe, fish_pure, fish_assoc]
  repeat rw [due_ofList]
  simp only [← dueAfter_append]
  exact Bracketed.dueAfter_eq (by decide)

theorem due_tableHeader {parts : List String} (hparts : ∀ part ∈ parts, IsWord part)
    (hkey : key ∈ table.columns.toList) :
    due (text (tableHeader parts schema table key)) = pure :=
  due_header hparts hwords.name (due_tableIncludes hwords) (due_tableClass hwords hkey)

end Table

/-! ## Sources of tables -/

theorem due_readHeadLine {which : String} (hwhich : due which = pure) :
    due (text (readHeadLine which)) = pure := by
  unfold readHeadLine
  simp only [due_text_append, due_text_block, due_text_failWith, due_text_cons, due_text_nil]
  simp only [due_append, hwhich, fish_pure, fish_assoc]
  repeat rw [due_ofList]
  simp only [← dueAfter_append]
  exact Bracketed.dueAfter_eq (by decide)

theorem due_keyIsEmpty (table : Table) : due (keyIsEmpty table) = pure := by
  unfold keyIsEmpty
  simp only [due_append, Nat.toString_eq_repr, due_repr, fish_pure]
  repeat rw [due_ofList]
  simp only [← dueAfter_append]
  exact Bracketed.dueAfter_eq (by decide)

section Columns

variable (hname : IsWord column.name)
include hname

theorem due_nameCheck : due (text (nameCheck column)) = pure := by
  unfold nameCheck
  simp only [due_text_block, due_text_failWith, due_text_singleton, due_append, due_word hname,
    fish_pure, fish_assoc]
  repeat rw [due_ofList]
  simp only [← dueAfter_append]
  exact Bracketed.dueAfter_eq (by decide)

theorem due_failEmptyKey : due (text (failEmptyKey column)) = pure := by
  unfold failEmptyKey
  simp only [due_text_failWith, due_text_singleton, due_append, due_word hname, fish_pure]
  repeat rw [due_ofList]
  simp only [← dueAfter_append]
  exact Bracketed.dueAfter_eq (by decide)

theorem due_failDuplicateKey : due (text (failDuplicateKey column)) = pure := by
  unfold failDuplicateKey
  split
  next format value hkind =>
    have hkind : due format = pure ∧ due value = pure := by
      have hrow : due ("row." ++ column.name) = pure := by
        rw [due_append, due_word hname, due_literal (by decide), fish_pure]
      split at hkind <;> cases hkind
      · exact ⟨due_literal (by decide), hrow⟩
      · refine ⟨due_literal (by decide), ?_⟩
        rw [due_append, hrow, due_literal (by decide), fish_pure]
    simp only [due_text_failWith, due_text_singleton, due_append, due_word hname, hkind, fish_pure]
    repeat rw [due_ofList]
    simp only [← dueAfter_append]
    exact Bracketed.dueAfter_eq (by decide)

theorem due_readCell : due (text (readCell column)) = pure := by
  unfold readCell
  dsimp only
  split
  all_goals
    simp only [due_text_block, due_text_failWith, due_text_singleton, due_append, due_word hname,
      fish_pure, fish_assoc]
    repeat rw [due_ofList]
    simp only [← dueAfter_append]
    exact Bracketed.dueAfter_eq (by decide)

end Columns

section Table

variable (hcolumns : ∀ column ∈ table.columns.toList, IsWord column.name)
include hcolumns

theorem due_readNameLine : due (text (readNameLine table)) = pure := by
  have hchecks : due (text (table.columns.toList.flatMap nameCheck)) = pure :=
    due_text_flatMap fun column hmem => due_nameCheck (hcolumns column hmem)
  have hhead : due (text (readHeadLine "name")) = pure := due_readHeadLine (due_literal (by decide))
  unfold readNameLine
  simp only [due_text_append, due_text_indent, due_text_cons, due_text_nil, hhead, hchecks,
    due_empty, fish_pipe, fish_pure]
  repeat rw [due_ofList]
  simp only [← dueAfter_append]
  exact Bracketed.dueAfter_eq (by decide)

theorem due_readRow : due (text (readRow table)) = pure := by
  have hcells : due (text (table.columns.toList.flatMap readCell)) = pure :=
    due_text_flatMap fun column hmem => due_readCell (hcolumns column hmem)
  unfold readRow
  simp only [due_text_append, due_text_cons, due_text_nil, hcells, due_empty, fish_pure]
  repeat rw [due_literal (by decide)]
  rfl

theorem due_readSingleRows (hkey : key ∈ table.columns.toList) :
    due (text (readSingleRows table key)) = pure := by
  have hname := hcolumns key hkey
  unfold readSingleRows
  simp only [dataLoop, due_text_append, due_text_block, due_text_failWith, due_text_cons,
    due_text_nil]
  simp only [due_append, due_word hname, due_keyIsEmpty, due_readRow hcolumns,
    due_failEmptyKey hname, due_failDuplicateKey hname, due_empty, fish_pipe, fish_pure, fish_assoc]
  repeat rw [due_ofList]
  simp only [← dueAfter_append]
  exact Bracketed.dueAfter_eq (by decide)

theorem due_readRowSets (hkey : key ∈ table.columns.toList) :
    due (text (readRowSets table key)) = pure := by
  have hname := hcolumns key hkey
  have hlast : due
      (if key.type = .int then "int32_t last_key = 0;" else "std::string last_key;") = pure := by
    split <;> exact due_literal (by decide)
  unfold readRowSets
  simp only [dataLoop, due_text_append, due_text_block, due_text_blockElse, due_text_failWith,
    due_text_cons, due_text_nil]
  simp only [due_append, due_word hname, hlast, due_keyIsEmpty, due_readRow hcolumns,
    due_failEmptyKey hname, due_failDuplicateKey hname, due_empty, fish_pipe, fish_pure, fish_assoc]
  repeat rw [due_ofList]
  simp only [← dueAfter_append]
  exact Bracketed.dueAfter_eq (by decide)

theorem due_parseFunction (hname : IsWord table.name) (hkey : key ∈ table.columns.toList) :
    due (text (parseFunction table key)) = pure := by
  have hcomment : due (text (readHeadLine "comment")) = pure :=
    due_readHeadLine (due_literal (by decide))
  unfold parseFunction
  cases table.keyType
  all_goals
    simp only [due_text_function, due_text_spaced, List.flatten_cons, List.flatten_nil,
      due_text_append, due_text_cons, due_text_nil]
    simp only [due_append, due_word hname, Nat.toString_eq_repr, due_repr, hcomment,
      due_readNameLine hcolumns, due_readSingleRows hcolumns hkey, due_readRowSets hcolumns hkey,
      fish_pipe, fish_pure, fish_assoc]
    repeat rw [due_ofList]
    simp only [← dueAfter_append]
    exact Bracketed.dueAfter_eq (by decide)

end Table

section Table

variable (hwords : TableWords schema table) (hkey : key ∈ table.columns.toList)
include hwords hkey

theorem due_accessor : due (text (accessor schema table key)) = pure := by
  unfold accessor
  cases table.keyType
  all_goals
    simp only [due_text_function, due_text_block, due_text_append, due_text_cons, due_text_nil,
      due_append, due_word hwords.name, due_keyParameter hwords hkey, due_empty, fish_pipe,
      fish_pure, fish_assoc]
    repeat rw [due_ofList]
    simp only [← dueAfter_append]
    exact Bracketed.dueAfter_eq (by decide)

theorem due_tableFunctions :
    due (text (tableFunctions schema table key).flatten) = pure := by
  have hints : ∀ member ∈ (table.columns.toList.filter (·.type = .int)).map (·.name),
      IsWord member := by
    rw [List.forall_mem_map]
    exact fun column hmem => hwords.columns column (List.mem_of_mem_filter hmem)
  have hconstructor : due (table.name ++ "::Row::Row()") = pure := by
    rw [due_append, due_word hwords.name, due_literal (by decide), fish_pure]
  unfold tableFunctions
  simp only [List.flatten_cons, List.flatten_nil, due_text_append, due_text_function,
    due_text_singleton, due_text_nil, due_constructor hconstructor hints,
    due_parseFunction hwords.columns hwords.name hkey, due_accessor hwords hkey, due_append,
    due_word hwords.name, fish_pipe, fish_pure, fish_assoc]
  repeat rw [due_ofList]
  simp only [← dueAfter_append]
  exact Bracketed.dueAfter_eq (by decide)

theorem due_tableSource {parts : List String} (hparts : ∀ part ∈ parts, IsWord part) :
    due (text (tableSource parts schema table key)) = pure := by
  have hincludes : due (text (sourceIncludes table)) = pure := by
    have hcstddef : due (includeSystem "cstddef") = pure := due_includeSystem (by decide)
    have hsplitter : due (includeSystem "tablekit/column_splitter.h") = pure :=
      due_includeSystem (by decide)
    have hreader : due (includeSystem "tablekit/line_reader.h") = pure :=
      due_includeSystem (by decide)
    have hutil : due (includeSystem "tablekit/util.h") = pure := due_includeSystem (by decide)
    unfold sourceIncludes
    simp only [due_text_append, due_text_linesIf (due_text_singleton.trans hsplitter),
      due_text_cons, due_text_nil, due_includeOwn hwords.name, hcstddef, hreader, hutil, due_empty,
      fish_pure]
  have hstructs : due (text (table.localStructs.toList.flatMap structFunctions)) = pure :=
    due_text_flatMap fun struct hmem =>
      due_structFunctions (hwords.localStructs struct hmem) (hwords.owners struct hmem)
  have hfunctions : due (text (spaced (table.localStructs.toList.map structFunctions ++
      tableFunctions schema table key))) = pure := by
    rw [due_text_spaced, List.flatten_append, ← List.flatMap_def, due_text_append, hstructs,
      due_tableFunctions hwords hkey, fish_pure]
  simp only [tableSource, due_text_append, due_text_singleton, due_heading, hincludes, due_empty,
    due_text_inNamespace hparts hfunctions, fish_pure]

end Table

end TableSchema.Generate.Cpp
