import TableSchema.Generate.CppEmission
import TableSchema.Proofs.Generate.Bare

/-!
# C++ code of bare schemas

Code is the same for the bare entries of a schema as for the entries themselves.
-/

namespace TableSchema.Generate.Cpp

variable {schema : Schema} {table : Table} {struct : Struct} {column key : Column}

/-! ## Structs -/

@[simp] theorem structClass_bare : structClass struct.bare = structClass struct := by
  simp only [structClass, Struct.toList_bare_fields, List.map_map]
  rfl

@[simp] theorem structFunctions_bare : structFunctions struct.bare = structFunctions struct := by
  simp only [structFunctions, structParse, Struct.toList_bare_fields, List.isEmpty_map,
    List.filter_map, List.map_map, List.flatMap_map]
  rfl

theorem structArtifacts_bare (parts : List String) :
    structArtifacts parts struct.bare = structArtifacts parts struct := by
  simp only [structArtifacts, structHeader, structSource, structIncludes, structClass_bare,
    structFunctions_bare, Struct.toList_bare_fields, List.any_map]
  rfl

/-! ## Types -/

@[simp] theorem columnType_bare :
    columnType schema.bare table.bare column.bare = columnType schema table column := by
  unfold columnType valueType
  rw [Schema.bare_columnStruct?, Option.map_map]
  rfl

@[simp] theorem keyParameter_bare :
    keyParameter schema.bare table.bare key.bare = keyParameter schema table key := by
  simp only [keyParameter, columnType_bare]
  rfl

/-! ## Tables -/

@[simp] theorem usedStructs_bare :
    usedStructs schema.bare table.bare = usedStructs schema table := by
  unfold usedStructs
  rw [Table.toList_bare_columns, List.foldl_map]
  congr 1
  funext names column
  rw [Schema.bare_columnStruct?]
  cases schema.columnStruct? table column <;> rfl

theorem tableIncludes_bare : tableIncludes schema.bare table.bare = tableIncludes schema table := by
  simp only [tableIncludes, usedStructs_bare, Table.toList_bare_columns,
    Table.toList_bare_localStructs, List.any_map, Function.comp_def, Struct.toList_bare_fields]
  rfl

theorem tableClass_bare :
    tableClass schema.bare table.bare key.bare = tableClass schema table key := by
  simp only [tableClass, rowClass, rowTypes, tableDeclarations, accessorDeclarations,
    columnType_bare, keyParameter_bare, Table.toList_bare_columns, Table.toList_bare_localStructs,
    List.map_map, Function.comp_def, structClass_bare]
  rfl

@[simp] theorem tableHeader_bare (parts : List String) :
    tableHeader parts schema.bare table.bare key.bare = tableHeader parts schema table key := by
  rw [tableHeader, tableIncludes_bare, tableClass_bare, Table.bare_name, tableHeader]

theorem readNameLine_bare : readNameLine table.bare = readNameLine table := by
  simp only [readNameLine, Table.toList_bare_columns, List.flatMap_map]
  rfl

theorem readRow_bare : readRow table.bare = readRow table := by
  simp only [readRow, Table.toList_bare_columns, List.flatMap_map]
  rfl

theorem parseFunction_bare : parseFunction table.bare key.bare = parseFunction table key := by
  simp only [parseFunction, readNameLine_bare, readSingleRows, readRowSets, readRow_bare,
    Table.toList_bare_columns, List.length_map]
  rfl

@[simp] theorem tableSource_bare (parts : List String) :
    tableSource parts schema.bare table.bare key.bare = tableSource parts schema table key := by
  simp only [tableSource, sourceIncludes, tableFunctions, parseFunction_bare, accessor,
    keyParameter_bare, Table.toList_bare_columns, Table.toList_bare_localStructs,
    List.isEmpty_map, List.any_map, List.map_map, List.filter_map, Function.comp_def,
    structFunctions_bare]
  rfl

theorem tableArtifacts_bare (parts : List String) :
    tableArtifacts parts schema.bare table.bare = tableArtifacts parts schema table := by
  unfold tableArtifacts
  rw [Table.bare_keyColumn?]
  cases table.keyColumn? with
  | none => rfl
  | some key => simp

end TableSchema.Generate.Cpp
