import TableSchema.Generate.RustEmission
import TableSchema.Proofs.Generate.Bare

/-!
# Rust code of bare schemas

Code is the same for the bare entries of a schema as for the entries themselves.
-/

namespace TableSchema.Generate.Rust

variable {schema : Schema} {table : Table} {struct : Struct} {column key : Column}

/-! ## Structs -/

@[simp] theorem structItems_bare : structItems struct.bare = structItems struct := by
  simp only [structItems, structDefinition, structParse, Struct.toList_bare_fields,
    List.isEmpty_map, List.map_map]
  rfl

theorem structArtifact_bare : structArtifact struct.bare = structArtifact struct := by
  simp only [structArtifact, structModule, structImports, structItems_bare,
    Struct.toList_bare_fields, List.isEmpty_map]
  rfl

/-! ## Types -/

@[simp] theorem valueType_bare :
    valueType schema.bare table.bare column.bare = valueType schema table column := by
  unfold valueType
  rw [Schema.bare_columnStruct?, Option.map_map]
  rfl

@[simp] theorem columnType_bare :
    columnType schema.bare table.bare column.bare = columnType schema table column := by
  rw [columnType, valueType_bare, Column.bare_isList, columnType]

/-! ## Tables -/

theorem runtimeImports_bare : runtimeImports table.bare = runtimeImports table := by
  simp only [runtimeImports, Table.toList_bare_columns, Table.toList_bare_localStructs,
    List.isEmpty_map, List.any_map, Function.comp_def, Struct.toList_bare_fields]
  rfl

theorem rowDefinition_bare :
    rowDefinition schema.bare table.bare = rowDefinition schema table := by
  simp only [rowDefinition, Table.toList_bare_columns, List.map_map, Function.comp_def,
    columnType_bare]
  rfl

theorem cellValue_bare (index : Nat) :
    cellValue schema.bare table.bare column.bare index = cellValue schema table column index := by
  unfold cellValue
  rw [valueType_bare]
  rfl

theorem buildRow_bare (binding : String) :
    buildRow schema.bare table.bare binding = buildRow schema table binding := by
  simp only [buildRow, Table.toList_bare_columns, List.zipIdx_map, List.map_map,
    Function.comp_def, Prod.map, id_eq, cellValue_bare]
  rfl

theorem nameChecks_bare : nameChecks table.bare = nameChecks table := by
  simp only [nameChecks, Table.toList_bare_columns, List.zipIdx_map, List.map_map]
  rfl

theorem parseFunction_bare :
    parseFunction schema.bare table.bare key.bare = parseFunction schema table key := by
  simp only [parseFunction, nameChecks_bare, readSingleRows, readRowSets, buildRow_bare,
    Table.toList_bare_columns, List.length_map]
  rfl

theorem rowTypes_bare :
    rowTypes schema.bare table.bare key.bare = rowTypes schema table key := by
  rw [rowTypes, columnType_bare, Table.bare_keyType, rowTypes]

theorem tableFunctions_bare :
    tableFunctions schema.bare table.bare key.bare = tableFunctions schema table key := by
  have haccessors : accessors table.bare key.bare = accessors table key := rfl
  rw [tableFunctions, parseFunction_bare, haccessors, Table.bare_name, tableFunctions]

theorem tableModule_bare :
    tableModule schema.bare table.bare key.bare = tableModule schema table key := by
  have hdefinition : tableDefinition table.bare = tableDefinition table := rfl
  simp only [tableModule, tableFunctions_bare, runtimeImports_bare, rowDefinition_bare,
    rowTypes_bare, hdefinition, Table.toList_bare_localStructs, List.map_map, Function.comp_def,
    structItems_bare]

theorem tableArtifact_bare : tableArtifact schema.bare table.bare = tableArtifact schema table := by
  unfold tableArtifact
  rw [Table.bare_keyColumn?, Option.map_map]
  simp only [Function.comp_def, tableModule_bare, Table.bare_name]

theorem moduleNames_bare : moduleNames schema.bare = moduleNames schema := by
  simp only [moduleNames, Schema.toList_bare_globalStructs, Schema.toList_bare_tables, List.map_map,
    Function.comp_def, Struct.bare_name, Table.bare_name]

end TableSchema.Generate.Rust
