import TableSchema.Proofs.Schema.Views

/-!
# Bare schemas

A schema without the lines, file names and readers of its entries: all that code is generated from,
but for the namespace of the reader for whom it is generated.
-/

namespace TableSchema

def Field.bare (field : Field) : Field :=
  { field with line := 0 }

def Struct.bare (struct : Struct) : Struct :=
  { struct with line := 0, fields := .ofList (struct.fields.toList.map Field.bare) }

def Column.bare (column : Column) : Column :=
  { column with line := 0, readers := ∅ }

def Table.bare (table : Table) : Table :=
  { table with
    line := 0
    fileName := ""
    readers := ∅
    localStructs := .ofList (table.localStructs.toList.map Struct.bare)
    columns := .ofList (table.columns.toList.map Column.bare) }

def Schema.bare (schema : Schema) : Schema where
  filePath := ""
  readers := ∅
  globalStructs := .ofList (schema.globalStructs.toList.map Struct.bare)
  tables := .ofList (schema.tables.toList.map Table.bare)

section Bare

variable {schema : Schema} {table : Table} {struct : Struct} {column : Column} {field : Field}

@[simp] theorem Field.bare_name : field.bare.name = field.name := rfl

@[simp] theorem Field.bare_type : field.bare.type = field.type := rfl

@[simp] theorem Struct.bare_name : struct.bare.name = struct.name := rfl

@[simp] theorem Struct.toList_bare_fields :
    struct.bare.fields.toList = struct.fields.toList.map Field.bare := by
  simp [bare]

@[simp] theorem Struct.bare_rebuild : struct.rebuild.bare = struct.bare := by
  simp [bare, rebuild]

@[simp] theorem Column.bare_name : column.bare.name = column.name := rfl

@[simp] theorem Column.bare_type : column.bare.type = column.type := rfl

@[simp] theorem Column.bare_isList : column.bare.isList = column.isList := rfl

@[simp] theorem Table.bare_name : table.bare.name = table.name := rfl

@[simp] theorem Table.bare_keyType : table.bare.keyType = table.keyType := rfl

@[simp] theorem Table.bare_keyName : table.bare.keyName = table.keyName := rfl

@[simp] theorem Table.bare_keyColumnIndex :
    table.bare.keyColumnIndex = table.keyColumnIndex := rfl

@[simp] theorem Table.toList_bare_localStructs :
    table.bare.localStructs.toList = table.localStructs.toList.map Struct.bare := by
  simp [bare]

@[simp] theorem Table.toList_bare_columns :
    table.bare.columns.toList = table.columns.toList.map Column.bare := by
  simp [bare]

@[simp] theorem Table.bare_keyColumn? :
    table.bare.keyColumn? = table.keyColumn?.map Column.bare := by
  simp [keyColumn?]

@[simp] theorem Schema.toList_bare_globalStructs :
    schema.bare.globalStructs.toList = schema.globalStructs.toList.map Struct.bare := by
  simp [bare]

@[simp] theorem Schema.toList_bare_tables :
    schema.bare.tables.toList = schema.tables.toList.map Table.bare := by
  simp [bare]

/-- References lead to the same structs. -/
@[simp] theorem Schema.bare_columnStruct? :
    schema.bare.columnStruct? table.bare column.bare =
      (schema.columnStruct? table column).map Struct.bare := by
  unfold columnStruct?
  cases href : column.structRef with
  | none => simp [Column.bare, href]
  | some ref => cases ref <;> simp [Column.bare, href, struct?]

end Bare

end TableSchema
