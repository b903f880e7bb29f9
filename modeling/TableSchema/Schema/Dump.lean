import TableSchema.Schema.Basic
import TableSchema.Text.Json

/-!
# Dumps

A schema as a JSON value, with all there is to know of it but the name indices.
-/

namespace TableSchema

def Json.ofOption {α : Type} (toJson : α → Json) : Option α → Json
  | none => .null
  | some a => toJson a

def Json.ofTexts (texts : List String) : Json :=
  .list (texts.map .text)

def FieldType.toJson : FieldType → Json
  | .int => .text "Int"
  | .string => .text "String"

def ColumnType.toJson : ColumnType → Json
  | .int => .text "Int"
  | .string => .text "String"
  | .struct => .text "Struct"
  | .list => .text "List"

def KeyType.toJson : KeyType → Json
  | .single => .text "SingleKey"
  | .set => .text "SetKey"

/-- The position of a struct, under the name of the list that holds it. -/
def StructRef.toJson : StructRef → Json
  | .ofSchema i => .object [("Global", .number i)]
  | .ofTable i => .object [("Local", .number i)]

def Reader.toJson (reader : Reader) : Json :=
  .object [("name", .text reader.name), ("line", .number reader.line),
    ("namespace_parts", .ofTexts reader.namespaceParts)]

def Field.toJson (field : Field) : Json :=
  .object [("name", .text field.name), ("line", .number field.line),
    ("type_", field.type.toJson)]

def Struct.toJson (struct : Struct) : Json :=
  .object [("name", .text struct.name), ("line", .number struct.line),
    ("owner", .ofOption .text struct.owner),
    ("fields", .list (struct.fields.toList.map Field.toJson))]

/-- A column with its type, of which the parts that it lacks are null. -/
def Column.toJson (column : Column) : Json :=
  .object [("name", .text column.name), ("line", .number column.line),
    ("type_", column.type.toJson), ("list_type", .ofOption ColumnType.toJson column.listType),
    ("struct_ref", .ofOption StructRef.toJson column.structRef),
    ("readers", .ofTexts column.readers.toList)]

def Table.toJson (table : Table) : Json :=
  .object [("name", .text table.name), ("line", .number table.line),
    ("file_name", .text table.fileName), ("key_type", table.keyType.toJson),
    ("key_name", .text table.keyName), ("key_column_index", .number table.keyColumnIndex),
    ("readers", .ofTexts table.readers.toList),
    ("local_structs", .list (table.localStructs.toList.map Struct.toJson)),
    ("columns", .list (table.columns.toList.map Column.toJson))]

def Schema.toJson (schema : Schema) : Json :=
  .object [("file_path", .text schema.filePath),
    ("readers", .list (schema.readers.toList.map Reader.toJson)),
    ("global_structs", .list (schema.globalStructs.toList.map Struct.toJson)),
    ("tables", .list (schema.tables.toList.map Table.toJson))]

def Schema.dump (schema : Schema) : String :=
  schema.toJson.pretty

end TableSchema
