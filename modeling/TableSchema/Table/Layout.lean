import TableSchema.Schema.Basic

/-!
# Layouts

What a table looks like to those who read its rows: the columns with the shapes of their values and
the place of the key.
-/

namespace TableSchema

/-- The shape of a single value. A record has named fields. -/
inductive DatumShape where
  | atom (type : FieldType)
  | record (fields : List (String × FieldType))
deriving DecidableEq, Repr

/-- A column: single values of a shape, or lists of them. -/
structure ColumnLayout where
  name : String
  shape : DatumShape
  isList : Bool
deriving DecidableEq, Repr

/-- The columns of a table and its key. -/
structure Layout where
  columns : List ColumnLayout
  keyIndex : Nat
  keyName : String
  keyAtom : FieldType
  keyType : KeyType
deriving DecidableEq, Repr

def Struct.shape (struct : Struct) : DatumShape :=
  .record (struct.fields.toList.map fun field => (field.name, field.type))

/-- The type of atoms that a column type stands for. -/
def ColumnType.atom? : ColumnType → Option FieldType
  | .int => some .int
  | .string => some .string
  | .struct | .list => none

/-- The shape of the single values of a column, if its struct exists. -/
def Schema.datumShape? (schema : Schema) (table : Table) (column : Column) :
    Option DatumShape :=
  match column.valueType.atom? with
  | some type => some (.atom type)
  | none => (schema.columnStruct? table column).map Struct.shape

def Schema.columnLayout? (schema : Schema) (table : Table) (column : Column) :
    Option ColumnLayout :=
  (schema.datumShape? table column).map fun shape => ⟨column.name, shape, column.isList⟩

/-- The layout of a table, if all its structs exist and its key is in place. -/
def Schema.layout? (schema : Schema) (table : Table) : Option Layout := do
  let columns ← table.columns.toList.mapM (schema.columnLayout? table)
  let key ← table.keyColumn?
  let keyAtom ← key.type.atom?
  return ⟨columns, table.keyColumnIndex, table.keyName, keyAtom, table.keyType⟩

end TableSchema
