import TableSchema.Schema.Catalog
import TableSchema.Schema.ReaderSet

/-!
# Schemas

A schema declares readers, structs that every table may use, and tables. Every declaration keeps
the line of the define document on which it stands. Nothing here is checked: a schema may repeat
names, refer to structs that do not exist or have its key in the wrong place. Which schemas are
sound is said in `TableSchema.Schema.WellFormed`.
-/

namespace TableSchema

/-- A party for which tables are read. Its namespace goes into the code generated for it. -/
structure Reader where
  name : String
  line : Nat
  namespaceParts : List String
deriving DecidableEq, Repr

/-- The type of a struct field. -/
inductive FieldType where
  | int
  | string
deriving DecidableEq, Repr

/-- A field of a struct. -/
structure Field where
  name : String
  line : Nat
  type : FieldType
deriving DecidableEq, Repr

instance : Named Field := ⟨Field.name⟩

/-- A struct, owned by the table in which it is declared or by none. -/
structure Struct where
  name : String
  line : Nat
  owner : Option String
  fields : Catalog Field
deriving DecidableEq, Repr

instance : Named Struct := ⟨Struct.name⟩

/-- The kind of a column's values. -/
inductive ColumnType where
  | int
  | string
  | struct
  | list
deriving DecidableEq, Repr

/-- Whether a column of the type may hold the key of a table. -/
def ColumnType.canBeKey : ColumnType → Bool
  | .int | .string => true
  | .struct | .list => false

/-- The struct of a column, by its place among those of the schema or those of the table. -/
inductive StructRef where
  | ofSchema (i : Nat)
  | ofTable (i : Nat)
deriving DecidableEq, Repr

/-- A column of a table. -/
structure Column where
  name : String
  line : Nat
  type : ColumnType
  /-- The type of the elements, for a list. -/
  listType : Option ColumnType
  structRef : Option StructRef
  readers : ReaderSet
deriving DecidableEq, Repr

instance : Named Column := ⟨Column.name⟩

/-- Whether a key names one row or a set of rows. -/
inductive KeyType where
  | single
  | set
deriving DecidableEq, Repr

/-- A table. -/
structure Table where
  name : String
  line : Nat
  fileName : String
  keyType : KeyType
  keyName : String
  keyColumnIndex : Nat
  readers : ReaderSet
  localStructs : Catalog Struct
  columns : Catalog Column
deriving DecidableEq, Repr

instance : Named Table := ⟨Table.name⟩

instance : Named Reader := ⟨Reader.name⟩

/-- A whole define document after analysis. -/
structure Schema where
  filePath : String
  readers : Catalog Reader
  globalStructs : Catalog Struct
  tables : Catalog Table
deriving DecidableEq, Repr

/-- Names of generated members, which no struct of a table may bear. -/
def reservedStructNames : List String :=
  ["Row", "Rows", "RowSet", "RowSets"]

namespace Struct

/-- Whether the struct belongs to the schema and not to one table. -/
def isGlobal (struct : Struct) : Bool :=
  struct.owner.isNone

/-- The struct with its name index computed afresh. -/
def rebuild (struct : Struct) : Struct :=
  { struct with fields := struct.fields.rebuild }

end Struct

namespace Column

def isList (column : Column) : Bool :=
  column.type = .list

/-- The type of a single value: of the elements for a list, of the column otherwise. -/
def valueType (column : Column) : ColumnType :=
  column.listType.getD column.type

def readableBy (column : Column) (reader : String) : Bool :=
  column.readers.admits reader

end Column

namespace Table

def named (name : String) (line : Nat) : Table where
  name := name
  line := line
  fileName := ""
  keyType := .single
  keyName := ""
  keyColumnIndex := 0
  readers := ∅
  localStructs := ∅
  columns := ∅

/-- The column at the key's place. -/
def keyColumn? (table : Table) : Option Column :=
  table.columns.toList[table.keyColumnIndex]?

def isKey (table : Table) (column : Column) : Bool :=
  column.name = table.keyName

def readableBy (table : Table) (reader : String) : Bool :=
  table.readers.admits reader

/-- The place of the first column that bears the name of the key. -/
def keyPosition? (table : Table) : Option Nat :=
  table.columns.toList.findIdx? table.isKey

/-- Sets the key's place, unless no column bears its name. -/
def locateKey (table : Table) : Table :=
  match table.keyPosition? with
  | some i => { table with keyColumnIndex := i }
  | none => table

theorem locateKey_eq (table : Table) :
    table.locateKey =
      { table with keyColumnIndex := table.keyPosition?.getD table.keyColumnIndex } := by
  unfold locateKey
  cases table.keyPosition? with
  | none => rfl
  | some i => rfl

def rebuild (table : Table) : Table :=
  { table with
    localStructs := Catalog.ofList (table.localStructs.toList.map Struct.rebuild)
    columns := table.columns.rebuild }

end Table

namespace Schema

def empty (filePath : String) : Schema where
  filePath := filePath
  readers := ∅
  globalStructs := ∅
  tables := ∅

/-- The struct that a reference in a table leads to. -/
def struct? (schema : Schema) (table : Table) : StructRef → Option Struct
  | .ofSchema i => schema.globalStructs.toList[i]?
  | .ofTable i => table.localStructs.toList[i]?

/-- The struct of a column, if it has one and the reference leads somewhere. -/
def columnStruct? (schema : Schema) (table : Table) (column : Column) : Option Struct :=
  column.structRef.bind (schema.struct? table)

def rebuild (schema : Schema) : Schema :=
  { schema with
    readers := schema.readers.rebuild
    globalStructs := Catalog.ofList (schema.globalStructs.toList.map Struct.rebuild)
    tables := Catalog.ofList (schema.tables.toList.map Table.rebuild) }

end Schema

end TableSchema
