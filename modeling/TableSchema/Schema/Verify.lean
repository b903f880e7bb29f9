import TableSchema.Error
import TableSchema.Schema.Basic
import TableSchema.Text.Identifier

/-!
# Verification of schemas

`Schema.verify` goes through a schema from front to back and gives the first fault it finds. It
looks at the lists only, never at the name indices.
-/

namespace TableSchema

/-- What a verification gives: nothing, or the first fault. -/
abbrev Verification := Except SchemaFault Unit

namespace Verification

def require (condition : Bool) (fault : SchemaFault) : Verification :=
  if condition then .ok () else .error fault

def properName (kind : NameKind) (name : String) : Verification :=
  require (isIdentifier name) (.invalidName kind name)

def newName (kind : NameKind) (seen : List String) (name : String) : Verification :=
  require (!seen.contains name) (.definedTwice kind name)

/-- Verifies entries in turn, each with the names of those before it added to `seen`. -/
def inTurn {α : Type} [Named α] (check : List String → α → Verification) (seen : List String) :
    List α → Verification
  | [] => .ok ()
  | entry :: rest => do
      check seen entry
      inTurn check (Named.name entry :: seen) rest

def reader (seen : List String) (reader : Reader) : Verification := do
  properName .reader reader.name
  newName .reader seen reader.name
  reader.namespaceParts.forM (properName .namespacePart)

def field (seen : List String) (field : Field) : Verification := do
  properName .field field.name
  newName .field seen field.name

def struct (struct : Struct) : Verification := do
  properName .struct struct.name
  inTurn field [] struct.fields.toList

def globalStruct (seen : List String) (global : Struct) : Verification := do
  require global.isGlobal (.ownedGlobal global.name)
  newName .struct seen global.name
  struct global

def localStruct (table : Table) (seen : List String) (inner : Struct) : Verification := do
  require (inner.owner = some table.name) (.notOwned inner.name table.name)
  require (!reservedStructNames.contains inner.name) (.reserved inner.name)
  newName .struct seen inner.name
  struct inner

def readers (schema : Schema) (readers : ReaderSet) : Verification :=
  readers.toList.forM fun name =>
    require (schema.readers.toList.any (·.name = name)) (.undefinedReader name)

/-- Whether a column has an element type just if it is a list, and none that is a list itself. -/
def hasFittingListType (column : Column) : Bool :=
  match column.type, column.listType with
  | .list, some listType => listType ≠ .list
  | .list, none => false
  | _, listType => listType.isNone

/-- Whether a column refers to a struct just if its values are structs, and the struct exists. -/
def hasFittingStruct (schema : Schema) (table : Table) (column : Column) : Bool :=
  match column.structRef with
  | some ref => column.valueType = .struct && (schema.struct? table ref).isSome
  | none => column.valueType ≠ .struct

def column (schema : Schema) (table : Table) (seen : List String) (column : Column) :
    Verification := do
  properName .column column.name
  newName .column seen column.name
  readers schema column.readers
  require (hasFittingListType column) (.invalidListType column.name)
  require (hasFittingStruct schema table column) (.unresolvedType column.name)

def key (table : Table) : Verification :=
  match table.keyColumn?.filter table.isKey with
  | none => .error (.misplacedKey table.keyName table.name table.keyColumnIndex)
  | some column => require column.type.canBeKey (.invalidKeyType table.keyName table.name)

def table (schema : Schema) (seen : List String) (table : Table) : Verification := do
  newName .table seen table.name
  properName .table table.name
  readers schema table.readers
  inTurn (localStruct table) [] table.localStructs.toList
  inTurn (column schema table) [] table.columns.toList
  key table

def schema (schema : Schema) : Verification := do
  inTurn reader [] schema.readers.toList
  inTurn globalStruct [] schema.globalStructs.toList
  inTurn (table schema) (schema.globalStructs.toList.map (·.name)) schema.tables.toList

end Verification

/-- The schema itself if no fault is found in it. -/
def Schema.verify (schema : Schema) : Except CompileError Schema :=
  match Verification.schema schema with
  | .ok () => .ok schema
  | .error fault => .error (.unsound fault)

end TableSchema
