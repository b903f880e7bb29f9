import TableSchema.Schema.Basic
import TableSchema.Text.Identifier

/-!
# Well-formed schemas

What a schema must fulfil so that code can be generated from it. The conditions are stated one by
one, without regard to the order in which a verification meets them.
-/

namespace TableSchema

/-- Names that are identifiers, no two of them equal. -/
structure ProperNames (names : List String) : Prop where
  distinct : names.Nodup
  identifiers : ∀ name ∈ names, Identifier name

def Catalog.names {α : Type} [Named α] (catalog : Catalog α) : List String :=
  catalog.toList.map Named.name

def ReaderSet.Declared (readers : ReaderSet) (schema : Schema) : Prop :=
  ∀ name ∈ readers.toList, name ∈ schema.readers.names

/-- A column fits its table: its readers are declared, it has an element type if and only if it is
a list, and a struct reference if and only if its values are structs. -/
structure Column.WellFormed (schema : Schema) (table : Table) (column : Column) : Prop where
  readers : column.readers.Declared schema
  hasListType : column.listType.isSome ↔ column.type = .list
  noNestedList : column.listType ≠ some .list
  hasStruct : column.structRef.isSome ↔ column.valueType = .struct
  resolves : ∀ ref, column.structRef = some ref → (schema.struct? table ref).isSome

/-- A struct of a table belongs to the table and bears no reserved name. -/
structure Struct.LocalTo (table : Table) (struct : Struct) : Prop where
  owned : struct.owner = some table.name
  unreserved : struct.name ∉ reservedStructNames
  fields : ProperNames struct.fields.names

/-- A struct of the schema has no owner. -/
structure Struct.GlobalWellFormed (struct : Struct) : Prop where
  unowned : struct.owner = none
  fields : ProperNames struct.fields.names

/-- A table has proper names, and its key column stands where the key is said to be. -/
structure Table.WellFormed (schema : Schema) (table : Table) : Prop where
  readers : table.readers.Declared schema
  localStructNames : ProperNames table.localStructs.names
  localStructs : ∀ struct ∈ table.localStructs.toList, struct.LocalTo table
  columnNames : ProperNames table.columns.names
  columns : ∀ column ∈ table.columns.toList, column.WellFormed schema table
  key : ∃ column, table.keyColumn? = some column ∧ column.name = table.keyName ∧
    column.type.canBeKey

/-- A schema from which code can be generated. Structs of the schema and tables share their
names. -/
structure Schema.WellFormed (schema : Schema) : Prop where
  readerNames : ProperNames schema.readers.names
  namespaces : ∀ reader ∈ schema.readers.toList, ∀ part ∈ reader.namespaceParts, Identifier part
  globalNames : ProperNames (schema.globalStructs.names ++ schema.tables.names)
  globalStructs : ∀ struct ∈ schema.globalStructs.toList, struct.GlobalWellFormed
  tables : ∀ table ∈ schema.tables.toList, table.WellFormed schema

end TableSchema
