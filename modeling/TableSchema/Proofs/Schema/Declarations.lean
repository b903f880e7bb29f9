import TableSchema.Proofs.Schema.Catalogs
import TableSchema.Proofs.Text.Parts
import TableSchema.Schema.Analysis

/-!
# Entries read from elements

Which entries of a schema are read from which elements of a define document, and which conditions
both must meet. The conditions speak of names and places alone, not of look-ups or of the order in
which a document is gone through.
-/

namespace TableSchema

open Markup (Element)

/-! ## Attributes -/

/-- Parts with a separator between them, or nothing if there are none. -/
def joined? (separator : Char) (parts : List String) : Option String :=
  if parts.isEmpty then none else some ((String.singleton separator).intercalate parts)

/-- The parts of an attribute, none if there is no such attribute. -/
def partsOf (separator : Char) : Option String → List String
  | none => []
  | some text => splitText separator text

theorem eq_joined?_iff {separator : Char} {value : Option String} {parts : List String} :
    (value = joined? separator parts ∧ ∀ part ∈ parts, separator ∉ part.toList) ↔
      partsOf separator value = parts := by
  cases value with
  | none =>
      cases parts <;> simp [joined?, partsOf]
  | some text =>
      rw [partsOf, splitText_eq_iff, joined?]
      cases parts with
      | nil => simp
      | cons first rest =>
          rw [List.isEmpty_cons, if_neg Bool.false_ne_true, Option.some_inj]
          constructor
          · rintro ⟨htext, hfree⟩
            exact ⟨List.cons_ne_nil first rest, hfree, htext.symm⟩
          · rintro ⟨-, hfree, htext⟩
            exact ⟨htext.symm, hfree⟩

theorem Identifier.not_mem {name : String} {c : Char} (hname : Identifier name)
    (hc : isIdentifierPart c = false) : c ∉ name.toList := by
  intro hmem
  unfold Identifier isIdentifier at hname
  cases hchars : name.toList with
  | nil => simp [hchars] at hmem
  | cons first rest =>
      rw [hchars] at hname hmem
      simp only [Bool.and_eq_true, List.all_eq_true] at hname
      have hstart : isIdentifierStart c = false := by
        simp only [isIdentifierPart, Char.isAlphanum, Bool.or_eq_false_iff] at hc
        simp [isIdentifierStart, hc]
      rcases List.mem_cons.1 hmem with rfl | hrest
      · rw [hstart] at hname
        exact absurd hname.1 Bool.false_ne_true
      · rw [hname.2 c hrest] at hc
        exact absurd hc.symm Bool.false_ne_true

/-! ## Entries -/

/-- Entries that are read from elements one by one. -/
structure Catalog.ReadFrom {α : Type} [Named α] (entryReadFrom : Element → α → Prop)
    (elements : List Element) (catalog : Catalog α) : Prop extends catalog.Keyed where
  entries : List.Forall₂ entryReadFrom elements catalog.toList

theorem Catalog.ReadFrom.imp {α : Type} [Named α] {entryReadFrom other : Element → α → Prop}
    {elements : List Element} {catalog : Catalog α}
    (hread : catalog.ReadFrom entryReadFrom elements)
    (himp : ∀ element entry, entryReadFrom element entry → other element entry) :
    catalog.ReadFrom other elements :=
  ⟨hread.toKeyed, hread.entries.imp himp⟩

structure Reader.ReadFrom (element : Element) (reader : Reader) : Prop where
  name : element.attribute? "name" = some reader.name
  identifier : Identifier reader.name
  line : reader.line = element.line
  namespaceParts : element.attribute? "namespace" = joined? '.' reader.namespaceParts
  namespaceIdentifiers : ∀ part ∈ reader.namespaceParts, Identifier part

def FieldType.name : FieldType → String
  | .int => "int"
  | .string => "string"

structure Field.ReadFrom (element : Element) (field : Field) : Prop where
  kind : element.name = "field"
  name : element.attribute? "name" = some field.name
  identifier : Identifier field.name
  line : field.line = element.line
  type : element.attribute? "type" = some field.type.name

structure Struct.ReadFrom (owner : Option String) (element : Element) (struct : Struct) :
    Prop where
  name : element.attribute? "name" = some struct.name
  identifier : Identifier struct.name
  line : struct.line = element.line
  owner : struct.owner = owner
  fields : struct.fields.ReadFrom Field.ReadFrom element.children

/-- A struct of a table, which must not bear a reserved name. -/
structure Struct.LocalReadFrom (table : String) (element : Element) (struct : Struct) : Prop
    extends struct.ReadFrom (some table) element where
  unreserved : struct.name ∉ reservedStructNames

/-- The readers named by an element, each of them declared. -/
def ReaderSet.ReadFrom (schema : Schema) (element : Element) (readers : ReaderSet) : Prop :=
  ∃ names, element.attribute? "readby" = joined? '|' names ∧ readers = .ofList names ∧
    ∀ name ∈ names, '|' ∉ name.toList ∧ name ∈ schema.readers.names

/-- Whether a name stands for the struct to which a reference leads: the struct of the table that
bears the name, or the struct of the schema if the table has none. -/
def Schema.Selects (schema : Schema) (table : Table) (name : String) : StructRef → Prop
  | .ofTable i => table.localStructs.names[i]? = some name
  | .ofSchema i => name ∉ table.localStructs.names ∧ schema.globalStructs.names[i]? = some name

/-- What a name stands for as the type of a single value. -/
inductive Schema.ValueTypeNamed (schema : Schema) (table : Table) (name : String) :
    ColumnType → Option StructRef → Prop where
  | int (hname : name = "int") : ValueTypeNamed schema table name .int none
  | string (hname : name = "string") : ValueTypeNamed schema table name .string none
  | struct {ref : StructRef} (hint : name ≠ "int") (hstring : name ≠ "string")
      (hselects : schema.Selects table name ref) :
      ValueTypeNamed schema table name .struct (some ref)

theorem Schema.Selects.congr {schema schema' : Schema} {table table' : Table} {name : String}
    {ref : StructRef} (hselects : schema.Selects table name ref)
    (hglobals : schema'.globalStructs.names = schema.globalStructs.names)
    (hlocals : table'.localStructs.names = table.localStructs.names) :
    schema'.Selects table' name ref := by
  cases ref <;> simpa only [Selects, hglobals, hlocals] using hselects

/-- What a name stands for depends on the names of the structs only. -/
theorem Schema.ValueTypeNamed.congr {schema schema' : Schema} {table table' : Table} {name : String}
    {type : ColumnType} {structRef : Option StructRef}
    (hnamed : schema.ValueTypeNamed table name type structRef)
    (hglobals : schema'.globalStructs.names = schema.globalStructs.names)
    (hlocals : table'.localStructs.names = table.localStructs.names) :
    schema'.ValueTypeNamed table' name type structRef := by
  cases hnamed with
  | int hname => exact .int hname
  | string hname => exact .string hname
  | struct hint hstring hselects => exact .struct hint hstring (hselects.congr hglobals hlocals)

/-- A column whose type is written as that of a single value or as that of a list. -/
structure Column.ReadFrom (schema : Schema) (table : Table) (element : Element) (column : Column) :
    Prop where
  name : element.attribute? "name" = some column.name
  identifier : Identifier column.name
  line : column.line = element.line
  type : ∃ typeName, element.attribute? "type" = some typeName ∧
    ((Analysis.elementTypeName? typeName = none ∧ column.listType = none ∧
        schema.ValueTypeNamed table typeName column.type column.structRef) ∨
      ∃ inner valueType, Analysis.elementTypeName? typeName = some inner ∧ column.type = .list ∧
        column.listType = some valueType ∧
        schema.ValueTypeNamed table inner valueType column.structRef)
  readers : column.readers.ReadFrom schema element

/-- A column is read from the names of the readers and structs alone, whatever else the schema and
the table hold. -/
theorem Column.ReadFrom.congr {schema schema' : Schema} {table table' : Table} {element : Element}
    {column : Column} (hread : column.ReadFrom schema table element)
    (hreaders : schema'.readers.names = schema.readers.names)
    (hglobals : schema'.globalStructs.names = schema.globalStructs.names)
    (hlocals : table'.localStructs.names = table.localStructs.names) :
    column.ReadFrom schema' table' element := by
  obtain ⟨hname, hidentifier, hline, ⟨typeName, htype, hvalue⟩, hopen⟩ := hread
  refine ⟨hname, hidentifier, hline, ⟨typeName, htype, ?_⟩, ?_⟩
  · rcases hvalue with ⟨hlist, hlistType, hnamed⟩ | hvalue
    · exact .inl ⟨hlist, hlistType, hnamed.congr hglobals hlocals⟩
    · obtain ⟨inner, valueType, hlist, hcolumn, hlistType, hnamed⟩ := hvalue
      exact .inr ⟨inner, valueType, hlist, hcolumn, hlistType, hnamed.congr hglobals hlocals⟩
  · rw [ReaderSet.ReadFrom, hreaders]
    exact hopen

/-- The one of two attributes that gives the key says of which kind it is. -/
def Table.KeyReadFrom (element : Element) (table : Table) : Prop :=
  (element.attribute? "key", element.attribute? "setkey") =
    match table.keyType with
    | .single => (some table.keyName, none)
    | .set => (none, some table.keyName)

structure Table.ReadFrom (schema : Schema) (element : Element) (table : Table) : Prop where
  name : element.attribute? "name" = some table.name
  identifier : Identifier table.name
  line : table.line = element.line
  apart : table.name ∉ schema.globalStructs.names
  kinds : ∀ child ∈ element.children, child.name = "struct" ∨ child.name = "col"
  localStructs :
    table.localStructs.ReadFrom (Struct.LocalReadFrom table.name) (element.childrenNamed "struct")
  columns : table.columns.ReadFrom (Column.ReadFrom schema table) (element.childrenNamed "col")
  key : table.KeyReadFrom element
  keyColumn : ∃ column, table.keyColumn? = some column ∧ column.name = table.keyName ∧
    column.type.canBeKey
  fileName : element.attribute? "file" = some table.fileName
  readers : table.readers.ReadFrom schema element

/-- A table is read from the names of the readers and structs alone, whatever other tables there
are. -/
theorem Table.ReadFrom.congr {schema schema' : Schema} {element : Element} {table : Table}
    (hread : table.ReadFrom schema element)
    (hreaders : schema'.readers.names = schema.readers.names)
    (hglobals : schema'.globalStructs.names = schema.globalStructs.names) :
    table.ReadFrom schema' element where
  __ := hread
  apart := hglobals ▸ hread.apart
  columns := hread.columns.imp fun _ _ hcolumn => hcolumn.congr hreaders hglobals rfl
  readers := by
    rw [ReaderSet.ReadFrom, hreaders]
    exact hread.readers

structure Schema.ReadFrom (root : Element) (schema : Schema) : Prop where
  kind : root.name = "define"
  readers : schema.readers.ReadFrom Reader.ReadFrom (root.childrenNamed "reader")
  globalStructs :
    schema.globalStructs.ReadFrom (Struct.ReadFrom none) (root.childrenNamed "struct")
  tables : schema.tables.ReadFrom (Table.ReadFrom schema) (root.childrenNamed "table")

end TableSchema
