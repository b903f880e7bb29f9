import TableSchema.Error
import TableSchema.Markup.Cursor
import TableSchema.Markup.Element
import TableSchema.Schema.Basic
import TableSchema.Text.Identifier
import TableSchema.Text.Split

/-!
# Analysis of define documents

`Schema.ofDocument` reads a define document as a schema, with a reader of XML for its elements. The
readers are taken up first, then the structs of the schema, then the tables, wherever they stand in
the document; inside a table the structs come before the columns. So a table may refer to any reader
and struct, and a column to any struct of its table. Elements of other names are passed over below
the root and rejected elsewhere. The first fault ends the analysis.
-/

namespace TableSchema

open Markup (Element)

/-- What finds the root element of an XML document, or the row at which the text proves to be
none. -/
abbrev Markup.DocumentReader := String → Except Markup.Fault Element

/-- A fault and the line of the element that has it. -/
structure LocatedFault where
  line : Nat
  fault : DefinitionFault
deriving DecidableEq, Repr

/-- What an analysis gives: a value, or the first fault. -/
abbrev Analysis := Except LocatedFault

namespace Analysis

/-- Rejects an element. -/
def reject {α : Type} (element : Element) (fault : DefinitionFault) : Analysis α :=
  .error ⟨element.line, fault⟩

def require (condition : Bool) (element : Element) (fault : DefinitionFault) : Analysis Unit :=
  if condition then .ok () else reject element fault

def requiredAttribute (element : Element) (name : String) : Analysis String :=
  match element.attribute? name with
  | some value => .ok value
  | none => reject element (.missingAttribute element.name name)

def declaredName (element : Element) : Analysis String := do
  let name ← requiredAttribute element "name"
  require (isIdentifier name) element (.invalidName element.name)
  return name

/-- The namespace of a reader, given by its parts with dots between them. -/
def readNamespace (element : Element) : Analysis (List String) :=
  match element.attribute? "namespace" with
  | none => .ok []
  | some text => do
      let parts := splitText '.' text
      require (parts.all isIdentifier) element .invalidNamespace
      return parts

/-- The readers to which an element is open, given by their names with bars between them. Every
reader must be declared. -/
def readReaders (schema : Schema) (element : Element) : Analysis ReaderSet :=
  match element.attribute? "readby" with
  | none => .ok ∅
  | some text =>
      (splitText '|' text).foldlM (fun readers name => do
        require (schema.readers.contains name) element (.undefinedReader name)
        return readers.insert name) ∅

def declareReader (schema : Schema) (element : Element) : Analysis Schema := do
  let name ← declaredName element
  require (!schema.readers.contains name) element (.duplicatedName element.name)
  let namespaceParts ← readNamespace element
  return { schema with readers := schema.readers.add ⟨name, element.line, namespaceParts⟩ }

def fieldTypeNamed? : String → Option FieldType
  | "int" => some .int
  | "string" => some .string
  | _ => none

def declareField (struct : Struct) (element : Element) : Analysis Struct := do
  require (element.name = "field") element .expectedField
  let name ← declaredName element
  require (!struct.fields.contains name) element (.duplicatedName element.name)
  let typeName ← requiredAttribute element "type"
  match fieldTypeNamed? typeName with
  | none => reject element (.invalidFieldType typeName)
  | some type => return { struct with fields := struct.fields.add ⟨name, element.line, type⟩ }

/-- The struct of the given name and owner that an element declares. -/
def readFields (element : Element) (name : String) (owner : Option String) : Analysis Struct :=
  element.children.foldlM declareField ⟨name, element.line, owner, ∅⟩

/-- Takes up a struct that every table may use. -/
def declareStruct (schema : Schema) (element : Element) : Analysis Schema := do
  let name ← declaredName element
  require (!(schema.globalStructs.contains name || schema.tables.contains name)) element
    (.duplicatedName element.name)
  let struct ← readFields element name none
  return { schema with globalStructs := schema.globalStructs.add struct }

def declareLocalStruct (table : Table) (element : Element) : Analysis Table := do
  let name ← declaredName element
  require (!table.localStructs.contains name) element (.duplicatedName element.name)
  require (!reservedStructNames.contains name) element .reservedName
  let struct ← readFields element name (some table.name)
  return { table with localStructs := table.localStructs.add struct }

/-- Takes up the structs among the children of a table and passes over its columns. -/
def declareLocalStructs (table : Table) (children : List Element) : Analysis Table :=
  children.foldlM (fun table child =>
    if child.name = "struct" then declareLocalStruct table child
    else do
      require (child.name = "col") child .expectedStructOrColumn
      return table) table

/-- The type of the elements, for the name of a list type. -/
def elementTypeName? (typeName : String) : Option String :=
  match typeName.toList with
  | 'l' :: 'i' :: 's' :: 't' :: '\x7b' :: rest =>
      let inner := rest.dropLast
      if rest.getLast? = some '\x7d' && !inner.isEmpty && !inner.contains '\n' then
        some (String.ofList inner)
      else none
  | _ => none

/-- The type of a single value by its name. A struct of the table goes before one of the schema. -/
def valueTypeNamed? (schema : Schema) (table : Table) :
    String → Option (ColumnType × Option StructRef)
  | "int" => some (.int, none)
  | "string" => some (.string, none)
  | name =>
      match table.localStructs.position? name, schema.globalStructs.position? name with
      | some i, _ => some (.struct, some (.ofTable i))
      | none, some i => some (.struct, some (.ofSchema i))
      | none, none => none

def declareColumn (schema : Schema) (table : Table) (element : Element) : Analysis Table := do
  let name ← declaredName element
  require (!table.columns.contains name) element (.duplicatedName element.name)
  let typeName ← requiredAttribute element "type"
  let elementTypeName := elementTypeName? typeName
  let valueTypeName := elementTypeName.getD typeName
  match valueTypeNamed? schema table valueTypeName with
  | none => reject element (.undefinedType valueTypeName)
  | some (valueType, structRef) =>
      let readers ← readReaders schema element
      let (type, listType) :=
        if elementTypeName.isSome then (.list, some valueType) else (valueType, none)
      let column := { name, line := element.line, type, listType, structRef, readers }
      return { table with columns := table.columns.add column }

/-- The kind and the name of the key of a table. -/
def readKey (element : Element) : Analysis (KeyType × String) :=
  match element.attribute? "key", element.attribute? "setkey" with
  | some name, none => .ok (.single, name)
  | none, some name => .ok (.set, name)
  | some _, some _ => reject element .twoKeys
  | none, none => reject element .noKey

def declareTable (schema : Schema) (element : Element) : Analysis Schema := do
  let name ← declaredName element
  require (!(schema.tables.contains name || schema.globalStructs.contains name)) element
    (.duplicatedName element.name)
  let table ← declareLocalStructs (Table.named name element.line) element.children
  let table ← (element.childrenNamed "col").foldlM (declareColumn schema) table
  let (keyType, keyName) ← readKey element
  match (table.columns.lookup keyName).toOption with
  | none => reject element (.undefinedKey keyName)
  | some keyColumn =>
      require keyColumn.type.canBeKey element .invalidKeyType
      let fileName ← requiredAttribute element "file"
      let readers ← readReaders schema element
      let table := { table with keyType, keyName, fileName, readers }
      return { schema with tables := schema.tables.add table.locateKey }

/-- The schema that an element tree declares. -/
def readSchema (filePath : String) (root : Element) : Analysis Schema := do
  require (root.name = "define") root .wrongRoot
  let schema ← (root.childrenNamed "reader").foldlM declareReader (Schema.empty filePath)
  let schema ← (root.childrenNamed "struct").foldlM declareStruct schema
  (root.childrenNamed "table").foldlM declareTable schema

end Analysis

/-- The schema that an element tree declares. -/
def Schema.ofElement (filePath : String) (root : Element) : Except CompileError Schema :=
  (Analysis.readSchema filePath root).mapError fun e => .definition filePath e.line e.fault

/-- The schema that a define document declares. The path of the document goes into errors. -/
def Schema.ofDocument (readDocument : Markup.DocumentReader) (filePath text : String) :
    Except CompileError Schema :=
  match readDocument text with
  | .error e => .error (.definition filePath e.row .unreadable)
  | .ok root => Schema.ofElement filePath root

end TableSchema
