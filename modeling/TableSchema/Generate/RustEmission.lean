import TableSchema.Generate.Artifact
import TableSchema.Generate.RustTable

/-!
# Rust code of a schema

One module for every struct of the schema, one for every table, and last the module that lists
them all.
-/

namespace TableSchema.Generate.Rust

def moduleFile (name : String) (lines : Lines) : Artifact where
  fileName := moduleName name ++ ".rs"
  text := text lines

def structArtifact (struct : Struct) : Artifact :=
  moduleFile struct.name (structModule struct)

def tableArtifact (schema : Schema) (table : Table) : Option Artifact :=
  table.keyColumn?.map fun key => moduleFile table.name (tableModule schema table key)

/-- The names of all modules, in the order of their files. -/
def moduleNames (schema : Schema) : List String :=
  (schema.globalStructs.toList.map fun struct => moduleName struct.name) ++
    schema.tables.toList.map fun table => moduleName table.name

/-- What the list of modules says about a reader and its namespace. -/
def readerComment (reader : Option Reader) (name : String) : Lines :=
  let namespaceName := joined "::" ((reader.map (·.namespaceParts)).getD [])
  if namespaceName.isEmpty then []
  else ["// Tables readable by `" ++ name ++ "` (" ++ namespaceName ++ ").", ""]

def moduleList (schema : Schema) (reader : Option Reader) (name : String) : Lines :=
  heading ++ readerComment reader name ++
    (moduleNames schema).map fun module => "pub mod " ++ module ++ ";"

def listArtifact (schema : Schema) (reader : String) : Option Artifact :=
  match schema.readers.lookup reader with
  | .stale => none
  | found => some ⟨"mod.rs", text (moduleList schema found.toOption reader)⟩

def emission (schema : Schema) (reader : String) : Emission :=
  schema.globalStructs.toList.map (some ∘ structArtifact) ++
    schema.tables.toList.map (tableArtifact schema) ++ [listArtifact schema reader]

end TableSchema.Generate.Rust
