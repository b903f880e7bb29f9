import TableSchema.Generate.Artifact
import TableSchema.Generate.CppHeader
import TableSchema.Generate.CppSource

/-!
# C++ code of a schema

A header and a source for every struct of the schema and for every table.
-/

namespace TableSchema.Generate.Cpp

def headerFile (name : String) (lines : Lines) : Artifact where
  fileName := fileStem name ++ ".h"
  text := text lines

def sourceFile (name : String) (lines : Lines) : Artifact where
  fileName := fileStem name ++ ".cc"
  text := text lines

def structArtifacts (parts : List String) (struct : Struct) : List Artifact :=
  [headerFile struct.name (structHeader parts struct),
    sourceFile struct.name (structSource parts struct)]

def tableArtifacts (parts : List String) (schema : Schema) (table : Table) : Emission :=
  match table.keyColumn? with
  | none => [none]
  | some key =>
      [some (headerFile table.name (tableHeader parts schema table key)),
        some (sourceFile table.name (tableSource parts schema table key))]

/-- The namespace of a reader, without parts if the reader is not declared. -/
def namespaceOf (reader : Option Reader) : List String :=
  (reader.map (·.namespaceParts)).getD []

def emission (schema : Schema) (reader : String) : Emission :=
  match schema.readers.lookup reader with
  | .stale => [none]
  | found =>
      let parts := namespaceOf found.toOption
      schema.globalStructs.toList.flatMap (fun struct => (structArtifacts parts struct).map some) ++
        schema.tables.toList.flatMap (tableArtifacts parts schema)

end TableSchema.Generate.Cpp
