import TableSchema.Files.Access
import TableSchema.Generate.Emission
import TableSchema.Markup.Document
import TableSchema.Schema.Analysis
import TableSchema.Schema.Verify
import TableSchema.Schema.View
import TableSchema.Table.Cutting

/-!
# Compiling schemas

The operations of the library as a whole: a define document is compiled to a verified schema, code
is generated for one reader from what it may see, and the data files of the tables are cut for one
reader. Files are written in order, and the first that cannot be written ends the operation; those
written before it stay.
-/

namespace TableSchema

open Generate

def compileSchema (readDocument : Markup.DocumentReader) (filePath text : String) :
    Except CompileError Schema := do
  (← Schema.ofDocument readDocument filePath text).verify

variable {m : Type → Type} [Monad m] [Files m]

def loadSchema (path : String) : m (Except CompileError Schema) := do
  match ← readText path with
  | .error e => return .error (.file e)
  | .ok text => return compileSchema Markup.readDocument path text

def writeInto (directory fileName text : String) : m (Except CompileError Unit) := do
  let path := Path.join directory fileName
  match ← Files.write path text with
  | .error e => return .error (.write path e)
  | .ok () => return .ok ()

/-- Writes artifacts into a directory, up to the first that cannot be made or written. -/
def writeArtifacts (directory : String) (ending : LineEnding) : Emission → m (Except Failure Unit)
  | [] => return .ok ()
  | none :: _ => return .error .outOfRange
  | some artifact :: rest => do
      match ← writeInto directory artifact.fileName (ending.convert artifact.text) with
      | .error e => return .error (.error e)
      | .ok () => writeArtifacts directory ending rest

/-- Writes the code of a schema, just as it is, into a directory. -/
def generateInto (directory : String) (language : Language) (ending : LineEnding)
    (schema : Schema) (reader : String) : m (Except Failure Unit) :=
  writeArtifacts directory ending (emission language schema reader)

def verifiedView (schema : Schema) (reader : String) : Except Failure Schema := do
  (← schema.viewFor reader).verify.mapError .error

def generateForReader (directory : String) (language : Language) (ending : LineEnding)
    (schema : Schema) (reader : String) : m (Except Failure Unit) :=
  match verifiedView schema reader with
  | .error failure => return .error failure
  | .ok view => generateInto directory language ending view reader

def cutFile (inputDirectory outputDirectory reader : String) (table : Table) :
    m (Except CompileError Unit) := do
  match ← readText (Path.join inputDirectory table.fileName) with
  | .error e => return .error (.cut table.fileName (.unreadable e))
  | .ok content =>
      match table.cut reader content with
      | .error fault => return .error (.cut table.fileName fault)
      | .ok cut => writeInto outputDirectory table.fileName cut

/-- Cuts the data files of tables, up to the first that cannot be cut or written. -/
def cutFiles (inputDirectory outputDirectory reader : String) :
    List Table → m (Except CompileError Unit)
  | [] => return .ok ()
  | table :: rest => do
      match ← cutFile inputDirectory outputDirectory reader table with
      | .error e => return .error e
      | .ok () => cutFiles inputDirectory outputDirectory reader rest

/-- Cuts the data files of the tables that a declared reader may see. -/
def cutTables (inputDirectory outputDirectory : String) (schema : Schema) (reader : String) :
    m (Except Failure Unit) := do
  match schema.readers.lookup reader with
  | .absent => return .error (.error (.unknownReader reader))
  | .stale => return .error .outOfRange
  | .found _ =>
      let tables := schema.tables.toList.filter fun table => table.readableBy reader
      return (← cutFiles inputDirectory outputDirectory reader tables).mapError .error

end TableSchema
