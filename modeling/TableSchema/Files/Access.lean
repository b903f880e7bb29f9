import TableSchema.Files.Tree

/-!
# Access to files

What the library needs of a file system, so that the same operations run on a file tree and on the
files of a machine.
-/

namespace TableSchema

/-- Computations that can read and write files. -/
class Files (m : Type → Type) where
  /-- The content of the file to which a path leads. -/
  read : String → m (Except FileError ByteArray)
  /-- Writes a file, over the one that may be there. -/
  write : String → String → m (Except FileError Unit)
  /-- Whether a path leads to a directory. -/
  isDirectory : String → m Bool
  /-- A text that is the same for all paths to one place. -/
  resolve : String → m (Except FileError String)

def readText {m : Type → Type} [Monad m] [Files m] (path : String) :
    m (Except FileError String) := do
  match ← Files.read path with
  | .error e => return .error e
  | .ok content =>
      match String.fromUTF8? content with
      | none => return .error .notText
      | some text => return .ok text

instance : Files (StateM FileTree) where
  read path := return (← get).read path
  write path content := do
    match (← get).write path content.toUTF8 with
    | .error e => return .error e
    | .ok tree =>
        set tree
        return .ok ()
  isDirectory path := return (← get).isDirectory path
  resolve path := return ((← get).locate path).map ("/".intercalate ·)

end TableSchema
