import TableSchema.Files.Path

/-!
# File trees

The files and directories below a working directory, as a value. A place is the list of names that
leads to a file or directory; the directories above the working directory and the root are there,
too, but nothing is known to be in them. Reading and writing follow the rules of a file system: a
step may only be taken from a directory, and a file is written over unless it is a directory.
-/

namespace TableSchema

/-- The names that lead to a file or directory. -/
abbrev Place := List String

/-- What is found at a place. -/
inductive Entry where
  | file (content : ByteArray)
  | directory

/-- The files and directories below a working directory. -/
structure FileTree where
  entries : List (Place × Entry)

namespace FileTree

def empty : FileTree :=
  ⟨[]⟩

def root : Place :=
  ["/"]

/-- Whether a place is the root, the working directory or above the latter. -/
def isOuter (place : Place) : Bool :=
  place = root || place.all (· = "..")

def get? (tree : FileTree) (place : Place) : Option Entry :=
  if isOuter place then some .directory else tree.entries.lookup place

/-- The tree with something at a place, instead of what was there. -/
def put (tree : FileTree) (place : Place) (entry : Entry) : FileTree :=
  ⟨(place, entry) :: tree.entries.filter (·.1 ≠ place)⟩

def parent (place : Place) : Place :=
  if place = root then root
  else if isOuter place then ".." :: place
  else place.dropLast

def start (path : String) : Place :=
  if Path.isAbsolute path then root else []

def walk (tree : FileTree) (place : Place) : List String → Except FileError Place
  | [] => .ok place
  | step :: rest =>
      match tree.get? place with
      | none => .error .notFound
      | some (.file _) => .error .notDirectory
      | some .directory =>
          if step = "." then tree.walk place rest
          else if step = ".." then tree.walk (parent place) rest
          else if Path.isTooLong step then .error .nameTooLong
          else
            match tree.get? (place ++ [step]) with
            | none => .error .notFound
            | some _ => tree.walk (place ++ [step]) rest

def locate (tree : FileTree) (path : String) : Except FileError Place := do
  Path.check path
  let last := if Path.endsInSlash path then ["."] else []
  tree.walk (start path) (Path.steps path ++ last)

def read (tree : FileTree) (path : String) : Except FileError ByteArray := do
  match tree.get? (← tree.locate path) with
  | none => throw .notFound
  | some .directory => throw .isDirectory
  | some (.file content) => return content

/-- The place at which a path lets a file be written. -/
def target (tree : FileTree) (path : String) : Except FileError Place := do
  Path.check path
  match (Path.steps path).getLast? with
  | none => throw .isDirectory
  | some name =>
      let place ← tree.walk (start path) ((Path.steps path).dropLast ++ ["."])
      if name = "." || name = ".." || Path.endsInSlash path then throw .isDirectory
      if Path.isTooLong name then throw .nameTooLong
      match tree.get? (place ++ [name]) with
      | some .directory => throw .isDirectory
      | _ => return place ++ [name]

def write (tree : FileTree) (path : String) (content : ByteArray) : Except FileError FileTree := do
  return tree.put (← tree.target path) (.file content)

def isDirectory (tree : FileTree) (path : String) : Bool :=
  match tree.locate path with
  | .error _ => false
  | .ok place => tree.get? place matches some .directory

/-- The tree with a directory for every step of a path, where there is nothing yet. -/
def makeDirectories (tree : FileTree) (place : Place) : List String → FileTree
  | [] => tree
  | step :: rest =>
      let next := place ++ [step]
      let tree := if (tree.get? next).isSome then tree else tree.put next .directory
      tree.makeDirectories next rest

def addDirectory (tree : FileTree) (path : String) : FileTree :=
  tree.makeDirectories [] (Path.steps path)

/-- The tree with a file, and the directories that lead to it. -/
def addFile (tree : FileTree) (path : String) (content : ByteArray) : FileTree :=
  let place := Path.steps path
  (tree.makeDirectories [] place.dropLast).put place (.file content)

def files (tree : FileTree) : List (String × ByteArray) :=
  tree.entries.filterMap fun (place, entry) =>
    match entry with
    | .file content => some ("/".intercalate place, content)
    | .directory => none

end FileTree

end TableSchema
