import TableSchema.Files.Error
import TableSchema.Text.Bytes
import TableSchema.Text.Split

/-!
# Paths

A path is a text whose steps are set off by slashes. It starts at the working directory, or at the
root if its first character is a slash.
-/

namespace TableSchema.Path

def isAbsolute (path : String) : Bool :=
  path.toList.head? = some '/'

/-- Whether a path ends in a slash and so can only lead to a directory. -/
def endsInSlash (path : String) : Bool :=
  path.toList.getLast? = some '/'

/-- A path taken from a directory. An absolute path stands for itself. -/
def join (directory path : String) : String :=
  if isAbsolute path then path
  else if directory.isEmpty || endsInSlash directory then directory ++ path
  else directory ++ "/" ++ path

/-- The steps of a path. Slashes in a row count as one. -/
def steps (path : String) : List String :=
  (splitText '/' path).filter (!·.isEmpty)

/-- The most bytes that a step of a path may have. -/
def stepLimit : Nat := 255

/-- The most bytes that a path may have. -/
def pathLimit : Nat := 4095

/-- Whether a step is too long to be the name of a file. -/
def isTooLong (step : String) : Bool :=
  stepLimit < Bytes.size step.toList

def check (path : String) : Except FileError Unit :=
  if path.toList.contains '\x00' then .error .nulInPath
  else if path.isEmpty then .error .notFound
  else if pathLimit < Bytes.size path.toList then .error .nameTooLong
  else .ok ()

end TableSchema.Path
