/-!
# File errors

Why a file could not be read or written, with the texts under which this is reported.
-/

namespace TableSchema

/-- Why a file could not be read or written. -/
inductive FileError where
  /-- Nothing bears the name. -/
  | notFound
  /-- A step of the path is a file. -/
  | notDirectory
  /-- The path leads to a directory. -/
  | isDirectory
  /-- A step of the path, or the path itself, is too long. -/
  | nameTooLong
  /-- The path holds a NUL character. -/
  | nulInPath
  /-- The content is not UTF-8. -/
  | notText
  /-- Any other answer of the system. -/
  | system (code : Nat) (kind text : String)
deriving DecidableEq, Repr

namespace FileError

/-- The error number, kind and text of what the system itself reports. -/
def systemReport? : FileError → Option (Nat × String × String)
  | notFound => some (2, "NotFound", "No such file or directory")
  | notDirectory => some (20, "NotADirectory", "Not a directory")
  | isDirectory => some (21, "IsADirectory", "Is a directory")
  | nameTooLong => some (36, "InvalidFilename", "File name too long")
  | nulInPath | notText => none
  | system code kind text => some (code, kind, text)

/-- The kind and text of what is found out without the system. -/
def ownReport : FileError → String × String
  | nulInPath => ("InvalidInput", "file name contained an unexpected NUL byte")
  | _ => ("InvalidData", "stream did not contain valid UTF-8")

def message (e : FileError) : String :=
  match e.systemReport? with
  | some (code, _, text) => text ++ " (os error " ++ toString code ++ ")"
  | none => e.ownReport.2

end FileError

end TableSchema
