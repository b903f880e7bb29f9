import TableSchema.Command.Run

/-!
# Diagnostics

What a failed command prints: the error with all its parts, by their names.
-/

namespace TableSchema.Command

def part (name value : String) : String :=
  name ++ ": " ++ value

def record (name : String) (parts : List String) : String :=
  name ++ " \x7b " ++ ", ".intercalate parts ++ " \x7d"

def fileDiagnostic (e : FileError) : String :=
  match e.systemReport? with
  | some (code, kind, text) =>
      record "Os" [part "code" (toString code), part "kind" kind,
        part "message" (Quoted.literal text)]
  | none =>
      let (kind, text) := e.ownReport
      record "Error" [part "kind" kind, part "message" (Quoted.literal text)]

/-- The diagnostic of what the command itself finds wrong with its directories. -/
def directoryDiagnostic (kind text : String) : String :=
  "Io(" ++ record "Custom" [part "kind" kind, part "error" (Quoted.literal text)] ++ ")"

def compileDiagnostic : CompileError → String
  | .file e => "Io(" ++ fileDiagnostic e ++ ")"
  | .definition path line fault =>
      record (if fault.isSyntactic then "Syntax" else "Semantic")
        [part "path" (Quoted.literal path), part "line" (toString line),
          part "msg" (Quoted.literal fault.message)]
  | .unknownReader reader => "UnknownReader(" ++ Quoted.literal reader ++ ")"
  | .write path e =>
      record "Write" [part "path" (Quoted.literal path), part "source" (fileDiagnostic e)]
  | .unsound fault => "Verify(" ++ Quoted.literal fault.message ++ ")"
  | .cut source fault =>
      record "Cut" [part "file" (Quoted.literal source), part "msg" (Quoted.literal fault.message)]
  | .unsupportedLanguage language => "UnsupportedLanguage(" ++ Quoted.literal language ++ ")"

def CommandError.diagnostic : CommandError → String
  | .failed (.error e) => compileDiagnostic e
  | .failed .outOfRange => "OutOfRange"
  | .noDirectory purpose path =>
      directoryDiagnostic "NotFound" ("can not find " ++ purpose ++ " directory `" ++ path ++ "`")
  | .sameDirectory =>
      directoryDiagnostic "InvalidInput" "output directory can not be same as input directory"

end TableSchema.Command
