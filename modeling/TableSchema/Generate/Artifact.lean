import TableSchema.Error
import TableSchema.Generate.Lines
import TableSchema.Text.LineEnding

/-!
# Artifacts

What code generation gives: named files with their texts, in the order in which they are written.
-/

namespace TableSchema.Generate

/-- A language in which code can be generated. -/
inductive Language where
  | cpp
  | rust
deriving DecidableEq, Repr

namespace Language

def name : Language → String
  | cpp => "cpp"
  | rust => "rust"

def ofName? : String → Option Language
  | "cpp" => some cpp
  | "rust" => some rust
  | _ => none

/-- The language of the given name, or the error that there is none. -/
def ofName (name : String) : Except CompileError Language :=
  match ofName? name with
  | some language => .ok language
  | none => .error (.unsupportedLanguage name)

end Language

/-- A generated file. Its lines end in line feeds until it is converted. -/
structure Artifact where
  fileName : String
  text : String
deriving DecidableEq, Repr

def Artifact.convert (ending : LineEnding) (artifact : Artifact) : Artifact :=
  { artifact with text := ending.convert artifact.text }

/-- Artifacts in the order in which they are made. A place without one says that the schema is out
of range there, so that nothing after it is made. -/
abbrev Emission := List (Option Artifact)

end TableSchema.Generate
