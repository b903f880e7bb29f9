import TableSchema.Command.Arguments
import TableSchema.Compile
import TableSchema.Schema.Dump

/-!
# Running commands

What a command does to the files, and what it prints or why it fails.
-/

namespace TableSchema.Command

/-- Why a command fails. -/
inductive CommandError where
  /-- An operation of the library stops. -/
  | failed (failure : Failure)
  /-- A directory that must be there is not. -/
  | noDirectory (purpose path : String)
  /-- Files would be cut into the directory in which they lie. -/
  | sameDirectory
deriving DecidableEq, Repr

def ofCompileError (e : CompileError) : CommandError :=
  .failed (.error e)

variable {m : Type → Type} [Monad m] [Files m]

def requireDirectory (purpose path : String) : ExceptT CommandError m Unit := do
  unless ← (Files.isDirectory path : m Bool) do
    throw (.noDirectory purpose path)

def requireDifferent (path other : String) : ExceptT CommandError m Unit := do
  match ← (Files.resolve path : m _), ← (Files.resolve other : m _) with
  | .error e, _ | .ok _, .error e => throw (ofCompileError (.file e))
  | .ok place, .ok otherPlace => if place = otherPlace then throw .sameDirectory

def load (path : String) : ExceptT CommandError m Schema :=
  ExceptT.mk do return (← loadSchema path).mapError ofCompileError

/-- Runs a command and gives what it prints. -/
def run : Command → ExceptT CommandError m String
  | .compile file language reader output ending => do
      requireDirectory "output" output
      let schema ← load file
      ExceptT.mk do
        return (← generateForReader output language ending schema reader).mapError .failed
      return "Compiled " ++ file ++ " (" ++ language.name ++ ", reader `" ++ reader ++ "`) → " ++
        output ++ "\n"
  | .cut file reader input output => do
      requireDirectory "input" input
      requireDirectory "output" output
      requireDifferent input output
      let schema ← load file
      ExceptT.mk do return (← cutTables input output schema reader).mapError .failed
      return "Cut " ++ input ++ " → " ++ output ++ "\n"
  | .dump file none => do
      return (← load file).dump ++ "\n"
  | .dump file (some reader) => do
      let schema ← load file
      let view ← ExceptT.mk (return (schema.viewFor reader).mapError CommandError.failed)
      return view.dump ++ "\n"

end TableSchema.Command
