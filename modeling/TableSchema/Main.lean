import TableSchema.Command.Diagnostic

/-!
# The program

Runs a command line on the files of the machine.
-/

namespace TableSchema

/-- The number of an error of the system, which may be given with its sign turned. -/
def errorNumber (code : UInt32) : Nat :=
  if code < 0x80000000 then code.toNat else (-code).toNat

/-- The file error that an error of the system stands for. -/
def FileError.ofSystem : IO.Error → FileError
  | .noFileOrDirectory .. => .notFound
  | .inappropriateType _ code _ => if errorNumber code = 20 then .notDirectory else .isDirectory
  | .resourceExhausted _ code text | .invalidArgument _ code text =>
      if errorNumber code = 36 then .nameTooLong else .system (errorNumber code) "Other" text
  | .permissionDenied _ code _ =>
      if errorNumber code = 13 then .system 13 "PermissionDenied" "Permission denied"
      else .system (errorNumber code) "PermissionDenied" "Operation not permitted"
  | e => .system 0 "Other" (toString e)

/-- An operation on the files of the machine, whose errors are given as values. -/
def onMachine {α : Type} (operation : IO α) : IO (Except FileError α) := do
  try return .ok (← operation) catch e => return .error (.ofSystem e)

/-- Whether a path leads to a directory on the machine: whether it still does with one more step to
where it is. -/
def isMachineDirectory (path : String) : IO Bool := do
  if path.isEmpty then return false
  return (← onMachine (IO.FS.realPath (Path.join path "."))).isOk

instance : Files IO where
  read path := onMachine (IO.FS.readBinFile path)
  write path text := onMachine (IO.FS.writeFile path text)
  isDirectory := isMachineDirectory
  resolve path := onMachine do return (← IO.FS.realPath path).toString

end TableSchema

open TableSchema in
/-- Runs a command line and gives its exit code. -/
def main (arguments : List String) : IO UInt32 := do
  match Command.ofArguments? arguments with
  | none => return 2
  | some command =>
      match ← (Command.run command).run with
      | .ok output =>
          IO.print output
          return 0
      | .error e =>
          IO.eprintln ("Error: " ++ e.diagnostic)
          return 1
