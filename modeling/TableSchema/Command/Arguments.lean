import TableSchema.Generate.Artifact

/-!
# Command lines

A command line names a command and then gives options in any order, each with a value: as the next
argument, after an equals sign, or, for the short form, right behind the letter. No option may be
repeated, and there are no arguments besides options. Paths may not be empty.
-/

namespace TableSchema

/-- What the program is told to do. -/
inductive Command where
  /-- Write the code for a reader. -/
  | compile (file : String) (language : Generate.Language) (reader output : String)
      (ending : LineEnding)
  /-- Cut the data files for a reader. -/
  | cut (file reader input output : String)
  /-- Show a schema, or what a reader may see of it. -/
  | dump (file : String) (reader : Option String)
deriving DecidableEq, Repr

namespace Command

/-- An option by its letter and its name. -/
structure CommandOption where
  letter : Char
  name : String

/-- The define document. -/
def fileOption : CommandOption := ⟨'f', "file"⟩

def languageOption : CommandOption := ⟨'l', "language"⟩

/-- The reader for whom the command works. -/
def readerOption : CommandOption := ⟨'r', "reader"⟩

def outputOption : CommandOption := ⟨'o', "output"⟩

/-- How the lines of the code end. -/
def newlineOption : CommandOption := ⟨'n', "newline"⟩

def inputOption : CommandOption := ⟨'i', "input"⟩

/-- The name of an option and the value that its argument gives it, if it gives one. -/
def readOption? (options : List CommandOption) (argument : String) :
    Option (String × Option String) :=
  match argument.toList with
  | '-' :: '-' :: long =>
      let name := String.ofList (long.takeWhile (· ≠ '='))
      let value? := match long.dropWhile (· ≠ '=') with
        | _ :: value => some (String.ofList value)
        | [] => none
      (options.find? (·.name = name)).map fun option => (option.name, value?)
  | '-' :: letter :: rest =>
      let value? := match rest with
        | [] => none
        | '=' :: value => some (String.ofList value)
        | value => some (String.ofList value)
      (options.find? (·.letter = letter)).map fun option => (option.name, value?)
  | _ => none

/-- Whether an argument can be the value of the option before it. -/
def isValue (argument : String) : Bool :=
  argument.toList.head? ≠ some '-' || argument = "-"

def readOptions (options : List CommandOption) : List String → Option (List (String × String))
  | [] => some []
  | argument :: rest =>
      if argument = "--" then
        if rest.isEmpty then some [] else none
      else
        match readOption? options argument, rest with
        | none, _ => none
        | some (name, some value), rest => do
            return (name, value) :: (← readOptions options rest)
        | some (_, none), [] => none
        | some (name, none), value :: rest =>
            if isValue value then do return (name, value) :: (← readOptions options rest)
            else none
termination_by arguments => arguments.length

/-- The values of options, none of which is given twice. -/
abbrev Values := List (String × String)

/-- The values of options that arguments give, none of them twice. -/
def readValues? (options : List CommandOption) (arguments : List String) : Option Values := do
  let values ← readOptions options arguments
  if (values.map (·.1)).Nodup then some values else none

def value? (values : Values) (option : CommandOption) : Option String :=
  values.lookup option.name

def path? (values : Values) (option : CommandOption) : Option String :=
  (value? values option).filter (!·.isEmpty)

/-- The value of an option that is a path, or another path if the option is not given. -/
def pathOr? (values : Values) (option : CommandOption) (path : String) : Option String :=
  ((value? values option).getD path |> some).filter (!·.isEmpty)

def compile? (arguments : List String) : Option Command := do
  let values ← readValues? [fileOption, languageOption, readerOption, outputOption, newlineOption]
    arguments
  let ending ← LineEnding.ofName? ((value? values newlineOption).getD "unix")
  return .compile (← path? values fileOption)
    (← (value? values languageOption).bind Generate.Language.ofName?) (← value? values readerOption)
    (← pathOr? values outputOption ".") ending

def cut? (arguments : List String) : Option Command := do
  let values ← readValues? [fileOption, readerOption, inputOption, outputOption] arguments
  return .cut (← path? values fileOption) (← value? values readerOption)
    (← path? values inputOption) (← path? values outputOption)

def dump? (arguments : List String) : Option Command := do
  let values ← readValues? [fileOption, readerOption] arguments
  return .dump (← path? values fileOption) (value? values readerOption)

def ofArguments? : List String → Option Command
  | "compile" :: rest => compile? rest
  | "cut" :: rest => cut? rest
  | "dump" :: rest => dump? rest
  | _ => none

end Command

end TableSchema
