/-!
# Line endings

Generated text is made with line feeds and converted as a whole before it is written.
-/

namespace TableSchema

/-- How the lines of a written file end. -/
inductive LineEnding where
  /-- A line feed. -/
  | unix
  /-- A carriage return and a line feed. -/
  | dos
deriving DecidableEq, Repr, Inhabited

namespace LineEnding

def separator : LineEnding → String
  | unix => "\n"
  | dos => "\r\n"

/-- Ends every line in a carriage return and a line feed, whatever came before the line feed. -/
def withCarriageReturns : List Char → List Char
  | [] => []
  | c :: rest => (if c = '\n' then ['\r', '\n'] else [c]) ++ withCarriageReturns rest

/-- Converts text whose lines end in line feeds. -/
def convert (ending : LineEnding) (text : String) : String :=
  match ending with
  | unix => text
  | dos => String.ofList (withCarriageReturns text.toList)

def ofName? : String → Option LineEnding
  | "unix" => some unix
  | "dos" => some dos
  | _ => none

def unknownMessage (name : String) : String :=
  "new line type `" ++ name ++ "` is not supported"

end LineEnding

end TableSchema
