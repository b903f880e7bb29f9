/-!
# Lines of generated code

Generated code is put together as lines without their line feeds. Braces are opened and closed by
`block` and its relatives, so that what they enclose is one value.
-/

namespace TableSchema.Generate

/-- Lines of code, without their line feeds. -/
abbrev Lines := List String

def text (lines : Lines) : String :=
  String.join (lines.map (· ++ "\n"))

/-- A line one step to the right. An empty line stays empty. -/
def indentLine (line : String) : String :=
  if line.isEmpty then line else "    " ++ line

def indent (lines : Lines) : Lines :=
  lines.map indentLine

/-- Lines between braces, the closing one followed by `tail`. -/
def blockWith (tail head : String) (body : Lines) : Lines :=
  [head ++ " \x7b"] ++ indent body ++ ["\x7d" ++ tail]

def block (head : String) (body : Lines) : Lines :=
  blockWith "" head body

/-- Lines between braces, and other lines between braces in case the first do not apply. -/
def blockElse (head : String) (body otherwise : Lines) : Lines :=
  [head ++ " \x7b"] ++ indent body ++ ["\x7d else \x7b"] ++ indent otherwise ++ ["\x7d"]

/-- Groups of lines with an empty line between any two. -/
def spaced : List Lines → Lines
  | [] => []
  | [group] => group
  | group :: rest => group ++ [""] ++ spaced rest

def linesIf (condition : Bool) (lines : Lines) : Lines :=
  if condition then lines else []

/-- Texts with another between any two. -/
def joined (separator : String) (parts : List String) : String :=
  separator.intercalate parts

end TableSchema.Generate
