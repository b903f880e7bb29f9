import TableSchema.Table.Value

/-!
# Faults of table texts

Why the text of a table is rejected, and two wordings of it. A `message` says all there is to say. A
`report` calls the first two lines by their names and shows a key up to its first NUL character
only.
-/

namespace TableSchema

/-- What is wrong with the text of a table. Lines and columns count from one. -/
inductive TableFault where
  | missingCommentLine
  | missingNameLine
  | columnCount (line found expected : Nat)
  | columnName (column : Nat) (name : String)
  | emptyKey (line : Nat) (key : String)
  | duplicateKey (line : Nat) (key : String) (value : Atom)
  | invalidValue (line : Nat) (column : String)
deriving DecidableEq, Repr

namespace TableFault

def line : TableFault → Nat
  | missingCommentLine => 1
  | missingNameLine | columnName .. => 2
  | columnCount line .. | emptyKey line _ | duplicateKey line .. | invalidValue line _ => line

/-- The fault in one sentence, with words of choice for a line and for the value of a key. -/
def wording (lineText : Nat → String) (keyText : Atom → String) : TableFault → String
  | missingCommentLine => "comment line is required"
  | missingNameLine => "name line is required"
  | columnCount line found expected =>
      lineText line ++ " column count " ++ toString found ++ " is invalid, should be " ++
        toString expected
  | columnName column name => "column " ++ toString column ++ " should be named as `" ++ name ++ "`"
  | emptyKey line key => "line " ++ toString line ++ " key `" ++ key ++ "` is empty"
  | duplicateKey line key value =>
      "line " ++ toString line ++ " key `" ++ key ++ "` value " ++ keyText value ++
        " is duplicated"
  | invalidValue line column =>
      "line " ++ toString line ++ " column `" ++ column ++ "` value is invalid"

def message : TableFault → String :=
  wording (fun line => "line " ++ toString line) Atom.display

/-- A line by its name, if it is one of the first two. -/
def lineName : Nat → String
  | 1 => "comment line"
  | 2 => "name line"
  | line => "line " ++ toString line

/-- A key up to its first NUL character. -/
def keyBeforeNul (key : Atom) : String :=
  String.ofList (key.display.toList.takeWhile (· ≠ '\x00'))

def report : TableFault → String :=
  wording lineName keyBeforeNul

end TableFault

end TableSchema
