import TableSchema.Table.Reading
import TableSchema.Text.Printf

/-!
# Reading tables in C++

The C++ readers are written apart from the others. They go through the columns of a line with a
counter, keep the key of the last set beside a flag that says whether there is one, and put what
they complain about into bytes on the spot. The two header lines are called by their names.
-/

namespace TableSchema.CppReading

open Reading (cellAt eachLine)
open Printf (Argument)

/-- The bytes of an error text. -/
abbrev ErrorText := List UInt8

/-! ## Formats -/

/-- The format for a line, which is shown first, with a wrong number of cells. -/
def sizeFormat (line : String) : String :=
  line ++ " column count %zd is invalid, should be %zd"

def nameFormat (column : String) : String :=
  "column %zd should be named as `" ++ column ++ "`"

def emptyKeyFormat (key : String) : String :=
  "line %zd key `" ++ key ++ "` is empty"

def keyDirective : FieldType → String
  | .int => "%d"
  | .string => "%s"

def duplicateKeyFormat (key : String) (type : FieldType) : String :=
  "line %zd key `" ++ key ++ "` value " ++ keyDirective type ++ " is duplicated"

def invalidFormat (column : String) : String :=
  "line %zd column `" ++ column ++ "` value is invalid"

def keyArgument : Atom → Argument
  | .int n => .integer n
  | .text s => .text (Bytes.encode s.toList)

/-! ## Lines -/

/-- Gives up with a complaint. -/
def complain {α : Type} (format : String) (arguments : List Argument) : Attempt ErrorText α :=
  .error (.fault (Printf.error format arguments))

variable (layout : Layout)

def checkSize (line : String) (arguments : List Argument) (cells : Cells) :
    Attempt ErrorText Unit :=
  if cells.length = layout.columns.length then .ok ()
  else complain (sizeFormat line)
    (arguments ++ [.size cells.length, .size layout.columns.length])

/-- Takes one of the header lines off the lines. -/
def headerLine (which : String) : List Cells → Attempt ErrorText (Cells × List Cells)
  | [] => .error (.fault (Bytes.encode (which ++ " line is required").toList))
  | cells :: rest => do
      checkSize layout (which ++ " line") [] cells
      return (cells, rest)

/-- Requires the cells from a place on to hold the names of the columns. -/
def checkNames (cells : Cells) : Nat → List ColumnLayout → Attempt ErrorText Unit
  | _, [] => .ok ()
  | number, column :: rest => do
      let cell ← cellAt cells number
      if cell ≠ column.name.toList then
        complain (nameFormat column.name) [.size (number + 1)]
      checkNames cells (number + 1) rest

/-- The values of the columns in the cells from a place on. -/
def readColumns (line : Nat) (cells : Cells) : Nat → List ColumnLayout → Attempt ErrorText Row
  | _, [] => .ok []
  | number, column :: rest => do
      let cell ← cellAt cells number
      match Rules.cpp.readValue column cell with
      | none => complain (invalidFormat column.name) [.size line]
      | some value => return value :: (← readColumns line cells (number + 1) rest)

def keyName : String :=
  (layout.columns[layout.keyIndex]?.map ColumnLayout.name).getD ""

def rejectEmptyKey {α : Type} (line : Nat) : Attempt ErrorText α :=
  complain (emptyKeyFormat (keyName layout)) [.size line]

def rejectDuplicateKey {α : Type} (line : Nat) (key : Atom) : Attempt ErrorText α :=
  complain (duplicateKeyFormat (keyName layout) layout.keyAtom) [.size line, keyArgument key]

def addRow (line : Nat) (rows : Keyed Row) (cells : Cells) : Attempt ErrorText (Keyed Row) := do
  checkSize layout "line %zd" [.size line] cells
  let keyCell ← cellAt cells layout.keyIndex
  if keyCell.isEmpty then rejectEmptyKey layout line
  let row ← readColumns line cells 0 layout.columns
  let key := Rules.cpp.readAtom layout.keyAtom keyCell
  if (rows.get? key).isSome then rejectDuplicateKey layout line key
  return rows.insert key row

/-- Sets of rows, whether there is a last one, and its key if there is. -/
structure FlaggedSets where
  entries : Keyed (List Row)
  hasLastKey : Bool
  lastKey : Atom

/-- A key that stands for none. -/
def noKey : FieldType → Atom
  | .int => .int 0
  | .string => .text ""

/-- Adds the row of a line, which continues the last set if its key cell is empty. -/
def addToSets (line : Nat) (sets : FlaggedSets) (cells : Cells) :
    Attempt ErrorText FlaggedSets := do
  checkSize layout "line %zd" [.size line] cells
  let keyCell ← cellAt cells layout.keyIndex
  let isContinuation := keyCell.isEmpty
  if isContinuation && !sets.hasLastKey then rejectEmptyKey layout line
  let row ← readColumns line cells 0 layout.columns
  if isContinuation then
    let row := row.set layout.keyIndex (.one (.atom sets.lastKey))
    let rows := (sets.entries.get? sets.lastKey).getD []
    return { sets with entries := sets.entries.insert sets.lastKey (rows ++ [row]) }
  else
    let key := Rules.cpp.readAtom layout.keyAtom keyCell
    if (sets.entries.get? key).isSome then rejectDuplicateKey layout line key
    return { entries := sets.entries.insert key [row], hasLastKey := true, lastKey := key }

def readData (lines : List Cells) : Attempt ErrorText Content :=
  match layout.keyType with
  | .single => do return .rows (← eachLine (addRow layout) 3 ∅ lines)
  | .set => do
      let sets : FlaggedSets := ⟨∅, false, noKey layout.keyAtom⟩
      return .rowSets (← eachLine (addToSets layout) 3 sets lines).entries

/-- What the text of a table holds. -/
def readTable (text : String) : Attempt ErrorText Content := do
  let lines := rowsOf Rules.cpp.unquote text
  let (_, lines) ← headerLine layout "comment" lines
  let (names, lines) ← headerLine layout "name" lines
  checkNames names 0 layout.columns
  readData layout lines

end TableSchema.CppReading
