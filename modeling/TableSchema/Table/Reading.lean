import TableSchema.Table.Fault
import TableSchema.Table.KeyedRows
import TableSchema.Table.Row
import TableSchema.Table.Rules

/-!
# Reading tables

The text of a table has a comment line, a line with the names of its columns, and data lines, all
with a cell for each column. `readTable` gives what such a text holds, or the first fault in it. If
a key stands for one row, every data line must have one. If a key stands for a set of rows, it
stands in the first of them, and lines with an empty key cell continue the set. No key may be given
twice. A cell that is asked for where the line has none ends the reading as well, without a fault.
-/

namespace TableSchema

/-- The cells of a line. -/
abbrev Cells := List (List Char)

/-- Why the reading of a table ends early. -/
inductive Interruption (ε : Type) where
  /-- The text is at fault. -/
  | fault (e : ε)
  /-- A line has no cell at the place that is asked for. -/
  | outOfRange
deriving DecidableEq, Repr

/-- What a reading gives: a value, or why it ended. -/
abbrev Attempt (ε α : Type) := Except (Interruption ε) α

/-- What a table holds: a row for each key, or a set of rows. -/
inductive Content where
  | rows (entries : Keyed Row)
  | rowSets (entries : Keyed (List Row))

/-- A table that holds nothing. -/
def Content.empty : KeyType → Content
  | .single => rows ∅
  | .set => rowSets ∅

/-- The rows held under a key. -/
inductive Found where
  | row (row : Row)
  | rowSet (rows : List Row)
deriving DecidableEq, Repr

def Content.get? (content : Content) (key : Atom) : Option Found :=
  match content with
  | rows entries => (entries.get? key).map .row
  | rowSets entries => (entries.get? key).map .rowSet

namespace Reading

def cellAt {ε : Type} (cells : Cells) (index : Nat) : Attempt ε (List Char) :=
  match cells[index]? with
  | some cell => .ok cell
  | none => .error .outOfRange

/-- Takes up lines one after the other, the first of which has the given number. -/
def eachLine {ε σ : Type} (takeUp : Nat → σ → Cells → Attempt ε σ) :
    Nat → σ → List Cells → Attempt ε σ
  | _, state, [] => .ok state
  | line, state, cells :: rest => do
      eachLine takeUp (line + 1) (← takeUp line state cells) rest

/-- Rejects a text. -/
def reject {α : Type} (fault : TableFault) : Attempt TableFault α :=
  .error (.fault fault)

def checkColumnCount (line found expected : Nat) : Attempt TableFault Unit :=
  if found = expected then .ok () else reject (.columnCount line found expected)

/-- Requires the cell at a place of the name line to hold a name. -/
def checkColumnName (cells : Cells) (index : Nat) (name : String) : Attempt TableFault Unit :=
  if cells[index]? = some name.toList then .ok () else reject (.columnName (index + 1) name)

def checkNames (cells : Cells) (columns : List ColumnLayout) : Attempt TableFault Unit :=
  columns.zipIdx.forM fun (column, index) => checkColumnName cells index column.name

variable (rules : Rules) (layout : Layout)

def readCell (line : Nat) (column : ColumnLayout) (cell : List Char) : Attempt TableFault Value :=
  match rules.readValue column cell with
  | some value => .ok value
  | none => reject (.invalidValue line column.name)

def readRow (line : Nat) (cells : Cells) : Attempt TableFault Row :=
  layout.columns.zipIdx.mapM fun (column, index) => do
    readCell rules line column (← cellAt cells index)

def readKey (cell : List Char) : Atom :=
  rules.readAtom layout.keyAtom cell

def checkNew {α : Type} (line : Nat) (entries : Keyed α) (key : Atom) : Attempt TableFault Unit :=
  if entries.contains key then reject (.duplicateKey line layout.keyName key) else .ok ()

def addRow (line : Nat) (rows : Keyed Row) (cells : Cells) : Attempt TableFault (Keyed Row) := do
  checkColumnCount line cells.length layout.columns.length
  let keyCell ← cellAt cells layout.keyIndex
  if keyCell.isEmpty then reject (.emptyKey line layout.keyName)
  let row ← readRow rules layout line cells
  let key := readKey rules layout keyCell
  checkNew layout line rows key
  return rows.insert key row

/-- Sets of rows, and the key of the one to which rows were added last. -/
structure Sets where
  entries : Keyed (List Row)
  lastKey : Option Atom

def Sets.empty : Sets :=
  ⟨∅, none⟩

def Sets.extend (sets : Sets) (key : Atom) (row : Row) : Sets :=
  { sets with entries := sets.entries.insert key ((sets.entries.get? key).getD [] ++ [row]) }

/-- The sets with a new one that has one row. -/
def Sets.start (sets : Sets) (key : Atom) (row : Row) : Sets :=
  ⟨sets.entries.insert key [row], some key⟩

/-- The row of a line that has no key of its own, with a key in its place. -/
def withKey (key : Atom) (row : Row) : Row :=
  row.set layout.keyIndex (.one (.atom key))

/-- Adds the row of a line, which continues the last set if its key cell is empty. -/
def addToSets (line : Nat) (sets : Sets) (cells : Cells) : Attempt TableFault Sets := do
  checkColumnCount line cells.length layout.columns.length
  let keyCell ← cellAt cells layout.keyIndex
  if keyCell.isEmpty then
    match sets.lastKey with
    | none => reject (.emptyKey line layout.keyName)
    | some key =>
        let row ← readRow rules layout line cells
        return sets.extend key (withKey layout key row)
  else
    let row ← readRow rules layout line cells
    let key := readKey rules layout keyCell
    checkNew layout line sets.entries key
    return sets.start key row

def readData (lines : List Cells) : Attempt TableFault Content :=
  match layout.keyType with
  | .single => do return .rows (← eachLine (addRow rules layout) 3 ∅ lines)
  | .set => do return .rowSets (← eachLine (addToSets rules layout) 3 .empty lines).entries

/-- What lines hold, the first two of which are the comment line and the name line. -/
def readLines : List Cells → Attempt TableFault Content
  | [] => reject .missingCommentLine
  | comment :: rest => do
      checkColumnCount 1 comment.length layout.columns.length
      match rest with
      | [] => reject .missingNameLine
      | names :: data =>
          checkColumnCount 2 names.length layout.columns.length
          checkNames names layout.columns
          readData rules layout data

end Reading

/-- What the text of a table holds. -/
def readTable (rules : Rules) (layout : Layout) (text : String) : Attempt TableFault Content :=
  Reading.readLines rules layout (rowsOf rules.unquote text)

end TableSchema
