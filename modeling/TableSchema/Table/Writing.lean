import TableSchema.Table.Cutting
import TableSchema.Table.Reading

/-!
# Writing tables

The texts of rows, as one would write them for the readers of tables: integers in decimal,
semicolons between the fields of a record, bars between the elements of a list. Any cell may be
enclosed in quotes; a cell that would be taken for something else without them always is.
-/

namespace TableSchema

def Atom.written : Atom → List Char
  | .int n => Integer.decimal n
  | .text s => s.toList

def Datum.written : Datum → List Char
  | .atom a => a.written
  | .record atoms => [Rules.fieldDelimiter].intercalate (atoms.map Atom.written)

def Value.written : Value → List Char
  | .one e => e.written
  | .many es => [Rules.listDelimiter].intercalate (es.map Datum.written)

/-- Rows to be written, under keys of their own or in groups that share a key. -/
inductive Collection where
  | rows (entries : List (Atom × Row))
  | groups (entries : List (Atom × List Row))

namespace Writing

/-! ## Cells -/

def doubleQuotes : List Char → List Char
  | [] => []
  | c :: rest => if c = '"' then '"' :: '"' :: doubleQuotes rest else c :: doubleQuotes rest

def enclose (cell : List Char) : List Char :=
  '"' :: (doubleQuotes cell ++ ['"'])

/-- Whether a cell may stand without quotes around it: it has none of its own there, and it does not
end in a carriage return if a tab follows. -/
def mayStandBare (isLast : Bool) (cell : List Char) : Bool :=
  (Cell.enclosed? cell).isNone && (isLast || cell.getLast? ≠ some '\r')

/-- A cell as it stands in a line, without quotes if that is wished and may be. -/
def writeCell (bare isLast : Bool) (cell : List Char) : List Char :=
  if bare && mayStandBare isLast cell then cell else enclose cell

/-- The cells of a line as they stand in it. It is wished for each whether it stands bare. -/
def writeCells (bare : Nat → Bool) : Cells → Cells
  | [] => []
  | cell :: rest =>
      writeCell (bare 0) rest.isEmpty cell :: writeCells (fun i => bare (i + 1)) rest

def writeLines (bare : Nat → Nat → Bool) (lines : List Cells) : String :=
  String.ofList ((lines.mapIdx fun i => writeCells (bare i)).flatMap Cutting.writeLine)

/-! ## Rows -/

def rowCells (row : Row) : Cells :=
  row.map Value.written

/-- The lines of a group of rows. The key stands in the first of them only. -/
def groupLines (keyIndex : Nat) : List Row → List Cells
  | [] => []
  | first :: later => rowCells first :: later.map fun row => (rowCells row).set keyIndex []

def dataLines (keyIndex : Nat) : Collection → List Cells
  | .rows entries => entries.map fun entry => rowCells entry.2
  | .groups entries => entries.flatMap fun entry => groupLines keyIndex entry.2

end Writing

/-- The text of a table: a comment line, the line with the names of the columns, and the lines of a
collection. -/
def writeTable (bare : Nat → Nat → Bool) (layout : Layout) (comment : Cells)
    (collection : Collection) : String :=
  Writing.writeLines bare
    (comment :: layout.columns.map (·.name.toList) :: Writing.dataLines layout.keyIndex collection)

end TableSchema
