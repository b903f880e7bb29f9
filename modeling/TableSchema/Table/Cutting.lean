import TableSchema.Error
import TableSchema.Schema.View
import TableSchema.Table.Row
import TableSchema.Text.Split

/-!
# Cutting data files

A data file is cut for a reader by leaving out the cells of the columns that the reader may not
see. Lines end in a carriage return and a line feed, the last one too, and every tab ends a cell;
quotes mean nothing here.
-/

namespace TableSchema

/-- What ends a line of a data file. -/
def lineEnd : List Char :=
  ['\r', '\n']

/-- The lines of a data file, or nothing if the last one does not end. -/
def dataLines? (content : List Char) : Option (List (List Char)) :=
  let parts := lineParts content
  if parts.getLast? = some [] then some parts.dropLast else none

/-- The cells of a line. -/
def lineCells (line : List Char) : List (List Char) :=
  line.splitOn '\t'

namespace Cutting

def checkCells (table : Table) (line : Nat) (cells : List (List Char)) : Except CutFault Unit :=
  let expected := table.columns.toList.length
  if cells.length = expected then .ok () else .error (.columnCount line cells.length expected)

def checkNames (table : Table) (cells : List (List Char)) : Except CutFault Unit :=
  (table.columns.toList.zip cells).zipIdx.forM fun ((column, cell), index) =>
    if cell = column.name.toList then .ok () else .error (.columnName (index + 1) column.name)

def keep (table : Table) (reader : String) (cells : List (List Char)) : List (List Char) :=
  ((table.columns.toList.zip cells).filter fun (column, _) => table.shows reader column).map (·.2)

def writeLine (cells : List (List Char)) : List Char :=
  ['\t'].intercalate cells ++ lineEnd

end Cutting

/-- The content of a table's data file without what the reader may not see. -/
def Table.cut (table : Table) (reader : String) (content : String) : Except CutFault String := do
  match dataLines? content.toList with
  | none => throw .unendedLine
  | some lines =>
      let rows := lines.map lineCells
      match rows with
      | _ :: names :: _ =>
          rows.zipIdx.forM fun (cells, index) => Cutting.checkCells table (index + 1) cells
          Cutting.checkNames table names
          return String.ofList (rows.flatMap fun cells =>
            Cutting.writeLine (Cutting.keep table reader cells))
      | _ => throw .missingHeader

end TableSchema
