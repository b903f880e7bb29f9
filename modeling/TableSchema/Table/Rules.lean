import TableSchema.Table.Cell
import TableSchema.Table.Splitter
import TableSchema.Table.Value
import TableSchema.Text.Integer

/-!
# Decoding rules

Generated readers come with a runtime that takes cells apart. There is one for each language, made
independently of the other; the places in which they might differ are the fields of `Rules`. What
a cell decodes to is defined for any rules: integers and texts are taken as they are, the fields of
a record stand between semicolons, and the elements of a list between bars. An empty cell is the
empty list.
-/

namespace TableSchema

/-- How the readers of one language take cells apart. -/
structure Rules where
  /-- The content of a cell that may be quoted. -/
  unquote : List Char → List Char
  /-- The integer at the start of a text. -/
  readInt : List Char → Int32
  /-- The next token of a splitter. -/
  next? : Splitter → Option (List Char × Splitter)
  /-- Every token leaves fewer. -/
  remaining_lt : ∀ {s t : Splitter} {token : List Char},
    next? s = some (token, t) → t.remaining < s.remaining

namespace Rules

/-- The rules of the Rust runtime. -/
def rust : Rules where
  unquote := Cell.unquote
  readInt := Integer.read
  next? := Splitter.next?
  remaining_lt := Splitter.remaining_next?_lt

/-- The rules of the C++ runtime. -/
def cpp : Rules where
  unquote := Cell.unquoteSkipping
  readInt := Integer.readAscii
  next? := Splitter.nextFound?
  remaining_lt := Splitter.remaining_nextFound?_lt

variable (rules : Rules)

def tokens (s : Splitter) : List (List Char) :=
  match _h : rules.next? s with
  | none => []
  | some (token, t) => token :: tokens t
termination_by s.remaining
decreasing_by exact rules.remaining_lt _h

def listDelimiter : Char := '|'

def fieldDelimiter : Char := ';'

def readAtom (type : FieldType) (text : List Char) : Atom :=
  match type with
  | .int => .int (rules.readInt text)
  | .string => .text (String.ofList text)

/-- Reads a token for each field, and gives the atoms with the splitter after them. -/
def readFields : List (String × FieldType) → Splitter → Option (List Atom × Splitter)
  | [], s => some ([], s)
  | (_, type) :: fields, s => do
      let (token, s) ← rules.next? s
      let (atoms, s) ← readFields fields s
      return (rules.readAtom type token :: atoms, s)

/-- The fields of a record. There must be a token for each and no more; without fields, any text
will do. -/
def readRecord (fields : List (String × FieldType)) (text : List Char) : Option (List Atom) :=
  if fields.isEmpty then some []
  else do
    let (atoms, s) ← rules.readFields fields (Splitter.ofText text fieldDelimiter)
    if (rules.next? s).isSome then none else some atoms

def readDatum (shape : DatumShape) (text : List Char) : Option Datum :=
  match shape with
  | .atom type => some (.atom (rules.readAtom type text))
  | .record fields => (rules.readRecord fields text).map .record

/-- The elements of a list, every one of which must be valid. -/
def readList (shape : DatumShape) (text : List Char) : Option (List Datum) :=
  if text.isEmpty then some []
  else (rules.tokens (Splitter.ofText text listDelimiter)).mapM (rules.readDatum shape)

def readValue (column : ColumnLayout) (cell : List Char) : Option Value :=
  if column.isList then (rules.readList column.shape cell).map .many
  else (rules.readDatum column.shape cell).map .one

end Rules

end TableSchema
