import TableSchema.Text.Bytes

/-!
# Rows of cells

A table text consists of rows of cells. A row ends with a carriage return and a line feed, the last
one also with the text, and a tab that does not directly follow a carriage return ends a cell. So
a carriage return or a line feed alone is part of a cell. `RowReader` reads row after row and
knows the byte at which the next one starts. The meaning of the rows is that of `segments`, which
cuts the text as a whole.
-/

namespace TableSchema

/-- Reads the cells of a row, each passed through `finish`, and gives them with the text after the
row. The cell at hand is given in reverse, and the flag says whether it ends in a carriage
return. -/
def scanRow (finish : List Char → List Char) :
    Bool → List Char → List Char → List (List Char) × List Char
  | _, cell, [] => ([finish cell.reverse], [])
  | afterReturn, cell, c :: rest =>
      if afterReturn && c = '\n' then ([finish cell.tail.reverse], rest)
      else if !afterReturn && c = '\t' then
        let (cells, after) := scanRow finish false [] rest
        (finish cell.reverse :: cells, after)
      else scanRow finish (c = '\r') (c :: cell) rest

theorem length_scanRow_le (finish : List Char → List Char) (afterReturn : Bool)
    (cell text : List Char) : (scanRow finish afterReturn cell text).2.length ≤ text.length := by
  induction text generalizing afterReturn cell with
  | nil => simp [scanRow]
  | cons c rest ih =>
      simp only [scanRow, List.length_cons]
      split
      · simp
      · split
        · exact Nat.le_succ_of_le (ih false [])
        · exact Nat.le_succ_of_le (ih _ _)

theorem length_scanRow_lt (finish : List Char → List Char) (c : Char) (text : List Char) :
    (scanRow finish false [] (c :: text)).2.length < (c :: text).length := by
  simp only [scanRow, List.length_cons]
  split
  · simp
  · split
    · exact Nat.lt_succ_of_le (length_scanRow_le finish false [] text)
    · exact Nat.lt_succ_of_le (length_scanRow_le finish _ _ text)

/-- The unread part of a table text, and the bytes of the whole text. -/
structure RowReader where
  textSize : Nat
  rest : List Char
deriving Repr

namespace RowReader

def ofText (text : String) : RowReader :=
  ⟨Bytes.size text.toList, text.toList⟩

def index (reader : RowReader) : Nat :=
  reader.textSize - Bytes.size reader.rest

/-- The cells of the next row, each passed through `finish`, and the reader after it. -/
def next? (finish : List Char → List Char) (reader : RowReader) :
    Option (List (List Char) × RowReader) :=
  match reader.rest with
  | [] => none
  | c :: rest =>
      let (cells, after) := scanRow finish false [] (c :: rest)
      some (cells, { reader with rest := after })

theorem next?_shortens {finish : List Char → List Char} {reader next : RowReader}
    {cells : List (List Char)} (h : reader.next? finish = some (cells, next)) :
    next.rest.length < reader.rest.length := by
  unfold next? at h
  split at h
  · cases h
  next c rest hrest =>
      cases h
      rw [hrest]
      exact length_scanRow_lt finish c rest

/-- All rows that are left, each with the reader after it. -/
def rows (finish : List Char → List Char) (reader : RowReader) :
    List (List (List Char) × RowReader) :=
  match _h : reader.next? finish with
  | none => []
  | some (cells, next) => (cells, next) :: rows finish next
termination_by reader.rest.length
decreasing_by exact next?_shortens _h

end RowReader

def rowsOf (finish : List Char → List Char) (text : String) : List (List (List Char)) :=
  ((RowReader.ofText text).rows finish).map (·.1)

/-! ## Segments -/

/-- Puts a character in front of the first of some parts. -/
def consFirst (c : Char) : List (List Char) → List (List Char)
  | [] => [[c]]
  | part :: parts => (c :: part) :: parts

/-- The parts of a text between the line ends, each of which is a carriage return and a line
feed. -/
def lineParts : List Char → List (List Char)
  | [] => [[]]
  | '\r' :: '\n' :: rest => [] :: lineParts rest
  | c :: rest => consFirst c (lineParts rest)

/-- The rows of a text: what is before each line end, and what is after the last one unless that is
nothing. -/
def rowTexts (text : List Char) : List (List Char) :=
  let parts := lineParts text
  if parts.getLast? = some [] then parts.dropLast else parts

/-- The lines of a text, cut after each line end, which stays with its line. -/
def linesWithEnds : List Char → List (List Char)
  | [] => []
  | '\r' :: '\n' :: rest => ['\r', '\n'] :: linesWithEnds rest
  | c :: rest => consFirst c (linesWithEnds rest)

def withoutLineEnd (line : List Char) : List Char :=
  if ['\r', '\n'].isSuffixOf line then line.take (line.length - 2) else line

/-- Cuts a row at each tab that does not directly follow a carriage return. -/
def cutCells : List Char → List (List Char)
  | [] => [[]]
  | '\r' :: '\t' :: rest => consFirst '\r' (consFirst '\t' (cutCells rest))
  | '\t' :: rest => [] :: cutCells rest
  | c :: rest => consFirst c (cutCells rest)

/-- The rows of a text as lists of cells. -/
def segments (text : List Char) : List (List (List Char)) :=
  (rowTexts text).map cutCells

example : segments "a\tb\r\t\nc\r\r\n\t".toList =
    [[['a'], "b\r\t\nc\r".toList], [[], []]] := by decide

example : rowsOf id "a\tb\r\t\nc\r\r\n\t" = segments "a\tb\r\t\nc\r\r\n\t".toList := by
  decide +kernel

end TableSchema
