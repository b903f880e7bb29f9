/-!
# Quoted cells

A cell that starts and ends with a double quote loses both, and every two quotes in a row inside it
become one. There are two ways to do the latter: `pairQuotes` replaces pairs, `skipQuotes` goes
through the cell and leaves out each quote that follows one it kept.
-/

namespace TableSchema.Cell

/-- Replaces pairs of quotes by one quote, from left to right. -/
def pairQuotes : List Char → List Char
  | [] => []
  | '"' :: '"' :: rest => '"' :: pairQuotes rest
  | c :: rest => c :: pairQuotes rest

/-- Leaves out each quote that follows one that was kept. The flag says whether the character
before was such a quote. -/
def skipQuotes : Bool → List Char → List Char
  | _, [] => []
  | afterQuote, c :: rest =>
      if afterQuote && c = '"' then skipQuotes false rest else c :: skipQuotes (c = '"') rest

/-- What a cell holds between the quotes that enclose it, if they do. -/
def enclosed? : List Char → Option (List Char)
  | '"' :: rest => if rest.getLast? = some '"' then some rest.dropLast else none
  | _ => none

/-- The content of a cell, by replacing pairs. -/
def unquote (cell : List Char) : List Char :=
  match enclosed? cell with
  | some inner => pairQuotes inner
  | none => cell

/-- The content of a cell, by leaving out quotes. -/
def unquoteSkipping (cell : List Char) : List Char :=
  match enclosed? cell with
  | some inner => skipQuotes false inner
  | none => cell

end TableSchema.Cell
