import TableSchema.Text.Bytes

/-!
# Splitters

A splitter gives the tokens of a cell one by one: what is between the occurrences of a delimiter.
It keeps the byte at which the next token starts; when no token is left, that is one past the end
of the text. There are two ways to take a step, `next?` and `nextFound?`.
-/

namespace TableSchema

/-- A text, the ASCII character that delimits its tokens, and the byte at which the next one
starts. -/
structure Splitter where
  text : List Char
  delimiter : Char
  index : Nat
deriving Repr

namespace Splitter

def ofText (text : List Char) (delimiter : Char) : Splitter :=
  ⟨text, delimiter, 0⟩

def isExhausted (s : Splitter) : Bool :=
  Bytes.size s.text < s.index

/-- A bound for the number of tokens left. -/
def remaining (s : Splitter) : Nat :=
  Bytes.size s.text + 1 - s.index

def moveTo (s : Splitter) (index : Nat) : Splitter :=
  { s with index }

/-- The next token and the splitter after it. At the end of the text stands an empty token. -/
def next? (s : Splitter) : Option (List Char × Splitter) :=
  let size := Bytes.size s.text
  if size < s.index then none
  else if s.index = size then some ([], s.moveTo (size + 1))
  else
    let rest := Bytes.drop s.index s.text
    let token := rest.takeWhile (· ≠ s.delimiter)
    if rest.contains s.delimiter then some (token, s.moveTo (s.index + Bytes.size token + 1))
    else some (token, s.moveTo (size + 1))

/-- The next token and the splitter after it, by looking for the delimiter in what is left. -/
def nextFound? (s : Splitter) : Option (List Char × Splitter) :=
  let size := Bytes.size s.text
  if size < s.index then none
  else
    let rest := Bytes.drop s.index s.text
    match rest.idxOf? s.delimiter with
    | none => some (rest, s.moveTo (size + 1))
    | some i =>
        let token := rest.take i
        some (token, s.moveTo (s.index + Bytes.size token + 1))

theorem remaining_next?_lt {s t : Splitter} {token : List Char}
    (h : s.next? = some (token, t)) : t.remaining < s.remaining := by
  unfold next? at h
  grind [remaining, moveTo]

theorem remaining_nextFound?_lt {s t : Splitter} {token : List Char}
    (h : s.nextFound? = some (token, t)) : t.remaining < s.remaining := by
  unfold nextFound? at h
  grind [remaining, moveTo]

end Splitter

end TableSchema
