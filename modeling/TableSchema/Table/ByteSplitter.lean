import TableSchema.Text.Utf8

/-!
# Splitters by bytes

The runtimes of generated readers look for the byte of a delimiter among the bytes of a cell, and
take the token before it out of the cell between two places. There are two ways to take a step, as
for splitters by characters: `next?` looks in what is left of the cell and slices the token out,
which fails at places that are no bounds of a slice; `nextFound?` looks in the whole cell from a
place on and copies the token, which fails if it starts past the end.
-/

namespace TableSchema

/-- The bytes of a text, the byte that delimits its tokens, and the place at which the next one
starts. -/
structure ByteSplitter where
  bytes : List UInt8
  delimiter : UInt8
  index : Nat
deriving DecidableEq, Repr

namespace ByteSplitter

open Bytes (BadSlice slice)

def ofText (text : String) (delimiter : Char) : ByteSplitter :=
  ⟨text.toUTF8.data.toList, UInt8.ofNat delimiter.toNat, 0⟩

def isExhausted (s : ByteSplitter) : Bool :=
  s.bytes.length < s.index

def moveTo (s : ByteSplitter) (index : Nat) : ByteSplitter :=
  { s with index }

/-- The next token and the splitter after it. At the end of the text stands an empty token. -/
def next? (s : ByteSplitter) : Except BadSlice (Option (List UInt8 × ByteSplitter)) :=
  let size := s.bytes.length
  if size < s.index then return none
  else if s.index = size then return some ([], s.moveTo (s.index + 1))
  else
    match (s.bytes.drop s.index).idxOf? s.delimiter with
    | some offset => do
        let token ← slice s.bytes s.index (s.index + offset)
        return some (token, s.moveTo (s.index + offset + 1))
    | none => do
        let token ← slice s.bytes s.index size
        return some (token, s.moveTo (size + 1))

/-- The first place from `start` on at which a byte stands. -/
def find? (bytes : List UInt8) (b : UInt8) (start : Nat) : Option Nat :=
  ((bytes.drop start).idxOf? b).map (start + ·)

/-- As many bytes from a place on as there are, up to a number of them. -/
def copy (bytes : List UInt8) (start count : Nat) : Except BadSlice (List UInt8) :=
  if start ≤ bytes.length then .ok ((bytes.drop start).take count)
  else .error ⟨start, start + count⟩

/-- The next token and the splitter after it, by looking for the delimiter. -/
def nextFound? (s : ByteSplitter) : Except BadSlice (Option (List UInt8 × ByteSplitter)) :=
  let size := s.bytes.length
  if size < s.index then return none
  else
    let (stop, after) := match find? s.bytes s.delimiter s.index with
      | none => (size, size + 1)
      | some place => (place, place + 1)
    return some (← copy s.bytes s.index (stop - s.index), s.moveTo after)

end ByteSplitter

end TableSchema
