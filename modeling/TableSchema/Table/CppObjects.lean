import TableSchema.Table.CppReading

/-!
# Objects filled in place

The C++ readers fill what they are given and say whether they could. The members of an object are
filled from the tokens of a text one after the other, and the elements of a list are made one by one
and put at its end. What has been filled up to a failure stays.
-/

namespace TableSchema.CppReading

/-- The members of an object that has just been made: zeros and empty texts. -/
def newMembers (fields : List (String × FieldType)) : List Atom :=
  fields.map fun field => noKey field.2

/-- Puts a token into each member in turn, up to the first for which none is left, and gives the
splitter after them if there was a token for all. -/
def fillMembers : List (String × FieldType) → List Atom → Splitter → List Atom × Option Splitter
  | field :: fields, member :: members, s =>
      match Rules.cpp.next? s with
      | none => (member :: members, none)
      | some (token, t) =>
          let (filled, left) := fillMembers fields members t
          (Rules.cpp.readAtom field.2 token :: filled, left)
  | _, members, s => (members, some s)

/-- Fills the members of an object from a text. There must be a token for each and no more; without
fields, any text will do. -/
def parseMembers (fields : List (String × FieldType)) (text : List Char) (members : List Atom) :
    Bool × List Atom :=
  if fields.isEmpty then (true, members)
  else
    match fillMembers fields members (Splitter.ofText text Rules.fieldDelimiter) with
    | (members, none) => (false, members)
    | (members, some s) => ((Rules.cpp.next? s).isNone, members)

section Lists

variable {α : Type} (parse : List Char → Bool × α)

/-- Puts what tokens hold at the end of a list, up to the first that cannot be parsed. -/
def pushTokens (elements : List α) (s : Splitter) : Bool × List α :=
  match _h : Rules.cpp.next? s with
  | none => (true, elements)
  | some (token, t) =>
      match parse token with
      | (false, _) => (false, elements)
      | (true, element) => pushTokens (elements ++ [element]) t
termination_by s.remaining
decreasing_by exact Rules.cpp.remaining_lt _h

/-- Fills a list from a cell, whatever it held before. -/
def fillList (cell : List Char) (_before : List α) : Bool × List α :=
  if cell.isEmpty then (true, [])
  else pushTokens parse [] (Splitter.ofText cell Rules.listDelimiter)

end Lists

/-- Fills a list of integers or of texts, none of which is refused. -/
def fillAtoms (type : FieldType) : List Char → List Atom → Bool × List Atom :=
  fillList fun token => (true, Rules.cpp.readAtom type token)

/-- Fills a list of records, each of which is parsed into an object of its own. -/
def fillRecords (fields : List (String × FieldType)) :
    List Char → List (List Atom) → Bool × List (List Atom) :=
  fillList fun token => parseMembers fields token (newMembers fields)

end TableSchema.CppReading
