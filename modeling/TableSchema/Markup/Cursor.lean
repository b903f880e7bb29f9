import TableSchema.Markup.Character

/-!
# Reading with rows

A cursor is the unread part of a document and the row at which it starts. Readers move the cursor
on or fail at a row. A document that ends where one more character is needed fails at row one.
-/

namespace TableSchema.Markup

/-- The unread part of a document and its row. -/
structure Cursor where
  row : Nat
  rest : List Char
deriving Repr

/-- A document that is not well formed, and the row at which this shows. -/
structure Fault where
  row : Nat
deriving Repr, DecidableEq

/-- Readers of a part of a document. -/
abbrev ReadM := StateT Cursor (Except Fault)

def nextRow (row : Nat) (c : Char) : Nat :=
  if c = '\n' then row + 1 else row

/-- The cursor after some characters, or at the end of the document. -/
def Cursor.advance (cursor : Cursor) : Nat → Cursor
  | 0 => cursor
  | n + 1 =>
      match cursor.rest with
      | [] => cursor
      | c :: rest => Cursor.advance ⟨nextRow cursor.row c, rest⟩ n

def failAt {α : Type} (row : Nat) : ReadM α :=
  throw ⟨row⟩

def failHere {α : Type} : ReadM α := do
  failAt (← get).row

def currentRow : ReadM Nat :=
  return (← get).row

def atEnd : ReadM Bool :=
  return (← get).rest.isEmpty

/-- The next character, which is not passed. -/
def peek : ReadM Char := do
  match (← get).rest with
  | [] => failAt 1
  | c :: _ => return c

def skip (n : Nat) : ReadM Unit :=
  modify (·.advance n)

def comes (text : String) : ReadM Bool :=
  return text.toList.isPrefixOf (← get).rest

def expectText (text : String) : ReadM Unit := do
  if ← comes text then skip text.length else failHere

def expectChar (c : Char) : ReadM Unit := do
  if (← peek) = c then skip 1 else failHere

def takeWhile (p : Char → Bool) : ReadM (List Char) := do
  let run := (← get).rest.takeWhile p
  skip run.length
  return run

def skipSpaces : ReadM Unit := do
  discard <| takeWhile isSpace

/-- Splits the text before the place at which `stop` holds of what is left, or before its end. Every
character on the way must be allowed in a document, the one at the place included. -/
def splitBefore (stop : List Char → Bool) (row : Nat) :
    List Char → Except Fault (List Char × Cursor)
  | [] => .ok ([], ⟨row, []⟩)
  | c :: rest =>
      if !isAllowed c then .error ⟨row⟩
      else if stop (c :: rest) then .ok ([], ⟨row, c :: rest⟩)
      else do
        let (taken, cursor) ← splitBefore stop (nextRow row c) rest
        return (c :: taken, cursor)

/-- Passes the characters before the place at which `stop` holds of what is left. -/
def takeBefore (stop : List Char → Bool) : ReadM (List Char) := do
  let cursor ← get
  let (taken, cursor) ← splitBefore stop cursor.row cursor.rest
  set cursor
  return taken

/-- Passes the characters before a text, or all that is left. -/
def takeBeforeText (text : String) : ReadM (List Char) :=
  takeBefore text.toList.isPrefixOf

end TableSchema.Markup
