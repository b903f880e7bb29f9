import TableSchema.Markup.Cursor

/-!
# Character references

An ampersand starts a reference to a character, by its number or by one of five names. No further
names can be declared, as documents with a type declaration are refused.
-/

namespace TableSchema.Markup

def digitValue? (base : Nat) (c : Char) : Option Nat :=
  let value? :=
    if c.isDigit then some (c.toNat - '0'.toNat)
    else if 'a' ≤ c ∧ c ≤ 'f' then some (c.toNat - 'a'.toNat + 10)
    else if 'A' ≤ c ∧ c ≤ 'F' then some (c.toNat - 'A'.toNat + 10)
    else none
  value?.filter (· < base)

/-- The number written by digits, at least one of which is needed. -/
def numeral? (base : Nat) (digits : List Char) : Option Nat :=
  if digits.isEmpty then none
  else digits.foldlM (fun n c => (digitValue? base c).map (base * n + ·)) 0

/-- The character of a number below `2 ^ 32`; numbers of no character stand for U+FFFD. -/
def numberedChar? (n : Nat) : Option Char :=
  if n < 4294967296 then
    let c := if n.isValidChar then Char.ofNat n else '\uFFFD'
    if isAllowed c then some c else none
  else none

/-- The character that a reference stands for, given what is between `&` and `;`. -/
def referenced? : List Char → Option Char
  | '#' :: 'x' :: digits => (numeral? 16 digits).bind numberedChar?
  | '#' :: digits => (numeral? 10 digits).bind numberedChar?
  | name =>
      [("quot", '"'), ("amp", '&'), ("apos", '\x27'), ("lt", '<'), ("gt", '>')].lookup
        (String.ofList name)

/-- A reference whose end has not been reached: the row of its ampersand and what followed, the
last character first. -/
structure OpenReference where
  row : Nat
  body : List Char

/-- The value that a text stands for. Line breaks and tabs count as blanks, a carriage return and
line feed as one, unless they are written as references. A text that is not followed by a
semicolon after an ampersand, or refers to no character, fails at the row of the ampersand. -/
def resolve (row : Nat) : Option OpenReference → List Char → Except Fault (List Char)
  | none, [] => .ok []
  | some reference, [] => .error ⟨reference.row⟩
  | none, '&' :: rest => resolve row (some ⟨row, []⟩) rest
  | none, '\r' :: rest =>
      if rest.head? = some '\n' then resolve row none rest
      else do return ' ' :: (← resolve row none rest)
  | none, c :: rest => do
      return (if isSpace c then ' ' else c) :: (← resolve (nextRow row c) none rest)
  | some reference, ';' :: rest => do
      match referenced? reference.body.reverse with
      | none => .error ⟨reference.row⟩
      | some c => return c :: (← resolve row none rest)
  | some reference, c :: rest =>
      resolve (nextRow row c) (some ⟨reference.row, c :: reference.body⟩) rest

end TableSchema.Markup
