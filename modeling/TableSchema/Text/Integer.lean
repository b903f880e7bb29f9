import TableSchema.Unicode.Property

/-!
# Leading integers

The 32-bit integer at the start of a text: blanks, an optional sign, and as many digits as there
are. What follows is not looked at, and a text without digits or with too large a number reads as
zero. `read` takes the digits first and tests the bounds afterwards; `accumulate` works digit by
digit in 64-bit arithmetic and stops at the bound. `decimal` writes an integer.
-/

namespace TableSchema.Integer

/-- Whether the text is negated, and what follows the sign. -/
def sign : List Char → Bool × List Char
  | '-' :: rest => (true, rest)
  | '+' :: rest => (false, rest)
  | rest => (false, rest)

def digit (c : Char) : Nat :=
  c.toNat - '0'.toNat

/-- The number written by a run of digits. -/
def value (digits : List Char) : Nat :=
  digits.foldl (fun n c => 10 * n + digit c) 0

/-- An integer as a 32-bit number, or zero if it is too large or too small. -/
def bounded (n : Int) : Int32 :=
  if -2147483648 ≤ n ∧ n ≤ 2147483647 then Int32.ofInt n else 0

/-- The integer at the start of a text, after any `White_Space`. -/
def read (text : List Char) : Int32 :=
  let (negative, rest) := sign (text.dropWhile Unicode.isWhiteSpace)
  let digits := rest.takeWhile Char.isDigit
  bounded (if negative then -(value digits : Int) else value digits)

/-- The six blanks of ASCII. -/
def isAsciiBlank (c : Char) : Bool :=
  c = ' ' || (9 ≤ c.toNat && c.toNat ≤ 13)

/-- The largest magnitude that a 32-bit number of the sign may have. -/
def magnitudeLimit (negative : Bool) : Int64 :=
  if negative then 2147483648 else 2147483647

/-- Adds the leading digits to `acc`, or gives up once the limit is passed. -/
def accumulate (limit acc : Int64) : List Char → Option Int64
  | [] => some acc
  | c :: rest =>
      if c.isDigit then
        let next := acc * 10 + Int64.ofNat (digit c)
        if limit < next then none else accumulate limit next rest
      else some acc

/-- The integer at the start of a text, after any ASCII blanks. -/
def readAscii (text : List Char) : Int32 :=
  let (negative, rest) := sign (text.dropWhile isAsciiBlank)
  match accumulate (magnitudeLimit negative) 0 rest with
  | none => 0
  | some n => (if negative then -n else n).toInt32

def decimal (n : Int32) : List Char :=
  (toString n.toInt).toList

example : read " -7x".toList = -7 := by decide

example : readAscii " -2147483648".toList = -2147483648 := by decide

end TableSchema.Integer
