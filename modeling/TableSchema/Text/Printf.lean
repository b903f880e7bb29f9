import TableSchema.Text.Integer
import TableSchema.Text.Utf8

/-!
# Formatted messages

A message is made from a format, in which directives stand for values, and is written into a buffer
of fixed size with a NUL byte behind it. How many bytes the whole message has is counted in 32 bits,
and a message with more bytes than that is not written.
-/

namespace TableSchema.Printf

/-- A value for a directive. -/
inductive Argument where
  /-- For `%zd`. -/
  | size (n : Nat)
  /-- For `%d`. -/
  | integer (n : Int32)
  /-- For `%s`, which shows the bytes before the first NUL byte. -/
  | text (bytes : List UInt8)

/-- What is shown of bytes that end at a NUL byte. -/
def beforeNul (bytes : List UInt8) : List UInt8 :=
  bytes.takeWhile (· ≠ 0)

/-- The bytes of a message. Every directive takes the next value. -/
def expand : List Char → List Argument → List UInt8
  | [], _ => []
  | '%' :: 'z' :: 'd' :: format, .size n :: arguments =>
      Bytes.encode (toString n).toList ++ expand format arguments
  | '%' :: 'd' :: format, .integer n :: arguments =>
      Bytes.encode (Integer.decimal n) ++ expand format arguments
  | '%' :: 's' :: format, .text bytes :: arguments => beforeNul bytes ++ expand format arguments
  | c :: format, arguments => String.utf8EncodeChar c ++ expand format arguments

/-- The most bytes that can be counted. -/
def countLimit : Nat :=
  2147483647

/-- Writes as much of a message into a buffer as fits it together with a NUL byte, and counts the
bytes of the whole message. The count is negative if there are too many. -/
def writeInto (bufferSize : Nat) (format : String) (arguments : List Argument) :
    Int × List UInt8 :=
  let message := expand format.toList arguments
  let count : Int := if message.length ≤ countLimit then message.length else -1
  (count, message.take (bufferSize - 1) ++ [0])

/-- The message as it is found in a buffer, or nothing if it could not be written there. -/
def error (format : String) (arguments : List Argument) : List UInt8 :=
  let (count, buffer) := writeInto 1024 format arguments
  if count < 0 then [] else beforeNul buffer

example : error "key `%s` in line %zd" [.text (Bytes.encode "a\x00b".toList), .size 3] =
    Bytes.encode "key `a` in line 3".toList := by decide +kernel

end TableSchema.Printf
