import TableSchema.Unicode.Property

/-!
# Quoted text

Two ways to write a text between double quotes: as a JSON string, and as a diagnostic literal, in
which everything that would not be seen is spelled out.
-/

namespace TableSchema.Quoted

/-- The hexadecimal digits of a number, without leading zeros. -/
def hex (n : Nat) : List Char :=
  Nat.toDigits 16 n

def jsonChar (c : Char) : List Char :=
  if c = '"' then ['\\', '"']
  else if c = '\\' then ['\\', '\\']
  else if c = '\x08' then ['\\', 'b']
  else if c = '\x0c' then ['\\', 'f']
  else if c = '\n' then ['\\', 'n']
  else if c = '\r' then ['\\', 'r']
  else if c = '\t' then ['\\', 't']
  else if c.toNat < 16 then ['\\', 'u', '0', '0', '0'] ++ hex c.toNat
  else if c.toNat < 32 then ['\\', 'u', '0', '0'] ++ hex c.toNat
  else [c]

def json (s : String) : String :=
  String.ofList ('"' :: s.toList.flatMap jsonChar ++ ['"'])

/-- A character by its code point, as in `\u{200b}`. -/
def codePoint (c : Char) : List Char :=
  ['\\', 'u', '\x7b'] ++ hex c.toNat ++ ['\x7d']

def literalChar (c : Char) : List Char :=
  if c = '\x00' then ['\\', '0']
  else if c = '\t' then ['\\', 't']
  else if c = '\r' then ['\\', 'r']
  else if c = '\n' then ['\\', 'n']
  else if c = '\\' || c = '"' then ['\\', c]
  else if Unicode.isAttached c || !Unicode.isPrintable c then codePoint c
  else [c]

def literal (s : String) : String :=
  String.ofList ('"' :: s.toList.flatMap literalChar ++ ['"'])

end TableSchema.Quoted
