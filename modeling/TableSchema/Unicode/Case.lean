import TableSchema.Unicode.CaseMap
import TableSchema.Unicode.Property

/-!
# Case of texts

The lowercase and uppercase forms of a text. Every character is mapped by itself, save a capital
sigma, whose lowercase form depends on whether it ends a word.
-/

namespace TableSchema.Unicode

/-- Whether a letter is the next thing in `cs`, characters that do not count left aside. -/
def startsCased (cs : List Char) : Bool :=
  match cs.dropWhile isCaseIgnorable with
  | [] => false
  | c :: _ => isCased c

/-- The lowercase form of `Σ` after the characters `before`, nearest first, and before `after`. -/
def lowerSigma (before after : List Char) : Char :=
  if startsCased before && !startsCased after then 'ς' else 'σ'

/-- The lowercase form of the characters that follow `before`, nearest first. -/
def lowerFrom (before : List Char) : List Char → List Char
  | [] => []
  | c :: rest =>
      (if c = 'Σ' then [lowerSigma before rest] else lowerChar c) ++ lowerFrom (c :: before) rest

def lowerChars (cs : List Char) : List Char :=
  lowerFrom [] cs

def lower (s : String) : String :=
  String.ofList (lowerChars s.toList)

def upper (s : String) : String :=
  String.ofList (s.toList.flatMap upperChar)

end TableSchema.Unicode
