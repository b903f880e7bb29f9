/-!
# Splitting texts

Texts that hold several parts set off by one character. A text without the character is one part,
and the empty text is one empty part.
-/

namespace TableSchema

def splitText (separator : Char) (s : String) : List String :=
  (s.toList.splitOn separator).map String.ofList

example : splitText '|' "a||b" = ["a", "", "b"] := by decide

end TableSchema
