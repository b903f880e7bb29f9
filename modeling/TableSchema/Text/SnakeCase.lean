import TableSchema.Unicode.Case

/-!
# Lower snake case

File and module names are made from entity names by putting an underscore between a small letter
or digit and the capital after it, and writing everything small.
-/

namespace TableSchema

/-- Whether a new word starts between two neighbouring characters. -/
def isWordBoundary (left right : Char) : Bool :=
  (left.isLower || left.isDigit) && right.isUpper

/-- The text with an underscore at the boundaries that are found in it. They are looked for from the
left, the next one behind the two characters of the last, so that no two share a character. -/
def markWords : List Char → List Char
  | [] => []
  | [c] => [c]
  | c :: d :: rest =>
      if isWordBoundary c d then c :: '_' :: d :: markWords rest else c :: markWords (d :: rest)

def snakeCase (name : String) : String :=
  Unicode.lower (String.ofList (markWords name.toList))

example : markWords "a1B2C".toList = "a1_B2_C".toList := by decide

end TableSchema
