import TableSchema.Text.Quoted

/-!
# JSON texts

JSON values and their text with one member or item a line, each level two blanks further in. The
members of an object keep their order.
-/

namespace TableSchema

/-- A JSON value. Numbers are natural numbers. -/
inductive Json where
  | null
  | number (n : Nat)
  | text (s : String)
  | list (items : List Json)
  | object (members : List (String × Json))

namespace Json

/-- A line end and the blanks before what stands at a level. -/
def newLine (level : Nat) : String :=
  "\n" ++ String.ofList (List.replicate (2 * level) ' ')

/-- Items between brackets, each on a line of its own one level further in. -/
def bracketed (level : Nat) (opening closing : String) (items : List String) : String :=
  if items.isEmpty then opening ++ closing
  else
    opening ++ ",".intercalate (items.map (newLine (level + 1) ++ ·)) ++ newLine level ++ closing

mutual

def prettyAt (level : Nat) : Json → String
  | null => "null"
  | number n => toString n
  | text s => Quoted.json s
  | list items => bracketed level "[" "]" (prettyItems (level + 1) items)
  | object members => bracketed level "\x7b" "\x7d" (prettyMembers (level + 1) members)

def prettyItems (level : Nat) : List Json → List String
  | [] => []
  | item :: rest => prettyAt level item :: prettyItems level rest

def prettyMembers (level : Nat) : List (String × Json) → List String
  | [] => []
  | (name, value) :: rest =>
      (Quoted.json name ++ ": " ++ prettyAt level value) :: prettyMembers level rest

end

def pretty (value : Json) : String :=
  value.prettyAt 0

end Json

end TableSchema
