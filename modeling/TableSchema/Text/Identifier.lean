/-!
# Identifiers

The names that readers, structs, fields, tables and columns may bear: a letter or an underscore,
then letters, digits and underscores, all of them ASCII.
-/

namespace TableSchema

/-- Whether an identifier may start with the character. -/
def isIdentifierStart (c : Char) : Bool :=
  c.isAlpha || c = '_'

def isIdentifierPart (c : Char) : Bool :=
  c.isAlphanum || c = '_'

def isIdentifier (s : String) : Bool :=
  match s.toList with
  | [] => false
  | c :: rest => isIdentifierStart c && rest.all isIdentifierPart

/-- An identifier starts with a letter or an underscore and goes on with letters, digits and
underscores. -/
def Identifier (s : String) : Prop :=
  isIdentifier s = true

instance (s : String) : Decidable (Identifier s) :=
  inferInstanceAs (Decidable (isIdentifier s = true))

end TableSchema
