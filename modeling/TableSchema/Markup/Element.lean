/-!
# Element trees

What is kept of an XML document: its elements, with the lines on which they start.
-/

namespace TableSchema.Markup

/-- An element without its text. -/
structure Element where
  /-- The name after the namespace prefix. -/
  name : String
  /-- The line of the opening tag, counted from one. -/
  line : Nat
  /-- The attributes in the order of the text, by their names after the namespace prefix. -/
  attributes : List (String × String)
  children : List Element
deriving Repr, Inhabited

/-- The value of the first attribute of a name. There may be more, under different prefixes. -/
def Element.attribute? (element : Element) (name : String) : Option String :=
  element.attributes.lookup name

def Element.childrenNamed (element : Element) (name : String) : List Element :=
  element.children.filter (·.name = name)

end TableSchema.Markup
