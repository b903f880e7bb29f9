import TableSchema.Markup.Element
import TableSchema.Markup.Reference

/-!
# Documents

`readDocument` reads a document as XML with namespaces and gives its root element. It fails at the
first place where the document is not well formed; tags are checked as a whole when they end. A
document type declaration is refused, and text, comments and processing instructions are read and
dropped.
-/

namespace TableSchema.Markup

/-- A name with its namespace prefix, which may be empty. -/
structure QName where
  scope : String
  base : String
deriving DecidableEq, Repr

def xmlNamespace : String := "http://www.w3.org/XML/1998/namespace"

def xmlnsNamespace : String := "http://www.w3.org/2000/xmlns/"

/-- Splits the characters of a name at its colon. -/
def QName.ofChars? (cs : List Char) : Option QName :=
  let (scope, base) :=
    match cs.span (· ≠ ':') with
    | (scope, ':' :: base) => (scope, base)
    | (base, _) => ([], base)
  if base.contains ':' then none
  else if !(scope.head?.all isNameStart) then none
  else if !(base.head?.any isNameStart) then none
  else some ⟨String.ofList scope, String.ofList base⟩

def readQName : ReadM QName := do
  let row ← currentRow
  let some name := QName.ofChars? (← takeWhile isNamePart) | failAt row
  return name

/-- Reads a name without regard to colons. -/
def readName : ReadM Unit := do
  let row ← currentRow
  let name ← takeWhile isNamePart
  unless name.head?.any isNameStart do failAt row

def readEquals : ReadM Unit := do
  skipSpaces
  expectChar '='
  skipSpaces

/-- Passes the quote before a value. -/
def readQuote : ReadM Char := do
  let quote ← peek
  unless quote = '"' || quote = '\x27' do failHere
  skip 1
  return quote

/-- Reads a value up to the quote after it and gives its characters as they stand, with the row of
the first. -/
def readUpTo (quote : Char) : ReadM (Nat × List Char) := do
  let row ← currentRow
  let value ← takeBefore fun rest => rest.head?.any fun c => c = quote || c = '<'
  expectChar quote
  return (row, value)

/-- Reads the value of an attribute of a tag. One that neither a quote nor a tag ends counts as a
document that ends too early, whatever is in it. -/
def readValue : ReadM (Nat × List Char) := do
  let quote ← readQuote
  unless (← get).rest.any fun c => c = quote || c = '<' do failAt 1
  readUpTo quote

def occurs (text : String) : List Char → Bool
  | [] => text.isEmpty
  | c :: rest => text.toList.isPrefixOf (c :: rest) || occurs text rest

/-- Reads a comment, in which two hyphens stand only at the end. -/
def readComment : ReadM Unit := do
  let row ← currentRow
  skip 4
  let text ← takeBeforeText "-->"
  expectText "-->"
  if occurs "--" (text ++ ['-']) then failAt row

/-- Reads a processing instruction. An XML declaration is none. -/
def readInstruction : ReadM Unit := do
  if ← comes "<?xml " then failHere
  skip 2
  readName
  skipSpaces
  discard <| takeBeforeText "?>"
  expectText "?>"

def readCharacterData : ReadM Unit := do
  skip 9
  discard <| takeBeforeText "]]>"
  expectText "]]>"

/-- Reads the text before the next tag. -/
def readText : ReadM Unit := do
  let row ← currentRow
  let text ← takeBeforeText "<"
  if occurs "]]>" text then failHere
  discard <| resolve row none text

/-- Reads the spaces that set off the parts of the XML declaration. -/
def readDeclarationSpace : ReadM Unit := do
  if (← get).rest.head?.any isSpace then skipSpaces
  else unless (← comes "?>") || (← atEnd) do failHere

/-- Reads a part of the XML declaration, a name and a quoted value. -/
def readDeclarationPart : ReadM Unit := do
  discard readQName
  readEquals
  discard <| readUpTo (← readQuote)

def readDeclaration : ReadM Unit := do
  skip 5
  readDeclarationSpace
  unless ← comes "version" do failHere
  readDeclarationPart
  readDeclarationSpace
  if ← comes "encoding" then
    readDeclarationPart
    readDeclarationSpace
  if ← comes "standalone" then readDeclarationPart
  skipSpaces
  expectText "?>"

/-- The names of namespaces by prefix, the innermost declarations first. The default namespace has
no prefix. -/
abbrev Scope := List (Option String × String)

/-- An attribute that declares no namespace. -/
structure RawAttribute where
  name : QName
  value : String
  row : Nat

/-- What has been read of a tag: the namespaces it declares and its other attributes, each in the
order of the text. -/
structure TagParts where
  declared : Scope := []
  attributes : List RawAttribute := []

def TagParts.declares (parts : TagParts) (scope : String) : Bool :=
  parts.declared.any (·.1 = some scope)

/-- Takes up an attribute, or fails if it misuses the reserved namespaces or declares a prefix
again. -/
def TagParts.add (parts : TagParts) (raw : RawAttribute) : Except Fault TagParts :=
  let { name, value, row } := raw
  if name.scope = "xmlns" then
    if value = xmlnsNamespace then .error ⟨row⟩
    else if (name.base = "xml") ≠ (value = xmlNamespace) then .error ⟨row⟩
    else if parts.declares name.base then .error ⟨row⟩
    else if value = xmlNamespace then .ok parts
    else .ok { parts with declared := parts.declared ++ [(some name.base, value)] }
  else if name.base = "xmlns" then
    if value = xmlNamespace || value = xmlnsNamespace then .error ⟨row⟩
    else .ok { parts with declared := parts.declared ++ [(none, value)] }
  else .ok { parts with attributes := parts.attributes ++ [raw] }

/-- How a tag ends. -/
inductive TagEnd where
  /-- Content follows. -/
  | content
  /-- The element is empty. -/
  | empty

/-- Reads the attributes of a tag and its end. The fuel bounds the number of attributes. -/
def readTagParts : Nat → TagParts → ReadM (TagParts × TagEnd)
  | 0, _ => failHere
  | fuel + 1, parts => do
      let spaces ← takeWhile isSpace
      match ← peek with
      | '/' =>
          skip 1
          expectChar '>'
          return (parts, .empty)
      | '>' =>
          skip 1
          return (parts, .content)
      | _ =>
          if spaces.isEmpty then failHere
          let row ← currentRow
          let name ← readQName
          readEquals
          let (valueRow, value) ← readValue
          let value ← resolve valueRow none value
          readTagParts fuel (← parts.add ⟨name, String.ofList value, row⟩)

/-- The namespace of an attribute: none without a prefix. -/
def attributeNamespace (scope : Scope) (raw : RawAttribute) :
    Except Fault (Option String) :=
  if raw.name.scope = "" then .ok none
  else if raw.name.scope = "xml" then .ok (some xmlNamespace)
  else
    match scope.lookup (some raw.name.scope) with
    | some namespaceName => .ok (some namespaceName)
    | none => .error ⟨raw.row⟩

/-- Checks that every attribute has a declared prefix and a name of its own. -/
def checkAttributes (scope : Scope) (seen : List (Option String × String)) :
    List RawAttribute → Except Fault Unit
  | [] => .ok ()
  | raw :: rest => do
      let name := (← attributeNamespace scope raw, raw.name.base)
      if seen.contains name then throw ⟨raw.row⟩
      checkAttributes scope (name :: seen) rest

/-- An element whose closing tag has not been read. The children read so far stand in reverse. -/
structure OpenElement where
  name : QName
  line : Nat
  attributes : List (String × String)
  scope : Scope
  children : List Element

/-- Reads an opening tag inside the elements of a scope. -/
def readTag (fuel : Nat) (outer : Scope) : ReadM (OpenElement × TagEnd) := do
  let line ← currentRow
  skip 1
  let name ← readQName
  if name.scope = "xmlns" then failAt line
  let (parts, tagEnd) ← readTagParts fuel {}
  let scope := parts.declared ++ outer
  checkAttributes scope [] parts.attributes
  unless name.scope = "" || (scope.lookup (some name.scope)).isSome do failAt line
  let attributes := parts.attributes.map fun raw => (raw.name.base, raw.value)
  return ({ name, line, attributes, scope, children := [] }, tagEnd)

def OpenElement.close (element : OpenElement) : Element where
  name := element.name.base
  line := element.line
  attributes := element.attributes
  children := element.children.reverse

def OpenElement.push (element : OpenElement) (child : Element) : OpenElement :=
  { element with children := child :: element.children }

/-- Reads a closing tag and gives its row and name. -/
def readClosingTag : ReadM (Nat × QName) := do
  let row ← currentRow
  skip 2
  let name ← readQName
  skipSpaces
  expectChar '>'
  return (row, name)

/-- Reads up to the end of the outermost open element, given the innermost and those around it.
The fuel bounds the number of tags, texts and other items. -/
def readContent : Nat → OpenElement → List OpenElement → ReadM Element
  | 0, _, _ => failHere
  | fuel + 1, inner, outer => do
      match (← get).rest with
      | [] => failAt 1
      | ['<'] => failHere
      | '<' :: '!' :: _ =>
          if ← comes "<!--" then readComment
          else if ← comes "<![CDATA[" then readCharacterData
          else failHere
          readContent fuel inner outer
      | '<' :: '?' :: _ =>
          readInstruction
          readContent fuel inner outer
      | '<' :: '/' :: _ =>
          let (row, name) ← readClosingTag
          unless name = inner.name do failAt row
          match outer with
          | [] => return inner.close
          | parent :: outer => readContent fuel (parent.push inner.close) outer
      | '<' :: _ =>
          match ← readTag fuel inner.scope with
          | (element, .empty) => readContent fuel (inner.push element.close) outer
          | (element, .content) => readContent fuel element (inner :: outer)
      | _ =>
          readText
          readContent fuel inner outer

/-- Reads comments, processing instructions and spaces outside the root element. -/
def readMisc : Nat → ReadM Unit
  | 0 => failHere
  | fuel + 1 => do
      skipSpaces
      if ← comes "<!--" then
        readComment
        readMisc fuel
      else if ← comes "<?" then
        readInstruction
        readMisc fuel

/-- Reads a whole document. No item is empty, so its length bounds their number. -/
def readRoot (fuel : Nat) : ReadM Element := do
  if ← comes "\uFEFF" then skip 1
  if ← comes "<?xml " then readDeclaration
  readMisc fuel
  if ← comes "<!DOCTYPE" then failAt 1
  let root? ←
    if ← comes "<" then
      match ← readTag fuel [] with
      | (element, .empty) => pure (some element.close)
      | (element, .content) => some <$> readContent fuel element []
    else pure none
  readMisc fuel
  unless ← atEnd do failHere
  match root? with
  | some root => return root
  | none => failAt 1

def readDocument (text : String) : Except Fault Element :=
  let cs := text.toList
  (readRoot (cs.length + 1)).run' ⟨1, cs⟩

end TableSchema.Markup
