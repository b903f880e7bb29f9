import TableSchema.Markup.Element
import TableSchema.Schema.Verify

/-!
# An example declaration

A fair whose goods have prices of their own kind, and an element tree that declares it. In the tree
the declarations stand out of order: structs follow the columns that use them, and tables come
before the readers to which they are open.
-/

namespace TableSchema.Example

open Markup (Element)

def fairGoods : Table where
  name := "Goods"
  line := 7
  fileName := "goods.txt"
  keyType := .set
  keyName := "stall"
  keyColumnIndex := 1
  readers := ∅
  localStructs := .ofList
    [⟨"Price", 8, some "Goods", .ofList [⟨"sum", 9, .int⟩]⟩, ⟨"Mark", 10, some "Goods", ∅⟩]
  columns := .ofList
    [⟨"prices", 11, .list, some .struct, some (.ofTable 0), .ofList ["server"]⟩,
     ⟨"stall", 12, .int, none, none, ∅⟩,
     ⟨"mark", 13, .struct, none, some (.ofTable 1), ∅⟩]

def fairStalls : Table where
  name := "Stalls"
  line := 14
  fileName := "stalls.txt"
  keyType := .single
  keyName := "name"
  keyColumnIndex := 0
  readers := .ofList ["client", "server"]
  localStructs := ∅
  columns := .ofList
    [⟨"name", 15, .string, none, none, ∅⟩,
     ⟨"fee", 16, .struct, none, some (.ofSchema 0), ∅⟩,
     ⟨"days", 17, .list, some .string, none, ∅⟩]

def fair : Schema where
  filePath := "fair.xml"
  readers := .ofList [⟨"client", 1, ["fair", "client"]⟩, ⟨"server", 2, []⟩]
  globalStructs := .ofList [⟨"Price", 3, none, .ofList [⟨"coin", 4, .string⟩, ⟨"count", 5, .int⟩]⟩]
  tables := .ofList [fairGoods, fairStalls]

/-- An element on some line, which does not matter. -/
def element (name : String) (attributes : List (String × String)) (children : List Element) :
    Element :=
  { name, line := 1, attributes, children }

def column (name type : String) (others : List (String × String)) : Element :=
  element "col" ([("name", name), ("type", type)] ++ others) []

def field (name type : String) : Element :=
  element "field" [("name", name), ("type", type)] []

def fairTree : Element :=
  element "define" []
    [element "table" [("name", "Goods"), ("setkey", "stall"), ("file", "goods.txt")]
      [column "prices" "list\x7bPrice\x7d" [("readby", "server")],
       element "struct" [("name", "Price")] [field "sum" "int"],
       column "stall" "int" [],
       element "struct" [("name", "Mark")] [],
       column "mark" "Mark" []],
     element "reader" [("name", "client"), ("namespace", "fair.client")] [],
     element "remark" [] [],
     element "struct" [("name", "Price")] [field "coin" "string", field "count" "int"],
     element "reader" [("name", "server")] [],
     element "table"
      [("file", "stalls.txt"), ("name", "Stalls"), ("key", "name"), ("readby", "server|client")]
      [column "name" "string" [], column "fee" "Price" [], column "days" "list\x7bstring\x7d" []]]

theorem verify_fair : fair.verify = .ok fair := rfl

end TableSchema.Example
