import TableSchema.Schema.Verify
import TableSchema.Table.Writing

/-!
# An example schema

A market with a table of the days on which its stalls are open and a table of the goods that are
sold at each of them. The notes of the latter are for the server only.
-/

namespace TableSchema.Example

def stalls : Table where
  name := "Stalls"
  line := 11
  fileName := "stalls.txt"
  keyType := .single
  keyName := "name"
  keyColumnIndex := 0
  readers := ∅
  localStructs := ∅
  columns := .ofList
    [⟨"name", 12, .string, none, none, ∅⟩,
     ⟨"days", 13, .list, some .string, none, ∅⟩]

def goods : Table where
  name := "Goods"
  line := 6
  fileName := "goods.txt"
  keyType := .set
  keyName := "stall"
  keyColumnIndex := 1
  readers := ∅
  localStructs := ∅
  columns := .ofList
    [⟨"note", 7, .string, none, none, .ofList ["server"]⟩,
     ⟨"stall", 8, .int, none, none, ∅⟩,
     ⟨"ware", 9, .string, none, none, ∅⟩,
     ⟨"prices", 10, .list, some .struct, some (.ofSchema 0), ∅⟩]

def market : Schema where
  filePath := "market.xml"
  readers := .ofList [⟨"client", 1, ["market"]⟩, ⟨"server", 2, ["market"]⟩]
  globalStructs := .ofList [⟨"Price", 3, none, .ofList [⟨"coin", 4, .string⟩, ⟨"count", 5, .int⟩]⟩]
  tables := .ofList [goods, stalls]

def goodsText : String :=
  "Note\tStall\tWare\tPrices\r\n" ++
  "note\tstall\tware\tprices\r\n" ++
  "fresh\t3\tfish\tgold;2|silver;5\r\n" ++
  "\t\tbread\tcopper;4\r\n" ++
  "\t7\t\"a \"\"fine\"\" pot\"\t\r\n"

def goodsLayout : Layout where
  columns :=
    [⟨"note", .atom .string, false⟩, ⟨"stall", .atom .int, false⟩, ⟨"ware", .atom .string, false⟩,
     ⟨"prices", .record [("coin", .string), ("count", .int)], true⟩]
  keyIndex := 1
  keyName := "stall"
  keyAtom := .int
  keyType := .set

def stallsLayout : Layout where
  columns := [⟨"name", .atom .string, false⟩, ⟨"days", .atom .string, true⟩]
  keyIndex := 0
  keyName := "name"
  keyAtom := .string
  keyType := .single

/-- The goods of two other stalls. -/
def wares : Collection :=
  .groups
    [(.int 3,
      [[.one (.atom (.text "fresh")), .one (.atom (.int 3)), .one (.atom (.text "fi\rsh")),
        .many [.record [.text "gold", .int 2], .record [.text "", .int (-5)]]],
       [.one (.atom (.text "")), .one (.atom (.int 3)), .one (.atom (.text "a \"fine\" pot")),
        .many []]]),
     (.int (-7),
      [[.one (.atom (.text "\"\"")), .one (.atom (.int (-7))), .one (.atom (.text "bread\n")),
        .many [.record [.text "copper\r", .int 0]]]])]

/-- A stall that is never open. -/
def noDay : Collection :=
  .rows [(.text "red", [.one (.atom (.text "red")), .many []])]

/-- A stall that is open on one day, which has no name. -/
def namelessDay : Collection :=
  .rows [(.text "red", [.one (.atom (.text "red")), .many [.atom (.text "")]])]

theorem verify_market : market.verify = .ok market := rfl

theorem goods_mem_market : goods ∈ market.tables.toList := by decide

theorem layout?_goods : market.layout? goods = some goodsLayout := rfl

theorem layout?_stalls : market.layout? stalls = some stallsLayout := rfl

theorem stalls_mem_market : stalls ∈ market.tables.toList := by decide

end TableSchema.Example
