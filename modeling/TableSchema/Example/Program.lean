import TableSchema.Example.Documents
import TableSchema.Table.Reading
import TableSchema.Text.Quoted

/-!
# An example program

Reads the data of two tables of the example game and lists the items and what the shops sell.
-/

namespace TableSchema.Example

def itemData : String :=
  "ID\tName\tType\tSpawn\tCosts\tTags\r\n" ++
  "id\tname\ttype\tspawn\tcosts\ttags\r\n" ++
  "1\tsword\t2\t3;4\t100;2|101;1\tsharp|metal\r\n" ++
  "2\tshield\t3\t0;0\t\t\r\n"

def shopData : String :=
  "Shop\tGoods\tPrices\r\n" ++
  "shop\tgoods\tprices\r\n" ++
  "5\tsword\t120|100\r\n" ++
  "\tshield\t80\r\n" ++
  "7\tpotion\t5\r\n"

def literals (texts : List String) : String :=
  "[" ++ ", ".intercalate (texts.map Quoted.literal) ++ "]"

def datumText : Datum → String
  | .atom a => a.display
  | .record fields => ";".intercalate (fields.map Atom.display)

def itemLine : Row → String
  | [.one id, .one name, .one type, .one spawn, .many costs, .many tags] =>
      "item " ++ datumText id ++ " = " ++ datumText name ++ " (type " ++ datumText type ++
        ", spawn " ++ datumText spawn ++ ", " ++ toString costs.length ++ " costs, tags " ++
        literals (tags.map datumText) ++ ")\n"
  | _ => ""

def goodsName : Row → String
  | _ :: .one goods :: _ => datumText goods
  | _ => ""

def shopLine (shop : Atom) (rows : List Row) : String :=
  "shop " ++ shop.display ++ " sells " ++ literals (rows.map goodsName) ++ "\n"

def contentLines : Content → String
  | .rows entries => String.join (entries.toList.map fun (_, row) => itemLine row)
  | .rowSets entries => String.join (entries.toList.map fun (shop, rows) => shopLine shop rows)

def tableLines (table data : String) : Attempt TableFault String :=
  match layout? table with
  | none => .ok ""
  | some layout => return contentLines (← readTable Rules.rust layout data)

def output : Attempt TableFault String := do
  return (← tableLines "Item" itemData) ++ (← tableLines "ShopGoods" shopData)

end TableSchema.Example
