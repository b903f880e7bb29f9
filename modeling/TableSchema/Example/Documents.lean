import TableSchema.Markup.Document
import TableSchema.Schema.Analysis
import TableSchema.Schema.View
import TableSchema.Table.Layout

/-!
# Example documents

Three define documents. `game` declares the tables of a small game, `kinds` a table with every kind
of column and tables that show the kinds of keys, and `sketch` not more than a table with a column
of structs.
-/

namespace TableSchema.Example

/-- The tables of a small game. -/
def game : String :=
"<?xml version='1.0' encoding='utf-8'?>
<define>
  <reader name='client' namespace='demo.client'/>
  <reader name='server' namespace='demo.server'/>

  <struct name='Pos'>
    <field name='x' type='int'/>
    <field name='y' type='int'/>
  </struct>

  <table name='Item' file='item.txt' key='id'>
    <struct name='Cost'>
      <field name='item' type='int'/>
      <field name='count' type='int'/>
    </struct>
    <col name='id' type='int'/>
    <col name='name' type='string'/>
    <col name='type' type='int'/>
    <col name='spawn' type='Pos'/>
    <col name='costs' type='list\x7bCost\x7d'/>
    <col name='tags' type='list\x7bstring\x7d'/>
    <col name='drop_rate' type='int' readby='server'/>
  </table>

  <table name='Npc' file='npc.txt' key='name'>
    <col name='name' type='string'/>
    <col name='pos' type='Pos'/>
    <col name='script' type='string' readby='server'/>
  </table>

  <table name='ShopGoods' file='shop_goods.txt' setkey='shop'>
    <col name='shop' type='int'/>
    <col name='goods' type='string'/>
    <col name='prices' type='list\x7bint\x7d'/>
  </table>

  <struct name='Row'>
    <field name='slot' type='int'/>
    <field name='type' type='int'/>
  </struct>

  <table name='Type' file='type.txt' key='id'>
    <col name='id' type='int'/>
    <col name='yield' type='int'/>
    <col name='final' type='string'/>
    <col name='first' type='Row'/>
    <col name='layout' type='list\x7bRow\x7d'/>
  </table>

  <table name='GmCommand' file='gm_command.txt' key='name' readby='server'>
    <col name='name' type='string'/>
    <col name='level' type='int'/>
  </table>
</define>
"

/-- Every kind of column and key. -/
def kinds : String :=
"<define>
  <reader name='client'/>

  <struct name='Pair'><field name='a' type='int'/><field name='b' type='string'/></struct>
  <struct name='Empty'/>
  <struct name='Single'><field name='v' type='int'/></struct>
  <struct name='Trio'>
    <field name='s' type='string'/>
    <field name='i' type='int'/>
    <field name='t' type='string'/>
  </struct>

  <table name='Kinds' file='kinds.txt' key='code'>
    <col name='n' type='int'/>
    <col name='note' type='string'/>
    <col name='code' type='string'/>
    <col name='ints' type='list\x7bint\x7d'/>
    <col name='names' type='list\x7bstring\x7d'/>
    <col name='pair' type='Pair'/>
    <col name='pairs' type='list\x7bPair\x7d'/>
    <col name='mark' type='Empty'/>
    <col name='marks' type='list\x7bEmpty\x7d'/>
    <col name='trio' type='Trio'/>
    <col name='trios' type='list\x7bTrio\x7d'/>
  </table>

  <table name='Groups' file='groups.txt' setkey='kind'>
    <struct name='Pair'><field name='z' type='string'/></struct>
    <col name='v' type='int'/>
    <col name='kind' type='string'/>
    <col name='p' type='Pair'/>
  </table>

  <table name='Nums' file='nums.txt' setkey='id'>
    <col name='vs' type='list\x7bSingle\x7d'/>
    <col name='id' type='int'/>
  </table>

  <table name='Solo' file='solo.txt' key='id'>
    <col name='id' type='int'/>
  </table>
</define>
"

/-- A table with a column of structs. -/
def sketch : String :=
"<define><reader name='r'/><struct name='P'/>
<table name='T' file='t' key='k'><col name='k' type='int'/>
<col name='p' type='P' readby='r'/></table></define>"

def client : String := "client"

def clientView? (text : String) : Option Schema := do
  let schema ← (Schema.ofDocument Markup.readDocument "" text).toOption
  (schema.viewFor client).toOption

/-- What the client may see of the example documents. -/
def schemas : List Schema :=
  [game, kinds].filterMap clientView?

def layout? (name : String) : Option Layout :=
  schemas.findSome? fun schema =>
    (schema.tables.lookup name).toOption.bind schema.layout?

def structShape? (name : String) : Option DatumShape :=
  schemas.findSome? fun schema => (schema.globalStructs.lookup name).toOption.map Struct.shape

def localStructShape? (table name : String) : Option DatumShape :=
  schemas.findSome? fun schema => do
    let table ← (schema.tables.lookup table).toOption
    let struct ← (table.localStructs.lookup name).toOption
    return struct.shape

end TableSchema.Example
