import TableSchema.Error
import TableSchema.Schema.Basic

/-!
# Views

What one reader may see of a schema. Readers and structs stay as they are; tables that are closed
to the reader are left out, and so are closed columns of the other tables, save the key column. The
structs of a table stay even if no column is left that uses them, so struct references keep their
meaning.
-/

namespace TableSchema

/-- Whether a column is in the view of a table. -/
def Table.shows (table : Table) (reader : String) (column : Column) : Bool :=
  table.isKey column || column.readableBy reader

/-- What the reader may see of a table that is open to it. -/
def Table.view (table : Table) (reader : String) : Table :=
  let shown := table.columns.toList.filter (table.shows reader)
  { table with columns := Catalog.ofList shown }.locateKey.rebuild

/-- What the reader may see of a schema. -/
def Schema.view (schema : Schema) (reader : String) : Schema :=
  let shown := schema.tables.toList.filter fun table => table.readableBy reader
  { schema with tables := Catalog.ofList (shown.map (Table.view · reader)) }.rebuild

/-- What a declared reader may see of a schema. -/
def Schema.viewFor (schema : Schema) (reader : String) : Except Failure Schema :=
  match schema.readers.lookup reader with
  | .absent => .error (.error (.unknownReader reader))
  | .stale => .error .outOfRange
  | .found _ => .ok (schema.view reader)

end TableSchema
