import TableSchema.Example.Market
import TableSchema.Proofs.Schema.Verified
import TableSchema.Proofs.Schema.Views

/-!
# Views as projections

A view is the schema without what is closed to its reader, and nothing else is changed. So a view of
a view for the same reader is the view itself, and views for two readers may be taken in either
order: both times the columns are left that both readers are shown.
-/

namespace TableSchema

/-- A reader of the name is declared, and a look-up finds it. -/
def Schema.Declares (schema : Schema) (reader : String) : Prop :=
  ∃ declared, schema.readers.lookup reader = .found declared ∧ declared.name = reader

/-- A table beside what a reader is shown of it: the key column and the columns that are open to
the reader, in their order. All else stays, and the key's place moves with the key column. -/
structure Table.NarrowedTo (reader : String) (table narrowed : Table) : Prop where
  name : narrowed.name = table.name
  line : narrowed.line = table.line
  fileName : narrowed.fileName = table.fileName
  keyType : narrowed.keyType = table.keyType
  keyName : narrowed.keyName = table.keyName
  readers : narrowed.readers = table.readers
  localStructs : narrowed.localStructs = table.localStructs
  columns : narrowed.columns.toList =
    table.columns.toList.filter fun column => column.name = table.keyName ∨ column.readableBy reader
  key : ∃ column, table.keyColumn? = some column ∧ narrowed.keyColumn? = some column

/-- A schema beside its view: the readers and the structs of the schema are the same, the tables are
those that are open to the reader, narrowed and in their order, and whatever struct a column of
theirs refers to is the one to which it refers in the schema. -/
structure Schema.NarrowedTo (reader : String) (schema view : Schema) : Prop where
  filePath : view.filePath = schema.filePath
  readers : view.readers = schema.readers
  globalStructs : view.globalStructs = schema.globalStructs
  tables : List.Forall₂ (fun table narrowed => table.NarrowedTo reader narrowed ∧
      ∀ column ∈ narrowed.columns.toList, ∀ ref, column.structRef = some ref →
        ∃ struct, schema.struct? table ref = some struct ∧ view.struct? narrowed ref = some struct)
    (schema.tables.toList.filter fun table => table.readableBy reader) view.tables.toList
  /-- Each name is looked up at the place where it now stands. -/
  indexed : view.rebuild = view

/-! ## Tables -/

namespace Table

variable (table : Table) (reader other : String)

theorem inView_isKey : (table.inView reader).isKey = table.isKey := by
  rw [inView_eq]
  rfl

theorem inView_shows : (table.inView reader).shows other = table.shows other := by
  rw [inView_eq]
  rfl

theorem inView_readableBy : (table.inView reader).readableBy other = table.readableBy other := by
  rw [inView_eq]
  rfl

/-- A column that bears the name of the key is shown to everyone. -/
theorem findIdx?_shown_eq_none_iff {columns : List Column} :
    (columns.filter (table.shows reader)).findIdx? table.isKey = none ↔
      columns.findIdx? table.isKey = none := by
  simp only [List.findIdx?_eq_none_iff, List.mem_filter, shows]
  grind

/-- A view of a view holds the columns that both readers are shown. -/
theorem inView_inView :
    (table.inView reader).inView other =
      { table with
        keyColumnIndex := ((table.columns.toList.filter fun column =>
          table.shows reader column && table.shows other column).findIdx? table.isKey).getD
            table.keyColumnIndex
        localStructs := .ofList (table.localStructs.toList.map Struct.rebuild)
        columns := .ofList (table.columns.toList.filter fun column =>
          table.shows reader column && table.shows other column) } := by
  let shown := table.columns.toList.filter (table.shows reader)
  have hboth : shown.filter (table.shows other) = table.columns.toList.filter fun column =>
      table.shows reader column && table.shows other column := by
    rw [List.filter_filter]
    exact List.filter_congr fun column _ => Bool.and_comm ..
  -- The key's place stays as it was only if no column bears the name of the key.
  have hplace : ((shown.filter (table.shows other)).findIdx? table.isKey).getD
      ((shown.findIdx? table.isKey).getD table.keyColumnIndex) =
        ((shown.filter (table.shows other)).findIdx? table.isKey).getD table.keyColumnIndex := by
    cases hfound : (shown.filter (table.shows other)).findIdx? table.isKey with
    | none => rw [(table.findIdx?_shown_eq_none_iff other).1 hfound, Option.getD_none]
    | some i => rfl
  have hstructs : Struct.rebuild ∘ Struct.rebuild = Struct.rebuild :=
    funext Struct.rebuild_rebuild
  rw [inView_eq, inView_isKey, inView_shows, inView_eq]
  simp only [Catalog.toList_ofList, List.map_map, hstructs, ← hboth]
  rw [← hplace]

theorem inView_comm :
    (table.inView reader).inView other = (table.inView other).inView reader := by
  simp only [inView_inView, Bool.and_comm]

theorem inView_idem : (table.inView reader).inView reader = table.inView reader := by
  rw [inView_inView, inView_eq]
  simp only [Bool.and_self]

variable {table}

theorem WellFormed.narrowedTo {schema : Schema} (hwell : table.WellFormed schema) :
    table.rebuild.NarrowedTo reader (table.inView reader) := by
  obtain ⟨key, hkey, -⟩ := hwell.key
  have hplace := (hwell.inView_keyColumn? reader).trans hkey
  have hshows (column : Column) : table.shows reader column =
      decide (column.name = table.keyName ∨ column.readableBy reader) := by
    simp [shows, isKey]
  have hrebuilt : table.rebuild.keyColumn? = some key := by
    rw [← hkey]
    simp [keyColumn?, rebuild]
  rw [inView_eq] at hplace ⊢
  refine ⟨rfl, rfl, rfl, rfl, rfl, rfl, rfl, ?_, ⟨key, hrebuilt, hplace⟩⟩
  simp only [rebuild, Catalog.toList_ofList, Catalog.toList_rebuild]
  exact List.filter_congr fun column _ => hshows column

end Table

/-! ## Schemas -/

namespace Schema

variable (schema : Schema) (reader other : String)

theorem view_rebuild : (schema.view reader).rebuild = schema.view reader := by
  rw [view, rebuild_rebuild]

/-- A view of a view holds the tables that both readers may read. -/
theorem view_view :
    (schema.view reader).view other =
      { schema.rebuild with
        tables := .ofList ((schema.tables.toList.filter fun table =>
          table.readableBy reader && table.readableBy other).map fun table =>
            (table.inView reader).inView other) } := by
  have hreadable : (fun table : Table => table.readableBy other) ∘ (Table.inView · reader) =
      fun table => table.readableBy other :=
    funext fun table => table.inView_readableBy reader other
  have htables : ((schema.view reader).tables.toList.filter fun table =>
      table.readableBy other) = (schema.tables.toList.filter fun table =>
        table.readableBy reader && table.readableBy other).map (Table.inView · reader) := by
    rw [toList_view_tables, List.filter_map, hreadable, List.filter_filter]
    exact congrArg _ (List.filter_congr fun table _ => Bool.and_comm ..)
  rw [view_eq _ other, view_rebuild, htables, List.map_map, view_eq]
  rfl

theorem view_comm : (schema.view reader).view other = (schema.view other).view reader := by
  simp only [view_view, Bool.and_comm, Table.inView_comm _ reader other]

theorem view_idem : (schema.view reader).view reader = schema.view reader := by
  rw [view_view, view_eq]
  simp only [Bool.and_self, Table.inView_idem]

variable {schema}

theorem WellFormed.narrowedTo (hwell : schema.WellFormed) :
    schema.rebuild.NarrowedTo reader (schema.view reader) := by
  have hreadable : (fun table : Table => table.readableBy reader) ∘ Table.rebuild =
      fun table => table.readableBy reader := rfl
  have htables : (schema.rebuild.tables.toList.filter fun table => table.readableBy reader) =
      (schema.tables.toList.filter fun table => table.readableBy reader).map Table.rebuild := by
    rw [rebuild, Catalog.toList_ofList, List.filter_map, hreadable]
  refine ⟨by rw [view_eq], by rw [view_eq], by rw [view_eq], ?_, schema.view_rebuild reader⟩
  rw [htables, toList_view_tables, List.forall₂_map_left_iff, List.forall₂_map_right_iff,
    List.forall₂_same]
  intro table hmem
  have htable := hwell.tables table (List.mem_of_mem_filter hmem)
  refine ⟨htable.narrowedTo reader, fun column hshown ref href => ?_⟩
  have hcolumn : column ∈ table.columns.toList := by
    rw [Table.toList_inView_columns] at hshown
    exact List.mem_of_mem_filter hshown
  obtain ⟨struct, hstruct⟩ := Option.isSome_iff_exists.1
    ((htable.columns column hcolumn).resolves ref href)
  exact ⟨struct.rebuild, by rw [rebuild_struct?, hstruct, Option.map_some],
    by rw [view_struct?, hstruct, Option.map_some]⟩

theorem view_readers : (schema.view reader).readers = schema.readers.rebuild := by
  rw [view_eq]
  rfl

theorem indexed_readers_view : (schema.view reader).readers.Indexed := by
  rw [view_readers]
  exact Catalog.indexed_rebuild _

theorem viewFor_of_declares (hdeclared : schema.Declares reader) :
    schema.viewFor reader = .ok (schema.view reader) := by
  obtain ⟨declared, hfound, -⟩ := hdeclared
  rw [viewFor, hfound]

/-- In an indexed catalog every declared reader is found. -/
theorem declares_iff (hindexed : schema.readers.Indexed) :
    schema.Declares reader ↔ reader ∈ schema.readers.names := by
  constructor
  · rintro ⟨declared, hfound, rfl⟩
    exact List.mem_map_of_mem (hindexed.mem_of_lookup hfound).1
  · exact hindexed.exists_lookup

theorem Declares.view (hdeclared : schema.Declares reader) :
    (schema.view other).Declares reader := by
  obtain ⟨declared, hfound, hname⟩ := hdeclared
  obtain ⟨i, -, hentry⟩ := Catalog.lookup_eq_found_iff.1 hfound
  rw [declares_iff _ (schema.indexed_readers_view other), view_readers, Catalog.names,
    Catalog.toList_rebuild, ← hname]
  exact List.mem_map_of_mem (List.mem_of_getElem? hentry)

end Schema

/-- The view for a declared reader leaves out what is closed to the reader and changes nothing else,
`rebuild` being the schema with its look-ups computed afresh. Taking it again changes nothing, and
together with the view for another reader it may be taken first or last. -/
theorem viewFor_projects {schema : Schema} (hverified : schema.verify = .ok schema)
    {reader : String} (hdeclared : schema.Declares reader) :
    ∃ view, schema.viewFor reader = .ok view ∧ schema.rebuild.NarrowedTo reader view ∧
      view.viewFor reader = .ok view ∧
      ∀ other, schema.Declares other → ∃ otherView both, schema.viewFor other = .ok otherView ∧
        view.viewFor other = .ok both ∧ otherView.viewFor reader = .ok both := by
  refine ⟨schema.view reader, Schema.viewFor_of_declares reader hdeclared,
    (schema.verify_eq_ok_iff.1 hverified).narrowedTo reader, ?_, fun other hother => ?_⟩
  · have hagain := Schema.viewFor_of_declares reader (hdeclared.view reader reader)
    rwa [schema.view_idem] at hagain
  · refine ⟨schema.view other, (schema.view reader).view other,
      Schema.viewFor_of_declares other hother,
      Schema.viewFor_of_declares other (hother.view other reader), ?_⟩
    rw [schema.view_comm]
    exact Schema.viewFor_of_declares reader (hdeclared.view reader other)

open Example in
theorem viewFor_projects_market :
    market.verify = .ok market ∧ market.Declares "client" ∧ market.Declares "server" ∧
      ∃ view otherView both, market.viewFor "client" = .ok view ∧
        market.rebuild.NarrowedTo "client" view ∧ view.viewFor "client" = .ok view ∧
        market.viewFor "server" = .ok otherView ∧ view.viewFor "server" = .ok both ∧
        otherView.viewFor "client" = .ok both := by
  have hclient : market.Declares "client" := ⟨⟨"client", 1, ["market"]⟩, by decide, rfl⟩
  have hserver : market.Declares "server" := ⟨⟨"server", 2, ["market"]⟩, by decide, rfl⟩
  obtain ⟨view, hview, hprojects, hagain, hboth⟩ := viewFor_projects verify_market hclient
  obtain ⟨otherView, both, hother, hleft, hright⟩ := hboth "server" hserver
  exact ⟨verify_market, hclient, hserver, view, otherView, both, hview, hprojects, hagain, hother,
    hleft, hright⟩

end TableSchema
