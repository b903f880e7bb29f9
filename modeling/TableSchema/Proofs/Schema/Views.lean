import TableSchema.Proofs.Schema.Catalogs
import TableSchema.Proofs.Table.Layouts
import TableSchema.Proofs.Table.Restriction
import TableSchema.Schema.View

/-!
# Tables in views

A table that is open to a reader is found in the reader's view of a well-formed schema, and its
layout there is the layout of the columns that are shown.
-/

namespace TableSchema

/-! ## Look-ups computed afresh -/

@[simp] theorem Struct.rebuild_rebuild (struct : Struct) :
    struct.rebuild.rebuild = struct.rebuild := by
  simp [Struct.rebuild, Catalog.rebuild]

@[simp] theorem Table.rebuild_rebuild (table : Table) : table.rebuild.rebuild = table.rebuild := by
  simp [Table.rebuild, Catalog.rebuild, Function.comp_def]

@[simp] theorem Schema.rebuild_rebuild (schema : Schema) :
    schema.rebuild.rebuild = schema.rebuild := by
  simp [Schema.rebuild, Catalog.rebuild, Function.comp_def]

/-! ## Tables in a view -/

/-- A table as it stands in the view of a schema. -/
def Table.inView (table : Table) (reader : String) : Table :=
  (table.view reader).rebuild

/-- The tables that are open to a reader, in their order. -/
def Schema.openTables (schema : Schema) (reader : String) : List Table :=
  schema.tables.toList.filter fun table => table.readableBy reader

theorem Table.inView_eq (table : Table) (reader : String) :
    table.inView reader =
      { table with
        keyColumnIndex := ((table.columns.toList.filter (table.shows reader)).findIdx?
          table.isKey).getD table.keyColumnIndex
        localStructs := .ofList (table.localStructs.toList.map Struct.rebuild)
        columns := .ofList (table.columns.toList.filter (table.shows reader)) } := by
  have hisKey (columns : Catalog Column) : { table with columns }.isKey = table.isKey := rfl
  simp [Table.inView, Table.view, Table.locateKey_eq, Table.rebuild, Table.keyPosition?, hisKey,
    Function.comp_def]

theorem Schema.view_eq (schema : Schema) (reader : String) :
    schema.view reader =
      { schema.rebuild with
        tables := .ofList ((schema.tables.toList.filter fun table => table.readableBy reader).map
          (Table.inView · reader)) } := by
  simp [view, rebuild, Table.inView, Function.comp_def]

section View

variable {schema : Schema} {table : Table} {reader : String}

@[simp] theorem Table.inView_name : (table.inView reader).name = table.name := by
  rw [inView_eq]

@[simp] theorem Table.inView_keyName : (table.inView reader).keyName = table.keyName := by
  rw [inView_eq]

@[simp] theorem Table.inView_keyType : (table.inView reader).keyType = table.keyType := by
  rw [inView_eq]

@[simp] theorem Table.inView_readers : (table.inView reader).readers = table.readers := by
  rw [inView_eq]

@[simp] theorem Table.toList_inView_columns :
    (table.inView reader).columns.toList = table.columns.toList.filter (table.shows reader) := by
  rw [inView_eq, Catalog.toList_ofList]

@[simp] theorem Table.toList_inView_localStructs :
    (table.inView reader).localStructs.toList = table.localStructs.toList.map Struct.rebuild := by
  rw [inView_eq, Catalog.toList_ofList]

@[simp] theorem Schema.toList_view_tables :
    (schema.view reader).tables.toList =
      (schema.tables.toList.filter fun table => table.readableBy reader).map
        (Table.inView · reader) := by
  rw [view_eq, Catalog.toList_ofList]

/-- The tables of a view keep their names. -/
theorem Schema.view_tableNames :
    (schema.view reader).tables.names =
      (schema.tables.toList.filter fun table => table.readableBy reader).map Table.name := by
  have hname : Named.name ∘ (Table.inView · reader) = Table.name :=
    funext fun table => table.inView_name
  rw [Catalog.names, toList_view_tables, List.map_map, hname]

theorem Schema.view_lookup (hwell : schema.WellFormed) (htable : table ∈ schema.tables.toList)
    (hreadable : table.readableBy reader) :
    (schema.view reader).tables.lookup table.name = .found (table.inView reader) := by
  have hmem : table.inView reader ∈ (schema.view reader).tables.toList := by
    rw [toList_view_tables]
    exact List.mem_map_of_mem (List.mem_filter.2 ⟨htable, hreadable⟩)
  have hdistinct : (schema.tables.toList.map Table.name).Nodup :=
    (List.nodup_append.1 hwell.globalNames.distinct).2.1
  -- Tables that are left out leave the names of the others distinct.
  have hnames : (schema.view reader).tables.names.Nodup := by
    rw [view_tableNames]
    exact hdistinct.sublist (List.filter_sublist.map _)
  have hfound := Catalog.lookup_ofList hnames hmem
  rw [toList_view_tables] at hfound
  rw [view_eq, ← table.inView_name]
  exact hfound

/-! ## Layouts -/

theorem filter_eq_restrict {α : Type} (p : α → Bool) (items : List α) :
    items.filter p = restrict (items.map p) items := by
  induction items with
  | nil => rfl
  | cons item rest ih =>
      rw [List.filter_cons, List.map_cons]
      cases p item with
      | true => simp [ih]
      | false => simp [ih]

theorem Schema.rebuild_struct? (ref : StructRef) :
    schema.rebuild.struct? table.rebuild ref = (schema.struct? table ref).map Struct.rebuild := by
  cases ref with
  | ofSchema i => simp [Schema.struct?, Schema.rebuild]
  | ofTable i => simp [Schema.struct?, Table.rebuild]

/-- A reference leads to the same struct as before, since views leave no struct out. -/
theorem Schema.view_struct? (ref : StructRef) :
    (schema.view reader).struct? (table.inView reader) ref =
      (schema.struct? table ref).map Struct.rebuild := by
  cases ref with
  | ofSchema i => simp [Schema.struct?, Schema.view, Schema.rebuild]
  | ofTable i => simp [Schema.struct?]

theorem Schema.view_columnStruct? (column : Column) :
    (schema.view reader).columnStruct? (table.inView reader) column =
      (schema.columnStruct? table column).map Struct.rebuild := by
  unfold Schema.columnStruct?
  cases column.structRef with
  | none => rfl
  | some ref => exact Schema.view_struct? ref

theorem Schema.view_columnLayout? (column : Column) :
    (schema.view reader).columnLayout? (table.inView reader) column =
      schema.columnLayout? table column := by
  have hshape (struct : Struct) : struct.rebuild.shape = struct.shape := by
    simp [Struct.shape, Struct.rebuild]
  have hstruct :
      ((schema.view reader).columnStruct? (table.inView reader) column).map Struct.shape =
        (schema.columnStruct? table column).map Struct.shape := by
    simp [Schema.view_columnStruct?, Function.comp_def, hshape]
  unfold Schema.columnLayout? Schema.datumShape?
  rw [hstruct]

/-- The marks of the columns that a reader is shown. -/
def Table.shown (table : Table) (reader : String) : List Bool :=
  table.columns.toList.map (table.shows reader)

theorem Table.inView_columns (table : Table) (reader : String) :
    (table.inView reader).columns.toList =
      restrict (table.shown reader) table.columns.toList := by
  rw [Table.shown, ← filter_eq_restrict, Table.toList_inView_columns]

theorem Table.WellFormed.shown_key (hwell : table.WellFormed schema) (reader : String) :
    (table.shown reader)[table.keyColumnIndex]? = some true := by
  obtain ⟨key, hkey, hname, -⟩ := hwell.key
  rw [Table.keyColumn?] at hkey
  rw [Table.shown, List.getElem?_map, hkey, Option.map_some]
  simp [Table.shows, Table.isKey, hname]

theorem Table.WellFormed.inView_key (hwell : table.WellFormed schema) (reader : String) :
    (table.inView reader).columns.toList[
      ((table.shown reader).take table.keyColumnIndex).count true]? = table.keyColumn? := by
  rw [Table.inView_columns, getElem?_restrict (hwell.shown_key reader), Table.keyColumn?]

/-- The key moves to the place that is left for it. -/
theorem Table.WellFormed.inView_keyColumnIndex (hwell : table.WellFormed schema)
    (reader : String) : (table.inView reader).keyColumnIndex =
      ((table.shown reader).take table.keyColumnIndex).count true := by
  obtain ⟨key, hkey, hname, -⟩ := hwell.key
  have hplace := hwell.inView_key reader
  have hdistinct : ((table.columns.toList.filter (table.shows reader)).map Column.name).Nodup :=
    hwell.columnNames.distinct.sublist (List.filter_sublist.map _)
  generalize ((table.shown reader).take table.keyColumnIndex).count true = place at hplace ⊢
  rw [hkey, Table.inView_columns, Table.shown, ← filter_eq_restrict] at hplace
  rw [Table.inView_eq]
  dsimp only
  generalize table.columns.toList.filter (table.shows reader) = columns at hplace hdistinct ⊢
  have hposition : columns.findIdx? table.isKey = some place := by
    refine (Catalog.findIdx?_name_eq_some_iff hdistinct).2 ?_
    rw [List.getElem?_map, hplace, Option.map_some]
    exact congrArg some hname
  rw [hposition]
  rfl

theorem Table.WellFormed.inView_keyColumn? (hwell : table.WellFormed schema) (reader : String) :
    (table.inView reader).keyColumn? = table.keyColumn? := by
  rw [Table.keyColumn?, hwell.inView_keyColumnIndex, hwell.inView_key]

theorem Schema.view_layout? (hwell : table.WellFormed schema) {layout : Layout}
    (hlayout : schema.layout? table = some layout) (reader : String) :
    (schema.view reader).layout? (table.inView reader) =
      some (layout.restrict (table.shown reader)) := by
  obtain ⟨hcolumns, ⟨key, hkey, htype⟩, hindex, hname, hkeyType⟩ := Schema.layout?_eq_some hlayout
  have hshown : (table.inView reader).columns.toList.mapM
      ((schema.view reader).columnLayout? (table.inView reader)) =
        some (restrict (table.shown reader) layout.columns) := by
    have hsame : (schema.view reader).columnLayout? (table.inView reader) =
        schema.columnLayout? table := funext fun column => Schema.view_columnLayout? column
    rw [Table.inView_columns, hsame, mapM_eq_some_iff]
    exact forall₂_restrict _ (mapM_eq_some_iff.1 hcolumns)
  rw [Schema.layout?, hshown, hwell.inView_keyColumn?, hkey]
  simp [htype, hwell.inView_keyColumnIndex, Layout.restrict, hindex, hname, hkeyType]

end View

end TableSchema
