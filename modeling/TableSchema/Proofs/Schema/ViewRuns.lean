import TableSchema.Proofs.Schema.Filtering

/-!
# Runs of views

Views of well-formed schemas are well-formed, and they declare the same readers. So views for
declared readers may be taken one after the other without end, and none of them fails.
-/

namespace TableSchema

variable {schema : Schema}

/-! ## One view -/

theorem Struct.rebuild_fieldNames (struct : Struct) :
    struct.rebuild.fields.names = struct.fields.names := by
  simp [Struct.rebuild, Catalog.names]

theorem ProperNames.sublist {names others : List String} (hproper : ProperNames names)
    (hsublist : others.Sublist names) : ProperNames others where
  distinct := hproper.distinct.sublist hsublist
  identifiers := fun name hmem => hproper.identifiers name (hsublist.subset hmem)

theorem Schema.view_readerNames (schema : Schema) (reader : String) :
    (schema.view reader).readers.names = schema.readers.names := by
  rw [view_readers, Catalog.names, Catalog.toList_rebuild, Catalog.names]

theorem ReaderSet.Declared.view {readers : ReaderSet} (hdeclared : readers.Declared schema)
    (reader : String) : readers.Declared (schema.view reader) := by
  intro name hmem
  rw [schema.view_readerNames]
  exact hdeclared name hmem

theorem Column.WellFormed.inView {table : Table} {column : Column}
    (hwell : column.WellFormed schema table) (reader : String) :
    column.WellFormed (schema.view reader) (table.inView reader) where
  readers := hwell.readers.view reader
  hasListType := hwell.hasListType
  noNestedList := hwell.noNestedList
  hasStruct := hwell.hasStruct
  resolves := by
    intro ref href
    rw [Schema.view_struct?, Option.isSome_map]
    exact hwell.resolves ref href

theorem Table.WellFormed.inView {table : Table} (hwell : table.WellFormed schema)
    (reader : String) : (table.inView reader).WellFormed (schema.view reader) := by
  have hstructNames : (table.inView reader).localStructs.names = table.localStructs.names := by
    rw [Catalog.names, Table.toList_inView_localStructs, List.map_map]
    rfl
  have hcolumnNames : (table.inView reader).columns.names.Sublist table.columns.names := by
    rw [Catalog.names, Table.toList_inView_columns]
    exact List.filter_sublist.map _
  constructor
  case readers => exact table.inView_readers ▸ hwell.readers.view reader
  case localStructNames => exact hstructNames ▸ hwell.localStructNames
  case localStructs =>
    intro struct hmem
    rw [Table.toList_inView_localStructs] at hmem
    obtain ⟨original, horiginal, rfl⟩ := List.mem_map.1 hmem
    obtain ⟨howned, hunreserved, hfields⟩ := hwell.localStructs original horiginal
    exact ⟨table.inView_name ▸ howned, hunreserved, original.rebuild_fieldNames ▸ hfields⟩
  case columnNames => exact hwell.columnNames.sublist hcolumnNames
  case columns =>
    intro column hmem
    rw [Table.toList_inView_columns] at hmem
    exact (hwell.columns column (List.mem_of_mem_filter hmem)).inView reader
  case key =>
    rw [hwell.inView_keyColumn?, Table.inView_keyName]
    exact hwell.key

theorem Schema.WellFormed.view (hwell : schema.WellFormed) (reader : String) :
    (schema.view reader).WellFormed := by
  have hreaders : (schema.view reader).readers.toList = schema.readers.toList := by
    rw [view_readers, Catalog.toList_rebuild]
  have hstructs : (schema.view reader).globalStructs.toList =
      schema.globalStructs.toList.map Struct.rebuild := by
    simp [view_eq, Schema.rebuild]
  have hstructNames : (schema.view reader).globalStructs.names = schema.globalStructs.names := by
    rw [Catalog.names, hstructs, List.map_map]
    rfl
  have htableNames : (schema.view reader).tables.names.Sublist schema.tables.names := by
    rw [view_tableNames]
    exact List.filter_sublist.map _
  constructor
  case readerNames => exact schema.view_readerNames reader ▸ hwell.readerNames
  case namespaces => exact hreaders ▸ hwell.namespaces
  case globalNames => exact hwell.globalNames.sublist (hstructNames ▸ htableNames.append_left _)
  case globalStructs =>
    intro struct hmem
    rw [hstructs] at hmem
    obtain ⟨original, horiginal, rfl⟩ := List.mem_map.1 hmem
    obtain ⟨hunowned, hfields⟩ := hwell.globalStructs original horiginal
    exact ⟨hunowned, original.rebuild_fieldNames ▸ hfields⟩
  case tables =>
    intro table hmem
    rw [toList_view_tables] at hmem
    obtain ⟨original, horiginal, rfl⟩ := List.mem_map.1 hmem
    exact (hwell.tables original (List.mem_of_mem_filter horiginal)).inView reader

/-! ## Runs -/

/-- What a view for a declared reader starts from and what it leaves: a well-formed schema in which
the readers, whose names stay the same, can be looked up. -/
structure Schema.Viewable (names : List String) (schema : Schema) : Prop where
  wellFormed : schema.WellFormed
  indexed : schema.readers.Indexed
  readerNames : schema.readers.names = names

theorem Schema.Viewable.viewFor {names : List String} (hviewable : schema.Viewable names)
    {reader : String} (hmem : reader ∈ names) :
    schema.viewFor reader = .ok (schema.view reader) ∧ (schema.view reader).Viewable names := by
  refine ⟨viewFor_of_declares reader ?_, hviewable.wellFormed.view reader,
    schema.indexed_readers_view reader, ?_⟩
  · rw [declares_iff reader hviewable.indexed, hviewable.readerNames]
    exact hmem
  · rw [view_readerNames, hviewable.readerNames]

/-- Views for declared readers follow one another without a failure. -/
theorem Schema.Viewable.foldlM_viewFor {names readers : List String}
    (hviewable : schema.Viewable names) (hreaders : ∀ reader ∈ readers, reader ∈ names) :
    ∃ view : Schema, readers.foldlM Schema.viewFor schema = .ok view ∧ view.Viewable names := by
  induction readers generalizing schema with
  | nil => exact ⟨schema, rfl, hviewable⟩
  | cons reader rest ih =>
      rw [List.forall_mem_cons] at hreaders
      obtain ⟨hview, hkept⟩ := hviewable.viewFor hreaders.1
      obtain ⟨last, hrest, hlast⟩ := ih hkept hreaders.2
      refine ⟨last, ?_, hlast⟩
      rw [List.foldlM_cons, hview]
      exact hrest

end TableSchema
