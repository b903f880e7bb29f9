import TableSchema.Proofs.Schema.Analyzed
import TableSchema.Proofs.Schema.Verified

/-!
# Accepted documents

Whatever schema is read from an element is well-formed, so that no verification can find a fault in
it, and its look-ups are up to date.
-/

namespace TableSchema

open Markup (Element)

namespace Catalog.ReadFrom

variable {α : Type} [Named α] {entryReadFrom : Element → α → Prop} {elements : List Element}
  {catalog : Catalog α}

theorem exists_element (hread : catalog.ReadFrom entryReadFrom elements) {entry : α}
    (hmem : entry ∈ catalog.toList) : ∃ element, entryReadFrom element entry := by
  have hentries := hread.entries
  clear hread
  generalize catalog.toList = entries at hmem hentries
  induction hentries with
  | nil => simp at hmem
  | cons hfirst _ ih =>
      rcases List.mem_cons.1 hmem with rfl | hrest
      · exact ⟨_, hfirst⟩
      · exact ih hrest

theorem properNames (hread : catalog.ReadFrom entryReadFrom elements)
    (hidentifier : ∀ element entry, entryReadFrom element entry → Identifier (Named.name entry)) :
    ProperNames catalog.names where
  distinct := hread.distinct
  identifiers := by
    rw [Catalog.forall_names]
    intro entry hmem
    obtain ⟨element, hentry⟩ := hread.exists_element hmem
    exact hidentifier element entry hentry

/-- A catalog is rebuilt as it was if each of its entries is. -/
theorem ofList_map (hread : catalog.ReadFrom entryReadFrom elements) {rebuild : α → α}
    (hsame : ∀ element entry, entryReadFrom element entry → rebuild entry = entry) :
    .ofList (catalog.toList.map rebuild) = catalog := by
  refine hread.indexed.ofList_map fun entry hmem => ?_
  obtain ⟨element, hentry⟩ := hread.exists_element hmem
  exact hsame element entry hentry

end Catalog.ReadFrom

/-! ## Entries -/

theorem Struct.ReadFrom.fieldNames {owner : Option String} {element : Element} {struct : Struct}
    (hread : struct.ReadFrom owner element) : ProperNames struct.fields.names :=
  hread.fields.properNames fun _ _ hfield => hfield.identifier

theorem Struct.ReadFrom.rebuild {owner : Option String} {element : Element} {struct : Struct}
    (hread : struct.ReadFrom owner element) : struct.rebuild = struct := by
  rw [Struct.rebuild, hread.fields.indexed]

theorem ReaderSet.ReadFrom.declared {schema : Schema} {element : Element} {readers : ReaderSet}
    (hread : readers.ReadFrom schema element) : readers.Declared schema := by
  obtain ⟨names, -, rfl, hnames⟩ := hread
  intro name hmem
  exact (hnames name (ReaderSet.mem_ofList.1 hmem)).2

/-- A name that selects a struct leads to one. -/
theorem Schema.Selects.resolves {schema : Schema} {table : Table} {name : String} {ref : StructRef}
    (hselects : schema.Selects table name ref) : (schema.struct? table ref).isSome := by
  cases ref with
  | ofTable i =>
      obtain ⟨struct, hstruct, -⟩ := Catalog.names_getElem?_eq_some_iff.1 hselects
      exact Option.isSome_iff_exists.2 ⟨struct, hstruct⟩
  | ofSchema i =>
      obtain ⟨struct, hstruct, -⟩ := Catalog.names_getElem?_eq_some_iff.1 hselects.2
      exact Option.isSome_iff_exists.2 ⟨struct, hstruct⟩

/-- A name stands for a struct just if it comes with a reference, and never for a list. -/
theorem Schema.ValueTypeNamed.fitting {schema : Schema} {table : Table} {name : String}
    {type : ColumnType} {structRef : Option StructRef}
    (hnamed : schema.ValueTypeNamed table name type structRef) :
    type ≠ .list ∧ (structRef.isSome ↔ type = .struct) ∧
      ∀ ref, structRef = some ref → (schema.struct? table ref).isSome := by
  cases hnamed with
  | int => simp
  | string => simp
  | struct _ _ hselects =>
      refine ⟨by simp, by simp, fun ref heq => ?_⟩
      obtain rfl := Option.some.inj heq
      exact hselects.resolves

theorem Column.ReadFrom.wellFormed {schema : Schema} {table : Table} {element : Element}
    {column : Column} (hread : column.ReadFrom schema table element) :
    column.WellFormed schema table := by
  obtain ⟨typeName, -, htype⟩ := hread.type
  rcases htype with ⟨-, hlist, hnamed⟩ | ⟨inner, valueType, -, htype, hlist, hnamed⟩
  case inl =>
    obtain ⟨hsingle, hstruct, hresolves⟩ := hnamed.fitting
    refine ⟨hread.readers.declared, ?_, ?_, ?_, hresolves⟩
    · simp [hlist, hsingle]
    · simp [hlist]
    · rw [Column.valueType, hlist, Option.getD_none]
      exact hstruct
  case inr =>
    obtain ⟨hsingle, hstruct, hresolves⟩ := hnamed.fitting
    refine ⟨hread.readers.declared, ?_, ?_, ?_, hresolves⟩
    · simp [hlist, htype]
    · simpa [hlist] using hsingle
    · rw [Column.valueType, hlist, Option.getD_some]
      exact hstruct

namespace Table.ReadFrom

variable {schema : Schema} {element : Element} {table : Table}

theorem wellFormed (hread : table.ReadFrom schema element) : table.WellFormed schema where
  readers := hread.readers.declared
  localStructNames := hread.localStructs.properNames fun _ _ hstruct => hstruct.identifier
  localStructs := by
    intro struct hmem
    obtain ⟨child, hstruct⟩ := hread.localStructs.exists_element hmem
    exact ⟨hstruct.owner, hstruct.unreserved, hstruct.fieldNames⟩
  columnNames := hread.columns.properNames fun _ _ hcolumn => hcolumn.identifier
  columns := by
    intro column hmem
    obtain ⟨child, hcolumn⟩ := hread.columns.exists_element hmem
    exact hcolumn.wellFormed
  key := hread.keyColumn

theorem rebuild (hread : table.ReadFrom schema element) : table.rebuild = table := by
  have hstructs : .ofList (table.localStructs.toList.map Struct.rebuild) = table.localStructs :=
    hread.localStructs.ofList_map fun _ _ hstruct => hstruct.rebuild
  rw [Table.rebuild, hstructs, hread.columns.indexed]

end Table.ReadFrom

/-! ## Schemas -/

namespace Schema.ReadFrom

variable {root : Element} {schema : Schema}

theorem wellFormed (hread : schema.ReadFrom root) : schema.WellFormed where
  readerNames := hread.readers.properNames fun _ _ hreader => hreader.identifier
  namespaces := by
    intro reader hmem
    obtain ⟨element, hreader⟩ := hread.readers.exists_element hmem
    exact hreader.namespaceIdentifiers
  globalNames := by
    have hstructNames := hread.globalStructs.properNames fun _ _ hstruct => hstruct.identifier
    have htableNames := hread.tables.properNames fun _ _ htable => htable.identifier
    constructor
    · rw [List.nodup_append]
      refine ⟨hstructNames.distinct, htableNames.distinct, ?_⟩
      rintro name hstruct _ htable rfl
      obtain ⟨table, hmem, rfl⟩ := List.mem_map.1 htable
      obtain ⟨element, htable⟩ := hread.tables.exists_element hmem
      exact htable.apart hstruct
    · exact List.forall_mem_append.2 ⟨hstructNames.identifiers, htableNames.identifiers⟩
  globalStructs := by
    intro struct hmem
    obtain ⟨element, hstruct⟩ := hread.globalStructs.exists_element hmem
    exact ⟨hstruct.owner, hstruct.fieldNames⟩
  tables := by
    intro table hmem
    obtain ⟨element, htable⟩ := hread.tables.exists_element hmem
    exact htable.wellFormed

/-- Nothing is left to be put right in the look-ups of a schema that has been read. -/
theorem rebuild (hread : schema.ReadFrom root) : schema.rebuild = schema := by
  have hstructs : .ofList (schema.globalStructs.toList.map Struct.rebuild) = schema.globalStructs :=
    hread.globalStructs.ofList_map fun _ _ hstruct => hstruct.rebuild
  have htables : .ofList (schema.tables.toList.map Table.rebuild) = schema.tables :=
    hread.tables.ofList_map fun _ _ htable => htable.rebuild
  rw [Schema.rebuild, hread.readers.indexed, hstructs, htables]

end Schema.ReadFrom

end TableSchema
