import TableSchema.Proofs.Schema.Verified
import TableSchema.Table.Layout

/-!
# Layouts of verified tables

Every table of a verified schema has a layout. Its columns bear distinct identifiers, and its key
stands in a column of single atoms.
-/

namespace TableSchema

/-- The key of a layout stands in a column of its name that holds single atoms of its type, and the
names of the columns are proper. -/
structure Layout.Sound (layout : Layout) : Prop where
  names : ProperNames (layout.columns.map ColumnLayout.name)
  key : layout.columns[layout.keyIndex]? =
    some ⟨layout.keyName, .atom layout.keyAtom, false⟩

theorem Layout.Sound.keyIndex_lt {layout : Layout} (hsound : layout.Sound) :
    layout.keyIndex < layout.columns.length :=
  (List.getElem?_eq_some_iff.1 hsound.key).1

section MapM

variable {α β : Type} {f : α → Option β} {items : List α} {results : List β}

theorem getElem?_of_mapM_eq_some (h : items.mapM f = some results) (i : Nat) :
    results[i]? = items[i]?.bind f := by
  induction items generalizing results i with
  | nil =>
      obtain rfl : [] = results := by simpa using h
      simp
  | cons first rest ih =>
      simp only [List.mapM_cons, Option.bind_eq_bind, Option.bind_eq_some_iff, pure,
        Option.some.injEq] at h
      obtain ⟨result, hfirst, others, hrest, rfl⟩ := h
      cases i with
      | zero => simp [hfirst]
      | succ i => simpa using ih hrest i

theorem map_of_mapM_eq_some {γ : Type} {g : β → γ} {h : α → γ}
    (hf : items.mapM f = some results)
    (hgh : ∀ item result, f item = some result → g result = h item) :
    results.map g = items.map h := by
  induction items generalizing results with
  | nil =>
      obtain rfl : [] = results := by simpa using hf
      rfl
  | cons first rest ih =>
      simp only [List.mapM_cons, Option.bind_eq_bind, Option.bind_eq_some_iff, pure,
        Option.some.injEq] at hf
      obtain ⟨result, hfirst, others, hrest, rfl⟩ := hf
      rw [List.map_cons, List.map_cons, hgh first result hfirst, ih hrest]

end MapM

section Columns

variable {schema : Schema} {table : Table} {column : Column}

/-- The values of a well-formed column are atoms or records. -/
theorem Column.WellFormed.datumShape?_isSome (hwell : column.WellFormed schema table) :
    (schema.datumShape? table column).isSome := by
  unfold Schema.datumShape?
  cases htype : column.valueType with
  | int => rfl
  | string => rfl
  | struct =>
      have href := hwell.hasStruct.2 htype
      obtain ⟨ref, href⟩ := Option.isSome_iff_exists.1 href
      simpa [ColumnType.atom?, Schema.columnStruct?, href] using hwell.resolves ref href
  | list =>
      have hlist := hwell.hasListType
      have hnested := hwell.noNestedList
      unfold Column.valueType at htype
      cases hlistType : column.listType <;> simp_all

/-- A column that may be a key holds single atoms. -/
theorem Column.WellFormed.columnLayout?_key (hwell : column.WellFormed schema table)
    {type : FieldType} (htype : column.type.atom? = some type) :
    schema.columnLayout? table column = some ⟨column.name, .atom type, false⟩ := by
  have hnotList : column.type ≠ .list := by
    intro h
    simp [h, ColumnType.atom?] at htype
  have hlistType : column.listType = none := by
    have h := hwell.hasListType.not.2 hnotList
    simpa using h
  simp [Schema.columnLayout?, Schema.datumShape?, Column.valueType, Column.isList, hlistType,
    htype, hnotList]

end Columns

variable {schema : Schema} {table : Table}

theorem Table.WellFormed.exists_layout (hwell : table.WellFormed schema) :
    ∃ layout, schema.layout? table = some layout := by
  have hcolumns : ∀ column ∈ table.columns.toList, (schema.columnLayout? table column).isSome := by
    intro column hmem
    simpa [Schema.columnLayout?] using (hwell.columns column hmem).datumShape?_isSome
  obtain ⟨columns, hlayouts⟩ := Option.isSome_iff_exists.1 (mapM_isSome_iff.2 hcolumns)
  obtain ⟨key, hkey, -, hcanBeKey⟩ := hwell.key
  obtain ⟨type, htype⟩ : ∃ type, key.type.atom? = some type := by
    cases htype : key.type <;> simp_all [ColumnType.atom?, ColumnType.canBeKey]
  simp [Schema.layout?, hlayouts, hkey, htype]

/-- What the parts of a layout come from. -/
theorem Schema.layout?_eq_some {layout : Layout} (hlayout : schema.layout? table = some layout) :
    table.columns.toList.mapM (schema.columnLayout? table) = some layout.columns ∧
      (∃ key, table.keyColumn? = some key ∧ key.type.atom? = some layout.keyAtom) ∧
      layout.keyIndex = table.keyColumnIndex ∧ layout.keyName = table.keyName ∧
      layout.keyType = table.keyType := by
  simp only [Schema.layout?, Option.bind_eq_bind, Option.bind_eq_some_iff, pure,
    Option.some.injEq] at hlayout
  obtain ⟨columns, hcolumns, key, hkey, type, htype, rfl⟩ := hlayout
  exact ⟨hcolumns, ⟨key, hkey, htype⟩, rfl, rfl, rfl⟩

/-- The columns of a layout bear the names of the table's columns. -/
theorem Schema.layout?_names {layout : Layout} (hlayout : schema.layout? table = some layout) :
    layout.columns.map ColumnLayout.name = table.columns.names := by
  apply map_of_mapM_eq_some (Schema.layout?_eq_some hlayout).1
  intro column result hresult
  simp only [Schema.columnLayout?, Option.map_eq_some_iff] at hresult
  obtain ⟨shape, -, rfl⟩ := hresult
  rfl

theorem Table.WellFormed.layout_sound (hwell : table.WellFormed schema) {layout : Layout}
    (hlayout : schema.layout? table = some layout) : layout.Sound := by
  obtain ⟨hcolumns, ⟨key, hkey, htype⟩, hindex, hname, -⟩ := Schema.layout?_eq_some hlayout
  refine ⟨?_, ?_⟩
  · rw [Schema.layout?_names hlayout]
    exact hwell.columnNames
  · obtain ⟨column, hcolumn, hkeyName, -⟩ := hwell.key
    obtain rfl : key = column := Option.some.inj (hkey.symm.trans hcolumn)
    have hmem : key ∈ table.columns.toList := List.mem_of_getElem? hkey
    rw [getElem?_of_mapM_eq_some hcolumns, hindex, ← Table.keyColumn?, hkey, hname, ← hkeyName]
    exact (hwell.columns key hmem).columnLayout?_key htype

/-- The tables of verified schemas have sound layouts. -/
theorem Schema.exists_sound_layout (hverified : schema.verify = .ok schema)
    (htable : table ∈ schema.tables.toList) :
    ∃ layout, schema.layout? table = some layout ∧ layout.Sound := by
  have hwell := (schema.verify_eq_ok_iff.1 hverified).tables table htable
  obtain ⟨layout, hlayout⟩ := hwell.exists_layout
  exact ⟨layout, hlayout, hwell.layout_sound hlayout⟩

end TableSchema
