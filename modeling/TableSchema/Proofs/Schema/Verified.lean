import TableSchema.Proofs.Success
import TableSchema.Schema.Verify
import TableSchema.Schema.WellFormed

/-!
# Verified schemas

A verification succeeds just for the well-formed schemas. Each check is brought to the condition it
stands for, and `inTurn_eq_ok_iff` turns the names seen so far into names without repetition.
-/

namespace TableSchema

theorem Catalog.forall_names {α : Type} [Named α] {catalog : Catalog α}
    {condition : String → Prop} :
    (∀ name ∈ catalog.names, condition name) ↔
      ∀ entry ∈ catalog.toList, condition (Named.name entry) :=
  List.forall_mem_map

namespace Verification

@[simp] theorem require_eq_ok_iff {condition : Bool} {fault : SchemaFault} :
    require condition fault = .ok () ↔ condition = true := by
  cases condition <;> simp [require]

@[simp] theorem properName_eq_ok_iff {kind : NameKind} {name : String} :
    properName kind name = .ok () ↔ Identifier name :=
  require_eq_ok_iff

@[simp] theorem newName_eq_ok_iff {kind : NameKind} {seen : List String} {name : String} :
    newName kind seen name = .ok () ↔ name ∉ seen := by
  simp [newName]

/-- Entries that are checked against the names before them have distinct names, which differ from
those seen at the start. -/
theorem inTurn_eq_ok_iff {α : Type} [Named α] {check : List String → α → Verification}
    {condition : α → Prop}
    (hcheck : ∀ seen entry, check seen entry = .ok () ↔
      condition entry ∧ Named.name entry ∉ seen)
    (seen : List String) (entries : List α) :
    inTurn check seen entries = .ok () ↔
      (∀ entry ∈ entries, condition entry) ∧ (entries.map Named.name).Nodup ∧
        ∀ entry ∈ entries, Named.name entry ∉ seen := by
  induction entries generalizing seen with
  | nil => simp [inTurn]
  | cons entry rest ih =>
      simp only [inTurn, then_eq_ok_iff, hcheck, ih, List.map_cons, List.nodup_cons, List.mem_map,
        List.mem_cons, not_or, not_exists, not_and]
      grind

theorem reader_eq_ok_iff (seen : List String) (entry : Reader) :
    reader seen entry = .ok () ↔
      (Identifier entry.name ∧ ∀ part ∈ entry.namespaceParts, Identifier part) ∧
        entry.name ∉ seen := by
  simp only [reader, then_eq_ok_iff, properName_eq_ok_iff, newName_eq_ok_iff, forM_eq_ok_iff]
  tauto

theorem field_eq_ok_iff (seen : List String) (entry : Field) :
    field seen entry = .ok () ↔ Identifier entry.name ∧ entry.name ∉ seen := by
  simp [field]

theorem struct_eq_ok_iff (entry : Struct) :
    struct entry = .ok () ↔ Identifier entry.name ∧ ProperNames entry.fields.names := by
  simp only [struct, then_eq_ok_iff, properName_eq_ok_iff]
  rw [inTurn_eq_ok_iff field_eq_ok_iff]
  constructor
  · rintro ⟨hname, hfields, hdistinct, -⟩
    exact ⟨hname, hdistinct, Catalog.forall_names.2 hfields⟩
  · rintro ⟨hname, hdistinct, hfields⟩
    exact ⟨hname, Catalog.forall_names.1 hfields, hdistinct, by simp⟩

theorem globalStruct_eq_ok_iff (seen : List String) (entry : Struct) :
    globalStruct seen entry = .ok () ↔
      (entry.GlobalWellFormed ∧ Identifier entry.name) ∧ entry.name ∉ seen := by
  simp only [globalStruct, then_eq_ok_iff, require_eq_ok_iff, newName_eq_ok_iff,
    struct_eq_ok_iff, Struct.isGlobal, Option.isNone_iff_eq_none]
  constructor
  · rintro ⟨howner, hnew, hname, hfields⟩
    exact ⟨⟨⟨howner, hfields⟩, hname⟩, hnew⟩
  · rintro ⟨⟨⟨howner, hfields⟩, hname⟩, hnew⟩
    exact ⟨howner, hnew, hname, hfields⟩

theorem localStruct_eq_ok_iff (table : Table) (seen : List String) (entry : Struct) :
    localStruct table seen entry = .ok () ↔
      (entry.LocalTo table ∧ Identifier entry.name) ∧ entry.name ∉ seen := by
  simp only [localStruct, then_eq_ok_iff, require_eq_ok_iff, newName_eq_ok_iff,
    struct_eq_ok_iff, decide_eq_true_eq, Bool.not_eq_true', List.contains_eq_mem,
    decide_eq_false_iff_not]
  constructor
  · rintro ⟨howner, hreserved, hnew, hname, hfields⟩
    exact ⟨⟨⟨howner, hreserved, hfields⟩, hname⟩, hnew⟩
  · rintro ⟨⟨⟨howner, hreserved, hfields⟩, hname⟩, hnew⟩
    exact ⟨howner, hreserved, hnew, hname, hfields⟩

theorem readers_eq_ok_iff (schema : Schema) (names : ReaderSet) :
    readers schema names = .ok () ↔ names.Declared schema := by
  simp only [readers, forM_eq_ok_iff, require_eq_ok_iff, List.any_eq_true, decide_eq_true_eq]
  simp [ReaderSet.Declared, Catalog.names, Named.name]

theorem hasFittingListType_iff (entry : Column) :
    hasFittingListType entry = true ↔
      (entry.listType.isSome ↔ entry.type = .list) ∧ entry.listType ≠ some .list := by
  unfold hasFittingListType
  cases entry.type <;> cases entry.listType <;> simp

theorem hasFittingStruct_iff (schema : Schema) (table : Table) (entry : Column) :
    hasFittingStruct schema table entry = true ↔
      (entry.structRef.isSome ↔ entry.valueType = .struct) ∧
        ∀ ref, entry.structRef = some ref → (schema.struct? table ref).isSome := by
  unfold hasFittingStruct
  cases entry.structRef <;> simp

theorem column_eq_ok_iff (schema : Schema) (table : Table) (seen : List String)
    (entry : Column) :
    column schema table seen entry = .ok () ↔
      (entry.WellFormed schema table ∧ Identifier entry.name) ∧ entry.name ∉ seen := by
  simp only [column, then_eq_ok_iff, properName_eq_ok_iff, newName_eq_ok_iff,
    readers_eq_ok_iff, require_eq_ok_iff, hasFittingListType_iff, hasFittingStruct_iff]
  constructor
  · rintro ⟨hname, hnew, hreaders, ⟨hlist, hnested⟩, hstruct, hresolves⟩
    exact ⟨⟨⟨hreaders, hlist, hnested, hstruct, hresolves⟩, hname⟩, hnew⟩
  · rintro ⟨⟨⟨hreaders, hlist, hnested, hstruct, hresolves⟩, hname⟩, hnew⟩
    exact ⟨hname, hnew, hreaders, ⟨hlist, hnested⟩, hstruct, hresolves⟩

theorem key_eq_ok_iff (table : Table) :
    key table = .ok () ↔ ∃ column, table.keyColumn? = some column ∧
      column.name = table.keyName ∧ column.type.canBeKey := by
  unfold key
  cases hcolumn : table.keyColumn? with
  | none => simp
  | some column =>
      by_cases hname : column.name = table.keyName <;>
        simp [Option.filter, Table.isKey, hname]

theorem table_eq_ok_iff (schema : Schema) (seen : List String) (entry : Table) :
    table schema seen entry = .ok () ↔
      (entry.WellFormed schema ∧ Identifier entry.name) ∧ entry.name ∉ seen := by
  simp only [table, then_eq_ok_iff, newName_eq_ok_iff, properName_eq_ok_iff,
    readers_eq_ok_iff, key_eq_ok_iff, inTurn_eq_ok_iff (localStruct_eq_ok_iff entry),
    inTurn_eq_ok_iff (column_eq_ok_iff schema entry)]
  constructor
  · rintro ⟨hnew, hname, hreaders, ⟨hstructs, hstructNames, -⟩, ⟨hcolumns, hcolumnNames, -⟩, hkey⟩
    refine ⟨⟨⟨hreaders, ⟨hstructNames, ?_⟩, fun struct hmem => (hstructs struct hmem).1,
      ⟨hcolumnNames, ?_⟩, fun column hmem => (hcolumns column hmem).1, hkey⟩, hname⟩, hnew⟩
    · exact Catalog.forall_names.2 fun struct hmem => (hstructs struct hmem).2
    · exact Catalog.forall_names.2 fun column hmem => (hcolumns column hmem).2
  · rintro ⟨⟨hwell, hname⟩, hnew⟩
    have hstructNames := Catalog.forall_names.1 hwell.localStructNames.identifiers
    have hcolumnNames := Catalog.forall_names.1 hwell.columnNames.identifiers
    exact ⟨hnew, hname, hwell.readers,
      ⟨fun struct hmem => ⟨hwell.localStructs struct hmem, hstructNames struct hmem⟩,
        hwell.localStructNames.distinct, by simp⟩,
      ⟨fun column hmem => ⟨hwell.columns column hmem, hcolumnNames column hmem⟩,
        hwell.columnNames.distinct, by simp⟩, hwell.key⟩

/-- The verification of a schema succeeds if and only if the schema is well-formed. -/
theorem schema_eq_ok_iff (entry : Schema) : schema entry = .ok () ↔ entry.WellFormed := by
  simp only [schema, then_eq_ok_iff, inTurn_eq_ok_iff reader_eq_ok_iff,
    inTurn_eq_ok_iff globalStruct_eq_ok_iff, inTurn_eq_ok_iff (table_eq_ok_iff entry)]
  constructor
  · rintro ⟨⟨hreaders, hreaderNames, -⟩, ⟨hglobals, hglobalNames, -⟩,
      htables, htableNames, hapart⟩
    refine ⟨⟨hreaderNames, ?_⟩, fun reader hmem => (hreaders reader hmem).2, ⟨?_, ?_⟩,
      fun struct hmem => (hglobals struct hmem).1, fun table hmem => (htables table hmem).1⟩
    · exact Catalog.forall_names.2 fun reader hmem => (hreaders reader hmem).1
    · refine List.nodup_append.2 ⟨hglobalNames, htableNames, ?_⟩
      intro name hglobal other htable heq
      obtain ⟨table, hmem, rfl⟩ := List.mem_map.1 htable
      exact hapart table hmem (heq ▸ hglobal)
    · refine List.forall_mem_append.2 ⟨?_, ?_⟩
      · exact Catalog.forall_names.2 fun struct hmem => (hglobals struct hmem).2
      · exact Catalog.forall_names.2 fun table hmem => (htables table hmem).2
  · intro hwell
    obtain ⟨hglobalNames, htableNames, hapart⟩ := List.nodup_append.1 hwell.globalNames.distinct
    obtain ⟨hglobals, htables⟩ := List.forall_mem_append.1 hwell.globalNames.identifiers
    have hreaders := Catalog.forall_names.1 hwell.readerNames.identifiers
    refine ⟨⟨fun reader hmem => ⟨hreaders reader hmem, hwell.namespaces reader hmem⟩,
        hwell.readerNames.distinct, by simp⟩,
      ⟨fun struct hmem => ⟨hwell.globalStructs struct hmem,
        Catalog.forall_names.1 hglobals struct hmem⟩, hglobalNames, by simp⟩,
      fun table hmem => ⟨hwell.tables table hmem, Catalog.forall_names.1 htables table hmem⟩,
      htableNames, ?_⟩
    intro table hmem hglobal
    exact hapart _ hglobal _ (List.mem_map_of_mem hmem) rfl

end Verification

theorem Schema.verify_eq_ok_iff (schema : Schema) :
    schema.verify = .ok schema ↔ schema.WellFormed := by
  rw [← Verification.schema_eq_ok_iff]
  unfold Schema.verify
  cases Verification.schema schema <;> simp

/-- A struct that is referred to bears an identifier. -/
theorem Schema.WellFormed.structName {schema : Schema} (hwell : schema.WellFormed) {table : Table}
    (htable : table.WellFormed schema) {ref : StructRef} {struct : Struct}
    (hstruct : schema.struct? table ref = some struct) : Identifier struct.name := by
  cases ref with
  | ofSchema i =>
      exact hwell.globalNames.identifiers struct.name
        (List.mem_append_left _ (List.mem_map_of_mem (List.mem_of_getElem? hstruct)))
  | ofTable i =>
      exact htable.localStructNames.identifiers struct.name
        (List.mem_map_of_mem (List.mem_of_getElem? hstruct))

end TableSchema
