import TableSchema.Example.Market
import TableSchema.Proofs.Schema.Verified
import TableSchema.Proofs.Schema.Views

/-!
# Verdicts on schemas

A verification accepts the well-formed schemas and finds a fault in all others. It goes by the lists
of a schema alone: name indices that were never kept, or that point nowhere, change nothing.
-/

namespace TableSchema

namespace Verification

/-- Entries that are replaced by others of the same names, on which the verdicts are the same. -/
theorem inTurn_map {α : Type} [Named α] (f : α → α)
    {check changed : List String → α → Verification}
    (hname : ∀ entry, Named.name (f entry) = Named.name entry)
    (hcheck : ∀ seen entry, changed seen (f entry) = check seen entry) (seen : List String)
    (entries : List α) : inTurn changed seen (entries.map f) = inTurn check seen entries := by
  induction entries generalizing seen with
  | nil => rfl
  | cons entry rest ih => rw [List.map_cons, inTurn, inTurn, hcheck, hname, ih]

section Rebuilt

variable (verified : Schema) (entry : Table)

theorem struct_rebuild (inner : Struct) : struct inner.rebuild = struct inner := by
  simp only [struct, Struct.rebuild, Catalog.toList_rebuild]

theorem globalStruct_rebuild (seen : List String) (global : Struct) :
    globalStruct seen global.rebuild = globalStruct seen global := by
  rw [globalStruct, struct_rebuild]
  rfl

theorem localStruct_rebuild (seen : List String) (inner : Struct) :
    localStruct entry.rebuild seen inner.rebuild = localStruct entry seen inner := by
  rw [localStruct, struct_rebuild]
  rfl

theorem readers_rebuild (names : ReaderSet) :
    readers verified.rebuild names = readers verified names := by
  simp only [readers, Schema.rebuild, Catalog.toList_rebuild]

theorem column_rebuild (seen : List String) (inner : Column) :
    column verified.rebuild entry.rebuild seen inner = column verified entry seen inner := by
  have hstruct : hasFittingStruct verified.rebuild entry.rebuild inner =
      hasFittingStruct verified entry inner := by
    simp only [hasFittingStruct, Schema.rebuild_struct?, Option.isSome_map]
  rw [column, readers_rebuild, hstruct]
  rfl

theorem key_rebuild : key entry.rebuild = key entry := by
  have hplace : entry.rebuild.keyColumn? = entry.keyColumn? := by
    simp [Table.keyColumn?, Table.rebuild]
  rw [key, hplace]
  rfl

theorem table_rebuild (seen : List String) :
    table verified.rebuild seen entry.rebuild = table verified seen entry := by
  have hstructs : inTurn (localStruct entry.rebuild) [] entry.rebuild.localStructs.toList =
      inTurn (localStruct entry) [] entry.localStructs.toList := by
    have hrebuilt : entry.rebuild.localStructs.toList =
        entry.localStructs.toList.map Struct.rebuild := by
      rw [Table.rebuild, Catalog.toList_ofList]
    rw [hrebuilt]
    exact inTurn_map Struct.rebuild (fun _ => rfl) (localStruct_rebuild entry) [] _
  have hcolumns : entry.rebuild.columns.toList = entry.columns.toList := by
    rw [Table.rebuild, Catalog.toList_rebuild]
  have hcheck : column verified.rebuild entry.rebuild = column verified entry := by
    ext seen inner
    rw [column_rebuild]
  rw [table, readers_rebuild, hstructs, hcolumns, hcheck, key_rebuild]
  rfl

/-- A verification looks at no name index. -/
theorem schema_rebuild : schema verified.rebuild = schema verified := by
  have hreaders : verified.rebuild.readers.toList = verified.readers.toList := by
    rw [Schema.rebuild, Catalog.toList_rebuild]
  have hglobals : verified.rebuild.globalStructs.toList =
      verified.globalStructs.toList.map Struct.rebuild := by
    rw [Schema.rebuild, Catalog.toList_ofList]
  have htables : verified.rebuild.tables.toList = verified.tables.toList.map Table.rebuild := by
    rw [Schema.rebuild, Catalog.toList_ofList]
  rw [schema, schema, hreaders, hglobals, htables, List.map_map,
    inTurn_map Struct.rebuild (fun _ => rfl) globalStruct_rebuild,
    inTurn_map Table.rebuild (fun _ => rfl) fun seen entry => table_rebuild verified entry seen]
  rfl

end Rebuilt

end Verification

/-- The verification of any schema comes to a verdict: the schema is accepted if it is well-formed,
and a fault is found in it otherwise. Schemas with the same lists get the same verdict, whatever
their name indices hold. -/
theorem Schema.verify_decides (schema : Schema) :
    (schema.verify = .ok schema ∧ schema.WellFormed ∨
        (∃ fault, schema.verify = .error (.unsound fault)) ∧ ¬ schema.WellFormed) ∧
      ∀ other : Schema, other.rebuild = schema.rebuild →
        Verification.schema other = Verification.schema schema := by
  constructor
  · rw [← schema.verify_eq_ok_iff]
    cases hverdict : Verification.schema schema with
    | ok verdict =>
        have haccepted : schema.verify = .ok schema := by rw [verify, hverdict]
        exact .inl ⟨haccepted, haccepted⟩
    | error fault =>
        have hrejected : schema.verify = .error (.unsound fault) := by rw [verify, hverdict]
        exact .inr ⟨⟨fault, hrejected⟩, by simp [hrejected]⟩
  · intro other hsame
    rw [← Verification.schema_rebuild other, hsame, Verification.schema_rebuild]

/-- A name index that points past the end of its list. -/
example : Verification.schema { Example.market with
    tables := ⟨Example.market.tables.toList, [("Stalls", 7)]⟩ } = .ok () := by decide

end TableSchema
