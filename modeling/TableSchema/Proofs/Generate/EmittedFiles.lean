import TableSchema.Proofs.Pipeline

/-!
# Kinds of emitted files

Every file that is made for a declared reader is of one of seven kinds: headers and sources of
structs and tables in C++, and in Rust their modules and the list of these.
-/

namespace TableSchema.Generate

/-- The files that are made of a schema for a reader, by their kinds. -/
inductive EmittedFile (schema : Schema) (declared : Reader) : Language → Artifact → Prop
  | structHeader {struct : Struct} (hstruct : struct ∈ schema.globalStructs.toList) :
      EmittedFile schema declared .cpp
        (Cpp.headerFile struct.name (Cpp.structHeader declared.namespaceParts struct))
  | structSource {struct : Struct} (hstruct : struct ∈ schema.globalStructs.toList) :
      EmittedFile schema declared .cpp
        (Cpp.sourceFile struct.name (Cpp.structSource declared.namespaceParts struct))
  | tableHeader {table : Table} {key : Column} (htable : table ∈ schema.tables.toList)
      (hkey : table.keyColumn? = some key) :
      EmittedFile schema declared .cpp
        (Cpp.headerFile table.name (Cpp.tableHeader declared.namespaceParts schema table key))
  | tableSource {table : Table} {key : Column} (htable : table ∈ schema.tables.toList)
      (hkey : table.keyColumn? = some key) :
      EmittedFile schema declared .cpp
        (Cpp.sourceFile table.name (Cpp.tableSource declared.namespaceParts schema table key))
  | structModule {struct : Struct} (hstruct : struct ∈ schema.globalStructs.toList) :
      EmittedFile schema declared .rust (Rust.structArtifact struct)
  | tableModule {table : Table} {key : Column} (htable : table ∈ schema.tables.toList)
      (hkey : table.keyColumn? = some key) :
      EmittedFile schema declared .rust
        (Rust.moduleFile table.name (Rust.tableModule schema table key))
  | moduleList :
      EmittedFile schema declared .rust
        ⟨"mod.rs", text (Rust.moduleList schema (some declared) declared.name)⟩

theorem emittedFile_of_mem_emission {schema : Schema} {declared : Reader} {language : Language}
    {artifact : Artifact} (hfound : schema.readers.lookup declared.name = .found declared)
    (hmem : some artifact ∈ emission language schema declared.name) :
    EmittedFile schema declared language artifact := by
  cases language with
  | cpp =>
      rw [emission, Cpp.emission_of_found hfound] at hmem
      rcases List.mem_append.1 hmem with hmem | hmem
      · obtain ⟨struct, hstruct, hmem⟩ := List.mem_flatMap.1 hmem
        simp only [Cpp.structArtifacts, List.map_cons, List.map_nil, List.mem_cons,
          List.not_mem_nil, or_false, Option.some.injEq] at hmem
        rcases hmem with rfl | rfl
        · exact .structHeader hstruct
        · exact .structSource hstruct
      · obtain ⟨table, htable, hmem⟩ := List.mem_flatMap.1 hmem
        unfold Cpp.tableArtifacts at hmem
        cases hkey : table.keyColumn? with
        | none => simp [hkey] at hmem
        | some key =>
            simp only [hkey, List.mem_cons, List.not_mem_nil, or_false,
              Option.some.injEq] at hmem
            rcases hmem with rfl | rfl
            · exact .tableHeader htable hkey
            · exact .tableSource htable hkey
  | rust =>
      rw [emission, Rust.emission_of_found hfound] at hmem
      rcases List.mem_append.1 hmem with hmem | hmem
      · rcases List.mem_append.1 hmem with hmem | hmem
        · obtain ⟨struct, hstruct, hsame⟩ := List.mem_map.1 hmem
          obtain rfl := Option.some.inj hsame
          exact .structModule hstruct
        · obtain ⟨table, htable, hmade⟩ := List.mem_map.1 hmem
          obtain ⟨key, hkey, rfl⟩ := Option.map_eq_some_iff.1 hmade
          exact .tableModule htable hkey
      · obtain rfl := Option.some.inj (List.mem_singleton.1 hmem)
        exact .moduleList

end TableSchema.Generate
