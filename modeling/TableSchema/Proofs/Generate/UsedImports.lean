import TableSchema.Proofs.Generate.CppIncludes
import TableSchema.Proofs.Generate.RustImports
import TableSchema.Proofs.Pipeline

/-!
# Imports that are used

What is generated for a verified schema imports and includes what it uses. Which headers of structs
are included is told by the names of the structs, though, and two of these may have one header.
-/

namespace TableSchema

open Generate

namespace Generate

/-- The namespace in which the code for a reader lies. -/
def Cpp.readerNamespace (schema : Schema) (reader : String) : List String :=
  Cpp.namespaceOf (schema.readers.lookup reader).toOption

/-- The files of a table import and include what they use, whoever reads it. -/
structure TableImports (schema : Schema) (table : Table) (key : Column) : Prop where
  imports : Rust.ImportsUsed (Rust.tableModule schema table key)
  header : ∀ reader, Cpp.IncludesUsed schema table
    (Cpp.tableHeader (Cpp.readerNamespace schema reader) schema table key)
  source : ∀ reader,
    (∃ line ∈ Cpp.tableSource (Cpp.readerNamespace schema reader) schema table key,
      Cpp.ConstructsSplitter line) →
    "<tablekit/column_splitter.h>" ∈
      Cpp.includes (Cpp.tableSource (Cpp.readerNamespace schema reader) schema table key)

/-- The files of a struct of the schema import and include what they use. -/
structure StructImports (schema : Schema) (struct : Struct) : Prop where
  imports : Rust.ImportsUsed (Rust.structModule struct)
  header : ∀ reader,
    "<cstdint>" ∈ Cpp.includes (Cpp.structHeader (Cpp.readerNamespace schema reader) struct) ↔
      ∃ line ∈ Cpp.structHeader (Cpp.readerNamespace schema reader) struct, Cpp.NamesInt line

section Schema

variable {schema : Schema} (hwell : schema.WellFormed)
include hwell

theorem Cpp.isWord_of_mem_readerNamespace (reader : String) :
    ∀ part ∈ Cpp.readerNamespace schema reader, IsWord part := by
  unfold Cpp.readerNamespace Cpp.namespaceOf
  cases hlookup : schema.readers.lookup reader with
  | found declared =>
      obtain ⟨i, -, hentry⟩ := Catalog.lookup_eq_found_iff.1 hlookup
      exact hwell.namespaceWords (List.mem_of_getElem? hentry)
  | absent => simp [Lookup.toOption]
  | stale => simp [Lookup.toOption]

theorem tableImports {table : Table} (htable : table ∈ schema.tables.toList) :
    ∃ key, table.keyColumn? = some key ∧ TableImports schema table key := by
  have htableWell := hwell.tables table htable
  have hwords := hwell.tableWords htable
  obtain ⟨key, hkey, -, hkeyType⟩ := htableWell.key
  have hmem : key ∈ table.columns.toList := List.mem_of_getElem? hkey
  exact ⟨key, hkey,
    { imports := Rust.importsUsed_tableModule hwords hmem htableWell.columns
      header := fun reader =>
        Cpp.includesUsed_tableHeader (Cpp.isWord_of_mem_readerNamespace hwell reader) hwords
          (htableWell.generable hwell) htableWell.columns hmem hkeyType
      source := fun reader =>
        Cpp.mem_includes_tableSource hwords hmem
          (Cpp.isWord_of_mem_readerNamespace hwell reader) }⟩

theorem structImports {struct : Struct} (hstruct : struct ∈ schema.globalStructs.toList) :
    StructImports schema struct where
  imports := Rust.importsUsed_structModule struct
  header reader := Cpp.mem_includes_structHeader_iff
    (Cpp.isWord_of_mem_readerNamespace hwell reader) (hwell.namesWords hstruct)

end Schema

end Generate

/-- Whatever is generated for a verified schema imports and includes what it uses. -/
theorem generated_imports {schema : Schema} (hverified : schema.verify = .ok schema) :
    (∀ table ∈ schema.tables.toList,
      ∃ key, table.keyColumn? = some key ∧ TableImports schema table key) ∧
    ∀ struct ∈ schema.globalStructs.toList, StructImports schema struct := by
  have hwell := schema.verify_eq_ok_iff.1 hverified
  exact ⟨fun table => tableImports hwell, fun struct => structImports hwell⟩

open Example in
/-- What a market declares for its goods and for their prices. -/
theorem generated_imports_market :
    market.verify = .ok market ∧ goods ∈ market.tables.toList ∧
      ∃ key, goods.keyColumn? = some key ∧
        Cpp.includes (Cpp.tableHeader ["market"] market goods key) =
          ["<cstdint>", "<map>", "<string>", "<vector>", "\"price.h\""] ∧
        (∃ line ∈ Cpp.tableHeader ["market"] market goods key, Cpp.NamesInt line) ∧
        (∃ line ∈ Cpp.tableHeader ["market"] market goods key, Cpp.NamesVector line) ∧
        Rust.parseImpls (Rust.tableModule market goods key) = [] ∧
        ∃ struct ∈ market.globalStructs.toList,
          (∃ line ∈ Cpp.structHeader ["market"] struct, Cpp.NamesInt line) ∧
          Rust.ConstructsSplitter (Rust.structModule struct) := by
  have hmem : goods ∈ market.tables.toList := by decide
  have hclient : Cpp.readerNamespace market "client" = ["market"] := by decide
  let price : Struct := ⟨"Price", 3, none, .ofList [⟨"coin", 4, .string⟩, ⟨"count", 5, .int⟩]⟩
  obtain ⟨htables, hstructs⟩ := generated_imports verify_market
  obtain ⟨key, hkey, hgoods⟩ := htables goods hmem
  have hprice := hstructs price (by decide)
  have hheader := hgoods.header "client"
  have hpriceHeader := hprice.header "client"
  rw [hclient] at hheader hpriceHeader
  have hwords := (market.verify_eq_ok_iff.1 verify_market).tableWords hmem
  have hincludes : Cpp.includes (Cpp.tableHeader ["market"] market goods key) =
      ["<cstdint>", "<map>", "<string>", "<vector>", "\"price.h\""] := by
    rw [Cpp.includes_tableHeader (List.forall_mem_singleton.2 (isWord_ofList rfl)) hwords,
      Cpp.includes_tableIncludes]
    decide +kernel
  have hnames : Rust.runtimeNames (Rust.tableModule market goods key) =
      ["util", "LineReader", "TableParseError"] := by
    rw [Rust.runtimeNames_tableModule hwords.name]
    decide
  refine ⟨verify_market, hmem, _, hkey, hincludes, ?_, ?_, ?_, price, by decide, hpriceHeader.1 ?_,
    hprice.imports.splitter.1 ?_⟩
  · exact hheader.namesInt.2 (.inl (hheader.integers.1 (by simp [hincludes])))
  · exact hheader.vectors.1 (by simp [hincludes])
  · by_contra himpls
    have hparse := hgoods.imports.parseValue.2 (.inl himpls)
    simp [hnames] at hparse
  · have hincluded : Cpp.includeSystem "cstdint" ∈ Cpp.structHeader ["market"] price := by
      simp [Cpp.structHeader, Cpp.header, Cpp.structIncludes, mem_linesIf, price]
    exact Cpp.mem_includes_of_mem hincluded
  · rw [Rust.runtimeNames_structModule]
    decide

namespace Example

/-- A table with columns of two structs whose names differ in no more than the case of a letter. -/
def alikeTable : Table where
  name := "T"
  line := 2
  fileName := "t"
  keyType := .single
  keyName := "k"
  keyColumnIndex := 0
  readers := ∅
  localStructs := ∅
  columns := .ofList
    [⟨"k", 2, .int, none, none, ∅⟩, ⟨"a", 3, .struct, none, some (.ofSchema 0), ∅⟩,
     ⟨"b", 3, .struct, none, some (.ofSchema 1), ∅⟩]

def alikeSchema : Schema where
  filePath := "t.xml"
  readers := .ofList [⟨"r", 1, []⟩]
  globalStructs := .ofList [⟨"Item", 1, none, ∅⟩, ⟨"item", 1, none, ∅⟩]
  tables := .ofList [alikeTable]

end Example

open Example in
/-- Two structs with one header have it included twice. -/
theorem alikes_share_header :
    alikeSchema.verify = .ok alikeSchema ∧ alikeSchema.Declares "r" ∧
      alikeTable ∈ alikeSchema.tables.toList ∧ ∃ key, alikeTable.keyColumn? = some key ∧
        Cpp.usedStructs alikeSchema alikeTable = ["Item", "item"] ∧
        Cpp.ownHeader "Item" = "\"item.h\"" ∧
        (Cpp.includes (Cpp.tableHeader (Cpp.readerNamespace alikeSchema "r") alikeSchema
          alikeTable key)).count "\"item.h\"" = 2 := by
  have hverified : alikeSchema.verify = .ok alikeSchema := by decide +kernel
  have htable : alikeTable ∈ alikeSchema.tables.toList := by decide
  have hwell := alikeSchema.verify_eq_ok_iff.1 hverified
  have hheader : Cpp.ownHeader "Item" = "\"item.h\"" := by decide
  refine ⟨hverified, ⟨⟨"r", 1, []⟩, by decide, rfl⟩, htable, _, rfl, by decide, hheader, ?_⟩
  rw [Cpp.includes_tableHeader (Cpp.isWord_of_mem_readerNamespace hwell "r")
    (hwell.tableWords htable), ← hheader, Cpp.count_includes_ownHeader]
  decide

end TableSchema
