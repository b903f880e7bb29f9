import TableSchema.Example.Market
import TableSchema.Proofs.Generate.BareCpp
import TableSchema.Proofs.Generate.BareRust
import TableSchema.Proofs.Pipeline

/-!
# Code for a reader

The code that is generated for a reader depends on nothing but what the reader is shown: the
structs of the schema, and of each table that is open to the reader the columns that are shown.
Where these stand in the schema, and what stands around them, leaves no trace.
-/

namespace TableSchema

open Generate

/-! ## What a reader is shown -/

def Field.outline (field : Field) : String × FieldType :=
  (field.name, field.type)

def Struct.outline (struct : Struct) : String × List (String × FieldType) :=
  (struct.name, struct.fields.toList.map Field.outline)

def Column.outline (column : Column) :
    String × ColumnType × Option ColumnType × Option StructRef :=
  (column.name, column.type, column.listType, column.structRef)

/-- Tables of which a reader is shown the same. -/
structure Table.LooksLike (reader : String) (table other : Table) : Prop where
  name : table.name = other.name
  keyType : table.keyType = other.keyType
  keyName : table.keyName = other.keyName
  localStructs : table.localStructs.toList.map Struct.outline =
    other.localStructs.toList.map Struct.outline
  columns : (table.columns.toList.filter (table.shows reader)).map Column.outline =
    (other.columns.toList.filter (other.shows reader)).map Column.outline

/-- Schemas of which a reader is shown the same. -/
structure Schema.LooksLike (reader : String) (schema other : Schema) : Prop where
  globalStructs : schema.globalStructs.toList.map Struct.outline =
    other.globalStructs.toList.map Struct.outline
  tables : List.Forall₂ (Table.LooksLike reader) (schema.openTables reader)
    (other.openTables reader)

/-- The reader is declared with the parts of a namespace, and a look-up finds it. -/
def Schema.DeclaresIn (schema : Schema) (reader : String) (parts : List String) : Prop :=
  ∃ declared, schema.readers.lookup reader = .found declared ∧ declared.name = reader ∧
    declared.namespaceParts = parts

/-! ## Bare views -/

/-- What follows from one image of items follows from the other. -/
theorem map_eq_of_map_eq {α β γ : Type} {f : α → β} {g : α → γ} {items others : List α}
    (hmaps : items.map f = others.map f)
    (himage : ∀ item ∈ items, ∀ other ∈ others, f item = f other → g item = g other) :
    items.map g = others.map g := by
  induction items generalizing others with
  | nil =>
      cases others with
      | nil => rfl
      | cons other others => simp at hmaps
  | cons item items ih =>
      cases others with
      | nil => simp at hmaps
      | cons other others =>
          rw [List.map_cons, List.map_cons, List.cons.injEq] at hmaps
          rw [List.map_cons, List.map_cons,
            himage item List.mem_cons_self other List.mem_cons_self hmaps.1,
            ih hmaps.2 fun item hitem other hother =>
              himage item (List.mem_cons_of_mem _ hitem) other (List.mem_cons_of_mem _ hother)]

theorem Field.bare_eq {field other : Field} (houtline : field.outline = other.outline) :
    field.bare = other.bare := by
  obtain ⟨hname, htype⟩ := Prod.mk.inj houtline
  rw [Field.bare, Field.bare, hname, htype]

theorem Column.bare_eq {column other : Column} (houtline : column.outline = other.outline) :
    column.bare = other.bare := by
  simp only [Column.outline, Prod.mk.injEq] at houtline
  obtain ⟨hname, htype, hlistType, hstructRef⟩ := houtline
  rw [Column.bare, Column.bare, hname, htype, hlistType, hstructRef]

theorem Struct.bare_eq {struct other : Struct} (houtline : struct.outline = other.outline)
    (howner : struct.owner = other.owner) : struct.bare = other.bare := by
  obtain ⟨hname, hfields⟩ := Prod.mk.inj houtline
  rw [Struct.bare, Struct.bare, hname, howner,
    map_eq_of_map_eq hfields fun _ _ _ _ => Field.bare_eq]

/-- The key is shown in the same place, though it may stand in different places of the tables. -/
theorem Table.LooksLike.keyColumnIndex_inView {schema : Schema} {reader : String}
    {table other : Table} (hlooks : table.LooksLike reader other)
    (hwell : table.WellFormed schema) :
    (table.inView reader).keyColumnIndex = (other.inView reader).keyColumnIndex := by
  have hplace (table : Table) :
      (table.columns.toList.filter (table.shows reader)).findIdx? table.isKey =
        ((table.columns.toList.filter (table.shows reader)).map Column.outline).findIdx?
          fun outline => outline.1 = table.keyName := by
    rw [List.findIdx?_map]
    rfl
  have hshown : ((table.columns.toList.filter (table.shows reader)).findIdx?
      table.isKey).isSome := by
    obtain ⟨key, hkey, hname, -⟩ := hwell.key
    have hisKey : table.isKey key := decide_eq_true hname
    rw [List.findIdx?_isSome, List.any_eq_true]
    refine ⟨key, List.mem_filter.2 ⟨List.mem_of_getElem? hkey, ?_⟩, hisKey⟩
    rw [Table.shows, hisKey, Bool.true_or]
  obtain ⟨i, hi⟩ := Option.isSome_iff_exists.1 hshown
  have hotherPlace : (other.columns.toList.filter (other.shows reader)).findIdx? other.isKey =
      some i := by
    rw [hplace, ← hlooks.columns, ← hlooks.keyName, ← hplace, hi]
  rw [inView_eq, inView_eq, hi, hotherPlace]
  rfl

/-- Tables that look alike to a reader have the same bare form in the reader's views. -/
theorem Table.LooksLike.bare_inView {schema otherSchema : Schema} {reader : String}
    {table other : Table} (hlooks : table.LooksLike reader other)
    (hwell : table.WellFormed schema) (hotherWell : other.WellFormed otherSchema) :
    (table.inView reader).bare = (other.inView reader).bare := by
  have hstructs : table.localStructs.toList.map Struct.bare =
      other.localStructs.toList.map Struct.bare := by
    apply map_eq_of_map_eq hlooks.localStructs
    intro struct hstruct otherStruct hotherStruct houtline
    apply Struct.bare_eq houtline
    rw [(hwell.localStructs struct hstruct).owned,
      (hotherWell.localStructs otherStruct hotherStruct).owned, hlooks.name]
  have hcolumns := map_eq_of_map_eq hlooks.columns fun _ _ _ _ => Column.bare_eq
  rw [Table.bare, Table.bare]
  simp only [inView_name, inView_keyType, inView_keyName, toList_inView_columns,
    toList_inView_localStructs, List.map_map, Function.comp_def, Struct.bare_rebuild]
  rw [hlooks.keyColumnIndex_inView hwell, hlooks.name, hlooks.keyType, hlooks.keyName, hstructs,
    hcolumns]

theorem Schema.LooksLike.bare_view {schema other : Schema} {reader : String}
    (hlooks : schema.LooksLike reader other) (hwell : schema.WellFormed)
    (hotherWell : other.WellFormed) : (schema.view reader).bare = (other.view reader).bare := by
  have hstructs : schema.globalStructs.toList.map Struct.bare =
      other.globalStructs.toList.map Struct.bare := by
    apply map_eq_of_map_eq hlooks.globalStructs
    intro struct hstruct otherStruct hotherStruct houtline
    apply Struct.bare_eq houtline
    rw [(hwell.globalStructs struct hstruct).unowned,
      (hotherWell.globalStructs otherStruct hotherStruct).unowned]
  have htables : (schema.openTables reader).map (fun table => (table.inView reader).bare) =
      (other.openTables reader).map fun table => (table.inView reader).bare := by
    rw [← List.forall₂_eq_eq_eq, List.forall₂_map_left_iff, List.forall₂_map_right_iff,
      List.forall₂_iff_zip]
    obtain ⟨hlength, hzip⟩ := List.forall₂_iff_zip.1 hlooks.tables
    refine ⟨hlength, fun hmem => ?_⟩
    have htable := List.mem_of_mem_filter (List.of_mem_zip hmem).1
    have hotherTable := List.mem_of_mem_filter (List.of_mem_zip hmem).2
    exact (hzip hmem).bare_inView (hwell.tables _ htable) (hotherWell.tables _ hotherTable)
  have hbare (schema : Schema) : (schema.view reader).bare =
      { filePath := "", readers := ∅
        globalStructs := .ofList (schema.globalStructs.toList.map Struct.bare)
        tables := .ofList ((schema.openTables reader).map fun table =>
          (table.inView reader).bare) } := by
    simp [Schema.bare, Schema.view_eq, Schema.rebuild, Schema.openTables, Function.comp_def]
  rw [hbare, hbare, hstructs, htables]

/-! ## Code of bare schemas -/

section Found

variable {schema : Schema} {reader : String} {declared : Reader}
  (hfound : schema.readers.lookup reader = .found declared)
include hfound

theorem Generate.Cpp.emission_bare : Cpp.emission schema reader =
    schema.bare.globalStructs.toList.flatMap (fun struct =>
        (Cpp.structArtifacts declared.namespaceParts struct).map some) ++
      schema.bare.tables.toList.flatMap
        (Cpp.tableArtifacts declared.namespaceParts schema.bare) := by
  simp only [Cpp.emission_of_found hfound, Schema.toList_bare_globalStructs,
    Schema.toList_bare_tables, List.flatMap_map, Cpp.structArtifacts_bare,
    Cpp.tableArtifacts_bare]

theorem Generate.Rust.emission_bare : Rust.emission schema reader =
    schema.bare.globalStructs.toList.map (some ∘ Rust.structArtifact) ++
      schema.bare.tables.toList.map (Rust.tableArtifact schema.bare) ++
      [some ⟨"mod.rs", text (Rust.moduleList schema.bare
        (some ⟨"", 0, declared.namespaceParts⟩) reader)⟩] := by
  simp only [Rust.emission_of_found hfound, Schema.toList_bare_globalStructs,
    Schema.toList_bare_tables, List.map_map, Function.comp_def, Rust.structArtifact_bare,
    Rust.tableArtifact_bare]
  rw [Rust.moduleList, Rust.moduleList, Rust.moduleNames_bare]
  rfl

end Found

/-- The code for a reader is made from the bare schema and the namespace of the reader. -/
theorem emission_congr {schema other : Schema} {reader : String} {declared otherDeclared : Reader}
    (hfound : schema.readers.lookup reader = .found declared)
    (hotherFound : other.readers.lookup reader = .found otherDeclared)
    (hparts : declared.namespaceParts = otherDeclared.namespaceParts)
    (hbare : schema.bare = other.bare) (language : Language) :
    emission language schema reader = emission language other reader := by
  cases language with
  | cpp =>
      rw [emission, emission, Cpp.emission_bare hfound, Cpp.emission_bare hotherFound, hparts,
        hbare]
  | rust =>
      rw [emission, emission, Rust.emission_bare hfound, Rust.emission_bare hotherFound, hparts,
        hbare]

/-! ## Code of views -/

theorem Schema.DeclaresIn.declares {schema : Schema} {reader : String} {parts : List String}
    (hdeclared : schema.DeclaresIn reader parts) : schema.Declares reader := by
  obtain ⟨declared, hfound, hname, -⟩ := hdeclared
  exact ⟨declared, hfound, hname⟩

theorem Schema.DeclaresIn.lookup_view {schema : Schema} {reader : String} {parts : List String}
    (hdeclared : schema.DeclaresIn reader parts) (hwell : schema.WellFormed) :
    ∃ declared, (schema.view reader).readers.lookup reader = .found declared ∧
      declared.namespaceParts = parts := by
  obtain ⟨declared, hfound, hname, hparts⟩ := hdeclared
  obtain ⟨i, -, hentry⟩ := Catalog.lookup_eq_found_iff.1 hfound
  refine ⟨declared, ?_, hparts⟩
  rw [view_readers, ← hname]
  exact Catalog.lookup_ofList hwell.readerNames.distinct (List.mem_of_getElem? hentry)

/-- Generating code for a reader makes the same files of all verified schemas that look alike to
the reader, and so attempts the same writes, in whatever file system, and ends in the same way. -/
theorem generateForReader_shown {schema other : Schema} {reader : String} {parts : List String}
    (hverified : schema.verify = .ok schema) (hotherVerified : other.verify = .ok other)
    (hdeclared : schema.DeclaresIn reader parts) (hotherDeclared : other.DeclaresIn reader parts)
    (hlooks : schema.LooksLike reader other) (language : Language) :
    ∃ artifacts : List Artifact,
      ∀ (m : Type → Type) [Monad m] [Files m] (directory : String) (ending : LineEnding),
        generateForReader (m := m) directory language ending schema reader =
          writeArtifacts directory ending (artifacts.map some) ∧
        generateForReader (m := m) directory language ending other reader =
          writeArtifacts directory ending (artifacts.map some) := by
  have hwell := schema.verify_eq_ok_iff.1 hverified
  have hotherWell := other.verify_eq_ok_iff.1 hotherVerified
  obtain ⟨hview, hmakes⟩ := verifiedView_makes hverified hdeclared.declares
  obtain ⟨hotherView, -⟩ := verifiedView_makes hotherVerified hotherDeclared.declares
  have hsame : emission language (schema.view reader) reader =
      emission language (other.view reader) reader := by
    obtain ⟨declared, hfound, hparts⟩ := hdeclared.lookup_view hwell
    obtain ⟨otherDeclared, hotherFound, hotherParts⟩ := hotherDeclared.lookup_view hotherWell
    exact emission_congr hfound hotherFound (hparts.trans hotherParts.symm)
      (hlooks.bare_view hwell hotherWell) language
  obtain ⟨artifacts, hartifacts⟩ := hmakes language
  refine ⟨artifacts, ?_⟩
  intro m _ _ directory ending
  constructor
  · rw [generateForReader, hview, ← hartifacts]
    rfl
  · rw [generateForReader, hotherView, ← hartifacts, hsame]
    rfl

namespace Example

/-- The market as another reader may have it: with a table before the others and columns around the
key of the goods that are for the auditor only, and with other files. -/
def auditedMarket : Schema where
  filePath := "audited.xml"
  readers := .ofList
    [⟨"auditor", 1, ["office"]⟩, ⟨"client", 2, ["market"]⟩, ⟨"server", 3, ["market", "back"]⟩]
  globalStructs := .ofList [⟨"Price", 5, none, .ofList [⟨"coin", 5, .string⟩, ⟨"count", 6, .int⟩]⟩]
  tables := .ofList
    [{ name := "Taxes", line := 7, fileName := "taxes.txt", keyType := .single, keyName := "year"
       keyColumnIndex := 0, readers := .ofList ["auditor"], localStructs := ∅
       columns := .ofList [⟨"year", 8, .int, none, none, ∅⟩] },
     { goods with
       line := 9, fileName := "sales.txt", keyColumnIndex := 2
       columns := .ofList
         [⟨"margin", 10, .int, none, none, .ofList ["auditor"]⟩,
          ⟨"source", 11, .struct, none, some (.ofSchema 0), .ofList ["auditor", "server"]⟩,
          ⟨"stall", 12, .int, none, none, .ofList ["server"]⟩,
          ⟨"ware", 13, .string, none, none, .ofList ["client"]⟩,
          ⟨"prices", 14, .list, some .struct, some (.ofSchema 0), ∅⟩] },
     { stalls with line := 15, readers := .ofList ["auditor", "client"] }]

theorem verify_auditedMarket : auditedMarket.verify = .ok auditedMarket := rfl

theorem market_looksLike_auditedMarket : market.LooksLike "client" auditedMarket where
  globalStructs := by decide
  tables := .cons ⟨rfl, rfl, rfl, by decide, by decide⟩
    (.cons ⟨rfl, rfl, rfl, by decide, by decide⟩ .nil)

end Example

open Example in
theorem generateForReader_shown_market :
    market.verify = .ok market ∧ auditedMarket.verify = .ok auditedMarket ∧
      market.DeclaresIn "client" ["market"] ∧ auditedMarket.DeclaresIn "client" ["market"] ∧
      market.LooksLike "client" auditedMarket ∧
      ∃ artifacts : List Artifact,
        ∀ (m : Type → Type) [Monad m] [Files m] (directory : String) (ending : LineEnding),
          generateForReader (m := m) directory .cpp ending market "client" =
            writeArtifacts directory ending (artifacts.map some) ∧
          generateForReader (m := m) directory .cpp ending auditedMarket "client" =
            writeArtifacts directory ending (artifacts.map some) := by
  have hdeclared : market.DeclaresIn "client" ["market"] :=
    ⟨⟨"client", 1, ["market"]⟩, by decide, rfl, rfl⟩
  have hauditedDeclared : auditedMarket.DeclaresIn "client" ["market"] :=
    ⟨⟨"client", 2, ["market"]⟩, by decide, rfl, rfl⟩
  exact ⟨verify_market, verify_auditedMarket, hdeclared, hauditedDeclared,
    market_looksLike_auditedMarket,
    generateForReader_shown verify_market verify_auditedMarket hdeclared hauditedDeclared
      market_looksLike_auditedMarket .cpp⟩

end TableSchema
