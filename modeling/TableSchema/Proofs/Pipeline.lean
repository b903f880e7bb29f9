import TableSchema.Compile
import TableSchema.Example.Documents
import TableSchema.Proofs.Schema.Accepted
import TableSchema.Proofs.Schema.ViewRuns

/-!
# From a document to generated code

Once a document is analysed, nothing that follows can fail but the writing of files: verification
finds no fault, views for declared readers can be taken, every table has its key column, and every
column has a type to be written.
-/

namespace TableSchema

open Generate

/-! ## What is generated -/

/-- An operation that fails at nothing but the writing of a file. -/
def FailsOnlyByWriting {m : Type → Type} [Monad m] (operation : m (Except Failure Unit)) : Prop :=
  ∃ writing : m (Except (String × FileError) Unit),
    operation = (fun result => result.mapError fun (path, e) => .error (.write path e)) <$> writing

/-- What code generation needs of a table: its key column, and for every column the name of a type,
which is that of a struct if its values are structs. -/
structure Table.Generable (schema : Schema) (table : Table) : Prop where
  key : ∃ column, table.keyColumn? = some column
  typeNames : ∀ column ∈ table.columns.toList,
    Cpp.valueType schema table column ≠ "" ∧ Rust.valueType schema table column ≠ ""
  structNames : ∀ column ∈ table.columns.toList, column.valueType = .struct →
    ∃ struct, schema.columnStruct? table column = some struct ∧
      Cpp.valueType schema table column = struct.name ∧
      Rust.valueType schema table column = Rust.structPath struct

theorem Identifier.ne_empty {name : String} (hname : Identifier name) : name ≠ "" := by
  rintro rfl
  exact absurd hname (by decide)

theorem Generate.Rust.escape_ne_empty {name : String} (hname : name ≠ "") :
    Rust.escape name ≠ "" := by
  unfold Rust.escape
  split
  · exact fun h => by simpa using congrArg String.length h
  · exact hname

theorem Generate.Rust.structPath_ne_empty {struct : Struct} (hname : struct.name ≠ "") :
    Rust.structPath struct ≠ "" := by
  unfold Rust.structPath
  split
  · exact fun h => by simpa using congrArg String.length h
  · exact Rust.escape_ne_empty hname

theorem Column.WellFormed.valueType_ne_list {schema : Schema} {table : Table} {column : Column}
    (hwell : column.WellFormed schema table) : column.valueType ≠ .list := by
  unfold Column.valueType
  cases hlist : column.listType with
  | none =>
      have htype : column.type ≠ .list := fun h => by simpa [hlist] using hwell.hasListType.2 h
      exact htype
  | some type =>
      rintro rfl
      exact hwell.noNestedList hlist

theorem Column.WellFormed.type_eq_struct_iff {schema : Schema} {table : Table} {column : Column}
    (hwell : column.WellFormed schema table) :
    column.type = .struct ↔ column.valueType = .struct ∧ column.isList = false := by
  have htype := hwell.hasListType
  constructor
  · intro hstruct
    have hnone : column.listType = none := by
      rw [← Option.not_isSome_iff_eq_none, htype, hstruct]
      decide
    simp [Column.valueType, Column.isList, hstruct, hnone]
  · rintro ⟨hstruct, hlist⟩
    have hnone : column.listType = none := by
      rw [← Option.not_isSome_iff_eq_none, htype]
      simpa [Column.isList] using hlist
    simpa [Column.valueType, hnone] using hstruct

/-- A column that may be a key holds single values of its own type. -/
theorem Column.WellFormed.valueType_of_canBeKey {schema : Schema} {table : Table} {column : Column}
    (hwell : column.WellFormed schema table) (hkey : column.type.canBeKey) :
    column.valueType = column.type ∧ column.isList = false := by
  have hlist : column.type ≠ .list := by
    intro h
    rw [h] at hkey
    cases hkey
  have hnone : column.listType = none := by
    rw [← Option.not_isSome_iff_eq_none, hwell.hasListType]
    exact hlist
  simp [Column.valueType, Column.isList, hnone, hlist]

theorem Table.WellFormed.generable {schema : Schema} {table : Table} (hschema : schema.WellFormed)
    (hwell : table.WellFormed schema) : table.Generable schema := by
  have hstructs : ∀ column ∈ table.columns.toList, column.valueType = .struct →
      ∃ struct, schema.columnStruct? table column = some struct ∧
        Cpp.valueType schema table column = struct.name ∧
        Rust.valueType schema table column = Rust.structPath struct := by
    intro column hmem hvalue
    have hcolumn := hwell.columns column hmem
    obtain ⟨ref, href⟩ := Option.isSome_iff_exists.1 (hcolumn.hasStruct.2 hvalue)
    obtain ⟨struct, hstruct⟩ := Option.isSome_iff_exists.1 (hcolumn.resolves ref href)
    have hfound : schema.columnStruct? table column = some struct := by
      rw [Schema.columnStruct?, href]
      exact hstruct
    exact ⟨struct, hfound, by simp [Cpp.valueType, hvalue, hfound],
      by simp [Rust.valueType, hvalue, hfound]⟩
  refine ⟨hwell.key.imp fun _ hkey => hkey.1, ?_, hstructs⟩
  intro column hmem
  cases hvalue : column.valueType with
  | int => simp [Cpp.valueType, Rust.valueType, hvalue]
  | string => simp [Cpp.valueType, Rust.valueType, hvalue]
  | list => exact absurd hvalue (hwell.columns column hmem).valueType_ne_list
  | struct =>
      obtain ⟨struct, hfound, hcpp, hrust⟩ := hstructs column hmem hvalue
      obtain ⟨ref, -, hstruct⟩ := Option.bind_eq_some_iff.1 hfound
      have hname := (hschema.structName hwell hstruct).ne_empty
      exact ⟨hcpp ▸ hname, hrust ▸ Rust.structPath_ne_empty hname⟩

/-! ## Writing -/

/-- Every artifact can be made if the key columns are in their places. -/
theorem none_not_mem_emission {schema : Schema} (hreaders : schema.readers.Indexed)
    (htables : ∀ table ∈ schema.tables.toList, table.Generable schema) (language : Language)
    (reader : String) : none ∉ emission language schema reader := by
  cases language with
  | cpp =>
      rw [emission, Cpp.emission]
      split
      next hstale => exact absurd hstale hreaders.lookup_ne_stale
      next =>
        intro hmem
        rcases List.mem_append.1 hmem with hstruct | htable
        · simp at hstruct
        · obtain ⟨table, htable, hnone⟩ := List.mem_flatMap.1 htable
          obtain ⟨key, hkey⟩ := (htables table htable).key
          simp [Cpp.tableArtifacts, hkey] at hnone
  | rust =>
      rw [emission, Rust.emission, List.append_assoc]
      intro hmem
      rcases List.mem_append.1 hmem with hstruct | hmem
      · simp at hstruct
      rcases List.mem_append.1 hmem with htable | hlist
      · obtain ⟨table, htable, hnone⟩ := List.mem_map.1 htable
        obtain ⟨key, hkey⟩ := (htables table htable).key
        simp [Rust.tableArtifact, hkey] at hnone
      · rw [List.mem_singleton, Rust.listArtifact] at hlist
        split at hlist
        next hstale => exact absurd hstale hreaders.lookup_ne_stale
        next => cases hlist

/-- What is made is a list of artifacts if nothing is missing. -/
theorem exists_artifacts {schema : Schema} (hreaders : schema.readers.Indexed)
    (htables : ∀ table ∈ schema.tables.toList, table.Generable schema) (language : Language)
    (reader : String) :
    ∃ artifacts : List Artifact, emission language schema reader = artifacts.map some := by
  have hmade := none_not_mem_emission hreaders htables language reader
  generalize emission language schema reader = made at hmade
  induction made with
  | nil => exact ⟨[], rfl⟩
  | cons first rest ih =>
      rw [List.mem_cons, not_or] at hmade
      obtain ⟨artifact, rfl⟩ := Option.ne_none_iff_exists'.1 (Ne.symm hmade.1)
      obtain ⟨artifacts, rfl⟩ := ih hmade.2
      exact ⟨artifact :: artifacts, rfl⟩

section Found

variable {schema : Schema} {reader : String} {declared : Reader}
  (hfound : schema.readers.lookup reader = .found declared)
include hfound

theorem Generate.Cpp.emission_of_found : Cpp.emission schema reader =
    schema.globalStructs.toList.flatMap (fun struct =>
        (Cpp.structArtifacts declared.namespaceParts struct).map some) ++
      schema.tables.toList.flatMap (Cpp.tableArtifacts declared.namespaceParts schema) := by
  rw [Cpp.emission, hfound]
  rfl

theorem Generate.Rust.emission_of_found : Rust.emission schema reader =
    schema.globalStructs.toList.map (some ∘ Rust.structArtifact) ++
      schema.tables.toList.map (Rust.tableArtifact schema) ++
      [some ⟨"mod.rs", text (Rust.moduleList schema (some declared) reader)⟩] := by
  rw [Rust.emission, Rust.listArtifact, hfound]
  rfl

end Found

section Writing

variable {m : Type → Type} [Monad m] [LawfulMonad m] [Files m]

theorem writeArtifacts_failsOnlyByWriting (directory : String) (ending : LineEnding)
    {artifacts : Emission} (hmade : none ∉ artifacts) :
    FailsOnlyByWriting (m := m) (writeArtifacts directory ending artifacts) := by
  induction artifacts with
  | nil => exact ⟨pure (.ok ()), by simp [writeArtifacts, Except.mapError]⟩
  | cons first rest ih =>
      rw [List.mem_cons, not_or] at hmade
      obtain ⟨artifact, rfl⟩ := Option.ne_none_iff_exists'.1 (Ne.symm hmade.1)
      obtain ⟨writing, hwriting⟩ := ih hmade.2
      let path := Path.join directory artifact.fileName
      let first : ExceptT (String × FileError) m Unit :=
        ExceptT.mk (Except.mapError (path, ·) <$> Files.write path (ending.convert artifact.text))
      refine ⟨(first >>= fun _ => ExceptT.mk writing).run, ?_⟩
      rw [writeArtifacts, writeInto, hwriting, ExceptT.run_bind, map_bind, bind_assoc,
        ExceptT.run_mk, bind_map_left]
      refine congrArg _ (funext fun written => ?_)
      cases written with
      | error e => simp [Except.mapError, path]
      | ok => simp [Except.mapError]

end Writing

theorem verifiedView_of_wellFormed {schema view : Schema} {reader : String}
    (hview : schema.viewFor reader = .ok view) (hwell : view.WellFormed) :
    verifiedView schema reader = .ok view := by
  rw [verifiedView, hview]
  show view.verify.mapError Failure.error = .ok view
  rw [view.verify_eq_ok_iff.2 hwell]
  rfl

/-- The view for a declared reader passes verification, and all its artifacts are made. -/
theorem verifiedView_makes {schema : Schema} {reader : String}
    (hverified : schema.verify = .ok schema) (hdeclared : schema.Declares reader) :
    verifiedView schema reader = .ok (schema.view reader) ∧
      ∀ language, ∃ artifacts : List Artifact,
        emission language (schema.view reader) reader = artifacts.map some := by
  have hwell := (schema.verify_eq_ok_iff.1 hverified).view reader
  refine ⟨verifiedView_of_wellFormed (Schema.viewFor_of_declares reader hdeclared) hwell, ?_⟩
  intro language
  exact exists_artifacts (schema.indexed_readers_view reader)
    (fun table htable => (hwell.tables table htable).generable hwell) language reader

/-- A view for a declared reader passes verification, and its code can be generated. -/
theorem Schema.Viewable.generates {names : List String} {schema : Schema}
    (hviewable : schema.Viewable names) {reader : String} (hmem : reader ∈ names) :
    ∃ kept, verifiedView schema reader = .ok kept ∧
      (∀ table ∈ kept.tables.toList, table.Generable kept) ∧
      ∀ (m : Type → Type) [Monad m] [LawfulMonad m] [Files m] (directory : String)
        (language : Language) (ending : LineEnding),
        FailsOnlyByWriting (m := m)
          (generateForReader directory language ending schema reader) := by
  obtain ⟨hview, hkept⟩ := hviewable.viewFor hmem
  have hverified := verifiedView_of_wellFormed hview hkept.wellFormed
  have htables : ∀ table ∈ (schema.view reader).tables.toList,
      table.Generable (schema.view reader) := fun table htable =>
    (hkept.wellFormed.tables table htable).generable hkept.wellFormed
  refine ⟨schema.view reader, hverified, htables, ?_⟩
  intro m _ _ _ directory language ending
  rw [generateForReader, hverified]
  exact writeArtifacts_failsOnlyByWriting directory ending
    (none_not_mem_emission hkept.indexed htables language reader)

/-- A schema that is compiled has been read from a document, and is verified as it stands. -/
theorem readFrom_of_compileSchema {readDocument : Markup.DocumentReader} {filePath text : String}
    {schema : Schema} (hcompiled : compileSchema readDocument filePath text = .ok schema) :
    schema.verify = .ok schema ∧ ∃ root, schema.ReadFrom root := by
  obtain ⟨analysed, haccepted, hverified⟩ := bind_eq_ok_iff.1 hcompiled
  obtain ⟨-, root, -, hread⟩ := Schema.ofDocument_eq_ok_iff.1 haccepted
  have hkept := analysed.verify_eq_ok_iff.2 hread.wellFormed
  obtain rfl : analysed = schema := Except.ok.inj (hkept.symm.trans hverified)
  exact ⟨hkept, root, hread⟩

theorem Markup.readDocument_ofList (cs : List Char) :
    readDocument (String.ofList cs) = (readRoot (cs.length + 1)).run' ⟨1, cs⟩ := by
  rw [readDocument, String.toList_ofList]

/-- A document that is given by its characters is read from them, with no need to decode a text. -/
theorem Schema.ofDocument_ofList (filePath : String) (cs : List Char) :
    Schema.ofDocument Markup.readDocument filePath (String.ofList cs) =
      match (Markup.readRoot (cs.length + 1)).run' ⟨1, cs⟩ with
      | .error e => .error (.definition filePath e.row .unreadable)
      | .ok root => Schema.ofElement filePath root := by
  have hread := Markup.readDocument_ofList cs
  cases hroot : (Markup.readRoot (cs.length + 1)).run' ⟨1, cs⟩ with
  | error e => simp only [Schema.ofDocument, hread, hroot]
  | ok root => simp only [Schema.ofDocument, hread, hroot]

theorem compileSchema_ofList (filePath : String) (cs : List Char) :
    compileSchema Markup.readDocument filePath (String.ofList cs) =
      match (Markup.readRoot (cs.length + 1)).run' ⟨1, cs⟩ with
      | .error e => .error (.definition filePath e.row .unreadable)
      | .ok root => Schema.ofElement filePath root >>= Schema.verify := by
  rw [compileSchema, Schema.ofDocument_ofList]
  cases (Markup.readRoot (cs.length + 1)).run' ⟨1, cs⟩ with
  | error e => rfl
  | ok root => rfl

/-- A document is compiled just if its analysis succeeds. From its schema, views for declared
readers can be taken in any number and order; each is sound, and generating code from it for a
declared reader finds a column for every key and a name for every type, so that it can fail only
where a file cannot be written. -/
theorem only_analysis_and_writing_fail (readDocument : Markup.DocumentReader)
    (filePath text : String) :
    compileSchema readDocument filePath text = Schema.ofDocument readDocument filePath text ∧
      ∀ schema, Schema.ofDocument readDocument filePath text = .ok schema →
        schema.verify = .ok schema ∧
        ∀ readers : List String, (∀ reader ∈ readers, reader ∈ schema.readers.names) →
          ∃ view, readers.foldlM Schema.viewFor schema = .ok view ∧ view.verify = .ok view ∧
            ∀ reader ∈ schema.readers.names, ∃ kept, verifiedView view reader = .ok kept ∧
              (∀ table ∈ kept.tables.toList, table.Generable kept) ∧
              ∀ (m : Type → Type) [Monad m] [LawfulMonad m] [Files m] (directory : String)
                (language : Language) (ending : LineEnding),
                FailsOnlyByWriting (m := m)
                  (generateForReader directory language ending view reader) := by
  have hverified : ∀ schema, Schema.ofDocument readDocument filePath text = .ok schema →
      schema.verify = .ok schema := by
    intro schema haccepted
    obtain ⟨-, root, -, hread⟩ := Schema.ofDocument_eq_ok_iff.1 haccepted
    exact schema.verify_eq_ok_iff.2 hread.wellFormed
  refine ⟨?_, fun schema haccepted => ⟨hverified schema haccepted, ?_⟩⟩
  · unfold compileSchema
    cases haccepted : Schema.ofDocument readDocument filePath text with
    | error e => rfl
    | ok schema => exact hverified schema haccepted
  · intro readers hreaders
    obtain ⟨-, root, -, hread⟩ := Schema.ofDocument_eq_ok_iff.1 haccepted
    have hviewable : schema.Viewable schema.readers.names :=
      ⟨hread.wellFormed, hread.readers.indexed, rfl⟩
    obtain ⟨view, hrun, hview⟩ := hviewable.foldlM_viewFor hreaders
    refine ⟨view, hrun, view.verify_eq_ok_iff.2 hview.wellFormed, ?_⟩
    intro reader hmem
    exact hview.generates hmem

set_option maxRecDepth 4000 in
open Example in
theorem only_writing_fails_sketch :
    (Schema.ofDocument Markup.readDocument "sketch.xml" sketch).toOption.map (·.readers.names) =
        some ["r"] ∧
      ∃ schema view kept, compileSchema Markup.readDocument "sketch.xml" sketch = .ok schema ∧
        ["r", "r"].foldlM Schema.viewFor schema = .ok view ∧ view.verify = .ok view ∧
        verifiedView view "r" = .ok kept ∧ (∀ table ∈ kept.tables.toList, table.Generable kept) ∧
        FailsOnlyByWriting (m := StateM FileTree)
          (generateForReader "out" .rust .dos view "r") := by
  have hnames : (Schema.ofDocument Markup.readDocument "sketch.xml" sketch).toOption.map
      (·.readers.names) = some ["r"] := by
    rw [show Schema.ofDocument Markup.readDocument "sketch.xml" sketch = _ from
      Schema.ofDocument_ofList "sketch.xml" _]
    decide +kernel
  obtain ⟨hcompiled, hgenerates⟩ :=
    only_analysis_and_writing_fail Markup.readDocument "sketch.xml" sketch
  obtain ⟨schema, haccepted, hreader⟩ := toOption_map_eq_some_iff.1 hnames
  obtain ⟨-, hviews⟩ := hgenerates schema haccepted
  obtain ⟨view, hrun, hview, hkept⟩ := hviews ["r", "r"] (by simp [hreader])
  obtain ⟨kept, hverified, htables, hwrites⟩ := hkept "r" (by simp [hreader])
  exact ⟨hnames, schema, view, kept, hcompiled.trans haccepted, hrun, hview, hverified, htables,
    hwrites (StateM FileTree) "out" .rust .dos⟩

end TableSchema
