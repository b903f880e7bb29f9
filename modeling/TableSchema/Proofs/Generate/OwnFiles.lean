import TableSchema.Proofs.Files.Operations
import TableSchema.Proofs.Generate.ModuleList

/-!
# Files of their own

If the stems of the structs and tables in a reader's view are distinct, then everything that is
generated for the reader is found in a file of its own. Distinct names may have one stem, though,
and what is generated first is then written over.
-/

namespace TableSchema

open Generate

namespace Generate

variable {schema : Schema} {reader : String}

/-! ## What is made -/

variable {declared : Reader} (hfound : schema.readers.lookup reader = .found declared)
  (hkeys : ∀ table ∈ schema.tables.toList, ∃ key, table.keyColumn? = some key)
include hfound hkeys

/-- The names of the files that are made. -/
theorem emission_fileNames (language : Language) :
    (emission language schema reader).map (Option.map Artifact.fileName) =
      (language.fileNames (schema.generatedNames.map language.stem)).map some := by
  cases language with
  | cpp =>
      have htables : ∀ table ∈ schema.tables.toList,
          (Cpp.tableArtifacts declared.namespaceParts schema table).map
            (Option.map Artifact.fileName) =
              [some (Cpp.fileStem table.name ++ ".h"),
                some (Cpp.fileStem table.name ++ ".cc")] := by
        intro table htable
        obtain ⟨key, hkey⟩ := hkeys table htable
        simp [Cpp.tableArtifacts, hkey, Cpp.headerFile, Cpp.sourceFile]
      rw [emission, Cpp.emission_of_found hfound, List.map_append, List.map_flatMap,
        List.map_flatMap, List.flatMap_congr htables]
      simp [Schema.generatedNames, Language.fileNames, Language.stem, Catalog.names,
        Cpp.structArtifacts, Cpp.headerFile, Cpp.sourceFile, List.flatMap_map, List.map_flatMap,
        Named.name]
  | rust =>
      have htables : ∀ table ∈ schema.tables.toList,
          (Rust.tableArtifact schema table).map Artifact.fileName =
            some (Rust.moduleName table.name ++ ".rs") := by
        intro table htable
        obtain ⟨key, hkey⟩ := hkeys table htable
        rw [Rust.tableArtifact, hkey]
        rfl
      have hnames : (schema.tables.toList.map (Rust.tableArtifact schema)).map
          (Option.map Artifact.fileName) =
            schema.tables.toList.map fun table => some (Rust.moduleName table.name ++ ".rs") := by
        rw [List.map_map]
        exact List.map_congr_left htables
      rw [emission, Rust.emission_of_found hfound, List.map_append, List.map_append, hnames]
      simp [Schema.generatedNames, Language.fileNames, Language.stem, Catalog.names,
        Rust.structArtifact, Rust.moduleFile, Named.name, Function.comp_def]

end Generate

/-! ## What is written -/

/-- The file into which an artifact is written. -/
def FileTree.fileOf (directory : String) (ending : LineEnding) (tree : FileTree)
    (artifact : Artifact) : Except Failure (Place × String) := do
  let place ← (tree.placeIn directory artifact.fileName).mapError .error
  return (place, ending.convert artifact.text)

theorem run_writeArtifacts {tree : FileTree} (directory : String) (ending : LineEnding)
    (artifacts : List Artifact) :
    (writeArtifacts directory ending (artifacts.map some) : StateM FileTree _).run tree =
      let run := tree.writeEach (FileTree.fileOf directory ending) artifacts
      (run.1, tree.overlay run.2) := by
  induction artifacts generalizing tree with
  | nil => rfl
  | cons artifact rest ih =>
      rw [List.map_cons, writeArtifacts, run_bind, run_writeInto, FileTree.writeEach,
        FileTree.fileOf]
      cases tree.placeIn directory artifact.fileName with
      | error e => rfl
      | ok place =>
          simp only [Except.mapError, bind, Except.bind, pure, Except.pure]
          rw [ih]
          rfl

namespace FileTree

variable {tree after : FileTree} {directory path text : String} {ending : LineEnding}
  {artifacts : List Artifact} {files : List (Place × String)} {place : Place}

theorem fileOf_eq_ok_iff {artifact : Artifact} :
    fileOf directory ending tree artifact = .ok (place, text) ↔
      tree.target (Path.join directory artifact.fileName) = .ok place ∧
        ending.convert artifact.text = text := by
  simp [fileOf, bind_eq_ok_iff, mapError_eq_ok_iff, placeIn_eq_ok_iff, pure, Except.pure]

/-- Artifacts are written one after the other up to the first that cannot be written. -/
theorem fileOf_writesUpTo (tree : FileTree) (directory : String) (ending : LineEnding)
    (artifacts : List Artifact) :
    let run := tree.writeEach (fileOf directory ending) artifacts
    tree.WritesUpTo (fileOf directory ending) (tree.overlay run.2) artifacts run.1 run.2 := by
  have hplaces : ∀ (tree : FileTree) artifact written,
      fileOf directory ending tree artifact = .ok written →
        tree.get? written.1 ≠ some .directory := fun tree artifact written hfile =>
    (target_mem_route (fileOf_eq_ok_iff.1 hfile).1).2
  apply writeEach_writesUpTo (fun _ => True) _ (hplaces tree) trivial
  intro tree _ artifact _ written hfile
  refine ⟨trivial, fun next _ later hlater => ?_⟩
  have hsame : tree.SameDirectories (tree.overlay [written]) :=
    sameDirectories_put (hplaces tree artifact written hfile)
  rw [fileOf_eq_ok_iff] at hlater ⊢
  rw [hsame.target_eq_ok_iff] at hlater
  exact hlater

/-- Files of different names are written at different places of a directory. -/
theorem target_join_injective {name other : String} (hname : Path.IsStep name)
    (hother : Path.IsStep other) (htarget : tree.target (Path.join directory name) = .ok place)
    (hotherTarget : tree.target (Path.join directory other) = .ok place) : name = other := by
  have hends : ∀ name, Path.IsStep name → tree.target (Path.join directory name) = .ok place →
      place.getLast? = some name := by
    intro name hname htarget
    obtain ⟨-, last, above, hlast, -, -, -, rfl, -⟩ := target_eq_ok_iff.1 htarget
    rw [Path.steps_join hname, List.getLast?_concat] at hlast
    rw [List.getLast?_concat, hlast]
  have hlast := hends name hname htarget
  rw [hends other hother hotherTarget] at hlast
  exact (Option.some.inj hlast).symm

theorem lookup_reverse_of_nodup (hdistinct : (files.map Prod.fst).Nodup)
    (hmem : (place, text) ∈ files) : files.reverse.lookup place = some text := by
  obtain ⟨before, others, rfl⟩ := List.append_of_mem hmem
  rw [List.lookup_eq_some_iff]
  refine ⟨others.reverse, before.reverse, by simp, fun file hfile => bne_iff_ne.2 ?_⟩
  intro hplace
  rw [List.map_append, List.map_cons] at hdistinct
  have hlater := (List.nodup_cons.1 (List.nodup_append.1 hdistinct).2.1).1
  rw [hplace] at hlater
  exact hlater (List.mem_map.2 ⟨file, List.mem_reverse.1 hfile, rfl⟩)

/-- Artifacts that are all written under names of their own are all found. -/
theorem WritesUpTo.text_eq
    (hwrites : tree.WritesUpTo (fileOf directory ending) after artifacts (.ok ()) files)
    (hsteps : ∀ artifact ∈ artifacts, Path.IsStep artifact.fileName)
    (hdistinct : (artifacts.map Artifact.fileName).Nodup) :
    ∀ artifact ∈ artifacts,
      after.text (Path.join directory artifact.fileName) = .ok (ending.convert artifact.text) := by
  have hsame : tree.SameDirectories after := hwrites.sameDirectories fun artifact written hfile =>
    (target_mem_route (fileOf_eq_ok_iff.1 hfile).1).2
  have hdone : List.Forall₂ (fun artifact written =>
      fileOf directory ending tree artifact = .ok written) artifacts files := by
    obtain ⟨done, left, rfl, hdone, hleft⟩ := hwrites.items
    rcases hleft with ⟨rfl, -⟩ | ⟨next, rest, e, -, -, hfailed⟩
    · rw [List.append_nil]
      exact hdone
    · cases hfailed
  have hplaces : (files.map Prod.fst).Nodup := by
    clear hwrites
    induction hdone with
    | nil => simp
    | @cons artifact written artifacts files hfile hrest ih =>
        rw [List.forall_mem_cons] at hsteps
        rw [List.map_cons, List.nodup_cons] at hdistinct ⊢
        refine ⟨fun hmem => ?_, ih hsteps.2 hdistinct.2⟩
        obtain ⟨other, hother, hplace⟩ := List.mem_map.1 hmem
        obtain ⟨next, hnext, hnextFile⟩ := exists_left_of_forall₂ hrest other hother
        have hname := target_join_injective (hsteps.2 next hnext) hsteps.1
          (hplace ▸ (fileOf_eq_ok_iff.1 hnextFile).1) (fileOf_eq_ok_iff.1 hfile).1
        exact hdistinct.1 (hname ▸ List.mem_map_of_mem hnext)
  intro artifact hmem
  obtain ⟨⟨place, text⟩, hwritten, hfile⟩ := exists_right_of_forall₂ hdone artifact hmem
  obtain ⟨htarget, rfl⟩ := fileOf_eq_ok_iff.1 hfile
  apply text_of_target (hsame.target_eq_ok htarget)
  rw [hwrites.places, lookup_reverse_of_nodup hplaces hwritten]
  rfl

end FileTree

/-! ## What is found -/

section Views

variable {schema : Schema} {reader : String}

/-- What is made of a verified view is written. -/
theorem run_generateForReader_of_ok (directory : String) (language : Language)
    (ending : LineEnding) (tree : FileTree) {view : Schema} {artifacts : List Artifact}
    (hview : verifiedView schema reader = .ok view)
    (hartifacts : emission language view reader = artifacts.map some) :
    let written := tree.writeEach (FileTree.fileOf directory ending) artifacts
    (generateForReader directory language ending schema reader : StateM FileTree _).run tree =
      (written.1, tree.overlay written.2) := by
  simp only [generateForReader, hview, generateInto, hartifacts, run_writeArtifacts]

variable (hdeclared : schema.Declares reader) (hwell : (schema.view reader).WellFormed)
include hdeclared hwell

/-- What is made of a sound view: files that are named after its structs and tables. -/
theorem exists_named_artifacts (language : Language) :
    ∃ artifacts : List Artifact,
      emission language (schema.view reader) reader = artifacts.map some ∧
      artifacts.map Artifact.fileName =
        language.fileNames ((schema.view reader).generatedNames.map language.stem) ∧
      ∀ artifact ∈ artifacts, Path.IsStep artifact.fileName := by
  obtain ⟨declared, hfound, -⟩ := hdeclared.view reader reader
  obtain ⟨artifacts, hartifacts⟩ := exists_artifacts (schema.indexed_readers_view reader)
    (fun table htable => (hwell.tables table htable).generable hwell) language reader
  have hnames : artifacts.map Artifact.fileName =
      language.fileNames ((schema.view reader).generatedNames.map language.stem) := by
    have hall := emission_fileNames hfound
      (fun table htable => (hwell.tables table htable).key.imp fun _ hkey => hkey.1) language
    rw [hartifacts, List.map_map] at hall
    apply List.map_injective_iff.2 fun _ _ => Option.some.inj
    rw [← hall, List.map_map]
    rfl
  refine ⟨artifacts, hartifacts, hnames, fun artifact hmem => ?_⟩
  have hstems : ∀ stem ∈ (schema.view reader).generatedNames.map language.stem,
      '/' ∉ stem.toList := by
    intro stem hstem
    obtain ⟨name, hname, rfl⟩ := List.mem_map.1 hstem
    exact slash_not_mem_stem language (hwell.globalNames.identifiers name hname)
  apply isStep_of_mem_fileNames hstems
  rw [← hnames]
  exact List.mem_map_of_mem hmem

/-- In Rust the last artifact lists the modules, which are the stems of the files before it. -/
theorem exists_module_list {artifacts : List Artifact}
    (hartifacts : emission .rust (schema.view reader) reader = artifacts.map some)
    (hnames : artifacts.map Artifact.fileName =
      Language.rust.fileNames ((schema.view reader).generatedNames.map Language.rust.stem)) :
    let stems := (schema.view reader).generatedNames.map Language.rust.stem
    ∃ entities list, artifacts = entities ++ [list] ∧
      entities.map Artifact.fileName = stems.map (· ++ ".rs") ∧
      list.fileName = "mod.rs" ∧ (∀ artifact ∈ entities, artifact.fileName ≠ "mod.rs") ∧
      (splitText '\n' list.text).filter Rust.declaresModule =
        stems.map fun stem => "pub mod " ++ stem ++ ";" := by
  intro stems
  obtain ⟨declared, hfound, hname⟩ := hdeclared.view reader reader
  have hmodules : Rust.moduleNames (schema.view reader) = stems := Rust.moduleNames_eq _
  rw [emission, Rust.emission_of_found hfound, eq_comm, List.map_eq_append_iff] at hartifacts
  obtain ⟨entities, last, rfl, -, hlast⟩ := hartifacts
  obtain ⟨list, rfl, hlist⟩ := List.map_eq_singleton_iff.1 hlast
  have hlistName : list.fileName = "mod.rs" := congrArg Artifact.fileName (Option.some.inj hlist)
  have hlistText : list.text = text (Rust.moduleList (schema.view reader) (some declared) reader) :=
    congrArg Artifact.text (Option.some.inj hlist)
  clear hlist hlast
  have hentities : entities.map Artifact.fileName = stems.map (· ++ ".rs") := by
    rw [List.map_append, List.map_singleton, hlistName] at hnames
    exact List.append_cancel_right hnames
  refine ⟨entities, list, rfl, hentities, hlistName, fun artifact hmem hmod => ?_, ?_⟩
  · have hfile : artifact.fileName ∈ stems.map (· ++ ".rs") :=
      hentities ▸ List.mem_map_of_mem hmem
    obtain ⟨stem, hstem, hstemFile⟩ := List.mem_map.1 hfile
    obtain ⟨name, -, rfl⟩ := List.mem_map.1 hstem
    have hsame : Language.rust.stem name ++ ".rs" = "mod" ++ ".rs" := hstemFile.trans hmod
    exact Rust.escape_ne_mod (snakeCase name) (String.append_left_inj _ |>.1 hsame)
  · have hmem := ((schema.indexed_readers_view reader).mem_of_lookup hfound).1
    have hlines : ∀ line ∈ Rust.moduleList (schema.view reader) (some declared) reader,
        '\n' ∉ line.toList := by
      apply Rust.lineFeed_not_mem_moduleList
      · exact fun part hpart => isWord_of_identifier (hwell.namespaces declared hmem part hpart)
      · rw [← hname]
        exact isWord_of_properNames hwell.readerNames declared hmem
      · exact hwell.moduleWords
    rw [hlistText, splitText_text hlines, List.filter_append, Rust.filter_declaresModule, hmodules]
    simp [Rust.declaresModule]

end Views

/-- What is generated for a declared reader from a verified schema. The files have different names
just if the structs and tables in the reader's view have different stems, and then, unless a file
cannot be written, each of them holds the text that was made for it. In Rust the last of them
declares the module of each stem, and none of them twice just if the stems are different. -/
theorem generateForReader_ownFiles {schema : Schema} {reader : String}
    (hverified : schema.verify = .ok schema) (hdeclared : schema.Declares reader)
    (language : Language) :
    ∃ (view : Schema) (artifacts : List Artifact), verifiedView schema reader = .ok view ∧
      emission language view reader = artifacts.map some ∧
      artifacts.map Artifact.fileName =
        language.fileNames (view.generatedNames.map language.stem) ∧
      ((artifacts.map Artifact.fileName).Nodup ↔
        (view.generatedNames.map language.stem).Nodup) ∧
      (language = .rust → ∃ entities list, artifacts = entities ++ [list] ∧
        list.fileName = "mod.rs" ∧
        let declarations := (splitText '\n' list.text).filter Rust.declaresModule
        declarations =
          (view.generatedNames.map language.stem).map (fun stem => "pub mod " ++ stem ++ ";") ∧
        (declarations.Nodup ↔ (view.generatedNames.map language.stem).Nodup)) ∧
      ((view.generatedNames.map language.stem).Nodup →
        ∀ (tree after : FileTree) (directory : String) (ending : LineEnding),
          (generateForReader directory language ending schema reader : StateM FileTree _).run tree =
            (.ok (), after) →
          ∀ artifact ∈ artifacts, after.text (Path.join directory artifact.fileName) =
            .ok (ending.convert artifact.text)) := by
  have hwell := (schema.verify_eq_ok_iff.1 hverified).view reader
  have hview := (verifiedView_makes hverified hdeclared).1
  obtain ⟨artifacts, hartifacts, hnames, hsteps⟩ := exists_named_artifacts hdeclared hwell language
  have hiff : (artifacts.map Artifact.fileName).Nodup ↔
      ((schema.view reader).generatedNames.map language.stem).Nodup := by
    rw [hnames]
    exact nodup_fileNames_iff language _
  refine ⟨schema.view reader, artifacts, hview, hartifacts, hnames, hiff, ?_, ?_⟩
  · rintro rfl
    obtain ⟨entities, list, hsplit, -, hlist, -, hlines⟩ :=
      exists_module_list hdeclared hwell hartifacts hnames
    refine ⟨entities, list, hsplit, hlist, hlines, ?_⟩
    rw [hlines]
    exact List.nodup_map_iff Rust.declaration_injective
  · intro hdistinct tree after directory ending hrun
    rw [run_generateForReader_of_ok directory language ending tree hview hartifacts] at hrun
    have hwrites := tree.fileOf_writesUpTo directory ending artifacts
    dsimp only at hwrites
    rw [(Prod.mk.inj hrun).1, (Prod.mk.inj hrun).2] at hwrites
    exact hwrites.text_eq hsteps (hiff.2 hdistinct)

namespace Example

/-- Nothing but a directory for generated files. -/
def shelf : FileTree :=
  ⟨[(["out"], .directory)]⟩

theorem stems_market (language : Language) :
    (market.view "client").generatedNames.map language.stem = ["price", "goods", "stalls"] := by
  cases language <;> decide +kernel

/-- Structs whose names differ in no more than the case of a letter. -/
def twins : String :=
"<define>
  <reader name='r'/>
  <struct name='Item'/>
  <struct name='item'/>
</define>"

def twinSchema : Schema where
  filePath := "t.xml"
  readers := .ofList [⟨"r", 2, []⟩]
  globalStructs := .ofList [⟨"Item", 3, none, ∅⟩, ⟨"item", 4, none, ∅⟩]
  tables := ∅

theorem compileSchema_twins :
    compileSchema Markup.readDocument "t.xml" twins = .ok twinSchema := by
  refine (compileSchema_ofList "t.xml" _).trans ?_
  decide +kernel

end Example

open Example in
theorem generateForReader_ownFiles_market :
    market.verify = .ok market ∧ market.Declares "client" ∧
      ∃ (view : Schema) (artifacts : List Artifact), verifiedView market "client" = .ok view ∧
        emission .rust view "client" = artifacts.map some ∧
        artifacts.map Artifact.fileName = ["price.rs", "goods.rs", "stalls.rs", "mod.rs"] ∧
        (view.generatedNames.map Language.rust.stem).Nodup ∧
        (∃ list ∈ artifacts, list.fileName = "mod.rs" ∧
          ((splitText '\n' list.text).filter Rust.declaresModule).Nodup) ∧
        ∃ after,
          (generateForReader "out" .rust .dos market "client" : StateM FileTree _).run shelf =
            (.ok (), after) ∧
          ∀ artifact ∈ artifacts, after.text (Path.join "out" artifact.fileName) =
            .ok (LineEnding.dos.convert artifact.text) := by
  have hdeclared : market.Declares "client" := ⟨⟨"client", 1, ["market"]⟩, by decide, rfl⟩
  obtain ⟨view, artifacts, hview, hartifacts, hnames, -, hlists, hfound⟩ :=
    generateForReader_ownFiles verify_market hdeclared .rust
  have hkept : verifiedView market "client" = .ok (market.view "client") := rfl
  obtain rfl := Except.ok.inj (hview.symm.trans hkept)
  have hdistinct : ((market.view "client").generatedNames.map Language.rust.stem).Nodup := by
    rw [stems_market]
    decide
  have hfiles : Language.rust.fileNames ["price", "goods", "stalls"] =
      ["price.rs", "goods.rs", "stalls.rs", "mod.rs"] := by decide
  obtain ⟨entities, list, hsplit, hlist, -, honce⟩ := hlists rfl
  have hmem : list ∈ artifacts := hsplit ▸ List.mem_append_right _ List.mem_cons_self
  have hsucceeds : ((generateForReader "out" .rust .dos market "client" : StateM FileTree _).run
      shelf).1 = .ok () := by decide +kernel
  rw [stems_market, hfiles] at hnames
  cases hrun : (generateForReader "out" .rust .dos market "client" : StateM FileTree _).run
      shelf with
  | mk result after =>
      rw [hrun] at hsucceeds
      obtain rfl : result = .ok () := hsucceeds
      exact ⟨verify_market, hdeclared, market.view "client", artifacts, hview, hartifacts, hnames,
        hdistinct, ⟨list, hmem, hlist, honce.2 hdistinct⟩, after, rfl,
        hfound hdistinct shelf after "out" .dos hrun⟩

open Example in
/-- Two structs that are declared under different names are filed under the same, only one of them
is left, and their module is declared twice. -/
theorem twins_share_files :
    ∃ schema, compileSchema Markup.readDocument "t.xml" twins = .ok schema ∧ schema.Declares "r" ∧
      schema.generatedNames = ["Item", "item"] ∧
      (emission .cpp schema "r").map (Option.map Artifact.fileName) =
        [some "item.h", some "item.cc", some "item.h", some "item.cc"] ∧
      (emission .rust schema "r").getLast?.join.map (fun list =>
        (splitText '\n' list.text).filter Rust.declaresModule) =
          some ["pub mod item;", "pub mod item;"] ∧
      ((generateForReader "out" .rust .unix schema "r" : StateM FileTree _).run
        shelf).2.files.map Prod.fst = ["out/mod.rs", "out/item.rs"] := by
  have hmodules : (emission .rust twinSchema "r").getLast?.join.map (fun list =>
      (splitText '\n' list.text).filter Rust.declaresModule) =
        some ["pub mod item;", "pub mod item;"] := by decide +kernel
  have hleft : ((generateForReader "out" .rust .unix twinSchema "r" : StateM FileTree _).run
      shelf).2.files.map Prod.fst = ["out/mod.rs", "out/item.rs"] := by decide +kernel
  exact ⟨twinSchema, compileSchema_twins, ⟨⟨"r", 2, []⟩, by decide, rfl⟩, rfl, by decide +kernel,
    hmodules, hleft⟩

end TableSchema
