import TableSchema.Proofs.Generate.ModuleList
import TableSchema.Proofs.Generate.OwnFiles
import TableSchema.Proofs.Schema.Building

/-!
# What generation writes

The files of a directory are written at one place, each under its own name, and no write decides
whether a later one can be made: that is up to the tree before all of them.
-/

namespace TableSchema

open Generate

namespace FileTree

variable {tree other after : FileTree} {directory name path : String} {place base : Place}
  {ending : LineEnding} {artifacts : List Artifact}

/-! ## Files of one directory -/

/-- Where a file of a directory may be written, it is written under its name at the place of the
directory. -/
theorem exists_base_of_target (hname : Path.IsStep name)
    (htarget : tree.target (Path.join directory name) = .ok place) :
    ∃ base, tree.walk (start directory) (Path.steps directory ++ ["."]) = .ok base ∧
      place = base ++ [name] := by
  obtain ⟨-, last, base, hlast, hwalk, -, -, rfl, -⟩ := target_eq_ok_iff.1 htarget
  rw [Path.steps_join hname, List.getLast?_concat, Option.some.injEq] at hlast
  rw [Path.steps_join hname, List.dropLast_concat, Path.start_join hname] at hwalk
  exact ⟨base, hwalk, by rw [hlast]⟩

/-- Once the directory of a file is reached, all that matters is which places are directories. -/
theorem SameDirectories.target_eq (hsame : tree.SameDirectories other)
    (hwalk : tree.walk (start path) ((Path.steps path).dropLast ++ ["."]) = .ok base) :
    other.target path = tree.target path := by
  unfold target
  apply bind_congr_ok
  intro _ _
  cases hlast : (Path.steps path).getLast? with
  | none => rfl
  | some name =>
      have hplace := hsame (base ++ [name])
      simp only [hwalk, hsame.walk_append_here hwalk, bind, Except.bind, throw, throwThe,
        MonadExceptOf.throw]
      split_ifs
      · rfl
      · rfl
      · grind

/-! ## Writing into a directory -/

theorem fileOf_eq_error_iff {artifact : Artifact} {failure : Failure} :
    fileOf directory ending tree artifact = .error failure ↔
      ∃ e, tree.target (Path.join directory artifact.fileName) = .error e ∧
        failure = .error (.write (Path.join directory artifact.fileName) e) := by
  rw [fileOf, placeIn]
  cases tree.target (Path.join directory artifact.fileName) with
  | error e => simp [Except.mapError, bind, Except.bind, eq_comm]
  | ok place => simp [Except.mapError, bind, Except.bind, pure, Except.pure]

/-- The file that is made of an artifact at the place of a directory. -/
def fileAt (base : Place) (ending : LineEnding) (artifact : Artifact) : Place × String :=
  (base ++ [artifact.fileName], ending.convert artifact.text)

/-- What writing artifacts into a directory comes to. Those that are done are written under their
names at the place of the directory; the first of those that are left, if there is one, cannot be
written, which is the error that is returned. Nothing else is touched. -/
structure WritesInto (directory : String) (ending : LineEnding) (tree after : FileTree)
    (base : Place) (done left : List Artifact) (result : Except Failure Unit) : Prop where
  targets : ∀ artifact ∈ done,
    tree.target (Path.join directory artifact.fileName) = .ok (base ++ [artifact.fileName])
  overlay : after = tree.overlay (done.map (fileAt base ending))
  outcome : left = [] ∧ result = .ok () ∨
    ∃ next rest e, left = next :: rest ∧
      tree.target (Path.join directory next.fileName) = .error e ∧
      result = .error (.error (.write (Path.join directory next.fileName) e))
  /-- Of the files of one name the last one is found. -/
  found : ∀ before artifact later, done = before ++ artifact :: later →
    (∀ other ∈ later, other.fileName ≠ artifact.fileName) →
      after.text (Path.join directory artifact.fileName) = .ok (ending.convert artifact.text)
  others : ∀ place, (∀ artifact ∈ done, place ≠ base ++ [artifact.fileName]) →
    after.get? place = tree.get? place

theorem WritesInto.left_eq_nil {done left : List Artifact} {result : Except Failure Unit}
    (hwrites : tree.WritesInto directory ending after base done left result)
    (hsuccess : result = .ok ()) : left = [] := by
  rcases hwrites.outcome with ⟨hleft, -⟩ | ⟨next, rest, e, -, -, hfailed⟩
  · exact hleft
  · rw [hfailed] at hsuccess
    cases hsuccess

/-- Files that may be written are all written at the place of their directory. -/
theorem exists_base_of_files {done : List Artifact} {files : List (Place × String)}
    (hsteps : ∀ artifact ∈ done, Path.IsStep artifact.fileName)
    (hdone : List.Forall₂ (fun artifact written =>
      fileOf directory ending tree artifact = .ok written) done files) :
    ∃ base, (∀ artifact ∈ done,
        tree.target (Path.join directory artifact.fileName) = .ok (base ++ [artifact.fileName])) ∧
      files = done.map (fileAt base ending) ∧
      (done ≠ [] → tree.walk (start directory) (Path.steps directory ++ ["."]) = .ok base) := by
  have htargets : ∀ artifact ∈ done, ∃ base,
      tree.walk (start directory) (Path.steps directory ++ ["."]) = .ok base ∧
      tree.target (Path.join directory artifact.fileName) =
        .ok (base ++ [artifact.fileName]) := by
    intro artifact hmem
    obtain ⟨⟨place, text⟩, -, hfile⟩ := exists_right_of_forall₂ hdone artifact hmem
    obtain ⟨htarget, -⟩ := fileOf_eq_ok_iff.1 hfile
    obtain ⟨base, hwalk, rfl⟩ := exists_base_of_target (hsteps artifact hmem) htarget
    exact ⟨base, hwalk, htarget⟩
  cases hfirst : done with
  | nil =>
      subst hfirst
      exact ⟨[], by simp, List.forall₂_nil_left_iff.1 hdone, by simp⟩
  | cons first rest =>
      rw [← hfirst]
      obtain ⟨base, hwalk, -⟩ := htargets first (by simp [hfirst])
      have hall : ∀ artifact ∈ done,
          tree.target (Path.join directory artifact.fileName) =
            .ok (base ++ [artifact.fileName]) := by
        intro artifact hmem
        obtain ⟨other, hother, htarget⟩ := htargets artifact hmem
        obtain rfl := Except.ok.inj (hother.symm.trans hwalk)
        exact htarget
      refine ⟨base, hall, ?_, fun _ => hwalk⟩
      have hsame : List.Forall₂ Eq (done.map (fileAt base ending)) files := by
        rw [List.forall₂_map_left_iff]
        refine ((List.forall₂_and_left _ _).2 ⟨hall, hdone⟩).imp ?_
        rintro artifact written ⟨htarget, hfile⟩
        have hwritten : fileOf directory ending tree artifact =
            .ok (fileAt base ending artifact) := fileOf_eq_ok_iff.2 ⟨htarget, rfl⟩
        exact Except.ok.inj (hwritten.symm.trans hfile)
      exact (List.forall₂_eq_eq_eq ▸ hsame : _ = _).symm

/-- Files that are written over no directory leave the directories as they are. -/
theorem sameDirectories_overlay {files : List (Place × String)}
    (hfiles : ∀ file ∈ files, tree.get? file.1 ≠ some .directory) :
    tree.SameDirectories (tree.overlay files) := by
  intro place
  rw [get?_overlay hfiles]
  cases hlookup : files.reverse.lookup place with
  | none => rfl
  | some text =>
      obtain ⟨before, later, hsplit, -⟩ := List.lookup_eq_some_iff.1 hlookup
      have hmem : (place, text) ∈ files := by
        rw [← List.mem_reverse, hsplit]
        simp
      simp [hfiles _ hmem]

section Overlay

variable (ending) {done : List Artifact}
  (htargets : ∀ artifact ∈ done,
    tree.target (Path.join directory artifact.fileName) = .ok (base ++ [artifact.fileName]))
include htargets

theorem not_directory_of_mem_files :
    ∀ file ∈ done.map (fileAt base ending), tree.get? file.1 ≠ some .directory := by
  intro file hfile
  obtain ⟨artifact, hmem, rfl⟩ := List.mem_map.1 hfile
  exact (target_mem_route (htargets artifact hmem)).2

/-- Files of a directory can be written in the end just if they could be at the start. -/
theorem target_overlay
    (hwalk : done ≠ [] → tree.walk (start directory) (Path.steps directory ++ ["."]) = .ok base)
    (hname : Path.IsStep name) :
    (tree.overlay (done.map (fileAt base ending))).target (Path.join directory name) =
      tree.target (Path.join directory name) := by
  by_cases hnone : done = []
  · rw [hnone]
    rfl
  · have hreached : tree.walk (start (Path.join directory name))
        ((Path.steps (Path.join directory name)).dropLast ++ ["."]) = .ok base := by
      rw [Path.steps_join hname, List.dropLast_concat, Path.start_join hname]
      exact hwalk hnone
    exact (sameDirectories_overlay (not_directory_of_mem_files ending htargets)).target_eq hreached

theorem text_overlay_of_last {before later : List Artifact} {artifact : Artifact}
    (hdone : done = before ++ artifact :: later)
    (hlast : ∀ other ∈ later, other.fileName ≠ artifact.fileName) :
    (tree.overlay (done.map (fileAt base ending))).text
      (Path.join directory artifact.fileName) = .ok (ending.convert artifact.text) := by
  have hfiles := not_directory_of_mem_files ending htargets
  have htarget := htargets artifact (by simp [hdone])
  apply text_of_target ((sameDirectories_overlay hfiles).target_eq_ok htarget)
  rw [get?_overlay hfiles]
  have hlookup : (done.map (fileAt base ending)).reverse.lookup (base ++ [artifact.fileName]) =
      some (ending.convert artifact.text) := by
    rw [List.lookup_eq_some_iff]
    refine ⟨(later.map (fileAt base ending)).reverse, (before.map (fileAt base ending)).reverse,
      by simp [hdone, fileAt], fun file hfile => bne_iff_ne.2 ?_⟩
    obtain ⟨other, hother, rfl⟩ := List.mem_map.1 (List.mem_reverse.1 hfile)
    intro hplace
    exact hlast other hother (by simpa [fileAt] using hplace.symm)
  rw [hlookup]
  rfl

theorem get?_overlay_of_ne (hplace : ∀ artifact ∈ done, place ≠ base ++ [artifact.fileName]) :
    (tree.overlay (done.map (fileAt base ending))).get? place = tree.get? place := by
  have hlookup : (done.map (fileAt base ending)).reverse.lookup place = none := by
    rw [List.lookup_eq_none_iff]
    intro file hfile
    obtain ⟨artifact, hmem, rfl⟩ := List.mem_map.1 (List.mem_reverse.1 hfile)
    exact bne_iff_ne.2 (hplace artifact hmem)
  rw [get?_overlay (not_directory_of_mem_files ending htargets), hlookup]
  rfl

end Overlay

/-- Whether an artifact can be written does not depend on those before it. -/
theorem writeEach_writesInto (tree : FileTree) (directory : String) (ending : LineEnding)
    (hsteps : ∀ artifact ∈ artifacts, Path.IsStep artifact.fileName) :
    let run := tree.writeEach (fileOf directory ending) artifacts
    ∃ base done left, artifacts = done ++ left ∧
      tree.WritesInto directory ending (tree.overlay run.2) base done left run.1 := by
  intro run
  obtain ⟨done, left, hsplit, hdone, houtcome⟩ :=
    (tree.fileOf_writesUpTo directory ending artifacts).items
  obtain ⟨base, htargets, hfiles, hwalk⟩ := exists_base_of_files (fun artifact hmem =>
    hsteps artifact (hsplit ▸ List.mem_append_left left hmem)) hdone
  refine ⟨base, done, left, hsplit, htargets, congrArg tree.overlay hfiles, ?_, ?_, ?_⟩
  · rcases houtcome with hend | ⟨next, rest, e, rfl, hfailed, hresult⟩
    · exact .inl hend
    · have hstep := hsteps next (hsplit ▸ List.mem_append_right done List.mem_cons_self)
      obtain ⟨error, htarget, rfl⟩ := fileOf_eq_error_iff.1 hfailed
      rw [hfiles, target_overlay ending htargets hwalk hstep] at htarget
      exact .inr ⟨next, rest, error, rfl, htarget, hresult⟩
  · intro before artifact later hlater hlast
    rw [hfiles]
    exact text_overlay_of_last ending htargets hlater hlast
  · intro place hplace
    rw [hfiles]
    exact get?_overlay_of_ne ending htargets hplace

end FileTree

/-! ## What is generated for a reader -/

section Views

variable {schema : Schema} {reader : String}

/-- The names of the structs and tables in the view for a reader. -/
def Schema.shownNames (schema : Schema) (reader : String) : List String :=
  schema.globalStructs.names ++
    (schema.tables.toList.filter fun table => table.readableBy reader).map Table.name

theorem Schema.generatedNames_view :
    (schema.view reader).generatedNames = schema.shownNames reader := by
  have hstructs : (schema.view reader).globalStructs.names = schema.globalStructs.names := by
    rw [view_eq]
    simp [Catalog.names, rebuild, Function.comp_def, Struct.rebuild, Named.name]
  rw [generatedNames, hstructs, view_tableNames, shownNames]

/-- No view is verified for a reader that is not declared or for whom it is unsound; there is no
other way to fail. -/
theorem verifiedView_cases (hindexed : schema.readers.Indexed) (reader : String) :
    reader ∉ schema.readers.names ∧
        verifiedView schema reader = .error (.error (.unknownReader reader)) ∨
      schema.Declares reader ∧
        ((∃ fault, verifiedView schema reader = .error (.error (.unsound fault))) ∨
          verifiedView schema reader = .ok (schema.view reader) ∧
            (schema.view reader).WellFormed) := by
  by_cases hdeclared : schema.Declares reader
  · refine .inr ⟨hdeclared, ?_⟩
    have hview := Schema.viewFor_of_declares reader hdeclared
    cases hverdict : Verification.schema (schema.view reader) with
    | ok verdict =>
        have hwell := (Verification.schema_eq_ok_iff _).1 hverdict
        exact .inr ⟨verifiedView_of_wellFormed hview hwell, hwell⟩
    | error fault =>
        refine .inl ⟨fault, ?_⟩
        rw [verifiedView, hview]
        simp only [bind, Except.bind, Schema.verify, hverdict, Except.mapError]
  · refine .inl ⟨fun hmem => hdeclared ((Schema.declares_iff _ hindexed).2 hmem), ?_⟩
    have habsent : schema.readers.lookup reader = .absent := by
      rw [hindexed.findsLast.absent, ← Schema.declares_iff _ hindexed]
      exact hdeclared
    rw [verifiedView, Schema.viewFor, habsent]
    rfl

section Run

variable (directory : String) (language : Language) (ending : LineEnding) (tree : FileTree)

/-- Without a verified view nothing is written. -/
theorem run_generateForReader_of_error {failure : Failure}
    (hview : verifiedView schema reader = .error failure) :
    (generateForReader directory language ending schema reader : StateM FileTree _).run tree =
      (.error failure, tree) := by
  simp only [generateForReader, hview]
  rfl

end Run

end Views

/-- What generation does to the files of a tree, for whatever reader and of whatever schema that was
built. If there is no sound view for the reader, nothing is written. Otherwise the files of the
structs and of the tables that the reader may read are written in their order, up to the first that
cannot be; in Rust, the list of modules comes last, declares the module of each file before it, and
shares its name with none of them. -/
theorem generateForReader_writes {schema : Schema} (hbuilt : schema.Built) (reader : String)
    (language : Language) (ending : LineEnding) (directory : String) (tree : FileTree) :
    let run := (generateForReader directory language ending schema reader :
      StateM FileTree _).run tree
    let stems := (schema.shownNames reader).map language.stem
    (∃ e, verifiedView schema reader = .error (.error e) ∧ run = (.error (.error e), tree) ∧
        (reader ∉ schema.readers.names ∧ e = .unknownReader reader ∨
          reader ∈ schema.readers.names ∧ ∃ fault, e = .unsound fault)) ∨
      ∃ view artifacts base done left, verifiedView schema reader = .ok view ∧
        emission language view reader = artifacts.map some ∧
        artifacts.map Artifact.fileName = language.fileNames stems ∧
        artifacts = done ++ left ∧
        tree.WritesInto directory ending run.2 base done left run.1 ∧
        (language = .rust → ∃ entities list, artifacts = entities ++ [list] ∧
          entities.map Artifact.fileName = stems.map (· ++ ".rs") ∧
          list.fileName = "mod.rs" ∧ (∀ artifact ∈ entities, artifact.fileName ≠ "mod.rs") ∧
          (splitText '\n' list.text).filter Rust.declaresModule =
            stems.map (fun stem => "pub mod " ++ stem ++ ";") ∧
          (run.1 = .ok () →
            run.2.text (Path.join directory "mod.rs") = .ok (ending.convert list.text))) := by
  intro run stems
  have hindexed := hbuilt.throughout.readers
  rcases verifiedView_cases hindexed reader with ⟨hunknown, hview⟩ | ⟨hdeclared, hcases⟩
  · have hrun := run_generateForReader_of_error directory language ending tree hview
    exact .inl ⟨_, hview, hrun, .inl ⟨hunknown, rfl⟩⟩
  have hmem := (Schema.declares_iff _ hindexed).1 hdeclared
  rcases hcases with ⟨fault, hview⟩ | ⟨hview, hwell⟩
  · have hrun := run_generateForReader_of_error directory language ending tree hview
    exact .inl ⟨_, hview, hrun, .inr ⟨hmem, fault, rfl⟩⟩
  obtain ⟨artifacts, hartifacts, hnames, hsteps⟩ :=
    exists_named_artifacts hdeclared hwell language
  have hstems : (schema.view reader).generatedNames.map language.stem = stems := by
    rw [Schema.generatedNames_view]
  have hrun : run = _ :=
    run_generateForReader_of_ok directory language ending tree hview hartifacts
  obtain ⟨base, done, left, hsplit, hwrites⟩ :=
    tree.writeEach_writesInto directory ending hsteps
  rw [hrun]
  refine .inr ⟨schema.view reader, artifacts, base, done, left, hview, hartifacts,
    hstems ▸ hnames, hsplit, hwrites, ?_⟩
  rintro rfl
  obtain ⟨entities, list, hentities, hfiles, hlist, hapart, hlines⟩ :=
    exists_module_list hdeclared hwell hartifacts hnames
  rw [hstems] at hfiles hlines
  refine ⟨entities, list, hentities, hfiles, hlist, hapart, hlines, fun hsuccess => ?_⟩
  rw [hwrites.left_eq_nil hsuccess, List.append_nil] at hsplit
  rw [← hlist]
  exact hwrites.found entities list [] (hsplit.symm.trans hentities) (by simp)

/-- Columns may be added one after the other. -/
theorem Table.steps_addColumns (table : Table) (columns : List Column) :
    Relation.ReflTransGen Table.Step table
      { table with columns := columns.foldl Catalog.add table.columns } := by
  induction columns generalizing table with
  | nil => exact .refl
  | cons column rest ih => exact .head (.addColumn table column) (ih _)

namespace Example

/-- A directory for generated files in which a name is taken by another directory. -/
def crowdedShelf : FileTree :=
  ⟨[(["out"], .directory), (["out", "goods.rs"], .directory)]⟩

theorem built_market : market.Built := by
  have hprice : Struct.Built ⟨"Price", 3, none,
      .ofList [⟨"coin", 4, .string⟩, ⟨"count", 5, .int⟩]⟩ := by
    refine ⟨"Price", 3, none, ?_⟩
    apply Relation.ReflTransGen.tail
    · exact .single (.addField _ ⟨"coin", 4, .string⟩)
    · exact .addField _ ⟨"count", 5, .int⟩
  have hgoods : goods.Built := by
    refine ⟨"Goods", 6, .tail (Table.steps_addColumns _ goods.columns.toList) ?_⟩
    exact .describe _ "goods.txt" "stall" .set 1 ∅
  have hstalls : stalls.Built := by
    refine ⟨"Stalls", 11, .tail (Table.steps_addColumns _ stalls.columns.toList) ?_⟩
    exact .describe _ "stalls.txt" "name" .single 0 ∅
  refine ⟨"market.xml", ?_⟩
  apply Relation.ReflTransGen.tail
  · apply Relation.ReflTransGen.tail
    · apply Relation.ReflTransGen.tail
      · apply Relation.ReflTransGen.tail
        · exact .single (.addReader _ ⟨"client", 1, ["market"]⟩)
        · exact .addReader _ ⟨"server", 2, ["market"]⟩
      · exact .addGlobalStruct _ hprice
    · exact .addTable _ hgoods
  · exact .addTable _ hstalls

end Example

open Example in
/-- The first file is written and the second cannot be, which ends the run. -/
theorem generateForReader_writes_crowdedShelf :
    market.Built ∧ ∃ view artifacts base done left,
      verifiedView market "client" = .ok view ∧
      emission .rust view "client" = artifacts.map some ∧
      artifacts.map Artifact.fileName = ["price.rs", "goods.rs", "stalls.rs", "mod.rs"] ∧
      artifacts = done ++ left ∧
      ∃ after, (generateForReader "out" .rust .dos market "client" : StateM FileTree _).run
          crowdedShelf = (.error (.error (.write "out/goods.rs" .isDirectory)), after) ∧
        after.files.map Prod.fst = ["out/price.rs"] ∧
        crowdedShelf.WritesInto "out" .dos after base done left
          (.error (.error (.write "out/goods.rs" .isDirectory))) := by
  have hview : verifiedView market "client" = .ok (market.view "client") := rfl
  have hfiles : Language.rust.fileNames ["price", "goods", "stalls"] =
      ["price.rs", "goods.rs", "stalls.rs", "mod.rs"] := by decide
  have hfailed : ((generateForReader "out" .rust .dos market "client" : StateM FileTree _).run
      crowdedShelf).1 = .error (.error (.write "out/goods.rs" .isDirectory)) := by decide +kernel
  have hafter : ((generateForReader "out" .rust .dos market "client" : StateM FileTree _).run
      crowdedShelf).2.files.map Prod.fst = ["out/price.rs"] := by decide +kernel
  have hwrites := generateForReader_writes built_market "client" .rust .dos "out" crowdedShelf
  cases hrun : (generateForReader "out" .rust .dos market "client" : StateM FileTree _).run
      crowdedShelf with
  | mk result after =>
      rw [hrun] at hfailed hafter hwrites
      obtain rfl : result = _ := hfailed
      dsimp only at hwrites
      rcases hwrites with ⟨e, herror, -⟩ | ⟨view, artifacts, base, done, left, hkept, hartifacts,
        hnames, hsplit, hwrites, -⟩
      · rw [hview] at herror
        cases herror
      · rw [← Schema.generatedNames_view, stems_market, hfiles] at hnames
        exact ⟨built_market, view, artifacts, base, done, left, hkept, hartifacts, hnames, hsplit,
          after, rfl, hafter, hwrites⟩

end TableSchema
