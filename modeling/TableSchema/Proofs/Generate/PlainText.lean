import TableSchema.Proofs.Generate.EmittedFiles
import TableSchema.Proofs.Generate.PrintableCpp
import TableSchema.Proofs.Generate.PrintableRust
import TableSchema.Proofs.Generate.WriteEffects
import TableSchema.Proofs.Text.LineEndings

/-!
# Plain generated text

Whatever is generated is printable ASCII text in lines that end in line feeds. So its line endings
can be converted and converted back, and which files are written does not depend on them.
-/

namespace TableSchema

open Generate

namespace Generate

/-! ## Lines and texts -/

/-- A text is made of printable lines and ends with the last of them. -/
structure PlainText (text : String) : Prop where
  chars : ∀ c ∈ text.toList, isPrintable c ∨ c = '\n'
  ends : text.toList.getLast? = some '\n'

theorem toList_text (lines : Lines) :
    (text lines).toList = lines.flatMap fun line => line.toList ++ ['\n'] := by
  induction lines with
  | nil => rfl
  | cons line rest ih => simp [text_cons, ih]

theorem plainText_text {lines : Lines} (hne : lines ≠ [])
    (hlines : ∀ line ∈ lines, Printable line) : PlainText (text lines) where
  chars := by
    rw [toList_text, List.forall_mem_flatMap]
    intro line hmem c hc
    rcases List.mem_append.1 hc with hc | hc
    · exact .inl ((hlines line hmem).chars c hc)
    · exact .inr (List.mem_singleton.1 hc)
  ends := by
    obtain ⟨before, last, rfl⟩ := List.eq_nil_or_concat lines |>.resolve_left hne
    rw [toList_text]
    simp

/-- Line endings of plain text can be converted back. -/
theorem PlainText.carriageReturn_not_mem {text : String} (hplain : PlainText text) :
    '\r' ∉ text.toList := by
  intro hmem
  rcases hplain.chars _ hmem with hprintable | hfeed
  · exact absurd hprintable (by decide)
  · exact absurd hfeed (by decide)

/-! ## Generated texts -/

namespace Cpp

theorem headerFile_text (name : String) (lines : Lines) :
    (headerFile name lines).text = text lines := rfl

theorem sourceFile_text (name : String) (lines : Lines) :
    (sourceFile name lines).text = text lines := rfl

theorem header_ne_nil (parts : List String) (name : String) (includes declarations : Lines) :
    header parts name includes declarations ≠ [] := by
  unfold header
  simp [heading]

end Cpp

theorem Rust.moduleFile_text (name : String) (lines : Lines) :
    (Rust.moduleFile name lines).text = text lines := rfl

section Emission

variable {schema : Schema} (hwell : schema.WellFormed) {declared : Reader} {artifact : Artifact}
  (hdeclared : declared ∈ schema.readers.toList)
include hwell hdeclared

theorem EmittedFile.plainText {language : Language}
    (hfile : EmittedFile schema declared language artifact) : PlainText artifact.text := by
  have hparts := hwell.namespaceWords hdeclared
  cases hfile with
  | structHeader hstruct =>
      rw [Cpp.headerFile_text]
      exact plainText_text (Cpp.header_ne_nil _ _ _ _) fun line hmem =>
        (Cpp.unquoted_structHeader hparts (hwell.namesWords hstruct) line hmem).printable
  | structSource hstruct =>
      rw [Cpp.sourceFile_text]
      exact plainText_text (by simp [Cpp.structSource, Cpp.heading])
        (Cpp.printable_structSource hparts (hwell.namesWords hstruct) (hwell.globalOwners hstruct))
  | tableHeader htable hkey =>
      rw [Cpp.headerFile_text]
      exact plainText_text (Cpp.header_ne_nil _ _ _ _) fun line hmem =>
        (Cpp.unquoted_tableHeader hparts (hwell.tableWords htable) (List.mem_of_getElem? hkey)
          line hmem).printable
  | tableSource htable hkey =>
      rw [Cpp.sourceFile_text]
      exact plainText_text (by simp [Cpp.tableSource, Cpp.heading])
        (Cpp.printable_tableSource (hwell.tableWords htable) (List.mem_of_getElem? hkey) hparts)
  | structModule hstruct =>
      rw [Rust.structArtifact, Rust.moduleFile_text]
      exact plainText_text (by simp [Rust.structModule, Rust.heading])
        (Rust.printable_structModule (hwell.namesWords hstruct))
  | tableModule htable hkey =>
      rw [Rust.moduleFile_text]
      exact plainText_text (by simp [Rust.tableModule, Rust.heading])
        (Rust.printable_tableModule (hwell.tableWords htable) (List.mem_of_getElem? hkey))
  | moduleList =>
      exact plainText_text (by simp [Rust.moduleList, Rust.heading])
        (Rust.printable_moduleList hparts
          (isWord_of_properNames hwell.readerNames declared hdeclared) hwell.moduleWords)

/-- Everything that is generated for a reader is plain text. -/
theorem plainText_of_mem_emission (language : Language)
    (hfound : schema.readers.lookup declared.name = .found declared)
    (hmem : some artifact ∈ emission language schema declared.name) :
    PlainText artifact.text :=
  (emittedFile_of_mem_emission hfound hmem).plainText hwell hdeclared

end Emission

end Generate

/-! ## Line endings of what is written -/

namespace FileTree

variable {tree after otherAfter : FileTree} {directory : String} {ending other : LineEnding}
  {base otherBase : Place} {done left otherDone otherLeft : List Artifact}
  {result otherResult : Except Failure Unit}

/-- What is done are the artifacts up to the first that cannot be written. -/
theorem WritesInto.done_eq_takeWhile
    (hwrites : tree.WritesInto directory ending after base done left result) :
    done = (done ++ left).takeWhile fun artifact =>
      (tree.target (Path.join directory artifact.fileName)).isOk := by
  rw [List.takeWhile_append_of_pos]
  · rcases hwrites.outcome with ⟨rfl, -⟩ | ⟨next, rest, e, rfl, hfailed, -⟩
    · simp
    · have hnone : (tree.target (Path.join directory next.fileName)).isOk = false := by
        rw [hfailed]
        rfl
      rw [List.takeWhile_cons_of_neg (by simpa using hnone), List.append_nil]
  · intro artifact hmem
    rw [hwrites.targets artifact hmem]
    rfl

/-- Whichever line endings are written, the same files are, with the same outcome. -/
theorem WritesInto.same_files
    (hwrites : tree.WritesInto directory ending after base done left result)
    (hothers : tree.WritesInto directory other otherAfter otherBase otherDone otherLeft otherResult)
    (hsplit : done ++ left = otherDone ++ otherLeft) :
    done = otherDone ∧ left = otherLeft ∧ result = otherResult := by
  have hdone : done = otherDone := by
    rw [hwrites.done_eq_takeWhile, hsplit, ← hothers.done_eq_takeWhile]
  subst hdone
  have hleft : left = otherLeft := List.append_cancel_left hsplit
  subst hleft
  refine ⟨rfl, rfl, ?_⟩
  rcases hwrites.outcome with ⟨rfl, hresult⟩ | ⟨next, rest, e, rfl, hfailed, hresult⟩
  · rcases hothers.outcome with ⟨-, hother⟩ | ⟨next, rest, e, hcons, -⟩
    · rw [hresult, hother]
    · cases hcons
  · rcases hothers.outcome with ⟨hnil, -⟩ | ⟨next', rest', e', hcons, hotherFailed, hother⟩
    · cases hnil
    · obtain ⟨rfl, rfl⟩ := List.cons.inj hcons
      obtain rfl := Except.error.inj (hfailed.symm.trans hotherFailed)
      rw [hresult, hother]

/-- The place of a directory matters only for the files that are written there. -/
theorem WritesInto.rebase
    (hwrites : tree.WritesInto directory ending after otherBase done left result)
    (htargets : ∀ artifact ∈ done,
      tree.target (Path.join directory artifact.fileName) = .ok (base ++ [artifact.fileName])) :
    tree.WritesInto directory ending after base done left result := by
  have hplaces : ∀ artifact ∈ done,
      otherBase ++ [artifact.fileName] = base ++ [artifact.fileName] := fun artifact hmem =>
    Except.ok.inj ((hwrites.targets artifact hmem).symm.trans (htargets artifact hmem))
  refine ⟨htargets, ?_, hwrites.outcome, hwrites.found, ?_⟩
  · rw [hwrites.overlay]
    congr 1
    exact List.map_congr_left fun artifact hmem => by rw [fileAt, fileAt, hplaces artifact hmem]
  · intro place hplace
    exact hwrites.others place fun artifact hmem => hplaces artifact hmem ▸ hplace artifact hmem

end FileTree

/-- What is generated for a reader is plain text, so that converting its line feeds to those of Dos
can be undone, and the files that are written are the same for both line endings. -/
theorem generated_plainText {schema : Schema} (hverified : schema.verify = .ok schema)
    {reader : String} (hdeclared : schema.Declares reader) (language : Language) :
    ∃ view artifacts, verifiedView schema reader = .ok view ∧
      emission language view reader = artifacts.map some ∧
      (∀ artifact ∈ artifacts, PlainText artifact.text ∧
        LineEnding.PairsEnds (LineEnding.dos.convert artifact.text).toList ∧
        String.ofList (LineEnding.withLineFeeds (LineEnding.dos.convert artifact.text).toList) =
          artifact.text) ∧
      ∀ directory tree, ∃ base done left result, artifacts = done ++ left ∧
        ∀ ending, ∃ after,
          (generateForReader directory language ending schema reader : StateM FileTree _).run tree =
            (result, after) ∧
          tree.WritesInto directory ending after base done left result := by
  have hwell := (schema.verify_eq_ok_iff.1 hverified).view reader
  obtain ⟨declared, hfound, hname⟩ := hdeclared.view reader reader
  subst hname
  have hmem := ((schema.indexed_readers_view declared.name).mem_of_lookup hfound).1
  obtain ⟨artifacts, hartifacts, -, hsteps⟩ := exists_named_artifacts hdeclared hwell language
  have hview := (verifiedView_makes hverified hdeclared).1
  refine ⟨_, artifacts, hview, hartifacts, fun artifact hartifact => ?_, fun directory tree => ?_⟩
  · have hmade : some artifact ∈ emission language (schema.view declared.name) declared.name := by
      rw [hartifacts]
      exact List.mem_map_of_mem hartifact
    have hplain := plainText_of_mem_emission hwell hmem language hfound hmade
    have hnone := hplain.carriageReturn_not_mem
    have hconverted : (LineEnding.dos.convert artifact.text).toList =
        LineEnding.withCarriageReturns artifact.text.toList := String.toList_ofList
    rw [hconverted, LineEnding.withLineFeeds_withCarriageReturns hnone, String.ofList_toList]
    exact ⟨hplain, LineEnding.pairsEnds_withCarriageReturns hnone, rfl⟩
  · obtain ⟨base, done, left, hsplit, hunix⟩ := tree.writeEach_writesInto directory .unix hsteps
    refine ⟨base, done, left, (tree.writeEach (FileTree.fileOf directory .unix) artifacts).1,
      hsplit, fun ending => ?_⟩
    obtain ⟨place, others, rest, hother, hwrites⟩ :=
      tree.writeEach_writesInto directory ending hsteps
    obtain ⟨rfl, rfl, hresult⟩ := hunix.same_files hwrites (hsplit.symm.trans hother)
    have hrun := run_generateForReader_of_ok directory language ending tree hview hartifacts
    dsimp only at hrun
    rw [← hresult] at hrun hwrites
    exact ⟨_, hrun, hwrites.rebase hunix.targets⟩

open Example in
/-- The files of a market are written in both ways. -/
theorem generated_plainText_market :
    market.verify = .ok market ∧ market.Declares "client" ∧
      ∃ (view : Schema) (artifacts : List Artifact), verifiedView market "client" = .ok view ∧
        emission .cpp view "client" = artifacts.map some ∧ artifacts.length = 6 ∧
        (∀ artifact ∈ artifacts, PlainText artifact.text ∧
          LineEnding.PairsEnds (LineEnding.dos.convert artifact.text).toList ∧
          String.ofList (LineEnding.withLineFeeds (LineEnding.dos.convert artifact.text).toList) =
            artifact.text) ∧
        ∃ base, ∀ ending, ∃ after,
          (generateForReader "out" .cpp ending market "client" : StateM FileTree _).run shelf =
            (.ok (), after) ∧
          shelf.WritesInto "out" ending after base artifacts [] (.ok ()) := by
  have hdeclared : market.Declares "client" := ⟨⟨"client", 1, ["market"]⟩, by decide, rfl⟩
  have hcount : ((verifiedView market "client").toOption.map fun view =>
      (emission .cpp view "client").length) = some 6 := by decide +kernel
  have hsucceeds : ((generateForReader "out" .cpp .unix market "client" : StateM FileTree _).run
      shelf).1 = .ok () := by decide +kernel
  obtain ⟨view, artifacts, hview, hartifacts, hplain, hruns⟩ :=
    generated_plainText verify_market hdeclared .cpp
  rw [hview, Except.toOption, Option.map_some, hartifacts, List.length_map,
    Option.some_inj] at hcount
  obtain ⟨base, done, left, result, hsplit, hwrites⟩ := hruns "out" shelf
  obtain ⟨after, hrun, hunix⟩ := hwrites .unix
  rw [hrun] at hsucceeds
  obtain rfl : result = .ok () := hsucceeds
  obtain rfl := hunix.left_eq_nil rfl
  rw [List.append_nil] at hsplit
  subst hsplit
  exact ⟨verify_market, hdeclared, view, artifacts, hview, hartifacts, hcount, hplain, base,
    hwrites⟩

end TableSchema
