import TableSchema.Proofs.Generate.HeaderFrames
import TableSchema.Proofs.Generate.NestedRust
import TableSchema.Proofs.Generate.PlainText
import TableSchema.Proofs.Generate.ShownCode

/-!
# Nested brackets of generated files

In every file that is generated, whatever the schema holds, brackets are nested and all closed. The
guard of a header is closed by its last line, and the namespace that is opened is the one closed.
-/

namespace TableSchema

open Generate

namespace Generate

/-- The lines of a converted text are the same, and end as they should. -/
theorem convert_text {lines : Lines} (hlines : ∀ line ∈ lines, Printable line)
    (ending : LineEnding) :
    ending.convert (text lines) = String.join (lines.map (· ++ ending.separator)) := by
  cases ending with
  | unix => rfl
  | dos =>
      rw [← String.toList_inj, LineEnding.convert, String.toList_ofList]
      induction lines with
      | nil => rfl
      | cons line rest ih =>
          obtain ⟨hline, hrest⟩ := List.forall_mem_cons.1 hlines
          have htext : (text (line :: rest)).toList =
              line.toList ++ '\n' :: (text rest).toList := by
            simp [text_cons]
          rw [htext, LineEnding.withCarriageReturns_append,
            LineEnding.withCarriageReturns_of_not_mem hline.lineFeed_not_mem,
            LineEnding.withCarriageReturns_lineFeed, ih hrest]
          simp [LineEnding.separator]

section Emission

variable {schema : Schema} (hwell : schema.WellFormed) {declared : Reader} {language : Language}
  {artifact : Artifact} (hdeclared : declared ∈ schema.readers.toList)
  (hfile : EmittedFile schema declared language artifact)
include hwell hdeclared hfile

theorem EmittedFile.bracketed : Bracketed artifact.text.toList := by
  have hparts := hwell.namespaceWords hdeclared
  rw [bracketed_toList_iff]
  cases hfile with
  | structHeader hstruct =>
      rw [Cpp.headerFile_text]
      exact Cpp.due_structHeader hparts (hwell.namesWords hstruct)
  | structSource hstruct =>
      rw [Cpp.sourceFile_text]
      exact Cpp.due_structSource hparts (hwell.namesWords hstruct) (hwell.globalOwners hstruct)
  | tableHeader htable hkey =>
      rw [Cpp.headerFile_text]
      exact Cpp.due_tableHeader (hwell.tableWords htable) hparts (List.mem_of_getElem? hkey)
  | tableSource htable hkey =>
      rw [Cpp.sourceFile_text]
      exact Cpp.due_tableSource (hwell.tableWords htable) (List.mem_of_getElem? hkey) hparts
  | structModule hstruct =>
      rw [Rust.structArtifact, Rust.moduleFile_text]
      exact Rust.due_structModule (hwell.namesWords hstruct)
  | tableModule htable hkey =>
      rw [Rust.moduleFile_text]
      exact Rust.due_tableModule (hwell.tableWords htable) (List.mem_of_getElem? hkey)
  | moduleList =>
      exact Rust.due_moduleList hparts
        (isWord_of_properNames hwell.readerNames declared hdeclared) hwell.moduleWords

/-- The headers are the files that are named so. -/
theorem EmittedFile.framed (hheader : ".h".toList <:+ artifact.fileName.toList) :
    ∃ lines, (∀ line ∈ lines, Printable line) ∧ artifact.text = text lines ∧
      Cpp.Framed declared.namespaceParts lines := by
  have hparts := hwell.namespaceWords hdeclared
  have hother {stem ending : String} {c : Char} (hends : ending.toList.getLast? = some c)
      (hc : c ≠ 'h') : ¬ ".h".toList <:+ (stem ++ ending).toList := by
    rintro ⟨front, hfront⟩
    have hlast := congrArg List.getLast? hfront
    simp [hends, hc.symm] at hlast
  cases hfile with
  | structHeader hstruct =>
      have hwords := hwell.namesWords hstruct
      exact ⟨_, fun line hmem => (Cpp.unquoted_structHeader hparts hwords line hmem).printable,
        Cpp.headerFile_text _ _, Cpp.framed_structHeader hparts hwords⟩
  | tableHeader htable hkey =>
      have hwords := hwell.tableWords htable
      have hcolumn := List.mem_of_getElem? hkey
      exact ⟨_,
        fun line hmem => (Cpp.unquoted_tableHeader hparts hwords hcolumn line hmem).printable,
        Cpp.headerFile_text _ _, Cpp.framed_tableHeader hparts hwords hcolumn⟩
  | structSource | tableSource => exact absurd hheader (hother (c := 'c') rfl (by decide))
  | structModule | tableModule => exact absurd hheader (hother (c := 's') rfl (by decide))
  | moduleList => exact absurd hheader (by decide : ¬ ".h".toList <:+ "mod.rs".toList)

end Emission

end Generate

/-- In every file that is generated for a reader, in whatever line endings, brackets are nested and
all closed. In the headers, the guard and the namespace of the reader stand around them. -/
theorem generated_bracketed {schema : Schema} (hverified : schema.verify = .ok schema)
    {reader : String} {parts : List String} (hdeclared : schema.DeclaresIn reader parts)
    (language : Language) :
    ∃ view artifacts, verifiedView schema reader = .ok view ∧
      emission language view reader = artifacts.map some ∧
      artifacts.map Artifact.fileName =
        language.fileNames ((schema.shownNames reader).map language.stem) ∧
      (∀ artifact ∈ artifacts,
        (∀ ending : LineEnding, Bracketed (ending.convert artifact.text).toList) ∧
        (".h".toList <:+ artifact.fileName.toList →
          ∃ lines, (∀ line ∈ lines, Printable line) ∧
            (∀ ending : LineEnding, ending.convert artifact.text =
              String.join (lines.map (· ++ ending.separator))) ∧
            Cpp.Framed parts lines)) ∧
      ∀ directory ending tree, ∃ after base done left result, artifacts = done ++ left ∧
        (generateForReader directory language ending schema reader : StateM FileTree _).run tree =
          (result, after) ∧
        tree.WritesInto directory ending after base done left result := by
  have hschema := schema.verify_eq_ok_iff.1 hverified
  have hwell := hschema.view reader
  obtain ⟨declared, hfound, hparts⟩ := hdeclared.lookup_view hschema
  obtain ⟨hmem, hname⟩ := (schema.indexed_readers_view reader).mem_of_lookup hfound
  change declared.name = reader at hname
  subst hname hparts
  obtain ⟨artifacts, hartifacts, hnames, hsteps⟩ :=
    exists_named_artifacts hdeclared.declares hwell language
  rw [Schema.generatedNames_view] at hnames
  have hview := (verifiedView_makes hverified hdeclared.declares).1
  refine ⟨_, artifacts, hview, hartifacts, hnames, fun artifact hartifact => ?_,
    fun directory ending tree => ?_⟩
  · have hfile : EmittedFile (schema.view declared.name) declared language artifact :=
      emittedFile_of_mem_emission hfound (hartifacts ▸ List.mem_map_of_mem hartifact)
    refine ⟨(hfile.bracketed hwell hmem).convert, fun hheader => ?_⟩
    obtain ⟨lines, hlines, htext, hframed⟩ := hfile.framed hwell hmem hheader
    exact ⟨lines, hlines, htext ▸ convert_text hlines, hframed⟩
  · obtain ⟨base, done, left, hsplit, hwrites⟩ :=
      tree.writeEach_writesInto directory ending hsteps
    exact ⟨_, base, done, left, _, hsplit,
      run_generateForReader_of_ok directory language ending tree hview hartifacts, hwrites⟩

open Example in
/-- The six files of a market, three of which are headers, are written. -/
theorem generated_bracketed_market :
    market.verify = .ok market ∧ market.DeclaresIn "client" ["market"] ∧
      ∃ view artifacts, verifiedView market "client" = .ok view ∧
        emission .cpp view "client" = artifacts.map some ∧
        artifacts.map Artifact.fileName =
          ["price.h", "price.cc", "goods.h", "goods.cc", "stalls.h", "stalls.cc"] ∧
        (∀ artifact ∈ artifacts,
          (∀ ending : LineEnding, Bracketed (ending.convert artifact.text).toList) ∧
          (".h".toList <:+ artifact.fileName.toList →
            ∃ lines, (∀ line ∈ lines, Printable line) ∧
              (∀ ending : LineEnding, ending.convert artifact.text =
                String.join (lines.map (· ++ ending.separator))) ∧
              Cpp.Framed ["market"] lines)) ∧
        ∃ after base,
          (generateForReader "out" .cpp .dos market "client" : StateM FileTree _).run shelf =
            (.ok (), after) ∧
          shelf.WritesInto "out" .dos after base artifacts [] (.ok ()) := by
  have hdeclared : market.DeclaresIn "client" ["market"] :=
    ⟨⟨"client", 1, ["market"]⟩, by decide, rfl, rfl⟩
  have hfiles : Language.cpp.fileNames ["price", "goods", "stalls"] =
      ["price.h", "price.cc", "goods.h", "goods.cc", "stalls.h", "stalls.cc"] := by decide
  have hsucceeds : ((generateForReader "out" .cpp .dos market "client" : StateM FileTree _).run
      shelf).1 = .ok () := by decide +kernel
  obtain ⟨view, artifacts, hview, hartifacts, hnames, hbracketed, hruns⟩ :=
    generated_bracketed verify_market hdeclared .cpp
  rw [← Schema.generatedNames_view, stems_market, hfiles] at hnames
  obtain ⟨after, base, done, left, result, hsplit, hrun, hwrites⟩ := hruns "out" .dos shelf
  rw [hrun] at hsucceeds
  obtain rfl : result = .ok () := hsucceeds
  obtain rfl := hwrites.left_eq_nil rfl
  rw [List.append_nil] at hsplit
  subst hsplit
  exact ⟨verify_market, hdeclared, view, artifacts, hview, hartifacts, hnames, hbracketed, after,
    base, hrun, hwrites⟩

end TableSchema
