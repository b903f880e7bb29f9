import TableSchema.Example.Market
import TableSchema.Proofs.Files.Operations
import TableSchema.Proofs.Files.Paths
import TableSchema.Proofs.Schema.Filtering
import TableSchema.Proofs.Table.HiddenCells

/-!
# Cutting directories

Cutting the data files of a reader's tables writes the cut files one after the other and touches
nothing else. Two runs over data files of which the reader is shown the same write the same files
and end in the same way.
-/

namespace TableSchema

/-- What is found in place of a data file: in both cases the same error, or texts of which the
reader is shown the same. -/
inductive Table.ShownAlike (table : Table) (reader : String) :
    Except FileError String → Except FileError String → Prop where
  | unreadable (e : FileError) : table.ShownAlike reader (.error e) (.error e)
  | texts {content other : String} (hsame : table.SameShown reader content other) :
      table.ShownAlike reader (.ok content) (.ok other)

namespace FileTree

variable {tree other : FileTree} {input otherInput output reader : String} {tables : List Table}
  {table : Table} {file : Place × String}

/-! ## One run -/

/-- No cut file is written at a place that is looked at when data files are read. -/
def CutsApart (tree : FileTree) (input output : String) (tables : List Table) : Prop :=
  ∀ table ∈ tables, ∀ place, tree.target (Path.join output table.fileName) = .ok place →
    ∀ next ∈ tables, place ∉ tree.route (Path.join input next.fileName)

theorem sameDirectories_of_cutOf (hcut : tree.cutOf input output reader table = .ok file) :
    tree.SameDirectories (tree.overlay [file]) :=
  sameDirectories_put (target_mem_route (cutOf_eq_ok_iff.1 hcut).2).2

/-- Writing a cut file changes no other place. -/
theorem get?_overlay_of_cutOf (hcut : tree.cutOf input output reader table = .ok file)
    (place : Place) : (tree.overlay [file]).get? place =
      if place = file.1 then some (.file file.2.toUTF8) else tree.get? place :=
  get?_put (target_mem_route (cutOf_eq_ok_iff.1 hcut).2).2 place

/-- Data files stay as they are while cut files are written. -/
theorem CutsApart.text_overlay (hapart : tree.CutsApart input output tables)
    (htable : table ∈ tables) (hcut : tree.cutOf input output reader table = .ok file)
    {next : Table} (hnext : next ∈ tables) :
    (tree.overlay [file]).text (Path.join input next.fileName) =
      tree.text (Path.join input next.fileName) := by
  apply text_congr
  intro place hplace
  have hne : place ≠ file.1 := fun h =>
    hapart table htable file.1 (cutOf_eq_ok_iff.1 hcut).2 next hnext (h ▸ hplace)
  rw [get?_overlay_of_cutOf hcut, if_neg hne]

theorem CutsApart.overlay (hapart : tree.CutsApart input output tables)
    (hcut : tree.cutOf input output reader table = .ok file) :
    (tree.overlay [file]).CutsApart input output tables := by
  have hsame := sameDirectories_of_cutOf hcut
  intro next hnext place htarget
  rw [hsame.target_eq_ok_iff] at htarget
  intro later hlater
  rw [hsame.route_eq]
  exact hapart next hnext place htarget later hlater

/-- Tables are cut one after the other up to the first that cannot be cut. -/
theorem CutsApart.writesUpTo (reader : String) (hapart : tree.CutsApart input output tables) :
    let run := tree.writeEach (·.cutOf input output reader ·) tables
    tree.WritesUpTo (·.cutOf input output reader ·) (tree.overlay run.2) tables run.1 run.2 := by
  have hplaces : ∀ table file, tree.cutOf input output reader table = .ok file →
      tree.get? file.1 ≠ some .directory := fun table file hcut =>
    (target_mem_route (cutOf_eq_ok_iff.1 hcut).2).2
  apply writeEach_writesUpTo (CutsApart · input output tables) _ hplaces hapart
  intro tree hapart table htable file hcut
  refine ⟨hapart.overlay hcut, ?_⟩
  intro next hnext later hlater
  rw [cutOf_eq_ok_iff] at hlater ⊢
  rw [hapart.text_overlay htable hcut hnext,
    (sameDirectories_of_cutOf hcut).target_eq_ok_iff] at hlater
  exact hlater

/-! ## Two runs -/

/-- Trees with the same output directory, whose input directories show the reader the same. -/
structure CutsAlike (tree other : FileTree) (input otherInput output reader : String)
    (tables : List Table) : Prop where
  apart : tree.CutsApart input output tables
  otherApart : other.CutsApart otherInput output tables
  outputs : ∀ table ∈ tables, ∀ place ∈ tree.route (Path.join output table.fileName),
    other.get? place = tree.get? place
  inputs : ∀ table ∈ tables, table.ShownAlike reader
    (tree.text (Path.join input table.fileName))
    (other.text (Path.join otherInput table.fileName))

theorem CutsAlike.cutOf_eq
    (halike : tree.CutsAlike other input otherInput output reader tables)
    (htable : table ∈ tables) :
    other.cutOf otherInput output reader table = tree.cutOf input output reader table := by
  have hinputs := halike.inputs table htable
  unfold cutOf placeIn
  rw [target_congr (halike.outputs table htable)]
  generalize tree.text (Path.join input table.fileName) = content at hinputs ⊢
  generalize other.text (Path.join otherInput table.fileName) = otherContent at hinputs ⊢
  cases hinputs with
  | unreadable e => rfl
  | texts hsame =>
      simp only [Except.mapError, bind, Except.bind, hsame.cut_eq]

theorem CutsAlike.overlay
    (halike : tree.CutsAlike other input otherInput output reader tables)
    (htable : table ∈ tables) (hcut : tree.cutOf input output reader table = .ok file) :
    (tree.overlay [file]).CutsAlike (other.overlay [file]) input otherInput output reader
      tables := by
  have hotherCut : other.cutOf otherInput output reader table = .ok file :=
    (halike.cutOf_eq htable).trans hcut
  constructor
  case apart => exact halike.apart.overlay hcut
  case otherApart => exact halike.otherApart.overlay hotherCut
  case outputs =>
    intro next hnext place hplace
    rw [(sameDirectories_of_cutOf hcut).route_eq] at hplace
    rw [get?_overlay_of_cutOf hcut, get?_overlay_of_cutOf hotherCut,
      halike.outputs next hnext place hplace]
  case inputs =>
    intro next hnext
    rw [halike.apart.text_overlay htable hcut hnext,
      halike.otherApart.text_overlay htable hotherCut hnext]
    exact halike.inputs next hnext

/-- The same files are written in both runs, and the runs end in the same way. -/
theorem CutsAlike.writeEach_eq {items : List Table}
    (halike : tree.CutsAlike other input otherInput output reader tables)
    (hitems : ∀ table ∈ items, table ∈ tables) :
    other.writeEach (·.cutOf otherInput output reader ·) items =
      tree.writeEach (·.cutOf input output reader ·) items := by
  induction items generalizing tree other with
  | nil => rfl
  | cons table rest ih =>
      rw [List.forall_mem_cons] at hitems
      rw [writeEach, writeEach, halike.cutOf_eq hitems.1]
      cases hcut : tree.cutOf input output reader table with
      | error e => rfl
      | ok file =>
          dsimp only
          rw [ih (halike.overlay hitems.1 hcut) hitems.2]

end FileTree

theorem run_cutTables {schema : Schema} {reader : String} {tree : FileTree} {input output : String}
    (hdeclared : schema.Declares reader) :
    (cutTables input output schema reader : StateM FileTree _).run tree =
      let run := tree.writeEach (·.cutOf input output reader ·) (schema.openTables reader)
      (run.1.mapError .error, tree.overlay run.2) := by
  obtain ⟨declared, hfound, -⟩ := hdeclared
  rw [cutTables, hfound]
  dsimp only
  rw [run_bind, run_cutFiles]
  rfl

/-- Cutting the tables that are open to a reader comes to the same, be it a failure or not, and
leaves the same output directory for all input directories that show the reader the same. It writes
the cut files of the tables in their order up to the first that fails, and nothing else. -/
theorem cutTables_shows {schema : Schema} {reader : String} (hdeclared : schema.Declares reader)
    {tree other : FileTree} {input otherInput output : String}
    (halike : tree.CutsAlike other input otherInput output reader (schema.openTables reader)) :
    ∃ result files after otherAfter,
      (cutTables input output schema reader : StateM FileTree _).run tree =
        (result.mapError .error, after) ∧
      (cutTables otherInput output schema reader : StateM FileTree _).run other =
        (result.mapError .error, otherAfter) ∧
      tree.WritesUpTo (·.cutOf input output reader ·) after (schema.openTables reader) result
        files ∧
      other.WritesUpTo (·.cutOf otherInput output reader ·) otherAfter (schema.openTables reader)
        result files ∧
      ∀ place, other.get? place = tree.get? place → otherAfter.get? place = after.get? place := by
  have hwrites := halike.apart.writesUpTo reader
  have hotherWrites := halike.otherApart.writesUpTo reader
  rw [halike.writeEach_eq fun _ => id] at hotherWrites
  refine ⟨_, _, _, _, run_cutTables hdeclared, ?_, hwrites, hotherWrites, ?_⟩
  · rw [run_cutTables hdeclared, halike.writeEach_eq fun _ => id]
  · intro place hplace
    rw [hwrites.places, hotherWrites.places, hplace]

namespace Example

/-- A directory for data files, of which there are none yet, and one with an older file. -/
def yard : FileTree :=
  ⟨[(["in"], .directory), (["out"], .directory), (["out", "stalls.txt"], .file "none".toUTF8)]⟩

/-- The directories with a data file of goods. -/
def stocked (text : String) : FileTree :=
  yard.overlay [(["in", "goods.txt"], text)]

/-- A data file of goods with a note on the only one. -/
def notedText (note : String) : String :=
  "Note\tStall\tWare\tPrices\r\nnote\tstall\tware\tprices\r\n" ++ note ++ "\t3\tfish\t\r\n"

theorem sameShown_noted :
    goods.SameShown "client" (notedText "fresh") (notedText "\"three days\r") := by
  decide +kernel

theorem get?_stocked (text : String) (place : Place) : (stocked text).get? place =
    if place = ["in", "goods.txt"] then some (.file text.toUTF8) else yard.get? place :=
  FileTree.get?_put (by rintro ⟨⟩) place

theorem sameDirectories_stocked (text : String) : yard.SameDirectories (stocked text) :=
  FileTree.sameDirectories_put (by rintro ⟨⟩)

theorem visits_yard : ∀ directory ∈ ["in", "out"], ∀ table ∈ [goods, stalls],
    yard.visits [] [directory, table.fileName] =
      [[], [directory], [directory, table.fileName]] := by
  decide +kernel

theorem isStep_fileName : ∀ table ∈ [goods, stalls], Path.IsStep table.fileName := by
  simp only [List.forall_mem_cons, List.not_mem_nil, false_implies, implies_true, and_true]
  exact ⟨⟨by decide, by decide⟩, by decide, by decide⟩

theorem route_stocked (text : String) {directory : String} (hdirectory : directory ∈ ["in", "out"])
    {table : Table} (htable : table ∈ [goods, stalls]) :
    (stocked text).route (Path.join directory table.fileName) =
      [[], [directory], [directory, table.fileName]] := by
  have hstep := isStep_fileName table htable
  have hdirectories : ∀ directory ∈ ["in", "out"],
      FileTree.start directory = [] ∧ Path.steps directory = [directory] := by decide
  obtain ⟨hstart, hsteps⟩ := hdirectories directory hdirectory
  rw [(sameDirectories_stocked text).route_eq, FileTree.route, Path.start_join hstep,
    Path.steps_join hstep, hstart, hsteps]
  exact visits_yard directory hdirectory table htable

theorem cutsApart_stocked (text : String) :
    (stocked text).CutsApart "in" "out" [goods, stalls] := by
  intro table htable place htarget next hnext hplace
  obtain ⟨hroute, hfile⟩ := FileTree.target_mem_route htarget
  rw [route_stocked text (by decide) htable] at hroute
  rw [route_stocked text (by decide) hnext] at hplace
  -- The two directories share no place but the working directory.
  simp only [List.mem_cons, List.not_mem_nil, or_false] at hroute hplace
  rcases hroute with rfl | rfl | rfl
  · exact hfile rfl
  · simp at hplace
  · simp at hplace

theorem text_stocked (text : String) :
    (stocked text).text (Path.join "in" goods.fileName) = .ok text ∧
      (stocked text).text (Path.join "in" stalls.fileName) = .error .notFound := by
  constructor
  · have hread : (stocked text).read (Path.join "in" goods.fileName) = .ok text.toUTF8 := by rfl
    exact FileTree.text_of_read hread
  · rfl

theorem cutsAlike_stocked :
    (stocked (notedText "fresh")).CutsAlike (stocked (notedText "\"three days\r")) "in" "in" "out"
      "client" (market.openTables "client") := by
  have htables : market.openTables "client" = [goods, stalls] := by decide
  rw [htables]
  constructor
  case apart => exact cutsApart_stocked _
  case otherApart => exact cutsApart_stocked _
  case outputs =>
    intro table htable place hplace
    rw [route_stocked _ (by decide) htable] at hplace
    have hne : place ≠ ["in", "goods.txt"] := by
      rintro rfl
      simp at hplace
    rw [get?_stocked, get?_stocked, if_neg hne, if_neg hne]
  case inputs =>
    simp only [List.forall_mem_cons, List.not_mem_nil, false_implies, implies_true, and_true]
    rw [(text_stocked _).1, (text_stocked _).1, (text_stocked _).2, (text_stocked _).2]
    exact ⟨.texts sameShown_noted, .unreadable .notFound⟩

end Example

open Example in
theorem cutTables_shows_market :
    market.Declares "client" ∧
      (stocked (notedText "fresh")).CutsAlike (stocked (notedText "\"three days\r")) "in" "in" "out"
        "client" (market.openTables "client") ∧
      ∃ result files after otherAfter,
        (cutTables "in" "out" market "client" : StateM FileTree _).run
          (stocked (notedText "fresh")) = (result.mapError .error, after) ∧
        (cutTables "in" "out" market "client" : StateM FileTree _).run
          (stocked (notedText "\"three days\r")) = (result.mapError .error, otherAfter) ∧
        (stocked (notedText "fresh")).WritesUpTo (·.cutOf "in" "out" "client" ·) after
          (market.openTables "client") result files ∧
        (stocked (notedText "\"three days\r")).WritesUpTo (·.cutOf "in" "out" "client" ·)
          otherAfter (market.openTables "client") result files ∧
        ∀ place, (stocked (notedText "\"three days\r")).get? place =
            (stocked (notedText "fresh")).get? place →
          otherAfter.get? place = after.get? place := by
  have hdeclared : market.Declares "client" := ⟨⟨"client", 1, ["market"]⟩, by decide, rfl⟩
  exact ⟨hdeclared, cutsAlike_stocked, cutTables_shows hdeclared cutsAlike_stocked⟩

end TableSchema
