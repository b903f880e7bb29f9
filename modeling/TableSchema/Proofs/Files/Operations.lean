import TableSchema.Compile
import TableSchema.Proofs.Files.Routes

/-!
# Operations on file trees

What reading a text, writing a file and cutting data files come to when the files are those of a
file tree: a value and the files that were written, one after the other.
-/

namespace TableSchema

namespace FileTree

/-- The text to which a path leads. -/
def text (tree : FileTree) (path : String) : Except FileError String := do
  match String.fromUTF8? (← tree.read path) with
  | none => throw .notText
  | some text => return text

/-- The place at which a file of a directory may be written. -/
def placeIn (tree : FileTree) (directory fileName : String) : Except CompileError Place :=
  (tree.target (Path.join directory fileName)).mapError (.write (Path.join directory fileName))

/-- What is cut from the data file of a table, and the place at which it may be written. -/
def cutOf (tree : FileTree) (input output reader : String) (table : Table) :
    Except CompileError (Place × String) := do
  let content ← (tree.text (Path.join input table.fileName)).mapError fun e =>
    .cut table.fileName (.unreadable e)
  let cut ← (table.cut reader content).mapError (.cut table.fileName)
  return (← tree.placeIn output table.fileName, cut)

variable {tree other : FileTree} {path : String} {place : Place}

theorem text_congr (hsame : ∀ p ∈ tree.route path, other.get? p = tree.get? p) :
    other.text path = tree.text path := by
  rw [text, text, read_congr hsame]

theorem text_of_read {text : String} (hread : tree.read path = .ok text.toUTF8) :
    tree.text path = .ok text := by
  have htext : String.fromUTF8? text.toUTF8 = some text := dif_pos text.isValidUTF8
  rw [FileTree.text, hread]
  simp only [bind, Except.bind, htext, pure, Except.pure]

/-- A file that may be written under a path is found under the path once it is there. -/
theorem text_of_target {text : String} (htarget : tree.target path = .ok place)
    (hentry : tree.get? place = some (.file text.toUTF8)) : tree.text path = .ok text := by
  have hlocated : tree.locate path = .ok place := by
    obtain ⟨hcheck, name, directory, hlast, hwalk, ⟨hhere, hup, hlong⟩, hslash, rfl, -⟩ :=
      target_eq_ok_iff.1 htarget
    obtain ⟨hwalk, hdirectory⟩ := walk_append_here_eq_ok_iff.1 hwalk
    rw [locate, then_eq_ok_iff]
    refine ⟨hcheck, ?_⟩
    rw [hslash, if_neg Bool.false_ne_true]
    show tree.walk (start path) (Path.steps path ++ []) = _
    rw [List.append_nil, ← List.dropLast_append_getLast? name hlast, walk_append, bind_eq_ok_iff]
    refine ⟨directory, hwalk, ?_⟩
    simp [walk, hdirectory, hhere, hup, hlong, hentry]
  apply text_of_read
  rw [read, hlocated]
  simp only [bind, Except.bind, hentry, pure, Except.pure]

theorem placeIn_eq_ok_iff {directory fileName : String} :
    tree.placeIn directory fileName = .ok place ↔
      tree.target (Path.join directory fileName) = .ok place :=
  mapError_eq_ok_iff

theorem cutOf_eq_ok_iff {input output reader : String} {table : Table} {cut : String} :
    tree.cutOf input output reader table = .ok (place, cut) ↔
      (∃ content, tree.text (Path.join input table.fileName) = .ok content ∧
        table.cut reader content = .ok cut) ∧
        tree.target (Path.join output table.fileName) = .ok place := by
  simp only [cutOf, bind_eq_ok_iff, mapError_eq_ok_iff, placeIn_eq_ok_iff, pure, Except.pure,
    Except.ok.injEq, Prod.mk.injEq]
  constructor
  · rintro ⟨content, hread, _, hcut, _, hplace, rfl, rfl⟩
    exact ⟨⟨content, hread, hcut⟩, hplace⟩
  · rintro ⟨⟨content, hread, hcut⟩, hplace⟩
    exact ⟨content, hread, cut, hcut, place, hplace, rfl, rfl⟩

/-- Writes a file for each of some items, up to the first for which this fails: what comes of it,
and the files that are written. -/
def writeEach {α ε : Type} (file : FileTree → α → Except ε (Place × String)) (tree : FileTree) :
    List α → Except ε Unit × List (Place × String)
  | [] => (.ok (), [])
  | item :: rest =>
      match file tree item with
      | .error e => (.error e, [])
      | .ok written =>
          let run := (tree.overlay [written]).writeEach file rest
          (run.1, written :: run.2)

/-- What comes of writing files for items: files are written for the first of them, which are those
for the tree before, and then no item is left or there is no file for the next. Every place holds
what was written there last, or else what it held before. -/
structure WritesUpTo {α ε : Type} (file : FileTree → α → Except ε (Place × String))
    (tree after : FileTree) (items : List α) (result : Except ε Unit)
    (files : List (Place × String)) : Prop where
  items : ∃ done left, items = done ++ left ∧
    List.Forall₂ (fun item written => file tree item = .ok written) done files ∧
    (left = [] ∧ result = .ok () ∨
      ∃ next rest e, left = next :: rest ∧ file after next = .error e ∧ result = .error e)
  places : ∀ place, after.get? place =
    ((files.reverse.lookup place).map fun text => .file text.toUTF8).or (tree.get? place)

section WriteEach

variable {α ε : Type} {file : FileTree → α → Except ε (Place × String)} {items : List α}

/-- Files are written up to the first failure if each stays the same while others are written. -/
theorem writeEach_items (Kept : FileTree → Prop)
    (hkept : ∀ tree, Kept tree → ∀ item ∈ items, ∀ written, file tree item = .ok written →
      Kept (tree.overlay [written]) ∧ ∀ next ∈ items, ∀ later,
        file (tree.overlay [written]) next = .ok later → file tree next = .ok later)
    (htree : Kept tree) :
    let run := tree.writeEach file items
    ∃ done left, items = done ++ left ∧
      List.Forall₂ (fun item written => file tree item = .ok written) done run.2 ∧
      (left = [] ∧ run.1 = .ok () ∨
        ∃ next rest e, left = next :: rest ∧ file (tree.overlay run.2) next = .error e ∧
          run.1 = .error e) := by
  induction items generalizing tree with
  | nil => exact ⟨[], [], rfl, .nil, .inl ⟨rfl, rfl⟩⟩
  | cons item rest ih =>
      rw [writeEach]
      cases hfile : file tree item with
      | error e => exact ⟨[], item :: rest, rfl, .nil, .inr ⟨item, rest, e, rfl, hfile, rfl⟩⟩
      | ok written =>
          obtain ⟨hnext, hlater⟩ := hkept tree htree item List.mem_cons_self written hfile
          have hrest := ih (fun tree htree item hitem written hwritten => by
            obtain ⟨hkept, hlater⟩ :=
              hkept tree htree item (List.mem_cons_of_mem _ hitem) written hwritten
            exact ⟨hkept, fun next hnext => hlater next (List.mem_cons_of_mem _ hnext)⟩) hnext
          obtain ⟨done, left, hitems, hdone, hleft⟩ := hrest
          refine ⟨item :: done, left, congrArg _ hitems, .cons hfile ?_, hleft⟩
          have hlaterItems : ∀ next ∈ done, next ∈ item :: rest := fun next hnext =>
            List.mem_cons_of_mem _ (hitems ▸ List.mem_append_left left hnext)
          exact ((List.forall₂_and_left _ _).2 ⟨hlaterItems, hdone⟩).imp fun next later hnext =>
            hlater next hnext.1 later hnext.2

theorem writeEach_writesUpTo (Kept : FileTree → Prop)
    (hkept : ∀ tree, Kept tree → ∀ item ∈ items, ∀ written, file tree item = .ok written →
      Kept (tree.overlay [written]) ∧ ∀ next ∈ items, ∀ later,
        file (tree.overlay [written]) next = .ok later → file tree next = .ok later)
    (hplaces : ∀ item written, file tree item = .ok written →
      tree.get? written.1 ≠ some .directory)
    (htree : Kept tree) :
    let run := tree.writeEach file items
    WritesUpTo file tree (tree.overlay run.2) items run.1 run.2 := by
  have hitems := writeEach_items Kept hkept htree
  refine ⟨hitems, get?_overlay ?_⟩
  intro written hwritten
  obtain ⟨done, left, -, hdone, -⟩ := hitems
  obtain ⟨item, -, hfile⟩ := exists_left_of_forall₂ hdone written hwritten
  exact hplaces item written hfile

/-- Files that are written over no directory leave the directories as they are. -/
theorem WritesUpTo.sameDirectories {after : FileTree} {result : Except ε Unit}
    {files : List (Place × String)} (hwrites : tree.WritesUpTo file after items result files)
    (hplaces : ∀ item written, file tree item = .ok written →
      tree.get? written.1 ≠ some .directory) : tree.SameDirectories after := by
  intro place
  rw [hwrites.places]
  cases hlookup : files.reverse.lookup place with
  | none => rfl
  | some text =>
      obtain ⟨done, left, -, hdone, -⟩ := hwrites.items
      have hmem : (place, text) ∈ files := by
        obtain ⟨before, others, hfiles, -⟩ := List.lookup_eq_some_iff.1 hlookup
        rw [← List.mem_reverse, hfiles]
        simp
      obtain ⟨item, -, hfile⟩ := exists_left_of_forall₂ hdone _ hmem
      simp [hplaces item _ hfile]

end WriteEach

end FileTree

/-! ## Operations -/

variable {tree : FileTree}

theorem run_bind {α β : Type} (operation : StateM FileTree α) (next : α → StateM FileTree β) :
    (operation >>= next).run tree =
      (next (operation.run tree).1).run (operation.run tree).2 := rfl

theorem run_read (path : String) :
    (Files.read path : StateM FileTree _).run tree = (tree.read path, tree) := rfl

theorem run_write (path text : String) :
    (Files.write path text : StateM FileTree _).run tree =
      match tree.target path with
      | .error e => (.error e, tree)
      | .ok place => (.ok (), tree.overlay [(place, text)]) := by
  simp only [Files.write, run_bind, StateT.run_get, FileTree.write]
  cases tree.target path with
  | error e => rfl
  | ok place => rfl

theorem run_readText (path : String) :
    (readText path : StateM FileTree _).run tree = (tree.text path, tree) := by
  rw [readText, run_bind, run_read, FileTree.text]
  cases tree.read path with
  | error e => rfl
  | ok content => cases htext : String.fromUTF8? content <;> simp [htext, bind, Except.bind] <;> rfl

theorem run_writeInto (directory fileName text : String) :
    (writeInto directory fileName text : StateM FileTree _).run tree =
      match tree.placeIn directory fileName with
      | .error e => (.error e, tree)
      | .ok place => (.ok (), tree.overlay [(place, text)]) := by
  rw [writeInto, run_bind, run_write, FileTree.placeIn]
  cases tree.target (Path.join directory fileName) <;> rfl

theorem run_cutFile (input output reader : String) (table : Table) :
    (cutFile input output reader table : StateM FileTree _).run tree =
      match tree.cutOf input output reader table with
      | .error e => (.error e, tree)
      | .ok file => (.ok (), tree.overlay [file]) := by
  rw [cutFile, run_bind, run_readText, FileTree.cutOf]
  cases tree.text (Path.join input table.fileName) with
  | error e => rfl
  | ok content =>
      cases hcut : table.cut reader content with
      | error fault => simp [hcut, Except.mapError, bind, Except.bind]; rfl
      | ok cut =>
          simp only [hcut, run_writeInto, Except.mapError, bind, Except.bind]
          cases tree.placeIn output table.fileName <;> rfl

theorem run_cutFiles (input output reader : String) (tables : List Table) :
    (cutFiles input output reader tables : StateM FileTree _).run tree =
      let run := tree.writeEach (·.cutOf input output reader ·) tables
      (run.1, tree.overlay run.2) := by
  induction tables generalizing tree with
  | nil => rfl
  | cons table rest ih =>
      rw [cutFiles, run_bind, run_cutFile, FileTree.writeEach]
      cases tree.cutOf input output reader table with
      | error e => rfl
      | ok file =>
          dsimp only
          rw [ih]
          rfl

end TableSchema
