import TableSchema.Proofs.Table.Written
import TableSchema.Table.Writing

/-!
# Quoted cells are read back

However the cells of lines are written, enclosed in quotes or bare, the lines are read back if all
of their cells are quiet, and only then. Quotes hide neither a tab nor the end of a line.
-/

namespace TableSchema

namespace Writing

/-! ## A cell -/

theorem pairQuotes_doubleQuotes (cell : List Char) :
    Cell.pairQuotes (doubleQuotes cell) = cell := by
  induction cell with
  | nil => rfl
  | cons c rest ih =>
      by_cases hquote : c = '"'
      · simp [doubleQuotes, hquote, Cell.pairQuotes, ih]
      · simp [doubleQuotes, hquote, Cell.pairQuotes, ih]

theorem unquote_enclose (cell : List Char) : Cell.unquote (enclose cell) = cell := by
  have henclosed : Cell.enclosed? (enclose cell) = some (doubleQuotes cell) := by
    rw [enclose, Cell.enclosed?, List.getLast?_concat, if_pos rfl, List.dropLast_concat]
  rw [Cell.unquote, henclosed]
  exact pairQuotes_doubleQuotes cell

theorem quiet_doubleQuotes_iff {afterReturn : Bool} {cell : List Char} :
    Quiet afterReturn (doubleQuotes cell) ↔ Quiet afterReturn cell := by
  induction cell generalizing afterReturn with
  | nil => rfl
  | cons c rest ih =>
      by_cases hquote : c = '"'
      · simp [doubleQuotes, hquote, Quiet, ih]
      · simp [doubleQuotes, hquote, Quiet, ih]

theorem quiet_enclose_iff {cell : List Char} : Quiet false (enclose cell) ↔ Quiet false cell := by
  have hquotes : Quiet false (enclose cell) ↔ Quiet false (doubleQuotes cell) := by
    simp [enclose, Quiet, quiet_append_iff]
  exact hquotes.trans quiet_doubleQuotes_iff

theorem endsInReturn_enclose (cell : List Char) : endsInReturn false (enclose cell) = false := by
  rw [enclose, ← List.cons_append, endsInReturn_append]
  rfl

theorem endsInReturn_iff {cell : List Char} :
    endsInReturn false cell = true ↔ cell.getLast? = some '\r' := by
  rcases List.eq_nil_or_concat cell with rfl | ⟨rest, c, rfl⟩
  · simp [endsInReturn]
  · simp [endsInReturn_append, endsInReturn]

section Cell

variable {bare isLast : Bool} {cell : List Char}

/-- A cell is read back however it is written. -/
theorem unquote_writeCell : Cell.unquote (writeCell bare isLast cell) = cell := by
  unfold writeCell
  split
  next hbare =>
    have hnone : Cell.enclosed? cell = none := by
      simp only [mayStandBare, Bool.and_eq_true, Option.isNone_iff_eq_none] at hbare
      exact hbare.2.1
    rw [Cell.unquote, hnone]
  next => exact unquote_enclose cell

theorem quiet_writeCell_iff : Quiet false (writeCell bare isLast cell) ↔ Quiet false cell := by
  unfold writeCell
  split
  · rfl
  · exact quiet_enclose_iff

/-- No tab follows a carriage return. -/
theorem endsInReturn_writeCell : endsInReturn false (writeCell bare false cell) = false := by
  unfold writeCell
  split
  next hbare =>
    have hends : cell.getLast? ≠ some '\r' := by
      simp only [mayStandBare, Bool.and_eq_true, Bool.false_or, decide_eq_true_eq] at hbare
      exact hbare.2.2
    exact Bool.eq_false_iff.2 (endsInReturn_iff.not.2 hends)
  next => exact endsInReturn_enclose cell

end Cell

/-! ## Lines -/

section Cells

variable {bare : Nat → Bool} {cells : Cells}

theorem map_unquote_writeCells : (writeCells bare cells).map Cell.unquote = cells := by
  induction cells generalizing bare with
  | nil => rfl
  | cons cell rest ih => rw [writeCells, List.map_cons, unquote_writeCell, ih]

theorem length_writeCells : (writeCells bare cells).length = cells.length := by
  induction cells generalizing bare with
  | nil => rfl
  | cons cell rest ih => rw [writeCells, List.length_cons, List.length_cons, ih]

theorem writeCells_ne_nil (hne : cells ≠ []) : writeCells bare cells ≠ [] := by
  apply List.ne_nil_of_length_pos
  rw [length_writeCells]
  exact List.length_pos_of_ne_nil hne

theorem quiet_writeCells_iff :
    (∀ cell ∈ writeCells bare cells, Quiet false cell) ↔ ∀ cell ∈ cells, Quiet false cell := by
  induction cells generalizing bare with
  | nil => rfl
  | cons cell rest ih =>
      rw [writeCells, List.forall_mem_cons, List.forall_mem_cons, quiet_writeCell_iff, ih]

theorem endsInReturn_writeCells :
    ∀ cell ∈ (writeCells bare cells).dropLast, endsInReturn false cell = false := by
  induction cells generalizing bare with
  | nil => simp [writeCells]
  | cons cell rest ih =>
      cases rest with
      | nil => simp [writeCells]
      | cons next others =>
          have hrest := @ih fun i => bare (i + 1)
          rw [writeCells] at hrest ⊢
          rw [writeCells, List.dropLast_cons_cons, List.forall_mem_cons]
          exact ⟨endsInReturn_writeCell, hrest⟩

end Cells

variable {bare : Nat → Nat → Bool} {lines : List Cells}

theorem map_unquote_mapIdx_writeCells :
    (lines.mapIdx fun i => writeCells (bare i)).map (List.map Cell.unquote) = lines := by
  apply List.ext_getElem?
  intro i
  rw [List.getElem?_map, List.getElem?_mapIdx, Option.map_map]
  cases lines[i]? with
  | none => rfl
  | some cells => exact congrArg some map_unquote_writeCells

/-- The lines are read back if nothing in their cells ends a line or a cell. -/
theorem rowsOf_writeLines (hne : ∀ cells ∈ lines, cells ≠ [])
    (hquiet : ∀ cells ∈ lines, ∀ cell ∈ cells, Quiet false cell) :
    rowsOf Cell.unquote (writeLines bare lines) = lines := by
  have hwritable : ∀ cells ∈ lines.mapIdx fun i => writeCells (bare i), Writable cells := by
    intro cells hmem
    obtain ⟨i, hi, rfl⟩ := List.mem_mapIdx.1 hmem
    have hcells := List.getElem_mem hi
    refine writable_iff.2 ⟨?_, quiet_writeCells_iff.2 (hquiet _ hcells), endsInReturn_writeCells⟩
    exact writeCells_ne_nil (hne _ hcells)
  rw [writeLines, rowsOf_eq_segments, String.toList_ofList, segments_writeLines hwritable,
    map_unquote_mapIdx_writeCells]

/-- Lines with so many cells each that are read as just as many lines with just as many cells have
quiet cells. -/
theorem quiet_of_rowsOf_writeLines {count : Nat} (hcount : 0 < count)
    (hcounts : ∀ cells ∈ lines, cells.length = count)
    (hlength : (rowsOf Cell.unquote (writeLines bare lines)).length = lines.length)
    (hread : ∀ cells ∈ rowsOf Cell.unquote (writeLines bare lines), cells.length = count) :
    ∀ cells ∈ lines, ∀ cell ∈ cells, Quiet false cell := by
  rw [writeLines, rowsOf_eq_segments, String.toList_ofList] at hlength hread
  have hwritten : ∀ cells ∈ lines.mapIdx fun i => writeCells (bare i), cells.length = count ∧
      ∀ cell ∈ cells.dropLast, endsInReturn false cell = false := by
    intro cells hmem
    obtain ⟨i, hi, rfl⟩ := List.mem_mapIdx.1 hmem
    exact ⟨length_writeCells.trans (hcounts _ (List.getElem_mem hi)), endsInReturn_writeCells⟩
  -- Quotes change neither the number of lines nor that of cells.
  have hquiet := quiet_of_segments_writeLines
    (fun cells hmem => List.ne_nil_of_length_pos ((hwritten cells hmem).1 ▸ hcount))
    (fun cells hmem => (hwritten cells hmem).2) (by simpa using hlength)
    (fun cells hmem => (hwritten cells hmem).1)
    (fun cells hmem => by simpa using hread _ (List.mem_map_of_mem hmem))
  intro cells hcells
  obtain ⟨i, hi, rfl⟩ := List.getElem_of_mem hcells
  refine (@quiet_writeCells_iff (bare i) _).1 (hquiet _ ?_)
  exact List.mem_mapIdx.2 ⟨i, hi, rfl⟩

end Writing

end TableSchema
