import TableSchema.Proofs.Table.Layouts
import TableSchema.Proofs.Table.Lines
import TableSchema.Proofs.Table.Values

/-!
# Written rows are read back

The line of a row is decoded to the row if all values of the row are separable, and only then. In
the later rows of a group the key cell is left empty, and the reader puts the key back.
-/

namespace TableSchema

open Reading

/-- A row of a table, with a key in the place of the key. -/
structure Layout.Admits (layout : Layout) (key : Atom) (row : Row) : Prop where
  fits : RowFits layout.columns row
  key : row[layout.keyIndex]? = some (.one (.atom key))

instance (layout : Layout) (key : Atom) (row : Row) : Decidable (layout.Admits key row) :=
  decidable_of_iff (RowFits layout.columns row ∧ row[layout.keyIndex]? = some (.one (.atom key)))
    ⟨fun ⟨hfits, hkey⟩ => ⟨hfits, hkey⟩, fun ⟨hfits, hkey⟩ => ⟨hfits, hkey⟩⟩

section Columns

variable {columns : List ColumnLayout} {row : Row}

theorem RowFits.length_eq (hfits : RowFits columns row) : row.length = columns.length := by
  induction columns generalizing row with
  | nil =>
      cases row with
      | nil => rfl
      | cons value row => exact hfits.elim
  | cons column columns ih =>
      cases row with
      | nil => exact hfits.elim
      | cons value row => rw [List.length_cons, List.length_cons, ih hfits.2]

theorem RowFits.fits_of_getElem? (hfits : RowFits columns row) {i : Nat} {column : ColumnLayout}
    {value : Value} (hcolumn : columns[i]? = some column) (hvalue : row[i]? = some value) :
    value.Fits column := by
  induction columns generalizing row i with
  | nil => simp at hcolumn
  | cons first columns ih =>
      cases row with
      | nil => exact hfits.elim
      | cons other row =>
          cases i with
          | zero =>
              rw [List.getElem?_cons_zero, Option.some_inj] at hcolumn hvalue
              subst hcolumn hvalue
              exact hfits.1
          | succ i => exact ih hfits.2 hcolumn hvalue

/-- The values of a row are all read back if they are separable, and only then. -/
theorem RowFits.forall₂_readValue_iff (hfits : RowFits columns row) :
    List.Forall₂ (fun entry value => Rules.rust.readValue entry.1 entry.2 = some value)
        (columns.zip (Writing.rowCells row)) row ↔ ∀ value ∈ row, value.Separable := by
  induction columns generalizing row with
  | nil =>
      cases row with
      | nil => simp
      | cons value row => exact hfits.elim
  | cons column columns ih =>
      cases row with
      | nil => exact hfits.elim
      | cons value row =>
          have hrest := ih hfits.2
          rw [Writing.rowCells] at hrest ⊢
          rw [List.map_cons, List.zip_cons_cons, List.forall₂_cons, hrest, List.forall_mem_cons,
            Rules.readValue_written_iff hfits.1]

end Columns

variable {layout : Layout} {key : Atom} {row : Row}

/-! ## The line of a row -/

theorem length_rowCells : (Writing.rowCells row).length = row.length :=
  List.length_map _

theorem decode?_rowCells_iff (hadmits : layout.Admits key row) :
    decode? .rust layout (Writing.rowCells row) = some row ↔ ∀ value ∈ row, value.Separable := by
  rw [decode?, mapM_eq_some_iff]
  exact hadmits.fits.forall₂_readValue_iff

/-- The line of a row is complete and read as the row if the values can be told apart. -/
theorem complete_rowCells_iff (hadmits : layout.Admits key row) :
    (Complete .rust layout (Writing.rowCells row) ∧
      rowOf .rust layout (Writing.rowCells row) = row) ↔ ∀ value ∈ row, value.Separable := by
  rw [← decode?_rowCells_iff hadmits]
  constructor
  · intro ⟨hcomplete, hrow⟩
    obtain ⟨other, hother⟩ := Option.isSome_iff_exists.1 hcomplete.decodes
    rw [rowOf, hother, Option.getD_some] at hrow
    rw [hother, hrow]
  · intro hdecode
    refine ⟨⟨length_rowCells.trans hadmits.fits.length_eq, ?_⟩, ?_⟩
    · rw [hdecode]
      rfl
    · rw [rowOf, hdecode, Option.getD_some]

theorem keyCell_rowCells (hadmits : layout.Admits key row) :
    keyCell layout (Writing.rowCells row) = key.written := by
  rw [keyCell, List.getD_eq_getElem?_getD, Writing.rowCells, List.getElem?_map, hadmits.key]
  rfl

theorem keyOf_rowCells (hsound : layout.Sound) (hadmits : layout.Admits key row) :
    keyOf .rust layout (Writing.rowCells row) = key := by
  have hkey := hadmits.fits.fits_of_getElem? hsound.key hadmits.key
  rw [keyOf, readKey, keyCell_rowCells hadmits, Rules.readAtom_written hkey.2]

/-! ## The line of a later row -/

section Later

variable {rules : Rules}

theorem keyCell_set (cells : Cells) : keyCell layout (cells.set layout.keyIndex []) = [] := by
  rw [keyCell, List.getD_eq_getElem?_getD, List.getElem?_set_self']
  cases cells[layout.keyIndex]? with
  | none => rfl
  | some cell => rfl

/-- Another cell in the place of one that holds no record is another value in the row. -/
theorem decode?_set {columns : List ColumnLayout} {column : ColumnLayout} {i : Nat}
    (hcolumn : columns[i]? = some column) {cell : List Char} {value : Value}
    (hvalue : rules.readValue column cell = some value)
    (hsome : ∀ other, (rules.readValue column other).isSome) (cells : Cells) :
    ((columns.zip (cells.set i cell)).mapM fun (column, cell) => rules.readValue column cell) =
      ((columns.zip cells).mapM fun (column, cell) => rules.readValue column cell).map
        fun row : Row => row.set i value := by
  induction columns generalizing i cells with
  | nil => simp at hcolumn
  | cons first columns ih =>
      cases cells with
      | nil => simp
      | cons other cells =>
          cases i with
          | zero =>
              rw [List.getElem?_cons_zero, Option.some_inj] at hcolumn
              subst hcolumn
              obtain ⟨old, hold⟩ := Option.isSome_iff_exists.1 (hsome other)
              simp only [List.set_cons_zero, List.zip_cons_cons, List.mapM_cons, hvalue, hold]
              cases (columns.zip cells).mapM fun (column, cell) => rules.readValue column cell with
              | none => rfl
              | some row => rfl
          | succ i =>
              have hrest := ih hcolumn cells
              simp only [List.set_cons_succ, List.zip_cons_cons, List.mapM_cons, hrest]
              cases rules.readValue first other with
              | none => rfl
              | some value =>
                  cases (columns.zip cells).mapM fun (column, cell) =>
                    rules.readValue column cell with
                  | none => rfl
                  | some row => rfl

variable (hsound : layout.Sound)
include hsound

theorem decode?_set_key (cells : Cells) :
    decode? rules layout (cells.set layout.keyIndex []) =
      (decode? rules layout cells).map fun row =>
        row.set layout.keyIndex (.one (.atom (rules.readAtom layout.keyAtom []))) :=
  decode?_set hsound.key rfl (fun _ => rfl) cells

theorem complete_set_key_iff {cells : Cells} :
    Complete rules layout (cells.set layout.keyIndex []) ↔ Complete rules layout cells := by
  constructor
  · intro ⟨hcount, hdecodes⟩
    rw [List.length_set] at hcount
    rw [decode?_set_key hsound, Option.isSome_map] at hdecodes
    exact ⟨hcount, hdecodes⟩
  · intro ⟨hcount, hdecodes⟩
    refine ⟨by rwa [List.length_set], ?_⟩
    rwa [decode?_set_key hsound, Option.isSome_map]

/-- With the key put back, nothing shows that the key cell was empty. -/
theorem withKey_rowOf_set_key (cells : Cells) :
    withKey layout key (rowOf rules layout (cells.set layout.keyIndex [])) =
      withKey layout key (rowOf rules layout cells) := by
  rw [rowOf, rowOf, decode?_set_key hsound]
  cases decode? rules layout cells with
  | none => rfl
  | some row => simp [withKey]

end Later

/-- The key is in its place already when the line of a row is read. -/
theorem withKey_rowOf_rowCells (hsound : layout.Sound) (hadmits : layout.Admits key row) :
    withKey layout key (rowOf .rust layout (Writing.rowCells row)) =
      rowOf .rust layout (Writing.rowCells row) := by
  have hcell : (layout.columns.zip (Writing.rowCells row))[layout.keyIndex]? =
      some (⟨layout.keyName, .atom layout.keyAtom, false⟩, key.written) := by
    rw [List.getElem?_zip_eq_some, Writing.rowCells, List.getElem?_map, hadmits.key]
    exact ⟨hsound.key, rfl⟩
  -- The value in the place of the key is decoded to the key itself.
  have hkey := hadmits.fits.fits_of_getElem? hsound.key hadmits.key
  rw [rowOf]
  cases hdecode : decode? .rust layout (Writing.rowCells row) with
  | none => rfl
  | some decoded =>
      have hvalue : decoded[layout.keyIndex]? = some (.one (.atom key)) := by
        rw [getElem?_of_mapM_eq_some hdecode, hcell, Option.bind_some]
        exact congrArg (fun a => some (Value.one (.atom a))) (Rules.readAtom_written hkey.2)
      obtain ⟨hlt, hget⟩ := List.getElem?_eq_some_iff.1 hvalue
      rw [Option.getD_some, withKey, ← hget, List.set_getElem_self]

end TableSchema
