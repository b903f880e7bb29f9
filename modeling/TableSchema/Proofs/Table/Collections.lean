import TableSchema.Proofs.Table.Grammar
import TableSchema.Proofs.Table.Written
import TableSchema.Proofs.Table.WrittenRows

/-!
# Collections in lines

The data lines of a collection, as the grammar of tables sees them: every line has the row that it
was written for, a line has a key just if its row is the first under the key, and the blocks of
lines are the groups.
-/

namespace TableSchema

open Reading

namespace Collection

/-- The rows of a collection, each with its key. -/
def keyedRows : Collection → List (Atom × Row)
  | .rows entries => entries
  | .groups entries => entries.flatMap fun entry => entry.2.map fun row => (entry.1, row)

/-- The rows belong to the table, and no key is used twice. Groups are not empty, and their rows all
have the key of the group. -/
def Fits (layout : Layout) : Collection → Prop
  | .rows entries =>
      layout.keyType = .single ∧ (entries.map (·.1)).Nodup ∧
        ∀ entry ∈ entries, layout.Admits entry.1 entry.2
  | .groups entries =>
      layout.keyType = .set ∧ (entries.map (·.1)).Nodup ∧
        ∀ entry ∈ entries, entry.2 ≠ [] ∧ ∀ row ∈ entry.2, layout.Admits entry.1 row

instance (layout : Layout) : DecidablePred (Fits layout)
  | .rows entries =>
      inferInstanceAs (Decidable (layout.keyType = .single ∧ (entries.map (·.1)).Nodup ∧
        ∀ entry ∈ entries, layout.Admits entry.1 entry.2))
  | .groups entries =>
      inferInstanceAs (Decidable (layout.keyType = .set ∧ (entries.map (·.1)).Nodup ∧
        ∀ entry ∈ entries, entry.2 ≠ [] ∧ ∀ row ∈ entry.2, layout.Admits entry.1 row))

variable {layout : Layout} {collection : Collection}

theorem forall_mem_keyedRows_groups {entries : List (Atom × List Row)} {p : Atom × Row → Prop} :
    (∀ entry ∈ (groups entries).keyedRows, p entry) ↔
      ∀ group ∈ entries, ∀ row ∈ group.2, p (group.1, row) := by
  simp only [keyedRows, List.forall_mem_flatMap, List.forall_mem_map]

theorem forall_keys_of_groups {entries : List (Atom × List Row)}
    (hne : ∀ group ∈ entries, group.2 ≠ []) {p : Atom → Prop}
    (hrows : ∀ entry ∈ (groups entries).keyedRows, p entry.1) : ∀ group ∈ entries, p group.1 := by
  intro group hgroup
  obtain ⟨row, hrow⟩ := List.exists_mem_of_ne_nil _ (hne group hgroup)
  exact forall_mem_keyedRows_groups.1 hrows group hgroup row hrow

theorem Fits.admits (hfits : collection.Fits layout) :
    ∀ entry ∈ collection.keyedRows, layout.Admits entry.1 entry.2 := by
  cases collection with
  | rows entries => exact hfits.2.2
  | groups entries =>
      exact forall_mem_keyedRows_groups.2 fun group hgroup => (hfits.2.2 group hgroup).2

end Collection

/-- The table has the rows of a collection under their keys, and nothing else. -/
def Content.HoldsJust : Content → Collection → Prop
  | .rows held, .rows entries => held.toList.Perm entries
  | .rowSets held, .groups entries => held.toList.Perm entries
  | _, _ => False

/-- The rows in a table, all counted. -/
def Content.count : Content → Nat
  | .rows held => held.toList.length
  | .rowSets held => (held.toList.flatMap (·.2)).length

namespace Writing

variable {layout : Layout} {collection : Collection} {keyIndex : Nat}

/-! ## Lines of rows -/

theorem length_groupLines (rows : List Row) : (groupLines keyIndex rows).length = rows.length := by
  cases rows with
  | nil => rfl
  | cons first later => simp [groupLines]

theorem length_dataLines :
    (dataLines keyIndex collection).length = collection.keyedRows.length := by
  cases collection with
  | rows entries => exact List.length_map _
  | groups entries =>
      simp [dataLines, Collection.keyedRows, List.length_flatMap, length_groupLines]

/-- Every line is that of a row, maybe with an empty key cell. -/
theorem exists_of_mem_dataLines {cells : Cells} (hmem : cells ∈ dataLines keyIndex collection) :
    ∃ entry ∈ collection.keyedRows,
      cells = rowCells entry.2 ∨ cells = (rowCells entry.2).set keyIndex [] := by
  cases collection with
  | rows entries =>
      obtain ⟨entry, hentry, rfl⟩ := List.mem_map.1 hmem
      exact ⟨entry, hentry, .inl rfl⟩
  | groups entries =>
      obtain ⟨⟨key, rows⟩, hgroup, hline⟩ := List.mem_flatMap.1 hmem
      have hrow (row : Row) (h : row ∈ rows) :
          (key, row) ∈ (Collection.groups entries).keyedRows :=
        List.mem_flatMap.2 ⟨_, hgroup, List.mem_map_of_mem h⟩
      cases rows with
      | nil => simp [groupLines] at hline
      | cons first later =>
          rw [groupLines, List.mem_cons] at hline
          rcases hline with rfl | hline
          · exact ⟨_, hrow first List.mem_cons_self, .inl rfl⟩
          · obtain ⟨row, hlater, rfl⟩ := List.mem_map.1 hline
            exact ⟨_, hrow row (List.mem_cons_of_mem _ hlater), .inr rfl⟩

/-- Every row has a line, maybe with an empty key cell, and there is a row with the same key whose
line has the key. -/
theorem mem_dataLines_of_mem {entry : Atom × Row} (hmem : entry ∈ collection.keyedRows) :
    (rowCells entry.2 ∈ dataLines keyIndex collection ∨
      (rowCells entry.2).set keyIndex [] ∈ dataLines keyIndex collection) ∧
    ∃ first, (entry.1, first) ∈ collection.keyedRows ∧
      rowCells first ∈ dataLines keyIndex collection := by
  cases collection with
  | rows entries =>
      have hline : rowCells entry.2 ∈ dataLines keyIndex (.rows entries) :=
        List.mem_map_of_mem (f := fun entry : Atom × Row => rowCells entry.2) hmem
      exact ⟨.inl hline, entry.2, hmem, hline⟩
  | groups entries =>
      obtain ⟨⟨key, rows⟩, hgroup, hentry⟩ := List.mem_flatMap.1 hmem
      obtain ⟨row, hrow, rfl⟩ := List.mem_map.1 hentry
      have hline (cells : Cells) (h : cells ∈ groupLines keyIndex rows) :
          cells ∈ dataLines keyIndex (.groups entries) :=
        List.mem_flatMap.2 ⟨_, hgroup, h⟩
      cases rows with
      | nil => simp at hrow
      | cons first later =>
          refine ⟨?_, first, ?_, hline _ List.mem_cons_self⟩
          · rcases List.mem_cons.1 hrow with rfl | hlater
            · exact .inl (hline _ List.mem_cons_self)
            · exact .inr (hline _ (List.mem_cons_of_mem _ (List.mem_map_of_mem hlater)))
          · exact List.mem_flatMap.2 ⟨_, hgroup, List.mem_map_of_mem List.mem_cons_self⟩

theorem complete_dataLines_iff (hsound : layout.Sound) :
    (∀ cells ∈ dataLines layout.keyIndex collection, Complete .rust layout cells) ↔
      ∀ entry ∈ collection.keyedRows, Complete .rust layout (rowCells entry.2) := by
  constructor
  · intro hcomplete entry hentry
    rcases (mem_dataLines_of_mem hentry).1 with hline | hline
    · exact hcomplete _ hline
    · exact (complete_set_key_iff hsound).1 (hcomplete _ hline)
  · intro hcomplete cells hcells
    obtain ⟨entry, hentry, hline⟩ := exists_of_mem_dataLines hcells
    rcases hline with rfl | rfl
    · exact hcomplete entry hentry
    · exact (complete_set_key_iff hsound).2 (hcomplete entry hentry)

variable (hfits : collection.Fits layout)
include hfits

theorem length_of_mem_dataLines :
    ∀ cells ∈ dataLines layout.keyIndex collection, cells.length = layout.columns.length := by
  intro cells hmem
  obtain ⟨entry, hentry, hcells⟩ := exists_of_mem_dataLines hmem
  have hlength : (rowCells entry.2).length = layout.columns.length :=
    length_rowCells.trans (hfits.admits entry hentry).fits.length_eq
  rcases hcells with rfl | rfl
  · exact hlength
  · rwa [List.length_set]

/-- Nothing in the lines ends a line or a cell if nothing in the values does. -/
theorem quiet_dataLines_iff :
    (∀ cells ∈ dataLines layout.keyIndex collection, ∀ cell ∈ cells, Quiet false cell) ↔
      ∀ entry ∈ collection.keyedRows, ∀ value ∈ entry.2, Quiet false value.written := by
  constructor
  · intro hquiet entry hentry value hvalue
    obtain ⟨hline, first, hfirst, hfirstLine⟩ := mem_dataLines_of_mem hentry
    obtain ⟨i, hi, hget⟩ := List.getElem_of_mem hvalue
    have hvalue : entry.2[i]? = some value := List.getElem?_eq_some_iff.2 ⟨hi, hget⟩
    by_cases hkey : i = layout.keyIndex
    · -- The key stands in the line of the first row even if it is left out here.
      subst hkey
      have hsame : first[layout.keyIndex]? = some value := by
        rw [(hfits.admits _ hfirst).key, ← (hfits.admits _ hentry).key, hvalue]
      exact hquiet _ hfirstLine _ (List.mem_map_of_mem (List.mem_of_getElem? hsame))
    · rcases hline with hline | hline
      · exact hquiet _ hline _ (List.mem_map_of_mem (List.mem_of_getElem? hvalue))
      · refine hquiet _ hline _ (List.mem_of_getElem? (i := i) ?_)
        rw [List.getElem?_set_ne (Ne.symm hkey), rowCells, List.getElem?_map, hvalue]
        rfl
  · intro hquiet cells hcells cell hcell
    obtain ⟨entry, hentry, hline⟩ := exists_of_mem_dataLines hcells
    have hrow : cell ∈ rowCells entry.2 ∨ cell = [] := by
      rcases hline with rfl | rfl
      · exact .inl hcell
      · exact List.mem_or_eq_of_mem_set hcell
    rcases hrow with hrow | rfl
    · obtain ⟨value, hvalue, rfl⟩ := List.mem_map.1 hrow
      exact hquiet entry hentry value hvalue
    · exact trivial

end Writing

/-! ## Blocks -/

namespace Reading

variable {rules : Rules} {layout : Layout}

theorem headLines_eq_map_blocks (data : List Cells) :
    headLines layout data = (blocks layout data).map (·.1) := by
  induction data with
  | nil => rfl
  | cons cells rest ih =>
      by_cases hempty : keyCell layout cells = []
      · rw [headLines_cons_of_empty hempty, blocks, if_pos hempty, ih]
      · rw [headLines_cons_of_ne_nil hempty, blocks_cons_of_ne_nil hempty, List.map_cons, ih]

/-- Only the lines before the first key are in no block. -/
theorem flatMap_blocks (data : List Cells) :
    ((blocks layout data).flatMap fun block => block.1 :: block.2) =
      data.dropWhile fun cells => keyCell layout cells = [] := by
  induction data with
  | nil => rfl
  | cons cells rest ih =>
      by_cases hempty : keyCell layout cells = []
      · rw [blocks, if_pos hempty, ih, List.dropWhile_cons_of_pos (by simpa using hempty)]
      · rw [blocks_cons_of_ne_nil hempty, List.flatMap_cons, ih,
          List.dropWhile_cons_of_neg (by simpa using hempty), List.cons_append,
          List.takeWhile_append_dropWhile]

theorem blocks_append_of_empty {lines : List Cells}
    (hempty : ∀ cells ∈ lines, keyCell layout cells = []) (rest : List Cells) :
    blocks layout (lines ++ rest) = blocks layout rest := by
  induction lines with
  | nil => rfl
  | cons cells lines ih =>
      rw [List.forall_mem_cons] at hempty
      rw [List.cons_append, blocks, if_pos hempty.1, ih hempty.2]

/-- There are as many rows in a table as there are data lines. -/
theorem count_of_holds {data : List Cells} {content : Content}
    (hkeys : LegalKeys rules layout data) (hholds : Holds rules layout data content) :
    content.count = data.length := by
  cases content with
  | rows held => exact hholds.2.length_eq.trans (List.length_map _)
  | rowSets held =>
      obtain ⟨htype, hperm⟩ := hholds
      rw [LegalKeys, htype] at hkeys
      -- The first line has a key, so every line is in a block.
      have hall : (data.dropWhile fun cells => keyCell layout cells = []) = data := by
        cases data with
        | nil => rfl
        | cons cells rest =>
            rw [List.dropWhile_cons_of_neg (by simpa using hkeys.1 cells rfl)]
      have hrows : (((blocks layout data).map (setEntry rules layout)).flatMap (·.2)).length =
          ((blocks layout data).flatMap fun block => block.1 :: block.2).length := by
        simp [List.length_flatMap, Function.comp_def, setEntry]
      rw [Content.count, (hperm.flatMap_right _).length_eq, hrows, flatMap_blocks, hall]

end Reading

theorem Content.HoldsJust.count_eq {content : Content} {collection : Collection}
    (hjust : content.HoldsJust collection) : content.count = collection.keyedRows.length := by
  cases content with
  | rows held =>
      cases collection with
      | rows entries => exact hjust.length_eq
      | groups entries => exact hjust.elim
  | rowSets held =>
      cases collection with
      | rows entries => exact hjust.elim
      | groups entries =>
          rw [Content.count, (List.Perm.flatMap_right _ hjust).length_eq]
          simp [Collection.keyedRows, List.length_flatMap]

namespace Writing

section Groups

variable {layout : Layout} {entries : List (Atom × List Row)}
  (hgroups : ∀ entry ∈ entries, entry.2 ≠ [] ∧ ∀ row ∈ entry.2, layout.Admits entry.1 row)
  (hkeys : ∀ entry ∈ entries, entry.1.written ≠ [])
include hgroups hkeys

theorem keyCell_head_dataLines :
    ∀ cells ∈ (dataLines layout.keyIndex (.groups entries)).head?, keyCell layout cells ≠ [] := by
  cases entries with
  | nil => simp [dataLines]
  | cons entry entries =>
      obtain ⟨key, rows⟩ := entry
      obtain ⟨hne, hadmits⟩ := hgroups _ List.mem_cons_self
      obtain ⟨first, later, rfl⟩ := List.exists_cons_of_ne_nil hne
      intro cells hcells
      obtain rfl : rowCells first = cells := by
        simpa [dataLines, groupLines] using hcells
      rw [keyCell_rowCells (hadmits first List.mem_cons_self)]
      exact hkeys _ List.mem_cons_self

/-- The blocks of the lines of groups are the groups, with every row as it is read. -/
theorem map_setEntry_blocks_dataLines (hsound : layout.Sound) :
    (blocks layout (dataLines layout.keyIndex (.groups entries))).map (setEntry .rust layout) =
      entries.map fun entry =>
        (entry.1, entry.2.map fun row => rowOf .rust layout (rowCells row)) := by
  induction entries with
  | nil => rfl
  | cons entry entries ih =>
      obtain ⟨key, rows⟩ := entry
      rw [List.forall_mem_cons] at hgroups hkeys
      obtain ⟨⟨hne, hadmits⟩, hgroups⟩ := hgroups
      obtain ⟨first, later, rfl⟩ := List.exists_cons_of_ne_nil hne
      have hrest := ih hgroups hkeys.2
      have hhead := keyCell_head_dataLines hgroups hkeys.2
      have hfirst := hadmits first List.mem_cons_self
      have hkey : keyCell layout (rowCells first) ≠ [] := by
        rw [keyCell_rowCells hfirst]
        exact hkeys.1
      have hline : dataLines layout.keyIndex (.groups ((key, first :: later) :: entries)) =
          rowCells first :: ((later.map fun row => (rowCells row).set layout.keyIndex []) ++
            dataLines layout.keyIndex (.groups entries)) := rfl
      have hempty : ∀ cells ∈ later.map fun row => (rowCells row).set layout.keyIndex [],
          keyCell layout cells = [] := by
        intro cells hcells
        obtain ⟨row, -, rfl⟩ := List.mem_map.1 hcells
        exact keyCell_set _
      -- The line after the group has a key, so the block ends there.
      have hstop : ((dataLines layout.keyIndex (.groups entries)).takeWhile fun cells =>
          keyCell layout cells = []) = [] := by
        cases hdata : dataLines layout.keyIndex (.groups entries) with
        | nil => rfl
        | cons cells rest =>
            rw [hdata] at hhead
            exact List.takeWhile_cons_of_neg (by simpa using hhead cells rfl)
      have hreread : (later.map fun row => (rowCells row).set layout.keyIndex []).map
            (fun cells => withKey layout key (rowOf .rust layout cells)) =
          later.map fun row => rowOf .rust layout (rowCells row) := by
        rw [List.map_map]
        apply List.map_congr_left
        intro row hrow
        have hadmitted := hadmits row (List.mem_cons_of_mem first hrow)
        exact (withKey_rowOf_set_key hsound _).trans (withKey_rowOf_rowCells hsound hadmitted)
      rw [hline, blocks_cons_of_ne_nil hkey, List.takeWhile_append_of_pos (by simpa using hempty),
        hstop, List.append_nil, blocks_append_of_empty hempty, List.map_cons, hrest, List.map_cons,
        setEntry, keyOf_rowCells hsound hfirst]
      dsimp only
      rw [hreread, List.map_cons]

end Groups

variable {layout : Layout} {collection : Collection} (hsound : layout.Sound)
  (hfits : collection.Fits layout)
include hsound hfits

/-- The keys of a collection are legal in its lines if none of them leaves its cell empty. -/
theorem legalKeys_dataLines (hkeys : ∀ entry ∈ collection.keyedRows, entry.1.written ≠ []) :
    LegalKeys .rust layout (dataLines layout.keyIndex collection) := by
  cases collection with
  | rows entries =>
      obtain ⟨htype, hdistinct, hadmits⟩ := hfits
      rw [LegalKeys, htype]
      refine ⟨?_, ?_⟩
      · intro cells hcells
        obtain ⟨entry, hentry, rfl⟩ := List.mem_map.1 hcells
        rw [keyCell_rowCells (hadmits entry hentry)]
        exact hkeys entry hentry
      · have hsame : (dataLines layout.keyIndex (.rows entries)).map (keyOf .rust layout) =
            entries.map (·.1) := by
          rw [dataLines, List.map_map]
          exact List.map_congr_left fun entry hentry => keyOf_rowCells hsound (hadmits entry hentry)
        rwa [hsame]
  | groups entries =>
      obtain ⟨htype, hdistinct, hgroups⟩ := hfits
      have hkeys := Collection.forall_keys_of_groups (p := fun key => key.written ≠ [])
        (fun group hgroup => (hgroups group hgroup).1) hkeys
      have hsame : (headLines layout (dataLines layout.keyIndex (.groups entries))).map
          (keyOf .rust layout) = entries.map (·.1) := by
        have hblocks := congrArg (List.map (·.1))
          (map_setEntry_blocks_dataLines hgroups hkeys hsound)
        rw [List.map_map, List.map_map] at hblocks
        rw [headLines_eq_map_blocks, List.map_map]
        exact hblocks
      rw [LegalKeys, htype]
      refine ⟨keyCell_head_dataLines hgroups hkeys, ?_⟩
      rwa [hsame]

/-- A table holds just the collection if every row is read from its line. -/
theorem holdsJust_iff {content : Content}
    (hkeys : ∀ entry ∈ collection.keyedRows, entry.1.written ≠ [])
    (hholds : Holds .rust layout (dataLines layout.keyIndex collection) content) :
    content.HoldsJust collection ↔
      ∀ entry ∈ collection.keyedRows, rowOf .rust layout (rowCells entry.2) = entry.2 := by
  cases collection with
  | rows entries =>
      cases content with
      | rowSets held =>
          cases hfits.1.symm.trans hholds.1
      | rows held =>
          have hread : (dataLines layout.keyIndex (.rows entries)).map (rowEntry .rust layout) =
              entries.map fun entry => (entry.1, rowOf .rust layout (rowCells entry.2)) := by
            rw [dataLines, List.map_map]
            apply List.map_congr_left
            intro entry hentry
            exact congrArg (·, rowOf .rust layout (rowCells entry.2))
              (keyOf_rowCells hsound (hfits.2.2 entry hentry))
          have hperm := hholds.2
          rw [hread] at hperm
          have hiff := Keyed.map_perm_iff hfits.2.1
            (f := fun row => rowOf .rust layout (rowCells row))
          exact (hperm.congr_left entries).trans hiff
  | groups entries =>
      cases content with
      | rows held =>
          cases hfits.1.symm.trans hholds.1
      | rowSets held =>
          obtain ⟨-, hdistinct, hgroups⟩ := hfits
          have hkeys := Collection.forall_keys_of_groups (p := fun key => key.written ≠ [])
            (fun group hgroup => (hgroups group hgroup).1) hkeys
          have hperm := hholds.2
          rw [map_setEntry_blocks_dataLines hgroups hkeys hsound] at hperm
          have hiff := Keyed.map_perm_iff hdistinct
            (f := List.map fun row => rowOf .rust layout (rowCells row))
          refine (hperm.congr_left entries).trans (hiff.trans ?_)
          rw [Collection.forall_mem_keyedRows_groups]
          apply forall₂_congr
          intro group _
          have hfixed := @List.map_inj_left _ _ group.2
            (fun row => rowOf .rust layout (rowCells row)) id
          rwa [List.map_id] at hfixed

/-- In a table that holds just the collection, no key leaves its cell empty. -/
theorem written_ne_nil_of_holdsJust {content : Content}
    (hlegal : LegalKeys .rust layout (dataLines layout.keyIndex collection))
    (hholds : Holds .rust layout (dataLines layout.keyIndex collection) content)
    (hjust : content.HoldsJust collection) :
    ∀ entry ∈ collection.keyedRows, entry.1.written ≠ [] := by
  cases collection with
  | rows entries =>
      rw [LegalKeys, hfits.1] at hlegal
      intro entry hentry
      have hcell := hlegal.1 _
        (List.mem_map_of_mem (f := fun entry : Atom × Row => rowCells entry.2) hentry)
      rwa [keyCell_rowCells (hfits.2.2 entry hentry)] at hcell
  | groups entries =>
      cases content with
      | rows held => exact hjust.elim
      | rowSets held =>
          refine Collection.forall_mem_keyedRows_groups.2 ?_
          intro group hgroup row _
          -- The block of the group starts with a line that has the key.
          obtain ⟨block, hblock, rfl⟩ := List.mem_map.1
            ((hholds.2.symm.trans hjust).mem_iff.2 hgroup)
          have hhead : block.1 ∈ headLines layout (dataLines layout.keyIndex (.groups entries)) :=
            @headLines_eq_map_blocks layout _ ▸ List.mem_map_of_mem hblock
          obtain ⟨hline, hkey⟩ := List.mem_filter.1 hhead
          obtain ⟨entry, hentry, hcells⟩ := exists_of_mem_dataLines hline
          have hadmits := hfits.admits entry hentry
          rcases hcells with hcells | hcells
          · have hcell : keyCell layout block.1 = entry.1.written :=
              hcells ▸ keyCell_rowCells hadmits
            have hsame : keyOf .rust layout block.1 = entry.1 :=
              hcells ▸ keyOf_rowCells hsound hadmits
            change (keyOf .rust layout block.1).written ≠ []
            rw [hsame, ← hcell]
            exact of_decide_eq_true hkey
          · have hempty : keyCell layout block.1 = [] := hcells ▸ keyCell_set _
            exact absurd hempty (of_decide_eq_true hkey)

end Writing

end TableSchema
