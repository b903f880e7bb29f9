import TableSchema.Proofs.Success
import TableSchema.Proofs.Table.KeyedLaws
import TableSchema.Table.Reading

/-!
# Lines of a table, one at a time

When a line is taken up, what is held then, and that no cell is asked for that is not there. What a
line holds is said without line numbers: `keyOf` is its key, and `rowOf` is its row if it is
complete.
-/

namespace TableSchema

namespace Attempt

variable {ε α β : Type}

/-- A reading that asks for no cell that is not there. -/
def StaysInRange (attempt : Attempt ε α) : Prop :=
  attempt ≠ .error .outOfRange

theorem staysInRange_ok (a : α) : StaysInRange (.ok a : Attempt ε α) := by
  simp [StaysInRange]

theorem StaysInRange.bind {attempt : Attempt ε α} {next : α → Attempt ε β}
    (hattempt : attempt.StaysInRange) (hnext : ∀ a, attempt = .ok a → (next a).StaysInRange) :
    StaysInRange (attempt >>= next) := by
  cases attempt with
  | error e =>
      intro h
      cases h
      exact hattempt rfl
  | ok a => exact hnext a rfl

theorem StaysInRange.mapM {f : α → Attempt ε β} {items : List α}
    (h : ∀ item ∈ items, (f item).StaysInRange) : StaysInRange (items.mapM f) := by
  induction items with
  | nil => exact staysInRange_ok []
  | cons first rest ih =>
      rw [List.forall_mem_cons] at h
      rw [List.mapM_cons]
      exact h.1.bind fun a _ => (ih h.2).bind fun b _ => staysInRange_ok (a :: b)

theorem StaysInRange.forM {f : α → Attempt ε Unit} {items : List α}
    (h : ∀ item ∈ items, (f item).StaysInRange) : StaysInRange (items.forM f) := by
  induction items with
  | nil => exact staysInRange_ok ()
  | cons first rest ih =>
      rw [List.forall_mem_cons] at h
      rw [List.forM_eq_forM] at ih ⊢
      rw [List.forM_cons]
      exact h.1.bind fun _ _ => ih h.2

end Attempt

namespace Reading

open Attempt

/-! ## Cells -/

theorem cellAt_eq_ok {ε : Type} {cells : Cells} {index : Nat} (h : index < cells.length) :
    (cellAt cells index : Attempt ε (List Char)) = .ok cells[index] := by
  simp [cellAt, h]

/-- Columns that take their cells by number take those that stand beside them. -/
theorem mapM_zipIdx_cellAt {ε β : Type} (read : ColumnLayout → List Char → Attempt ε β)
    (columns : List ColumnLayout) (cells : Cells) (start : Nat)
    (hlength : columns.length + start = cells.length) :
    ((columns.zipIdx start).mapM fun (column, index) => do
        read column (← cellAt cells index)) =
      (columns.zip (cells.drop start)).mapM fun (column, cell) => read column cell := by
  induction columns generalizing start with
  | nil => simp
  | cons column rest ih =>
      rw [List.length_cons] at hlength
      have hlt : start < cells.length := by omega
      simp only [List.zipIdx_cons, List.mapM_cons, cellAt_eq_ok hlt,
        List.drop_eq_getElem_cons hlt, List.zip_cons_cons, ih (start + 1) (by omega)]
      rfl

/-! ## Checks -/

theorem checkColumnCount_eq_ok_iff {line found expected : Nat} :
    checkColumnCount line found expected = .ok () ↔ found = expected := by
  unfold checkColumnCount
  split <;> simp [*, reject]

theorem reject_staysInRange {α : Type} (fault : TableFault) :
    (reject fault : Attempt TableFault α).StaysInRange := by
  simp [StaysInRange, reject]

theorem checkColumnCount_staysInRange (line found expected : Nat) :
    (checkColumnCount line found expected).StaysInRange := by
  unfold checkColumnCount
  split
  · exact staysInRange_ok ()
  · exact reject_staysInRange _

theorem checkColumnName_eq_ok_iff {cells : Cells} {index : Nat} {name : String} :
    checkColumnName cells index name = .ok () ↔ cells[index]? = some name.toList := by
  unfold checkColumnName
  split <;> simp [*, reject]

/-- The name line must hold just the names of the columns. -/
theorem checkNames_eq_ok_iff {cells : Cells} {columns : List ColumnLayout}
    (hlength : cells.length = columns.length) :
    checkNames cells columns = .ok () ↔ cells = columns.map (·.name.toList) := by
  simp only [checkNames, forM_eq_ok_iff, checkColumnName_eq_ok_iff]
  constructor
  · intro h
    apply List.ext_getElem?
    intro i
    rw [List.getElem?_map]
    cases hcolumn : columns[i]? with
    | none =>
        rw [List.getElem?_eq_none_iff] at hcolumn
        exact List.getElem?_eq_none (by omega)
    | some column => exact h (column, i) (List.mk_mem_zipIdx_iff_getElem?.2 hcolumn)
  · rintro rfl ⟨column, i⟩ hmem
    rw [List.mk_mem_zipIdx_iff_getElem?] at hmem
    simp [hmem]

theorem checkNames_staysInRange (cells : Cells) (columns : List ColumnLayout) :
    (checkNames cells columns).StaysInRange := by
  refine StaysInRange.forM fun (column, index) _ => ?_
  change (checkColumnName cells index column.name).StaysInRange
  unfold checkColumnName
  split
  · exact staysInRange_ok ()
  · exact reject_staysInRange _

/-! ## Rows and keys -/

variable (rules : Rules) (layout : Layout)

/-- The row that the cells of a line hold, if every one of them can be decoded. -/
def decode? (cells : Cells) : Option Row :=
  (layout.columns.zip cells).mapM fun (column, cell) => rules.readValue column cell

/-- The row of a complete line. -/
def rowOf (cells : Cells) : Row :=
  (decode? rules layout cells).getD []

/-- A line with a cell for each column, every one of which can be decoded. -/
structure Complete (cells : Cells) : Prop where
  count : cells.length = layout.columns.length
  decodes : (decode? rules layout cells).isSome

/-- The cell in the place of the key. -/
def keyCell (cells : Cells) : List Char :=
  cells.getD layout.keyIndex []

/-- The key that the cells of a line hold. -/
def keyOf (cells : Cells) : Atom :=
  readKey rules layout (keyCell layout cells)

variable {rules layout}

theorem readCell_eq_ok_iff {line : Nat} {column : ColumnLayout} {cell : List Char}
    {value : Value} :
    readCell rules line column cell = .ok value ↔ rules.readValue column cell = some value := by
  unfold readCell
  cases rules.readValue column cell <;> simp [reject]

theorem readCell_staysInRange (line : Nat) (column : ColumnLayout) (cell : List Char) :
    (readCell rules line column cell).StaysInRange := by
  unfold readCell
  split
  · exact staysInRange_ok _
  · exact reject_staysInRange _

section Line

variable {line : Nat} {cells : Cells} (hlength : cells.length = layout.columns.length)
include hlength

/-- A line with a cell for each column is read cell by cell. -/
theorem readRow_eq_mapM : readRow rules layout line cells =
    (layout.columns.zip cells).mapM fun (column, cell) => readCell rules line column cell := by
  have h := mapM_zipIdx_cellAt (readCell rules line) layout.columns cells 0 hlength.symm
  rwa [List.drop_zero] at h

theorem readRow_eq_ok_iff {row : Row} : readRow rules layout line cells = .ok row ↔
    Complete rules layout cells ∧ rowOf rules layout cells = row := by
  have hdecode : readRow rules layout line cells = .ok row ↔
      decode? rules layout cells = some row := by
    rw [readRow_eq_mapM hlength, mapM_eq_ok_iff, decode?, mapM_eq_some_iff]
    simp only [readCell_eq_ok_iff]
  rw [hdecode, rowOf]
  constructor
  · intro h
    exact ⟨⟨hlength, by simp [h]⟩, by simp [h]⟩
  · rintro ⟨⟨-, hdecodes⟩, rfl⟩
    obtain ⟨row, hrow⟩ := Option.isSome_iff_exists.1 hdecodes
    rw [hrow, Option.getD_some]

theorem readRow_staysInRange : (readRow rules layout line cells).StaysInRange := by
  rw [readRow_eq_mapM hlength]
  exact StaysInRange.mapM fun (column, cell) _ => readCell_staysInRange line column cell

theorem cellAt_keyIndex {ε : Type} (hkey : layout.keyIndex < layout.columns.length) :
    (cellAt cells layout.keyIndex : Attempt ε (List Char)) = .ok (keyCell layout cells) := by
  have hlt : layout.keyIndex < cells.length := hlength ▸ hkey
  rw [cellAt_eq_ok hlt, keyCell, List.getD_eq_getElem?_getD, List.getElem?_eq_getElem hlt,
    Option.getD_some]

end Line

theorem checkNew_eq_ok_iff {α : Type} {line : Nat} {entries : Keyed α} {key : Atom} :
    checkNew layout line entries key = .ok () ↔ entries.contains key = false := by
  unfold checkNew
  split <;> simp_all [reject]

theorem checkNew_staysInRange {α : Type} (line : Nat) (entries : Keyed α) (key : Atom) :
    (checkNew layout line entries key).StaysInRange := by
  unfold checkNew
  split
  · exact reject_staysInRange _
  · exact staysInRange_ok ()

/-! ## Steps -/

section Step

variable (hkey : layout.keyIndex < layout.columns.length) {line : Nat} {cells : Cells}
include hkey

/-- What becomes of a line with a cell for each column. -/
theorem addRow_of_count (hlength : cells.length = layout.columns.length) (rows : Keyed Row) :
    addRow rules layout line rows cells =
      if keyCell layout cells = [] then reject (.emptyKey line layout.keyName)
      else do
        let row ← readRow rules layout line cells
        checkNew layout line rows (keyOf rules layout cells)
        return rows.insert (keyOf rules layout cells) row := by
  rw [addRow, checkColumnCount_eq_ok_iff.2 hlength, cellAt_keyIndex hlength hkey]
  by_cases hempty : keyCell layout cells = []
  · rw [if_pos hempty, hempty]
    rfl
  · rw [if_neg hempty]
    simp [hempty, bind, Except.bind, keyOf]

/-- A line is added to rows with keys of their own if it is complete and has a key that is not empty
and not there yet. -/
theorem addRow_eq_ok_iff {rows added : Keyed Row} :
    addRow rules layout line rows cells = .ok added ↔
      Complete rules layout cells ∧ keyCell layout cells ≠ [] ∧
        rows.contains (keyOf rules layout cells) = false ∧
        rows.insert (keyOf rules layout cells) (rowOf rules layout cells) = added := by
  by_cases hlength : cells.length = layout.columns.length
  case neg =>
    have hcount : ¬ Complete rules layout cells := fun h => hlength h.count
    simp [addRow, checkColumnCount_eq_ok_iff, hlength, hcount]
  case pos =>
    rw [addRow_of_count hkey hlength]
    by_cases hempty : keyCell layout cells = []
    · simp [hempty, reject]
    · simp only [if_neg hempty, bind_eq_ok_iff, readRow_eq_ok_iff hlength, checkNew_eq_ok_iff,
        Unique.exists_iff, PUnit.default_eq_unit, pure, Except.pure, Except.ok.injEq]
      constructor
      · rintro ⟨_, ⟨hcomplete, rfl⟩, hnew, hadded⟩
        exact ⟨hcomplete, hempty, hnew, hadded⟩
      · rintro ⟨hcomplete, -, hnew, hadded⟩
        exact ⟨_, ⟨hcomplete, rfl⟩, hnew, hadded⟩

theorem addRow_staysInRange (rows : Keyed Row) :
    (addRow rules layout line rows cells).StaysInRange := by
  by_cases hlength : cells.length = layout.columns.length
  case neg =>
    rw [addRow, checkColumnCount, if_neg hlength]
    exact reject_staysInRange _
  case pos =>
    rw [addRow_of_count hkey hlength]
    split
    · exact reject_staysInRange _
    · exact (readRow_staysInRange hlength).bind fun row _ =>
        (checkNew_staysInRange _ _ _).bind fun _ _ => staysInRange_ok _

/-- What becomes of a line with a cell for each column, as a part of sets. -/
theorem addToSets_of_count (hlength : cells.length = layout.columns.length) (sets : Sets) :
    addToSets rules layout line sets cells =
      if keyCell layout cells = [] then
        match sets.lastKey with
        | none => reject (.emptyKey line layout.keyName)
        | some key => do
            let row ← readRow rules layout line cells
            return sets.extend key (withKey layout key row)
      else do
        let row ← readRow rules layout line cells
        checkNew layout line sets.entries (keyOf rules layout cells)
        return sets.start (keyOf rules layout cells) row := by
  rw [addToSets, checkColumnCount_eq_ok_iff.2 hlength, cellAt_keyIndex hlength hkey]
  by_cases hempty : keyCell layout cells = []
  · rw [if_pos hempty, hempty]
    rfl
  · rw [if_neg hempty]
    simp [hempty, bind, Except.bind, keyOf]

/-- A line without a key of its own is added to sets if it is complete and there is a last set. -/
theorem addToSets_eq_ok_iff_of_empty {sets added : Sets} (hempty : keyCell layout cells = []) :
    addToSets rules layout line sets cells = .ok added ↔
      Complete rules layout cells ∧ ∃ key, sets.lastKey = some key ∧
        sets.extend key (withKey layout key (rowOf rules layout cells)) = added := by
  by_cases hlength : cells.length = layout.columns.length
  case neg =>
    have hcount : ¬ Complete rules layout cells := fun h => hlength h.count
    simp [addToSets, checkColumnCount_eq_ok_iff, hlength, hcount]
  case pos =>
    rw [addToSets_of_count hkey hlength, if_pos hempty]
    cases sets.lastKey with
    | none => simp [reject]
    | some key =>
        simp [bind_eq_ok_iff, readRow_eq_ok_iff hlength, pure, Except.pure, and_assoc]

/-- A line with a key is added to sets if it is complete and its key is not there yet. -/
theorem addToSets_eq_ok_iff_of_ne_nil {sets added : Sets} (hne : keyCell layout cells ≠ []) :
    addToSets rules layout line sets cells = .ok added ↔
      Complete rules layout cells ∧ sets.entries.contains (keyOf rules layout cells) = false ∧
        sets.start (keyOf rules layout cells) (rowOf rules layout cells) = added := by
  by_cases hlength : cells.length = layout.columns.length
  case neg =>
    have hcount : ¬ Complete rules layout cells := fun h => hlength h.count
    simp [addToSets, checkColumnCount_eq_ok_iff, hlength, hcount]
  case pos =>
    rw [addToSets_of_count hkey hlength, if_neg hne]
    simp only [bind_eq_ok_iff, readRow_eq_ok_iff hlength, checkNew_eq_ok_iff, Unique.exists_iff,
      PUnit.default_eq_unit, pure, Except.pure, Except.ok.injEq]
    constructor
    · rintro ⟨_, ⟨hcomplete, rfl⟩, hnew, hadded⟩
      exact ⟨hcomplete, hnew, hadded⟩
    · rintro ⟨hcomplete, hnew, hadded⟩
      exact ⟨_, ⟨hcomplete, rfl⟩, hnew, hadded⟩

theorem addToSets_staysInRange (sets : Sets) :
    (addToSets rules layout line sets cells).StaysInRange := by
  by_cases hlength : cells.length = layout.columns.length
  case neg =>
    rw [addToSets, checkColumnCount, if_neg hlength]
    exact reject_staysInRange _
  case pos =>
    have hrow : (readRow rules layout line cells).StaysInRange := readRow_staysInRange hlength
    rw [addToSets_of_count hkey hlength]
    split
    · cases sets.lastKey with
      | none => exact reject_staysInRange _
      | some key => exact hrow.bind fun row _ => staysInRange_ok _
    · exact hrow.bind fun row _ => (checkNew_staysInRange _ _ _).bind fun _ _ => staysInRange_ok _

end Step

/-! ## All lines -/

theorem eachLine_cons_eq_ok_iff {ε σ : Type} {takeUp : Nat → σ → Cells → Attempt ε σ} {line : Nat}
    {state last : σ} {cells : Cells} {rest : List Cells} :
    eachLine takeUp line state (cells :: rest) = .ok last ↔
      ∃ next, takeUp line state cells = .ok next ∧
        eachLine takeUp (line + 1) next rest = .ok last := by
  rw [eachLine, bind_eq_ok_iff]

theorem eachLine_staysInRange {ε σ : Type} {takeUp : Nat → σ → Cells → Attempt ε σ}
    (htakeUp : ∀ line state cells, (takeUp line state cells).StaysInRange) (line : Nat)
    (state : σ) (lines : List Cells) : (eachLine takeUp line state lines).StaysInRange := by
  induction lines generalizing line state with
  | nil => exact staysInRange_ok state
  | cons cells rest ih => exact (htakeUp line state cells).bind fun next _ => ih (line + 1) next

theorem readData_staysInRange (hkey : layout.keyIndex < layout.columns.length)
    (lines : List Cells) : (readData rules layout lines).StaysInRange := by
  unfold readData
  cases layout.keyType with
  | single =>
      exact (eachLine_staysInRange (fun _ rows _ => addRow_staysInRange hkey rows) _ _ _).bind
        fun _ _ => staysInRange_ok _
  | set =>
      exact (eachLine_staysInRange (fun _ sets _ => addToSets_staysInRange hkey sets) _ _ _).bind
        fun _ _ => staysInRange_ok _

/-- No line is asked for a cell that it does not have. -/
theorem readLines_staysInRange (hkey : layout.keyIndex < layout.columns.length)
    (lines : List Cells) : (readLines rules layout lines).StaysInRange := by
  match lines with
  | [] => exact reject_staysInRange _
  | [comment] =>
      exact (checkColumnCount_staysInRange _ _ _).bind fun _ _ => reject_staysInRange _
  | comment :: names :: data =>
      apply (checkColumnCount_staysInRange _ _ _).bind
      intro _ _
      apply (checkColumnCount_staysInRange _ _ _).bind
      intro _ _
      exact (checkNames_staysInRange _ _).bind fun _ _ => readData_staysInRange hkey data

end Reading

end TableSchema
