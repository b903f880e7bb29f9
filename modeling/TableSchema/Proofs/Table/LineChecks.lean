import TableSchema.Proofs.Table.Grammar

/-!
# Checks of a line

What is checked in a line, in the order in which it is checked. A check of a line depends on the
line and on the lines before it: on their number and, for a data line, on the keys that they have.
A line that is taken up is rejected with the fault of the first of its checks that fails.
-/

namespace TableSchema.Reading

open Attempt

/-- Whether a line is as it should be in one respect, and the fault that it has otherwise. -/
structure Check where
  passes : Bool
  fault : TableFault

/-- The fault of the first check that fails. -/
def firstFault (checks : List Check) : Option TableFault :=
  (checks.find? fun check => !check.passes).map Check.fault

/-- A result, unless there is a fault. -/
def verdict {α : Type} (fault : Option TableFault) (result : α) : Attempt TableFault α :=
  match fault with
  | none => .ok result
  | some fault => reject fault

/-- A result if all checks pass, and the fault of the first that fails otherwise. -/
def outcome {α : Type} (checks : List Check) (result : α) : Attempt TableFault α :=
  verdict (firstFault checks) result

section Checks

variable (rules : Rules) (layout : Layout)

def countCheck (line : Nat) (cells : Cells) : Check :=
  ⟨cells.length = layout.columns.length,
    .columnCount line cells.length layout.columns.length⟩

/-- The names of the columns, from left to right. -/
def nameChecks (cells : Cells) : List Check :=
  layout.columns.zipIdx.map fun (column, index) =>
    ⟨cells[index]? = some column.name.toList, .columnName (index + 1) column.name⟩

/-- A line has a key of its own, unless it goes on with a set that an earlier line started. -/
def keyCheck (line : Nat) (earlier : List Cells) (cells : Cells) : Check :=
  ⟨keyCell layout cells ≠ [] || (layout.keyType = .set && headLines layout earlier ≠ []),
    .emptyKey line layout.keyName⟩

/-- The values of the columns, from left to right. -/
def valueChecks (line : Nat) (cells : Cells) : List Check :=
  (layout.columns.zip cells).map fun (column, cell) =>
    ⟨(rules.readValue column cell).isSome, .invalidValue line column.name⟩

/-- The key of a line, if it has one, is none of those that earlier lines have. -/
def newKeyCheck (line : Nat) (earlier : List Cells) (cells : Cells) : Check :=
  ⟨keyCell layout cells = [] ||
      keyOf rules layout cells ∉ (headLines layout earlier).map (keyOf rules layout),
    .duplicateKey line layout.keyName (keyOf rules layout cells)⟩

def dataChecks (line : Nat) (earlier : List Cells) (cells : Cells) : List Check :=
  countCheck layout line cells :: keyCheck layout line earlier cells ::
    (valueChecks rules layout line cells ++ [newKeyCheck rules layout line earlier cells])

/-- All checks of a line after those that stand before it: the comment line comes first, then the
name line, and then the data lines. -/
def lineChecks (before : List Cells) (cells : Cells) : List Check :=
  match before with
  | [] => [countCheck layout 1 cells]
  | [_] => countCheck layout 2 cells :: nameChecks layout cells
  | _ :: _ :: earlier => dataChecks rules layout (before.length + 1) earlier cells

end Checks

/-! ## The first fault -/

theorem firstFault_nil : firstFault [] = none := rfl

theorem firstFault_cons (check : Check) (rest : List Check) :
    firstFault (check :: rest) = if check.passes then firstFault rest else some check.fault := by
  obtain ⟨passes, fault⟩ := check
  cases passes with
  | false => rfl
  | true => rfl

theorem firstFault_append (checks others : List Check) :
    firstFault (checks ++ others) = (firstFault checks).or (firstFault others) := by
  induction checks with
  | nil => rfl
  | cons check rest ih =>
      rw [List.cons_append, firstFault_cons, firstFault_cons, ih]
      split
      · rfl
      · rfl

theorem firstFault_eq_none_iff {checks : List Check} :
    firstFault checks = none ↔ ∀ check ∈ checks, check.passes := by
  simp [firstFault]

theorem exists_check_of_firstFault {checks : List Check} {fault : TableFault}
    (hfault : firstFault checks = some fault) :
    ∃ check ∈ checks, check.passes = false ∧ check.fault = fault := by
  obtain ⟨check, hfind, hcheck⟩ := Option.map_eq_some_iff.1 hfault
  refine ⟨check, List.mem_of_find?_eq_some hfind, ?_, hcheck⟩
  simpa using List.find?_some hfind

/-- A line is at fault in its own place. -/
theorem line_of_firstFault {rules : Rules} {layout : Layout} {before : List Cells} {cells : Cells}
    {fault : TableFault} (hfault : firstFault (lineChecks rules layout before cells) = some fault) :
    fault.line = before.length + 1 := by
  obtain ⟨check, hmem, -, rfl⟩ := exists_check_of_firstFault hfault
  match before with
  | [] =>
      obtain rfl := List.mem_singleton.1 hmem
      rfl
  | [_] =>
      rcases List.mem_cons.1 hmem with rfl | hmem
      · rfl
      · obtain ⟨entry, -, rfl⟩ := List.mem_map.1 hmem
        rfl
  | _ :: _ :: _ =>
      rw [lineChecks, dataChecks, List.mem_cons, List.mem_cons, List.mem_append,
        List.mem_singleton] at hmem
      rcases hmem with rfl | rfl | hmem | rfl
      · rfl
      · rfl
      · obtain ⟨entry, -, rfl⟩ := List.mem_map.1 hmem
        rfl
      · rfl

/-! ## Outcomes -/

section Outcome

variable {α β : Type}

theorem outcome_of_none {checks : List Check} (hnone : firstFault checks = none) (result : α) :
    outcome checks result = .ok result := by
  rw [outcome, hnone]
  rfl

theorem outcome_of_some {checks : List Check} {fault : TableFault}
    (hfault : firstFault checks = some fault) (result : α) :
    outcome checks result = reject fault := by
  rw [outcome, hfault]
  rfl

theorem outcome_single (check : Check) (result : α) :
    outcome [check] result = if check.passes then .ok result else reject check.fault := by
  rw [outcome, firstFault_cons, firstFault_nil]
  split
  · rfl
  · rfl

theorem outcome_cons_of_passes {check : Check} (hpasses : check.passes) (rest : List Check)
    (result : α) : outcome (check :: rest) result = outcome rest result := by
  rw [outcome, firstFault_cons, if_pos hpasses, outcome]

theorem outcome_cons_of_fails {check : Check} (hfails : check.passes = false) (rest : List Check)
    (result : α) : outcome (check :: rest) result = reject check.fault := by
  rw [outcome, firstFault_cons, if_neg (by simp [hfails])]
  rfl

/-- Checks go on where others have passed. -/
theorem outcome_append {checks others : List Check} {result : α} {last : β}
    {next : α → Attempt TableFault β}
    (hnext : firstFault checks = none → next result = outcome others last) :
    (outcome checks result >>= next) = outcome (checks ++ others) last := by
  rw [outcome, outcome, firstFault_append]
  cases hfault : firstFault checks with
  | none => exact hnext hfault
  | some fault => rfl

theorem outcome_return (checks : List Check) (result : α) (f : α → β) :
    (outcome checks result >>= fun a => pure (f a)) = outcome checks (f result) := by
  rw [outcome, outcome]
  cases firstFault checks with
  | none => rfl
  | some fault => rfl

/-- Items that are checked one by one. -/
theorem forM_eq_outcome {f : α → Attempt TableFault Unit} {check : α → Check} {items : List α}
    (hcheck : ∀ item ∈ items, f item = outcome [check item] ()) :
    items.forM f = outcome (items.map check) () := by
  induction items with
  | nil => rfl
  | cons first rest ih =>
      rw [List.forall_mem_cons] at hcheck
      rw [List.forM_eq_forM] at ih ⊢
      rw [List.forM_cons, hcheck.1, List.map_cons, ← List.singleton_append]
      exact outcome_append fun _ => ih hcheck.2

theorem mapM_eq_outcome {f : α → Attempt TableFault β} {check : α → Check} {value : α → β}
    {items : List α} (hcheck : ∀ item ∈ items, f item = outcome [check item] (value item)) :
    items.mapM f = outcome (items.map check) (items.map value) := by
  induction items with
  | nil => rfl
  | cons first rest ih =>
      rw [List.forall_mem_cons] at hcheck
      rw [List.mapM_cons, hcheck.1, List.map_cons, List.map_cons, ← List.singleton_append,
        ih hcheck.2]
      exact outcome_append fun _ => outcome_return _ _ _

end Outcome

/-! ## Lines that are taken up -/

variable {rules : Rules} {layout : Layout}

theorem checkColumnCount_eq_outcome (line : Nat) (cells : Cells) :
    checkColumnCount line cells.length layout.columns.length =
      outcome [countCheck layout line cells] () := by
  rw [outcome_single, checkColumnCount]
  simp [countCheck]

theorem checkNames_eq_outcome (cells : Cells) :
    checkNames cells layout.columns = outcome (nameChecks layout cells) () := by
  refine forM_eq_outcome fun (column, index) _ => ?_
  rw [outcome_single]
  simp [checkColumnName]

theorem checkNew_eq_outcome {α : Type} {line : Nat} {earlier : List Cells} {cells : Cells}
    {entries : Keyed α} (hne : keyCell layout cells ≠ [])
    (hkeys : ∀ key, entries.contains key ↔
      key ∈ (headLines layout earlier).map (keyOf rules layout)) :
    checkNew layout line entries (keyOf rules layout cells) =
      outcome [newKeyCheck rules layout line earlier cells] () := by
  rw [outcome_single, checkNew]
  by_cases hkey : entries.contains (keyOf rules layout cells)
  · have hmem := (hkeys _).1 hkey
    simp [newKeyCheck, hkey, hne, hmem]
  · have hmem := (hkeys _).not.1 hkey
    simp [newKeyCheck, hkey, hmem]

theorem firstFault_valueChecks_eq_none_iff {line : Nat} {cells : Cells}
    (hlength : cells.length = layout.columns.length) :
    firstFault (valueChecks rules layout line cells) = none ↔ Complete rules layout cells := by
  rw [firstFault_eq_none_iff, valueChecks, List.forall_mem_map]
  constructor
  · intro hpasses
    exact ⟨hlength, mapM_isSome_iff.2 hpasses⟩
  · intro hcomplete
    exact mapM_isSome_iff.1 hcomplete.decodes

theorem readRow_eq_outcome {line : Nat} {cells : Cells}
    (hlength : cells.length = layout.columns.length) :
    readRow rules layout line cells =
      outcome (valueChecks rules layout line cells) (rowOf rules layout cells) := by
  have hcells : readRow rules layout line cells =
      outcome (valueChecks rules layout line cells) ((layout.columns.zip cells).map
        fun (column, cell) => (rules.readValue column cell).getD (.many [])) := by
    rw [readRow_eq_mapM hlength]
    refine mapM_eq_outcome fun (column, cell) _ => ?_
    rw [outcome_single]
    show readCell rules line column cell = _
    unfold readCell
    cases hvalue : rules.readValue column cell with
    | none => simp [hvalue]
    | some value => simp [hvalue]
  cases hfault : firstFault (valueChecks rules layout line cells) with
  | none =>
      rw [outcome_of_none hfault, readRow_eq_ok_iff hlength]
      exact ⟨(firstFault_valueChecks_eq_none_iff hlength).1 hfault, rfl⟩
  | some fault => rw [hcells, outcome_of_some hfault, outcome_of_some hfault]

section DataLine

variable (hkey : layout.keyIndex < layout.columns.length) {line : Nat} {earlier : List Cells}
  {cells : Cells}
include hkey

/-- A line is added to rows with keys of their own if it passes its checks. -/
theorem addRow_eq_outcome (hkeyType : layout.keyType = .single) {rows : Keyed Row}
    (hkeys : ∀ key, rows.contains key ↔
      key ∈ (headLines layout earlier).map (keyOf rules layout)) :
    addRow rules layout line rows cells =
      outcome (dataChecks rules layout line earlier cells)
        (rows.insert (keyOf rules layout cells) (rowOf rules layout cells)) := by
  by_cases hlength : cells.length = layout.columns.length
  case neg =>
    rw [dataChecks, outcome_cons_of_fails (by simp [countCheck, hlength]), addRow,
      checkColumnCount, if_neg hlength]
    rfl
  case pos =>
    rw [dataChecks, outcome_cons_of_passes (by simp [countCheck, hlength]),
      addRow_of_count hkey hlength]
    by_cases hempty : keyCell layout cells = []
    · rw [if_pos hempty, outcome_cons_of_fails (by simp [keyCheck, hempty, hkeyType])]
      rfl
    · rw [if_neg hempty, outcome_cons_of_passes (by simp [keyCheck, hempty]),
        readRow_eq_outcome hlength]
      refine outcome_append fun _ => ?_
      rw [checkNew_eq_outcome hempty hkeys]
      exact outcome_return _ _ _

/-- What sets tell about the lines that were added to them: the keys that these have, and whether
they have any. -/
structure Reflects (rules : Rules) (layout : Layout) (earlier : List Cells) (sets : Sets) :
    Prop where
  keys : ∀ key, sets.entries.contains key ↔
    key ∈ (headLines layout earlier).map (keyOf rules layout)
  lastKey : sets.lastKey = none ↔ headLines layout earlier = []
  held : ∀ key, sets.lastKey = some key → sets.entries.contains key

/-- A line is added to sets if it passes its checks. -/
theorem addToSets_eq_outcome (hkeyType : layout.keyType = .set) {sets : Sets}
    (hreflects : Reflects rules layout earlier sets) :
    addToSets rules layout line sets cells =
      outcome (dataChecks rules layout line earlier cells) (addLine rules layout sets cells) := by
  by_cases hlength : cells.length = layout.columns.length
  case neg =>
    rw [dataChecks, outcome_cons_of_fails (by simp [countCheck, hlength]), addToSets,
      checkColumnCount, if_neg hlength]
    rfl
  case pos =>
    rw [dataChecks, outcome_cons_of_passes (by simp [countCheck, hlength]),
      addToSets_of_count hkey hlength, addLine]
    by_cases hempty : keyCell layout cells = []
    · rw [if_pos hempty, if_pos hempty]
      cases hlast : sets.lastKey with
      | none =>
          have hnone := hreflects.lastKey.1 hlast
          rw [outcome_cons_of_fails (by simp [keyCheck, hempty, hnone])]
          rfl
      | some key =>
          have hsome : headLines layout earlier ≠ [] := by
            rw [Ne, ← hreflects.lastKey, hlast]
            exact Option.some_ne_none key
          rw [outcome_cons_of_passes (by simp [keyCheck, hkeyType, hsome]),
            readRow_eq_outcome hlength]
          refine outcome_append fun _ => ?_
          rw [outcome_cons_of_passes (by simp [newKeyCheck, hempty])]
          rfl
    · rw [if_neg hempty, if_neg hempty, outcome_cons_of_passes (by simp [keyCheck, hempty]),
        readRow_eq_outcome hlength]
      refine outcome_append fun _ => ?_
      rw [checkNew_eq_outcome hempty hreflects.keys]
      exact outcome_return _ _ _

end DataLine

/-! ## What is kept of earlier lines -/

theorem headLines_concat (earlier : List Cells) (cells : Cells) :
    headLines layout (earlier ++ [cells]) =
      headLines layout earlier ++ if keyCell layout cells = [] then [] else [cells] := by
  by_cases hempty : keyCell layout cells = []
  · simp [headLines, hempty]
  · simp [headLines, hempty]

/-- Entries hold the keys of the lines that were added to them. -/
theorem contains_insert_keyOf {α : Type} {earlier : List Cells} {cells : Cells} {entries : Keyed α}
    (hne : keyCell layout cells ≠ [])
    (hkeys : ∀ key, entries.contains key ↔
      key ∈ (headLines layout earlier).map (keyOf rules layout)) (entry : α) (key : Atom) :
    (entries.insert (keyOf rules layout cells) entry).contains key ↔
      key ∈ (headLines layout (earlier ++ [cells])).map (keyOf rules layout) := by
  rw [headLines_concat, if_neg hne, List.map_append, List.mem_append, ← hkeys]
  simp
  tauto

theorem reflects_empty : Reflects rules layout [] .empty where
  keys := fun key => by simp [Sets.empty, headLines]
  lastKey := by simp [Sets.empty, headLines]
  held := fun key hlast => by cases hlast

/-- A line that is taken up leaves sets that tell about it as well. -/
theorem Reflects.addLine {earlier : List Cells} {cells : Cells} {sets : Sets}
    (hreflects : Reflects rules layout earlier sets)
    (hstarted : keyCell layout cells = [] → sets.lastKey ≠ none) :
    Reflects rules layout (earlier ++ [cells]) (addLine rules layout sets cells) := by
  by_cases hempty : keyCell layout cells = []
  case pos =>
    obtain ⟨key, hlast⟩ := Option.ne_none_iff_exists'.1 (hstarted hempty)
    have hheld := hreflects.held key hlast
    rw [Reading.addLine, if_pos hempty, hlast]
    constructor
    case keys =>
      intro other
      rw [headLines_concat, if_pos hempty, List.append_nil, ← hreflects.keys]
      simp only [Sets.extend, Keyed.contains_insert, Bool.or_eq_true, decide_eq_true_eq]
      constructor
      · rintro (rfl | hother)
        · exact hheld
        · exact hother
      · exact .inr
    case lastKey =>
      rw [headLines_concat, if_pos hempty, List.append_nil]
      exact hreflects.lastKey
    case held =>
      intro other hother
      obtain rfl : key = other := Option.some.inj (hlast.symm.trans hother)
      simp [Sets.extend]
  case neg =>
    rw [Reading.addLine, if_neg hempty]
    constructor
    case keys => exact contains_insert_keyOf hempty hreflects.keys _
    case lastKey => simp [Sets.start, headLines_concat, hempty]
    case held =>
      intro other hother
      obtain rfl : keyOf rules layout cells = other := Option.some.inj hother
      simp [Sets.start]

end TableSchema.Reading
