import TableSchema.Proofs.Schema.Declarations
import TableSchema.Proofs.Table.KeyedLaws
import TableSchema.Proofs.Table.Layouts
import TableSchema.Proofs.Table.Lines
import TableSchema.Proofs.Text.Printf
import TableSchema.Table.CppReading

/-!
# Complaints are reports

The C++ procedure goes through the lines of a table as `readTable` does with the rules of C++. What
it complains about is the fault that `readTable` finds, and its formats write the report of this
fault.
-/

namespace TableSchema

/-- The same interruption with its fault in other words. -/
def Interruption.map {ε ε' : Type} (f : ε → ε') : Interruption ε → Interruption ε'
  | .fault e => .fault (f e)
  | .outOfRange => .outOfRange

namespace CppReading

open Reading (cellAt eachLine)
open Bytes (encode)
open Printf (Argument Writes writes_plain writes_size writes_integer writes_text)

variable {α β σ τ : Type}

/-- What a buffer keeps of the report of a fault. -/
def errorText (fault : TableFault) : ErrorText :=
  if (encode fault.report.toList).length ≤ Printf.countLimit then
    (encode fault.report.toList).take 1023
  else []

/-- The same attempt with the error text of its fault. -/
def reported (attempt : Attempt TableFault α) : Attempt ErrorText α :=
  attempt.mapError (Interruption.map errorText)

@[simp] theorem reported_ok (a : α) : reported (.ok a) = .ok a := rfl

@[simp] theorem reported_pure (a : α) : reported (pure a) = pure a := rfl

/-- A format that writes the report of a fault complains of the fault. -/
theorem complain_eq {format : String} {arguments : List Argument} {fault : TableFault}
    (hwrites : Writes format arguments fault.report) :
    (complain format arguments : Attempt ErrorText α) = reported (Reading.reject fault) :=
  congrArg (fun text => Except.error (Interruption.fault text)) (Printf.error_eq_of_writes hwrites)

theorem reported_bind (attempt : Attempt TableFault α) (next : α → Attempt TableFault β) :
    reported (attempt >>= next) = reported attempt >>= fun a => reported (next a) := by
  cases attempt with
  | error e => rfl
  | ok a => rfl

theorem reported_cellAt (cells : Cells) (index : Nat) :
    reported (cellAt cells index) = cellAt cells index := by
  unfold cellAt
  cases cells[index]? with
  | none => rfl
  | some cell => rfl

/-! ## Formats -/

theorem writes_identifier {name : String} (hname : Identifier name) : Writes name [] name :=
  writes_plain _ (hname.not_mem (by decide)) (hname.not_mem (by decide))

theorem writes_line (line : Nat) : Writes "line %zd" [.size line] ("line " ++ toString line) :=
  (writes_plain "line " (by decide) (by decide)).append (writes_size line)

theorem writes_lineKey (line : Nat) :
    Writes "line %zd key `" [.size line] ("line " ++ toString line ++ " key `") := by
  have hliteral : "line %zd key `" = "line %zd" ++ " key `" := by simp only [String.reduceAppend]
  rw [hliteral]
  exact (writes_line line).append (writes_plain _ (by decide) (by decide))

theorem lineName_of_data {line : Nat} (hline : 3 ≤ line) :
    TableFault.lineName line = "line " ++ toString line := by
  unfold TableFault.lineName
  split
  · omega
  · omega
  · rfl

theorem writes_sizeFormat {line text : String} {arguments : List Argument}
    (hline : Writes line arguments text) (found expected : Nat) :
    Writes (sizeFormat line) (arguments ++ [.size found, .size expected])
      (text ++ " column count " ++ toString found ++ " is invalid, should be " ++
        toString expected) := by
  have hliteral : " column count %zd is invalid, should be %zd" =
      " column count " ++ "%zd" ++ " is invalid, should be " ++ "%zd" := by
    simp only [String.reduceAppend]
  have hfound := (writes_plain " column count " (by decide) (by decide)).append
    (writes_size found)
  have hexpected := (hfound.append (writes_plain " is invalid, should be " (by decide)
    (by decide))).append (writes_size expected)
  have htext : text ++ " column count " ++ toString found ++ " is invalid, should be " ++
      toString expected = text ++ (" column count " ++ toString found ++
        " is invalid, should be " ++ toString expected) := by
    simp only [String.append_assoc]
  rw [sizeFormat, hliteral, htext]
  exact hline.append hexpected

theorem writes_nameFormat {column : String} (hcolumn : Identifier column) (number : Nat) :
    Writes (nameFormat column) [.size number]
      ("column " ++ toString number ++ " should be named as `" ++ column ++ "`") := by
  have hliteral : "column %zd should be named as `" =
      "column " ++ "%zd" ++ " should be named as `" := by simp only [String.reduceAppend]
  have hnumber := (writes_plain "column " (by decide) (by decide)).append
    (writes_size number)
  have hname := (hnumber.append (writes_plain " should be named as `" (by decide)
    (by decide))).append (writes_identifier hcolumn)
  unfold nameFormat
  rw [hliteral]
  exact hname.append (writes_plain _ (by decide) (by decide))

theorem writes_emptyKeyFormat {key : String} (hkey : Identifier key) (line : Nat) :
    Writes (emptyKeyFormat key) [.size line]
      ("line " ++ toString line ++ " key `" ++ key ++ "` is empty") := by
  have hname := (writes_lineKey line).append (writes_identifier hkey)
  exact hname.append (writes_plain _ (by decide) (by decide))

theorem writes_invalidFormat {column : String} (hcolumn : Identifier column) (line : Nat) :
    Writes (invalidFormat column) [.size line]
      ("line " ++ toString line ++ " column `" ++ column ++ "` value is invalid") := by
  have hliteral : "line %zd column `" = "line %zd" ++ " column `" := by
    simp only [String.reduceAppend]
  have hname := ((writes_line line).append (writes_plain " column `" (by decide)
    (by decide))).append (writes_identifier hcolumn)
  unfold invalidFormat
  rw [hliteral]
  exact hname.append (writes_plain _ (by decide) (by decide))

/-- The directive for a key of a type shows a key of the type. -/
theorem writes_key (type : FieldType) (cell : List Char) :
    Writes (keyDirective type) [keyArgument (Rules.cpp.readAtom type cell)]
      (TableFault.keyBeforeNul (Rules.cpp.readAtom type cell)) := by
  cases type with
  | string => exact writes_text (String.ofList cell)
  | int =>
      have hdecimal := writes_integer (Integer.readAscii cell)
      have hrun : (toString (Integer.readAscii cell).toInt).toList.takeWhile (· ≠ '\x00') =
          (toString (Integer.readAscii cell).toInt).toList :=
        List.takeWhile_eq_self_iff.2 fun c hmem =>
          decide_eq_true fun hc => hdecimal.noNul (hc ▸ hmem)
      have hshown : TableFault.keyBeforeNul (.int (Integer.readAscii cell)) =
          toString (Integer.readAscii cell).toInt :=
        (congrArg String.ofList hrun).trans String.ofList_toList
      exact hshown ▸ hdecimal

theorem writes_duplicateKeyFormat {key : String} (hkey : Identifier key) (type : FieldType)
    (line : Nat) (cell : List Char) :
    Writes (duplicateKeyFormat key type) [.size line, keyArgument (Rules.cpp.readAtom type cell)]
      ("line " ++ toString line ++ " key `" ++ key ++ "` value " ++
        TableFault.keyBeforeNul (Rules.cpp.readAtom type cell) ++ " is duplicated") := by
  have hname := (writes_lineKey line).append (writes_identifier hkey)
  have hvalue := (hname.append (writes_plain "` value " (by decide)
    (by decide))).append (writes_key type cell)
  exact hvalue.append (writes_plain _ (by decide) (by decide))

/-! ## Checks -/

variable {layout : Layout}

theorem keyName_eq (hsound : layout.Sound) : keyName layout = layout.keyName := by
  rw [keyName, hsound.key]
  rfl

theorem identifier_of_mem (hsound : layout.Sound) :
    ∀ column ∈ layout.columns, Identifier column.name := fun _ hmem =>
  hsound.names.identifiers _ (List.mem_map_of_mem hmem)

theorem identifier_keyName (hsound : layout.Sound) : Identifier layout.keyName :=
  identifier_of_mem hsound _ (List.mem_of_getElem? hsound.key)

theorem checkSize_eq {line : Nat} {format : String} {arguments : List Argument}
    (hline : Writes format arguments (TableFault.lineName line)) (cells : Cells) :
    checkSize layout format arguments cells =
      reported (Reading.checkColumnCount line cells.length layout.columns.length) := by
  unfold checkSize Reading.checkColumnCount
  split
  · rfl
  · exact complain_eq (writes_sizeFormat hline cells.length layout.columns.length)

/-- The names are compared one after the other, by a counter or beside their places. -/
theorem checkNames_eq {cells : Cells} {start : Nat} {columns : List ColumnLayout}
    (hnames : ∀ column ∈ columns, Identifier column.name)
    (hlength : start + columns.length = cells.length) :
    checkNames cells start columns = reported ((columns.zipIdx start).forM fun (column, index) =>
      Reading.checkColumnName cells index column.name) := by
  induction columns generalizing start with
  | nil => rfl
  | cons column rest ih =>
      rw [List.length_cons] at hlength
      rw [List.forall_mem_cons] at hnames
      have hlt : start < cells.length := by omega
      have hcheck : Reading.checkColumnName cells start column.name =
          if cells[start] = column.name.toList then .ok ()
          else Reading.reject (.columnName (start + 1) column.name) := by
        simp [Reading.checkColumnName, hlt]
      rw [checkNames, Reading.cellAt_eq_ok hlt, ih hnames.2 (by omega), List.zipIdx_cons,
        List.forM_eq_forM, List.forM_cons, reported_bind]
      dsimp only
      rw [hcheck]
      by_cases hname : cells[start] = column.name.toList
      · rw [if_pos hname, reported_ok]
        simp [hname, bind, Except.bind]
      · have hcomplain : (complain (nameFormat column.name) [.size (start + 1)] :
            Attempt ErrorText Unit) =
              reported (Reading.reject (.columnName (start + 1) column.name)) :=
          complain_eq (writes_nameFormat hnames.1 (start + 1))
        rw [if_neg hname, ← hcomplain]
        exact if_pos hname

theorem readColumns_eq (line : Nat) (cells : Cells) (start : Nat) {columns : List ColumnLayout}
    (hnames : ∀ column ∈ columns, Identifier column.name) :
    readColumns line cells start columns =
      reported ((columns.zipIdx start).mapM fun (column, index) => do
        Reading.readCell .cpp line column (← cellAt cells index)) := by
  induction columns generalizing start with
  | nil => rfl
  | cons column rest ih =>
      rw [List.forall_mem_cons] at hnames
      simp only [readColumns, List.zipIdx_cons, List.mapM_cons, reported_bind, reported_cellAt,
        ih (start + 1) hnames.2, bind_assoc, reported_pure]
      refine congrArg _ (funext fun cell => ?_)
      unfold Reading.readCell
      cases Rules.cpp.readValue column cell with
      | none =>
          have hwrites : Writes (invalidFormat column.name) [.size line]
              (TableFault.invalidValue line column.name).report :=
            writes_invalidFormat hnames.1 line
          exact complain_eq hwrites
      | some value => rfl

theorem readColumns_eq_readRow (hsound : layout.Sound) (line : Nat) (cells : Cells) :
    readColumns line cells 0 layout.columns =
      reported (Reading.readRow .cpp layout line cells) :=
  readColumns_eq line cells 0 (identifier_of_mem hsound)

theorem checkDuplicate_eq {keyed : Type} (hsound : layout.Sound) (line : Nat)
    (entries : Keyed keyed) (cell : List Char) (next : Unit → Attempt ErrorText β) :
    (if (entries.get? (Reading.readKey .cpp layout cell)).isSome then
        rejectDuplicateKey layout line (Reading.readKey .cpp layout cell) >>= next
      else next ()) =
      reported (Reading.checkNew layout line entries (Reading.readKey .cpp layout cell)) >>=
        next := by
  rw [Reading.checkNew, Keyed.contains_eq_isSome_get?]
  split
  · have hcomplain : (rejectDuplicateKey layout line (Reading.readKey .cpp layout cell) :
        Attempt ErrorText Unit) = reported (Reading.reject (.duplicateKey line layout.keyName
          (Reading.readKey .cpp layout cell))) := by
      rw [rejectDuplicateKey, keyName_eq hsound]
      exact complain_eq
        (writes_duplicateKeyFormat (identifier_keyName hsound) layout.keyAtom line cell)
    rw [hcomplain]
  · rfl

/-! ## Lines -/

theorem rejectEmptyKey_eq (hsound : layout.Sound) (line : Nat) :
    (rejectEmptyKey layout line : Attempt ErrorText α) =
      reported (Reading.reject (.emptyKey line layout.keyName)) := by
  rw [rejectEmptyKey, keyName_eq hsound]
  exact complain_eq (writes_emptyKeyFormat (identifier_keyName hsound) line)

/-- A data line is called by its number. -/
theorem writes_lineName {line : Nat} (hline : 3 ≤ line) :
    Writes "line %zd" [.size line] (TableFault.lineName line) :=
  lineName_of_data hline ▸ writes_line line

/-- A line makes the same of rows with keys of their own. -/
theorem addRow_eq (hsound : layout.Sound) {line : Nat} (hline : 3 ≤ line) (rows : Keyed Row)
    (cells : Cells) :
    addRow layout line rows cells = reported (Reading.addRow .cpp layout line rows cells) := by
  unfold addRow Reading.addRow
  rw [checkSize_eq (writes_lineName hline), reported_bind]
  refine congrArg _ (funext fun _ => ?_)
  rw [reported_bind, reported_cellAt]
  refine congrArg _ (funext fun cell => ?_)
  dsimp only
  by_cases hempty : cell.isEmpty
  · rw [if_pos hempty, if_pos hempty, rejectEmptyKey_eq hsound]
    rfl
  · rw [if_neg hempty, if_neg hempty, reported_bind, readColumns_eq_readRow hsound]
    refine congrArg _ (funext fun row => ?_)
    rw [reported_bind]
    exact checkDuplicate_eq hsound line rows _ _

/-- Sets with the last key beside a flag. -/
def flagged (layout : Layout) (sets : Reading.Sets) : FlaggedSets :=
  ⟨sets.entries, sets.lastKey.isSome, sets.lastKey.getD (noKey layout.keyAtom)⟩

/-- A line makes the same of sets. -/
theorem addToSets_eq (hsound : layout.Sound) {line : Nat} (hline : 3 ≤ line)
    (sets : Reading.Sets) (cells : Cells) :
    addToSets layout line (flagged layout sets) cells =
      flagged layout <$> reported (Reading.addToSets .cpp layout line sets cells) := by
  unfold addToSets Reading.addToSets
  rw [checkSize_eq (writes_lineName hline), reported_bind, map_bind]
  refine congrArg _ (funext fun _ => ?_)
  rw [reported_bind, reported_cellAt, map_bind]
  refine congrArg _ (funext fun cell => ?_)
  dsimp only
  by_cases hempty : cell.isEmpty
  · have hflag : (flagged layout sets).hasLastKey = sets.lastKey.isSome := rfl
    rw [hempty, hflag]
    cases hlastKey : sets.lastKey with
    | none =>
        rw [rejectEmptyKey_eq hsound]
        rfl
    | some key =>
        -- The flag is set, so the key beside it is the last key.
        have hkey : (flagged layout sets).lastKey = key := by simp [flagged, hlastKey]
        have hextend (row : Row) :
            flagged layout (sets.extend key (Reading.withKey layout key row)) =
            ⟨sets.entries.insert key ((sets.entries.get? key).getD [] ++
              [Reading.withKey layout key row]), true, key⟩ := by
          simp [flagged, Reading.Sets.extend, hlastKey]
        rw [hkey, readColumns_eq_readRow hsound]
        cases Reading.readRow .cpp layout line cells with
        | error e => rfl
        | ok row => exact congrArg Except.ok (hextend row).symm
  · rw [Bool.not_eq_true] at hempty
    rw [hempty, readColumns_eq_readRow hsound]
    cases Reading.readRow .cpp layout line cells with
    | error e => rfl
    | ok row =>
        have hcheck := checkDuplicate_eq hsound line sets.entries cell
          fun _ => .ok (flagged layout (sets.start (Reading.readKey .cpp layout cell) row))
        apply Eq.trans hcheck
        cases Reading.checkNew layout line sets.entries (Reading.readKey .cpp layout cell) with
        | error e => rfl
        | ok _ => rfl

/-- Lines are taken up in the same way if each of them is. -/
theorem eachLine_eq {takeUp : Nat → σ → Cells → Attempt TableFault σ}
    {takeUpHere : Nat → τ → Cells → Attempt ErrorText τ} {view : σ → τ}
    (hstep : ∀ line, 3 ≤ line → ∀ state cells,
      takeUpHere line (view state) cells = view <$> reported (takeUp line state cells))
    {line : Nat} (hline : 3 ≤ line) (state : σ) (lines : List Cells) :
    eachLine takeUpHere line (view state) lines =
      view <$> reported (eachLine takeUp line state lines) := by
  induction lines generalizing line state with
  | nil => rfl
  | cons cells rest ih =>
      rw [eachLine, eachLine, hstep line hline, reported_bind, map_bind, bind_map_left]
      exact congrArg _ (funext fun next => ih (by omega) next)

theorem readData_eq (hsound : layout.Sound) (lines : List Cells) :
    readData layout lines = reported (Reading.readData .cpp layout lines) := by
  unfold readData Reading.readData
  cases layout.keyType with
  | single =>
      have hstep (line : Nat) (hline : 3 ≤ line) (rows : Keyed Row) (cells : Cells) :
          addRow layout line rows cells =
            id <$> reported (Reading.addRow .cpp layout line rows cells) := by
        rw [addRow_eq hsound hline, id_map]
      have hloop : eachLine (addRow layout) 3 ∅ lines =
          id <$> reported (eachLine (Reading.addRow .cpp layout) 3 ∅ lines) :=
        eachLine_eq hstep (Nat.le_refl 3) ∅ lines
      dsimp only
      rw [hloop, reported_bind, id_map]
      rfl
  | set =>
      have hloop : eachLine (addToSets layout) 3 ⟨∅, false, noKey layout.keyAtom⟩ lines = _ :=
        eachLine_eq (fun line hline => addToSets_eq hsound hline) (Nat.le_refl 3) .empty lines
      dsimp only
      rw [hloop, reported_bind, bind_map_left]
      rfl

theorem headerLine_cons_eq (which : String) {line : Nat}
    (hname : Writes (which ++ " line") [] (TableFault.lineName line)) (cells : Cells)
    (rest : List Cells) :
    headerLine layout which (cells :: rest) =
      (do
        reported (Reading.checkColumnCount line cells.length layout.columns.length)
        return (cells, rest)) := by
  rw [headerLine, checkSize_eq hname]

/-- The C++ procedure reads a text as the reader with the rules of C++ does, and its complaint is
the report of the fault. -/
theorem readTable_eq_reported (hsound : layout.Sound) (text : String) :
    readTable layout text = reported (TableSchema.readTable .cpp layout text) := by
  unfold readTable TableSchema.readTable
  dsimp only
  have hcomment : Writes ("comment" ++ " line") [] (TableFault.lineName 1) :=
    writes_plain _ (by decide) (by decide)
  have hname : Writes ("name" ++ " line") [] (TableFault.lineName 2) :=
    writes_plain _ (by decide) (by decide)
  match rowsOf Rules.cpp.unquote text with
  | [] =>
      have hreport : errorText .missingCommentLine =
          encode ("comment" ++ " line is required").toList := by decide
      exact congrArg (fun text => Except.error (Interruption.fault text)) hreport.symm
  | [comment] =>
      have hreport : errorText .missingNameLine =
          encode ("name" ++ " line is required").toList := by decide
      rw [headerLine_cons_eq _ hcomment, Reading.readLines, reported_bind, bind_assoc]
      refine congrArg _ (funext fun _ => ?_)
      exact congrArg (fun text => Except.error (Interruption.fault text)) hreport.symm
  | comment :: names :: data =>
      rw [headerLine_cons_eq _ hcomment, Reading.readLines, reported_bind, bind_assoc]
      refine congrArg _ (funext fun _ => ?_)
      rw [pure_bind]
      dsimp only
      rw [headerLine_cons_eq _ hname, reported_bind, bind_assoc]
      -- The names are compared only if there are as many as there are columns.
      cases hcount : Reading.checkColumnCount 2 names.length layout.columns.length with
      | error e => rfl
      | ok _ =>
          have hlength := Reading.checkColumnCount_eq_ok_iff.1 hcount
          have hnames : checkNames names 0 layout.columns =
              reported (Reading.checkNames names layout.columns) :=
            checkNames_eq (identifier_of_mem hsound) (by omega)
          have hrest : reported (do
              Reading.checkNames names layout.columns
              Reading.readData .cpp layout data) =
              (do
                checkNames names 0 layout.columns
                readData layout data) := by
            rw [reported_bind, hnames, readData_eq hsound]
          exact hrest.symm

end CppReading

end TableSchema
