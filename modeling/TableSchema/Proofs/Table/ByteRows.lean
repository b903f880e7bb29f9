import TableSchema.Proofs.Table.ByteCells
import TableSchema.Proofs.Table.LineEnds

/-!
# Reading by bytes

A reader that goes through the bytes of a text sees what the row reader sees in its characters: a
byte of a tab, a line feed or a carriage return stands for the character, as it is in no other
one. So both give the same rows and know the same place after each of them, provided that cells
are cut out as they should be.
-/

namespace TableSchema

namespace ByteReader

open Bytes (encode size BadSlice)

/-! ## Bytes of a character -/

section Scan

variable {cut : Nat → Nat → Except BadSlice (List UInt8)}

theorem scan_plain_inside {bytes : List UInt8} (cellStart i : Nat) (rest : List UInt8)
    (hplain : ∀ b ∈ bytes, b ≠ tab ∧ b ≠ carriageReturn) :
    scan cut .inside cellStart i (bytes ++ rest) =
      scan cut .inside cellStart (i + bytes.length) rest := by
  induction bytes generalizing i with
  | nil => rfl
  | cons b bytes ih =>
      obtain ⟨⟨htab, hreturn⟩, hbytes⟩ := List.forall_mem_cons.1 hplain
      have hstep : scan cut .inside cellStart i (b :: (bytes ++ rest)) =
          scan cut .inside cellStart (i + 1) (bytes ++ rest) := by
        simp [scan, htab, stateAfter, hreturn]
      rw [List.cons_append, hstep, ih (i + 1) hbytes, List.length_cons, Nat.add_right_comm,
        Nat.add_assoc]

/-- Bytes that end nothing leave the reader inside a cell. -/
theorem scan_plain {bytes : List UInt8} (state : CellState) (cellStart i : Nat)
    (rest : List UInt8) (hne : bytes ≠ [])
    (hplain : ∀ b ∈ bytes, b ≠ tab ∧ b ≠ lineFeed ∧ b ≠ carriageReturn) :
    scan cut state cellStart i (bytes ++ rest) =
      scan cut .inside cellStart (i + bytes.length) rest := by
  obtain ⟨b, bytes, rfl⟩ := List.exists_cons_of_ne_nil hne
  obtain ⟨⟨htab, hfeed, hreturn⟩, hbytes⟩ := List.forall_mem_cons.1 hplain
  have hstep : scan cut state cellStart i (b :: (bytes ++ rest)) =
      scan cut .inside cellStart (i + 1) (bytes ++ rest) := by
    simp [scan, htab, hfeed, stateAfter, hreturn]
  rw [List.cons_append, hstep, scan_plain_inside _ _ _ fun b hmem =>
    ⟨(hbytes b hmem).1, (hbytes b hmem).2.2⟩, List.length_cons, Nat.add_right_comm, Nat.add_assoc]

/-- A character that ends neither a cell nor a row. -/
theorem scan_char {c : Char} (state : CellState) (cellStart i : Nat) (rest : List UInt8)
    (hrow : ¬(state = .afterReturn ∧ c = '\n')) (hcell : ¬(state ≠ .afterReturn ∧ c = '\t')) :
    scan cut state cellStart i (String.utf8EncodeChar c ++ rest) =
      scan cut (if c = '\r' then .afterReturn else .inside) cellStart (i + c.utf8Size) rest := by
  by_cases hreturn : c = '\r'
  · subst hreturn
    have hbytes : String.utf8EncodeChar '\r' = [carriageReturn] := rfl
    cases state <;> simp [hbytes, scan, stateAfter, tab, lineFeed, carriageReturn] <;> rfl
  by_cases htab : c = '\t'
  · subst htab
    have hbytes : String.utf8EncodeChar '\t' = [tab] := rfl
    obtain rfl : state = .afterReturn := by simpa using hcell
    simp [hbytes, scan, stateAfter, tab, lineFeed, carriageReturn]
    rfl
  by_cases hfeed : c = '\n'
  · subst hfeed
    have hbytes : String.utf8EncodeChar '\n' = [lineFeed] := rfl
    have hstate : state ≠ .afterReturn := by simpa using hrow
    simp [hbytes, scan, stateAfter, tab, lineFeed, carriageReturn, hstate]
    rfl
  · rw [if_neg hreturn, scan_plain state cellStart i rest String.utf8EncodeChar_ne_nil,
      String.length_utf8EncodeChar]
    intro b hmem
    exact ⟨Bytes.ne_of_mem_utf8EncodeChar (d := '\t') (by decide) htab hmem,
      Bytes.ne_of_mem_utf8EncodeChar (d := '\n') (by decide) hfeed hmem,
      Bytes.ne_of_mem_utf8EncodeChar (d := '\r') (by decide) hreturn hmem⟩

theorem scan_lineFeed {cellStart i : Nat} {cell : List UInt8} (rest : List UInt8)
    (hcell : cut cellStart (i - 1) = .ok cell) :
    scan cut .afterReturn cellStart i (lineFeed :: rest) = .ok ([cell], i + 1) := by
  simp [scan, hcell, bind, Except.bind, pure, Except.pure]

theorem scan_tab {state : CellState} {cellStart i after : Nat} {cell : List UInt8}
    {cells : List (List UInt8)} {rest : List UInt8} (hstate : state ≠ .afterReturn)
    (hcell : cellBefore cut state cellStart i = .ok cell)
    (hrest : scan cut .start (i + 1) (i + 1) rest = .ok (cells, after)) :
    scan cut state cellStart i (tab :: rest) = .ok (cell :: cells, after) := by
  simp [scan, hstate, hcell, hrest, bind, Except.bind, pure, Except.pure]

end Scan

/-! ## Rows -/

/-- What the state says about the part of a cell that is read, given in reverse. -/
def Tells : CellState → List Char → Prop
  | .start, cell => cell = []
  | .inside, _ => True
  | .afterReturn, cell => cell.head? = some '\r'

section Rows

variable {cutter : CellCutter} {finish : List Char → List Char}

theorem cut_reverse (hcuts : CutsCells cutter finish) (before cell after : List Char) :
    cutter (encode (before ++ cell.reverse ++ after)) (size before)
      (size (before ++ cell.reverse)) = .ok (encode (finish cell.reverse)) :=
  hcuts before cell.reverse after

theorem cellBefore_encode (hcuts : CutsCells cutter finish) (hfinish : finish [] = [])
    {state : CellState} (hstate : state ≠ .afterReturn) (before : List Char) {cell : List Char}
    (htells : Tells state cell) (after : List Char) :
    cellBefore (cutter (encode (before ++ cell.reverse ++ after))) state (size before)
      (size (before ++ cell.reverse)) = .ok (encode (finish cell.reverse)) := by
  cases state with
  | start =>
      obtain rfl : cell = [] := htells
      simp [cellBefore, hfinish]
  | inside => exact cut_reverse hcuts before cell after
  | afterReturn => exact absurd rfl hstate

/-- The carriage return at the end of a row belongs to the end and not to the last cell. -/
theorem scan_encode_lineEnd (hcuts : CutsCells cutter finish) (before cell rest : List Char) :
    scan (cutter (encode (before ++ ('\r' :: cell).reverse ++ '\n' :: rest))) .afterReturn
        (size before) (size (before ++ ('\r' :: cell).reverse)) (encode ('\n' :: rest)) =
      .ok ([encode (finish cell.reverse)],
        size (before ++ ('\r' :: cell).reverse ++ '\n' :: rest) - size rest) := by
  have hcell := cut_reverse hcuts before cell ('\r' :: '\n' :: rest)
  have htext : before ++ ('\r' :: cell).reverse ++ '\n' :: rest =
      before ++ cell.reverse ++ '\r' :: '\n' :: rest := by simp
  have hbytes : encode ('\n' :: rest) = lineFeed :: encode rest := rfl
  have hsize : size (before ++ ('\r' :: cell).reverse) = size (before ++ cell.reverse) + 1 := by
    simp [size, Nat.add_assoc]
    rfl
  have hafter : size (before ++ cell.reverse) + 1 + 1 =
      size (before ++ cell.reverse ++ '\r' :: '\n' :: rest) - size rest := by
    have hends : size ('\r' :: '\n' :: rest) = 1 + 1 + size rest := by
      simp only [size, Nat.add_assoc]
      rfl
    rw [Bytes.size_append (before ++ cell.reverse), hends]
    omega
  rw [htext, hbytes, hsize, scan_lineFeed _ hcell, hafter]

/-- The reader by bytes reads on as the scanner does. -/
theorem scan_encode (hcuts : CutsCells cutter finish) (hfinish : finish [] = [])
    (state : CellState) (before cell rest : List Char) (htells : Tells state cell) :
    scan (cutter (encode (before ++ cell.reverse ++ rest))) state (size before)
        (size (before ++ cell.reverse)) (encode rest) =
      .ok ((scanRow finish (state = .afterReturn) cell rest).1.map encode,
        size (before ++ cell.reverse ++ rest) -
          size (scanRow finish (state = .afterReturn) cell rest).2) := by
  induction rest generalizing state before cell with
  | nil =>
      rw [Bytes.encode_nil, scan, cut_reverse hcuts]
      simp [scanRow, bind, Except.bind, pure, Except.pure, size]
  | cons c rest ih =>
      by_cases hrow : state = .afterReturn ∧ c = '\n'
      · obtain ⟨rfl, rfl⟩ := hrow
        obtain ⟨cell, rfl⟩ : ∃ others, cell = '\r' :: others := List.head?_eq_some_iff.1 htells
        rw [scan_encode_lineEnd hcuts]
        simp [scanRow]
      by_cases hend : state ≠ .afterReturn ∧ c = '\t'
      · obtain ⟨hstate, rfl⟩ := hend
        have hcell := cellBefore_encode hcuts hfinish hstate before htells ('\t' :: rest)
        have hbytes : encode ('\t' :: rest) = tab :: encode rest := rfl
        have hsize : size (before ++ cell.reverse ++ ['\t']) =
            size (before ++ cell.reverse) + 1 := by
          rw [Bytes.size_append _ ['\t']]
          rfl
        have hrest := ih .start (before ++ cell.reverse ++ ['\t']) [] rfl
        rw [List.reverse_nil, List.append_nil, hsize, List.append_assoc _ ['\t'],
          List.singleton_append] at hrest
        rw [hbytes, scan_tab hstate hcell hrest]
        simp [scanRow, hstate]
      · have hchar := @scan_char (cutter (encode (before ++ cell.reverse ++ c :: rest))) c state
          (size before) (size (before ++ cell.reverse)) (encode rest) hrow hend
        have htext : before ++ cell.reverse ++ c :: rest =
            before ++ (c :: cell).reverse ++ rest := by simp
        have hsize : size (before ++ cell.reverse) + c.utf8Size =
            size (before ++ (c :: cell).reverse) := by
          simp [size, Nat.add_assoc]
        have hscan : scanRow finish (state = .afterReturn) cell (c :: rest) =
            scanRow finish (c = '\r') (c :: cell) rest := by
          rw [scanRow, if_neg (by simpa using hrow), if_neg (by simpa using hend)]
        have htells : Tells (if c = '\r' then .afterReturn else .inside) (c :: cell) := by
          split
          next hreturn => exact congrArg some hreturn
          next => trivial
        have hflag : decide ((if c = '\r' then CellState.afterReturn else .inside) =
            .afterReturn) = decide (c = '\r') := by
          split <;> simp_all
        rw [Bytes.encode_cons, hchar, hsize, htext, ih _ before _ htells, hscan, hflag]

theorem rows_of_none {reader : ByteReader} (hnext : reader.next? cutter = .ok none) :
    reader.rows cutter = .ok [] := by
  rw [rows]
  split
  next h => cases hnext.symm.trans h
  next => rfl
  next h => cases hnext.symm.trans h

theorem rows_of_some {reader next : ByteReader} {cells : List (List UInt8)}
    {others : List (List (List UInt8) × Nat)}
    (hnext : reader.next? cutter = .ok (some (cells, next)))
    (hothers : next.rows cutter = .ok others) :
    reader.rows cutter = .ok ((cells, next.index) :: others) := by
  rw [rows]
  split
  next h => cases hnext.symm.trans h
  next h => cases hnext.symm.trans h
  next h =>
    cases hnext.symm.trans h
    simp [hothers, bind, Except.bind, pure, Except.pure]

/-- The next row by bytes, with the text that is read and the text that is left. -/
theorem next?_encode (hcuts : CutsCells cutter finish) (hfinish : finish [] = [])
    (before : List Char) {rest : List Char} (hrest : rest ≠ []) :
    ByteReader.next? cutter ⟨encode (before ++ rest), size before⟩ =
      .ok (some ((scanRow finish false [] rest).1.map encode,
        ⟨encode (before ++ rest),
          size (before ++ rest) - size (scanRow finish false [] rest).2⟩)) := by
  have hmore : ¬(encode (before ++ rest)).length ≤ size before := by
    have hpos := size_pos hrest
    rw [Bytes.length_encode, Bytes.size_append]
    omega
  have hdrop : (encode (before ++ rest)).drop (size before) = encode rest := by
    rw [Bytes.encode_append, List.drop_left' (Bytes.length_encode before)]
  have hscan := scan_encode hcuts hfinish .start before [] rest rfl
  rw [List.reverse_nil, List.append_nil] at hscan
  unfold next?
  rw [if_neg hmore, hdrop]
  dsimp only
  rw [hscan]
  rfl

/-- A reader by bytes gives the rows of the row reader, in bytes, and knows the same places. -/
theorem rows_encode (hcuts : CutsCells cutter finish) (hfinish : finish [] = [])
    (reader : RowReader) (before : List Char)
    (hsize : reader.textSize = size (before ++ reader.rest)) :
    ByteReader.rows cutter ⟨encode (before ++ reader.rest), size before⟩ =
      .ok ((reader.rows finish).map fun (cells, next) => (cells.map encode, next.index)) := by
  by_cases hrest : reader.rest = []
  · rw [RowReader.rows_of_nil hrest, hrest, List.append_nil]
    refine rows_of_none ?_
    unfold next?
    rw [if_pos (Nat.le_of_eq (Bytes.length_encode before))]
  · have hshorter := length_splitLine_lt hrest
    obtain ⟨line, -, htext, -⟩ := exists_linesWithEnds hrest
    have hnext := next?_encode hcuts hfinish before hrest
    rw [scanRow_eq, scanned_nil, ← hsize] at hnext
    have hnextSize : size (before ++ line ++ (splitLine reader.rest).2.getD []) =
        reader.textSize := by rw [List.append_assoc, htext, hsize]
    -- The next reader has read the first line as well.
    have hplace : reader.textSize - size ((splitLine reader.rest).2.getD []) =
        size (before ++ line) := by
      rw [← hnextSize, Bytes.size_append (before ++ line), Nat.add_sub_cancel]
    have hothers := rows_encode hcuts hfinish
      { reader with rest := (splitLine reader.rest).2.getD [] } (before ++ line) hnextSize.symm
    dsimp only at hothers
    rw [hplace] at hnext
    rw [List.append_assoc, htext] at hothers
    rw [RowReader.rows_of_ne_nil hrest, rows_of_some hnext hothers, List.map_cons]
    exact congrArg (fun index => Except.ok ((_, index) :: _)) hplace.symm
termination_by reader.rest.length
decreasing_by exact hshorter

end Rows

end ByteReader

/-! ## Segments -/

theorem ByteReader.ofText_eq (text : String) :
    ofText text = ⟨Bytes.encode ([] ++ text.toList), Bytes.size []⟩ :=
  congrArg (ByteReader.mk · 0) (Bytes.toList_toUTF8 text)

/-- Readers by characters and by bytes, with both ways to take the quotes off cells, give the rows
that stand in the lines of a text, cut at its tabs. They stop just past each line, which is further
on every time, and no cell is cut out at places that are no bounds of a slice. -/
theorem every_reader_segments (text : String) :
    ∃ readings : List (List (List Char) × Nat),
      ((RowReader.ofText text).rows Cell.unquote).map (fun (cells, next) => (cells, next.index)) =
        readings ∧
      ((RowReader.ofText text).rows Cell.unquoteSkipping).map
        (fun (cells, next) => (cells, next.index)) = readings ∧
      (ByteReader.ofText text).rows ByteReader.cutAndReplace =
        .ok (readings.map fun (cells, index) => (cells.map Bytes.encode, index)) ∧
      (ByteReader.ofText text).rows ByteReader.copyAndSkip =
        .ok (readings.map fun (cells, index) => (cells.map Bytes.encode, index)) ∧
      readings.map (·.1) = (segments text.toList).map (List.map Cell.unquote) ∧
      segments text.toList =
        (linesWithEnds text.toList).map (fun line => cutCells (withoutLineEnd line)) ∧
      (linesWithEnds text.toList).flatten = text.toList ∧
      0 :: readings.map (·.2) =
        ((linesWithEnds text.toList).map Bytes.size).scanl (· + ·) 0 ∧
      (0 :: readings.map (·.2)).Pairwise (· < ·) := by
  have hplaces := (RowReader.ofText text).map_index_rows Cell.unquote 0
    (Nat.zero_add _).symm
  have hbytes {cutter : ByteReader.CellCutter}
      (hcuts : ByteReader.CutsCells cutter Cell.unquote) :
      (ByteReader.ofText text).rows cutter =
        .ok (((RowReader.ofText text).rows Cell.unquote).map
          fun (cells, next) => (cells.map Bytes.encode, next.index)) := by
    rw [ByteReader.ofText_eq]
    exact ByteReader.rows_encode hcuts rfl (.ofText text) [] rfl
  refine ⟨((RowReader.ofText text).rows Cell.unquote).map
    (fun (cells, next) => (cells, next.index)), rfl, by rw [Cell.unquote_eq_unquoteSkipping],
    ?_, ?_, ?_, segments_eq_map _, flatten_linesWithEnds _, ?_, ?_⟩
  · rw [hbytes ByteReader.cutAndReplace_cutsCells, List.map_map]
    rfl
  · rw [hbytes ByteReader.copyAndSkip_cutsCells, List.map_map]
    rfl
  · rw [List.map_map]
    exact rowsOf_eq_segments Cell.unquote text
  · rw [List.map_map]
    exact hplaces
  · rw [List.map_map]
    exact (congrArg (List.Pairwise (· < ·)) hplaces).mpr (pairwise_lineEnds text.toList 0)

end TableSchema
