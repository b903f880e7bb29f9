import Mathlib.Data.List.Basic
import TableSchema.Table.Row

/-!
# Rows are segments

The row reader goes through a text character by character and knows one bit of what it has seen.
It gives what `segments` cuts out of the text as a whole: first at the line ends, then each row at
its tabs.
-/

namespace TableSchema

/-- The text up to the first line end, and the text after it if there is one. -/
def splitLine : List Char → List Char × Option (List Char)
  | [] => ([], none)
  | '\r' :: '\n' :: rest => ([], some rest)
  | c :: rest => (c :: (splitLine rest).1, (splitLine rest).2)

theorem lineParts_ne_nil (text : List Char) : lineParts text ≠ [] := by
  fun_cases lineParts text with
  | case1 => simp
  | case2 => simp
  | case3 c rest _ => cases lineParts rest <;> simp [consFirst]

theorem cutCells_ne_nil (text : List Char) : cutCells text ≠ [] := by
  fun_cases cutCells text with
  | case1 => simp
  | case2 rest => cases cutCells rest <;> simp [consFirst]
  | case3 => simp
  | case4 c rest _ => cases cutCells rest <;> simp [consFirst]

theorem lineParts_eq_splitLine (text : List Char) :
    lineParts text = (splitLine text).1 :: (splitLine text).2.elim [] lineParts := by
  fun_induction splitLine text with
  | case1 => rfl
  | case2 rest => rfl
  | case3 c rest hnot ih =>
      rw [lineParts]
      · rw [ih]
        rfl
      · exact hnot

/-- A text without line end is its only line. -/
theorem splitLine_fst_of_none {text : List Char} (h : (splitLine text).2 = none) :
    (splitLine text).1 = text := by
  fun_induction splitLine text with
  | case1 => rfl
  | case2 rest => cases h
  | case3 c rest hnot ih => rw [ih h]

theorem rowTexts_nil : rowTexts [] = [] := rfl

theorem rowTexts_of_ne_nil {text : List Char} (hne : text ≠ []) :
    rowTexts text = (splitLine text).1 :: rowTexts ((splitLine text).2.getD []) := by
  cases hrest : (splitLine text).2 with
  | none =>
      have hline := splitLine_fst_of_none hrest
      rw [Option.getD_none, rowTexts_nil]
      simp [rowTexts, lineParts_eq_splitLine text, hrest, hline, hne]
  | some rest =>
      -- The empty part after the last line end belongs to the text after the first line as well.
      obtain ⟨part, parts, hparts⟩ := List.exists_cons_of_ne_nil (lineParts_ne_nil rest)
      have hcons : lineParts text = (splitLine text).1 :: part :: parts := by
        rw [lineParts_eq_splitLine, hrest, Option.elim_some, hparts]
      simp only [rowTexts, hcons, hparts, Option.getD_some, List.getLast?_cons_cons,
        List.dropLast_cons_cons]
      split <;> rfl

theorem modifyHead_consFirst (start : List Char) (c : Char) {parts : List (List Char)}
    (hne : parts ≠ []) :
    (consFirst c parts).modifyHead (start ++ ·) = parts.modifyHead (start ++ [c] ++ ·) := by
  obtain ⟨part, others, rfl⟩ := List.exists_cons_of_ne_nil hne
  simp [consFirst]

theorem consFirst_ne_nil (c : Char) (parts : List (List Char)) : consFirst c parts ≠ [] := by
  cases parts <;> simp [consFirst]

/-- A character that stands before no line end goes to the line. -/
theorem splitLine_cons {c : Char} {rest : List Char}
    (hend : c = '\r' → rest.head? ≠ some '\n') :
    splitLine (c :: rest) = (c :: (splitLine rest).1, (splitLine rest).2) := by
  rw [splitLine]
  rintro after rfl rfl
  exact hend rfl rfl

/-- The first line starts as the text does, unless it is empty. -/
theorem head?_splitLine {text : List Char} {c : Char} (h : (splitLine text).1.head? = some c) :
    text.head? = some c := by
  fun_cases splitLine text with
  | case1 => simp [splitLine] at h
  | case2 rest => simp [splitLine] at h
  | case3 d rest hnot =>
      rw [splitLine] at h
      · simpa using h
      · exact hnot

/-- A character that is not cut off goes to the first cell. -/
theorem cutCells_cons {c : Char} {line : List Char} (htab : c ≠ '\t')
    (hreturn : c = '\r' → line.head? ≠ some '\t') :
    cutCells (c :: line) = consFirst c (cutCells line) := by
  rw [cutCells]
  · rintro rest rfl rfl
    exact hreturn rfl rfl
  · exact htab

/-- The scanner's flag matters to a line feed and a tab only. -/
theorem scanRow_flag (finish : List Char → List Char) (cell : List Char) {c : Char}
    (rest : List Char) (hfeed : c ≠ '\n') (htab : c ≠ '\t') :
    scanRow finish true cell (c :: rest) = scanRow finish false cell (c :: rest) := by
  simp [scanRow, hfeed, htab]

/-- What the scanner gives when a part of a cell is read already: the cells of the first line and
the text after it. -/
def scanned (finish : List Char → List Char) (cell text : List Char) :
    List (List Char) × List Char :=
  (((cutCells (splitLine text).1).modifyHead (cell.reverse ++ ·)).map finish,
    (splitLine text).2.getD [])

theorem scanned_nil (finish : List Char → List Char) (text : List Char) :
    scanned finish [] text =
      ((cutCells (splitLine text).1).map finish, (splitLine text).2.getD []) := by
  have hid : (fun part : List Char => [].reverse ++ part) = id := rfl
  rw [scanned, hid, List.modifyHead_id, id]

/-- A character that neither is cut off nor may end the line goes to the part that is read. -/
theorem scanned_cons (finish : List Char → List Char) (cell : List Char) {c : Char}
    {rest : List Char} (htab : c ≠ '\t')
    (hreturn : c = '\r' → rest.head? ≠ some '\n' ∧ rest.head? ≠ some '\t') :
    scanned finish cell (c :: rest) = scanned finish (c :: cell) rest := by
  have hline : splitLine (c :: rest) = (c :: (splitLine rest).1, (splitLine rest).2) :=
    splitLine_cons fun h => (hreturn h).1
  have hcells : cutCells (c :: (splitLine rest).1) = consFirst c (cutCells (splitLine rest).1) :=
    cutCells_cons htab fun h hhead => (hreturn h).2 (head?_splitLine hhead)
  simp only [scanned, hline, hcells, modifyHead_consFirst _ _ (cutCells_ne_nil _),
    List.reverse_cons]

theorem scanned_tab (finish : List Char → List Char) (cell rest : List Char) :
    scanned finish cell ('\t' :: rest) =
      (finish cell.reverse :: (scanned finish [] rest).1, (scanned finish [] rest).2) := by
  have hline : splitLine ('\t' :: rest) = ('\t' :: (splitLine rest).1, (splitLine rest).2) :=
    splitLine_cons fun h => absurd h (by decide)
  rw [scanned_nil]
  simp [scanned, hline, cutCells]

theorem scanned_return_tab (finish : List Char → List Char) (cell rest : List Char) :
    scanned finish cell ('\r' :: '\t' :: rest) = scanned finish ('\t' :: '\r' :: cell) rest := by
  have hline : splitLine ('\r' :: '\t' :: rest) =
      ('\r' :: '\t' :: (splitLine rest).1, (splitLine rest).2) := by
    rw [splitLine_cons (by simp), splitLine_cons fun h => absurd h (by decide)]
  simp only [scanned, hline, cutCells, modifyHead_consFirst _ _ (consFirst_ne_nil _ _),
    modifyHead_consFirst _ _ (cutCells_ne_nil _), List.reverse_cons]

theorem scanRow_eq (finish : List Char → List Char) (cell text : List Char) :
    scanRow finish false cell text = scanned finish cell text := by
  match text with
  | [] => simp [scanRow, scanned, splitLine, cutCells]
  | c :: rest =>
      by_cases htab : c = '\t'
      · subst htab
        rw [scanned_tab, ← scanRow_eq finish [] rest]
        simp [scanRow]
      by_cases hreturn : c = '\r'
      · subst hreturn
        -- The scanner decides about a carriage return with the character after it.
        match rest with
        | [] => simp [scanRow, scanned, splitLine, cutCells, consFirst]
        | d :: rest =>
            by_cases hfeed : d = '\n'
            · subst hfeed
              simp [scanRow, scanned, splitLine, cutCells]
            by_cases htab : d = '\t'
            · subst htab
              rw [scanned_return_tab, ← scanRow_eq finish _ rest]
              simp [scanRow]
            · rw [scanned_cons _ _ (by decide) fun _ => by simp [hfeed, htab],
                ← scanRow_eq finish _ (d :: rest), ← scanRow_flag _ _ _ hfeed htab]
              simp [scanRow]
      · rw [scanned_cons _ _ htab fun h => absurd h hreturn, ← scanRow_eq finish _ rest]
        simp [scanRow, htab, hreturn]
termination_by text.length

/-- The rows that a reader has left are the segments of the text that it has left. -/
theorem RowReader.map_rows (finish : List Char → List Char) (reader : RowReader) :
    (reader.rows finish).map (·.1) = (segments reader.rest).map (List.map finish) := by
  fun_induction reader.rows finish with
  | case1 reader hnext =>
      have hrest : reader.rest = [] := by
        unfold next? at hnext
        split at hnext
        · assumption
        · cases hnext
      rw [hrest]
      rfl
  | case2 reader cells next hnext ih =>
      unfold next? at hnext
      split at hnext
      next => cases hnext
      next c rest hrest =>
        simp only [Option.some.injEq, Prod.mk.injEq] at hnext
        obtain ⟨rfl, rfl⟩ := hnext
        rw [List.map_cons, ih, hrest, scanRow_eq, scanned_nil]
        simp [segments, rowTexts_of_ne_nil (List.cons_ne_nil c rest)]

/-- The rows of a text are its segments with every cell finished. -/
theorem rowsOf_eq_segments (finish : List Char → List Char) (text : String) :
    rowsOf finish text = (segments text.toList).map (List.map finish) :=
  RowReader.map_rows finish (.ofText text)

end TableSchema
