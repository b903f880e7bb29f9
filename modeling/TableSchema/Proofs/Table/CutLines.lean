import TableSchema.Proofs.Table.CutReading

/-!
# Lines and rows of data files

The cutter and the row reader see the same lines in a file that can be cut. In a line they find the
same cells unless a tab directly follows a carriage return: the cutter ends a cell there, while the
tab belongs to the cell for the reader, who is left with fewer cells than there are columns.
-/

namespace TableSchema

theorem consFirst_inj {c : Char} {parts others : List (List Char)} (hparts : parts ≠ [])
    (hothers : others ≠ []) : consFirst c parts = consFirst c others ↔ parts = others := by
  obtain ⟨part, rest, rfl⟩ := List.exists_cons_of_ne_nil hparts
  obtain ⟨other, more, rfl⟩ := List.exists_cons_of_ne_nil hothers
  simp [consFirst]

/-- The two ways to find the cells of a line agree just on the lines in which no tab directly
follows a carriage return. -/
theorem cutCells_eq_lineCells_iff {line : List Char} :
    cutCells line = lineCells line ↔ ¬ ['\r', '\t'] <:+: line := by
  fun_induction cutCells line with
  | case1 => simp [lineCells]
  | case2 rest ih =>
      have hmore := length_cutCells_le rest
      have hreturnTab : ['\r', '\t'] <:+: '\r' :: '\t' :: rest := ⟨[], rest, rfl⟩
      refine iff_of_false (fun hsame => ?_) (not_not_intro hreturnTab)
      -- The cutter ends a cell at this tab and finds no fewer cells after it.
      have hlength := congrArg List.length hsame
      rw [lineCells_return_tab, length_consFirst _ (consFirst_ne_nil _ _),
        length_consFirst _ (cutCells_ne_nil _), List.length_cons] at hlength
      omega
  | case3 rest ih =>
      rw [lineCells_tab, List.cons_inj_right, ih, List.infix_cons_iff]
      simp
  | case4 c rest hreturn htab ih =>
      have hstart : ¬ ['\r', '\t'] <+: c :: rest := by
        rintro ⟨after, hafter⟩
        obtain ⟨rfl, rfl⟩ := List.cons.inj hafter
        exact hreturn after rfl rfl
      rw [lineCells_cons htab, consFirst_inj (cutCells_ne_nil _) (lineCells_ne_nil _), ih,
        List.infix_cons_iff, or_iff_right hstart]

/-- Tabs after carriage returns end no cell for the reader. -/
theorem length_cutCells_lt {line : List Char} (hreturnTab : ['\r', '\t'] <:+: line) :
    (cutCells line).length < (lineCells line).length := by
  apply Nat.lt_of_not_le
  intro hlength
  exact cutCells_eq_lineCells_iff.1 (cutCells_eq_lineCells hlength) hreturnTab

/-- The rows of a file that can be cut beside its lines. A reader finds a row in every line. Its
cells, each passed through `finish`, are those that the cutter finds just if no tab directly follows
a carriage return in the line; otherwise there are fewer of them than the table has columns. -/
theorem rows_beside_lines {table : Table} {reader content out : String}
    (hcut : table.cut reader content = .ok out) (finish : List Char → List Char) :
    ∃ lines, dataLines? content.toList = some lines ∧
      (rowsOf finish content).length = lines.length ∧
      ∀ (i : Nat) (line : List Char) (cells : List (List Char)), lines[i]? = some line →
        (rowsOf finish content)[i]? = some cells →
          (cells = (lineCells line).map finish ↔ ¬ ['\r', '\t'] <:+: line) ∧
          (['\r', '\t'] <:+: line → cells.length < table.columns.toList.length) := by
  obtain ⟨lines, hlines, hcounts, -⟩ := Table.cut_eq_ok_iff.1 hcut
  have hrows : rowsOf finish content = lines.map fun line => (cutCells line).map finish := by
    rw [rowsOf_eq_segments, segments, rowTexts_of_dataLines? hlines, List.map_map]
    rfl
  refine ⟨lines, hlines, by rw [hrows, List.length_map], ?_⟩
  intro i line cells hline hcells
  rw [hrows, List.getElem?_map, hline, Option.map_some, Option.some_inj] at hcells
  subst hcells
  have hfewer : ['\r', '\t'] <:+: line →
      ((cutCells line).map finish).length < (lineCells line).length := by
    intro hreturnTab
    rw [List.length_map]
    exact length_cutCells_lt hreturnTab
  refine ⟨⟨fun hsame hreturnTab => ?_, fun hnone => ?_⟩, fun hreturnTab => ?_⟩
  · have hlength := hfewer hreturnTab
    rw [hsame, List.length_map] at hlength
    exact Nat.lt_irrefl _ hlength
  · rw [cutCells_eq_lineCells_iff.2 hnone]
  · rw [← hcounts line (List.mem_of_getElem? hline)]
    exact hfewer hreturnTab

namespace Example

/-- Goods of which one has a note that ends in a carriage return. -/
def returnedText : String :=
  "Note\tStall\tWare\tPrices\r\n" ++
  "note\tstall\tware\tprices\r\n" ++
  "fresh\r\t3\tfish\tgold;2\r\n" ++
  "\t7\t\"pot\r\"\t\r\r\n"

end Example

open Example in
/-- The carriage return at the end of a note takes the tab into the cell; the others change
nothing. -/
theorem rows_beside_lines_returned :
    (goods.cut "client" returnedText).toOption.isSome ∧
      ∃ (lines : List (List Char)) (row other : List (List Char)),
        dataLines? returnedText.toList = some lines ∧
        (rowsOf Cell.unquote returnedText).length = lines.length ∧
        lines[2]? = some "fresh\r\t3\tfish\tgold;2".toList ∧
        (rowsOf Cell.unquote returnedText)[2]? = some row ∧
        row.length < goods.columns.toList.length ∧
        lines[3]? = some "\t7\t\"pot\r\"\t\r".toList ∧
        (rowsOf Cell.unquote returnedText)[3]? = some other ∧
        other = (lineCells "\t7\t\"pot\r\"\t\r".toList).map Cell.unquote := by
  have hcut : (goods.cut "client" returnedText).toOption.isSome := by decide +kernel
  have hnoted : (dataLines? returnedText.toList).bind (·[2]?) =
      some "fresh\r\t3\tfish\tgold;2".toList := by decide +kernel
  have hplain : (dataLines? returnedText.toList).bind (·[3]?) =
      some "\t7\t\"pot\r\"\t\r".toList := by decide +kernel
  have hreturnTab : ['\r', '\t'] <:+: "fresh\r\t3\tfish\tgold;2".toList := by decide +kernel
  have hnone : ¬ ['\r', '\t'] <:+: "\t7\t\"pot\r\"\t\r".toList := by decide +kernel
  refine ⟨hcut, ?_⟩
  obtain ⟨out, hout⟩ := isSome_toOption_iff.1 hcut
  obtain ⟨lines, hlines, hlength, hcells⟩ := rows_beside_lines hout Cell.unquote
  rw [hlines, Option.bind_some] at hnoted hplain
  have hrow (i : Nat) (line : List Char) (hline : lines[i]? = some line) :
      ∃ cells, (rowsOf Cell.unquote returnedText)[i]? = some cells :=
    ⟨_, List.getElem?_eq_getElem (hlength ▸ (List.getElem?_eq_some_iff.1 hline).1)⟩
  obtain ⟨row, hrowCells⟩ := hrow 2 _ hnoted
  obtain ⟨other, hotherCells⟩ := hrow 3 _ hplain
  exact ⟨lines, row, other, hlines, hlength, hnoted, hrowCells,
    (hcells 2 _ row hnoted hrowCells).2 hreturnTab, hplain, hotherCells,
    (hcells 3 _ other hplain hotherCells).1.2 hnone⟩

end TableSchema
