import TableSchema.Proofs.Table.Segmentation

/-!
# Lines and the places after them

The lines of a text with their ends are the text. A row stands in each of them, and the row reader
stops just past it.
-/

namespace TableSchema

open Bytes (size)

theorem flatten_consFirst (c : Char) (parts : List (List Char)) :
    (consFirst c parts).flatten = c :: parts.flatten := by
  cases parts <;> rfl

/-- Nothing of a text is lost in its lines. -/
theorem flatten_linesWithEnds (text : List Char) : (linesWithEnds text).flatten = text := by
  fun_induction linesWithEnds text with
  | case1 => rfl
  | case2 rest ih => simp [ih]
  | case3 c rest hnot ih => rw [flatten_consFirst, ih]

theorem not_mem_linesWithEnds (text : List Char) : [] ∉ linesWithEnds text := by
  fun_induction linesWithEnds text with
  | case1 => simp
  | case2 rest ih => simpa using ih
  | case3 c rest hnot ih => cases hlines : linesWithEnds rest <;> simp_all [consFirst]

theorem withoutLineEnd_cons {c : Char} {line : List Char} (hne : line ≠ [])
    (hend : c = '\r' → line.head? ≠ some '\n') :
    withoutLineEnd (c :: line) = c :: withoutLineEnd line := by
  have hsuffix : ['\r', '\n'].isSuffixOf (c :: line) = ['\r', '\n'].isSuffixOf line := by
    rw [Bool.eq_iff_iff, List.isSuffixOf_iff_suffix, List.isSuffixOf_iff_suffix,
      List.suffix_cons_iff, or_iff_right_iff_imp]
    intro hwhole
    obtain ⟨rfl, rfl⟩ := List.cons.inj hwhole
    exact absurd rfl (hend rfl)
  unfold withoutLineEnd
  rw [hsuffix]
  split
  next hends =>
    obtain ⟨start, rfl⟩ := List.isSuffixOf_iff_suffix.1 hends
    simp
  next => rfl

/-- The first line with its end, and the lines after it. -/
theorem exists_linesWithEnds {text : List Char} (hne : text ≠ []) :
    ∃ line, linesWithEnds text = line :: linesWithEnds ((splitLine text).2.getD []) ∧
      line ++ (splitLine text).2.getD [] = text ∧ withoutLineEnd line = (splitLine text).1 := by
  fun_induction splitLine text with
  | case1 => exact absurd rfl hne
  | case2 rest => exact ⟨['\r', '\n'], rfl, rfl, rfl⟩
  | case3 c rest hnot ih =>
      have hlines : linesWithEnds (c :: rest) = consFirst c (linesWithEnds rest) := by
        rw [linesWithEnds]
        exact hnot
      by_cases hrest : rest = []
      · subst hrest
        refine ⟨[c], hlines, rfl, ?_⟩
        simp [withoutLineEnd, List.isSuffixOf, List.isPrefixOf, splitLine]
      · obtain ⟨line, hcons, htext, hline⟩ := ih hrest
        refine ⟨c :: line, by rw [hlines, hcons]; rfl, by rw [List.cons_append, htext], ?_⟩
        have hlineNe : line ≠ [] := by
          rintro rfl
          exact not_mem_linesWithEnds rest (hcons ▸ List.mem_cons_self)
        rw [withoutLineEnd_cons hlineNe, hline]
        rintro rfl hhead
        obtain ⟨others, rfl⟩ := List.head?_eq_some_iff.1 hhead
        exact hnot _ rfl htext.symm

theorem length_splitLine_lt {text : List Char} (hne : text ≠ []) :
    ((splitLine text).2.getD []).length < text.length := by
  obtain ⟨line, hlines, htext, -⟩ := exists_linesWithEnds hne
  have hline : line ≠ [] := by
    rintro rfl
    exact not_mem_linesWithEnds text (hlines ▸ List.mem_cons_self)
  have hlength := congrArg List.length htext
  have hpos := List.length_pos_of_ne_nil hline
  rw [List.length_append] at hlength
  omega

theorem rowTexts_eq_map (text : List Char) :
    rowTexts text = (linesWithEnds text).map withoutLineEnd := by
  by_cases hne : text = []
  · subst hne
    rfl
  · have hshorter := length_splitLine_lt hne
    obtain ⟨line, hlines, -, hline⟩ := exists_linesWithEnds hne
    rw [rowTexts_of_ne_nil hne, hlines, List.map_cons, hline,
      rowTexts_eq_map ((splitLine text).2.getD [])]
termination_by text.length
decreasing_by exact hshorter

theorem segments_eq_map (text : List Char) :
    segments text = (linesWithEnds text).map fun line => cutCells (withoutLineEnd line) := by
  rw [segments, rowTexts_eq_map, List.map_map]
  rfl

/-! ## Leading lines -/

theorem take_consFirst (n : Nat) (c : Char) (parts : List (List Char)) :
    (consFirst c parts).take (n + 1) = consFirst c (parts.take (n + 1)) := by
  cases parts <;> simp [consFirst]

/-- The first lines of a text are the lines of the text that they make up. -/
theorem linesWithEnds_flatten_take (n : Nat) (text : List Char) :
    linesWithEnds ((linesWithEnds text).take n).flatten = (linesWithEnds text).take n := by
  cases n with
  | zero => rfl
  | succ n =>
      fun_induction linesWithEnds text generalizing n with
      | case1 => rfl
      | case2 rest ih =>
          cases n with
          | zero => rfl
          | succ n =>
              rw [List.take_succ_cons, List.flatten_cons, List.cons_append, List.cons_append,
                List.nil_append, linesWithEnds, ih]
      | case3 c rest hnot ih =>
          rw [take_consFirst, flatten_consFirst, linesWithEnds, ih]
          -- What follows the character begins as before, and so no line ends after it.
          intro after hc hafter
          have hrest : ((linesWithEnds rest).take (n + 1)).flatten ++
              ((linesWithEnds rest).drop (n + 1)).flatten = rest := by
            rw [← List.flatten_append, List.take_append_drop, flatten_linesWithEnds]
          rw [hafter] at hrest
          exact hnot _ hc hrest.symm

/-- The text of the first lines, with their ends. -/
def leadingLines (n : Nat) (text : String) : String :=
  String.ofList ((linesWithEnds text.toList).take n).flatten

/-- The rows of the first lines are the first rows. -/
theorem rowsOf_leadingLines (finish : List Char → List Char) (n : Nat) (text : String) :
    rowsOf finish (leadingLines n text) = (rowsOf finish text).take n := by
  rw [rowsOf_eq_segments, rowsOf_eq_segments, leadingLines, String.toList_ofList,
    segments_eq_map, segments_eq_map, linesWithEnds_flatten_take, List.map_take, List.map_take]

/-! ## Places -/

namespace RowReader

theorem next?_of_nil {finish : List Char → List Char} {reader : RowReader}
    (hrest : reader.rest = []) : reader.next? finish = none := by
  rw [next?, hrest]

/-- The next row stands in the first line of the text that is left. -/
theorem next?_of_ne_nil {finish : List Char → List Char} {reader : RowReader}
    (hrest : reader.rest ≠ []) :
    reader.next? finish = some ((cutCells (splitLine reader.rest).1).map finish,
      { reader with rest := (splitLine reader.rest).2.getD [] }) := by
  obtain ⟨c, rest, hcons⟩ := List.exists_cons_of_ne_nil hrest
  rw [next?, hcons]
  dsimp only
  rw [scanRow_eq, scanned_nil]

theorem rows_of_nil {finish : List Char → List Char} {reader : RowReader}
    (hrest : reader.rest = []) : reader.rows finish = [] := by
  rw [rows]
  split
  next => rfl
  next hnext => cases (next?_of_nil hrest).symm.trans hnext

theorem rows_of_ne_nil {finish : List Char → List Char} {reader : RowReader}
    (hrest : reader.rest ≠ []) :
    let next : RowReader := { reader with rest := (splitLine reader.rest).2.getD [] }
    reader.rows finish =
      ((cutCells (splitLine reader.rest).1).map finish, next) :: next.rows finish := by
  rw [rows]
  split
  next hnext => cases (next?_of_ne_nil hrest).symm.trans hnext
  next hnext =>
    cases (next?_of_ne_nil hrest).symm.trans hnext
    rfl

/-- The places after the rows are the places after the lines. -/
theorem map_index_rows (finish : List Char → List Char) {reader : RowReader}
    (start : Nat) (hsize : reader.textSize = start + size reader.rest) :
    start :: (reader.rows finish).map (·.2.index) =
      ((linesWithEnds reader.rest).map size).scanl (· + ·) start := by
  by_cases hrest : reader.rest = []
  · rw [rows_of_nil hrest, hrest]
    rfl
  · have hshorter := length_splitLine_lt hrest
    obtain ⟨line, hlines, htext, -⟩ := exists_linesWithEnds hrest
    have hparts : size reader.rest = size line + size ((splitLine reader.rest).2.getD []) := by
      rw [← Bytes.size_append, htext]
    have hindex : RowReader.index { reader with rest := (splitLine reader.rest).2.getD [] } =
        start + size line := by
      rw [index, hsize, hparts, ← Nat.add_assoc, Nat.add_sub_cancel]
    rw [rows_of_ne_nil hrest, hlines, List.map_cons, List.map_cons, hindex, List.scanl_cons,
      map_index_rows finish (start + size line) (by rw [hsize, hparts, Nat.add_assoc])]
termination_by reader.rest.length
decreasing_by exact hshorter

end RowReader

theorem size_pos {text : List Char} (hne : text ≠ []) : 0 < size text := by
  obtain ⟨c, rest, rfl⟩ := List.exists_cons_of_ne_nil hne
  exact Nat.add_pos_left c.utf8Size_pos _

theorem pairwise_scanl_add {sizes : List Nat} (hpos : ∀ n ∈ sizes, 0 < n) (start : Nat) :
    (sizes.scanl (· + ·) start).Pairwise (· < ·) := by
  induction sizes generalizing start with
  | nil => simp
  | cons n sizes ih =>
      obtain ⟨hn, hsizes⟩ := List.forall_mem_cons.1 hpos
      have hrest := ih hsizes (start + n)
      rw [List.scanl_cons]
      refine List.pairwise_cons.2 ⟨fun m hmem => ?_, hrest⟩
      -- The first of the sums that follow is the least of them.
      cases sizes with
      | nil =>
          obtain rfl : m = start + n := by simpa using hmem
          omega
      | cons k sizes =>
          rw [List.scanl_cons] at hmem hrest
          rcases List.mem_cons.1 hmem with rfl | hmem
          · omega
          · have hless := (List.pairwise_cons.1 hrest).1 m hmem
            omega

/-- Every line takes up some bytes, so that the places after the lines grow. -/
theorem pairwise_lineEnds (text : List Char) (start : Nat) :
    (((linesWithEnds text).map size).scanl (· + ·) start).Pairwise (· < ·) := by
  refine pairwise_scanl_add (fun n hmem => ?_) start
  obtain ⟨line, hline, rfl⟩ := List.mem_map.1 hmem
  exact size_pos fun hnil => not_mem_linesWithEnds text (hnil ▸ hline)

end TableSchema
