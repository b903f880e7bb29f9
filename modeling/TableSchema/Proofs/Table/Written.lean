import TableSchema.Proofs.Table.Segmentation
import TableSchema.Proofs.Text.Parts
import TableSchema.Table.Cutting

/-!
# Written lines are read back

A cell is quiet if nothing in it ends a row or a cell. Lines of quiet cells, in which no tab is
written after a carriage return, are cut into just these cells, and all cells that are ever read are
of this kind.
-/

namespace TableSchema

/-- Whether a text ends in a carriage return. The flag says whether one stands before it. -/
def endsInReturn : Bool → List Char → Bool
  | afterReturn, [] => afterReturn
  | _, c :: rest => endsInReturn (c = '\r') rest

/-- A text in which nothing ends a row or a cell: no line feed and every tab directly follows a
carriage return. The flag says whether one stands before the text. -/
def Quiet : Bool → List Char → Prop
  | _, [] => True
  | afterReturn, c :: rest =>
      ¬ (afterReturn = true ∧ c = '\n') ∧ ¬ (afterReturn = false ∧ c = '\t') ∧
        Quiet (c = '\r') rest

instance Quiet.decidable : (afterReturn : Bool) → (text : List Char) →
    Decidable (Quiet afterReturn text)
  | _, [] => isTrue trivial
  | afterReturn, c :: rest =>
      have := Quiet.decidable (c = '\r') rest
      inferInstanceAs (Decidable (¬ (afterReturn = true ∧ c = '\n') ∧
        ¬ (afterReturn = false ∧ c = '\t') ∧ Quiet (c = '\r') rest))

/-- The cells of a line that can be written. -/
def Writable : List (List Char) → Prop
  | [] => False
  | [cell] => Quiet false cell
  | cell :: next :: rest =>
      Quiet false cell ∧ endsInReturn false cell = false ∧ Writable (next :: rest)

theorem writable_cons_iff {cell : List Char} {cells : List (List Char)} (hne : cells ≠ []) :
    Writable (cell :: cells) ↔
      Quiet false cell ∧ endsInReturn false cell = false ∧ Writable cells := by
  obtain ⟨next, rest, rfl⟩ := List.exists_cons_of_ne_nil hne
  rfl

/-- A line can be written if nothing in its cells ends them and no tab follows a carriage return. -/
theorem writable_iff {cells : List (List Char)} :
    Writable cells ↔ cells ≠ [] ∧ (∀ cell ∈ cells, Quiet false cell) ∧
      ∀ cell ∈ cells.dropLast, endsInReturn false cell = false := by
  induction cells with
  | nil => simp [Writable]
  | cons cell cells ih =>
      cases cells with
      | nil => simp [Writable]
      | cons next others =>
          rw [List.dropLast_cons_cons]
          constructor
          · intro ⟨hquiet, hend, hrest⟩
            obtain ⟨-, hothers, hends⟩ := ih.1 hrest
            refine ⟨List.cons_ne_nil cell _, ?_, ?_⟩
            · exact List.forall_mem_cons.2 ⟨hquiet, hothers⟩
            · exact List.forall_mem_cons.2 ⟨hend, hends⟩
          · intro ⟨_, hquiet, hends⟩
            rw [List.forall_mem_cons] at hquiet hends
            exact ⟨hquiet.1, hends.1, ih.2 ⟨List.cons_ne_nil next _, hquiet.2, hends.2⟩⟩

theorem Writable.head_quiet {cell : List Char} {cells : List (List Char)}
    (hwritable : Writable (cell :: cells)) : Quiet false cell := by
  cases cells with
  | nil => exact hwritable
  | cons next rest => exact hwritable.1

/-- Cells may be left out of a line as long as one is left. -/
theorem Writable.sublist {kept cells : List (List Char)} (hsublist : kept.Sublist cells)
    (hne : kept ≠ []) (hwritable : Writable cells) : Writable kept := by
  induction hsublist with
  | slnil => exact absurd rfl hne
  | cons cell hrest ih =>
      apply ih hne
      have hcells := List.ne_nil_of_length_pos
        (Nat.lt_of_lt_of_le (List.length_pos_of_ne_nil hne) hrest.length_le)
      exact ((writable_cons_iff hcells).1 hwritable).2.2
  | @cons_cons kept cells cell hrest ih =>
      by_cases hkept : kept = []
      · subst hkept
        exact hwritable.head_quiet
      · have hcells := List.ne_nil_of_length_pos
          (Nat.lt_of_lt_of_le (List.length_pos_of_ne_nil hkept) hrest.length_le)
        obtain ⟨hquiet, hend, htail⟩ := (writable_cons_iff hcells).1 hwritable
        exact (writable_cons_iff hkept).2 ⟨hquiet, hend, ih hkept htail⟩

theorem endsInReturn_append (afterReturn : Bool) (first second : List Char) :
    endsInReturn afterReturn (first ++ second) =
      endsInReturn (endsInReturn afterReturn first) second := by
  induction first generalizing afterReturn with
  | nil => rfl
  | cons c rest ih => exact ih _

theorem quiet_append_iff {afterReturn : Bool} {first second : List Char} :
    Quiet afterReturn (first ++ second) ↔
      Quiet afterReturn first ∧ Quiet (endsInReturn afterReturn first) second := by
  induction first generalizing afterReturn with
  | nil => simp [Quiet, endsInReturn]
  | cons c rest ih => simp only [List.cons_append, Quiet, ih, endsInReturn, and_assoc]

/-! ## Cutting joined texts -/

theorem consFirst_append (c : Char) {parts : List (List Char)} (hne : parts ≠ [])
    (others : List (List Char)) : consFirst c (parts ++ others) = consFirst c parts ++ others := by
  obtain ⟨part, rest, rfl⟩ := List.exists_cons_of_ne_nil hne
  rfl

theorem length_consFirst (c : Char) {parts : List (List Char)} (hne : parts ≠ []) :
    (consFirst c parts).length = parts.length := by
  obtain ⟨part, rest, rfl⟩ := List.exists_cons_of_ne_nil hne
  rfl

/-- A character that does not begin a line end goes to the first line. -/
theorem lineParts_cons {c : Char} {text : List Char} (hend : c = '\r' → text.head? ≠ some '\n') :
    lineParts (c :: text) = consFirst c (lineParts text) := by
  rw [lineParts]
  rintro rest rfl rfl
  exact hend rfl rfl

/-- A line end ends a line whatever stands before it. -/
theorem lineParts_append_lineEnd (first rest : List Char) :
    lineParts (first ++ lineEnd ++ rest) = lineParts first ++ lineParts rest := by
  fun_induction lineParts first with
  | case1 => rfl
  | case2 first ih => simpa [lineParts] using ih
  | case3 c first hnot ih =>
      have hend : c = '\r' → (first ++ lineEnd ++ rest).head? ≠ some '\n' := by
        rintro rfl
        cases first with
        | nil => simp [lineEnd]
        | cons d first =>
            intro h
            obtain rfl : d = '\n' := by simpa using h
            exact hnot first rfl rfl
      rw [List.cons_append, List.cons_append, lineParts_cons hend, ih,
        consFirst_append c (lineParts_ne_nil first)]

/-- A tab neither begins nor ends a line. -/
theorem length_lineParts_tab (first rest : List Char) :
    (lineParts (first ++ '\t' :: rest)).length + 1 =
      (lineParts first).length + (lineParts rest).length := by
  fun_induction lineParts first with
  | case1 =>
      rw [List.nil_append, lineParts_cons (by simp), length_consFirst _ (lineParts_ne_nil rest),
        List.length_singleton, Nat.add_comm]
  | case2 first ih =>
      simp only [List.cons_append, lineParts, List.length_cons]
      omega
  | case3 c first hnot ih =>
      have hend : c = '\r' → (first ++ '\t' :: rest).head? ≠ some '\n' := by
        rintro rfl
        cases first with
        | nil => simp
        | cons d first =>
            intro h
            obtain rfl : d = '\n' := by simpa using h
            exact hnot first rfl rfl
      rw [List.cons_append, lineParts_cons hend, length_consFirst _ (lineParts_ne_nil _),
        length_consFirst _ (lineParts_ne_nil _), ih]

/-- A tab ends a cell that does not end in a carriage return. -/
theorem cutCells_append_tab {first : List Char} (hend : endsInReturn false first = false)
    (rest : List Char) : cutCells (first ++ '\t' :: rest) = cutCells first ++ cutCells rest := by
  fun_induction cutCells first with
  | case1 => rfl
  | case2 first ih =>
      have hcells := ih hend
      simp only [List.cons_append, cutCells]
      rw [hcells, consFirst_append _ (cutCells_ne_nil first),
        consFirst_append _ (consFirst_ne_nil _ _)]
  | case3 first ih => simpa [cutCells] using ih hend
  | case4 c first hreturn htab ih =>
      -- A carriage return at the end of the cell would hide the tab; elsewhere it does not matter.
      have hflag : endsInReturn false first = false ∧
          (c = '\r' → (first ++ '\t' :: rest).head? ≠ some '\t') := by
        cases first with
        | nil =>
            have hc : c ≠ '\r' := by simpa [endsInReturn] using hend
            exact ⟨rfl, fun h => absurd h hc⟩
        | cons d first =>
            refine ⟨hend, ?_⟩
            rintro rfl h
            obtain rfl : d = '\t' := by simpa using h
            exact hreturn first rfl rfl
      rw [List.cons_append, cutCells_cons htab hflag.2, ih hflag.1,
        consFirst_append c (cutCells_ne_nil first)]

theorem lineParts_eq_singleton {text : List Char} (hlength : (lineParts text).length = 1) :
    lineParts text = [text] := by
  fun_induction lineParts text with
  | case1 => rfl
  | case2 rest ih =>
      have hpos := List.length_pos_of_ne_nil (lineParts_ne_nil rest)
      rw [List.length_cons] at hlength
      omega
  | case3 c rest hnot ih =>
      rw [length_consFirst _ (lineParts_ne_nil rest)] at hlength
      rw [ih hlength, consFirst]

theorem cutCells_eq_singleton {text : List Char} (hlength : (cutCells text).length = 1) :
    cutCells text = [text] := by
  fun_induction cutCells text with
  | case1 => rfl
  | case2 rest ih =>
      rw [length_consFirst _ (consFirst_ne_nil _ _), length_consFirst _ (cutCells_ne_nil rest)]
        at hlength
      rw [ih hlength, consFirst, consFirst]
  | case3 rest ih =>
      have hpos := List.length_pos_of_ne_nil (cutCells_ne_nil rest)
      rw [List.length_cons] at hlength
      omega
  | case4 c rest hreturn htab ih =>
      rw [length_consFirst _ (cutCells_ne_nil rest)] at hlength
      rw [ih hlength, consFirst]

/-- A quiet text is one line of one cell. -/
theorem quiet_iff {text : List Char} :
    Quiet false text ↔ (lineParts text).length = 1 ∧ (cutCells text).length = 1 := by
  fun_induction cutCells text with
  | case1 => simp [Quiet, lineParts]
  | case2 rest ih =>
      have hline : (lineParts ('\r' :: '\t' :: rest)).length = (lineParts rest).length := by
        rw [lineParts_cons (by simp), length_consFirst _ (lineParts_ne_nil _),
          lineParts_cons (by simp), length_consFirst _ (lineParts_ne_nil _)]
      rw [hline, length_consFirst _ (consFirst_ne_nil _ _),
        length_consFirst _ (cutCells_ne_nil rest), ← ih]
      simp [Quiet]
  | case3 rest ih =>
      simp [Quiet, cutCells_ne_nil rest]
  | case4 c rest hreturn htab ih =>
      rw [length_consFirst _ (cutCells_ne_nil rest)]
      have htab : c ≠ '\t' := fun h => htab h
      by_cases hends : c = '\r' ∧ rest.head? = some '\n'
      case pos =>
        obtain ⟨rfl, hhead⟩ := hends
        obtain ⟨after, rfl⟩ := List.head?_eq_some_iff.1 hhead
        simp [Quiet, lineParts, lineParts_ne_nil after]
      case neg =>
        have hflag : Quiet false (c :: rest) ↔ Quiet false rest := by
          cases rest with
          | nil => simp [Quiet, htab]
          | cons d after =>
              -- The flag matters to a line feed and a tab only, and none of them follows.
              have hd : c = '\r' → d ≠ '\t' ∧ d ≠ '\n' := by
                rintro rfl
                refine ⟨?_, fun h => hends ⟨rfl, by rw [h]; rfl⟩⟩
                rintro rfl
                exact hreturn after rfl rfl
              by_cases hc : c = '\r'
              · simp [Quiet, hc, hd hc]
              · simp [Quiet, hc, htab]
        rw [hflag, ih, lineParts_cons fun hc hhead => hends ⟨hc, hhead⟩,
          length_consFirst _ (lineParts_ne_nil rest)]

/-! ## Reading what is written -/

section Cells

variable {cells : List (List Char)}

/-- Cells are on one line together if each of them is on one line. -/
theorem length_lineParts_joined :
    (lineParts (['\t'].intercalate cells)).length = 1 ↔
      ∀ cell ∈ cells, (lineParts cell).length = 1 := by
  induction cells with
  | nil => simp [lineParts]
  | cons cell cells ih =>
      cases cells with
      | nil => simp
      | cons next others =>
          have hcount := length_lineParts_tab cell (['\t'].intercalate (next :: others))
          have hcell := List.length_pos_of_ne_nil (lineParts_ne_nil cell)
          have hrest :=
            List.length_pos_of_ne_nil (lineParts_ne_nil (['\t'].intercalate (next :: others)))
          rw [List.intercalate_cons_cons, List.append_assoc, List.singleton_append,
            List.forall_mem_cons, ← ih]
          omega

/-- Joined cells are cut where they were joined, and maybe inside. -/
theorem cutCells_joined (hne : cells ≠ [])
    (hends : ∀ cell ∈ cells.dropLast, endsInReturn false cell = false) :
    cutCells (['\t'].intercalate cells) = cells.flatMap cutCells := by
  induction cells with
  | nil => exact absurd rfl hne
  | cons cell cells ih =>
      cases cells with
      | nil => simp
      | cons next others =>
          rw [List.dropLast_cons_cons, List.forall_mem_cons] at hends
          have hrest := ih (List.cons_ne_nil next others) hends.2
          rw [List.flatMap_cons, List.intercalate_cons_cons, List.append_assoc,
            List.singleton_append, cutCells_append_tab hends.1, hrest]

end Cells

/-- The parts of written lines, line by line, and nothing after the last line end. -/
theorem lineParts_writeLines (lines : List (List (List Char))) :
    lineParts (lines.flatMap Cutting.writeLine) =
      lines.flatMap (fun cells => lineParts (['\t'].intercalate cells)) ++ [[]] := by
  induction lines with
  | nil => rfl
  | cons cells lines ih =>
      rw [List.flatMap_cons, Cutting.writeLine, lineParts_append_lineEnd, ih, List.flatMap_cons,
        List.append_assoc]

theorem getLast?_lineParts_writeLines (lines : List (List (List Char))) :
    (lineParts (lines.flatMap Cutting.writeLine)).getLast? = some [] := by
  rw [lineParts_writeLines, List.getLast?_concat]

/-- The segments of written lines, line by line. -/
theorem segments_writeLines_eq (lines : List (List (List Char))) :
    segments (lines.flatMap Cutting.writeLine) =
      lines.flatMap fun cells => (lineParts (['\t'].intercalate cells)).map cutCells := by
  rw [segments, rowTexts]
  rw [if_pos (getLast?_lineParts_writeLines lines), lineParts_writeLines, List.dropLast_concat,
    List.map_flatMap]

/-- Lines that are written are cut into their cells. -/
theorem segments_writeLines {lines : List (List (List Char))}
    (hwritable : ∀ cells ∈ lines, Writable cells) :
    segments (lines.flatMap Cutting.writeLine) = lines := by
  have hline : ∀ cells ∈ lines,
      (lineParts (['\t'].intercalate cells)).map cutCells = [cells] := by
    intro cells hcells
    obtain ⟨hne, hquiet, hends⟩ := writable_iff.1 (hwritable cells hcells)
    have hparts := length_lineParts_joined.2 fun cell hcell => (quiet_iff.1 (hquiet cell hcell)).1
    have hcells : cells.flatMap cutCells = cells.flatMap fun cell => [cell] :=
      List.flatMap_congr fun cell hcell => cutCells_eq_singleton (quiet_iff.1 (hquiet cell hcell)).2
    rw [lineParts_eq_singleton hparts, List.map_singleton, cutCells_joined hne hends, hcells,
      List.flatMap_singleton']
  rw [segments_writeLines_eq, List.flatMap_congr hline, List.flatMap_singleton']

/-- If there are no more segments than lines were written and no more cells in them, then nothing in
the cells ended a line or a cell. -/
theorem quiet_of_segments_writeLines {lines : List (List (List Char))} {count : Nat}
    (hne : ∀ cells ∈ lines, cells ≠ [])
    (hends : ∀ cells ∈ lines, ∀ cell ∈ cells.dropLast, endsInReturn false cell = false)
    (hlength : (segments (lines.flatMap Cutting.writeLine)).length = lines.length)
    (hcounts : ∀ cells ∈ lines, cells.length = count)
    (hread : ∀ cells ∈ segments (lines.flatMap Cutting.writeLine), cells.length = count) :
    ∀ cells ∈ lines, ∀ cell ∈ cells, Quiet false cell := by
  rw [segments_writeLines_eq] at hlength hread
  -- Each line gives a segment at least, so none of them gives more.
  rw [length_flatMap_eq_iff fun cells _ => by simpa using lineParts_ne_nil _] at hlength
  intro cells hcells cell hcell
  have hjoined : (lineParts (['\t'].intercalate cells)).length = 1 := by
    simpa using hlength cells hcells
  have hcut : (cells.flatMap cutCells).length = cells.length := by
    have hmem : cutCells (['\t'].intercalate cells) ∈
        lines.flatMap fun cells => (lineParts (['\t'].intercalate cells)).map cutCells := by
      refine List.mem_flatMap.2 ⟨cells, hcells, ?_⟩
      rw [lineParts_eq_singleton hjoined, List.map_singleton]
      exact List.mem_singleton_self _
    rw [← cutCells_joined (hne cells hcells) (hends cells hcells), hread _ hmem,
      hcounts cells hcells]
  rw [length_flatMap_eq_iff fun cell _ => cutCells_ne_nil cell] at hcut
  exact quiet_iff.2 ⟨length_lineParts_joined.1 hjoined cell hcell, hcut cell hcell⟩

/-! ## Everything that is read can be written -/

/-- The segments of a text are found one after the other. -/
theorem segments_eq_scanRow {text : List Char} (hne : text ≠ []) :
    segments text = (scanRow id false [] text).1 :: segments (scanRow id false [] text).2 := by
  rw [scanRow_eq, scanned_nil, segments, rowTexts_of_ne_nil hne, List.map_cons, List.map_id]
  rfl

theorem scanRow_ne_nil (finish : List Char → List Char) (afterReturn : Bool)
    (taken text : List Char) : (scanRow finish afterReturn taken text).1 ≠ [] := by
  induction text generalizing afterReturn taken with
  | nil => simp [scanRow]
  | cons c rest ih =>
      rw [scanRow]
      split
      · simp
      · split
        · simp
        · exact ih _ _

theorem writable_scanRow {afterReturn : Bool} {taken : List Char}
    (hquiet : Quiet false taken.reverse) (hend : endsInReturn false taken.reverse = afterReturn)
    (text : List Char) : Writable (scanRow id afterReturn taken text).1 := by
  induction text generalizing afterReturn taken with
  | nil => exact hquiet
  | cons c rest ih =>
      rw [scanRow]
      split
      next =>
        -- What is left of the cell without its carriage return is still quiet.
        cases taken with
        | nil => exact hquiet
        | cons d taken =>
            rw [List.reverse_cons, quiet_append_iff] at hquiet
            exact hquiet.1
      next hfeed =>
        split
        next htab =>
          rw [Bool.and_eq_true, Bool.not_eq_true', decide_eq_true_eq] at htab
          have hrest := @ih false [] trivial rfl
          exact (writable_cons_iff (scanRow_ne_nil _ _ _ _)).2 ⟨hquiet, hend.trans htab.1, hrest⟩
        next htab =>
          refine ih ?_ ?_
          · rw [List.reverse_cons, quiet_append_iff, hend]
            refine ⟨hquiet, ?_, ?_, trivial⟩
            · simpa using hfeed
            · simpa using htab
          · rw [List.reverse_cons, endsInReturn_append]
            rfl

/-- Every segment of a text can be written again. -/
theorem writable_of_mem_segments {text : List Char} {cells : List (List Char)}
    (hmem : cells ∈ segments text) : Writable cells := by
  match text with
  | [] => simp [segments, rowTexts_nil] at hmem
  | c :: rest =>
      rw [segments_eq_scanRow (List.cons_ne_nil c rest), List.mem_cons] at hmem
      rcases hmem with rfl | hmem
      · exact @writable_scanRow false [] trivial rfl _
      · exact writable_of_mem_segments hmem
termination_by text.length
decreasing_by exact length_scanRow_lt id c rest

end TableSchema
