import TableSchema.Proofs.Schema.Filtering
import TableSchema.Proofs.Table.CutReading

/-!
# Cutting for several readers

A cut file is a file for the view of its reader: the cutter finds in it just the cells that were
kept. So cutting it again for the same reader changes nothing, and a file that is cut for two
readers may be cut for either of them first.
-/

namespace TableSchema

/-! ## Files that were written -/

/-- A part of a text between its line ends has no line end in it. -/
theorem length_lineParts_of_mem {text part : List Char} (hmem : part ∈ lineParts text) :
    (lineParts part).length = 1 := by
  fun_induction lineParts text generalizing part with
  | case1 =>
      obtain rfl := List.mem_singleton.1 hmem
      rfl
  | case2 rest ih =>
      rcases List.mem_cons.1 hmem with rfl | hmem
      · rfl
      · exact ih hmem
  | case3 c rest hnot ih =>
      rw [lineParts_eq_splitLine rest, consFirst] at hmem
      rw [lineParts_eq_splitLine rest] at ih
      rcases List.mem_cons.1 hmem with rfl | hmem
      · -- The first part begins as the text does, so that no line end arises before it.
        have hend : c = '\r' → (splitLine rest).1.head? ≠ some '\n' := by
          rintro rfl hhead
          obtain ⟨after, rfl⟩ := List.head?_eq_some_iff.1 (head?_splitLine hhead)
          exact hnot after rfl rfl
        rw [lineParts_cons hend, length_consFirst _ (lineParts_ne_nil _)]
        exact ih List.mem_cons_self
      · exact ih (List.mem_cons_of_mem _ hmem)

theorem mem_lineParts_of_dataLines? {content line : List Char} {lines : List (List Char)}
    (hlines : dataLines? content = some lines) (hmem : line ∈ lines) :
    line ∈ lineParts content := by
  unfold dataLines? at hlines
  dsimp only at hlines
  split at hlines
  next =>
    obtain rfl := Option.some.inj hlines
    exact (List.dropLast_sublist _).subset hmem
  next => cases hlines

/-- The cells of a line can be joined to a line again. -/
theorem length_lineParts_of_mem_lineCells {line cell : List Char}
    (hline : (lineParts line).length = 1) (hmem : cell ∈ lineCells line) :
    (lineParts cell).length = 1 := by
  have hjoined : ['\t'].intercalate (lineCells line) = line := List.intercalate_splitOn '\t'
  rw [← hjoined] at hline
  exact length_lineParts_joined.1 hline cell hmem

/-- The lines that were written are those that are found. -/
theorem dataLines?_writeLines {rows : List (List (List Char))}
    (hcells : ∀ cells ∈ rows, ∀ cell ∈ cells, (lineParts cell).length = 1) :
    dataLines? (rows.flatMap Cutting.writeLine) = some (rows.map (['\t'].intercalate ·)) := by
  have hlines : ∀ cells ∈ rows,
      lineParts (['\t'].intercalate cells) = [['\t'].intercalate cells] := fun cells hmem =>
    lineParts_eq_singleton (length_lineParts_joined.2 (hcells cells hmem))
  unfold dataLines?
  dsimp only
  rw [if_pos (getLast?_lineParts_writeLines rows), lineParts_writeLines, List.dropLast_concat,
    List.flatMap_congr hlines, ← List.map_eq_flatMap]

theorem lineCells_joined {cells : List (List Char)} (hne : cells ≠ [])
    (hcells : ∀ cell ∈ cells, '\t' ∉ cell) : lineCells (['\t'].intercalate cells) = cells :=
  List.splitOn_intercalate '\t' hcells hne

/-! ## Files that were cut -/

section Cut

variable {schema : Schema} {table : Table} {reader content out : String}

theorem Table.inView_shown (table : Table) (reader other : String) :
    (table.inView reader).shown other = restrict (table.shown reader) (table.shown other) := by
  rw [shown, inView_shows, inView_columns, ← restrict_map]
  rfl

/-- Whether a file can be cut does not depend on the reader. -/
theorem Table.exists_cut (hcut : table.cut reader content = .ok out) (other : String) :
    ∃ otherOut, table.cut other content = .ok otherOut := by
  obtain ⟨lines, hlines, hcounts, hnames, -⟩ := Table.cut_eq_ok_iff.1 hcut
  refine ⟨String.ofList (((lines.map lineCells).map (restrict (table.shown other))).flatMap
    Cutting.writeLine), Table.cut_eq_ok_iff.2 ⟨lines, hlines, hcounts, hnames, ?_⟩⟩
  rw [String.toList_ofList]

/-- The cells that the cutter finds in a cut file are those that were kept. -/
theorem Table.WellFormed.lineCells_cut (hwell : table.WellFormed schema)
    {lines : List (List Char)} (hlines : dataLines? content.toList = some lines)
    (hcut : table.cut reader content = .ok out) :
    (dataLines? out.toList).map (List.map lineCells) =
      some ((lines.map lineCells).map (restrict (table.shown reader))) := by
  obtain ⟨found, hfound, hcounts, -, hout⟩ := Table.cut_eq_ok_iff.1 hcut
  obtain rfl := Option.some.inj (hlines.symm.trans hfound)
  have hkept : ∀ cells ∈ (lines.map lineCells).map (restrict (table.shown reader)),
      cells ≠ [] ∧ ∀ cell ∈ cells, '\t' ∉ cell ∧ (lineParts cell).length = 1 := by
    intro cells hmem
    rw [List.map_map] at hmem
    obtain ⟨line, hline, rfl⟩ := List.mem_map.1 hmem
    refine ⟨hwell.restrict_shown_ne_nil reader (hcounts line hline), fun cell hcell => ?_⟩
    have hcell : cell ∈ lineCells line := (restrict_sublist _ _).subset hcell
    have hpart := length_lineParts_of_mem (mem_lineParts_of_dataLines? hlines hline)
    exact ⟨not_mem_of_mem_splitOn hcell, length_lineParts_of_mem_lineCells hpart hcell⟩
  have hback : ∀ cells ∈ (lines.map lineCells).map (restrict (table.shown reader)),
      lineCells (['\t'].intercalate cells) = cells := fun cells hmem =>
    lineCells_joined (hkept cells hmem).1 fun cell hcell => ((hkept cells hmem).2 cell hcell).1
  rw [hout, dataLines?_writeLines fun cells hmem cell hcell => ((hkept cells hmem).2 cell hcell).2,
    Option.map_some, List.map_map]
  exact congrArg some (List.map_congr_left hback |>.trans (List.map_id _))

/-- A file that was cut for one reader can be cut for any other, and what is left are the cells that
both are shown. -/
theorem Table.WellFormed.cut_inView (hwell : table.WellFormed schema)
    {lines : List (List Char)} (hlines : dataLines? content.toList = some lines)
    (hcut : table.cut reader content = .ok out) (other : String) :
    (table.inView reader).cut other out = .ok (String.ofList
      (((lines.map lineCells).map (restrict
        ((table.shown reader).zipWith (· && ·) (table.shown other)))).flatMap
          Cutting.writeLine)) := by
  obtain ⟨found, hfound, hcounts, hnames, -⟩ := Table.cut_eq_ok_iff.1 hcut
  obtain rfl := Option.some.inj (hlines.symm.trans hfound)
  obtain ⟨kept, hkept, hcells⟩ := Option.map_eq_some_iff.1 (hwell.lineCells_cut hlines hcut)
  rw [Table.cut_eq_ok_iff]
  refine ⟨kept, hkept, fun line hline => ?_, ?_, ?_⟩
  · have hmem : lineCells line ∈ (lines.map lineCells).map (restrict (table.shown reader)) :=
      hcells ▸ List.mem_map_of_mem hline
    rw [List.map_map] at hmem
    obtain ⟨whole, hwhole, hrestricted⟩ := List.mem_map.1 hmem
    rw [← hrestricted, Table.inView_columns]
    exact length_restrict_congr _ (hcounts whole hwhole)
  · rw [hcells, List.getElem?_map, hnames, Option.map_some, restrict_map, Table.inView_columns]
  · have hboth : ((lines.map lineCells).map (restrict (table.shown reader))).map
          (restrict (restrict (table.shown reader) (table.shown other))) =
        (lines.map lineCells).map (restrict
          ((table.shown reader).zipWith (· && ·) (table.shown other))) := by
      rw [List.map_map]
      exact List.map_congr_left fun cells _ => restrict_restrict _ _ cells
    rw [String.toList_ofList, hcells, Table.inView_shown, hboth]

end Cut

/-- Cutting beside filtering. The cut of a file for a reader can be cut with the table of the
reader's view: for the reader himself it stays as it is, and for another reader it comes to the same
as cutting the file for the other reader first. Its line of names holds the names of the columns in
the view. -/
theorem cut_views_compose {schema : Schema} (hverified : schema.verify = .ok schema) {table : Table}
    (htable : table ∈ schema.tables.toList) {reader other : String}
    (hreader : schema.Declares reader) (hother : schema.Declares other)
    (hreadable : table.readableBy reader) (hotherReadable : table.readableBy other) :
    ∃ view otherView narrowed otherNarrowed,
      schema.viewFor reader = .ok view ∧ view.tables.lookup table.name = .found narrowed ∧
      schema.viewFor other = .ok otherView ∧
      otherView.tables.lookup table.name = .found otherNarrowed ∧
      ∀ content out, table.cut reader content = .ok out →
        narrowed.cut reader out = .ok out ∧
        (∃ otherOut both, table.cut other content = .ok otherOut ∧
          narrowed.cut other out = .ok both ∧ otherNarrowed.cut reader otherOut = .ok both) ∧
        ∃ lines names, dataLines? out.toList = some lines ∧ lines[1]? = some names ∧
          lineCells names = narrowed.columns.toList.map (·.name.toList) := by
  have hschema := schema.verify_eq_ok_iff.1 hverified
  have hwell := hschema.tables table htable
  refine ⟨schema.view reader, schema.view other, table.inView reader, table.inView other,
    Schema.viewFor_of_declares reader hreader, Schema.view_lookup hschema htable hreadable,
    Schema.viewFor_of_declares other hother, Schema.view_lookup hschema htable hotherReadable, ?_⟩
  intro content out hcut
  obtain ⟨lines, hlines, -, hnames, hout⟩ := Table.cut_eq_ok_iff.1 hcut
  refine ⟨?_, ?_, ?_⟩
  · rw [hwell.cut_inView hlines hcut reader, List.zipWith_self]
    simp only [Bool.and_self, List.map_id']
    rw [← hout, String.ofList_toList]
  · obtain ⟨otherOut, hotherCut⟩ := Table.exists_cut hcut other
    refine ⟨otherOut, _, hotherCut, hwell.cut_inView hlines hcut other, ?_⟩
    rw [hwell.cut_inView hlines hotherCut reader, List.zipWith_comm_of_comm Bool.and_comm]
  · obtain ⟨kept, hkept, hcells⟩ := Option.map_eq_some_iff.1 (hwell.lineCells_cut hlines hcut)
    have hsecond : (kept.map lineCells)[1]? =
        some ((table.inView reader).columns.toList.map (·.name.toList)) := by
      rw [hcells, List.getElem?_map, hnames, Option.map_some, restrict_map, Table.inView_columns]
    rw [List.getElem?_map, Option.map_eq_some_iff] at hsecond
    obtain ⟨names, hfound, hsame⟩ := hsecond
    exact ⟨kept, names, hkept, hfound, hsame⟩

open Example in
/-- The goods are cut for both readers of the market, in both orders. -/
theorem cut_views_compose_market :
    market.verify = .ok market ∧ goods ∈ market.tables.toList ∧ market.Declares "client" ∧
      market.Declares "server" ∧ goods.readableBy "client" ∧ goods.readableBy "server" ∧
      ∃ view otherView narrowed otherNarrowed out otherOut both,
        market.viewFor "client" = .ok view ∧ view.tables.lookup goods.name = .found narrowed ∧
        market.viewFor "server" = .ok otherView ∧
        otherView.tables.lookup goods.name = .found otherNarrowed ∧
        goods.cut "client" goodsText = .ok out ∧ narrowed.cut "client" out = .ok out ∧
        goods.cut "server" goodsText = .ok otherOut ∧ narrowed.cut "server" out = .ok both ∧
        otherNarrowed.cut "client" otherOut = .ok both ∧
        ∃ lines names, dataLines? out.toList = some lines ∧ lines[1]? = some names ∧
          lineCells names = narrowed.columns.toList.map (·.name.toList) := by
  have hclient : market.Declares "client" := ⟨⟨"client", 1, ["market"]⟩, by decide, rfl⟩
  have hserver : market.Declares "server" := ⟨⟨"server", 2, ["market"]⟩, by decide, rfl⟩
  have hreadable : goods.readableBy "client" := by decide
  have hotherReadable : goods.readableBy "server" := by decide
  refine ⟨verify_market, goods_mem_market, hclient, hserver, hreadable, hotherReadable, ?_⟩
  obtain ⟨view, otherView, narrowed, otherNarrowed, hview, hnarrowed, hotherView, hotherNarrowed,
    hcuts⟩ := cut_views_compose verify_market goods_mem_market hclient hserver hreadable
      hotherReadable
  obtain ⟨out, hout⟩ := cut_goodsText
  obtain ⟨hsame, ⟨otherOut, both, hotherCut, hboth, hotherBoth⟩, hnames⟩ :=
    hcuts goodsText out hout
  exact ⟨view, otherView, narrowed, otherNarrowed, out, otherOut, both, hview, hnarrowed,
    hotherView, hotherNarrowed, hout, hsame, hotherCut, hboth, hotherBoth, hnames⟩

end TableSchema
