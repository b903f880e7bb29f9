import TableSchema.Example.Market
import TableSchema.Proofs.Schema.Views
import TableSchema.Proofs.Table.Written

/-!
# Reading what was cut

The reader made for a view reads a data file that was cut for the view, and holds what the full
reader holds of the full file, without the values that are not shown. The two ways to find cells
differ in a tab that follows a carriage return, so a file in which both find a cell for each column
has no such tab.
-/

namespace TableSchema

/-! ## Cells of data files -/

theorem lineCells_ne_nil (line : List Char) : lineCells line ≠ [] :=
  List.splitOn_ne_nil '\t' line

theorem lineCells_tab (rest : List Char) : lineCells ('\t' :: rest) = [] :: lineCells rest := by
  rw [lineCells, List.splitOn_cons_eq_if_modifyHead, if_pos (beq_self_eq_true _), lineCells]

theorem lineCells_cons {c : Char} (htab : c ≠ '\t') (rest : List Char) :
    lineCells (c :: rest) = consFirst c (lineCells rest) := by
  obtain ⟨part, others, hparts⟩ := List.exists_cons_of_ne_nil (lineCells_ne_nil rest)
  rw [hparts]
  rw [lineCells] at hparts
  rw [lineCells, List.splitOn_cons_eq_if_modifyHead, if_neg (by simpa using htab), hparts]
  rfl

theorem lineCells_return_tab (rest : List Char) :
    lineCells ('\r' :: '\t' :: rest) = ['\r'] :: lineCells rest := by
  rw [lineCells_cons (by decide), lineCells_tab]
  rfl

theorem length_cutCells_le (line : List Char) :
    (cutCells line).length ≤ (lineCells line).length := by
  fun_induction cutCells line with
  | case1 => simp [lineCells]
  | case2 rest ih =>
      rw [lineCells_return_tab, length_consFirst _ (consFirst_ne_nil _ _),
        length_consFirst _ (cutCells_ne_nil _), List.length_cons]
      omega
  | case3 rest ih =>
      rw [lineCells_tab, List.length_cons, List.length_cons]
      omega
  | case4 c rest hreturn htab ih =>
      rw [lineCells_cons htab, length_consFirst _ (cutCells_ne_nil _),
        length_consFirst _ (lineCells_ne_nil _)]
      exact ih

/-- Both ways to find cells give the same if they find as many. -/
theorem cutCells_eq_lineCells {line : List Char}
    (hlength : (lineCells line).length ≤ (cutCells line).length) :
    cutCells line = lineCells line := by
  fun_induction cutCells line with
  | case1 => simp [lineCells]
  | case2 rest ih =>
      -- A tab after a carriage return is a cell more for the cutter.
      have hle := length_cutCells_le rest
      rw [lineCells_return_tab, length_consFirst _ (consFirst_ne_nil _ _),
        length_consFirst _ (cutCells_ne_nil _), List.length_cons] at hlength
      omega
  | case3 rest ih =>
      rw [lineCells_tab, List.length_cons, List.length_cons] at hlength
      rw [lineCells_tab, ih (by omega)]
  | case4 c rest hreturn htab ih =>
      rw [lineCells_cons htab, length_consFirst _ (cutCells_ne_nil _),
        length_consFirst _ (lineCells_ne_nil _)] at hlength
      rw [lineCells_cons htab, ih hlength]

/-- The lines of a data file are the rows of its text. -/
theorem rowTexts_of_dataLines? {content : List Char} {lines : List (List Char)}
    (hlines : dataLines? content = some lines) : rowTexts content = lines := by
  unfold dataLines? at hlines
  unfold rowTexts
  dsimp only at hlines ⊢
  split at hlines
  next hlast =>
    rw [if_pos hlast]
    exact Option.some.inj hlines
  next => cases hlines

theorem keep_eq_restrict (table : Table) (reader : String) (cells : List (List Char)) :
    Cutting.keep table reader cells = restrict (table.shown reader) cells := by
  unfold Cutting.keep Table.shown
  induction table.columns.toList generalizing cells with
  | nil => rfl
  | cons column columns ih =>
      cases cells with
      | nil => simp
      | cons cell cells =>
          rw [List.zip_cons_cons, List.filter_cons, List.map_cons]
          cases hshown : table.shows reader column with
          | true => simp [hshown, ih]
          | false => simp [hshown, ih]

theorem Cutting.forM_checkCells_eq_ok_iff {table : Table} {rows : List (List (List Char))} :
    (rows.zipIdx.forM fun (cells, index) => Cutting.checkCells table (index + 1) cells) = .ok () ↔
      ∀ cells ∈ rows, cells.length = table.columns.toList.length := by
  have hcheck (line : Nat) (cells : List (List Char)) :
      Cutting.checkCells table line cells = .ok () ↔
        cells.length = table.columns.toList.length := by
    unfold Cutting.checkCells
    dsimp only
    split <;> simp [*]
  simp only [forM_eq_ok_iff, hcheck]
  constructor
  · intro hcounts cells hmem
    obtain ⟨i, hi⟩ := List.mem_iff_getElem?.1 hmem
    exact hcounts (cells, i) (List.mk_mem_zipIdx_iff_getElem?.2 hi)
  · rintro hcounts ⟨cells, i⟩ hmem
    exact hcounts cells (List.mem_of_getElem? (List.mk_mem_zipIdx_iff_getElem?.1 hmem))

/-- The line of names must hold just the names of the columns. -/
theorem Cutting.checkNames_eq_ok_iff {table : Table} {cells : List (List Char)}
    (hlength : cells.length = table.columns.toList.length) :
    Cutting.checkNames table cells = .ok () ↔
      cells = table.columns.toList.map (·.name.toList) := by
  have hcheck (index : Nat) (column : Column) (cell : List Char) :
      (if cell = column.name.toList then .ok ()
        else .error (CutFault.columnName (index + 1) column.name) : Except CutFault Unit) = .ok () ↔
        cell = column.name.toList := by
    split <;> simp [*]
  simp only [Cutting.checkNames, forM_eq_ok_iff, hcheck]
  constructor
  · intro hnames
    apply List.ext_getElem?
    intro i
    rw [List.getElem?_map]
    cases hcolumn : table.columns.toList[i]? with
    | none =>
        rw [List.getElem?_eq_none_iff] at hcolumn
        exact List.getElem?_eq_none (hlength ▸ hcolumn)
    | some column =>
        have hlt := (List.getElem?_eq_some_iff.1 hcolumn).1
        have hcell := List.getElem?_eq_getElem (hlength ▸ hlt : i < cells.length)
        have hpair : (table.columns.toList.zip cells)[i]? = some (column, cells[i]) :=
          List.getElem?_zip_eq_some.2 ⟨hcolumn, hcell⟩
        rw [hcell, Option.map_some]
        exact congrArg some (hnames _ (List.mk_mem_zipIdx_iff_getElem?.2 hpair))
  · rintro rfl ⟨⟨column, cell⟩, i⟩ hmem
    have hpair := List.mk_mem_zipIdx_iff_getElem?.1 hmem
    obtain ⟨hcolumn, hcell⟩ := List.getElem?_zip_eq_some.1 hpair
    rw [List.getElem?_map, hcolumn, Option.map_some] at hcell
    exact (Option.some.inj hcell).symm

/-- What a cut consists of. -/
theorem Table.cut_eq_ok_iff {table : Table} {reader content out : String} :
    table.cut reader content = .ok out ↔
      ∃ lines, dataLines? content.toList = some lines ∧
        (∀ line ∈ lines, (lineCells line).length = table.columns.toList.length) ∧
        (lines.map lineCells)[1]? = some (table.columns.toList.map (·.name.toList)) ∧
        out.toList = ((lines.map lineCells).map (restrict (table.shown reader))).flatMap
          Cutting.writeLine := by
  unfold Table.cut
  cases hlines : dataLines? content.toList with
  | none => simp [throw, throwThe, MonadExceptOf.throw]
  | some lines =>
      simp only [Option.some.injEq, exists_eq_left']
      have hcounts : (∀ line ∈ lines, (lineCells line).length = table.columns.toList.length) ↔
          ∀ cells ∈ lines.map lineCells, cells.length = table.columns.toList.length := by
        rw [List.forall_mem_map]
      rw [hcounts]
      -- Without a line of names there is neither a cut nor a second row.
      match lines.map lineCells with
      | [] => simp [throw, throwThe, MonadExceptOf.throw]
      | [comment] => simp [throw, throwThe, MonadExceptOf.throw]
      | comment :: names :: data =>
          dsimp only
          rw [then_eq_ok_iff, then_eq_ok_iff, Cutting.forM_checkCells_eq_ok_iff]
          apply and_congr_right
          intro hlengths
          have hnames : names.length = table.columns.toList.length := hlengths names (by simp)
          have hkeep : (fun cells => Cutting.writeLine (Cutting.keep table reader cells)) =
              Cutting.writeLine ∘ restrict (table.shown reader) :=
            funext fun cells => congrArg Cutting.writeLine (keep_eq_restrict table reader cells)
          apply and_congr
          · rw [Cutting.checkNames_eq_ok_iff hnames]
            simp
          · rw [hkeep, List.flatMap_map]
            constructor
            · intro hout
              rw [← Except.ok.inj hout, String.toList_ofList]
              rfl
            · intro hout
              exact congrArg Except.ok (String.toList_inj.1 (String.toList_ofList.trans hout.symm))

/-- The key is among the cells that are kept. -/
theorem Table.WellFormed.restrict_shown_ne_nil {α : Type} {schema : Schema} {table : Table}
    (hwell : table.WellFormed schema) (reader : String) {items : List α}
    (hlength : items.length = table.columns.toList.length) :
    restrict (table.shown reader) items ≠ [] := by
  obtain ⟨key, hcolumn, -⟩ := hwell.key
  have hlt := (List.getElem?_eq_some_iff.1 hcolumn).1
  have hkey := getElem?_restrict (hwell.shown_key reader) items
  intro hnil
  rw [hnil, List.getElem?_nil, List.getElem?_eq_getElem (hlength ▸ hlt)] at hkey
  cases hkey

/-- The rows of a cut file are those of the file with fewer cells, if every one of them has a cell
for each column. -/
theorem rowsOf_cut {schema : Schema} {table : Table} (hwell : table.WellFormed schema)
    {reader content out : String} (hcut : table.cut reader content = .ok out)
    (finish : List Char → List Char)
    (hcounts : ∀ cells ∈ rowsOf finish content, cells.length = table.columns.toList.length) :
    rowsOf finish out = (rowsOf finish content).map (restrict (table.shown reader)) := by
  obtain ⟨lines, hlines, hlengths, -, hout⟩ := Table.cut_eq_ok_iff.1 hcut
  rw [rowsOf_eq_segments] at hcounts
  have hcells : segments content.toList = lines.map lineCells := by
    rw [segments, rowTexts_of_dataLines? hlines]
    refine List.map_congr_left fun line hmem => cutCells_eq_lineCells ?_
    have hsegment : cutCells line ∈ segments content.toList := by
      rw [segments, rowTexts_of_dataLines? hlines]
      exact List.mem_map_of_mem hmem
    have hcount := hcounts _ (List.mem_map_of_mem hsegment)
    rw [List.length_map] at hcount
    exact Nat.le_of_eq ((hlengths line hmem).trans hcount.symm)
  have hwritable : ∀ cells ∈ (lines.map lineCells).map (restrict (table.shown reader)),
      Writable cells := by
    intro cells hmem
    obtain ⟨full, hfull, rfl⟩ := List.mem_map.1 hmem
    rw [← hcells] at hfull
    have hcount := hcounts _ (List.mem_map_of_mem hfull)
    rw [List.length_map] at hcount
    exact (writable_of_mem_segments hfull).sublist (restrict_sublist _ _)
      (hwell.restrict_shown_ne_nil reader hcount)
  rw [rowsOf_eq_segments, rowsOf_eq_segments, hout, segments_writeLines hwritable, hcells]
  simp [restrict_map]

/-- What the reader of a view holds of a cut file is what the full reader holds of the file, with
every row restricted to the columns that are shown. -/
theorem read_cut {schema : Schema} {table : Table} {reader : String} {declared : Reader}
    (hverified : schema.verify = .ok schema) (htable : table ∈ schema.tables.toList)
    (hdeclared : schema.readers.lookup reader = .found declared)
    (hreadable : table.readableBy reader) :
    ∃ view narrowed layout narrowLayout,
      schema.viewFor reader = .ok view ∧ view.tables.lookup table.name = .found narrowed ∧
      schema.layout? table = some layout ∧ view.layout? narrowed = some narrowLayout ∧
      ∀ content out held, table.cut reader content = .ok out →
        readTable .rust layout content = .ok held →
        readTable .rust narrowLayout out = .ok (held.mapRows (restrict (table.shown reader))) := by
  have hschema := schema.verify_eq_ok_iff.1 hverified
  have hwell := hschema.tables table htable
  obtain ⟨layout, hlayout, hsound⟩ := Schema.exists_sound_layout hverified htable
  refine ⟨schema.view reader, table.inView reader, layout, layout.restrict (table.shown reader),
    ?_, Schema.view_lookup hschema htable hreadable, hlayout,
    Schema.view_layout? hwell hlayout reader, ?_⟩
  · rw [Schema.viewFor, hdeclared]
  · intro content out held hcut hread
    obtain ⟨hcolumns, -, hindex, -⟩ := Schema.layout?_eq_some hlayout
    have hlength : layout.columns.length = table.columns.toList.length :=
      (mapM_eq_some_iff.1 hcolumns).length_eq.symm
    have hgrammar := ((Reading.readLines_eq_ok_iff hsound.keyIndex_lt).1 hread).1
    have hrows := rowsOf_cut hwell hcut Rules.rust.unquote fun cells hmem =>
      (hgrammar.counts cells hmem).trans hlength
    have hkept : (table.shown reader)[layout.keyIndex]? = some true :=
      hindex ▸ hwell.shown_key reader
    rw [readTable, hrows]
    exact Reading.readLines_restrict hkept hsound.keyIndex_lt hread

open Example in
theorem cut_goodsText : ∃ out, goods.cut "client" goodsText = .ok out :=
  isSome_toOption_iff.1 (by decide +kernel)

open Example in
theorem read_cut_market :
    market.verify = .ok market ∧ goods ∈ market.tables.toList ∧
      (∃ declared, market.readers.lookup "client" = .found declared) ∧ goods.readableBy "client" ∧
      ∃ view narrowed layout narrowLayout out held,
        market.viewFor "client" = .ok view ∧ view.tables.lookup goods.name = .found narrowed ∧
        market.layout? goods = some layout ∧ view.layout? narrowed = some narrowLayout ∧
        goods.cut "client" goodsText = .ok out ∧ readTable .rust layout goodsText = .ok held ∧
        readTable .rust narrowLayout out =
          .ok (held.mapRows (restrict (goods.shown "client"))) := by
  have hdeclared : market.readers.lookup "client" = .found ⟨"client", 1, ["market"]⟩ := by decide
  have hreadable : goods.readableBy "client" := by decide
  refine ⟨verify_market, goods_mem_market, ⟨_, hdeclared⟩, hreadable, ?_⟩
  obtain ⟨view, narrowed, layout, narrowLayout, hview, hnarrowed, hlayout, hnarrowLayout, hreads⟩ :=
    read_cut verify_market goods_mem_market hdeclared hreadable
  obtain rfl : goodsLayout = layout := Option.some.inj (layout?_goods.symm.trans hlayout)
  obtain ⟨out, hout⟩ := cut_goodsText
  obtain ⟨held, hheld⟩ := Reading.readTable_goodsText
  exact ⟨view, narrowed, goodsLayout, narrowLayout, out, held, hview, hnarrowed, hlayout,
    hnarrowLayout, hout, hheld, hreads goodsText out held hout hheld⟩

end TableSchema
