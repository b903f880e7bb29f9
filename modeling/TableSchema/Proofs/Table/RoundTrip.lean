import TableSchema.Example.Market
import TableSchema.Proofs.Table.Collections
import TableSchema.Proofs.Table.Quoting

/-!
# Written tables are read back

A table holds just the collection whose text it reads if the collection is legible, and only then:
no key leaves its cell empty, the parts of every value can be told from each other, and nothing in a
value ends a cell or a line. It does not matter which cells stand in quotes.
-/

namespace TableSchema

open Reading

/-- A collection that can be told from its text. -/
structure Collection.Legible (collection : Collection) : Prop where
  keys : ∀ entry ∈ collection.keyedRows, entry.1.written ≠ []
  separable : ∀ entry ∈ collection.keyedRows, ∀ value ∈ entry.2, value.Separable
  quiet : ∀ entry ∈ collection.keyedRows, ∀ value ∈ entry.2, Quiet false value.written

instance : DecidablePred Collection.Legible := fun collection =>
  decidable_of_iff
    ((∀ entry ∈ collection.keyedRows, entry.1.written ≠ []) ∧
      (∀ entry ∈ collection.keyedRows, ∀ value ∈ entry.2, value.Separable) ∧
      ∀ entry ∈ collection.keyedRows, ∀ value ∈ entry.2, Quiet false value.written)
    ⟨fun ⟨hkeys, hseparable, hquiet⟩ => ⟨hkeys, hseparable, hquiet⟩,
      fun ⟨hkeys, hseparable, hquiet⟩ => ⟨hkeys, hseparable, hquiet⟩⟩

/-! ## Names -/

theorem quiet_of_not_mem {afterReturn : Bool} {text : List Char} (hfeed : '\n' ∉ text)
    (htab : '\t' ∉ text) : Quiet afterReturn text := by
  induction text generalizing afterReturn with
  | nil => exact trivial
  | cons c rest ih =>
      rw [List.mem_cons, not_or] at hfeed htab
      refine ⟨?_, ?_, ih hfeed.2 htab.2⟩
      · intro h
        exact hfeed.1 h.2.symm
      · intro h
        exact htab.1 h.2.symm

theorem quiet_of_identifier {name : String} (hname : Identifier name) :
    Quiet false name.toList := by
  have hpart : ∀ c ∈ name.toList, isIdentifierPart c := by
    rw [Identifier, isIdentifier] at hname
    cases hchars : name.toList with
    | nil => simp
    | cons c rest =>
        rw [hchars] at hname
        simp only [Bool.and_eq_true, List.all_eq_true] at hname
        refine List.forall_mem_cons.2 ⟨?_, hname.2⟩
        rw [isIdentifierPart, Char.isAlphanum]
        have hstart := hname.1
        rw [isIdentifierStart, Bool.or_eq_true] at hstart
        rcases hstart with hstart | hstart
        · simp [hstart]
        · simp [hstart]
  apply quiet_of_not_mem
  · intro hfeed
    exact absurd (hpart _ hfeed) (by decide)
  · intro htab
    exact absurd (hpart _ htab) (by decide)

/-! ## Reading what is written -/

namespace Writing

variable {layout : Layout} (hsound : layout.Sound) {comment : Cells}
  (hcomment : comment.length = layout.columns.length) {collection : Collection}
  (hfits : collection.Fits layout) {bare : Nat → Nat → Bool}

/-- The lines of a table text. -/
def tableLines (layout : Layout) (comment : Cells) (collection : Collection) : List Cells :=
  comment :: layout.columns.map (·.name.toList) :: dataLines layout.keyIndex collection

include hcomment hfits in
theorem length_of_mem_tableLines :
    ∀ cells ∈ tableLines layout comment collection, cells.length = layout.columns.length := by
  rw [tableLines, List.forall_mem_cons, List.forall_mem_cons, List.length_map]
  exact ⟨hcomment, rfl, length_of_mem_dataLines hfits⟩

include hsound

include hfits in
/-- The lines of a table text are quiet if the comment and the values are. -/
theorem quiet_tableLines_iff :
    (∀ cells ∈ tableLines layout comment collection, ∀ cell ∈ cells, Quiet false cell) ↔
      (∀ cell ∈ comment, Quiet false cell) ∧
        ∀ entry ∈ collection.keyedRows, ∀ value ∈ entry.2, Quiet false value.written := by
  have hnames : ∀ cell ∈ layout.columns.map (·.name.toList), Quiet false cell := by
    intro cell hcell
    obtain ⟨column, hcolumn, rfl⟩ := List.mem_map.1 hcell
    exact quiet_of_identifier (hsound.names.identifiers _ (List.mem_map_of_mem hcolumn))
  rw [tableLines, List.forall_mem_cons, List.forall_mem_cons, quiet_dataLines_iff hfits]
  exact and_congr_right fun _ => and_iff_right hnames

include hcomment hfits

theorem ne_nil_of_mem_tableLines : ∀ cells ∈ tableLines layout comment collection, cells ≠ [] := by
  intro cells hmem
  have hlength := length_of_mem_tableLines hcomment hfits cells hmem
  have hpos := Nat.zero_lt_of_lt hsound.keyIndex_lt
  exact List.ne_nil_of_length_pos (hlength ▸ hpos)

/-- The text of a legible collection is read, and the table then holds just the collection. -/
theorem readTable_writeTable_of_legible (hquiet : ∀ cell ∈ comment, Quiet false cell)
    (hlegible : collection.Legible) :
    ∃ content, readTable .rust layout (writeTable bare layout comment collection) = .ok content ∧
      content.HoldsJust collection := by
  have hlines : rowsOf Cell.unquote (writeTable bare layout comment collection) =
      tableLines layout comment collection :=
    rowsOf_writeLines (ne_nil_of_mem_tableLines hsound hcomment hfits)
      ((quiet_tableLines_iff hsound hfits).2 ⟨hquiet, hlegible.quiet⟩)
  -- The lines are there again; now every row is read from its line.
  have hrows : ∀ entry ∈ collection.keyedRows, Complete .rust layout (rowCells entry.2) ∧
      rowOf .rust layout (rowCells entry.2) = entry.2 := by
    intro entry hentry
    exact (complete_rowCells_iff (hfits.admits entry hentry)).2 (hlegible.separable entry hentry)
  have hcomplete := (complete_dataLines_iff hsound).2 fun entry hentry => (hrows entry hentry).1
  have hkeys := legalKeys_dataLines hsound hfits hlegible.keys
  have hgrammar : Grammar .rust layout (tableLines layout comment collection) := by
    refine ⟨?_, length_of_mem_tableLines hcomment hfits, rfl, ?_, hkeys⟩
    · simp [tableLines]
    · intro cells hcells
      exact decode?_isSome_iff.1 (hcomplete cells hcells).decodes
  refine ⟨_, ?_, (holdsJust_iff hsound hfits hlegible.keys (contentOf_holds hkeys)).2
    fun entry hentry => (hrows entry hentry).2⟩
  change readLines .rust layout (rowsOf Cell.unquote _) = _
  rw [hlines]
  exact (readLines_eq_ok_iff hsound.keyIndex_lt).2 ⟨hgrammar, rfl⟩

/-- If the table holds just the collection after the text is read, the collection is legible. -/
theorem legible_of_readTable_writeTable {content : Content}
    (hread : readTable .rust layout (writeTable bare layout comment collection) = .ok content)
    (hjust : content.HoldsJust collection) :
    (∀ cell ∈ comment, Quiet false cell) ∧ collection.Legible := by
  change readLines .rust layout (rowsOf Cell.unquote _) = _ at hread
  obtain ⟨hgrammar, hcontent⟩ := (readLines_eq_ok_iff hsound.keyIndex_lt).1 hread
  have hholds : Holds .rust layout _ content := hcontent ▸ contentOf_holds hgrammar.keys
  -- There are as many lines as were written, so no value ends a line or a cell.
  have hlength : (rowsOf Cell.unquote (writeTable bare layout comment collection)).length =
      (tableLines layout comment collection).length := by
    have hdata := (count_of_holds hgrammar.keys hholds).symm.trans hjust.count_eq
    have hheader := hgrammar.header
    rw [List.length_drop] at hdata
    rw [tableLines, List.length_cons, List.length_cons, length_dataLines]
    omega
  have hquiet := quiet_of_rowsOf_writeLines (Nat.zero_lt_of_lt hsound.keyIndex_lt)
    (length_of_mem_tableLines hcomment hfits) hlength hgrammar.counts
  have hlines : rowsOf Cell.unquote (writeTable bare layout comment collection) =
      tableLines layout comment collection :=
    rowsOf_writeLines (ne_nil_of_mem_tableLines hsound hcomment hfits) hquiet
  rw [hlines] at hgrammar hholds
  have hkeys := written_ne_nil_of_holdsJust hsound hfits hgrammar.keys hholds hjust
  have hrows := (holdsJust_iff hsound hfits hkeys hholds).1 hjust
  have hcomplete := (complete_dataLines_iff hsound).1 fun cells hcells =>
    ⟨length_of_mem_dataLines hfits cells hcells,
      decode?_isSome_iff.2 (hgrammar.records cells hcells)⟩
  obtain ⟨hcommentQuiet, hvalues⟩ := (quiet_tableLines_iff hsound hfits).1 hquiet
  refine ⟨hcommentQuiet, hkeys, ?_, hvalues⟩
  intro entry hentry
  exact (complete_rowCells_iff (hfits.admits entry hentry)).1
    ⟨hcomplete entry hentry, hrows entry hentry⟩

end Writing

/-- For every verified table: the text of a collection is read and the table then holds just the
collection if and only if the comment is quiet and the collection is legible. -/
theorem holdsJust_written_iff {schema : Schema} {table : Table}
    (hverified : schema.verify = .ok schema) (htable : table ∈ schema.tables.toList) :
    ∃ layout, schema.layout? table = some layout ∧ ∀ comment collection bare,
      comment.length = layout.columns.length → collection.Fits layout →
      ((∃ content,
          readTable .rust layout (writeTable bare layout comment collection) = .ok content ∧
            content.HoldsJust collection) ↔
        (∀ cell ∈ comment, Quiet false cell) ∧ collection.Legible) := by
  obtain ⟨layout, hlayout, hsound⟩ := Schema.exists_sound_layout hverified htable
  refine ⟨layout, hlayout, fun comment collection bare hcomment hfits => ?_⟩
  constructor
  · intro ⟨content, hread, hjust⟩
    exact Writing.legible_of_readTable_writeTable hsound hcomment hfits hread hjust
  · intro ⟨hquiet, hlegible⟩
    exact Writing.readTable_writeTable_of_legible hsound hcomment hfits hquiet hlegible

open Example in
theorem wares_written :
    market.verify = .ok market ∧ goods ∈ market.tables.toList ∧
      ∃ layout content, market.layout? goods = some layout ∧ wares.Fits layout ∧
        readTable .rust layout (writeTable (fun line cell => (line + cell) % 2 = 0) layout
          ["Note".toList, "Stall".toList, "Ware".toList, "Prices".toList] wares) = .ok content ∧
        content.HoldsJust wares := by
  refine ⟨verify_market, goods_mem_market, ?_⟩
  obtain ⟨layout, hlayout, hwritten⟩ := holdsJust_written_iff verify_market goods_mem_market
  obtain rfl : goodsLayout = layout := Option.some.inj (layout?_goods.symm.trans hlayout)
  have hfits : wares.Fits goodsLayout := by decide
  have hlegible : wares.Legible := by decide
  obtain ⟨content, hread, hjust⟩ := (hwritten
    ["Note".toList, "Stall".toList, "Ware".toList, "Prices".toList] wares
    (fun line cell => (line + cell) % 2 = 0) rfl hfits).2 ⟨by decide, hlegible⟩
  exact ⟨goodsLayout, content, hlayout, hfits, hread, hjust⟩

open Example in
/-- A list of one empty text is written as the empty list is, and read as the empty list. -/
theorem namelessDay_lost :
    market.verify = .ok market ∧ stalls ∈ market.tables.toList ∧
      market.layout? stalls = some stallsLayout ∧ namelessDay.Fits stallsLayout ∧
      ∃ content,
        readTable .rust stallsLayout (writeTable (fun _ _ => true) stallsLayout
          ["Stall".toList, "Days".toList] namelessDay) = .ok content ∧
        content.HoldsJust noDay ∧ ¬ content.HoldsJust namelessDay := by
  obtain ⟨layout, hlayout, hsound⟩ := Schema.exists_sound_layout verify_market stalls_mem_market
  obtain rfl : stallsLayout = layout := Option.some.inj (layout?_stalls.symm.trans hlayout)
  have hfits : namelessDay.Fits stallsLayout := by decide
  have hillegible : ¬ namelessDay.Legible := by decide
  have hsame : writeTable (fun _ _ => true) stallsLayout ["Stall".toList, "Days".toList] noDay =
      writeTable (fun _ _ => true) stallsLayout ["Stall".toList, "Days".toList] namelessDay := rfl
  have hcomment : ["Stall".toList, "Days".toList].length = stallsLayout.columns.length := rfl
  obtain ⟨content, hread, hjust⟩ := Writing.readTable_writeTable_of_legible hsound
    hcomment (by decide : noDay.Fits stallsLayout) (by decide) (by decide)
  rw [hsame] at hread
  refine ⟨verify_market, stalls_mem_market, hlayout, hfits, content, hread, hjust, ?_⟩
  intro hboth
  exact hillegible (Writing.legible_of_readTable_writeTable hsound rfl hfits hread hboth).2

end TableSchema
