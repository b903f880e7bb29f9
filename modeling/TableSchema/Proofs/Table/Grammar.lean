import TableSchema.Example.Market
import TableSchema.Proofs.Table.Layouts
import TableSchema.Proofs.Table.Lines

/-!
# The grammar of tables

The lines that can be read as a table, and what the table holds then. All that is said here is said
about the lines as a whole, without a state that goes from one to the next.
-/

namespace TableSchema

/-- A column of records or of lists of records. -/
def ColumnLayout.HoldsRecords (column : ColumnLayout) : Prop :=
  ∃ fields, column.shape = .record fields

namespace Reading

variable (rules : Rules) (layout : Layout)

/-- The lines that have a key of their own. -/
def headLines (data : List Cells) : List Cells :=
  data.filter fun cells => keyCell layout cells ≠ []

/-- Every key stands for one row or for one set of rows. Rows all have a key; the first row of a set
has one. -/
def LegalKeys (data : List Cells) : Prop :=
  match layout.keyType with
  | .single =>
      (∀ cells ∈ data, keyCell layout cells ≠ []) ∧ (data.map (keyOf rules layout)).Nodup
  | .set =>
      (∀ cells ∈ data.head?, keyCell layout cells ≠ []) ∧
        ((headLines layout data).map (keyOf rules layout)).Nodup

/-- The lines of a table. -/
structure Grammar (lines : List Cells) : Prop where
  header : 2 ≤ lines.length
  counts : ∀ cells ∈ lines, cells.length = layout.columns.length
  names : lines[1]? = some (layout.columns.map (·.name.toList))
  records : ∀ cells ∈ lines.drop 2, ∀ entry ∈ layout.columns.zip cells, entry.1.HoldsRecords →
    (rules.readValue entry.1 entry.2).isSome
  keys : LegalKeys rules layout (lines.drop 2)

/-- The lines that have a key of their own, each with the lines that follow it without one. -/
def blocks : List Cells → List (Cells × List Cells)
  | [] => []
  | cells :: rest =>
      if keyCell layout cells = [] then blocks rest
      else (cells, rest.takeWhile fun later => keyCell layout later = []) :: blocks rest

/-- The entry that a line makes. -/
def rowEntry (cells : Cells) : Atom × Row :=
  (keyOf rules layout cells, rowOf rules layout cells)

/-- The entry that a block makes. Its key stands in all of its rows. -/
def setEntry (block : Cells × List Cells) : Atom × List Row :=
  let key := keyOf rules layout block.1
  (key, rowOf rules layout block.1 ::
    block.2.map fun cells => withKey layout key (rowOf rules layout cells))

/-- A table holds what its data lines say, and nothing else. -/
def Holds (data : List Cells) : Content → Prop
  | .rows entries =>
      layout.keyType = .single ∧ entries.toList.Perm (data.map (rowEntry rules layout))
  | .rowSets entries =>
      layout.keyType = .set ∧
        entries.toList.Perm ((blocks layout data).map (setEntry rules layout))

/-- Adds the row of a complete line to sets. -/
def addLine (sets : Sets) (cells : Cells) : Sets :=
  if keyCell layout cells = [] then
    match sets.lastKey with
    | none => sets
    | some key => sets.extend key (withKey layout key (rowOf rules layout cells))
  else sets.start (keyOf rules layout cells) (rowOf rules layout cells)

/-- Rows with the rows of complete lines. -/
def rowsFrom (rows : Keyed Row) (data : List Cells) : Keyed Row :=
  data.foldl (fun rows cells => rows.insert (keyOf rules layout cells) (rowOf rules layout cells))
    rows

/-- Sets with the rows of complete lines. -/
def setsFrom (sets : Sets) (data : List Cells) : Sets :=
  data.foldl (addLine rules layout) sets

/-- What the data lines of a table hold. -/
def contentOf (data : List Cells) : Content :=
  match layout.keyType with
  | .single => .rows (rowsFrom rules layout ∅ data)
  | .set => .rowSets (setsFrom rules layout .empty data).entries

variable {rules layout}


/-! ## Lines with and without a key -/

section AddLine

variable {cells : Cells}

theorem headLines_cons_of_empty (hempty : keyCell layout cells = []) (rest : List Cells) :
    headLines layout (cells :: rest) = headLines layout rest := by
  simp [headLines, hempty]

theorem headLines_cons_of_ne_nil (hne : keyCell layout cells ≠ []) (rest : List Cells) :
    headLines layout (cells :: rest) = cells :: headLines layout rest := by
  simp [headLines, hne]

theorem blocks_cons_of_ne_nil (hne : keyCell layout cells ≠ []) (rest : List Cells) :
    blocks layout (cells :: rest) =
      (cells, rest.takeWhile fun later => keyCell layout later = []) :: blocks layout rest := by
  rw [blocks, if_neg hne]

theorem addLine_of_empty (hempty : keyCell layout cells = []) (entries : Keyed (List Row))
    (key : Atom) (rows : List Row) :
    addLine rules layout ⟨entries.insert key rows, some key⟩ cells =
      ⟨entries.insert key (rows ++ [withKey layout key (rowOf rules layout cells)]), some key⟩ := by
  rw [addLine, if_pos hempty]
  simp [Sets.extend]

theorem addLine_of_ne_nil (hne : keyCell layout cells ≠ []) (sets : Sets) :
    addLine rules layout sets cells =
      ⟨sets.entries.insert (keyOf rules layout cells) [rowOf rules layout cells],
        some (keyOf rules layout cells)⟩ := by
  rw [addLine, if_neg hne, Sets.start]

end AddLine

/-! ## Values -/

theorem readValue_isSome_of_not_holdsRecords {column : ColumnLayout}
    (hcolumn : ¬ column.HoldsRecords) (cell : List Char) :
    (rules.readValue column cell).isSome := by
  obtain ⟨name, shape, isList⟩ := column
  cases shape with
  | record fields => exact absurd ⟨fields, rfl⟩ hcolumn
  | atom type =>
      have hlist : (rules.readList (.atom type) cell).isSome := by
        unfold Rules.readList
        split
        · rfl
        · exact mapM_isSome_iff.2 fun token _ => rfl
      cases isList with
      | false => rfl
      | true => simpa [Rules.readValue] using hlist

/-- A line can be decoded if its records can. -/
theorem decode?_isSome_iff {cells : Cells} : (decode? rules layout cells).isSome ↔
    ∀ entry ∈ layout.columns.zip cells, entry.1.HoldsRecords →
      (rules.readValue entry.1 entry.2).isSome := by
  rw [decode?, mapM_isSome_iff]
  constructor
  · intro h entry hentry _
    exact h entry hentry
  · intro h entry hentry
    by_cases hrecords : entry.1.HoldsRecords
    · exact h entry hentry hrecords
    · exact readValue_isSome_of_not_holdsRecords hrecords entry.2

/-! ## Reading succeeds -/

section Loop

variable (hkey : layout.keyIndex < layout.columns.length) {line : Nat} {data : List Cells}
include hkey

theorem eachLine_addRow_eq_ok_iff {rows last : Keyed Row} :
    eachLine (addRow rules layout) line rows data = .ok last ↔
      (∀ cells ∈ data, Complete rules layout cells) ∧
        (∀ cells ∈ data, keyCell layout cells ≠ []) ∧
        rows.Fresh (data.map (keyOf rules layout)) ∧ rowsFrom rules layout rows data = last := by
  induction data generalizing line rows with
  | nil => simp [eachLine, Keyed.fresh_nil, rowsFrom]
  | cons cells rest ih =>
      simp only [eachLine_cons_eq_ok_iff, addRow_eq_ok_iff hkey, ih, List.forall_mem_cons,
        List.map_cons, Keyed.fresh_cons_iff (rowOf rules layout cells), rowsFrom, List.foldl_cons]
      constructor
      · rintro ⟨_, ⟨hcomplete, hne, hnew, rfl⟩, hrest, hkeys, hfresh, hlast⟩
        exact ⟨⟨hcomplete, hrest⟩, ⟨hne, hkeys⟩, ⟨hnew, hfresh⟩, hlast⟩
      · rintro ⟨⟨hcomplete, hrest⟩, ⟨hne, hkeys⟩, ⟨hnew, hfresh⟩, hlast⟩
        exact ⟨_, ⟨hcomplete, hne, hnew, rfl⟩, hrest, hkeys, hfresh, hlast⟩

/-- Lines are added to sets one after the other. A set that is continued is there already. -/
theorem eachLine_addToSets_eq_ok_iff {sets last : Sets}
    (hheld : ∀ key, sets.lastKey = some key → sets.entries.contains key) :
    eachLine (addToSets rules layout) line sets data = .ok last ↔
      (∀ cells ∈ data, Complete rules layout cells) ∧
        (sets.lastKey = none → ∀ cells ∈ data.head?, keyCell layout cells ≠ []) ∧
        sets.entries.Fresh ((headLines layout data).map (keyOf rules layout)) ∧
        setsFrom rules layout sets data = last := by
  induction data generalizing line sets with
  | nil => simp [eachLine, Keyed.fresh_nil, headLines, setsFrom]
  | cons cells rest ih =>
      have hfrom : setsFrom rules layout sets (cells :: rest) =
          setsFrom rules layout (addLine rules layout sets cells) rest := rfl
      rw [eachLine_cons_eq_ok_iff, List.forall_mem_cons, hfrom, addLine]
      by_cases hempty : keyCell layout cells = []
      case pos =>
        rw [if_pos hempty, headLines_cons_of_empty hempty]
        simp only [addToSets_eq_ok_iff_of_empty hkey hempty]
        cases hlastKey : sets.lastKey with
        | none => simp [hempty]
        | some key =>
            let extended := sets.extend key (withKey layout key (rowOf rules layout cells))
            have hrest := @ih (line + 1) extended fun other hother => by
              obtain rfl : key = other := Option.some.inj (hlastKey.symm.trans hother)
              simp [extended, Sets.extend]
            have hkeys (keys : List Atom) :
                extended.entries.Fresh keys ↔ sets.entries.Fresh keys :=
              Keyed.fresh_insert_iff _ (hheld key hlastKey)
            rw [hkeys] at hrest
            simp only [Option.some.injEq, exists_eq_left']
            constructor
            · rintro ⟨_, ⟨hcomplete, rfl⟩, hread⟩
              obtain ⟨hall, -, hfresh, hlast⟩ := hrest.1 hread
              exact ⟨⟨hcomplete, hall⟩, fun h => absurd h (Option.some_ne_none key), hfresh, hlast⟩
            · rintro ⟨⟨hcomplete, hall⟩, -, hfresh, hlast⟩
              have hlastKey' : sets.lastKey ≠ none := by simp [hlastKey]
              exact ⟨_, ⟨hcomplete, rfl⟩,
                hrest.2 ⟨hall, fun h => absurd h hlastKey', hfresh, hlast⟩⟩
      case neg =>
        -- The line starts a set, whose key is there for the lines that follow.
        let started := sets.start (keyOf rules layout cells) (rowOf rules layout cells)
        have hrest := @ih (line + 1) started fun key h => by
          obtain rfl : keyOf rules layout cells = key := Option.some.inj h
          simp [started, Sets.start]
        rw [if_neg hempty, headLines_cons_of_ne_nil hempty, List.map_cons,
          Keyed.fresh_cons_iff [rowOf rules layout cells]]
        simp only [addToSets_eq_ok_iff_of_ne_nil hkey hempty]
        constructor
        · rintro ⟨_, ⟨hcomplete, hnew, rfl⟩, hread⟩
          obtain ⟨hall, -, hfresh, hlast⟩ := hrest.1 hread
          exact ⟨⟨hcomplete, hall⟩, by simp [hempty], ⟨hnew, hfresh⟩, hlast⟩
        · rintro ⟨⟨hcomplete, hall⟩, -, ⟨hnew, hfresh⟩, hlast⟩
          have hstarted : started.lastKey ≠ none := Option.some_ne_none _
          exact ⟨_, ⟨hcomplete, hnew, rfl⟩,
            hrest.2 ⟨hall, fun h => absurd h hstarted, hfresh, hlast⟩⟩

/-- Data lines are read if they are complete and their keys are legal. -/
theorem readData_eq_ok_iff {content : Content} :
    readData rules layout data = .ok content ↔
      (∀ cells ∈ data, Complete rules layout cells) ∧ LegalKeys rules layout data ∧
        contentOf rules layout data = content := by
  unfold readData LegalKeys contentOf
  cases layout.keyType with
  | single =>
      simp only [bind_eq_ok_iff, eachLine_addRow_eq_ok_iff hkey, Keyed.fresh_empty_iff, pure,
        Except.pure, Except.ok.injEq]
      constructor
      · rintro ⟨_, ⟨hcomplete, hkeys, hdistinct, rfl⟩, rfl⟩
        exact ⟨hcomplete, ⟨hkeys, hdistinct⟩, rfl⟩
      · rintro ⟨hcomplete, ⟨hkeys, hdistinct⟩, rfl⟩
        exact ⟨_, ⟨hcomplete, hkeys, hdistinct, rfl⟩, rfl⟩
  | set =>
      have hnone : Sets.empty.lastKey = none := rfl
      have hentries : Sets.empty.entries = ∅ := rfl
      have hloop (last : Sets) : eachLine (addToSets rules layout) 3 .empty data = .ok last ↔ _ :=
        eachLine_addToSets_eq_ok_iff hkey (by simp [hnone])
      simp only [bind_eq_ok_iff, hloop, hentries, Keyed.fresh_empty_iff, hnone, true_imp_iff, pure,
        Except.pure, Except.ok.injEq]
      constructor
      · rintro ⟨_, ⟨hcomplete, hhead, hdistinct, rfl⟩, rfl⟩
        exact ⟨hcomplete, ⟨hhead, hdistinct⟩, rfl⟩
      · rintro ⟨hcomplete, ⟨hhead, hdistinct⟩, rfl⟩
        exact ⟨_, ⟨hcomplete, hhead, hdistinct, rfl⟩, rfl⟩

/-- Lines are read if they obey the grammar. -/
theorem readLines_eq_ok_iff {lines : List Cells} {content : Content} :
    readLines rules layout lines = .ok content ↔
      Grammar rules layout lines ∧ contentOf rules layout (lines.drop 2) = content := by
  match lines with
  | [] =>
      have hnot : ¬ Grammar rules layout [] := fun h => by simpa using h.header
      simp [readLines, reject, hnot]
  | [comment] =>
      have hnot : ¬ Grammar rules layout [comment] := fun h => by simpa using h.header
      simp [readLines, reject, hnot]
  | comment :: names :: data =>
      simp only [readLines, then_eq_ok_iff, checkColumnCount_eq_ok_iff, readData_eq_ok_iff hkey]
      constructor
      · rintro ⟨hcomment, hnames, hcheck, hcomplete, hkeys, hcontent⟩
        rw [checkNames_eq_ok_iff hnames] at hcheck
        refine ⟨⟨by simp, ?_, by simp [hcheck], ?_, hkeys⟩, hcontent⟩
        · simp only [List.forall_mem_cons]
          exact ⟨hcomment, hnames, fun cells hcells => (hcomplete cells hcells).count⟩
        · exact fun cells hcells => decode?_isSome_iff.1 (hcomplete cells hcells).decodes
      · rintro ⟨⟨-, hcounts, hnames, hrecords, hkeys⟩, hcontent⟩
        simp only [List.forall_mem_cons] at hcounts
        obtain ⟨hcomment, hcount, hdata⟩ := hcounts
        have hcheck : names = layout.columns.map (·.name.toList) := by simpa using hnames
        refine ⟨hcomment, hcount, (checkNames_eq_ok_iff hcount).2 hcheck, ?_, hkeys, hcontent⟩
        exact fun cells hcells =>
          ⟨hdata cells hcells, decode?_isSome_iff.2 (hrecords cells hcells)⟩

end Loop

/-! ## What is held -/

theorem rowsFrom_perm {rows : Keyed Row} {data : List Cells}
    (hfresh : rows.Fresh (data.map (keyOf rules layout))) :
    (rowsFrom rules layout rows data).toList.Perm
      (data.map (rowEntry rules layout) ++ rows.toList) := by
  induction data generalizing rows with
  | nil => exact .refl _
  | cons cells rest ih =>
      rw [List.map_cons, Keyed.fresh_cons_iff (rowOf rules layout cells)] at hfresh
      have hrest := ih hfresh.2
      have hinserted := Keyed.insert_perm (rowOf rules layout cells) hfresh.1
      exact hrest.trans ((hinserted.append_left _).trans List.perm_middle)

/-- The sets that are held after more lines have been added to the last one: the last one continued
by the lines up to the next key, the blocks, and what was there before. -/
theorem setsFrom_perm {base : Keyed (List Row)} {key : Atom} {rows : List Row} {data : List Cells}
    (hnew : base.contains key = false)
    (hfresh : (base.insert key rows).Fresh ((headLines layout data).map (keyOf rules layout))) :
    (setsFrom rules layout ⟨base.insert key rows, some key⟩ data).entries.toList.Perm
      ((key, rows ++ (data.takeWhile fun cells => keyCell layout cells = []).map fun cells =>
          withKey layout key (rowOf rules layout cells)) ::
        ((blocks layout data).map (setEntry rules layout) ++ base.toList)) := by
  induction data generalizing base key rows with
  | nil => simpa [setsFrom, blocks] using Keyed.insert_perm rows hnew
  | cons cells rest ih =>
      have hfrom (sets : Sets) : setsFrom rules layout sets (cells :: rest) =
          setsFrom rules layout (addLine rules layout sets cells) rest := rfl
      rw [hfrom]
      by_cases hempty : keyCell layout cells = []
      case pos =>
        have hheld : (base.insert key rows).contains key := by simp
        rw [headLines_cons_of_empty hempty, ← Keyed.fresh_insert_iff
          (rows ++ [withKey layout key (rowOf rules layout cells)]) hheld,
          Keyed.insert_insert] at hfresh
        have hrest := ih hnew hfresh
        rw [addLine_of_empty hempty]
        simpa [blocks, hempty] using hrest
      case neg =>
        rw [headLines_cons_of_ne_nil hempty, List.map_cons,
          Keyed.fresh_cons_iff [rowOf rules layout cells]] at hfresh
        have hrest := ih hfresh.1 hfresh.2
        have hinserted := Keyed.insert_perm rows hnew
        have hnone : ((cells :: rest).takeWhile fun later => keyCell layout later = []) = [] := by
          simp [hempty]
        rw [addLine_of_ne_nil hempty, blocks_cons_of_ne_nil hempty, hnone, List.map_nil,
          List.append_nil, List.map_cons]
        apply hrest.trans
        -- The last set is complete now and goes to those that were there before.
        refine ((hinserted.append_left _).trans List.perm_middle).cons _ |>.trans ?_
        exact .swap _ _ _

theorem contentOf_holds {data : List Cells} (hkeys : LegalKeys rules layout data) :
    Holds rules layout data (contentOf rules layout data) := by
  unfold LegalKeys at hkeys
  unfold contentOf
  cases htype : layout.keyType with
  | single =>
      rw [htype] at hkeys
      have hperm := rowsFrom_perm (Keyed.fresh_empty_iff.2 hkeys.2)
      exact ⟨htype, by simpa using hperm⟩
  | set =>
      rw [htype] at hkeys
      obtain ⟨hhead, hdistinct⟩ := hkeys
      refine ⟨htype, ?_⟩
      cases data with
      | nil => exact .refl _
      | cons cells rest =>
          have hne : keyCell layout cells ≠ [] := hhead cells rfl
          rw [headLines_cons_of_ne_nil hne, List.map_cons, ← Keyed.fresh_empty_iff,
            Keyed.fresh_cons_iff [rowOf rules layout cells]] at hdistinct
          have hperm := setsFrom_perm hdistinct.1 hdistinct.2
          have hfrom : setsFrom rules layout .empty (cells :: rest) =
              setsFrom rules layout (addLine rules layout .empty cells) rest := rfl
          rw [hfrom, addLine_of_ne_nil hne, blocks_cons_of_ne_nil hne]
          simpa [setEntry, Sets.empty] using hperm

/-- The reader of a verified table accepts just the texts whose lines obey the grammar, and holds
what their data lines say. It never asks for a cell that is not there. -/
theorem accepts_iff_grammar {schema : Schema} {table : Table}
    (hverified : schema.verify = .ok schema) (htable : table ∈ schema.tables.toList) :
    ∃ layout, schema.layout? table = some layout ∧ ∀ text,
      readTable .rust layout text ≠ .error .outOfRange ∧
      ((∃ content, readTable .rust layout text = .ok content) ↔
        Grammar .rust layout (rowsOf Cell.unquote text)) ∧
      ∀ content, readTable .rust layout text = .ok content →
        Holds .rust layout ((rowsOf Cell.unquote text).drop 2) content := by
  obtain ⟨layout, hlayout, hsound⟩ := Schema.exists_sound_layout hverified htable
  have hkey := hsound.keyIndex_lt
  refine ⟨layout, hlayout, fun text => ⟨readLines_staysInRange hkey _, ?_, ?_⟩⟩
  · constructor
    · intro ⟨content, hread⟩
      exact ((readLines_eq_ok_iff hkey).1 hread).1
    · intro hgrammar
      exact ⟨_, (readLines_eq_ok_iff hkey).2 ⟨hgrammar, rfl⟩⟩
  · intro content hread
    obtain ⟨hgrammar, rfl⟩ := (readLines_eq_ok_iff hkey).1 hread
    exact contentOf_holds hgrammar.keys

open Example in
theorem readTable_goodsText : ∃ content, readTable .rust goodsLayout goodsText = .ok content :=
  isSome_toOption_iff.1 (by decide +kernel)

open Example in
theorem goodsText_obeys_grammar :
    market.verify = .ok market ∧ goods ∈ market.tables.toList ∧
      ∃ layout, market.layout? goods = some layout ∧
        Grammar .rust layout (rowsOf Cell.unquote goodsText) := by
  obtain ⟨layout, hlayout, hreads⟩ := accepts_iff_grammar verify_market goods_mem_market
  obtain rfl : goodsLayout = layout := Option.some.inj (layout?_goods.symm.trans hlayout)
  exact ⟨verify_market, goods_mem_market, goodsLayout, layout?_goods,
    (hreads goodsText).2.1.1 readTable_goodsText⟩

end Reading

end TableSchema
