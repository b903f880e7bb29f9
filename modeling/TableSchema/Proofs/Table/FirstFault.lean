import TableSchema.Proofs.Table.LineChecks
import TableSchema.Proofs.Table.LineEnds

/-!
# The first fault of a text

Lines are taken up one after the other until one of them is at fault, and what follows that one is
not looked at. So the lines up to the one that a fault names settle that it is found, and a text
that ends before this line is read, unless it has no data lines yet.
-/

namespace TableSchema.Reading

/-- The fault of the first line that is at fault. What is checked in a line may depend on the lines
before it. -/
def linesFault (checks : List Cells → Cells → List Check) :
    List Cells → List Cells → Option TableFault
  | _, [] => none
  | before, cells :: after =>
      (firstFault (checks before cells)).or (linesFault checks (before ++ [cells]) after)

section LinesFault

variable {checks : List Cells → Cells → List Check} {before lines : List Cells}
  {fault : TableFault}

theorem linesFault_append (passed : List Cells) :
    linesFault checks before (passed ++ lines) =
      (linesFault checks before passed).or (linesFault checks (before ++ passed) lines) := by
  induction passed generalizing before with
  | nil => rw [List.append_nil, linesFault, Option.none_or, List.nil_append]
  | cons cells passed ih =>
      rw [List.cons_append, linesFault, linesFault, ih, Option.or_assoc, List.append_assoc,
        List.singleton_append]

/-- A fault is that of a line before which there is none. -/
theorem linesFault_eq_some_iff : linesFault checks before lines = some fault ↔
    ∃ passed cells after, lines = passed ++ cells :: after ∧
      linesFault checks before passed = none ∧
      firstFault (checks (before ++ passed) cells) = some fault := by
  constructor
  · intro hfault
    induction lines generalizing before with
    | nil => cases hfault
    | cons cells after ih =>
        rcases Option.or_eq_some_iff.1 hfault with hcells | ⟨hcells, hafter⟩
        · exact ⟨[], cells, after, rfl, rfl, by rwa [List.append_nil]⟩
        · obtain ⟨passed, last, rest, rfl, hpassed, hlast⟩ := ih hafter
          refine ⟨cells :: passed, last, rest, rfl, ?_, ?_⟩
          · rw [linesFault, hcells, hpassed, Option.none_or]
          · rwa [List.append_assoc] at hlast
  · rintro ⟨passed, cells, after, rfl, hpassed, hcells⟩
    rw [linesFault_append, hpassed, Option.none_or, linesFault, hcells, Option.some_or]

end LinesFault

variable {rules : Rules} {layout : Layout}

/-! ## Data lines -/

section Loop

variable {σ : Type} {takeUp : Nat → σ → Cells → Attempt TableFault σ} {comment names : Cells}

/-- Data lines are taken up until one of them is at fault, if each of them is taken up just if it
passes its checks. The state has to tell about the lines before. -/
theorem eachLine_eq_verdict {next : σ → Cells → σ} (Tells : List Cells → σ → Prop)
    (hstep : ∀ earlier state cells, Tells earlier state →
      takeUp (earlier.length + 3) state cells =
        outcome (lineChecks rules layout (comment :: names :: earlier) cells) (next state cells))
    (hnext : ∀ earlier state cells, Tells earlier state →
      firstFault (lineChecks rules layout (comment :: names :: earlier) cells) = none →
      Tells (earlier ++ [cells]) (next state cells))
    {earlier : List Cells} {state : σ} (htells : Tells earlier state) (data : List Cells) :
    eachLine takeUp (earlier.length + 3) state data =
      verdict (linesFault (lineChecks rules layout) (comment :: names :: earlier) data)
        (data.foldl next state) := by
  induction data generalizing earlier state with
  | nil => rfl
  | cons cells rest ih =>
      rw [eachLine, hstep earlier state cells htells, linesFault, outcome]
      cases hcells : firstFault (lineChecks rules layout (comment :: names :: earlier) cells) with
      | some fault => rfl
      | none =>
          have hrest := ih (hnext earlier state cells htells hcells)
          rw [List.length_append, List.length_singleton, Nat.add_right_comm] at hrest
          exact hrest

end Loop

theorem outcome_bind_verdict {α : Type} (checks : List Check) (fault : Option TableFault)
    (result : α) : (outcome checks () >>= fun _ => verdict fault result) =
      verdict ((firstFault checks).or fault) result := by
  rw [outcome]
  cases firstFault checks with
  | none => rfl
  | some fault => rfl

theorem verdict_map {α β : Type} (fault : Option TableFault) (result : α) (f : α → β) :
    (verdict fault result >>= fun a => pure (f a)) = verdict fault (f result) := by
  cases fault with
  | none => rfl
  | some fault => rfl

/-- A line that passes its checks has a key of its own, or goes on with a set. -/
theorem continues_of_passes {line : Nat} {earlier : List Cells} {cells : Cells}
    (hpasses : firstFault (dataChecks rules layout line earlier cells) = none)
    (hempty : keyCell layout cells = []) :
    layout.keyType = .set ∧ headLines layout earlier ≠ [] := by
  have hkeyCheck := firstFault_eq_none_iff.1 hpasses (keyCheck layout line earlier cells)
    (by simp [dataChecks])
  simpa [keyCheck, hempty] using hkeyCheck

section Data

variable (hkey : layout.keyIndex < layout.columns.length) (comment names : Cells)
  (data : List Cells)
include hkey

theorem eachLine_addRow_eq_verdict (hkeyType : layout.keyType = .single) :
    eachLine (addRow rules layout) 3 ∅ data =
      verdict (linesFault (lineChecks rules layout) [comment, names] data)
        (rowsFrom rules layout ∅ data) := by
  let Tells (earlier : List Cells) (rows : Keyed Row) : Prop :=
    ∀ key, rows.contains key ↔ key ∈ (headLines layout earlier).map (keyOf rules layout)
  have hempty : Tells [] ∅ := fun key => by simp [headLines]
  refine eachLine_eq_verdict Tells ?_ ?_ hempty data
  · intro earlier rows cells hkeys
    exact addRow_eq_outcome hkey hkeyType hkeys
  · intro earlier rows cells hkeys hpasses
    refine contains_insert_keyOf (fun hnone => ?_) hkeys _
    cases hkeyType.symm.trans (continues_of_passes hpasses hnone).1

theorem eachLine_addToSets_eq_verdict (hkeyType : layout.keyType = .set) :
    eachLine (addToSets rules layout) 3 .empty data =
      verdict (linesFault (lineChecks rules layout) [comment, names] data)
        (setsFrom rules layout .empty data) := by
  refine eachLine_eq_verdict (Reflects rules layout) ?_ ?_ reflects_empty data
  · intro earlier sets cells hreflects
    exact addToSets_eq_outcome hkey hkeyType hreflects
  · intro earlier sets cells hreflects hpasses
    refine hreflects.addLine fun hnone hlast => ?_
    exact (continues_of_passes hpasses hnone).2 (hreflects.lastKey.1 hlast)

/-- Data lines are read if none of them is at fault, and are rejected with the first fault
otherwise. -/
theorem readData_eq_verdict :
    readData rules layout data =
      verdict (linesFault (lineChecks rules layout) [comment, names] data)
        (contentOf rules layout data) := by
  unfold readData contentOf
  cases hkeyType : layout.keyType with
  | single =>
      dsimp only
      rw [eachLine_addRow_eq_verdict hkey comment names data hkeyType]
      exact verdict_map _ _ _
  | set =>
      dsimp only
      rw [eachLine_addToSets_eq_verdict hkey comment names data hkeyType]
      exact verdict_map _ _ _

end Data

/-! ## All lines -/

theorem readLines_singleton (comment : Cells) :
    readLines rules layout [comment] =
      (verdict (linesFault (lineChecks rules layout) [] [comment]) () >>= fun _ =>
        reject .missingNameLine) := by
  rw [readLines, checkColumnCount_eq_outcome, linesFault, linesFault, Option.or_none]
  rfl

/-- Two lines or more are read if none of them is at fault, and are rejected with the first fault
otherwise. -/
theorem readLines_eq_verdict (hkey : layout.keyIndex < layout.columns.length) {lines : List Cells}
    (hheader : 2 ≤ lines.length) :
    readLines rules layout lines =
      verdict (linesFault (lineChecks rules layout) [] lines)
        (contentOf rules layout (lines.drop 2)) := by
  match lines with
  | [] => simp at hheader
  | [_] => simp at hheader
  | comment :: names :: data =>
      have hcount : linesFault (lineChecks rules layout) [] (comment :: names :: data) =
          (firstFault [countCheck layout 1 comment]).or
            ((firstFault ([countCheck layout 2 names] ++ nameChecks layout names)).or
              (linesFault (lineChecks rules layout) [comment, names] data)) := rfl
      rw [readLines, checkColumnCount_eq_outcome, checkColumnCount_eq_outcome,
        checkNames_eq_outcome, readData_eq_verdict hkey comment names, outcome_bind_verdict,
        outcome_bind_verdict, outcome_bind_verdict, hcount, firstFault_append, Option.or_assoc]
      rfl

theorem verdict_eq_reject_iff {α : Type} {found : Option TableFault} {result : α}
    {fault : TableFault} : verdict found result = reject fault ↔ found = some fault := by
  cases found with
  | none => simp [verdict, reject]
  | some other => simp [verdict, reject]

/-- Lines are rejected with the fault of the first line that is at fault, if it is not for a line
that is missing. -/
theorem readLines_eq_reject_iff (hkey : layout.keyIndex < layout.columns.length)
    {lines : List Cells} {fault : TableFault} (hcomment : fault ≠ .missingCommentLine)
    (hname : fault ≠ .missingNameLine) :
    readLines rules layout lines = reject fault ↔
      linesFault (lineChecks rules layout) [] lines = some fault := by
  match lines with
  | [] => simp [readLines, linesFault, reject, hcomment.symm]
  | [comment] =>
      rw [readLines_singleton]
      cases linesFault (lineChecks rules layout) [] [comment] with
      | none => simp [verdict, reject, bind, Except.bind, hname.symm]
      | some other => simp [verdict, reject, bind, Except.bind]
  | comment :: names :: data =>
      rw [readLines_eq_verdict hkey (by simp), verdict_eq_reject_iff]

/-- Lines before which there is no fault, the last of which is at fault, settle what is found,
whatever follows. -/
theorem readLines_of_take {lines others : List Cells}
    (hkey : layout.keyIndex < layout.columns.length) {fault : TableFault}
    (hcomment : fault ≠ .missingCommentLine) (hname : fault ≠ .missingNameLine)
    (hlines : linesFault (lineChecks rules layout) [] (lines.take fault.line) = some fault)
    (htake : others.take fault.line = lines.take fault.line) :
    readLines rules layout others = reject fault := by
  rw [readLines_eq_reject_iff hkey hcomment hname, ← List.take_append_drop fault.line others,
    htake, linesFault_append, hlines, Option.some_or]

/-- The reader of a verified table goes up to the first line that is at fault, and no further. The
line that a fault names is there; a text with the same lines up to this one is rejected for the same
fault; the data lines before it are read if nothing follows them; and the fault is that of the first
check that fails in the line. -/
theorem rejects_at_first_fault {schema : Schema} {table : Table}
    (hverified : schema.verify = .ok schema) (htable : table ∈ schema.tables.toList) :
    ∃ layout, schema.layout? table = some layout ∧ ∀ text fault,
      readTable .rust layout text = reject fault →
      fault ≠ .missingCommentLine → fault ≠ .missingNameLine →
      let lines := rowsOf Cell.unquote text
      1 ≤ fault.line ∧ fault.line ≤ lines.length ∧
      (∀ other, (rowsOf Cell.unquote other).take fault.line = lines.take fault.line →
        readTable .rust layout other = reject fault) ∧
      (3 ≤ fault.line →
        rowsOf Cell.unquote (leadingLines (fault.line - 1) text) = lines.take (fault.line - 1) ∧
        ∀ start, rowsOf Cell.unquote start = lines.take (fault.line - 1) →
          ∃ content, readTable .rust layout start = .ok content) ∧
      ∃ cells, lines[fault.line - 1]? = some cells ∧
        firstFault (lineChecks .rust layout (lines.take (fault.line - 1)) cells) = some fault := by
  obtain ⟨layout, hlayout, hsound⟩ := Schema.exists_sound_layout hverified htable
  have hkey := hsound.keyIndex_lt
  refine ⟨layout, hlayout, fun text fault hread hcomment hname => ?_⟩
  intro lines
  have hlines : linesFault (lineChecks .rust layout) [] lines = some fault :=
    (readLines_eq_reject_iff hkey hcomment hname).1 hread
  obtain ⟨passed, cells, after, hsplit, hpassed, hcells⟩ := linesFault_eq_some_iff.1 hlines
  have hline : fault.line = passed.length + 1 := line_of_firstFault hcells
  have hbefore : lines.take (fault.line - 1) = passed := by
    rw [hline, hsplit, Nat.add_sub_cancel, List.take_left]
  have hlast : lines.take fault.line = passed ++ [cells] := by
    rw [hline, hsplit, List.take_length_add_append, List.take_succ_cons, List.take_zero]
  refine ⟨by omega, by simp [hsplit, hline], ?_, ?_, cells, ?_, ?_⟩
  · intro other hother
    refine readLines_of_take hkey hcomment hname ?_ hother
    rw [hlast]
    exact linesFault_eq_some_iff.2 ⟨passed, cells, [], rfl, hpassed, hcells⟩
  · intro hdata
    refine ⟨rowsOf_leadingLines _ _ text, fun start hstart => ?_⟩
    have hheader : 2 ≤ passed.length := by omega
    have hrows : rowsOf Cell.unquote start = passed := hstart.trans hbefore
    refine ⟨contentOf .rust layout (passed.drop 2), ?_⟩
    rw [readTable, show Rules.rust.unquote = Cell.unquote from rfl, hrows,
      readLines_eq_verdict hkey hheader, hpassed, verdict]
  · rw [hline, hsplit, Nat.add_sub_cancel, List.getElem?_append_right (Nat.le_refl _)]
    simp
  · rwa [hbefore]

/-- Goods the second data line of which has a price without a count, and the key of the first. -/
def spoiledGoodsText : String :=
  "Note\tStall\tWare\tPrices\r\n" ++
  "note\tstall\tware\tprices\r\n" ++
  "\t3\tfish\tgold;2\r\n" ++
  "\t3\tpot\tgold\r\n"

open Example in
/-- The line is rejected for its price, whatever follows it, and not for its key. -/
theorem spoiledGoods_rejected_for_price :
    market.verify = .ok market ∧ goods ∈ market.tables.toList ∧
      readTable .rust goodsLayout spoiledGoodsText = reject (.invalidValue 4 "prices") ∧
      keyOf .rust goodsLayout ((rowsOf Cell.unquote spoiledGoodsText).getD 3 []) = .int 3 ∧
      (∃ content,
        readTable .rust goodsLayout (leadingLines 3 spoiledGoodsText) = .ok content) ∧
      readTable .rust goodsLayout (spoiledGoodsText ++ "\t\tmore") =
        reject (.invalidValue 4 "prices") := by
  obtain ⟨layout, hlayout, hrejects⟩ := rejects_at_first_fault verify_market goods_mem_market
  obtain rfl : goodsLayout = layout := Option.some.inj (layout?_goods.symm.trans hlayout)
  have hkey : goodsLayout.keyIndex < goodsLayout.columns.length := by decide
  have hread : readTable .rust goodsLayout spoiledGoodsText =
      reject (.invalidValue 4 "prices") := by
    rw [readTable, readLines_eq_reject_iff hkey (by decide) (by decide)]
    decide +kernel
  obtain ⟨-, -, hother, hstart, -⟩ :=
    hrejects spoiledGoodsText _ hread (by decide) (by decide)
  obtain ⟨hleading, hbefore⟩ := hstart (by decide)
  refine ⟨verify_market, goods_mem_market, hread, by decide +kernel, ?_, ?_⟩
  · exact hbefore _ hleading
  · exact hother _ (by decide +kernel)

end TableSchema.Reading
