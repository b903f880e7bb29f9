import TableSchema.Proofs.Table.Decoding
import TableSchema.Proofs.Table.GeneratedParsers
import TableSchema.Proofs.Table.Reports
import TableSchema.Table.Session

/-!
# Agreement of the readers

The readers of both languages agree on whole sessions, unless they come upon an integer whose blanks
only one of them knows.
-/

namespace TableSchema

namespace Reading

/-! ## Lines that are taken up -/

section Reached

variable {ε σ : Type}

/-- The lines that are taken up, each with the state in which it is: those up to the first one that
fails. -/
def reached (takeUp : Nat → σ → Cells → Attempt ε σ) : Nat → σ → List Cells → List (σ × Cells)
  | _, _, [] => []
  | line, state, cells :: rest =>
      (state, cells) ::
        match takeUp line state cells with
        | .ok next => reached takeUp (line + 1) next rest
        | .error _ => []

theorem eachLine_congr_reached {takeUp other : Nat → σ → Cells → Attempt ε σ} {line : Nat}
    {state : σ} {lines : List Cells}
    (hsame : ∀ entry ∈ reached takeUp line state lines, ∀ line,
      takeUp line entry.1 entry.2 = other line entry.1 entry.2) :
    eachLine takeUp line state lines = eachLine other line state lines := by
  induction lines generalizing line state with
  | nil => rfl
  | cons cells rest ih =>
      rw [reached, List.forall_mem_cons] at hsame
      rw [eachLine, eachLine, ← hsame.1 line]
      cases hnext : takeUp line state cells with
      | error e => rfl
      | ok next =>
          have hrest := hsame.2
          rw [hnext] at hrest
          exact ih hrest

end Reached

variable (rules : Rules) (layout : Layout)

/-- The tokens of data lines that are decoded as integers. A line is decoded if it has a cell for
each column and a key, be it of its own or that of the last set. -/
def dataInts (data : List Cells) : List (List Char) :=
  match layout.keyType with
  | .single =>
      ((reached (addRow rules layout) 3 ∅ data).filter fun (_, cells) =>
        cells.length = layout.columns.length ∧ keyCell layout cells ≠ []).flatMap
          fun (_, cells) => rules.lineInts layout cells
  | .set =>
      ((reached (addToSets rules layout) 3 .empty data).filter fun (sets, cells) =>
        cells.length = layout.columns.length ∧
          (keyCell layout cells ≠ [] ∨ sets.lastKey ≠ none)).flatMap
          fun (_, cells) => rules.lineInts layout cells

/-- The tokens of a text that are decoded as integers. Without proper header lines there are
none. -/
def textInts (text : String) : List (List Char) :=
  match rowsOf rules.unquote text with
  | comment :: names :: data =>
      if comment.length = layout.columns.length ∧ names = layout.columns.map (·.name.toList) then
        dataInts rules layout data
      else []
  | _ => []

variable {layout}

/-! ## The same by both rules -/

section Line

variable {line : Nat} {cells : Cells} (hsound : layout.Sound)
include hsound

/-- What is done with a row and its key is the same by both rules. -/
theorem readRow_bind_rust_eq {α : Type} (hlength : cells.length = layout.columns.length)
    (hascii : ∀ int ∈ Rules.lineInts .rust layout cells, Integer.AsciiBlanks int)
    (next : Atom → Row → Attempt TableFault α) :
    (readRow .rust layout line cells >>= next (keyOf .rust layout cells)) =
      readRow .cpp layout line cells >>= next (keyOf .cpp layout cells) := by
  rw [← readRow_rust_eq hlength hascii]
  apply bind_congr_ok
  intro row hrow
  have hdecodes := ((readRow_eq_ok_iff hlength).1 hrow).1.decodes
  have hkey : keyOf .rust layout cells = keyOf .cpp layout cells :=
    readKey_rust_eq hlength hascii hsound hdecodes
  rw [hkey]

theorem addRow_rust_eq (rows : Keyed Row)
    (hints : cells.length = layout.columns.length → keyCell layout cells ≠ [] →
      ∀ int ∈ Rules.lineInts .rust layout cells, Integer.AsciiBlanks int) :
    addRow .rust layout line rows cells = addRow .cpp layout line rows cells := by
  by_cases hlength : cells.length = layout.columns.length
  case neg => simp [addRow, checkColumnCount, hlength, reject, bind, Except.bind]
  case pos =>
    rw [addRow_of_count hsound.keyIndex_lt hlength, addRow_of_count hsound.keyIndex_lt hlength]
    by_cases hempty : keyCell layout cells = []
    · rw [if_pos hempty, if_pos hempty]
    · rw [if_neg hempty, if_neg hempty]
      exact readRow_bind_rust_eq hsound hlength (hints hlength hempty) fun key row => do
        checkNew layout line rows key
        return rows.insert key row

theorem addToSets_rust_eq (sets : Sets)
    (hints : cells.length = layout.columns.length →
      keyCell layout cells ≠ [] ∨ sets.lastKey ≠ none →
      ∀ int ∈ Rules.lineInts .rust layout cells, Integer.AsciiBlanks int) :
    addToSets .rust layout line sets cells = addToSets .cpp layout line sets cells := by
  by_cases hlength : cells.length = layout.columns.length
  case neg => simp [addToSets, checkColumnCount, hlength, reject, bind, Except.bind]
  case pos =>
    rw [addToSets_of_count hsound.keyIndex_lt hlength,
      addToSets_of_count hsound.keyIndex_lt hlength]
    by_cases hempty : keyCell layout cells = []
    · rw [if_pos hempty, if_pos hempty]
      cases hlastKey : sets.lastKey with
      | none => rfl
      | some key =>
          have hascii := hints hlength (.inr (by simp [hlastKey]))
          dsimp only
          rw [← readRow_rust_eq hlength hascii]
    · rw [if_neg hempty, if_neg hempty]
      exact readRow_bind_rust_eq hsound hlength (hints hlength (.inl hempty)) fun key row => do
        checkNew layout line sets.entries key
        return sets.start key row

end Line

theorem readData_rust_eq (hsound : layout.Sound) {data : List Cells}
    (hints : ∀ int ∈ dataInts .rust layout data, Integer.AsciiBlanks int) :
    readData .rust layout data = readData .cpp layout data := by
  unfold dataInts at hints
  unfold readData
  cases hkeyType : layout.keyType with
  | single =>
      rw [hkeyType] at hints
      have hloop : eachLine (addRow .rust layout) 3 ∅ data =
          eachLine (addRow .cpp layout) 3 ∅ data := by
        -- The rules need to agree on the lines that are reached only.
        refine eachLine_congr_reached fun (rows, cells) hreached line => ?_
        refine addRow_rust_eq hsound rows fun hlength hkey int hint => hints int ?_
        refine List.mem_flatMap.2 ⟨(rows, cells), List.mem_filter.2 ⟨hreached, ?_⟩, hint⟩
        exact decide_eq_true ⟨hlength, hkey⟩
      dsimp only
      rw [hloop]
  | set =>
      rw [hkeyType] at hints
      have hloop : eachLine (addToSets .rust layout) 3 .empty data =
          eachLine (addToSets .cpp layout) 3 .empty data := by
        refine eachLine_congr_reached fun (sets, cells) hreached line => ?_
        refine addToSets_rust_eq hsound sets fun hlength hkey int hint => hints int ?_
        refine List.mem_flatMap.2 ⟨(sets, cells), List.mem_filter.2 ⟨hreached, ?_⟩, hint⟩
        exact decide_eq_true ⟨hlength, hkey⟩
      dsimp only
      rw [hloop]

/-- The rules of both languages read a text alike. -/
theorem readTable_rust_eq (hsound : layout.Sound) {text : String}
    (hints : ∀ int ∈ textInts .rust layout text, Integer.AsciiBlanks int) :
    readTable .rust layout text = readTable .cpp layout text := by
  have hunquote : Rules.cpp.unquote = Rules.rust.unquote := Cell.unquote_eq_unquoteSkipping.symm
  unfold textInts at hints
  unfold readTable
  rw [hunquote]
  match hlines : rowsOf Rules.rust.unquote text with
  | [] => rfl
  | [comment] => rfl
  | comment :: names :: data =>
      rw [hlines] at hints
      rw [readLines, readLines]
      refine bind_congr_ok fun _ hcomment => bind_congr_ok fun _ hcount =>
        bind_congr_ok fun _ hcheck => ?_
      have hlength := checkColumnCount_eq_ok_iff.1 hcount
      have hheader : comment.length = layout.columns.length ∧
          names = layout.columns.map (·.name.toList) :=
        ⟨checkColumnCount_eq_ok_iff.1 hcomment, (checkNames_eq_ok_iff hlength).1 hcheck⟩
      dsimp only at hints
      rw [if_pos hheader] at hints
      exact readData_rust_eq hsound hints

end Reading

/-! ## Sessions -/

/-- What C++ says of a fault: the first 1023 bytes of the report. A report with more bytes than an
`int` can count is not formatted, and nothing is said of its fault. -/
def TableFault.ShownAs (fault : TableFault) (text : CppReading.ErrorText) : Prop :=
  let report := Bytes.encode fault.report.toList
  if report.length ≤ 2147483647 then text <+: report ∧ text.length = min 1023 report.length
  else text = []

theorem CppReading.shownAs_errorText (fault : TableFault) : fault.ShownAs (errorText fault) := by
  unfold TableFault.ShownAs errorText Printf.countLimit
  dsimp only
  split
  · exact ⟨List.take_prefix _ _, List.length_take⟩
  · rfl

/-- The answers of both tables to a step agree: a text is read by both or rejected by both, for the
same fault, and the same is found. -/
inductive AnswersAgree : CppTable.Answer → RustTable.Answer → Prop
  | success : AnswersAgree (.parsed (some true) []) (.parsed (.ok ()))
  | failure {fault : TableFault} {text : CppReading.ErrorText} (hshown : fault.ShownAs text) :
      AnswersAgree (.parsed (some false) text) (.parsed (.error (.fault fault)))
  | found (found? : Option Found) : AnswersAgree (.found found?) (.found found?)

/-- What two tables give at a step, with what there is after it: their answers agree, and they hold
the same rows. -/
structure RepliesAgree (cpp : CppTable.Answer × CppTable) (rust : RustTable.Answer × Content) :
    Prop where
  answers : AnswersAgree cpp.1 rust.1
  rows : cpp.2.rows = rust.2

/-- A session in which the reader comes upon no integer whose blanks are not all ASCII. -/
def AsciiSession (layout : Layout) (steps : List SessionStep) : Prop :=
  ∀ text, .read text ∈ steps →
    ∀ int ∈ Reading.textInts .rust layout text, Integer.AsciiBlanks int

theorem Session.run_cons {σ α : Type} (step : SessionStep → StateM σ α) (next : SessionStep)
    (rest : List SessionStep) (state : σ) :
    run step (next :: rest) state =
      (step next).run state :: run step rest ((step next).run state).2 := by
  rw [run, List.mapM_cons]
  rfl

section Sessions

variable {layout : Layout}

/-- Each table does the same with what was read: C++ exchanges it for its rows, Rust assigns it. -/
theorem steps_agree {next : SessionStep} (hsound : layout.Sound)
    (hascii : ∀ text, .read text = next →
      ∀ int ∈ Reading.textInts .rust layout text, Integer.AsciiBlanks int)
    {here : CppTable} {there : Content} (hrows : here.rows = there) :
    RepliesAgree ((CppTable.step layout next).run here)
      ((RustTable.step layout next).run there) := by
  subst hrows
  cases next with
  | find key => exact ⟨.found _, rfl⟩
  | read text =>
      have hread : CppReading.readTable layout text =
          CppReading.reported (readTable .rust layout text) := by
        rw [Reading.readTable_rust_eq hsound (hascii text rfl),
          CppReading.readTable_eq_reported hsound]
      cases hresult : readTable .rust layout text with
      | ok rows =>
          rw [hresult] at hread
          simp only [CppTable.step, CppTable.parse, RustTable.step, RustTable.parse, hread, hresult]
          exact ⟨.success, rfl⟩
      | error interruption =>
          cases interruption with
          | outOfRange => exact absurd hresult (Reading.readLines_staysInRange hsound.keyIndex_lt _)
          | fault fault =>
              rw [hresult] at hread
              simp only [CppTable.step, CppTable.parse, RustTable.step, RustTable.parse, hread,
                hresult]
              exact ⟨.failure (CppReading.shownAs_errorText fault), rfl⟩

theorem runs_agree {steps : List SessionStep} (hsound : layout.Sound)
    (hascii : AsciiSession layout steps) {here : CppTable} {there : Content}
    (hrows : here.rows = there) :
    List.Forall₂ RepliesAgree (Session.run (CppTable.step layout) steps here)
      (Session.run (RustTable.step layout) steps there) := by
  induction steps generalizing here there with
  | nil => exact .nil
  | cons next rest ih =>
      have hnext := steps_agree hsound
        (fun text htext => hascii text (htext ▸ List.mem_cons_self)) hrows
      rw [Session.run_cons, Session.run_cons]
      exact .cons hnext
        (ih (fun text htext => hascii text (List.mem_cons_of_mem _ htext)) hnext.rows)

end Sessions

end TableSchema
