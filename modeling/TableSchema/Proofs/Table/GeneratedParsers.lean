import TableSchema.Proofs.Generate.CppParsers
import TableSchema.Proofs.Generate.RustParsers
import TableSchema.Proofs.Table.FirstFault

/-!
# Generated parsers read tables

The lines of a generated parser take certain steps. Each step checks a line in one respect or
decodes one of its cells, and these are all checks that are made when a table is read, and all cells
that are decoded, in their order. So what stands in the generated code settles how tables are read.
-/

namespace TableSchema

open Reading

/-! ## What steps check and decode -/

namespace ParseStep

variable (rules : Rules) (layout : Layout)

/-- The cell that a step decodes, and how: by the types that the step names, or as records of its
column. -/
def decoded? (cells : Cells) : ParseStep → Option (ColumnLayout × List Char)
  | .decode place _ type isList =>
      layout.columns[place]?.bind fun column => cells[place]?.map fun cell =>
        ({ column with shape := (type.map .atom).getD column.shape, isList }, cell)
  | _ => none

/-- What a step checks in a line, given the lines before it. -/
def check? (before : List Cells) (cells : Cells) : ParseStep → Option Check
  | .checkCount => some (countCheck layout (before.length + 1) cells)
  | .checkName place name =>
      some ⟨cells[place]? = some name.toList, .columnName (place + 1) name⟩
  | .checkKey place continues =>
      some ⟨cells.getD place [] ≠ [] || (continues && headLines layout (before.drop 2) ≠ []),
        .emptyKey (before.length + 1) layout.keyName⟩
  | .checkNew _ => some (newKeyCheck rules layout (before.length + 1) (before.drop 2) cells)
  | step =>
      (step.decoded? layout cells).map fun (column, cell) =>
        ⟨(rules.readValue column cell).isSome, .invalidValue (before.length + 1) column.name⟩

end ParseStep

/-- The steps for a data line. -/
theorem Layout.lineSteps_add_two (layout : Layout) (member : String → String) (before : Nat) :
    layout.lineSteps member (before + 2) =
      .checkCount :: .checkKey layout.keyIndex (layout.keyType = .set) ::
        (layout.columns.zipIdx.map fun (column, place) =>
          .decode place (member column.name) column.shape.atom? column.isList) ++
        [.checkNew (member layout.keyName)] :=
  rfl

/-- What is checked in a line by the steps for it. -/
def Layout.stepChecks (layout : Layout) (member : String → String) (rules : Rules)
    (before : List Cells) (cells : Cells) : List Check :=
  (layout.lineSteps member before.length).filterMap (ParseStep.check? rules layout before cells)

theorem zip_eq_filterMap {β γ : Type} (items : List β) (others : List γ) :
    items.zip others = items.zipIdx.filterMap fun (item, place) =>
      others[place]?.map fun other => (item, other) := by
  -- Places are counted from any number, for the rest of the items is counted from the next one.
  suffices ∀ n, items.zip (others.drop n) = (items.zipIdx n).filterMap fun (item, place) =>
      others[place]?.map fun other => (item, other) from this 0
  induction items with
  | nil => simp
  | cons item items ih =>
      intro n
      rw [List.zipIdx_cons, List.filterMap_cons, ← ih (n + 1)]
      dsimp only
      cases hother : others[n]? with
      | none =>
          have hlength := List.getElem?_eq_none_iff.1 hother
          rw [List.drop_eq_nil_of_le hlength, List.drop_eq_nil_of_le (Nat.le_succ_of_le hlength)]
          simp
      | some other =>
          obtain ⟨hlt, rfl⟩ := List.getElem?_eq_some_iff.1 hother
          rw [List.drop_eq_getElem_cons hlt]
          rfl

section Steps

variable (rules : Rules) (layout : Layout)

theorem shape_of_atom? (shape : DatumShape) :
    (shape.atom?.map DatumShape.atom).getD shape = shape := by
  cases shape with
  | atom type => rfl
  | record fields => rfl

/-- The steps for a line decode the cell of each column. -/
theorem filterMap_decoded? (cells : Cells) (member : String → String) :
    (layout.columns.zipIdx.map fun (column, place) =>
        ParseStep.decode place (member column.name) column.shape.atom? column.isList).filterMap
      (ParseStep.decoded? layout cells) = layout.columns.zip cells := by
  rw [List.filterMap_map, zip_eq_filterMap]
  refine List.filterMap_congr fun (column, place) hmem => ?_
  have hcolumn : layout.columns[place]? = some column := List.mk_mem_zipIdx_iff_getElem?.1 hmem
  rw [Function.comp_apply, ParseStep.decoded?, hcolumn, Option.bind_some, shape_of_atom?]

theorem valueChecks_eq (before : List Cells) (cells : Cells) (member : String → String) :
    (layout.columns.zipIdx.map fun (column, place) =>
        ParseStep.decode place (member column.name) column.shape.atom? column.isList).filterMap
      (ParseStep.check? rules layout before cells) =
        valueChecks rules layout (before.length + 1) cells := by
  rw [valueChecks, ← filterMap_decoded? layout cells member, List.map_filterMap, List.filterMap_map,
    List.filterMap_map]
  rfl

/-- The checks of the steps for a line are all of its checks. -/
theorem stepChecks_eq_lineChecks (member : String → String) :
    layout.stepChecks member rules = lineChecks rules layout := by
  funext before cells
  unfold Layout.stepChecks
  -- How many lines come before tells the header lines from the data lines.
  match before with
  | [] => rfl
  | [comment] =>
      rw [List.length_singleton, Layout.lineSteps, List.filterMap_cons, List.filterMap_map,
        lineChecks, nameChecks, ← List.filterMap_eq_map]
      rfl
  | comment :: names :: earlier =>
      have hvalues := valueChecks_eq rules layout (comment :: names :: earlier) cells member
      rw [List.length_cons, List.length_cons, layout.lineSteps_add_two, List.filterMap_append,
        List.filterMap_cons, List.filterMap_cons, hvalues]
      simp [ParseStep.check?, lineChecks, dataChecks, keyCheck, keyCell]

/-- The row of a line is what its steps decode. -/
theorem decode?_eq_mapM_steps (member : String → String) (before : Nat) (cells : Cells) :
    decode? rules layout cells =
      ((layout.lineSteps member (before + 2)).filterMap (ParseStep.decoded? layout cells)).mapM
        fun (column, cell) => rules.readValue column cell := by
  have hkeyStep : [ParseStep.checkNew (member layout.keyName)].filterMap
      (ParseStep.decoded? layout cells) = [] := rfl
  rw [layout.lineSteps_add_two, List.filterMap_append, List.filterMap_cons, List.filterMap_cons,
    filterMap_decoded?, hkeyStep, List.append_nil]
  rfl

end Steps

/-! ## Records -/

namespace FieldStep

variable (rules : Rules)

/-- What a step reads of a record, and the splitter after it. -/
def run (s : Splitter) : FieldStep → Option (List Atom × Splitter)
  | .readField _ type =>
      (rules.next? s).map fun (token, t) => ([rules.readAtom type token], t)
  | .requireEnd => if (rules.next? s).isSome then none else some ([], s)

/-- What steps read in turn. -/
def runEach : List FieldStep → Splitter → Option (List Atom)
  | [], _ => some []
  | step :: rest, s => do
      let (atoms, t) ← step.run rules s
      return atoms ++ (← runEach rest t)

theorem runEach_readFields (member : String → String) (fields : List (String × FieldType))
    (s : Splitter) :
    runEach rules ((fields.map fun (name, type) => .readField (member name) type) ++
        [.requireEnd]) s =
      (rules.readFields fields s).bind fun (atoms, t) =>
        if (rules.next? t).isSome then none else some atoms := by
  induction fields generalizing s with
  | nil =>
      rw [List.map_nil, List.nil_append, runEach, run, Rules.readFields, Option.bind_some]
      dsimp only
      split
      · rfl
      · rfl
  | cons field fields ih =>
      obtain ⟨name, type⟩ := field
      rw [List.map_cons, List.cons_append, runEach, run, Rules.readFields]
      cases rules.next? s with
      | none => rfl
      | some next =>
          obtain ⟨token, t⟩ := next
          simp only [Option.map_some, Option.bind_eq_bind, Option.bind_some, ih]
          cases rules.readFields fields t with
          | none => rfl
          | some result =>
              obtain ⟨atoms, u⟩ := result
              simp only [Option.bind_some, pure]
              split
              · rfl
              · rfl

/-- Records are read by the steps for them. -/
theorem readRecord_eq_runEach (member : String → String) (fields : List (String × FieldType))
    (text : List Char) :
    rules.readRecord fields text =
      runEach rules (recordSteps member fields) (.ofText text Rules.fieldDelimiter) := by
  unfold Rules.readRecord recordSteps
  split
  · rfl
  · rw [runEach_readFields]
    rfl

end FieldStep

/-! ## Whole parsers -/

open Generate

/-- The lines of the generated parsers take the steps that a layout asks for, in its order, and have
the names and formats in quotes that they complain with. -/
structure ParsersFollow (schema : Schema) (table : Table) (key : Column) (layout : Layout) :
    Prop where
  cppSteps : Cpp.parseSteps? (Cpp.parseFunction table key) = some (layout.parseSteps id)
  cppTexts : quotedTexts (Cpp.parseFunction table key) = Cpp.parserTexts layout
  rustSteps : recognize Rust.tableGrammar (Rust.parseFunction schema table key) =
    some (layout.parseSteps Rust.escape)
  rustTexts : quotedTexts (Rust.parseFunction schema table key) = Rust.parserTexts layout
  structs : ∀ struct ∈ schema.globalStructs.toList ++ table.localStructs.toList,
    let fields := struct.fields.toList.map fun field => (field.name, field.type)
    recognize Cpp.structGrammar (Cpp.structParse struct) = some (recordSteps id fields) ∧
      recognize Rust.structGrammar (Rust.structParse struct) =
        some (recordSteps Rust.escape fields)

/-- The steps of a layout settle how tables are read by some rules. -/
structure StepsRead (rules : Rules) (layout : Layout) : Prop where
  lines : ∀ member lines, 2 ≤ lines.length →
    readLines rules layout lines =
      verdict (linesFault (layout.stepChecks member rules) [] lines)
        (contentOf rules layout (lines.drop 2))
  rows : ∀ member before cells, decode? rules layout cells =
    ((layout.lineSteps member (before + 2)).filterMap (ParseStep.decoded? layout cells)).mapM
      fun (column, cell) => rules.readValue column cell
  records : ∀ member fields text, rules.readRecord fields text =
    FieldStep.runEach rules (recordSteps member fields) (.ofText text Rules.fieldDelimiter)

theorem stepsRead {layout : Layout} (hsound : layout.Sound) (rules : Rules) :
    StepsRead rules layout where
  lines member lines hheader := by
    rw [stepChecks_eq_lineChecks]
    exact readLines_eq_verdict hsound.keyIndex_lt hheader
  rows := decode?_eq_mapM_steps rules layout
  records := FieldStep.readRecord_eq_runEach rules

theorem Schema.WellFormed.parserNames {schema : Schema} (hwell : schema.WellFormed) {table : Table}
    (htable : table ∈ schema.tables.toList) : Rust.ParserNames schema table where
  columns column hcolumn := (hwell.tables table htable).columnNames.identifiers column.name
    (List.mem_map_of_mem hcolumn)
  key := by
    obtain ⟨key, hkey, hname, -⟩ := (hwell.tables table htable).key
    rw [← hname]
    exact (hwell.tables table htable).columnNames.identifiers key.name
      (List.mem_map_of_mem (List.mem_of_getElem? hkey))
  records column hcolumn htype := by
    have hshape := ((hwell.tables table htable).columns column hcolumn).datumShape?_isSome
    rw [Schema.datumShape?, htype, Option.isSome_map] at hshape
    obtain ⟨struct, hstruct⟩ := Option.isSome_iff_exists.1 hshape
    obtain ⟨ref, -, hselects⟩ := Option.bind_eq_some_iff.1 hstruct
    exact ⟨struct, hstruct, hwell.structName (hwell.tables table htable) hselects⟩

theorem Schema.WellFormed.fittingFields {schema : Schema} (hwell : schema.WellFormed)
    {table : Table} (htable : table ∈ schema.tables.toList) {struct : Struct}
    (hstruct : struct ∈ schema.globalStructs.toList ++ table.localStructs.toList) :
    ∀ field ∈ struct.fields.toList, Fitting field.name := by
  have hfields : ProperNames struct.fields.names := by
    rcases List.mem_append.1 hstruct with hglobal | hlocal
    · exact (hwell.globalStructs struct hglobal).fields
    · exact ((hwell.tables table htable).localStructs struct hlocal).fields
  exact fun field hfield =>
    fitting_of_identifier (hfields.identifiers _ (List.mem_map_of_mem hfield))

/-- The parsers that are generated for a table of a verified schema follow its layout. -/
theorem Schema.WellFormed.parsersFollow {schema : Schema} (hwell : schema.WellFormed)
    {table : Table} (htable : table ∈ schema.tables.toList) {layout : Layout}
    (hlayout : schema.layout? table = some layout) :
    ∃ key, table.keyColumn? = some key ∧ ParsersFollow schema table key layout := by
  obtain ⟨key, hkey, hname, -⟩ := (hwell.tables table htable).key
  obtain ⟨-, ⟨column, hcolumn, htype⟩, -⟩ := Schema.layout?_eq_some hlayout
  obtain rfl : key = column := Option.some.inj (hkey.symm.trans hcolumn)
  have hnames := hwell.parserNames htable
  have hfitting : ∀ column ∈ table.columns.toList, Fitting column.name :=
    fun column hmem => fitting_of_identifier (hnames.columns column hmem)
  have htableName : Fitting table.name := fitting_of_identifier <|
    hwell.globalNames.identifiers _ (List.mem_append_right _ (List.mem_map_of_mem htable))
  have hmem : key ∈ table.columns.toList := List.mem_of_getElem? hkey
  refine ⟨key, hkey, ?_, ?_, ?_, ?_, fun struct hstruct => ⟨?_, ?_⟩⟩
  · exact Cpp.parseSteps?_parseFunction hlayout htableName hfitting hmem hname htype
  · exact Cpp.quotedTexts_parseFunction hlayout htableName hfitting hmem hname htype
  · exact Rust.recognize_parseFunction hlayout hnames
  · exact Rust.quotedTexts_parseFunction hlayout hnames
  · exact (Cpp.reads_structParse (hwell.fittingFields htable hstruct)).found
  · exact (Rust.reads_structParse (hwell.fittingFields htable hstruct)).found

end TableSchema
