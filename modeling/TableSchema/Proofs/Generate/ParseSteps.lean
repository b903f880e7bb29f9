import TableSchema.Proofs.Generate.LinePatterns
import TableSchema.Proofs.Table.Layouts

/-!
# Steps of generated parsers

What the generated parsers of tables and structs do is read off their lines, step after step, and
so are the texts that the lines have in quotes. A layout says which steps the parser of its table
has to take.
-/

namespace TableSchema

/-! ## Steps -/

/-- What the parser of a table does. -/
inductive ParseStep where
  /-- Says how many cells every line has. -/
  | columnCount (count : Nat)
  /-- Takes up the next line. -/
  | takeLine
  | checkCount
  | checkName (place : Nat) (name : String)
  /-- Requires a key, unless the line may continue a set of rows. -/
  | checkKey (place : Nat) (continues : Bool)
  /-- Decodes a cell as atoms of a type, or as records. -/
  | decode (place : Nat) (member : String) (type : Option FieldType) (isList : Bool)
  /-- Requires the key that was decoded to be new. -/
  | checkNew (member : String)
  /-- Puts the rows that were read into the place of those that the table held. -/
  | replaceRows
deriving DecidableEq, Repr

/-- What the parser of a struct does. -/
inductive FieldStep where
  | readField (member : String) (type : FieldType)
  /-- Requires the cell to have no more fields. -/
  | requireEnd
deriving DecidableEq, Repr

def DatumShape.atom? : DatumShape → Option FieldType
  | .atom type => some type
  | .record _ => none

namespace Layout

variable (layout : Layout) (member : String → String)

/-- The steps for a line that has some number of lines before it. What is read of a column goes to a
member that is called by the column's name in some way. -/
def lineSteps : Nat → List ParseStep
  | 0 => [.checkCount]
  | 1 => .checkCount ::
      layout.columns.zipIdx.map fun (column, place) => .checkName place column.name
  | _ => .checkCount :: .checkKey layout.keyIndex (layout.keyType = .set) ::
      (layout.columns.zipIdx.map fun (column, place) =>
        .decode place (member column.name) column.shape.atom? column.isList) ++
      [.checkNew (member layout.keyName)]

/-- All steps of a parser. Those for the third line are taken for all lines from there on. -/
def parseSteps : List ParseStep :=
  .columnCount layout.columns.length ::
    ((List.range 3).flatMap fun before => .takeLine :: layout.lineSteps member before) ++
    [.replaceRows]

/-- The names of the columns that hold records. -/
def recordNames : List String :=
  (layout.columns.filter (·.shape.atom?.isNone)).map ColumnLayout.name

end Layout

/-- The steps for a record. Records without fields are read from anything. -/
def recordSteps (member : String → String) (fields : List (String × FieldType)) :
    List FieldStep :=
  if fields.isEmpty then []
  else (fields.map fun (name, type) => .readField (member name) type) ++ [.requireEnd]

/-! ## Columns of layouts -/

theorem flatMap_ite_singleton {β γ : Type} (items : List β) (p : β → Bool) (f : β → γ) :
    (items.flatMap fun item => if p item then [f item] else []) = (items.filter p).map f := by
  induction items with
  | nil => rfl
  | cons item items ih =>
      rw [List.flatMap_cons, ih, List.filter_cons]
      split
      · rfl
      · rfl

theorem flatMap_zipIdx_fst {β γ : Type} (items : List β) (f : β → List γ) :
    (items.zipIdx.flatMap fun entry => f entry.1) = items.flatMap f := by
  conv_rhs => rw [← List.zipIdx_map_fst 0 items, List.flatMap_map]

theorem zipIdx_map_congr {β γ δ ε : Type} {items : List β} {others : List γ} {f : β → δ} {g : γ → δ}
    (hmap : items.map f = others.map g) (step : δ → Nat → ε) :
    (items.zipIdx.map fun (item, place) => step (f item) place) =
      others.zipIdx.map fun (other, place) => step (g other) place := by
  have hzip := congrArg (fun values => values.zipIdx.map fun (value, place) => step value place)
    hmap
  simpa [List.zipIdx_map, Function.comp_def] using hzip

/-- What a parser has to know of a column: its name, the type of its atoms, and whether it holds
lists of them. -/
theorem Schema.layout?_columns {schema : Schema} {table : Table} {layout : Layout}
    (hlayout : schema.layout? table = some layout) :
    (layout.columns.map fun column => (column.name, column.shape.atom?, column.isList)) =
      table.columns.toList.map fun column =>
        (column.name, column.valueType.atom?, column.isList) := by
  refine map_of_mapM_eq_some (Schema.layout?_eq_some hlayout).1 fun column result hresult => ?_
  obtain ⟨shape, hshape, rfl⟩ := Option.map_eq_some_iff.1 hresult
  unfold Schema.datumShape? at hshape
  cases htype : column.valueType.atom? with
  | some type =>
      rw [htype] at hshape
      obtain rfl := Option.some.inj hshape
      rfl
  | none =>
      rw [htype] at hshape
      obtain ⟨struct, -, rfl⟩ := Option.map_eq_some_iff.1 hshape
      rfl

/-- The names of columns that hold records. -/
def recordColumns (columns : List Column) : List String :=
  (columns.filter (·.valueType.atom?.isNone)).map (·.name)

theorem recordColumns_eq {schema : Schema} {table : Table} {layout : Layout}
    (hlayout : schema.layout? table = some layout) :
    recordColumns table.columns.toList = layout.recordNames := by
  have hcolumns := congrArg
    (fun columns => (columns.filter (Option.isNone ∘ (·.2.1))).map Prod.fst)
    (Schema.layout?_columns hlayout)
  simpa [List.filter_map, Function.comp_def, recordColumns, Layout.recordNames] using hcolumns.symm

/-! ## Steps for tables -/

namespace Table

variable (table : Table) (member : String → String)

def nameSteps : List ParseStep :=
  table.columns.toList.zipIdx.map fun (column, place) => .checkName place column.name

def cellSteps : List ParseStep :=
  table.columns.toList.zipIdx.map fun (column, place) =>
    .decode place (member column.name) column.valueType.atom? column.isList

/-- The steps for the data lines. -/
def dataSteps (continues : Bool) : List ParseStep :=
  .takeLine :: .checkCount :: .checkKey table.keyColumnIndex continues ::
    (table.cellSteps member ++ [.checkNew (member table.keyName)] ++ [.replaceRows])

/-- The steps that a layout asks for, said of the table that it was made from. -/
def parseSteps : List ParseStep :=
  .columnCount table.columns.toList.length :: .takeLine :: .checkCount :: .takeLine ::
    .checkCount :: (table.nameSteps ++ table.dataSteps member (table.keyType = .set))

end Table

theorem Layout.parseSteps_eq {schema : Schema} {table : Table} {layout : Layout}
    (hlayout : schema.layout? table = some layout) (member : String → String) :
    layout.parseSteps member = table.parseSteps member := by
  obtain ⟨-, -, hindex, hkeyName, hkeyType⟩ := Schema.layout?_eq_some hlayout
  have hcolumns := Schema.layout?_columns hlayout
  -- All that the steps ask of a column is the same for the layout and the table.
  have hlength : layout.columns.length = table.columns.toList.length := by
    simpa using congrArg List.length hcolumns
  have hnames : _ = table.nameSteps :=
    zipIdx_map_congr hcolumns fun (name, _) place => ParseStep.checkName place name
  have hcells : _ = table.cellSteps member :=
    zipIdx_map_congr hcolumns fun (name, type, isList) place =>
      ParseStep.decode place (member name) type isList
  dsimp only at hnames hcells
  rw [Layout.parseSteps, Table.parseSteps, Table.dataSteps, ← hnames, ← hcells, hlength, ← hindex,
    ← hkeyName, ← hkeyType]
  simp [List.range_succ, Layout.lineSteps]

namespace Generate

/-- The number that a word shows. -/
def numeral (word : String) : Nat :=
  Nat.ofDigitChars 10 word.toList 0

theorem numeral_toString (n : Nat) : numeral (toString n) = n := by
  rw [numeral, Nat.toString_eq_repr, Nat.toList_repr, Nat.ofDigitChars_ten_toDigits]

/-! ## What is read off lines -/

variable {α : Type} {grammar : LineGrammar α}

/-- What lines do, one after the other, if each of them is of a known kind. -/
def recognize (grammar : LineGrammar α) : Lines → Option (List α)
  | [] => some []
  | line :: rest => do
      let found ← readLine grammar.rules line.toList
      return found ++ (← recognize grammar rest)

/-- The texts in quotes, of which no line has more than one. -/
def quotedTexts (lines : Lines) : List String :=
  lines.filterMap fun line => quotedText line.toList

theorem recognize_append {lines others : Lines} {found more : List α}
    (hlines : recognize grammar lines = some found)
    (hothers : recognize grammar others = some more) :
    recognize grammar (lines ++ others) = some (found ++ more) := by
  induction lines generalizing found with
  | nil =>
      obtain rfl : [] = found := Option.some.inj hlines
      exact hothers
  | cons line lines ih =>
      simp only [recognize, Option.bind_eq_bind, Option.bind_eq_some_iff, pure,
        Option.some.injEq] at hlines
      obtain ⟨first, hfirst, rest, hrest, rfl⟩ := hlines
      rw [List.cons_append, recognize, hfirst, ih hrest]
      simp

theorem recognize_indent (lines : Lines) :
    recognize grammar (indent lines) = recognize grammar lines := by
  induction lines with
  | nil => rfl
  | cons line lines ih =>
      have hline : readLine grammar.rules (indentLine line).toList =
          readLine grammar.rules line.toList := by
        unfold readLine
        rw [tokens_indentLine]
      rw [indent, List.map_cons, recognize, hline, ← indent, ih, recognize]

/-- Lines do certain things and have certain texts in quotes. -/
structure Reads (grammar : LineGrammar α) (lines : Lines) (found : List α)
    (texts : List String) : Prop where
  found : recognize grammar lines = some found
  texts : quotedTexts lines = texts

/-- Lines that do nothing of interest. -/
abbrev Idle (grammar : LineGrammar α) (lines : Lines) : Prop :=
  Reads grammar lines [] []

namespace Reads

variable {lines others : Lines} {found more : List α} {texts otherTexts : List String}

theorem nil : Reads grammar [] [] [] := ⟨rfl, rfl⟩

theorem append (hlines : Reads grammar lines found texts)
    (hothers : Reads grammar others more otherTexts) :
    Reads grammar (lines ++ others) (found ++ more) (texts ++ otherTexts) where
  found := recognize_append hlines.found hothers.found
  texts := by
    rw [quotedTexts, List.filterMap_append]
    exact congrArg₂ _ hlines.texts hothers.texts

theorem append_idle (hlines : Reads grammar lines found texts) (hothers : Idle grammar others) :
    Reads grammar (lines ++ others) found texts := by
  have hboth := hlines.append hothers
  rwa [List.append_nil, List.append_nil] at hboth

/-- Lines without texts in quotes come last. -/
theorem append_found (hlines : Reads grammar lines found texts)
    (hothers : Reads grammar others more []) :
    Reads grammar (lines ++ others) (found ++ more) texts := by
  have hboth := hlines.append hothers
  rwa [List.append_nil] at hboth

theorem indent (hlines : Reads grammar lines found texts) :
    Reads grammar (indent lines) found texts where
  found := (recognize_indent lines).trans hlines.found
  texts := (filterMap_indent quotedText_indentLine lines).trans hlines.texts

theorem flatMap {β : Type} {items : List β} {lines : β → Lines} {found : β → List α}
    {texts : β → List String}
    (hitems : ∀ item ∈ items, Reads grammar (lines item) (found item) (texts item)) :
    Reads grammar (items.flatMap lines) (items.flatMap found) (items.flatMap texts) := by
  induction items with
  | nil => exact nil
  | cons item items ih =>
      obtain ⟨hitem, hitems⟩ := List.forall_mem_cons.1 hitems
      exact hitem.append (ih hitems)

/-- Lines between braces. -/
theorem blockWith (tail : String) {head : String}
    (hhead : Reads grammar [head ++ " \x7b"] found texts)
    (hbody : Reads grammar lines more otherTexts) (hclose : Idle grammar ["\x7d" ++ tail]) :
    Reads grammar (Generate.blockWith tail head lines) (found ++ more)
      (texts ++ otherTexts) :=
  (hhead.append hbody.indent).append_idle hclose

theorem block {head : String} (hhead : Reads grammar [head ++ " \x7b"] found texts)
    (hbody : Reads grammar lines more otherTexts) (hclose : Idle grammar ["\x7d"]) :
    Reads grammar (Generate.block head lines) (found ++ more) (texts ++ otherTexts) :=
  blockWith "" hhead hbody hclose

/-- A line that fits a rule does what the rule says. -/
theorem of_rule (rule : LineRule α) (words : List String) {line : String} (text? : Option String)
    (hmem : rule ∈ grammar.rules) (hline : line.toList = rule.pattern.fill words)
    (hlength : words.length = rule.pattern.others.length) (hwords : ∀ word ∈ words, Fitting word)
    (htext : quotedText line.toList = text?) :
    Reads grammar [line] (rule.meaning words) text?.toList where
  found := by
    have hfills : rule.pattern.Fills line.toList words :=
      ⟨hline, grammar.separated rule hmem, hlength, hwords⟩
    rw [recognize, readLine_of_fills grammar.exclusive hmem hfills]
    simp [recognize]
  texts := by
    rw [quotedTexts, List.filterMap_cons, htext]
    cases text? <;> rfl

theorem of_plain (rule : LineRule α) {line : String} {words : List String}
    (hmem : rule ∈ grammar.plain) (hline : line.toList = rule.pattern.fill words)
    (hlength : words.length = rule.pattern.others.length)
    (hwords : ∀ word ∈ words, Fitting word) : Reads grammar [line] (rule.meaning words) [] := by
  have hrule : rule ∈ grammar.rules :=
    List.mem_append_left _ (List.mem_append_left _ hmem)
  refine of_rule rule words none hrule hline hlength hwords (quotedText_of_not_mem ?_)
  rw [hline]
  exact (grammar.plain_plain rule hmem).quote_not_mem hwords

/-- A line that is always the same. -/
theorem of_fixed {line : String} {cs : List Char} (hline : line.toList = cs)
    (hmem : (cs, found) ∈ grammar.fixed) : Reads grammar [line] found [] := by
  have hrule : .fixed cs found ∈ grammar.rules :=
    List.mem_append_right _ (List.mem_map_of_mem hmem)
  refine of_rule (.fixed cs found) [] none hrule hline rfl (by simp)
    (quotedText_of_not_mem ?_)
  rw [hline]
  exact grammar.fixed_plain _ hmem

/-- A line has a number. -/
theorem of_number (rule : LineRule α) (act : Nat → α) (n : Nat) {before after : List Char}
    {line : String} (hrule : rule = .around before after fun word => act (numeral word))
    (hmem : rule ∈ grammar.plain) (hline : line.toList = rule.pattern.fill [toString n]) :
    Reads grammar [line] [act n] [] := by
  have hmeaning : rule.meaning [toString n] = [act n] := by
    subst hrule
    exact congrArg (fun number => [act number]) (numeral_toString n)
  rw [← hmeaning]
  exact of_plain rule hmem hline (by rw [hrule]; rfl)
    (List.forall_mem_singleton.2 (fitting_toString n))

theorem mem_rules_of_quoted {rule : LineRule α} (hmem : rule ∈ grammar.quoted) :
    rule ∈ grammar.rules :=
  List.mem_append_left _ (List.mem_append_right _ hmem)

/-- A line that is always the same, with a text in quotes. -/
theorem of_fixedQuoted (rule : LineRule α) {line text : String} (before cs after : List Char)
    (hmem : rule ∈ grammar.quoted)
    (hrule : rule = .idle (before ++ '"' :: (cs ++ '"' :: after)) [])
    (hline : line.toList = rule.pattern.start) (htext : text.toList = cs)
    (hquote : '"' ∉ before ++ cs) : Reads grammar [line] [] [text] := by
  rw [List.mem_append, not_or] at hquote
  subst hrule
  refine of_rule _ [] (some text) (mem_rules_of_quoted hmem) hline rfl (by simp) ?_
  rw [hline]
  exact quotedText_eq htext after hquote.1 hquote.2

/-- A line has a word in quotes together with what is around it. -/
theorem of_quoted (rule : LineRule α) {line word text : String}
    (before first last after : List Char) (hmem : rule ∈ grammar.quoted)
    (hpattern : rule.pattern = ⟨before ++ '"' :: first, [last ++ '"' :: after]⟩)
    (hline : line.toList = rule.pattern.fill [word]) (hword : Fitting word)
    (htext : text.toList = first ++ word.toList ++ last)
    (hquote : '"' ∉ before ++ first ++ last) :
    Reads grammar [line] (rule.meaning [word]) [text] := by
  rw [List.mem_append, List.mem_append, not_or, not_or] at hquote
  refine of_rule rule [word] (some text) (mem_rules_of_quoted hmem) hline (by rw [hpattern]; rfl)
    (List.forall_mem_singleton.2 hword) ?_
  rw [hline, hpattern]
  exact quotedText_around hword after htext hquote.1.1 hquote.1.2 hquote.2

/-- A line has its last word in quotes. -/
theorem of_lastQuoted (rule : LineRule α) (start : List Char) (others : List (List Char))
    (text after : List Char) (words : List String) {line word : String}
    (hmem : rule ∈ grammar.quoted)
    (hpattern : rule.pattern = ⟨start, others ++ [text ++ ['"'], '"' :: after]⟩)
    (hplain : (Pattern.mk start (others ++ [text])).Plain)
    (hline : line.toList = rule.pattern.fill (words ++ [word]))
    (hlength : words.length = others.length + 1) (hwords : ∀ word ∈ words, Fitting word)
    (hword : Fitting word) : Reads grammar [line] (rule.meaning (words ++ [word])) [word] := by
  refine of_rule rule (words ++ [word]) (some word) (mem_rules_of_quoted hmem) hline
    (by simp [hpattern, hlength]) ?_ ?_
  · simpa [or_imp, forall_and, hword] using hwords
  · rw [hline, hpattern, Pattern.fill_quoted start others text after hlength]
    exact hplain.quotedText_fill hwords hword after

end Reads

end Generate

end TableSchema
