import TableSchema.Proofs.Generate.Mentions
import TableSchema.Proofs.Generate.PrintableRust

/-!
# Imports of Rust modules

The names that a module imports from the runtime are read off its lines, and so are the bodies of
its implementations of `ParseValue`. A module imports a splitter and the delimiter of structs just
if one of these bodies constructs a splitter, and `ParseValue` just if it implements it or calls it
for a cell.
-/

namespace TableSchema.Generate.Rust

variable {schema : Schema} {table : Table} {struct : Struct} {column key : Column}

/-! ## What is read -/

/-- The start of a line that imports names of the runtime. -/
def runtimeOpening : String := "use tablekit_runtime::"

/-- The start of a line that opens an implementation of `ParseValue`. -/
def implOpening : String := "impl ParseValue for "

/-- The names in a text, which are parted by anything that cannot stand in a name. -/
def namesIn (text : List Char) : List String :=
  ((text.splitOnP (!isIdentifierPart ·)).filter (!·.isEmpty)).map String.ofList

/-- The names that a line imports from the runtime. -/
def importedNames (line : String) : List String :=
  ((line.toList.dropPrefix? runtimeOpening.toList).map namesIn).getD []

/-- The names that the lines of a module import from the runtime. -/
def runtimeNames (lines : Lines) : List String :=
  lines.flatMap importedNames

/-- The bodies of the implementations of `ParseValue` in the lines of a module. -/
def parseImpls : Lines → List Lines
  | [] => []
  | line :: rest =>
      if implOpening.toList <+: line.toList then
        rest.takeWhile (· ≠ "\x7d") :: parseImpls rest
      else parseImpls rest

/-- Some implementation of `ParseValue` in the lines of a module constructs a splitter. -/
def ConstructsSplitter (lines : Lines) : Prop :=
  ∃ body ∈ parseImpls lines, ∃ line ∈ body, Mentions "ColumnSplitter::new(" line

/-- A cell is read by the `parse` of a struct. -/
def DecodesCell (line : String) : Prop :=
  Mentions "::parse(&line[" line

/-- The lines of a module import the names of the runtime that structs need just if they use
them. -/
structure ImportsUsed (lines : Lines) : Prop where
  splitter : "ColumnSplitter" ∈ runtimeNames lines ↔ ConstructsSplitter lines
  delimiter : "STRUCT_DELIMITER" ∈ runtimeNames lines ↔ ConstructsSplitter lines
  parseValue : "ParseValue" ∈ runtimeNames lines ↔
    parseImpls lines ≠ [] ∨ ∃ line ∈ lines, DecodesCell line

/-! ## Names in lines -/

theorem namesIn_append_cons {c : Char} (hc : isIdentifierPart c = false) (first rest : List Char) :
    namesIn (first ++ c :: rest) = namesIn first ++ namesIn rest := by
  rw [namesIn, List.splitOnP_append_cons _ _ (by simpa using hc), List.filter_append,
    List.map_append]
  rfl

theorem namesIn_word {word : String} (hword : IsWord word) (hne : word ≠ "") :
    namesIn word.toList = [word] := by
  have hsingle : word.toList.splitOnP (!isIdentifierPart ·) = [word.toList] :=
    List.splitOnP_eq_singleton fun c hc => by simpa using hword c hc
  rw [namesIn, hsingle]
  simp [hne]

theorem namesIn_joined {words : List String} (hwords : ∀ word ∈ words, IsWord word ∧ word ≠ "") :
    namesIn (joined ", " words).toList = words := by
  induction words with
  | nil => decide
  | cons word rest ih =>
      obtain ⟨⟨hword, hne⟩, hrest⟩ := List.forall_mem_cons.1 hwords
      cases rest with
      | nil => simpa [joined] using namesIn_word hword hne
      | cons next rest =>
          have hsplit : (joined ", " (word :: next :: rest)).toList =
              word.toList ++ ',' :: ([] ++ ' ' :: (joined ", " (next :: rest)).toList) := by
            simp [joined, String.intercalate_cons_cons]
          rw [hsplit, namesIn_append_cons (by decide), namesIn_append_cons (by decide), ih hrest,
            namesIn_word hword hne]
          rfl

theorem importedNames_opening (rest : String) :
    importedNames ("use tablekit_runtime::" ++ rest) = namesIn rest.toList := by
  rw [importedNames, String.toList_append, runtimeOpening,
    List.dropPrefix?_append_of_beq _ (beq_self_eq_true _)]
  rfl

theorem importedNames_joined {words : List String}
    (hwords : ∀ word ∈ words, IsWord word ∧ word ≠ "") :
    importedNames ("use tablekit_runtime::\x7b" ++ joined ", " words ++ "\x7d;") = words := by
  have hopening : "use tablekit_runtime::\x7b" = "use tablekit_runtime::" ++ "\x7b" := rfl
  have hbraces : ("\x7b" ++ (joined ", " words ++ "\x7d;")).toList =
      [] ++ '\x7b' :: ((joined ", " words).toList ++ '\x7d' :: ([] ++ ';' :: [])) := by simp
  rw [hopening, String.append_assoc, String.append_assoc, importedNames_opening, hbraces,
    namesIn_append_cons (by decide), namesIn_append_cons (by decide),
    namesIn_append_cons (by decide), namesIn_joined hwords]
  exact List.append_nil _

/-! ## Lines at the top of a module -/

/-- A line that neither imports names of the runtime nor implements `ParseValue`. -/
structure Quiet (line : String) : Prop where
  imports : ¬ runtimeOpening.toList <+: line.toList
  implements : ¬ implOpening.toList <+: line.toList

theorem quiet_indentLine (line : String) : Quiet (indentLine line) where
  imports := identifierAfter_eq_none_iff.1 <|
    identifierAfter_indentLine_of_head (c := 'u') (by decide) (by decide) line
  implements := identifierAfter_eq_none_iff.1 <|
    identifierAfter_indentLine_of_head (c := 'i') (by decide) (by decide) line

/-- A line that starts with another letter. -/
theorem quiet_of_head {line : String} (himports : line.toList.head? ≠ some 'u')
    (himplements : line.toList.head? ≠ some 'i') : Quiet line where
  imports := by
    rintro ⟨rest, hline⟩
    exact himports (hline ▸ rfl)
  implements := by
    rintro ⟨rest, hline⟩
    exact himplements (hline ▸ rfl)

/-- A line that is written out in the generator. -/
theorem quiet_ofList {cs : List Char} (hhead : cs.head? ≠ some 'u' ∧ cs.head? ≠ some 'i') :
    Quiet (String.ofList cs) := by
  apply quiet_of_head <;> rw [String.toList_ofList]
  exacts [hhead.1, hhead.2]

theorem quiet_ofList_append {c : Char} {cs : List Char} (hhead : c ≠ 'u' ∧ c ≠ 'i')
    (rest : String) : Quiet (String.ofList (c :: cs) ++ rest) := by
  apply quiet_of_head <;> rw [String.toList_append, String.toList_ofList]
  exacts [fun h => hhead.1 (Option.some.inj h), fun h => hhead.2 (Option.some.inj h)]

/-- A line that starts otherwise than an opening does. -/
theorem not_prefix_ofList {os cs : List Char} (hstarts : ¬ os <+: cs) :
    ¬ (String.ofList os).toList <+: (String.ofList cs).toList := by
  rw [String.toList_ofList, String.toList_ofList]
  exact hstarts

/-- An `impl` of a type is no implementation of `ParseValue`, even for a type of that name. -/
theorem quiet_impl {name : String} (hname : IsWord name) : Quiet ("impl " ++ name ++ " \x7b") where
  imports := by
    rw [String.append_assoc]
    exact identifierAfter_eq_none_iff.1 (identifierAfter_of_start (by decide) _)
  implements := by
    rintro ⟨rest, hrest⟩
    have hline : "impl " ++ name ++ " \x7b" =
        "impl " ++ "ParseValue" ++ (" for " ++ String.ofList rest) := by
      apply String.toList_inj.1
      rw [← hrest]
      simp [implOpening]
    have hfound : identifierAfter "impl " ("impl " ++ name ++ " \x7b") = some "ParseValue" := by
      rw [hline]
      exact identifierAfter_append (by decide) (head?_append_any (by decide) (by decide) _)
    rw [identifierAfter_append hname (by decide), Option.some_inj] at hfound
    subst hfound
    have hname : ¬ implOpening.toList <+: "impl ParseValue \x7b".toList :=
      not_prefix_ofList (by decide)
    exact hname ⟨rest, hrest⟩

theorem quiet_block {head : String} (hhead : Quiet (head ++ " \x7b")) (body : Lines) :
    ∀ line ∈ block head body, Quiet line :=
  forall_mem_block.2 ⟨hhead, fun line _ => quiet_indentLine line, quiet_ofList (by decide)⟩

theorem finds_noImpls {lines : Lines}
    (hlines : ∀ line ∈ lines, ¬ implOpening.toList <+: line.toList) : Finds parseImpls lines [] :=
  finds_nothing (fun _ hline rest => by rw [parseImpls, if_neg hline]) hlines

theorem finds_quiet {lines : Lines} (hlines : ∀ line ∈ lines, Quiet line) :
    Finds parseImpls lines [] :=
  finds_noImpls fun line hmem => (hlines line hmem).implements

theorem finds_blank : Finds parseImpls [""] [] :=
  finds_quiet (List.forall_mem_singleton.2 (quiet_ofList (by decide)))

theorem finds_impl (name : String) (body : Lines) :
    Finds parseImpls (block (implOpening ++ name) body) [indent body] := by
  intro rest
  have hhead : implOpening.toList <+: (implOpening ++ name ++ " \x7b").toList := by
    rw [String.append_assoc, String.toList_append]
    exact List.prefix_append _ _
  have hbody : Finds parseImpls (indent body ++ ["\x7d"]) [] := by
    refine finds_quiet ?_
    rw [List.forall_mem_append, forall_mem_indent, List.forall_mem_singleton]
    exact ⟨fun line _ => quiet_indentLine line, quiet_ofList (by decide)⟩
  have hrest := hbody rest
  have hlines : block (implOpening ++ name) body ++ rest =
      (implOpening ++ name ++ " \x7b") :: (indent body ++ "\x7d" :: rest) := by
    simp [block, blockWith]
  rw [List.append_assoc, List.singleton_append] at hrest
  rw [hlines, parseImpls, if_pos hhead, takeWhile_indent, hrest]
  rfl

theorem importedNames_of_quiet {line : String} (hline : ¬ runtimeOpening.toList <+: line.toList) :
    importedNames line = [] := by
  have hnone := identifierAfter_eq_none_iff.2 hline
  rw [identifierAfter, Option.map_eq_none_iff] at hnone
  rw [importedNames, hnone]
  rfl

theorem runtimeNames_eq_nil {lines : Lines}
    (hlines : ∀ line ∈ lines, ¬ runtimeOpening.toList <+: line.toList) : runtimeNames lines = [] :=
  List.flatMap_eq_nil_iff.2 fun line hmem => importedNames_of_quiet (hlines line hmem)

theorem quiet_heading : ∀ line ∈ heading, Quiet line := by
  simp only [heading, List.forall_mem_cons, List.not_mem_nil, false_imp_iff, implies_true, and_true]
  exact ⟨quiet_ofList (by decide), quiet_ofList (by decide), quiet_ofList (by decide)⟩

theorem runtimeNames_heading : runtimeNames heading = [] :=
  runtimeNames_eq_nil fun line hmem => (quiet_heading line hmem).imports

theorem runtimeNames_append (lines others : Lines) :
    runtimeNames (lines ++ others) = runtimeNames lines ++ runtimeNames others :=
  List.flatMap_append

/-! ## Structs -/

theorem quiet_structDefinition (struct : Struct) :
    ∀ line ∈ structDefinition struct, Quiet line := by
  have hhead (last : String) : Quiet ("pub struct " ++ escape struct.name ++ last) := by
    rw [String.append_assoc]
    exact quiet_ofList_append (by decide) _
  unfold structDefinition
  dsimp only
  rw [List.forall_mem_append, List.forall_mem_singleton]
  refine ⟨quiet_ofList (by decide), ?_⟩
  split
  · exact List.forall_mem_singleton.2 (hhead _)
  · exact quiet_block (hhead _) _

theorem finds_structItems (struct : Struct) :
    Finds parseImpls (structItems struct) [indent (structParse struct)] :=
  ((finds_quiet (quiet_structDefinition struct)).append finds_blank).append (finds_impl _ _)

theorem not_imports_structItems (struct : Struct) :
    ∀ line ∈ structItems struct, ¬ runtimeOpening.toList <+: line.toList := by
  have hhead : ¬ runtimeOpening.toList <+:
      ("impl ParseValue for " ++ escape struct.name ++ " \x7b").toList := by
    rw [String.append_assoc]
    rintro ⟨rest, hrest⟩
    have hfirst := congrArg List.head? hrest
    simp [runtimeOpening] at hfirst
  rw [structItems, List.forall_mem_append, List.forall_mem_append, List.forall_mem_singleton,
    forall_mem_block]
  exact ⟨⟨fun line hmem => (quiet_structDefinition struct line hmem).imports,
    (quiet_ofList (by decide)).imports⟩, hhead, fun line _ => (quiet_indentLine line).imports,
    (quiet_ofList (by decide)).imports⟩

/-- A struct is parsed with a splitter if it has fields. -/
theorem exists_splitter_iff (struct : Struct) :
    (∃ line ∈ indent (structParse struct), Mentions "ColumnSplitter::new(" line) ↔
      struct.fields.toList.isEmpty = false := by
  unfold structParse
  split
  next hempty =>
    simp only [hempty, Bool.true_eq_false, iff_false]
    have hlines : ∀ line ∈ indent (block "fn parse(_text: &str) -> Option<Self>"
        ["Some(Self \x7b\x7d)"]), Without ['C'] line := by
      simp only [forall_mem_indent, forall_mem_block, List.forall_mem_singleton,
        without_indentLine (by decide : ' ' ∉ ['C']), String.reduceAppend]
      and_intros <;> exact only_ofList rfl
    rintro ⟨line, hmem, hmentions⟩
    exact not_mentions_of_not_mem (c := 'C') (by decide) ((hlines line hmem).not_mem (by decide))
      hmentions
  next hfields =>
    simp only [Bool.not_eq_true] at hfields
    refine iff_of_true ⟨indentLine (indentLine
      "let mut s = ColumnSplitter::new(text, STRUCT_DELIMITER);"), ?_, ?_⟩ hfields
    · apply List.mem_map_of_mem
      simp [block, blockWith, indent]
    · rw [mentions_indentLine (c := 'C') (by decide) (by decide),
        mentions_indentLine (c := 'C') (by decide) (by decide)]
      exact mentions_ofList (by decide)

theorem parseImpls_structModule (struct : Struct) :
    parseImpls (structModule struct) = [indent (structParse struct)] := by
  have hhead : Finds parseImpls (heading ++ structImports struct ++ [""]) [] := by
    have himports : ∀ line ∈ structImports struct, ¬ implOpening.toList <+: line.toList := by
      unfold structImports
      split <;> exact List.forall_mem_singleton.2 (not_prefix_ofList (by decide))
    exact ((finds_quiet quiet_heading).append (finds_noImpls himports)).append finds_blank
  exact (hhead.append (finds_structItems struct)).read_eq rfl

theorem runtimeNames_structModule (struct : Struct) :
    runtimeNames (structModule struct) =
      if struct.fields.toList.isEmpty then ["ParseValue"]
      else ["ColumnSplitter", "ParseValue", "STRUCT_DELIMITER"] := by
  have himports : runtimeNames (structImports struct) =
      if struct.fields.toList.isEmpty then ["ParseValue"]
      else ["ColumnSplitter", "ParseValue", "STRUCT_DELIMITER"] := by
    have hwords : ∀ word ∈ ["ColumnSplitter", "ParseValue", "STRUCT_DELIMITER"],
        IsWord word ∧ word ≠ "" := by
      simp only [List.forall_mem_cons, List.not_mem_nil, false_imp_iff, implies_true, and_true]
      exact ⟨⟨isWord_ofList rfl, by simp⟩, ⟨isWord_ofList rfl, by simp⟩, isWord_ofList rfl, by simp⟩
    have hall : "use tablekit_runtime::\x7bColumnSplitter, ParseValue, STRUCT_DELIMITER\x7d;" =
        "use tablekit_runtime::\x7b" ++
          joined ", " ["ColumnSplitter", "ParseValue", "STRUCT_DELIMITER"] ++ "\x7d;" := rfl
    unfold structImports
    split
    · decide
    · rw [hall, runtimeNames, List.flatMap_singleton, importedNames_joined hwords]
  have hblank : runtimeNames [""] = [] :=
    runtimeNames_eq_nil (List.forall_mem_singleton.2 (quiet_ofList (by decide)).imports)
  rw [structModule, runtimeNames_append, runtimeNames_append, runtimeNames_append,
    runtimeNames_heading, himports, hblank, runtimeNames_eq_nil (not_imports_structItems struct),
    List.append_nil, List.append_nil, List.nil_append]

/-- The module of a struct imports just what it uses. -/
theorem importsUsed_structModule (struct : Struct) : ImportsUsed (structModule struct) := by
  have hconstructs : ConstructsSplitter (structModule struct) ↔
      struct.fields.toList.isEmpty = false := by
    rw [ConstructsSplitter, parseImpls_structModule, ← exists_splitter_iff]
    simp
  refine ⟨?_, ?_, ?_⟩
  · rw [hconstructs, runtimeNames_structModule]
    split <;> simp_all
  · rw [hconstructs, runtimeNames_structModule]
    split <;> simp_all
  · rw [parseImpls_structModule, runtimeNames_structModule]
    refine iff_of_true ?_ (.inl (List.cons_ne_nil _ _))
    split <;> simp

/-! ## Tables -/

theorem quiet_rowItems (schema : Schema) (table : Table) (key : Column) :
    ∀ line ∈ rowDefinition schema table ++ [""] ++ rowTypes schema table key, Quiet line := by
  have htypes : ∀ line ∈ rowTypes schema table key, Quiet line := by
    unfold rowTypes
    cases table.keyType with
    | single =>
        rw [List.forall_mem_singleton, String.append_assoc]
        exact quiet_ofList_append (by decide) _
    | set =>
        rw [List.forall_mem_cons, List.forall_mem_singleton, String.append_assoc]
        exact ⟨quiet_ofList (by decide), quiet_ofList_append (by decide) _⟩
  simp only [rowDefinition, List.forall_mem_append, List.forall_mem_singleton]
  exact ⟨⟨⟨quiet_ofList (by decide), quiet_block (quiet_ofList_append (by decide) _) _⟩,
    quiet_ofList (by decide)⟩, htypes⟩

theorem quiet_tableDefinition (table : Table) :
    ∀ line ∈ tableDefinition table, Quiet line := by
  have hhead : Quiet ("pub struct " ++ escape table.name ++ " \x7b") := by
    rw [String.append_assoc]
    exact quiet_ofList_append (by decide) _
  rw [tableDefinition, List.forall_mem_append, List.forall_mem_singleton]
  exact ⟨quiet_ofList (by decide), quiet_block hhead _⟩

theorem quiet_tableFunctions (hname : IsWord table.name) :
    ∀ line ∈ tableFunctions schema table key, Quiet line :=
  quiet_block (quiet_impl (isWord_escape hname)) _

/-- The implementations in the module of a table are those for its structs. -/
theorem parseImpls_tableModule (hname : IsWord table.name) :
    parseImpls (tableModule schema table key) =
      table.localStructs.toList.map fun struct => indent (structParse struct) := by
  have huse : ∀ line ∈ ["use std::collections::BTreeMap;",
      "use tablekit_runtime::\x7b" ++ joined ", " (runtimeImports table) ++ "\x7d;", ""],
      line.toList.head? ≠ some 'i' := by
    simp
  have hhead := (finds_quiet quiet_heading).append <| finds_noImpls fun line hmem ⟨rest, hrest⟩ =>
    huse line hmem (hrest ▸ rfl)
  have hstructs : List.Forall₂ (Finds parseImpls) (table.localStructs.toList.map structItems)
      (table.localStructs.toList.map fun struct => [indent (structParse struct)]) := by
    rw [List.forall₂_map_left_iff, List.forall₂_map_right_iff]
    exact List.forall₂_same.2 fun struct _ => finds_structItems struct
  have hrest : List.Forall₂ (Finds parseImpls)
      [rowDefinition schema table ++ [""] ++ rowTypes schema table key, tableDefinition table,
        tableFunctions schema table key] [[], [], []] :=
    .cons (finds_quiet (quiet_rowItems schema table key)) <|
      .cons (finds_quiet (quiet_tableDefinition table)) <|
      .cons (finds_quiet (quiet_tableFunctions hname)) .nil
  have hitems := finds_spaced finds_blank (List.rel_append hstructs hrest)
  have hall := (hhead.append hitems).read_eq rfl
  rw [tableModule, hall, List.flatten_append, ← List.flatMap_def, ← List.map_eq_flatMap]
  exact List.append_nil _

theorem isWord_of_mem_runtimeImports :
    ∀ word ∈ runtimeImports table, IsWord word ∧ word ≠ "" := by
  simp only [runtimeImports, List.forall_mem_append, forall_mem_linesIf, List.forall_mem_cons,
    List.not_mem_nil, false_imp_iff, implies_true, and_true]
  and_intros <;> intros <;>
    first | exact isWord_ofList rfl | exact ⟨isWord_ofList rfl, by simp⟩ | simp

theorem runtimeNames_tableModule (hname : IsWord table.name) :
    runtimeNames (tableModule schema table key) = runtimeImports table := by
  have hitems : runtimeNames (spaced (table.localStructs.toList.map structItems ++
      [rowDefinition schema table ++ [""] ++ rowTypes schema table key, tableDefinition table,
        tableFunctions schema table key])) = [] := by
    refine runtimeNames_eq_nil ((forall_mem_spaced (quiet_ofList (by decide)).imports).2 ?_)
    rw [List.forall_mem_append, List.forall_mem_map, List.forall_mem_cons, List.forall_mem_cons,
      List.forall_mem_singleton]
    exact ⟨fun struct _ => not_imports_structItems struct,
      fun line hmem => (quiet_rowItems schema table key line hmem).imports,
      fun line hmem => (quiet_tableDefinition table line hmem).imports,
      fun line hmem => (quiet_tableFunctions hname line hmem).imports⟩
  have huse : runtimeNames ["use std::collections::BTreeMap;",
      "use tablekit_runtime::\x7b" ++ joined ", " (runtimeImports table) ++ "\x7d;", ""] =
      runtimeImports table := by
    have hcollections : importedNames "use std::collections::BTreeMap;" = [] :=
      importedNames_of_quiet (not_prefix_ofList (by decide))
    have hblank : importedNames "" = [] := importedNames_of_quiet (quiet_ofList (by decide)).imports
    simp [runtimeNames, hcollections, hblank, importedNames_joined isWord_of_mem_runtimeImports]
  rw [tableModule, runtimeNames_append, runtimeNames_append, runtimeNames_heading, hitems, huse,
    List.nil_append, List.append_nil]

/-! ### Cells -/

theorem lineProperty_not_decodesCell : LineProperty fun line => ¬ DecodesCell line where
  indentLine _ := not_congr (mentions_indentLine (c := ':') (by decide) (by decide))
  unbracketed _ hline :=
    not_mentions_of_not_mem (c := '[') (by decide) (hline.not_mem (by decide))
  unreferenced _ hline :=
    not_mentions_of_not_mem (c := '&') (by decide) (hline.not_mem (by decide))

/-- A cell that is passed to another function is not read by the `parse` of a struct. -/
theorem not_decodesCell {start rest : String} {call : List Char} (hstart : Unbracketed start)
    (hcall : '[' ∉ call) (hrest : Unbracketed rest)
    (hapart : ¬ call <:+ [':', ':', 'p', 'a', 'r', 's', 'e', '(', '&', 'l', 'i', 'n', 'e'] ∧
      ¬ [':', ':', 'p', 'a', 'r', 's', 'e', '(', '&', 'l', 'i', 'n', 'e'] <:+ call) :
    ¬ DecodesCell (start ++ String.ofList call ++ "[" ++ rest) := by
  intro hdecodes
  have hwithin : [':', ':', 'p', 'a', 'r', 's', 'e', '(', '&', 'l', 'i', 'n', 'e'] ++ ['['] <:+:
      (start.toList ++ call) ++ '[' :: rest.toList := by
    simpa [DecodesCell, Mentions] using hdecodes
  have hbefore : '[' ∉ start.toList ++ call := by
    rw [List.mem_append, not_or]
    exact ⟨hstart.not_mem (by decide), hcall⟩
  have hsuffix := suffix_of_concat_infix hwithin hbefore (hrest.not_mem (by decide))
  rcases List.suffix_or_suffix_of_suffix hsuffix (List.suffix_append _ _) with h | h
  · exact hapart.2 h
  · exact hapart.1 h

/-- The cells that are read by the `parse` of a struct are those of the columns of that type. -/
theorem decodesCell_cellLine_iff (hwords : TableWords schema table)
    (hcolumn : column ∈ table.columns.toList) (hwell : column.WellFormed schema table)
    (index : Nat) : DecodesCell (cellLine schema table column index) ↔ column.type = .struct := by
  have hname := unbracketed_escape (hwords.columns column hcolumn)
  have hstart : Unbracketed (escape column.name ++ ": ") := only_append.2 ⟨hname, only_ofList rfl⟩
  have htype := unbracketed_valueType hwords hcolumn
  have hrest {last : String} (hlast : Unbracketed last) : Unbracketed (index.repr ++ last) :=
    only_append.2 ⟨unbracketed_repr index, hlast⟩
  have hend : Unbracketed (index.repr ++ "]),") := hrest (only_ofList rfl)
  rw [hwell.type_eq_struct_iff]
  unfold cellLine cellValue
  cases hkind : column.valueType <;> cases hlist : column.isList
  case int.false =>
    have hline : ¬ DecodesCell (escape column.name ++ ": " ++ "util::parse_int(&line" ++ "[" ++
        (index.repr ++ "]),")) := not_decodesCell hstart (by decide) hend (by decide)
    simpa [DecodesCell, Mentions] using hline
  case int.true =>
    have hline : ¬ DecodesCell (escape column.name ++ ": " ++ "util::read_int_list(&line" ++ "[" ++
        (index.repr ++ "]),")) := not_decodesCell hstart (by decide) hend (by decide)
    simpa [DecodesCell, Mentions] using hline
  case string.false =>
    have hline : ¬ DecodesCell (escape column.name ++ ": line" ++ "[" ++
        (index.repr ++ "].clone(),")) :=
      not_decodesCell hname (by decide) (hrest (only_ofList rfl)) (by decide)
    simpa [DecodesCell, Mentions] using hline
  case string.true =>
    have hline : ¬ DecodesCell (escape column.name ++ ": " ++ "util::read_string_list(&line" ++
        "[" ++ (index.repr ++ "]),")) := not_decodesCell hstart (by decide) hend (by decide)
    simpa [DecodesCell, Mentions] using hline
  case struct.false =>
    have hline := mentions_append (escape column.name ++ ": " ++ valueType schema table column)
      "::parse(&line[" (index.repr ++ "])" ++ orInvalid column ++ ",")
    simpa [DecodesCell, Mentions] using hline
  case struct.true =>
    have hlist : Unbracketed (escape column.name ++ ": " ++ "util::read_struct_list::<" ++
        valueType schema table column) :=
      only_append.2 ⟨only_append.2 ⟨hstart, only_ofList rfl⟩, htype⟩
    have hafter : Unbracketed (index.repr ++ ("])" ++ orInvalid column ++ ",")) :=
      hrest <| only_append.2 ⟨only_append.2 ⟨only_ofList rfl, unbracketed_orInvalid hwords hcolumn⟩,
        only_ofList rfl⟩
    have hline : ¬ DecodesCell (escape column.name ++ ": " ++ "util::read_struct_list::<" ++
        valueType schema table column ++ ">(&line" ++ "[" ++
        (index.repr ++ ("])" ++ orInvalid column ++ ","))) :=
      not_decodesCell hlist (by decide) hafter (by decide)
    simpa [DecodesCell, Mentions] using hline
  all_goals exact absurd hkind hwell.valueType_ne_list

theorem exists_decodesCell_iff (hwords : TableWords schema table)
    (hkey : key ∈ table.columns.toList)
    (hcolumns : ∀ column ∈ table.columns.toList, column.WellFormed schema table) :
    (∃ line ∈ tableModule schema table key, DecodesCell line) ↔
      ∃ column ∈ table.columns.toList, column.type = .struct := by
  have hframe := lineProperty_not_decodesCell.forall_mem_tableModule hwords hkey
  rw [← not_iff_not]
  push Not
  rw [hframe]
  constructor
  · intro hcells column hcolumn
    obtain ⟨index, hindex⟩ := List.mem_iff_getElem?.1 hcolumn
    exact fun hstruct => hcells (column, index) (List.mem_zipIdx_iff_getElem?.2 hindex) <|
      (decodesCell_cellLine_iff hwords hcolumn (hcolumns column hcolumn) index).2 hstruct
  · intro hnone entry hentry
    have hcolumn : entry.1 ∈ table.columns.toList := List.fst_mem_of_mem_zipIdx hentry
    rw [decodesCell_cellLine_iff hwords hcolumn (hcolumns _ hcolumn)]
    exact hnone _ hcolumn

/-- The module of a table imports just what it uses. -/
theorem importsUsed_tableModule (hwords : TableWords schema table)
    (hkey : key ∈ table.columns.toList)
    (hcolumns : ∀ column ∈ table.columns.toList, column.WellFormed schema table) :
    ImportsUsed (tableModule schema table key) := by
  have hconstructs : ConstructsSplitter (tableModule schema table key) ↔
      ∃ struct ∈ table.localStructs.toList, struct.fields.toList.isEmpty = false := by
    rw [ConstructsSplitter, parseImpls_tableModule hwords.name]
    simp [exists_splitter_iff]
  have hsplits : (table.localStructs.toList.any fun struct => !struct.fields.toList.isEmpty) =
      true ↔ ConstructsSplitter (tableModule schema table key) := by
    simp [hconstructs, List.any_eq_true]
  refine ⟨?_, ?_, ?_⟩ <;> rw [runtimeNames_tableModule hwords.name, runtimeImports]
  · rw [← hsplits]
    simp [linesIf]
  · rw [← hsplits]
    simp [linesIf]
  · rw [parseImpls_tableModule hwords.name, exists_decodesCell_iff hwords hkey hcolumns]
    simp [linesIf]

end TableSchema.Generate.Rust
